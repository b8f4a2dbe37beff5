/-
A pool of workers runs every job that it accepts once.

That no job is lost and none comes twice is in the books (`PoolRun.Sound`).  What is left is that
the pool gets there.  Every move that is due brings the end nearer (`Does.movesLeft_lt`), so after
some of them nothing is due, and then the queue is empty and nothing is in hand (`AtRest.settled`).
A worker that has nothing in hand takes a job or leaves, and one that has a job ends it, unless the
job waits for the others to go.  There is no second such job, so the others can go.
-/
import Lifecast.Proofs.WorkerPool.Steps

namespace Lifecast

namespace Interleaving

namespace PoolRun

variable {α : Type} {s t : PoolRun α} {m : PoolMove α} {threads : Nat}

/-! ### The end comes nearer -/

/-- How many moves are due at most. -/
def movesLeft (s : PoolRun α) : Nat :=
  s.pool.load + s.calls.countP (· == .waiting)

theorem movesLeft_le (s : PoolRun α) :
    s.movesLeft ≤ 3 * s.pool.queue.length + 3 * s.pool.workers.length + s.calls.length := by
  have hload := s.pool.load_le
  have hcalls := List.countP_le_length (p := (· == ShuttingDown.waiting)) (l := s.calls)
  unfold WorkerPool.movesLeft at hload
  unfold movesLeft
  omega

theorem Does.movesLeft_lt (h : Does s m t) (hdue : m.isDue = true) :
    t.movesLeft < s.movesLeft := by
  unfold movesLeft WorkerPool.load
  cases h with
  | accepts | refuses | shuts | finds => cases hdue
  | joins hcall hgone =>
      have hcount := (OneMoved.of_set hcall .joined).countP (· == .waiting)
      change _ + 1 = _ + 0 at hcount
      dsimp only
      omega
  | @takes i job rest hidle hqueue =>
      have hload := WorkerPool.sum_load_set hidle (.busy job)
      change _ + 1 = _ + 3 at hload
      dsimp only
      rw [hqueue, List.length_cons]
      omega
  | @closes i hbusy hopen =>
      have hload := WorkerPool.sum_load_set hbusy .joining
      change _ + 3 = _ + 2 at hload
      dsimp only
      omega
  | @ends i w job hw hcan =>
      have hload := WorkerPool.sum_load_set hw .idle
      have hbusy : 2 ≤ w.load := by
        cases w with
        | busy | joining => exact Nat.le_of_ble_eq_true rfl
        | idle | gone => exact hcan.elim
      change _ + _ = _ + 1 at hload
      dsimp only [WorkerPool.withEnded]
      omega
  | @leaves i hidle hqueue hclosed =>
      have hload := WorkerPool.sum_load_set hidle .gone
      change _ + 1 = _ + 0 at hload
      dsimp only
      omega

/-- However the moves that are due are made, they come to an end. -/
theorem length_add_movesLeft_le (later : List (PoolMove α)) (hdue : ∀ m ∈ later, m.isDue = true)
    (h : play move? s later = some t) : later.length + t.movesLeft ≤ s.movesLeft := by
  induction later generalizing s with
  | nil =>
      obtain rfl := Option.some.inj h
      exact Nat.le_of_eq (Nat.zero_add _)
  | cons m rest ih =>
      rw [List.forall_mem_cons] at hdue
      unfold play at h
      split at h
      · cases h
      · next u hmove =>
          have hrest := ih hdue.2 h
          have hless := (does_of_move? hmove).movesLeft_lt hdue.1
          rw [List.length_cons]
          omega

/-! ### When nothing is due -/

/-- Nobody can make a move that is due. -/
def AtRest (s : PoolRun α) : Prop :=
  ∀ m : PoolMove α, m.isDue = true → s.move? m = none

theorem othersGone_iff {p : WorkerPool α} {i : Nat} :
    p.othersGone i = true ↔ ∀ j w, j ≠ i → p.workers[j]? = some w → w = .gone := by
  simp only [WorkerPool.othersGone, List.all_eq_true, List.mem_eraseIdx_iff_getElem?,
    Worker.isGone_iff]
  constructor
  · intro h j w hj hw
    exact h w ⟨j, hj, hw⟩
  · rintro h w ⟨j, hj, hw⟩
    exact h j w hj hw

/-- A job goes on, unless it waits for workers that have not gone. -/
theorem exists_goOn {i : Nat} {w : Worker α} (hw : s.pool.workers[i]? = some w)
    (hcan : (∃ job, w = .busy job) ∨ w = .joining ∧ s.pool.othersGone i = true) :
    ∃ t, s.move? (.goOn i) = some t := by
  rcases hcan with ⟨job, rfl⟩ | ⟨rfl, hothers⟩
  · cases job with
    | leaves | fails | waits => simp [move?, held?, WorkerPool.finish, hw, Worker.job?]
    | shutsDown =>
        by_cases hopen : s.pool.accepting = true <;>
          simp [move?, held?, WorkerPool.finish, hw, Worker.job?, hopen]
  · simp [move?, held?, WorkerPool.finish, hw, Worker.job?, hothers]

theorem AtRest.not_busy (hrest : s.AtRest) {i : Nat} {job : Job α} :
    s.pool.workers[i]? ≠ some (.busy job) := by
  intro hw
  obtain ⟨t, ht⟩ := exists_goOn hw (.inl ⟨job, rfl⟩)
  rw [hrest _ rfl] at ht
  cases ht

/-- Who waits for a job has found none. -/
theorem AtRest.queue_of_idle (hrest : s.AtRest) {i : Nat}
    (hw : s.pool.workers[i]? = some .idle) : s.pool.queue = [] := by
  cases hqueue : s.pool.queue with
  | nil => rfl
  | cons job rest =>
      have htake := hrest (.take i) rfl
      simp [move?, WorkerPool.take, hw, hqueue] at htake

theorem AtRest.open_of_idle (hrest : s.AtRest) {i : Nat}
    (hw : s.pool.workers[i]? = some .idle) : s.pool.accepting = true := by
  by_contra hclosed
  have hleave := hrest (.leave i) rfl
  simp [move?, WorkerPool.leave, hw, hrest.queue_of_idle hw, hclosed] at hleave

theorem Sound.eq_of_joining (hs : Sound threads s) {i j : Nat}
    (hi : s.pool.workers[i]? = some .joining) (hj : s.pool.workers[j]? = some .joining) : j = i := by
  by_contra hne
  have hcount := (OneMoved.of_set hi .idle).countP Worker.isJoining
  have hj' : (s.pool.workers.set i .idle)[j]? = some .joining := by
    rw [List.getElem?_set_ne (Ne.symm hne), hj]
  have hpos : 0 < (s.pool.workers.set i .idle).countP Worker.isJoining :=
    List.countP_pos_iff.mpr ⟨.joining, List.mem_of_getElem? hj', rfl⟩
  have halone := hs.alone
  change _ + 1 = _ + 0 at hcount
  omega

/-- No job waits for the others: they can all go. -/
theorem AtRest.not_joining (hrest : s.AtRest) (hs : Sound threads s) {i : Nat} :
    s.pool.workers[i]? ≠ some .joining := by
  intro hi
  have hclosed : s.pool.accepting = false := hs.shut.mpr (.inr (.inl (List.mem_of_getElem? hi)))
  have hothers : s.pool.othersGone i = true := by
    rw [othersGone_iff]
    intro j w hj hw
    cases w with
    | gone => rfl
    | busy job => exact absurd hw hrest.not_busy
    | joining => exact absurd (hs.eq_of_joining hi hw) hj
    | idle =>
        rw [hrest.open_of_idle hw] at hclosed
        cases hclosed
  obtain ⟨t, ht⟩ := exists_goOn hi (.inr ⟨rfl, hothers⟩)
  rw [hrest _ rfl] at ht
  cases ht

theorem Sound.exists_worker (hs : Sound threads s) : ∃ w, w ∈ s.pool.workers := by
  apply List.exists_mem_of_length_pos
  rw [hs.size]
  exact clampThreads_pos threads

theorem AtRest.idle_or_gone (hrest : s.AtRest) (hs : Sound threads s) {w : Worker α}
    (hw : w ∈ s.pool.workers) : w = .idle ∧ s.pool.accepting = true ∨ w = .gone := by
  obtain ⟨i, hi⟩ := List.mem_iff_getElem?.mp hw
  cases w with
  | idle => exact .inl ⟨rfl, hrest.open_of_idle hi⟩
  | gone => exact .inr rfl
  | busy job => exact absurd hi hrest.not_busy
  | joining => exact absurd hi (hrest.not_joining hs)

/-- **When nothing is due, all that was accepted has ended**, and who shuts the pool down has
returned. -/
theorem AtRest.settled (hrest : s.AtRest) (hs : Sound threads s) :
    s.pool.queue = [] ∧ (∀ w ∈ s.pool.workers, w.job? = none) ∧
      (s.pool.accepting = false → s.pool.allGone = true ∧ .waiting ∉ s.calls) := by
  refine ⟨?_, ?_, ?_⟩
  · obtain ⟨w, hw⟩ := hs.exists_worker
    rcases hrest.idle_or_gone hs hw with ⟨rfl, -⟩ | rfl
    · obtain ⟨i, hi⟩ := List.mem_iff_getElem?.mp hw
      exact hrest.queue_of_idle hi
    · exact (hs.gone hw).1
  · intro w hw
    rcases hrest.idle_or_gone hs hw with ⟨rfl, -⟩ | rfl <;> rfl
  · intro hclosed
    have hgone : s.pool.allGone = true := by
      rw [WorkerPool.allGone, List.all_eq_true]
      intro w hw
      rcases hrest.idle_or_gone hs hw with ⟨-, hopen⟩ | rfl
      · rw [hopen] at hclosed
        cases hclosed
      · rfl
    refine ⟨hgone, ?_⟩
    intro hwaiting
    obtain ⟨i, hi⟩ := List.mem_iff_getElem?.mp hwaiting
    have hjoin := hrest (.join i) rfl
    simp [move?, hi, hgone] at hjoin

/-- With an empty queue and nothing in hand, each job that was accepted has ended once. -/
theorem Sound.ended_perm (hs : Sound threads s) (hqueue : s.pool.queue = [])
    (hfree : ∀ w ∈ s.pool.workers, w.job? = none) : (s.ended.map Prod.snd).Perm s.accepted := by
  have horder := hs.order
  rw [hqueue, List.append_nil] at horder
  rw [← horder]
  exact (hs.paired.perm hfree).map Prod.snd

theorem Sound.ended_perm_of_allGone (hs : Sound threads s) (hall : s.pool.allGone = true) :
    (s.ended.map Prod.snd).Perm s.accepted := by
  have hgone (w : Worker α) (hw : w ∈ s.pool.workers) : w = .gone :=
    Worker.isGone_iff.mp (List.all_eq_true.mp hall w hw)
  obtain ⟨w, hw⟩ := hs.exists_worker
  apply hs.ended_perm
  · exact (hs.gone (hgone w hw ▸ hw)).1
  · intro w hw
    rw [hgone w hw]
    rfl

/-! ### What a pool owes to those who use it -/

/-- A job that does not close the queue is ended by one move, which touches nothing else. -/
theorem move?_goOn {i : Nat} {job : Job α} (hw : s.pool.workers[i]? = some (.busy job))
    (hcan : job = .shutsDown → s.pool.accepting = false) :
    s.move? (.goOn i)
      = some { s with pool := s.pool.withEnded i job, ended := s.ended ++ [(i, job)] } := by
  obtain ⟨t, ht⟩ := exists_goOn hw (.inl ⟨job, rfl⟩)
  rw [ht]
  cases does_of_move? ht with
  | closes hbusy hopen =>
      rw [hw] at hbusy
      obtain rfl : job = .shutsDown := Worker.busy.inj (Option.some.inj hbusy)
      rw [hcan rfl] at hopen
      cases hopen
  | ends hw' hcan' =>
      rw [hw] at hw'
      obtain rfl := Option.some.inj hw'
      obtain ⟨rfl, -⟩ := hcan'
      rfl

theorem exists_goOn_joining_iff {i : Nat} (hw : s.pool.workers[i]? = some .joining) :
    (∃ t, s.move? (.goOn i) = some t) ↔
      ∀ j w, j ≠ i → s.pool.workers[j]? = some w → w = .gone := by
  rw [← othersGone_iff]
  constructor
  · rintro ⟨t, ht⟩
    cases does_of_move? ht with
    | closes hbusy hopen =>
        rw [hw] at hbusy
        cases hbusy
    | ends hw' hcan =>
        rw [hw] at hw'
        obtain rfl := Option.some.inj hw'
        exact hcan.2
  · intro hothers
    exact exists_goOn hw (.inr ⟨rfl, hothers⟩)

/-- What a pool that was asked for so many threads owes, wherever its run has got to. -/
structure Serves (threads : Nat) (s : PoolRun α) : Prop where
  /-- A job is accepted until somebody calls to shut the pool down, and refused from then on. -/
  submit : ∀ job, (s.pool.submit job).1 = true ↔ ¬ s.HasShut
  /-- Jobs are taken in the order in which they were accepted, each once and by one worker. -/
  order : s.taken.map Prod.snd ++ s.pool.queue = s.accepted
  taker : ∀ e ∈ s.taken, e.1 < clampThreads threads
  /-- A worker ends what it has taken, each job once and before it takes another. -/
  once : ∀ i, ofWorker i s.taken = ofWorker i s.ended ++ inHand s.pool.workers i
  /-- What the jobs leave is left once. -/
  log : s.pool.log = s.ended.filterMap fun e => e.2.result?
  /-- A job that fails leaves its worker waiting for the next one and touches nothing else. -/
  failure : ∀ i, s.pool.workers[i]? = some (.busy .fails) →
    s.move? (.goOn i)
      = some { s with pool := s.pool.withEnded i .fails, ended := s.ended ++ [(i, .fails)] }
  /-- Nobody leaves as long as there is or may be something to do. -/
  staff : s.pool.workers.length = clampThreads threads ∧
    (.gone ∈ s.pool.workers → s.pool.queue = [] ∧ s.HasShut)
  /-- When a call from outside returns that has waited for the workers, all jobs have ended. -/
  joined : .joined ∈ s.calls → s.pool.allGone = true ∧ (s.ended.map Prod.snd).Perm s.accepted
  /-- A call that finds the pool shut down comes behind such a call, or behind a job's own. -/
  late : .late ∈ s.calls → .joined ∈ s.calls ∨ ∃ i, (i, .shutsDown) ∈ s.ended
  /-- Who comes later to shut the pool down, from outside or from a job, changes nothing. -/
  second : s.HasShut →
    (∀ t, s.move? .shutDown = some t → t = { s with calls := s.calls ++ [.late] }) ∧
      ∀ i, s.pool.workers[i]? = some (.busy .shutsDown) →
        s.move? (.goOn i) = some { s with
          pool := s.pool.withEnded i .shutsDown, ended := s.ended ++ [(i, .shutsDown)] }
  /-- A job that has shut the pool down waits for all workers but its own. -/
  own : ∀ i, s.pool.workers[i]? = some .joining →
    ((∃ t, s.move? (.goOn i) = some t) ↔
      ∀ j w, j ≠ i → s.pool.workers[j]? = some w → w = .gone)
  /-- The moves that are due come to an end, whoever makes them. -/
  bound : ∀ (later : List (PoolMove α)) (t : PoolRun α), (∀ m ∈ later, m.isDue = true) →
    play move? s later = some t →
      later.length ≤ 3 * s.pool.queue.length + 3 * s.pool.workers.length + s.calls.length
  /-- When none is due, all jobs have ended, and who has shut the pool down has returned. -/
  rest : s.AtRest → s.pool.queue = [] ∧ (s.ended.map Prod.snd).Perm s.accepted ∧
    (s.HasShut → s.pool.allGone = true ∧ .waiting ∉ s.calls)

/-- **Every job that is accepted runs once**, however many threads were asked for, whatever is
submitted and whoever moves next. -/
theorem every_job_once (name : String) (threads : Nat) (moves : List (PoolMove α))
    (hplay : play move? (start name threads) moves = some s) : Serves threads s := by
  have hs : Sound threads s := sound_play moves (sound_start name threads) hplay
  refine {
    submit := ?_
    order := hs.order
    taker := fun e he => hs.size ▸ hs.within e he
    once := hs.paired
    log := hs.log
    failure := fun i hw => move?_goOn hw nofun
    staff := ⟨hs.size, fun hgone => ⟨(hs.gone hgone).1, hs.shut.mp (hs.gone hgone).2⟩⟩
    joined := fun hjoined => ⟨hs.joined hjoined, hs.ended_perm_of_allGone (hs.joined hjoined)⟩
    late := hs.late
    second := ?_
    own := fun i hw => exists_goOn_joining_iff hw
    bound := ?_
    rest := ?_ }
  · intro job
    rw [← hs.shut, WorkerPool.submit]
    cases s.pool.accepting <;> simp
  · intro hshut
    have hclosed := hs.shut.mpr hshut
    refine ⟨?_, fun i hw => move?_goOn hw fun _ => hclosed⟩
    intro t ht
    cases does_of_move? ht with
    | shuts hopen =>
        rw [hclosed] at hopen
        cases hopen
    | finds => rfl
  · intro later t hdue hlater
    have hlength := length_add_movesLeft_le later hdue hlater
    have hbound := s.movesLeft_le
    omega
  · intro hrest
    obtain ⟨hqueue, hfree, hreturned⟩ := hrest.settled hs
    exact ⟨hqueue, hs.ended_perm hqueue hfree, fun hshut => hreturned (hs.shut.mpr hshut)⟩

/-- One worker runs a job that fails, one that shuts the pool down and one more.  A call from
outside comes before the last of them is taken. -/
theorem every_job_once_alone :
    let moves : List (PoolMove Nat) :=
      [.submit .fails, .submit .shutsDown, .submit (.leaves 7), .take 0, .goOn 0, .take 0, .goOn 0,
        .submit .fails, .goOn 0, .shutDown, .take 0, .goOn 0, .leave 0]
    ∃ s, play move? (start "pool" 0) moves = some s ∧ Serves 0 s ∧
      s.ended = [(0, .fails), (0, .shutsDown), (0, .leaves 7)] ∧ s.refused = [.fails] ∧
      s.calls = [.late] := by
  intro moves
  refine ⟨_, rfl, every_job_once "pool" 0 moves rfl, rfl, rfl, rfl⟩

end PoolRun

end Interleaving

end Lifecast
