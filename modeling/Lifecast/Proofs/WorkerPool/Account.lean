/-
What a pool of workers owes.

What a pool has done, what its workers have in hand and what waits in its queue is what was
submitted, whichever worker moves next (`WorkerPool.account`).  Many workers may change the order,
one worker does not.

A worker leaves only when it finds the queue empty and closed, and then the queue stays empty.  So
when all have left, everything has been done (`account_of_allGone`).

Whoever moves, there is less left to do (`Works.load_lt`).
-/
import Mathlib.Algebra.GroupWithZero.Nat
import Mathlib.Data.List.Perm.Basic
import Lifecast.Interleaving.Basic
import Lifecast.WorkerPool

namespace Lifecast

/-! ### A pool whose jobs all end well -/

/-- The result that a job leaves. -/
def Job.result? {α : Type} : Job α → Option α
  | leaves a => some a
  | fails | waits | shutsDown => none

/-- The result that the job of a worker leaves. -/
def Worker.result? {α : Type} : Worker α → Option α
  | busy job => job.result?
  | idle | joining | gone => none

/-- How many moves a worker makes at most before it needs another job. -/
def Worker.load {α : Type} : Worker α → Nat
  | busy _ => 3
  | joining => 2
  | idle => 1
  | gone => 0

namespace WorkerPool

variable {α : Type} {p q : WorkerPool α}

/-- How many moves the workers make at most, as long as no job is added. -/
def load (p : WorkerPool α) : Nat :=
  3 * p.queue.length + (p.workers.map Worker.load).sum

theorem sum_load_set {ws : List (Worker α)} {i : Nat} {w : Worker α} (hw : ws[i]? = some w)
    (v : Worker α) :
    ((ws.set i v).map Worker.load).sum + w.load = (ws.map Worker.load).sum + v.load := by
  obtain ⟨before, after, hws, hset⟩ := Interleaving.OneMoved.of_set hw v
  rw [hset, hws]
  simp only [List.map_append, List.map_cons, List.sum_append, List.sum_cons]
  omega

theorem load_le (p : WorkerPool α) : p.load ≤ p.movesLeft := by
  have hworkers (ws : List (Worker α)) : (ws.map Worker.load).sum ≤ 3 * ws.length := by
    induction ws with
    | nil => exact Nat.le_refl 0
    | cons w ws ih =>
        have hw : w.load ≤ 3 := by
          unfold Worker.load
          split <;> omega
        rw [List.map_cons, List.sum_cons, List.length_cons]
        omega
  exact Nat.add_le_add_left (hworkers p.workers) _

/-- What has been done, what is being done and what waits. -/
def account (p : WorkerPool α) : List α :=
  p.log ++ (p.workers.filterMap Worker.result? ++ p.queue.filterMap Job.result?)

/-- All jobs end well, and nobody has left before his time. -/
structure Plain (p : WorkerPool α) : Prop where
  queue : ∀ job ∈ p.queue, ∃ a, job = .leaves a
  workers : ∀ w ∈ p.workers, w = .idle ∨ w = .gone ∨ ∃ a, w = .busy (.leaves a)
  gone : .gone ∈ p.workers → p.queue = [] ∧ p.accepting = false
  someone : p.workers ≠ []

/-- What a worker does in such a pool. -/
inductive Works (p : WorkerPool α) : WorkerPool α → Prop where
  | takes {i : Nat} {a : α} {rest : List (Job α)} (there : p.workers[i]? = some .idle)
      (next : p.queue = .leaves a :: rest) :
      Works p { p with workers := p.workers.set i (.busy (.leaves a)), queue := rest }
  | ends {i : Nat} {a : α} (there : p.workers[i]? = some (.busy (.leaves a))) :
      Works p { p with workers := p.workers.set i .idle, log := p.log ++ [a] }
  | leaves {i : Nat} (there : p.workers[i]? = some .idle) (empty : p.queue = [])
      (closed : p.accepting = false) : Works p { p with workers := p.workers.set i .gone }

theorem works_of_work? (hp : p.Plain) {i : Nat} (moved : p.work? true i = some q) : Works p q := by
  cases hw : p.workers[i]? with
  | none => simp [work?, finish, take, leave, hw] at moved
  | some w =>
      rcases hp.workers w (List.mem_of_getElem? hw) with rfl | rfl | ⟨a, rfl⟩
      · cases hqueue : p.queue with
        | nil =>
            cases hopen : p.accepting with
            | true => simp [work?, finish, take, leave, hw, hqueue, hopen] at moved
            | false =>
                simp only [work?, finish, take, leave, hw, hqueue, hopen] at moved
                obtain rfl := Option.some.inj moved
                exact .leaves hw hqueue hopen
        | cons job rest =>
            obtain ⟨a, rfl⟩ := hp.queue job (by simp [hqueue])
            simp only [work?, finish, take, hw, hqueue] at moved
            obtain rfl := Option.some.inj moved
            exact .takes hw hqueue
      · simp [work?, finish, take, leave, hw] at moved
      · simp only [work?, finish, hw] at moved
        obtain rfl := Option.some.inj moved
        exact .ends hw

/-- Some worker can move unless all are gone, when the queue is closed. -/
theorem exists_work (hp : p.Plain) (hclosed : p.accepting = false) (hstays : p.allGone = false) :
    ∃ i q, p.work? true i = some q := by
  obtain ⟨w, hmem, hw⟩ : ∃ w ∈ p.workers, w.isGone = false := by
    simpa [allGone] using hstays
  obtain ⟨i, hi⟩ := List.mem_iff_getElem?.mp hmem
  rcases hp.workers w hmem with rfl | rfl | ⟨a, rfl⟩
  · cases hqueue : p.queue with
    | nil =>
        exact ⟨i, p.setWorker i .gone, by simp [work?, finish, take, leave, hi, hqueue, hclosed]⟩
    | cons job rest =>
        exact ⟨i, { p.setWorker i (.busy job) with queue := rest },
          by simp [work?, finish, take, hi, hqueue]⟩
  · cases hw
  · exact ⟨i, { p.setWorker i .idle with log := p.log ++ [a] }, by simp [work?, finish, hi]⟩

/-- The pool stays such a pool, with as many workers. -/
theorem Works.plain (hworks : Works p q) (hp : p.Plain) :
    q.Plain ∧ q.workers.length = p.workers.length ∧ q.accepting = p.accepting := by
  have hset : ∀ {i : Nat} {w : Worker α}, (w = .idle ∨ w = .gone ∨ ∃ a, w = .busy (.leaves a)) →
      ∀ v ∈ p.workers.set i w, v = .idle ∨ v = .gone ∨ ∃ a, v = .busy (.leaves a) := by
    intro i w hw v hv
    rcases List.mem_or_eq_of_mem_set hv with hold | rfl
    · exact hp.workers v hold
    · exact hw
  have hsomeone : ∀ {i : Nat} {w : Worker α}, p.workers.set i w ≠ [] := by
    intro i w hnone
    have hlength := congrArg List.length hnone
    rw [List.length_set] at hlength
    exact hp.someone (List.length_eq_zero_iff.mp hlength)
  cases hworks with
  | takes hthere hnext =>
      refine ⟨⟨?_, hset (.inr (.inr ⟨_, rfl⟩)), ?_, hsomeone⟩, List.length_set, rfl⟩
      · exact fun job hjob => hp.queue job (by rw [hnext]; exact List.mem_cons_of_mem _ hjob)
      · intro hgone
        have hempty := (hp.gone ((List.mem_or_eq_of_mem_set hgone).resolve_right nofun)).1
        rw [hnext] at hempty
        cases hempty
  | ends hthere =>
      refine ⟨⟨hp.queue, hset (.inl rfl), ?_, hsomeone⟩, List.length_set, rfl⟩
      exact fun hgone => hp.gone ((List.mem_or_eq_of_mem_set hgone).resolve_right nofun)
  | leaves hthere hempty hclosed =>
      exact ⟨⟨hp.queue, hset (.inr (.inl rfl)), fun _ => ⟨hempty, hclosed⟩, hsomeone⟩,
        List.length_set, rfl⟩

/-- There is less left to do. -/
theorem Works.load_lt (hworks : Works p q) : q.load < p.load := by
  unfold load
  cases hworks with
  | @takes i a rest hthere hnext =>
      have hload := sum_load_set hthere (.busy (.leaves a))
      change _ + 1 = _ + 3 at hload
      dsimp only
      rw [hnext, List.length_cons]
      omega
  | @ends i a hthere =>
      have hload := sum_load_set hthere .idle
      change _ + 3 = _ + 1 at hload
      dsimp only
      omega
  | @leaves i hthere hempty hclosed =>
      have hload := sum_load_set hthere .gone
      change _ + 1 = _ + 0 at hload
      dsimp only
      omega

/-- It only adds to what has been done. -/
theorem Works.log (hworks : Works p q) : ∃ more, q.log = p.log ++ more := by
  cases hworks with
  | takes | leaves => exact ⟨[], (List.append_nil _).symm⟩
  | ends => exact ⟨_, rfl⟩

/-- Nothing is lost and nothing comes twice. -/
theorem Works.account_perm (hworks : Works p q) : q.account.Perm p.account := by
  cases hworks with
  -- The job leaves the head of the queue for the place of the worker among the others.
  | @takes i a rest hthere hnext =>
      obtain ⟨before, after, hworkers, hset⟩ :=
        Interleaving.OneMoved.of_set hthere (Worker.busy (.leaves a))
      rw [account, account, hset, hworkers, hnext]
      simp only [List.filterMap_append, List.filterMap_cons, Worker.result?, Job.result?,
        List.append_assoc, List.cons_append]
      exact List.Perm.append_left _ (List.Perm.append_left _ List.perm_middle.symm)
  | @ends i a hthere =>
      obtain ⟨before, after, hworkers, hset⟩ := Interleaving.OneMoved.of_set hthere Worker.idle
      rw [account, account, hset, hworkers]
      simp only [List.filterMap_append, List.filterMap_cons, Worker.result?, Job.result?,
        List.append_assoc, List.cons_append, List.nil_append]
      exact List.Perm.append_left _ List.perm_middle.symm
  | @leaves i hthere hempty hclosed =>
      obtain ⟨before, after, hworkers, hset⟩ := Interleaving.OneMoved.of_set hthere Worker.gone
      rw [account, account, hset, hworkers]
      simp only [List.filterMap_append, List.filterMap_cons, Worker.result?]
      exact List.Perm.refl _

/-- One worker alone keeps the order. -/
theorem Works.account_eq (hworks : Works p q) (halone : p.workers.length = 1) :
    q.account = p.account := by
  obtain ⟨w, hw⟩ := List.length_eq_one_iff.mp halone
  have hfirst : ∀ {i : Nat} {v : Worker α}, p.workers[i]? = some v → v = w ∧ i = 0 := by
    intro i v hv
    rw [hw] at hv
    cases i with
    | zero => exact ⟨(Option.some.inj hv).symm, rfl⟩
    | succ i => simp at hv
  cases hworks with
  | takes hthere hnext =>
      obtain ⟨rfl, rfl⟩ := hfirst hthere
      simp [account, hw, hnext, Worker.result?, Job.result?]
  | ends hthere =>
      obtain ⟨rfl, rfl⟩ := hfirst hthere
      simp [account, hw, Worker.result?, Job.result?]
  | leaves hthere hempty hclosed =>
      obtain ⟨rfl, rfl⟩ := hfirst hthere
      simp [account, hw, List.filterMap_cons, Worker.result?]

/-- When all workers are gone, all has been done. -/
theorem account_of_allGone (hp : p.Plain) (hgone : p.allGone = true) : p.account = p.log := by
  have hall : ∀ w ∈ p.workers, w = .gone := by
    intro w hw
    have hisGone := List.all_eq_true.mp hgone w hw
    cases w with
    | gone => rfl
    | idle | busy _ | joining => cases hisGone
  obtain ⟨w, hw⟩ := List.exists_mem_of_ne_nil _ hp.someone
  have hempty : p.queue = [] := (hp.gone (hall w hw ▸ hw)).1
  have hnone : p.workers.filterMap Worker.result? = [] := by
    rw [List.filterMap_eq_nil_iff]
    intro v hv
    rw [hall v hv]
    rfl
  rw [account, hempty, hnone, List.filterMap_nil, List.append_nil, List.append_nil]

/-- A pool that has just been started. -/
theorem plain_start (name : String) (threads : Nat) :
    (start name threads : WorkerPool α).Plain ∧ (start name threads : WorkerPool α).account = [] ∧
      (start name threads : WorkerPool α).accepting = true := by
  refine ⟨⟨nofun, ?_, ?_, ?_⟩, ?_, rfl⟩
  · exact fun w hw => Or.inl (List.eq_of_mem_replicate hw)
  · intro hgone
    cases List.eq_of_mem_replicate hgone
  · simp [start, Nat.pos_iff_ne_zero.mp (clampThreads_pos threads)]
  · simp [account, start, Worker.result?]

/-- A job is queued behind all others. -/
theorem plain_submit {a : α} (hp : p.Plain) (submitted : p.submit (.leaves a) = (true, q)) :
    q.Plain ∧ q.account = p.account ++ [a] ∧ q.log = p.log ∧ q.workers = p.workers ∧
      q.accepting = true := by
  cases hopen : p.accepting with
  | false => simp [submit, hopen] at submitted
  | true =>
      simp only [submit, hopen, if_true] at submitted
      obtain rfl := (Prod.mk.inj submitted).2
      refine ⟨⟨?_, hp.workers, ?_, hp.someone⟩, ?_, rfl, rfl, rfl⟩
      · intro job hjob
        rcases List.mem_append.mp hjob with hold | hnew
        · exact hp.queue job hold
        · exact ⟨a, List.mem_singleton.mp hnew⟩
      · intro hgone
        rw [(hp.gone hgone).2] at hopen
        cases hopen
      · simp [account, Job.result?]

/-- Closing the queue changes nothing else. -/
theorem plain_closeQueue (hp : p.Plain) : p.closeQueue.Plain :=
  ⟨hp.queue, hp.workers, fun hgone => ⟨(hp.gone hgone).1, rfl⟩, hp.someone⟩

end WorkerPool

end Lifecast
