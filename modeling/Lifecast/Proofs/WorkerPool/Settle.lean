/-
How a pool is settled is one way among many.

`WorkerPool.settle` lets the first worker move that can, until none can.  Each of these moves is one
that is due (`exists_move`), so a run may go on as it says (`exists_settled`), and the moves that it
allows for are enough, since each of them leaves less to be done (`work?_settleFor`).

To shut a pool down from outside is to close its queue and to settle it.  So the call that the
programs make is a call of a run (`play_shutdown`), and what a run says of such a call holds of it.
-/
import Lifecast.Proofs.WorkerPool.Once

namespace Lifecast

namespace Interleaving

namespace PoolRun

variable {α : Type} {s : PoolRun α} {q : WorkerPool α} {i : Nat} {threads : Nat}

theorem move?_of_finish (h : s.pool.finish true i = some q) :
    ∃ ended, s.move? (.goOn i) = some { s with pool := q, ended } := by
  obtain ⟨job, hheld⟩ : ∃ job, s.held? i = some job := by
    unfold held?
    obtain ⟨hw, -⟩ | ⟨w, job, hw, hcan, -⟩ := WorkerPool.finish_cases h
    · exact ⟨.shutsDown, by rw [hw]; rfl⟩
    · exact ⟨job, by rw [hw, Option.bind_some, hcan.job?_eq]⟩
  rw [move?, hheld, h]
  exact ⟨_, rfl⟩

theorem move?_of_take (h : s.pool.take i = some q) :
    ∃ taken, s.move? (.take i) = some { s with pool := q, taken } := by
  rw [move?, h]
  cases hqueue : s.pool.queue with
  | nil => simp [WorkerPool.take, hqueue] at h
  | cons job rest => exact ⟨_, rfl⟩

theorem move?_of_leave (h : s.pool.leave i = some q) :
    s.move? (.leave i) = some { s with pool := q } := by
  rw [move?, h, Option.map_some]

/-- What a worker does is a move that is due, and no call has to do with it. -/
theorem exists_move (h : s.pool.work? true i = some q) :
    ∃ m t, m.isDue = true ∧ s.move? m = some t ∧ t.pool = q ∧ t.calls = s.calls := by
  simp only [WorkerPool.work?, Option.orElse_eq_orElse, Option.orElse_eq_or,
    Option.or_eq_some_iff] at h
  rcases h with hfinish | ⟨-, htake | ⟨-, hleave⟩⟩
  · obtain ⟨ended, hmove⟩ := move?_of_finish hfinish
    exact ⟨_, _, rfl, hmove, rfl, rfl⟩
  · obtain ⟨taken, hmove⟩ := move?_of_take htake
    exact ⟨_, _, rfl, hmove, rfl, rfl⟩
  · exact ⟨_, _, rfl, move?_of_leave hleave, rfl, rfl⟩

/-- A run may go on as the pool is settled. -/
theorem exists_settled (n : Nat) (s : PoolRun α) :
    ∃ later t, (∀ m ∈ later, m.isDue = true) ∧ play move? s later = some t ∧
      t.pool = WorkerPool.settleFor true n s.pool ∧ t.calls = s.calls ∧
      (t.pool.move? true = none ∨ later.length = n) := by
  induction n generalizing s with
  | zero => exact ⟨[], s, nofun, rfl, rfl, rfl, .inr rfl⟩
  | succ n ih =>
      cases hmove : s.pool.move? true with
      | none =>
          refine ⟨[], s, nofun, rfl, ?_, rfl, .inl hmove⟩
          rw [WorkerPool.settleFor, hmove]
      | some q =>
          obtain ⟨i, -, hwork⟩ := List.exists_of_findSome?_eq_some hmove
          obtain ⟨m, u, hdue, hu, hpool, hcalls⟩ := exists_move hwork
          obtain ⟨later, t, hlater, ht, hsettled, hsame, hend⟩ := ih u
          refine ⟨m :: later, t, List.forall_mem_cons.mpr ⟨hdue, hlater⟩, ?_, ?_, ?_, ?_⟩
          · rw [play, hu]
            exact ht
          · rw [hsettled, hpool, WorkerPool.settleFor, hmove]
          · rw [hsame, hcalls]
          · exact hend.imp_right (congrArg (· + 1))

/-- The moves that are allowed for are enough: nobody can move in the end. -/
theorem exists_settle (s : PoolRun α) :
    ∃ later t, (∀ m ∈ later, m.isDue = true) ∧ play move? s later = some t ∧
      t.pool = s.pool.settle true ∧ t.calls = s.calls ∧ t.pool.move? true = none := by
  obtain ⟨later, t, hdue, ht, hpool, hcalls, hend⟩ := exists_settled s.pool.movesLeft s
  refine ⟨later, t, hdue, ht, hpool, hcalls, ?_⟩
  rcases hend with hnone | hlength
  · exact hnone
  · cases hmove : t.pool.move? true with
    | none => rfl
    | some q =>
        obtain ⟨i, -, hwork⟩ := List.exists_of_findSome?_eq_some hmove
        obtain ⟨m, u, hmdue, hu, -, hsame⟩ := exists_move hwork
        have hless := (does_of_move? hu).movesLeft_lt hmdue
        have htotal := length_add_movesLeft_le later hdue ht
        have hload := s.pool.load_le
        rw [hlength] at htotal
        unfold movesLeft at *
        rw [hsame, hcalls] at hless
        rw [hcalls] at htotal
        omega

/-- When no worker can move, nothing is due but the return of calls. -/
theorem atRest_of_move?_eq_none (h : s.pool.move? true = none) (hstays : s.pool.allGone = false) :
    s.AtRest := by
  have hwork (i : Nat) : s.pool.work? true i = none := by
    by_cases hi : i < s.pool.workers.length
    · exact List.findSome?_eq_none_iff.mp h i (List.mem_range.mpr hi)
    · have hw : s.pool.workers[i]? = none := List.getElem?_eq_none (Nat.le_of_not_lt hi)
      simp [WorkerPool.work?, WorkerPool.finish, WorkerPool.take, WorkerPool.leave, hw]
  simp only [WorkerPool.work?, Option.orElse_eq_orElse, Option.orElse_eq_or,
    Option.or_eq_none_iff] at hwork
  intro m hdue
  cases m with
  | submit | shutDown => cases hdue
  | join i => simp [move?, hstays]
  | take i =>
      rw [move?, (hwork i).2.1]
      simp
  | goOn i =>
      rw [move?, (hwork i).1]
      simp
  | leave i => rw [move?, (hwork i).2.2, Option.map_none]

/-- As long as jobs are taken in, nobody waits for the workers. -/
theorem Sound.calls_of_open (hs : Sound threads s) (hopen : s.pool.accepting = true) :
    s.calls = [] ∧ s.isAwaited = false := by
  have hshut : ¬ s.HasShut := by
    rw [← hs.shut, hopen]
    exact nofun
  have hcalls : s.calls = [] := by
    by_contra hsome
    exact hshut (.inl hsome)
  refine ⟨hcalls, ?_⟩
  rw [isAwaited, hcalls, List.any_nil, Bool.or_false, List.any_eq_false]
  intro w hw hjoining
  exact hshut (.inr (.inl (Worker.isJoining_iff.mp hjoining ▸ hw)))

/-- **A shutdown from outside, as the programs make it, is a call of a run**, and it returns. -/
theorem play_shutdown (hs : Sound threads s) (hopen : s.pool.accepting = true) :
    ∃ later t, (∀ m ∈ later, m.isDue = true) ∧ play move? s (.shutDown :: later) = some t ∧
      t.pool = s.pool.shutdown ∧ t.calls = [.joined] := by
  obtain ⟨hcalls, hfree⟩ := hs.calls_of_open hopen
  let closed : PoolRun α := { s with pool := s.pool.closeQueue, calls := [.waiting] }
  have hclose : s.move? .shutDown = some closed := by
    rw [move?, hfree, hopen, hcalls]
    rfl
  obtain ⟨later, t, hdue, ht, hpool, hsame, hnone⟩ := exists_settle closed
  have hsound : Sound threads t := sound_play later (hs.move hclose) ht
  have hcalled : t.calls ≠ [] := by
    rw [hsame]
    exact List.cons_ne_nil _ _
  have hgone : t.pool.allGone = true := by
    by_contra hstays
    have hrest := atRest_of_move?_eq_none hnone (Bool.eq_false_iff.mpr hstays)
    have hclosed : t.pool.accepting = false := hsound.shut.mpr (.inl hcalled)
    exact hstays ((hrest.settled hsound).2.2 hclosed).1
  have hjoin : t.move? (.join 0) = some { t with calls := [.joined] } := by
    rw [move?, hsame, hgone]
    rfl
  refine ⟨later ++ [.join 0], { t with calls := [.joined] }, ?_, ?_, hpool, rfl⟩
  · intro m hm
    rcases List.mem_append.mp hm with hlater | hlast
    · exact hdue m hlater
    · rw [List.mem_singleton.mp hlast]
      rfl
  · rw [play, hclose]
    show play move? closed (later ++ [.join 0]) = _
    rw [play_concat, ht, Option.bind_some, hjoin]

theorem accepted_of_due {m : PoolMove α} {t : PoolRun α} (h : Does s m t)
    (hdue : m.isDue = true) : t.accepted = s.accepted := by
  cases h with
  | accepts | refuses | shuts | finds => cases hdue
  | joins | takes | closes | ends | leaves => rfl

theorem accepted_of_play (later : List (PoolMove α)) {t : PoolRun α}
    (hdue : ∀ m ∈ later, m.isDue = true) (h : play move? s later = some t) :
    t.accepted = s.accepted := by
  induction later generalizing s with
  | nil => rw [Option.some.inj h]
  | cons m rest ih =>
      rw [List.forall_mem_cons] at hdue
      unfold play at h
      split at h
      · cases h
      · next u hmove =>
          rw [ih hdue.2 h, accepted_of_due (does_of_move? hmove) hdue.1]

/-- **When the shutdown of the programs returns, all workers have gone and every job that was
accepted has left what it leaves.** -/
theorem shutdown_log (hs : Sound threads s) (hopen : s.pool.accepting = true) :
    s.pool.shutdown.allGone = true ∧
      s.pool.shutdown.log.Perm (s.accepted.filterMap Job.result?) := by
  obtain ⟨later, t, hdue, ht, hpool, hcalls⟩ := play_shutdown hs hopen
  have hsound : Sound threads t := sound_play _ hs ht
  have hgone : t.pool.allGone = true := hsound.joined (hcalls ▸ List.mem_singleton.mpr rfl)
  have haccepted : t.accepted = s.accepted := by
    unfold play at ht
    split at ht
    · cases ht
    · next u hclose =>
        rw [accepted_of_play later hdue ht]
        cases does_of_move? hclose <;> rfl
  rw [← hpool, hsound.log, ← haccepted]
  refine ⟨hgone, ?_⟩
  have hended := (hsound.ended_perm_of_allGone hgone).filterMap Job.result?
  rwa [List.filterMap_map] at hended

end PoolRun

end Interleaving

end Lifecast
