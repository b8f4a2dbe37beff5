/-
What a move does to a pool and to the books on its jobs.

`Does` says it once for every move, and each fact about all runs is then a look at its cases.  Jobs
are taken from the front of the queue and put at its end, so what has been taken and what waits is
what was accepted, in this order.  What a worker has taken is what it has ended and what it has in
hand (`Paired`), since it takes nothing while it has something in hand.

Three more facts say where a pool can be: who has gone found the queue empty and closed, the queue
is closed if and only if somebody has called for it (`HasShut`), and of the jobs no two wait for the
others to go.
-/
import Lifecast.Interleaving.PoolRun
import Lifecast.Proofs.WorkerPool.Account

namespace Lifecast

theorem Worker.isJoining_iff {α : Type} {w : Worker α} : w.isJoining = true ↔ w = .joining := by
  cases w <;> simp [isJoining]

theorem Worker.isGone_iff {α : Type} {w : Worker α} : w.isGone = true ↔ w = .gone := by
  cases w <;> simp [isGone]

/-! ### Going on with a job -/

namespace WorkerPool

variable {α : Type} {p q : WorkerPool α} {i : Nat}

/-- The pool when worker `i` has ended a job. -/
def withEnded (p : WorkerPool α) (i : Nat) (job : Job α) : WorkerPool α :=
  { p with workers := p.workers.set i .idle, log := p.log ++ job.result?.toList }

/-- What has to be so that worker `i` can end its job: a job that shuts the pool down has found it
shut down, or all others gone. -/
def CanEnd (p : WorkerPool α) (i : Nat) (job : Job α) : Worker α → Prop
  | .busy held => held = job ∧ (job = .shutsDown → p.accepting = false)
  | .joining => job = .shutsDown ∧ p.othersGone i = true
  | .idle | .gone => False

/-- A worker that goes on with its job ends it, or the job closes the queue. -/
theorem finish_cases (h : p.finish true i = some q) :
    (p.workers[i]? = some (.busy .shutsDown) ∧ p.accepting = true ∧
        q = p.closeQueue.setWorker i .joining) ∨
      ∃ w job, p.workers[i]? = some w ∧ p.CanEnd i job w ∧ q = p.withEnded i job := by
  have hsame : p.setWorker i .idle = { p.setWorker i .idle with log := p.log ++ [] } := by
    rw [List.append_nil]
    rfl
  unfold finish at h
  split at h
  · next result hw =>
      exact .inr ⟨_, .leaves result, hw, ⟨rfl, nofun⟩, (Option.some.inj h).symm⟩
  · next hw =>
      exact .inr ⟨_, .fails, hw, ⟨rfl, nofun⟩, (Option.some.inj h).symm.trans hsame⟩
  · next hw =>
      exact .inr ⟨_, .waits, hw, ⟨rfl, nofun⟩, (Option.some.inj h).symm.trans hsame⟩
  · next hw =>
      split at h
      · next hopen => exact .inl ⟨hw, hopen, (Option.some.inj h).symm⟩
      · next hopen =>
          exact .inr ⟨_, .shutsDown, hw, ⟨rfl, fun _ => Bool.eq_false_iff.mpr hopen⟩,
            (Option.some.inj h).symm.trans hsame⟩
  · next hw =>
      split at h
      · next hothers =>
          exact .inr ⟨_, .shutsDown, hw, ⟨rfl, hothers⟩, (Option.some.inj h).symm.trans hsame⟩
      · cases h
  · cases h

theorem CanEnd.job?_eq {job : Job α} {w : Worker α} (h : p.CanEnd i job w) : w.job? = some job := by
  cases w with
  | busy held => exact congrArg some h.1
  | joining => exact congrArg some h.1.symm
  | idle | gone => exact h.elim

end WorkerPool

namespace Interleaving

variable {α : Type}

namespace PoolRun

variable {s t : PoolRun α} {m : PoolMove α}

/-! ### What a move does -/

/-- What a move does. -/
inductive Does (s : PoolRun α) : PoolMove α → PoolRun α → Prop where
  | accepts {job : Job α} (hopen : s.pool.accepting = true) :
      Does s (.submit job)
        { s with
          pool := { s.pool with queue := s.pool.queue ++ [job] }
          accepted := s.accepted ++ [job] }
  | refuses {job : Job α} (hclosed : s.pool.accepting = false) :
      Does s (.submit job) { s with refused := s.refused ++ [job] }
  | shuts (hopen : s.pool.accepting = true) :
      Does s .shutDown
        { s with pool := { s.pool with accepting := false }, calls := s.calls ++ [.waiting] }
  | finds (hclosed : s.pool.accepting = false) (hfree : s.isAwaited = false) :
      Does s .shutDown { s with calls := s.calls ++ [.late] }
  | joins {i : Nat} (hcall : s.calls[i]? = some .waiting) (hgone : s.pool.allGone = true) :
      Does s (.join i) { s with calls := s.calls.set i .joined }
  | takes {i : Nat} {job : Job α} {rest : List (Job α)}
      (hidle : s.pool.workers[i]? = some .idle) (hqueue : s.pool.queue = job :: rest) :
      Does s (.take i)
        { s with
          pool := { s.pool with workers := s.pool.workers.set i (.busy job), queue := rest }
          taken := s.taken ++ [(i, job)] }
  /-- The job closes the queue and goes on. -/
  | closes {i : Nat} (hbusy : s.pool.workers[i]? = some (.busy .shutsDown))
      (hopen : s.pool.accepting = true) :
      Does s (.goOn i)
        { s with
          pool := { s.pool with workers := s.pool.workers.set i .joining, accepting := false } }
  /-- The job ends, well or not. -/
  | ends {i : Nat} {w : Worker α} {job : Job α} (hw : s.pool.workers[i]? = some w)
      (hcan : s.pool.CanEnd i job w) :
      Does s (.goOn i)
        { s with pool := s.pool.withEnded i job, ended := s.ended ++ [(i, job)] }
  | leaves {i : Nat} (hidle : s.pool.workers[i]? = some .idle) (hqueue : s.pool.queue = [])
      (hclosed : s.pool.accepting = false) :
      Does s (.leave i)
        { s with pool := { s.pool with workers := s.pool.workers.set i .gone } }

theorem any_isIdle_set {i : Nat} {w : Worker α} (pool : WorkerPool α) (v : Worker α)
    (hw : s.pool.workers[i]? = some w) (hset : pool.workers = s.pool.workers.set i v) :
    pool.workers[i]?.any Worker.isIdle = v.isIdle := by
  obtain ⟨hi, -⟩ := List.getElem?_eq_some_iff.mp hw
  rw [hset, List.getElem?_set_self hi, Option.any_some]

theorem does_of_move? (h : s.move? m = some t) : Does s m t := by
  cases m with
  | submit job =>
      by_cases hopen : s.pool.accepting = true
      · have hsubmit : s.pool.submit job
            = (true, { s.pool with queue := s.pool.queue ++ [job] }) := if_pos hopen
        rw [move?, hsubmit] at h
        exact Option.some.inj h ▸ .accepts hopen
      · have hsubmit : s.pool.submit job = (false, s.pool) := if_neg hopen
        rw [move?, hsubmit] at h
        exact Option.some.inj h ▸ .refuses (Bool.eq_false_iff.mpr hopen)
  | shutDown =>
      rw [move?] at h
      split at h
      · cases h
      · next hfree =>
          split at h
          · next hopen => exact Option.some.inj h ▸ .shuts hopen
          · next hopen =>
              exact Option.some.inj h ▸
                .finds (Bool.eq_false_iff.mpr hopen) (Bool.eq_false_iff.mpr hfree)
  | join i =>
      rw [move?] at h
      split at h
      · next hcan =>
          rw [Bool.and_eq_true, decide_eq_true_eq] at hcan
          exact Option.some.inj h ▸ .joins hcan.1 hcan.2
      · cases h
  | take i =>
      rw [move?] at h
      split at h
      · next job rest pool hqueue htake =>
          simp only [WorkerPool.take, hqueue] at htake
          split at htake
          · next hidle hfront =>
              obtain ⟨rfl, rfl⟩ := List.cons.inj hfront
              obtain rfl := Option.some.inj htake
              exact Option.some.inj h ▸ .takes hidle hqueue
          · cases htake
      · cases h
  | goOn i =>
      rw [move?] at h
      split at h
      · next job pool hheld hfinish =>
          obtain rfl := Option.some.inj h
          unfold held? at hheld
          obtain ⟨hbusy, hopen, rfl⟩ | ⟨w, job', hw, hcan, rfl⟩ := WorkerPool.finish_cases hfinish
          · rw [any_isIdle_set _ .joining hbusy rfl]
            exact .closes hbusy hopen
          · rw [hw, Option.bind_some, hcan.job?_eq] at hheld
            obtain rfl := Option.some.inj hheld
            rw [any_isIdle_set _ .idle hw rfl]
            exact .ends hw hcan
      · cases h
  | leave i =>
      rw [move?, WorkerPool.leave] at h
      split at h
      · next hidle hqueue =>
          split at h
          · cases h
          · next hopen =>
              exact Option.some.inj h ▸ .leaves hidle hqueue (Bool.eq_false_iff.mpr hopen)
      · cases h

/-! ### Taken, in hand and ended -/

/-- What worker `i` did, of what is on a list. -/
def ofWorker (i : Nat) (l : List (Nat × Job α)) : List (Nat × Job α) :=
  l.filter (·.1 = i)

theorem ofWorker_concat_self (i : Nat) (l : List (Nat × Job α)) (job : Job α) :
    ofWorker i (l ++ [(i, job)]) = ofWorker i l ++ [(i, job)] := by
  unfold ofWorker
  rw [List.filter_append, List.filter_singleton, decide_eq_true rfl, cond_true]

theorem ofWorker_concat_ne {i j : Nat} (hne : i ≠ j) (l : List (Nat × Job α)) (job : Job α) :
    ofWorker j (l ++ [(i, job)]) = ofWorker j l := by
  unfold ofWorker
  rw [List.filter_append, List.filter_singleton, decide_eq_false hne]
  exact List.append_nil _

/-- Lists that agree worker by worker agree. -/
theorem perm_of_ofWorker {l₁ l₂ : List (Nat × Job α)} (h : ∀ i, ofWorker i l₁ = ofWorker i l₂) :
    l₁.Perm l₂ := by
  classical
  rw [List.perm_iff_count]
  intro e
  have hcount (l : List (Nat × Job α)) : (ofWorker e.1 l).count e = l.count e :=
    List.count_filter (decide_eq_true rfl)
  rw [← hcount l₁, ← hcount l₂, h]

/-- What worker `i` of some has in hand. -/
def inHand (ws : List (Worker α)) (i : Nat) : List (Nat × Job α) :=
  ((ws[i]?.bind Worker.job?).map (i, ·)).toList

section

variable {ws : List (Worker α)} {i j : Nat} {w v : Worker α} {job : Job α}

theorem inHand_of_getElem? (hw : ws[i]? = some w) :
    inHand ws i = (w.job?.map (i, ·)).toList := by
  rw [inHand, hw, Option.bind_some]

theorem inHand_set_self (hw : ws[i]? = some w) (v : Worker α) :
    inHand (ws.set i v) i = (v.job?.map (i, ·)).toList := by
  obtain ⟨hi, -⟩ := List.getElem?_eq_some_iff.mp hw
  exact inHand_of_getElem? (List.getElem?_set_self hi)

theorem inHand_set_ne (hne : i ≠ j) (v : Worker α) : inHand (ws.set i v) j = inHand ws j := by
  rw [inHand, List.getElem?_set_ne hne, inHand]

/-- Every worker has ended what it has taken, but for what it has in hand. -/
def Paired (taken ended : List (Nat × Job α)) (ws : List (Worker α)) : Prop :=
  ∀ i, ofWorker i taken = ofWorker i ended ++ inHand ws i

variable {taken ended : List (Nat × Job α)}

theorem Paired.take (h : Paired taken ended ws) (hw : ws[i]? = some w) (hfree : w.job? = none)
    (hjob : v.job? = some job) : Paired (taken ++ [(i, job)]) ended (ws.set i v) := by
  intro j
  by_cases hj : i = j
  · subst hj
    rw [ofWorker_concat_self, h i, inHand_of_getElem? hw, hfree, inHand_set_self hw, hjob]
    simp
  · rw [ofWorker_concat_ne hj, inHand_set_ne hj, h j]

theorem Paired.finish (h : Paired taken ended ws) (hw : ws[i]? = some w)
    (hjob : w.job? = some job) (hfree : v.job? = none) :
    Paired taken (ended ++ [(i, job)]) (ws.set i v) := by
  intro j
  by_cases hj : i = j
  · subst hj
    rw [ofWorker_concat_self, h i, inHand_of_getElem? hw, hjob, inHand_set_self hw, hfree]
    simp
  · rw [ofWorker_concat_ne hj, inHand_set_ne hj, h j]

theorem Paired.hold (h : Paired taken ended ws) (hw : ws[i]? = some w) (hsame : v.job? = w.job?) :
    Paired taken ended (ws.set i v) := by
  intro j
  by_cases hj : i = j
  · subst hj
    rw [h i, inHand_of_getElem? hw, inHand_set_self hw, hsame]
  · rw [inHand_set_ne hj, h j]

/-- With nothing in hand, everything that was taken has ended. -/
theorem Paired.perm (h : Paired taken ended ws) (hnone : ∀ w ∈ ws, w.job? = none) :
    ended.Perm taken := by
  refine perm_of_ofWorker fun i => ?_
  have hfree : inHand ws i = [] := by
    cases hw : ws[i]? with
    | none => rw [inHand, hw]; rfl
    | some w => rw [inHand_of_getElem? hw, hnone w (List.mem_of_getElem? hw)]; rfl
  rw [h i, hfree, List.append_nil]

end

/-! ### What every move keeps -/

/-- Somebody has called to shut the pool down, from outside or from a job. -/
def HasShut (s : PoolRun α) : Prop :=
  s.calls ≠ [] ∨ .joining ∈ s.pool.workers ∨ ∃ i, (i, .shutsDown) ∈ s.ended

/-- What is so however the threads take turns. -/
structure Sound (threads : Nat) (s : PoolRun α) : Prop where
  size : s.pool.workers.length = clampThreads threads
  order : s.taken.map Prod.snd ++ s.pool.queue = s.accepted
  within : ∀ e ∈ s.taken, e.1 < s.pool.workers.length
  paired : Paired s.taken s.ended s.pool.workers
  log : s.pool.log = s.ended.filterMap fun e => e.2.result?
  gone : .gone ∈ s.pool.workers → s.pool.queue = [] ∧ s.pool.accepting = false
  shut : s.pool.accepting = false ↔ s.HasShut
  alone : s.pool.workers.countP Worker.isJoining ≤ 1
  joined : .joined ∈ s.calls → s.pool.allGone = true
  late : .late ∈ s.calls → .joined ∈ s.calls ∨ ∃ i, (i, .shutsDown) ∈ s.ended

variable {threads : Nat}

theorem sound_start (name : String) (threads : Nat) :
    Sound threads (start name threads : PoolRun α) := by
  have hworkers : ∀ w ∈ (start name threads : PoolRun α).pool.workers, w = .idle :=
    fun w hw => List.eq_of_mem_replicate hw
  refine ⟨List.length_replicate, rfl, nofun, ?_, rfl, ?_, ?_, ?_, nofun, nofun⟩
  · intro i
    have hfree : ((start name threads : PoolRun α).pool.workers[i]?.bind Worker.job?) = none := by
      rw [Option.bind_eq_none_iff]
      intro w hw
      rw [hworkers w (List.mem_of_getElem? hw)]
      rfl
    rw [inHand, hfree]
    rfl
  · intro hgone
    cases hworkers _ hgone
  · refine ⟨nofun, ?_⟩
    rintro (hcalls | hjoining | ⟨i, hended⟩)
    · exact absurd rfl hcalls
    · cases hworkers _ hjoining
    · cases hended
  · rw [List.countP_eq_zero.mpr fun w hw => by rw [hworkers w hw]; exact Bool.false_ne_true]
    exact Nat.zero_le 1

theorem Does.length_workers (h : Does s m t) : t.pool.workers.length = s.pool.workers.length := by
  cases h with
  | accepts | refuses | shuts | finds | joins => rfl
  | takes | closes | ends | leaves => exact List.length_set

theorem Does.order (h : Does s m t) (hs : s.taken.map Prod.snd ++ s.pool.queue = s.accepted) :
    t.taken.map Prod.snd ++ t.pool.queue = t.accepted := by
  cases h with
  | accepts hopen =>
      show _ ++ (_ ++ [_]) = _ ++ [_]
      rw [← List.append_assoc, hs]
  | takes hidle hqueue =>
      show (_ ++ [_]).map Prod.snd ++ _ = s.accepted
      rw [List.map_append, List.append_assoc, ← hs, hqueue]
      rfl
  | refuses | shuts | finds | joins | closes | ends | leaves => exact hs

theorem Does.within (h : Does s m t) (hs : ∀ e ∈ s.taken, e.1 < s.pool.workers.length) :
    ∀ e ∈ t.taken, e.1 < t.pool.workers.length := by
  rw [h.length_workers]
  cases h with
  | takes hidle hqueue =>
      intro e he
      rcases List.mem_append.mp he with hold | hnew
      · exact hs e hold
      · rw [List.mem_singleton.mp hnew]
        exact (List.getElem?_eq_some_iff.mp hidle).1
  | accepts | refuses | shuts | finds | joins | closes | ends | leaves => exact hs

theorem Does.paired (h : Does s m t) (hs : Paired s.taken s.ended s.pool.workers) :
    Paired t.taken t.ended t.pool.workers := by
  cases h with
  | takes hidle hqueue => exact hs.take hidle rfl rfl
  | closes hbusy hopen => exact hs.hold hbusy rfl
  | ends hw hcan => exact hs.finish hw hcan.job?_eq rfl
  | leaves hidle hqueue hclosed => exact hs.hold hidle rfl
  | accepts | refuses | shuts | finds | joins => exact hs

theorem Does.log (h : Does s m t)
    (hs : s.pool.log = s.ended.filterMap fun e => e.2.result?) :
    t.pool.log = t.ended.filterMap fun e => e.2.result? := by
  cases h with
  | @ends i w job hw hcan =>
      show s.pool.log ++ job.result?.toList = _
      rw [List.filterMap_append, hs]
      cases job <;> rfl
  | accepts | refuses | shuts | finds | joins | takes | closes | leaves => exact hs

/-- Nobody goes unless the queue is empty and closed, and then it stays so. -/
theorem Does.gone (h : Does s m t)
    (hs : .gone ∈ s.pool.workers → s.pool.queue = [] ∧ s.pool.accepting = false) :
    .gone ∈ t.pool.workers → t.pool.queue = [] ∧ t.pool.accepting = false := by
  have hset (i : Nat) (v : Worker α) (hv : v ≠ .gone)
      (hgone : .gone ∈ s.pool.workers.set i v) : .gone ∈ s.pool.workers :=
    (List.mem_or_eq_of_mem_set hgone).resolve_right hv.symm
  intro hgone
  cases h with
  | accepts hopen =>
      rw [(hs hgone).2] at hopen
      cases hopen
  | takes hidle hqueue =>
      rw [(hs (hset _ (.busy _) nofun hgone)).1] at hqueue
      cases hqueue
  | shuts hopen => exact ⟨(hs hgone).1, rfl⟩
  | closes hbusy hopen => exact ⟨(hs (hset _ .joining nofun hgone)).1, rfl⟩
  | ends hw hcan => exact hs (hset _ .idle nofun hgone)
  | leaves hidle hqueue hclosed => exact ⟨hqueue, hclosed⟩
  | refuses | finds | joins => exact hs hgone

theorem joining_mem_set {ws : List (Worker α)} {i : Nat} {w : Worker α} (hw : ws[i]? = some w)
    (hwas : w ≠ .joining) (v : Worker α) (his : v ≠ .joining) :
    .joining ∈ ws.set i v ↔ .joining ∈ ws := by
  have hmoved := OneMoved.of_set hw v
  constructor
  · intro hnew
    exact (hmoved.old _ hnew).resolve_left his.symm
  · intro hold
    exact hmoved.kept _ hold hwas.symm

theorem mem_concat_shutsDown {ended : List (Nat × Job α)} {i : Nat} {job : Job α}
    (hjob : job ≠ .shutsDown) :
    (∃ j, (j, .shutsDown) ∈ ended ++ [(i, job)]) ↔ ∃ j, (j, .shutsDown) ∈ ended := by
  refine exists_congr fun j => ?_
  rw [List.mem_append, List.mem_singleton, Prod.mk.injEq]
  exact or_iff_left fun hnew => hjob hnew.2.symm

/-- The queue is closed by a call, and every call closes it or finds it closed. -/
theorem Does.shut (h : Does s m t) (hs : s.pool.accepting = false ↔ s.HasShut) :
    t.pool.accepting = false ↔ t.HasShut := by
  cases h with
  | accepts | refuses => exact hs
  | shuts hopen => exact iff_of_true rfl (.inl (List.append_ne_nil_of_right_ne_nil _ nofun))
  | finds hclosed hfree => exact iff_of_true hclosed (.inl (List.append_ne_nil_of_right_ne_nil _ nofun))
  | @joins i hcall hgone =>
      have hold : s.calls ≠ [] := List.ne_nil_of_mem (List.mem_of_getElem? hcall)
      have hnew : s.calls.set i .joined ≠ [] :=
        List.ne_nil_of_mem (OneMoved.of_set hcall .joined).is
      exact iff_of_true (hs.mpr (.inl hold)) (.inl hnew)
  | takes hidle hqueue =>
      rw [hs]
      exact or_congr_right (or_congr_left (joining_mem_set hidle nofun (.busy _) nofun).symm)
  | closes hbusy hopen =>
      exact iff_of_true rfl (.inr (.inl (OneMoved.of_set hbusy .joining).is))
  | @ends i w job hw hcan =>
      by_cases hjob : job = .shutsDown
      · have hclosed : s.pool.accepting = false := by
          cases w with
          | busy held => exact hcan.2 hjob
          | joining => exact hs.mpr (.inr (.inl (List.mem_of_getElem? hw)))
          | idle | gone => exact hcan.elim
        refine iff_of_true hclosed (.inr (.inr ⟨i, ?_⟩))
        rw [hjob]
        exact List.mem_concat_self
      · have hw' : w ≠ .joining := by
          rintro rfl
          exact hjob hcan.1
        show s.pool.accepting = false ↔ _
        rw [hs]
        exact or_congr_right (or_congr (joining_mem_set hw hw' .idle nofun).symm
          (mem_concat_shutsDown hjob).symm)
  | leaves hidle hqueue hclosed =>
      rw [hs]
      exact or_congr_right (or_congr_left (joining_mem_set hidle nofun .gone nofun).symm)

/-- A job that closes the queue is the first to do so, so no other waits for the rest to go. -/
theorem Does.alone (h : Does s m t) (hshut : s.pool.accepting = false ↔ s.HasShut)
    (hs : s.pool.workers.countP Worker.isJoining ≤ 1) :
    t.pool.workers.countP Worker.isJoining ≤ 1 := by
  have hset {i : Nat} {w v : Worker α} (hw : s.pool.workers[i]? = some w) :
      (s.pool.workers.set i v).countP Worker.isJoining + w.isJoining.toNat
        = s.pool.workers.countP Worker.isJoining + v.isJoining.toNat :=
    (OneMoved.of_set hw v).countP Worker.isJoining
  cases h with
  | accepts | refuses | shuts | finds | joins => exact hs
  | @takes i job rest hidle hqueue =>
      have hcount := hset (v := .busy job) hidle
      exact Nat.le_trans (Nat.le_of_eq hcount) hs
  | closes hbusy hopen =>
      have hnone : s.pool.workers.countP Worker.isJoining = 0 := by
        rw [List.countP_eq_zero]
        intro w hw hjoining
        have hclosed := hshut.mpr (.inr (.inl (Worker.isJoining_iff.mp hjoining ▸ hw)))
        rw [hopen] at hclosed
        cases hclosed
      have hcount := hset (v := .joining) hbusy
      rw [hnone] at hcount
      exact Nat.le_of_eq hcount
  | ends hw hcan =>
      have hcount := hset (v := .idle) hw
      exact Nat.le_trans (Nat.le_of_add_right_le (Nat.le_of_eq hcount)) hs
  | leaves hidle hqueue hclosed =>
      have hcount := hset (v := .gone) hidle
      exact Nat.le_trans (Nat.le_of_eq hcount) hs

/-- Who has gone stays away. -/
theorem Does.allGone (h : Does s m t) (hs : s.pool.allGone = true) : t.pool.allGone = true := by
  have hgone {i : Nat} {w : Worker α} (hw : s.pool.workers[i]? = some w) : w = .gone :=
    Worker.isGone_iff.mp (List.all_eq_true.mp hs w (List.mem_of_getElem? hw))
  cases h with
  | accepts | refuses | shuts | finds | joins => exact hs
  | takes hidle hqueue => cases hgone hidle
  | closes hbusy hopen => cases hgone hbusy
  | ends hw hcan =>
      obtain rfl := hgone hw
      exact hcan.elim
  | leaves hidle hqueue hclosed => cases hgone hidle

theorem Does.joined (h : Does s m t) (hs : .joined ∈ s.calls → s.pool.allGone = true) :
    .joined ∈ t.calls → t.pool.allGone = true := by
  intro hjoined
  have hgone := h.allGone
  cases h with
  | shuts hopen | finds hclosed hfree =>
      rcases List.mem_append.mp hjoined with hold | hnew
      · exact hs hold
      · cases List.mem_singleton.mp hnew
  | joins hcall hall => exact hall
  | accepts | refuses | takes | closes | ends | leaves => exact hgone (hs hjoined)

/-- Who finds the pool shut down comes behind a call that has waited, or behind a job. -/
theorem Does.late (h : Does s m t) (hshut : s.pool.accepting = false ↔ s.HasShut)
    (hs : .late ∈ s.calls → .joined ∈ s.calls ∨ ∃ i, (i, .shutsDown) ∈ s.ended) :
    .late ∈ t.calls → .joined ∈ t.calls ∨ ∃ i, (i, .shutsDown) ∈ t.ended := by
  intro hlate
  cases h with
  | shuts hopen =>
      have hold : .late ∈ s.calls := (List.mem_append.mp hlate).resolve_right (by simp)
      exact (hs hold).imp_left (List.mem_append_left _)
  | finds hclosed hfree =>
      rw [isAwaited, Bool.or_eq_false_iff, List.any_eq_false, List.any_eq_false] at hfree
      rcases hshut.mp hclosed with hcalls | hjoining | hended
      · obtain ⟨c, hc⟩ := List.exists_mem_of_ne_nil _ hcalls
        cases c with
        | waiting => exact absurd rfl (hfree.2 _ hc)
        | joined => exact .inl (List.mem_append_left _ hc)
        | late => exact (hs hc).imp_left (List.mem_append_left _)
      · exact absurd rfl (hfree.1 _ hjoining)
      · exact .inr hended
  | joins hcall hgone => exact .inl (OneMoved.of_set hcall .joined).is
  | ends hw hcan =>
      refine (hs hlate).imp_right ?_
      rintro ⟨i, hended⟩
      exact ⟨i, List.mem_append_left _ hended⟩
  | accepts | refuses | takes | closes | leaves => exact hs hlate

theorem Sound.move (hs : Sound threads s) (h : s.move? m = some t) : Sound threads t := by
  have hdoes := does_of_move? h
  exact {
    size := hdoes.length_workers.trans hs.size
    order := hdoes.order hs.order
    within := hdoes.within hs.within
    paired := hdoes.paired hs.paired
    log := hdoes.log hs.log
    gone := hdoes.gone hs.gone
    shut := hdoes.shut hs.shut
    alone := hdoes.alone hs.shut hs.alone
    joined := hdoes.joined hs.joined
    late := hdoes.late hs.shut hs.late }

theorem sound_play (moves : List (PoolMove α)) (hs : Sound threads s)
    (h : play move? s moves = some t) : Sound threads t :=
  play_induction (fun _ _ _ hsound hmove => hsound.move hmove) moves hs h

end PoolRun

end Interleaving

end Lifecast
