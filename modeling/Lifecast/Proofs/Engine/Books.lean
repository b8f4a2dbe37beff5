/-
The books of a server that sends to a group.

Every datagram is booked for the run in which it was queued.  As long as a run has a pool whose
workers may still move, what its pool owes is all that the run has queued and not sent, and nothing
that the pool sends belongs to another run (`OnBooks`).  A run without such a pool owes nothing
(`Cleared`).  It makes no difference to the books whether the server still runs with a pool, a stop
waits for it or it was left behind.
-/
import Mathlib.Data.List.Perm.Subperm
import Mathlib.Logic.Function.Basic
import Lifecast.Interleaving.SenderCalls
import Lifecast.Proofs.WorkerPool.Account

namespace Lifecast

namespace Interleaving

/-! ### The datagrams of a run -/

namespace Posted

variable {run r : Nat} {l : List Posted}

theorem ofRun_append (l₁ l₂ : List Posted) : ofRun r (l₁ ++ l₂) = ofRun r l₁ ++ ofRun r l₂ :=
  List.filter_append ..

theorem ofRun_of_all (hall : ∀ d ∈ l, d.run = run) : ofRun run l = l :=
  List.filter_eq_self.mpr fun d hd => decide_eq_true (hall d hd)

theorem ofRun_of_none (hall : ∀ d ∈ l, d.run = run) (hr : r ≠ run) : ofRun r l = [] :=
  List.filter_eq_nil_iff.mpr fun d hd heq => hr ((of_decide_eq_true heq).symm.trans (hall d hd))

theorem ofRun_append_other (l₁ : List Posted) (hall : ∀ d ∈ l, d.run = run) (hr : r ≠ run) :
    ofRun r (l₁ ++ l) = ofRun r l₁ := by
  rw [ofRun_append, ofRun_of_none hall hr, List.append_nil]

theorem mem_ofRun {d : Posted} (hd : d ∈ l) : d ∈ ofRun d.run l :=
  List.mem_filter.mpr ⟨hd, decide_eq_true rfl⟩

/-- Lists that agree run by run agree. -/
theorem perm_of_ofRun {l₁ l₂ : List Posted} (h : ∀ r, (ofRun r l₁).Perm (ofRun r l₂)) :
    l₁.Perm l₂ := by
  rw [List.perm_iff_count]
  intro d
  have hcount (l : List Posted) : (ofRun d.run l).count d = l.count d :=
    List.count_filter (decide_eq_true rfl)
  rw [← hcount l₁, ← hcount l₂]
  exact (h d.run).count_eq d

theorem run_of_mem {d : Posted} (hd : d ∈ ofRun run l) : d.run = run :=
  of_decide_eq_true (List.mem_filter.mp hd).2

end Posted

open Posted WorkerPool

/-! ### What a run owes -/

/-- What a pool says of what its run has queued and sent. -/
structure OnBooks (run : Nat) (workers : List Nat) (queued wire : List Posted)
    (p : WorkerPool Posted) : Prop where
  plain : p.Plain
  number : workers[run]? = some p.workers.length
  sent : ofRun run wire = p.log
  taken : (ofRun run queued).Perm p.account
  order : p.workers.length = 1 → ofRun run queued = p.account

/-- All that was queued in a run has been sent, and one worker alone has sent it in order. -/
def Cleared (run : Nat) (workers : List Nat) (queued wire : List Posted) : Prop :=
  (ofRun run wire).Perm (ofRun run queued) ∧
    (workers[run]? = some 1 → ofRun run wire = ofRun run queued)

section

variable {run : Nat} {workers : List Nat} {queued wire : List Posted} {p q : WorkerPool Posted}

/-- The pool has one worker if its run has. -/
theorem OnBooks.alone (h : OnBooks run workers queued wire p) (hone : workers[run]? = some 1) :
    p.workers.length = 1 :=
  Option.some.inj (h.number.symm.trans hone)

/-- Whatever a worker sends was queued in the run of its pool. -/
theorem OnBooks.run_of_sends (h : OnBooks run workers queued wire p) (hworks : Works p q) :
    ∀ d ∈ q.log.drop p.log.length, d.run = run := by
  intro d hd
  have hlog : d ∈ q.account := List.mem_append_left _ (List.mem_of_mem_drop hd)
  exact run_of_mem (h.taken.mem_iff.mpr (hworks.account_perm.mem_iff.mp hlog))

theorem OnBooks.cleared (h : OnBooks run workers queued wire p) (hgone : p.allGone = true) :
    Cleared run workers queued wire := by
  have hall : p.account = p.log := account_of_allGone h.plain hgone
  unfold Cleared
  rw [h.sent, ← hall]
  exact ⟨h.taken.symm, fun hone => (h.order (h.alone hone)).symm⟩

end

/-! ### The books of all runs -/

/-- What has been queued and sent in all runs.  A run that has a pool owes what its pool owes. -/
structure Books (workers : List Nat) (queued wire : List Posted)
    (pools : Nat → Option (WorkerPool Posted)) : Prop where
  owing : ∀ r p, pools r = some p → OnBooks r workers queued wire p
  cleared : ∀ r, pools r = none → Cleared r workers queued wire
  ahead : ∀ r, workers.length ≤ r → ofRun r wire = [] ∧ ofRun r queued = []

namespace Books

variable {run : Nat} {workers : List Nat} {queued wire : List Posted} {p q : WorkerPool Posted}
  {pools : Nat → Option (WorkerPool Posted)}

/-- What happens in one run is not in the books of the others. -/
theorem change (h : Books workers queued wire pools) {queued' wire' : List Posted}
    (hqueued : ∀ r ≠ run, ofRun r queued' = ofRun r queued)
    (hwire : ∀ r ≠ run, ofRun r wire' = ofRun r wire)
    (hq : OnBooks run workers queued' wire' q) :
    Books workers queued' wire' (Function.update pools run (some q)) := by
  have hrun : run < workers.length := (List.getElem?_eq_some_iff.mp hq.number).1
  refine ⟨?_, ?_, ?_⟩
  · intro r p hp
    rcases eq_or_ne r run with rfl | hr
    · rw [Function.update_self] at hp
      exact Option.some.inj hp ▸ hq
    · rw [Function.update_of_ne hr] at hp
      obtain ⟨hplain, hnumber, hsent, htaken, horder⟩ := h.owing r p hp
      rw [← hwire r hr] at hsent
      rw [← hqueued r hr] at htaken horder
      exact ⟨hplain, hnumber, hsent, htaken, horder⟩
  · intro r hnone
    rcases eq_or_ne r run with rfl | hr
    · rw [Function.update_self] at hnone
      cases hnone
    · rw [Function.update_of_ne hr] at hnone
      unfold Cleared
      rw [hwire r hr, hqueued r hr]
      exact h.cleared r hnone
  · intro r hr
    have hne : r ≠ run := Nat.ne_of_gt (Nat.lt_of_lt_of_le hrun hr)
    rw [hwire r hne, hqueued r hne]
    exact h.ahead r hr

theorem begin (h : Books workers queued wire pools) (hp : p.Plain) (hnew : p.account = []) :
    Books (workers ++ [p.workers.length]) queued wire
      (Function.update pools workers.length (some p)) := by
  obtain ⟨hwire, hqueued⟩ := h.ahead workers.length (Nat.le_refl _)
  have hother {r : Nat} (hr : r ≠ workers.length) :
      (workers ++ [p.workers.length])[r]? = workers[r]? := by
    rcases Nat.lt_or_gt_of_ne hr with hr | hr
    · exact List.getElem?_append_left hr
    · rw [List.getElem?_eq_none (Nat.le_of_lt hr), List.getElem?_eq_none]
      rw [List.length_append, List.length_singleton]
      exact hr
  refine ⟨?_, ?_, ?_⟩
  · intro r p' hp'
    rcases eq_or_ne r workers.length with rfl | hr
    · rw [Function.update_self] at hp'
      obtain rfl := Option.some.inj hp'
      refine ⟨hp, List.getElem?_concat_length, ?_, ?_, ?_⟩
      · rw [hwire, (List.append_eq_nil_iff.mp hnew).1]
      · rw [hqueued, hnew]
      · rw [hqueued, hnew]
        exact fun _ => rfl
    · rw [Function.update_of_ne hr] at hp'
      obtain ⟨hplain, hnumber, hsent, htaken, horder⟩ := h.owing r p' hp'
      exact ⟨hplain, (hother hr).trans hnumber, hsent, htaken, horder⟩
  · intro r hr
    rcases eq_or_ne r workers.length with rfl | hne
    · rw [Function.update_self] at hr
      cases hr
    · rw [Function.update_of_ne hne] at hr
      unfold Cleared
      rw [hother hne]
      exact h.cleared r hr
  · intro r hr
    rw [List.length_append, List.length_singleton] at hr
    exact h.ahead r (Nat.le_of_succ_le hr)

theorem post {data : Bytes} (h : Books workers queued wire pools) (hp : pools run = some p)
    (submitted : p.submit (.leaves ⟨run, data⟩) = (true, q)) :
    Books workers (queued ++ [⟨run, data⟩]) wire (Function.update pools run (some q)) := by
  obtain ⟨hplain, hnumber, hsent, htaken, horder⟩ := h.owing run p hp
  obtain ⟨hplain, haccount, hlog, hworkers, -⟩ := plain_submit hplain submitted
  have hrun : ∀ d ∈ [(⟨run, data⟩ : Posted)], d.run = run := by simp
  have hthis : ofRun run (queued ++ [⟨run, data⟩]) = ofRun run queued ++ [⟨run, data⟩] := by
    rw [ofRun_append, ofRun_of_all hrun]
  refine h.change (fun r hr => ofRun_append_other queued hrun hr) (fun _ _ => rfl) ?_
  refine ⟨hplain, hworkers ▸ hnumber, hlog ▸ hsent, ?_, ?_⟩
  · rw [hthis, haccount]
    exact htaken.append_right _
  · intro halone
    rw [hthis, haccount, horder (hworkers ▸ halone)]

theorem work (h : Books workers queued wire pools) (hp : pools run = some p)
    (hworks : Works p q) :
    Books workers queued (wire ++ q.log.drop p.log.length)
      (Function.update pools run (some q)) := by
  have hbooks := h.owing run p hp
  have hsends := hbooks.run_of_sends hworks
  obtain ⟨hplain, hnumber, hsent, htaken, horder⟩ := hbooks
  obtain ⟨hplain, hlength, -⟩ := hworks.plain hplain
  obtain ⟨more, hmore⟩ := hworks.log
  refine h.change (fun _ _ => rfl) (fun r hr => ofRun_append_other wire hsends hr) ?_
  refine ⟨hplain, hlength ▸ hnumber, ?_, htaken.trans hworks.account_perm.symm, ?_⟩
  · rw [ofRun_append, ofRun_of_all hsends, hsent, hmore, List.drop_left]
  · intro halone
    rw [horder (hlength ▸ halone), hworks.account_eq (hlength ▸ halone)]

theorem close (h : Books workers queued wire pools) (hp : pools run = some p) :
    Books workers queued wire (Function.update pools run (some p.closeQueue)) := by
  obtain ⟨hplain, hnumber, hsent, htaken, horder⟩ := h.owing run p hp
  exact h.change (fun _ _ => rfl) (fun _ _ => rfl)
    ⟨plain_closeQueue hplain, hnumber, hsent, htaken, horder⟩

/-- A pool is taken off the books once its workers are gone. -/
theorem finish (h : Books workers queued wire pools) (hp : pools run = some p)
    (hgone : p.allGone = true) : Books workers queued wire (Function.update pools run none) := by
  refine ⟨?_, ?_, h.ahead⟩
  · intro r q hq
    rcases eq_or_ne r run with rfl | hr
    · rw [Function.update_self] at hq
      cases hq
    · rw [Function.update_of_ne hr] at hq
      exact h.owing r q hq
  · intro r hr
    rcases eq_or_ne r run with rfl | hne
    · exact (h.owing r p hp).cleared hgone
    · rw [Function.update_of_ne hne] at hr
      exact h.cleared r hr

/-- Nothing is sent that was not queued. -/
theorem sent_subperm (h : Books workers queued wire pools) (r : Nat) :
    (ofRun r wire).Subperm (ofRun r queued) ∧
      (workers[r]? = some 1 → ofRun r wire <+: ofRun r queued) := by
  cases hpool : pools r with
  | none =>
      obtain ⟨hperm, heq⟩ := h.cleared r hpool
      exact ⟨hperm.subperm, fun hone => heq hone ▸ List.prefix_refl _⟩
  | some p =>
      have hp := h.owing r p hpool
      rw [hp.sent]
      refine ⟨(List.sublist_append_left _ _).subperm.trans hp.taken.symm.subperm, ?_⟩
      intro hone
      rw [hp.order (hp.alone hone)]
      exact List.prefix_append _ _

/-- Every datagram belongs to a run that has begun. -/
theorem run_lt (h : Books workers queued wire pools) : ∀ d ∈ queued, d.run < workers.length := by
  intro d hd
  by_contra hlate
  have hmem : d ∈ ofRun d.run queued := mem_ofRun hd
  rw [(h.ahead d.run (Nat.le_of_not_lt hlate)).2] at hmem
  cases hmem

/-- When there is no pool any more, all that was queued has been sent. -/
theorem perm_of_none (h : Books workers queued wire pools) (hnone : ∀ r, pools r = none) :
    wire.Perm queued :=
  perm_of_ofRun fun r => (h.cleared r (hnone r)).1

end Books

/-! ### Which pools there are -/

/-- The pools whose workers may still move: that of the run that is on, and those that were left
behind. -/
def pooled (behind : List (Option (WorkerPool Posted))) (run : Nat)
    (pool : Option (WorkerPool Posted)) (r : Nat) : Option (WorkerPool Posted) :=
  if r = run then pool else behind[r]?.join

section

variable {behind : List (Option (WorkerPool Posted))} {run r : Nat}
  {pool pool' : Option (WorkerPool Posted)}

@[simp] theorem pooled_self : pooled behind run pool run = pool :=
  if_pos rfl

theorem pooled_of_ne (hr : r ≠ run) : pooled behind run pool r = behind[r]?.join :=
  if_neg hr

theorem pooled_now :
    pooled behind run pool' = Function.update (pooled behind run pool) run pool' := by
  funext r
  rcases eq_or_ne r run with rfl | hr
  · rw [Function.update_self, pooled_self]
  · rw [Function.update_of_ne hr, pooled_of_ne hr, pooled_of_ne hr]

theorem pooled_set (hover : behind.length = run) (hr : r < run) :
    pooled (behind.set r pool') run pool = Function.update (pooled behind run pool) r pool' := by
  funext r'
  rcases eq_or_ne r' r with rfl | hne
  · rw [Function.update_self, pooled_of_ne (Nat.ne_of_lt hr), List.getElem?_set_self (hover ▸ hr)]
    rfl
  · rw [Function.update_of_ne hne]
    unfold pooled
    rw [List.getElem?_set_ne hne.symm]

theorem pooled_concat (hover : behind.length = run) :
    pooled (behind ++ [pool']) (run + 1) none
      = Function.update (pooled behind run pool) run pool' := by
  funext r
  rcases Nat.lt_trichotomy r run with hr | rfl | hr
  · rw [Function.update_of_ne (Nat.ne_of_lt hr), pooled_of_ne (Nat.ne_of_lt hr),
      pooled_of_ne (Nat.ne_of_lt (Nat.lt_succ_of_lt hr)), List.getElem?_append_left (hover ▸ hr)]
  · rw [Function.update_self, pooled_of_ne (Nat.ne_of_lt (Nat.lt_succ_self r)), ← hover,
      List.getElem?_concat_length]
    rfl
  · rw [Function.update_of_ne (Nat.ne_of_gt hr), pooled_of_ne (Nat.ne_of_gt hr),
      List.getElem?_eq_none (hover ▸ Nat.le_of_lt hr)]
    unfold pooled
    rw [List.getElem?_eq_none (by rw [List.length_append, hover]; exact hr)]
    exact ite_self _

end

end Interleaving

end Lifecast
