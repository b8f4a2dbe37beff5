/-
What the takes of a shared slot return.

The flag is raised if and only if a store has ended since the last take began: a store raises it
when it ends, a take lowers it when it begins.  So a take finds it raised just if it begins behind
more stores than the take before (`Follows`), and whoever has lowered it reads a frame that is at
least as new as the store that raised it.  This is why nothing is lost: when all stores have ended
and the flag is down, the take that lowered it last has read the newest frame or is about to.

It is not why nothing is returned twice.  A frame can be read as soon as it is written, before its
own store has raised the flag, by takes that were let in by the stores before.  Of the takes that
return one frame each begins behind more stores than the one before, the second at the earliest
when all stores but the frame's own have ended, and the third when that one has, too.  There is no
fourth (`length_le_three`), but there can be a third (`returned_thrice`).
-/
import Mathlib.Data.List.Chain
import Lifecast.Interleaving.SharedSlot

namespace Lifecast

namespace Interleaving

namespace Take

/-- A take that ended before the first store. -/
def start : Take :=
  { found := false, answer := none, before := 0, upTo := 0 }

/-- Did the take return the frame of the store with some number? -/
def returns (t : Take) (store : Nat) : Bool :=
  t.found && t.upTo == store

/-- What a take has to do with the one before. -/
structure Follows (t u : Take) : Prop where
  before_le : t.before ≤ u.before
  /-- At most one store was under way when the first of them ended. -/
  upTo_le_succ : t.upTo ≤ u.before + 1
  upTo_le : t.upTo ≤ u.upTo
  /-- The flag was raised if and only if a store had ended in the meantime. -/
  found_iff : u.found = true ↔ t.before < u.before

/-- What a take has to do with all before. -/
structure Succeeds (t u : Take) : Prop where
  before_le : t.before ≤ u.before
  upTo_le_succ : t.upTo ≤ u.before + 1
  upTo_le : t.upTo ≤ u.upTo
  before_lt : u.found = true → t.before < u.before

theorem Follows.succeeds {t u : Take} (h : Follows t u) : Succeeds t u :=
  ⟨h.before_le, h.upTo_le_succ, h.upTo_le, h.found_iff.mp⟩

instance : Trans Succeeds Succeeds Succeeds where
  trans h k :=
    ⟨h.before_le.trans k.before_le, h.upTo_le_succ.trans (Nat.succ_le_succ k.before_le),
      h.upTo_le.trans k.upTo_le, fun hfound => h.before_le.trans_lt (k.before_lt hfound)⟩

/-- What a take has answered, after some frames were written. -/
structure Answers (written : List Bytes) (t : Take) : Prop where
  before_le : t.before ≤ t.upTo
  upTo_le : t.upTo ≤ written.length
  before_pos : t.found = true → 0 < t.before
  /-- The frame of the last store that had written its frame, if the flag was raised. -/
  answer : t.answer = if t.found then written[t.upTo - 1]? else none

/-- It stays so when another frame is written. -/
theorem Answers.write {written : List Bytes} {t : Take} (h : t.Answers written) (frame : Bytes) :
    t.Answers (written ++ [frame]) := by
  refine ⟨h.before_le, ?_, h.before_pos, ?_⟩
  · rw [List.length_append]
    exact Nat.le_add_right_of_le h.upTo_le
  · cases hfound : t.found with
    | false => simp [h.answer, hfound]
    | true =>
        have hpos := h.before_pos hfound
        have hle := h.before_le
        have hlength := h.upTo_le
        rw [h.answer, hfound, if_pos rfl, if_pos rfl, List.getElem?_append_left (by omega)]

/-- A take returns something if and only if it has found the flag raised. -/
theorem Answers.isSome_answer {written : List Bytes} {t : Take} (h : t.Answers written) :
    t.answer.isSome = t.found := by
  have hle := h.before_le
  have hlength := h.upTo_le
  cases hfound : t.found with
  | false => rw [h.answer, hfound]; rfl
  | true =>
      have hpos := h.before_pos hfound
      rw [h.answer, hfound, if_pos rfl, List.getElem?_eq_getElem (by omega)]
      rfl

/-- **Of the takes that return one frame there are at most three.** -/
theorem length_le_three {takes : List Take} {k : Nat} (horder : takes.Pairwise Succeeds)
    (hbefore : ∀ t ∈ takes, t.before ≤ t.upTo) (hreturns : ∀ t ∈ takes, t.returns k = true) :
    takes.length ≤ 3 := by
  have hplace (t : Take) (ht : t ∈ takes) : t.found = true ∧ t.upTo = k ∧ t.before ≤ k := by
    obtain ⟨hfound, hupTo⟩ := Bool.and_eq_true_iff.mp (hreturns t ht)
    exact ⟨hfound, eq_of_beq hupTo, eq_of_beq hupTo ▸ hbefore t ht⟩
  match takes, horder, hplace with
  | [], _, _ | [_], _, _ | [_, _], _, _ | [_, _, _], _, _ => simp
  | t :: u :: v :: w :: rest, horder, hplace =>
      simp only [List.pairwise_cons, List.mem_cons, forall_eq_or_imp] at horder hplace
      obtain ⟨⟨htu, -⟩, ⟨huv, -⟩, ⟨hvw, -⟩, -⟩ := horder
      obtain ⟨⟨-, ht, -⟩, ⟨-, -, -⟩, ⟨hv, -, -⟩, ⟨hw, -, hlast⟩, -⟩ := hplace
      have hsecond := htu.upTo_le_succ
      have hthird := huv.before_lt hv
      have hfourth := hvw.before_lt hw
      omega

/-- **All but one of them ran beside the store of the frame.** -/
theorem length_le_one {takes : List Take} {k : Nat} (horder : takes.Pairwise Succeeds)
    (hbefore : ∀ t ∈ takes, t.before ≤ t.upTo) (hreturns : ∀ t ∈ takes, t.returns k = true)
    (hapart : ∀ t ∈ takes, t.overlaps k = false) : takes.length ≤ 1 := by
  have hplace (t : Take) (ht : t ∈ takes) : t.found = true ∧ t.before = k := by
    obtain ⟨hfound, hupTo⟩ := Bool.and_eq_true_iff.mp (hreturns t ht)
    have hle := hbefore t ht
    have hnot := hapart t ht
    simp only [overlaps, eq_of_beq hupTo, Nat.le_refl, decide_true, Bool.and_true,
      decide_eq_false_iff_not] at hnot
    rw [eq_of_beq hupTo] at hle
    exact ⟨hfound, by omega⟩
  match takes, horder, hplace with
  | [], _, _ | [_], _, _ => simp
  | t :: u :: rest, horder, hplace =>
      simp only [List.pairwise_cons, List.mem_cons, forall_eq_or_imp] at horder hplace
      obtain ⟨⟨htu, -⟩, -⟩ := horder
      obtain ⟨⟨-, ht⟩, ⟨hu, hu'⟩, -⟩ := hplace
      have hlt := htu.before_lt hu
      omega

end Take

namespace SharedSlot

variable {s t : SharedSlot} {m : SlotMove}

/-- The numbers of the stores whose frames were returned, in the order in which they were. -/
def returned (s : SharedSlot) : List Nat :=
  (s.takes.filter (·.found)).map (·.upTo)

/-- The take that ended last. -/
def last (s : SharedSlot) : Take :=
  s.takes.getLast?.getD .start

/-- How many stores had ended when the last take began. -/
def began (s : SharedSlot) : Nat :=
  s.taking.getD s.last.before

/-- What is left when a take has ended. -/
def withTake (s : SharedSlot) (u : Take) : SharedSlot :=
  { s with taking := none, takes := s.takes ++ [u] }

theorem takes_withTake (s : SharedSlot) (u : Take) : (s.withTake u).takes = s.takes ++ [u] :=
  rfl

theorem began_withTake (s : SharedSlot) (u : Take) : (s.withTake u).began = u.before := by
  rw [began, last, withTake, List.getLast?_concat, Option.getD_some, Option.getD_none]

/-- What a move does. -/
inductive Does (s : SharedSlot) : SlotMove → SharedSlot → Prop where
  | writes (frame : Bytes) (free : s.storing = false) :
      Does s (.write frame)
        { s with slot := s.slot.write frame, storing := true, written := s.written ++ [frame] }
  | raises (storing : s.storing = true) :
      Does s .raise { s with slot := s.slot.raise, storing := false }
  | finds (free : s.taking = none) (raised : s.slot.fresh = true) :
      Does s .lower { s with slot := s.slot.lower.2, taking := some s.ended }
  | misses (free : s.taking = none) (lowered : s.slot.fresh = false) :
      Does s .lower ({ s with slot := s.slot.lower.2 }.withTake
        { found := false, answer := none, before := s.ended, upTo := s.written.length })
  | reads (before : Nat) (taking : s.taking = some before) :
      Does s .read (s.withTake
        { found := true, answer := s.slot.latest, before, upTo := s.written.length })

/-- No other move is made. -/
theorem does_of_move? (moved : s.move? m = some t) : Does s m t := by
  cases m with
  | write frame =>
      cases hstoring : s.storing with
      | true => simp [move?, hstoring] at moved
      | false =>
          simp only [move?, hstoring, Bool.false_eq_true, if_false] at moved
          exact Option.some.inj moved ▸ .writes frame hstoring
  | raise =>
      cases hstoring : s.storing with
      | false => simp [move?, hstoring] at moved
      | true =>
          simp only [move?, hstoring, if_true] at moved
          exact Option.some.inj moved ▸ .raises hstoring
  | lower =>
      cases htaking : s.taking with
      | some n => simp [move?, htaking] at moved
      | none =>
          cases hfresh : s.slot.fresh with
          | true =>
              simp only [move?, htaking, FrameSlot.lower, hfresh] at moved
              exact Option.some.inj moved ▸ .finds htaking hfresh
          | false =>
              simp only [move?, htaking, FrameSlot.lower, hfresh] at moved
              exact Option.some.inj moved ▸ .misses htaking hfresh
  | read =>
      cases htaking : s.taking with
      | none => simp [move?, htaking] at moved
      | some n =>
          simp only [move?, htaking] at moved
          exact Option.some.inj moved ▸ .reads n htaking

theorem Does.move? (h : Does s m t) : s.move? m = some t := by
  cases h with
  | writes frame hfree => simp [SharedSlot.move?, hfree]
  | raises hstoring => simp [SharedSlot.move?, hstoring]
  | finds hfree hraised => simp [SharedSlot.move?, hfree, FrameSlot.lower, hraised]
  | misses hfree hlowered => simp [SharedSlot.move?, hfree, FrameSlot.lower, hlowered, withTake]
  | reads n htaking => simp [SharedSlot.move?, htaking, withTake]

/-! ### How many stores have ended -/

theorem ended_of_free (h : s.storing = false) : s.ended = s.written.length := by
  rw [ended, h, if_neg Bool.false_ne_true]

theorem ended_of_storing (h : s.storing = true) : s.ended = s.written.length - 1 := by
  rw [ended, h, if_pos rfl]

theorem ended_le (s : SharedSlot) : s.ended ≤ s.written.length := by
  unfold ended
  split <;> omega

/-- One store at most is under way. -/
theorem length_le_ended (s : SharedSlot) : s.written.length ≤ s.ended + 1 := by
  unfold ended
  split <;> omega

/-! ### What every run keeps -/

/-- The slot, the flag and the takes belong together. -/
structure Sound (s : SharedSlot) : Prop where
  /-- The slot holds the frame that was written last. -/
  latest : s.slot.latest = s.written.getLast?
  /-- A store that is under way has written its frame. -/
  storing : s.storing = true → s.written ≠ []
  began_le : s.began ≤ s.ended
  /-- The flag is raised if and only if a store has ended since the last take began. -/
  flag : s.slot.fresh = true ↔ s.began < s.ended
  /-- A take that is under way has found the flag raised. -/
  taking : ∀ n, s.taking = some n → s.last.before < n ∧ s.last.upTo ≤ n + 1
  answers : ∀ t ∈ s.takes, t.Answers s.written
  chain : (Take.start :: s.takes).IsChain Take.Follows
  /-- Whoever has lowered the flag returns. -/
  lowered : s.taking = none → 0 < s.began → ∃ t ∈ s.takes, t.found = true ∧ t.before = s.began

namespace Sound

theorem start : Sound {} where
  latest := rfl
  storing := nofun
  began_le := Nat.le_refl 0
  flag := ⟨nofun, nofun⟩
  taking := nofun
  answers := nofun
  chain := .singleton _
  lowered := fun _ h => absurd h (Nat.lt_irrefl 0)

theorem last_upTo_le (h : s.Sound) : s.last.upTo ≤ s.written.length := by
  unfold last
  cases hlast : s.takes.getLast? with
  | none => exact Nat.zero_le _
  | some t => exact (h.answers t (List.mem_of_getLast? hlast)).upTo_le

theorem getLast?_chain (s : SharedSlot) : (Take.start :: s.takes).getLast? = some s.last := by
  rw [List.getLast?_cons, last]

/-- The next take that ends comes behind the last one. -/
theorem chain_concat (h : s.Sound) {u : Take} (hu : s.last.Follows u) :
    (Take.start :: (s.takes ++ [u])).IsChain Take.Follows := by
  rw [← List.cons_append, List.isChain_append]
  refine ⟨h.chain, .singleton u, ?_⟩
  intro t ht v hv
  rw [getLast?_chain, Option.mem_some_iff] at ht
  rw [List.head?_cons, Option.mem_some_iff] at hv
  exact ht ▸ hv ▸ hu

theorem mem_concat {written : List Bytes} {takes : List Take} {u : Take}
    (h : ∀ t ∈ takes, t.Answers written) (hu : u.Answers written) :
    ∀ t ∈ takes ++ [u], t.Answers written := by
  intro t ht
  rcases List.mem_append.mp ht with hold | hnew
  · exact h t hold
  · exact List.mem_singleton.mp hnew ▸ hu

theorem write (h : s.Sound) (frame : Bytes) (hfree : s.storing = false) :
    Sound { s with
      slot := s.slot.write frame, storing := true, written := s.written ++ [frame] } := by
  have hended : ended { s with
      slot := s.slot.write frame, storing := true, written := s.written ++ [frame] }
        = s.ended := by
    rw [ended_of_storing rfl, ended_of_free hfree, List.length_append, List.length_singleton,
      Nat.add_sub_cancel]
  exact {
    latest := by rw [List.getLast?_concat]; rfl
    storing := fun _ => by simp
    began_le := hended ▸ h.began_le
    flag := by rw [hended]; exact h.flag
    taking := h.taking
    answers := fun t ht => (h.answers t ht).write frame
    chain := h.chain
    lowered := h.lowered }

theorem raise (h : s.Sound) (hstoring : s.storing = true) :
    Sound { s with slot := s.slot.raise, storing := false } := by
  have hwritten : 0 < s.written.length := List.length_pos_of_ne_nil (h.storing hstoring)
  have hended : ended { s with slot := s.slot.raise, storing := false } = s.ended + 1 := by
    rw [ended_of_free rfl, ended_of_storing hstoring]
    show s.written.length = _
    omega
  have hbegan : s.began < s.ended + 1 := Nat.lt_succ_of_le h.began_le
  exact {
    latest := h.latest
    storing := nofun
    began_le := by rw [hended]; exact hbegan.le
    flag := by rw [hended]; exact ⟨fun _ => hbegan, fun _ => rfl⟩
    taking := h.taking
    answers := h.answers
    chain := h.chain
    lowered := h.lowered }

/-- A take begins, and the flag was raised. -/
theorem find (h : s.Sound) (hfree : s.taking = none) (hraised : s.slot.fresh = true) :
    Sound { s with slot := s.slot.lower.2, taking := some s.ended } := by
  have hbegan : s.last.before < s.ended := by
    have hlt := h.flag.mp hraised
    rwa [began, hfree] at hlt
  exact {
    latest := h.latest
    storing := h.storing
    began_le := Nat.le_refl _
    flag := ⟨nofun, fun hlt => absurd hlt (Nat.lt_irrefl _)⟩
    taking := by
      rintro n ⟨⟩
      exact ⟨hbegan, h.last_upTo_le.trans s.length_le_ended⟩
    answers := h.answers
    chain := h.chain
    lowered := nofun }

/-- A take begins and ends, since the flag was not raised. -/
theorem miss (h : s.Sound) (hfree : s.taking = none) (hlowered : s.slot.fresh = false) :
    Sound ({ s with slot := s.slot.lower.2 }.withTake
      { found := false, answer := none, before := s.ended, upTo := s.written.length }) := by
  have hbegan : s.began = s.ended := by
    refine Nat.le_antisymm h.began_le (Nat.le_of_not_lt fun hlt => ?_)
    rw [h.flag.mpr hlt] at hlowered
    cases hlowered
  have hlast : s.last.before = s.ended := by rw [← hbegan, began, hfree, Option.getD_none]
  exact {
    latest := h.latest
    storing := h.storing
    began_le := (began_withTake _ _).le
    flag := by
      rw [began_withTake]
      exact ⟨nofun, fun hlt => absurd hlt (Nat.lt_irrefl _)⟩
    taking := nofun
    answers := mem_concat h.answers ⟨s.ended_le, Nat.le_refl _, nofun, rfl⟩
    chain := h.chain_concat
      ⟨hlast.le, h.last_upTo_le.trans s.length_le_ended, h.last_upTo_le,
        ⟨nofun, fun hlt => absurd (hlast ▸ hlt) (Nat.lt_irrefl _)⟩⟩
    lowered := by
      rw [began_withTake, ← hbegan]
      intro _ hpos
      obtain ⟨t, ht, hfound⟩ := h.lowered hfree hpos
      exact ⟨t, List.mem_append_left _ ht, hfound⟩ }

/-- A take reads the frame. -/
theorem read (h : s.Sound) {n : Nat} (htaking : s.taking = some n) :
    Sound (s.withTake
      { found := true, answer := s.slot.latest, before := n, upTo := s.written.length }) := by
  obtain ⟨hlast, hlast'⟩ := h.taking n htaking
  have hbegan : s.began = n := by rw [began, htaking, Option.getD_some]
  have hle : n ≤ s.written.length := hbegan ▸ h.began_le.trans s.ended_le
  have hanswer : s.slot.latest = s.written[s.written.length - 1]? := by
    rw [h.latest, List.getLast?_eq_getElem?]
  exact {
    latest := h.latest
    storing := h.storing
    began_le := by
      rw [began_withTake]
      exact hbegan ▸ h.began_le
    flag := by
      rw [began_withTake]
      exact hbegan ▸ h.flag
    taking := nofun
    answers := mem_concat h.answers
      ⟨hle, Nat.le_refl _, fun _ => Nat.zero_lt_of_lt hlast, hanswer⟩
    chain := h.chain_concat ⟨hlast.le, hlast', h.last_upTo_le, ⟨fun _ => hlast, fun _ => rfl⟩⟩
    lowered := fun _ _ =>
      ⟨_, List.mem_append_right _ (List.mem_singleton_self _), rfl, (began_withTake _ _).symm⟩ }

/-- **Every move keeps it.** -/
theorem step (h : s.Sound) (moved : s.move? m = some t) : t.Sound := by
  cases does_of_move? moved with
  | writes frame hfree => exact h.write frame hfree
  | raises hstoring => exact h.raise hstoring
  | finds hfree hraised => exact h.find hfree hraised
  | misses hfree hlowered => exact h.miss hfree hlowered
  | reads n htaking => exact h.read htaking

theorem play (h : s.Sound) {moves : List SlotMove}
    (hplay : Interleaving.play move? s moves = some t) : t.Sound :=
  play_induction (fun _ _ _ h moved => h.step moved) moves h hplay

/-! ### What is returned, how often, and in which order -/

theorem pairwise (h : s.Sound) : s.takes.Pairwise Take.Succeeds := by
  have hall : (Take.start :: s.takes).Pairwise Take.Succeeds :=
    List.isChain_iff_pairwise.mp (h.chain.imp fun _ _ hnext => hnext.succeeds)
  exact (List.pairwise_cons.mp hall).2

theorem inOrder (h : s.Sound) : s.returned.Pairwise (· ≤ ·) := by
  rw [returned, List.pairwise_map]
  exact (h.pairwise.filter _).imp fun hnext => hnext.upTo_le

theorem count_returned (s : SharedSlot) (k : Nat) :
    s.returned.count k = (s.takes.filter (·.returns k)).length := by
  rw [returned, List.count, List.countP_map, List.countP_filter, List.countP_eq_length_filter]
  congr 1
  refine List.filter_congr fun t _ => ?_
  rw [Take.returns, Bool.and_comm]
  rfl

theorem count_le (h : s.Sound) (k : Nat) : s.returned.count k ≤ 3 := by
  rw [count_returned]
  refine Take.length_le_three (k := k) (h.pairwise.filter _) ?_ ?_
  · exact fun t ht => (h.answers t (List.mem_filter.mp ht).1).before_le
  · exact fun t ht => (List.mem_filter.mp ht).2

/-- A frame that is returned again was returned by a take that ran beside its store. -/
theorem exists_overlaps (h : s.Sound) {k : Nat} (hagain : 1 < s.returned.count k) :
    ∃ t ∈ s.takes, t.returns k = true ∧ t.overlaps k = true := by
  by_contra hnone
  have hapart : ∀ t ∈ s.takes.filter (·.returns k), t.overlaps k = false := by
    intro t ht
    obtain ⟨hmem, hreturns⟩ := List.mem_filter.mp ht
    exact Bool.eq_false_iff.mpr fun hover => hnone ⟨t, hmem, hreturns, hover⟩
  have hone := Take.length_le_one (h.pairwise.filter _)
    (fun t ht => (h.answers t (List.mem_filter.mp ht).1).before_le)
    (fun t ht => (List.mem_filter.mp ht).2) hapart
  rw [count_returned] at hagain
  omega

/-! ### The newest frame -/

/-- When all stores have ended, the newest frame has been returned, or the flag is raised, or a
take is about to read it. -/
theorem newest (h : s.Sound) (hfree : s.storing = false) (hsome : s.written ≠ []) :
    s.written.length ∈ s.returned ∨ s.slot.fresh = true ∨ s.taking.isSome = true := by
  cases htaking : s.taking with
  | some n => exact .inr (.inr rfl)
  | none =>
      cases hfresh : s.slot.fresh with
      | true => exact .inr (.inl rfl)
      | false =>
          left
          have hbegan : s.began = s.written.length := by
            rw [← ended_of_free hfree]
            refine Nat.le_antisymm h.began_le (Nat.le_of_not_lt fun hlt => ?_)
            rw [h.flag.mpr hlt] at hfresh
            cases hfresh
          obtain ⟨t, ht, hfound, hbefore⟩ :=
            h.lowered htaking (hbegan ▸ List.length_pos_of_ne_nil hsome)
          have hanswers := h.answers t ht
          have hupTo : t.upTo = s.written.length :=
            Nat.le_antisymm hanswers.upTo_le (hbegan ▸ hbefore ▸ hanswers.before_le)
          exact List.mem_map.mpr ⟨t, List.mem_filter.mpr ⟨ht, hfound⟩, hupTo⟩

end Sound

/-- Where a run has got to that no store follows, if the newest frame was still to be returned. -/
structure Expects (s t : SharedSlot) : Prop where
  storing : t.storing = false
  written : t.written = s.written
  takes : t.takes = s.takes ∧ (t.slot.fresh = true ∨ t.taking.isSome = true) ∨
    ∃ u rest, t.takes = s.takes ++ u :: rest ∧ u.found = true ∧ u.upTo = s.written.length

/-- As long as nothing is stored, the first take that ends is one that returns the newest frame. -/
theorem Expects.step {u : SharedSlot} (h : Expects s t) (hm : ∀ frame, m ≠ .write frame)
    (moved : t.move? m = some u) : Expects s u := by
  cases does_of_move? moved with
  | writes frame => exact absurd rfl (hm frame)
  | raises hstoring =>
      rw [h.storing] at hstoring
      cases hstoring
  | finds hfree hraised =>
      refine ⟨h.storing, h.written, ?_⟩
      rcases h.takes with ⟨htakes, -⟩ | hended
      · exact .inl ⟨htakes, .inr rfl⟩
      · exact .inr hended
  | misses hfree hlowered =>
      refine ⟨h.storing, h.written, .inr ?_⟩
      rcases h.takes with ⟨-, hraised | htaking⟩ | ⟨u, rest, htakes, hu⟩
      · rw [hlowered] at hraised
        cases hraised
      · rw [hfree] at htaking
        cases htaking
      · exact ⟨u, rest ++ [_], by rw [takes_withTake, htakes, List.append_assoc]; rfl, hu⟩
  | reads n htaking =>
      refine ⟨h.storing, h.written, .inr ?_⟩
      rcases h.takes with ⟨htakes, -⟩ | ⟨u, rest, htakes, hu⟩
      · exact ⟨_, [], htakes ▸ takes_withTake t _, rfl, congrArg List.length h.written⟩
      · exact ⟨u, rest ++ [_], by rw [takes_withTake, htakes, List.append_assoc]; rfl, hu⟩

theorem Expects.play {later : List SlotMove} (hlater : ∀ frame, .write frame ∉ later)
    {t u : SharedSlot} (h : Expects s t) (hplay : Interleaving.play move? t later = some u) :
    Expects s u := by
  induction later generalizing t with
  | nil => exact Option.some.inj hplay ▸ h
  | cons m rest ih =>
      unfold Interleaving.play at hplay
      split at hplay
      · cases hplay
      · next v moved =>
          refine ih (fun frame hmem => hlater frame (List.mem_cons_of_mem _ hmem)) ?_ hplay
          exact h.step (fun frame heq => hlater frame (heq ▸ List.mem_cons_self)) moved

/-- The take that is under way, or else the next one, comes to its end. -/
theorem exists_take (s : SharedSlot) :
    ∃ later t u, (∀ m ∈ later, m = .lower ∨ m = .read) ∧ play move? s later = some t ∧
      t.takes = s.takes ++ [u] := by
  cases htaking : s.taking with
  | some n =>
      have hread := (Does.reads n htaking).move?
      exact ⟨[.read], _, _, by simp, by rw [play, hread]; rfl, rfl⟩
  | none =>
      cases hfresh : s.slot.fresh with
      | false =>
          have hlower := (Does.misses htaking hfresh).move?
          exact ⟨[.lower], _, _, by simp, by rw [play, hlower]; rfl, rfl⟩
      | true =>
          have hlower := (Does.finds htaking hfresh).move?
          exact ⟨[.lower, .read], _, _, by simp, by rw [play, hlower]; rfl, rfl⟩

/-! ### Takes that run beside no store -/

/-- Has no take run beside a store? -/
def Apart (s : SharedSlot) : Prop :=
  ∀ t ∈ s.takes, ∀ k, t.overlaps k = false

theorem Apart.before_eq (hapart : s.Apart) (h : s.Sound) {u : Take} (hu : u ∈ s.takes) :
    u.before = u.upTo := by
  have hnot := hapart u hu u.upTo
  simp only [Take.overlaps, Nat.le_refl, decide_true, Bool.and_true, decide_eq_false_iff_not]
    at hnot
  exact Nat.le_antisymm (h.answers u hu).before_le (Nat.le_of_not_lt hnot)

theorem Apart.count_le (hapart : s.Apart) (h : s.Sound) (k : Nat) : s.returned.count k ≤ 1 := by
  by_contra hagain
  obtain ⟨u, hu, -, hover⟩ := h.exists_overlaps (Nat.lt_of_not_le hagain)
  rw [hapart u hu k] at hover
  cases hover

/-- The first take returns a frame if and only if a store has ended before it. -/
theorem Sound.found_first (h : s.Sound) {u : Take} (hu : s.takes.head? = some u) :
    u.found = true ↔ 0 < u.before :=
  ((List.isChain_cons.mp h.chain).1 u hu).found_iff

/-- Any other does if and only if one has ended since the take before. -/
theorem Apart.found_next (hapart : s.Apart) (h : s.Sound) {i : Nat} {u v : Take}
    (hu : s.takes[i]? = some u) (hv : s.takes[i + 1]? = some v) :
    v.found = true ↔ u.upTo < v.before := by
  obtain ⟨hi, rfl⟩ := List.getElem?_eq_some_iff.mp hv
  obtain ⟨hi', rfl⟩ := List.getElem?_eq_some_iff.mp hu
  rw [← hapart.before_eq h (List.getElem_mem hi')]
  exact (List.isChain_iff_getElem.mp (List.isChain_cons.mp h.chain).2 i hi).found_iff

/-! ### The newest frame is never lost -/

/-- What the takes of a run have returned, and what they are going to. -/
structure Delivers (s : SharedSlot) : Prop where
  /-- A take returns a frame if and only if it has found the flag raised, and then the one that
  was written last when it ended. -/
  answer : ∀ t ∈ s.takes, t.answer.isSome = t.found ∧
    (t.found = true → 0 < t.upTo ∧ t.answer = s.written[t.upTo - 1]?)
  /-- Frames are returned in the order in which they were stored. -/
  inOrder : s.returned.Pairwise (· ≤ ·)
  /-- No frame is returned more than three times. -/
  thrice : ∀ k, s.returned.count k ≤ 3
  /-- One that is returned more than once is returned by a take that runs beside its store. -/
  again : ∀ k, 1 < s.returned.count k → ∃ t ∈ s.takes, t.returns k = true ∧ t.overlaps k = true
  /-- When all stores have ended and none follows, the newest frame has been returned, or the take
  that is under way or else the next one returns it. -/
  newest : s.storing = false → s.written ≠ [] → s.written.length ∈ s.returned ∨
    ∀ later t u, (∀ frame, .write frame ∉ later) → play move? s later = some t →
      t.takes[s.takes.length]? = some u →
        u.returns s.written.length = true ∧ u.answer = s.written.getLast?
  /-- There is always such a take, whatever has been played. -/
  next : ∃ later t u, (∀ m ∈ later, m = .lower ∨ m = .read) ∧ play move? s later = some t ∧
    t.takes = s.takes ++ [u]
  /-- If no take runs beside a store, no frame is returned more than once. -/
  once : s.Apart → ∀ k, s.returned.count k ≤ 1
  /-- And then a take returns a frame if and only if there was a store since the take before. -/
  since : s.Apart → (∀ t, s.takes.head? = some t → (t.found = true ↔ 0 < t.before)) ∧
    ∀ i t u, s.takes[i]? = some t → s.takes[i + 1]? = some u → (u.found = true ↔ t.upTo < u.before)

/-- **The newest frame is never lost between the two threads**, however they take turns. -/
theorem delivers_of_play (moves : List SlotMove) (hplay : play move? {} moves = some s) :
    Delivers s := by
  have h : s.Sound := Sound.start.play hplay
  refine {
    answer := ?_
    inOrder := h.inOrder
    thrice := h.count_le
    again := fun k => h.exists_overlaps
    newest := ?_
    next := s.exists_take
    once := fun hapart => hapart.count_le h
    since := fun hapart => ⟨fun _ => h.found_first, fun _ _ _ => hapart.found_next h⟩ }
  · intro t ht
    have hanswers := h.answers t ht
    refine ⟨hanswers.isSome_answer, fun hfound => ⟨?_, ?_⟩⟩
    · exact (hanswers.before_pos hfound).trans_le hanswers.before_le
    · rw [hanswers.answer, if_pos hfound]
  · intro hfree hsome
    refine (h.newest hfree hsome).imp_right fun hpending => ?_
    intro later t u hlater hlaterPlay hu
    have hstart : Expects s s := ⟨hfree, rfl, .inl ⟨rfl, hpending⟩⟩
    have hexpects : Expects s t := hstart.play hlater hlaterPlay
    rcases hexpects.takes with ⟨htakes, -⟩ | ⟨v, rest, htakes, hfound, hupTo⟩
    · rw [htakes, List.getElem?_eq_none (Nat.le_refl _)] at hu
      cases hu
    · rw [htakes, List.getElem?_append_right (Nat.le_refl _), Nat.sub_self] at hu
      obtain rfl : v = u := Option.some.inj hu
      have hmem : v ∈ t.takes := htakes ▸ by simp
      have hanswer := ((h.play hlaterPlay).answers v hmem).answer
      refine ⟨?_, ?_⟩
      · rw [Take.returns, hfound, hupTo, Bool.true_and, beq_self_eq_true]
      · rw [hanswer, if_pos hfound, hupTo, hexpects.written, List.getLast?_eq_getElem?]

/-- The third frame is read by two takes before its store has raised the flag, since the stores of
the first and of the second let them in, and by one more that it lets in itself. -/
def threeTakes : List SlotMove :=
  [.write [1], .raise, .lower, .write [2], .raise, .write [3], .read, .lower, .read, .raise,
    .lower, .read]

/-- **A frame may be returned three times.** -/
theorem returned_thrice :
    ∃ s, play move? {} threeTakes = some s ∧
      s.takes.map (·.answer) = [some [3], some [3], some [3]] ∧ ¬ ∀ k, s.returned.count k ≤ 2 := by
  refine ⟨_, rfl, rfl, fun htwice => ?_⟩
  exact absurd (htwice 3) (by decide)

/-- Three times, and a fourth frame that is stored but not yet returned. -/
theorem delivers_of_play_thrice :
    ∃ s, play move? {} (threeTakes ++ [.write [4], .raise]) = some s ∧ Delivers s ∧
      s.returned = [3, 3, 3] ∧ s.storing = false ∧ s.written.length = 4 := by
  refine ⟨_, rfl, delivers_of_play (threeTakes ++ [.write [4], .raise]) rfl, ?_, rfl, rfl⟩
  decide

end SharedSlot

end Interleaving

end Lifecast
