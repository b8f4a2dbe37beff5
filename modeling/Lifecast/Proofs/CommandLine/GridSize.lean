/-
What texts are grid sizes.

A text without the blanks around it is cut at its first separator (`Splits`).  Either side is a
numeral with blanks around it (`Writes`), and the same is said of the two: `side_eq_ok_iff` when a
side is taken and `side_eq_error_iff` why it is not.  The width is looked at before the height, so
of two faults it is that of the width which is reported (`Fault`).
-/
import Lifecast.CommandLine.GridSize
import Lifecast.Proofs.CommandLine.Setting
import Lifecast.Proofs.Life.Reachable
import Lifecast.Proofs.Numeral

namespace Lifecast

namespace GridSize

variable {s : String} {cs left right : List Char} {n : Nat} {fault : GridSizeFault}

/-! ### One side -/

/-- The text is a numeral with blanks around it, of this value. -/
def Writes (cs : List Char) (n : Nat) : Prop :=
  ∃ w, Text.Around w cs ∧ Numeral.Reads w n

/-- A side that a producer takes. -/
def InRange (n : Nat) : Prop :=
  10 ≤ n ∧ n ≤ 200

/-- What is wrong with the text of a side.  A numeral of more than 64 bits is no number. -/
inductive SideFault (cs : List Char) : GridSizeFault → Prop where
  | notANumber (h : ∀ n, Writes cs n → 2 ^ 64 ≤ n) :
      SideFault cs (.notANumber (String.ofList cs))
  | outOfRange {n : Nat} (h : Writes cs n) (hword : n < 2 ^ 64) (hrange : ¬ InRange n) :
      SideFault cs (.outOfRange n)

theorem readNat_trim_eq_ok_iff :
    Numeral.readNat Numeral.maxWord (Text.trim cs) = .ok n ↔ Writes cs n ∧ n < 2 ^ 64 := by
  have hword : n ≤ Numeral.maxWord ↔ n < 2 ^ 64 := Nat.le_sub_one_iff_lt (Nat.pow_pos (by decide))
  rw [Numeral.readNat_eq_ok_iff, hword, Writes,
    Text.exists_around_iff (P := fun w => Numeral.Reads w n) fun _ h => h.trimmed]

/-- **A side is taken if and only if it is a numeral in range.** -/
theorem side_eq_ok_iff {n : Side} : side cs = .ok n ↔ Writes cs n.val := by
  have hword : n.val < 2 ^ 64 := Nat.lt_of_le_of_lt n.property.2 (by decide)
  rw [side]
  cases hread : Numeral.readNat Numeral.maxWord (Text.trim cs) with
  | error past =>
      refine ⟨nofun, fun h => ?_⟩
      rw [readNat_trim_eq_ok_iff.mpr ⟨h, hword⟩] at hread
      exact nomatch hread
  | ok m =>
      dsimp only
      constructor
      · intro h
        split_ifs at h
        obtain rfl := Except.ok.inj h
        exact (readNat_trim_eq_ok_iff.mp hread).1
      · intro h
        rw [readNat_trim_eq_ok_iff.mpr ⟨h, hword⟩] at hread
        obtain rfl := Except.ok.inj hread
        exact dif_pos n.property

theorem side_eq_error_iff : side cs = .error fault ↔ SideFault cs fault := by
  rw [side]
  cases hread : Numeral.readNat Numeral.maxWord (Text.trim cs) with
  | error past =>
      have hpast (n : Nat) (h : Writes cs n) : 2 ^ 64 ≤ n := by
        refine Nat.le_of_not_lt fun hword => ?_
        rw [readNat_trim_eq_ok_iff.mpr ⟨h, hword⟩] at hread
        exact nomatch hread
      constructor
      · rintro ⟨⟩
        exact .notANumber hpast
      · rintro (_ | ⟨h, hword, _⟩)
        · rfl
        · exact absurd (hpast _ h) (Nat.not_le_of_lt hword)
  | ok m =>
      obtain ⟨hm, hword⟩ := readNat_trim_eq_ok_iff.mp hread
      dsimp only
      constructor
      · intro h
        split_ifs at h with hrange
        obtain rfl := Except.error.inj h
        exact .outOfRange hm hword hrange
      · rintro (h | ⟨h, hword', hrange⟩)
        · exact absurd (h m hm) (Nat.not_le_of_lt hword)
        · rw [readNat_trim_eq_ok_iff.mpr ⟨h, hword'⟩] at hread
          obtain rfl := Except.ok.inj hread
          exact dif_neg hrange

/-! ### Where a text is cut -/

/-- The letter stands between the sides. -/
def IsSeparator (c : Char) : Prop :=
  c = 'x' ∨ c = 'X'

/-- What is left and right of the first separator of a text without the blanks around it. -/
def Splits (s : String) (left right : List Char) : Prop :=
  ∃ sep, IsSeparator sep ∧ (∀ c ∈ left, ¬ IsSeparator c) ∧
    Text.Around (left ++ sep :: right) s.toList ∧ Text.Trimmed (left ++ sep :: right)

theorem not_isSeparator {c : Char} : (!isSeparator c) = true ↔ ¬ IsSeparator c := by
  simp [isSeparator, IsSeparator]

theorem splits_iff :
    Splits s left right
      ↔ (Text.trim s.toList).takeWhile (!isSeparator ·) = left ∧
        ∃ sep, (Text.trim s.toList).dropWhile (!isSeparator ·) = sep :: right := by
  constructor
  · rintro ⟨sep, hsep, hleft, haround, htrimmed⟩
    rw [Text.trim_eq_iff.mpr ⟨haround, htrimmed⟩]
    have hhead : ∀ c ∈ (sep :: right).head?, (!isSeparator c) = false := by
      rintro c ⟨⟩
      exact Bool.eq_false_iff.mpr fun h => not_isSeparator.mp h hsep
    obtain ⟨hfront, hback⟩ := Text.cut_eq (p := (!isSeparator ·))
      (fun c hc => not_isSeparator.mpr (hleft c hc)) hhead
    exact ⟨hfront, sep, hback⟩
  · rintro ⟨rfl, sep, hback⟩
    have hsplit := List.takeWhile_append_dropWhile (p := (!isSeparator ·))
      (l := Text.trim s.toList)
    rw [hback] at hsplit
    refine ⟨sep, ?_, ?_, ?_, ?_⟩
    · have hhead := Text.head?_dropWhile (p := (!isSeparator ·)) (c := sep)
        (l := Text.trim s.toList) (by rw [hback]; rfl)
      exact not_not.mp fun h => Bool.eq_false_iff.mp hhead (not_isSeparator.mpr h)
    · exact fun c hc => not_isSeparator.mp (List.mem_takeWhile_imp (p := (!isSeparator ·)) hc)
    · exact hsplit.symm ▸ Text.around_trim s.toList
    · exact hsplit.symm ▸ Text.trimmed_trim s.toList

theorem not_isSeparator_of_isBlank {c : Char} (h : Text.isBlank c = true) : ¬ IsSeparator c := by
  rintro (rfl | rfl) <;> exact absurd h (by decide)

theorem not_isSeparator_of_isDigit {c : Char} (h : c.isDigit = true) : ¬ IsSeparator c := by
  rintro (rfl | rfl) <;> exact absurd h (by decide)

/-- Nothing is cut if there is no separator; no blank is one. -/
theorem dropWhile_eq_nil_iff :
    (Text.trim s.toList).dropWhile (!isSeparator ·) = [] ↔ ∀ c ∈ s.toList, ¬ IsSeparator c := by
  obtain ⟨front, back, hfront, hback, heq⟩ := Text.around_trim s.toList
  rw [List.dropWhile_eq_nil_iff]
  generalize Text.trim s.toList = w at heq ⊢
  rw [heq, List.forall_mem_append, List.forall_mem_append]
  constructor
  · intro h
    exact ⟨⟨fun c hc => not_isSeparator_of_isBlank (hfront c hc),
      fun c hc => not_isSeparator.mp (h c hc)⟩,
      fun c hc => not_isSeparator_of_isBlank (hback c hc)⟩
  · exact fun h c hc => not_isSeparator.mpr (h.1.2 c hc)

/-! ### Both sides -/

/-- What is wrong with a text: the first fault from the left. -/
inductive Fault (s : String) : GridSizeFault → Prop where
  | noSeparator (h : ∀ c ∈ s.toList, ¬ IsSeparator c) : Fault s (.noSeparator s)
  | width {left right : List Char} {fault : GridSizeFault} (h : Splits s left right)
      (hleft : SideFault left fault) : Fault s fault
  | height {left right : List Char} {width : Nat} {fault : GridSizeFault} (h : Splits s left right)
      (hleft : Writes left width) (hrange : InRange width) (hright : SideFault right fault) :
      Fault s fault

/-- A text is cut, or it has no separator. -/
theorem splits_or (s : String) :
    (∃ left right, Splits s left right) ∨
      (∀ c ∈ s.toList, ¬ IsSeparator c) ∧ ofText s = .error (.noSeparator s) := by
  cases hback : (Text.trim s.toList).dropWhile (!isSeparator ·) with
  | nil =>
      refine .inr ⟨dropWhile_eq_nil_iff.mp hback, ?_⟩
      rw [ofText, hback]
  | cons sep right => exact .inl ⟨_, right, splits_iff.mpr ⟨rfl, sep, hback⟩⟩

theorem ofText_of_splits (h : Splits s left right) :
    ofText s = (do
      let width ← side left
      let height ← side right
      return ⟨width.val, height.val, width.property, height.property⟩) := by
  obtain ⟨rfl, sep, hback⟩ := splits_iff.mp h
  rw [ofText, hback]

theorem ofText_eq_ok_of_splits {z : GridSize} (h : Splits s left right) :
    ofText s = .ok z ↔ Writes left z.width ∧ Writes right z.height := by
  rw [ofText_of_splits h]
  simp only [bind_eq_ok_iff, side_eq_ok_iff]
  constructor
  · rintro ⟨width, hwidth, height, hheight, ⟨⟩⟩
    exact ⟨hwidth, hheight⟩
  · rintro ⟨hwidth, hheight⟩
    exact ⟨⟨z.width, z.width_mem⟩, hwidth, ⟨z.height, z.height_mem⟩, hheight, rfl⟩

theorem ofText_eq_ok_iff {z : GridSize} :
    ofText s = .ok z ↔ ∃ left right, Splits s left right ∧ Writes left z.width ∧
      Writes right z.height := by
  constructor
  · intro h
    rcases splits_or s with ⟨left, right, hsplits⟩ | ⟨-, hnone⟩
    · exact ⟨left, right, hsplits, (ofText_eq_ok_of_splits hsplits).mp h⟩
    · rw [hnone] at h
      exact nomatch h
  · rintro ⟨left, right, hsplits, h⟩
    exact (ofText_eq_ok_of_splits hsplits).mpr h

theorem ofText_eq_error_iff : ofText s = .error fault ↔ Fault s fault := by
  constructor
  · intro h
    rcases splits_or s with ⟨left, right, hsplits⟩ | ⟨hnone, heq⟩
    · rw [ofText_of_splits hsplits] at h
      simp only [bind_eq_error_iff, side_eq_error_iff, side_eq_ok_iff] at h
      rcases h with hleft | ⟨width, hwidth, hright | ⟨_, -, h⟩⟩
      · exact .width hsplits hleft
      · exact .height hsplits hwidth width.property hright
      · exact nomatch h
    · rw [heq] at h
      obtain rfl := Except.error.inj h
      exact .noSeparator hnone
  · intro h
    cases h with
    | noSeparator hnone => rw [ofText, dropWhile_eq_nil_iff.mpr hnone]
    | width hsplits hleft =>
        rw [ofText_of_splits hsplits, bind_eq_error_iff, side_eq_error_iff]
        exact .inl hleft
    | @height left right width _ hsplits hwidth hrange hright =>
        rw [ofText_of_splits hsplits, bind_eq_error_iff]
        refine .inr ⟨⟨width, hrange⟩, side_eq_ok_iff.mpr hwidth, ?_⟩
        rw [bind_eq_error_iff, side_eq_error_iff]
        exact .inl hright

/-! ### The text of a size -/

/-- The text of a size, with blanks around it or around its numbers, and with either separator. -/
def Shows (z : GridSize) (s : String) : Prop :=
  ∃ left sep right, Text.Around (toString z.width).toList left ∧ IsSeparator sep ∧
    Text.Around (toString z.height).toList right ∧ s.toList = left ++ sep :: right

theorem shows_text (z : GridSize) : z.Shows z.text := by
  refine ⟨_, 'x', _, .refl _, .inl rfl, .refl _, ?_⟩
  have htext : z.text = toString z.width ++ "x" ++ toString z.height := rfl
  have hsep : "x".toList = ['x'] := rfl
  rw [htext, String.toList_append, String.toList_append, hsep, List.append_assoc]
  rfl

theorem ofText_of_shows {z : GridSize} (h : z.Shows s) : ofText s = .ok z := by
  obtain ⟨_, sep, _, ⟨a, b, ha, hb, rfl⟩, hsep, ⟨c, d, hc, hd, rfl⟩, heq⟩ := h
  have hprinted (n : Nat) : (toString n).toList = Nat.toDigits 10 n := Nat.toList_repr
  simp only [hprinted] at heq
  have hreads (n : Nat) := Numeral.reads_toDigits n
  have hdigits (n : Nat) := Numeral.digits_toDigits n
  have hsplits : Splits s (Nat.toDigits 10 z.width ++ b) (c ++ Nat.toDigits 10 z.height) := by
    refine ⟨sep, hsep, ?_, ⟨a, d, ha, hd, ?_⟩, ?_⟩
    · rw [List.forall_mem_append]
      exact ⟨fun c hc => not_isSeparator_of_isDigit ((hdigits z.width).isDigit c hc),
        fun c hc => not_isSeparator_of_isBlank (hb c hc)⟩
    · rw [heq]
      simp only [List.append_assoc, List.cons_append]
    · have htrimmed := (hreads z.width).trimmed.append (b ++ sep :: c) (hreads z.height).trimmed
        (hdigits z.width).ne_nil (hdigits z.height).ne_nil
      simpa only [List.append_assoc, List.cons_append] using htrimmed
  refine ofText_eq_ok_iff.mpr ⟨_, _, hsplits, ⟨_, ⟨[], b, nofun, hb, rfl⟩, hreads z.width⟩, ?_⟩
  exact ⟨_, ⟨c, [], hc, nofun, (List.append_nil _).symm⟩, hreads z.height⟩

/-- **What a producer takes for a grid size**, for every text. -/
structure Parses (s : String) : Prop where
  /-- A text is taken if either side of it is a numeral in range, and as what these write. -/
  accepts (width height : Nat) :
    (∃ z, ofText s = .ok z ∧ z.width = width ∧ z.height = height)
      ↔ ∃ left right, Splits s left right ∧ (Writes left width ∧ InRange width) ∧
        (Writes right height ∧ InRange height)
  /-- What is reported is the first fault from the left. -/
  refuses (fault : GridSizeFault) : ofText s = .error fault ↔ Fault s fault
  /-- A size is read from its text, however it is spaced. -/
  roundTrip (z : GridSize) (h : z.Shows s) : ofText s = .ok z
  ownText (z : GridSize) (h : s = z.text) : ofText s = .ok z
  /-- There is a grid of the size. -/
  grid (z : GridSize) (h : ofText s = .ok z) :
    Grid.ofSides z.width z.height = .ok (Grid.dead z.size)

theorem ofText_parses (s : String) : Parses s where
  accepts width height := by
    constructor
    · rintro ⟨z, h, rfl, rfl⟩
      obtain ⟨left, right, hsplits, hwidth, hheight⟩ := ofText_eq_ok_iff.mp h
      exact ⟨left, right, hsplits, ⟨hwidth, z.width_mem⟩, hheight, z.height_mem⟩
    · rintro ⟨left, right, hsplits, ⟨hwidth, hwidth'⟩, hheight, hheight'⟩
      refine ⟨⟨width, height, hwidth', hheight'⟩, ?_, rfl, rfl⟩
      exact ofText_eq_ok_iff.mpr ⟨left, right, hsplits, hwidth, hheight⟩
  refuses fault := ofText_eq_error_iff
  roundTrip z h := ofText_of_shows h
  ownText z h := h ▸ ofText_of_shows z.shows_text
  grid z _ := Grid.ofSides_dead z.size

example : ofText " +040 X\u300020\n" = .ok standard := by
  decide

/-- The width is reported, although the height is no number at all. -/
example : ofText "9xten" = .error (.outOfRange 9) := by
  decide

end GridSize

end Lifecast
