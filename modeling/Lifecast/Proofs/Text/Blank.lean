/-
A text and the blanks around it.

To trim a text is to find what the blanks stand around (`trim_eq_iff`): the one piece of it that
neither begins nor ends with a blank and has nothing but blanks around it.
-/
import Mathlib.Data.List.DropRight
import Lifecast.Text.Blank

namespace Lifecast

namespace Text

/-! ### Where a text is cut -/

section

variable {α : Type} {p : α → Bool} {front rest l : List α}

/-- A text is cut where the first letter stands that is not of a kind. -/
theorem cut_eq (hfront : ∀ c ∈ front, p c = true) (hrest : ∀ c ∈ rest.head?, p c = false) :
    (front ++ rest).takeWhile p = front ∧ (front ++ rest).dropWhile p = rest := by
  rw [List.takeWhile_append_of_pos hfront, List.dropWhile_append_of_pos hfront]
  cases rest with
  | nil => exact ⟨List.append_nil front, rfl⟩
  | cons c rest =>
      have hc : ¬ p c = true := Bool.eq_false_iff.mp (hrest c rfl)
      rw [List.takeWhile_cons_of_neg hc, List.dropWhile_cons_of_neg hc]
      exact ⟨List.append_nil front, rfl⟩

/-- What follows the cut begins with that letter. -/
theorem head?_dropWhile {c : α} (h : c ∈ (l.dropWhile p).head?) : p c = false := by
  have hnot := List.head?_dropWhile_not p l
  rw [Option.mem_def] at h
  rw [h] at hnot
  exact hnot

end

/-! ### Blanks around a text -/

variable {w cs : List Char}

/-- The text is the other one with blanks around it, or with none. -/
def Around (w cs : List Char) : Prop :=
  ∃ left right, (∀ c ∈ left, isBlank c = true) ∧ (∀ c ∈ right, isBlank c = true) ∧
    cs = left ++ w ++ right

/-- Does the text neither begin nor end with a blank? -/
def Trimmed (w : List Char) : Prop :=
  (∀ c ∈ w.head?, isBlank c = false) ∧ ∀ c ∈ w.getLast?, isBlank c = false

theorem Around.refl (w : List Char) : Around w w :=
  ⟨[], [], nofun, nofun, (List.append_nil w).symm⟩

/-- Text without blanks is trimmed. -/
theorem Trimmed.of_forall (h : ∀ c ∈ w, isBlank c = false) : Trimmed w :=
  ⟨fun c hc => h c (List.mem_of_head? hc), fun c hc => h c (List.mem_of_getLast? hc)⟩

/-- Trimmed text may have anything between its two ends. -/
theorem Trimmed.append {u v : List Char} (m : List Char) (hu : Trimmed u) (hv : Trimmed v)
    (hne : u ≠ []) (hne' : v ≠ []) : Trimmed (u ++ (m ++ v)) := by
  rw [Trimmed, List.head?_append_of_ne_nil _ hne, List.getLast?_append_of_ne_nil,
    List.getLast?_append_of_ne_nil _ hne']
  · exact ⟨hu.1, hv.2⟩
  · exact List.append_ne_nil_of_right_ne_nil m hne'

/-- From the left all blanks are taken, and from the right the rest of them. -/
theorem trim_eq (cs : List Char) : trim cs = (cs.dropWhile isBlank).rdropWhile isBlank :=
  rfl

theorem around_trim (cs : List Char) : Around (trim cs) cs := by
  refine ⟨cs.takeWhile isBlank, (cs.dropWhile isBlank).rtakeWhile isBlank, ?_, ?_, ?_⟩
  · exact fun c hc => List.mem_takeWhile_imp hc
  · exact fun c hc => List.mem_rtakeWhile_imp hc
  · rw [trim_eq, List.append_assoc, List.rdropWhile_append_rtakeWhile,
      List.takeWhile_append_dropWhile]

theorem trimmed_trim (cs : List Char) : Trimmed (trim cs) := by
  refine ⟨fun c hc => ?_, fun c hc => ?_⟩
  · obtain ⟨right, hright⟩ : trim cs <+: cs.dropWhile isBlank := List.rdropWhile_prefix _ _
    refine head?_dropWhile (l := cs) ?_
    rw [← hright, List.head?_append, hc]
    rfl
  · rw [trim, List.getLast?_reverse] at hc
    exact head?_dropWhile hc

/-- **To trim a text is to find what the blanks stand around.** -/
theorem trim_eq_iff : trim cs = w ↔ Around w cs ∧ Trimmed w := by
  constructor
  · rintro rfl
    exact ⟨around_trim cs, trimmed_trim cs⟩
  · rintro ⟨⟨left, right, hleft, hright, rfl⟩, hhead, hlast⟩
    rw [trim, List.append_assoc]
    by_cases hw : w = []
    · have hall : ∀ c ∈ left ++ right, isBlank c = true := by
        intro c hc
        exact (List.mem_append.mp hc).elim (hleft c) (hright c)
      rw [hw, List.nil_append, List.dropWhile_eq_nil_iff.mpr hall]
      rfl
    · have hfront : (left ++ (w ++ right)).dropWhile isBlank = w ++ right := by
        refine (cut_eq hleft fun c hc => hhead c ?_).2
        rwa [List.head?_append_of_ne_nil _ hw] at hc
      have hback : (right.reverse ++ w.reverse).dropWhile isBlank = w.reverse := by
        refine (cut_eq ?_ fun c hc => hlast c ?_).2
        · exact fun c hc => hright c (List.mem_reverse.mp hc)
        · rwa [List.head?_reverse] at hc
      rw [hfront, List.reverse_append, hback, List.reverse_reverse]

/-- Trimmed text of a kind stands within blanks if and only if trimming finds it. -/
theorem exists_around_iff {P : List Char → Prop} (hP : ∀ w, P w → Trimmed w) :
    (∃ w, Around w cs ∧ P w) ↔ P (trim cs) := by
  constructor
  · rintro ⟨w, hw, h⟩
    rwa [trim_eq_iff.mpr ⟨hw, hP w h⟩]
  · exact fun h => ⟨trim cs, around_trim cs, h⟩

/-- Visible characters of ASCII text are not blank. -/
theorem isBlank_eq_false_of_visible {c : Char} (h : 33 ≤ c.toNat ∧ c.toNat ≤ 126) : isBlank c = false := by
  obtain ⟨hlow, hhigh⟩ := h
  simp only [isBlank, Bool.or_eq_false_iff, Bool.and_eq_false_iff, decide_eq_false_iff_not,
    beq_eq_false_iff_ne]
  omega

end Text

end Lifecast
