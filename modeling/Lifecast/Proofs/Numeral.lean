/-
What numerals are accepted, and what they are read as.

A numeral is digits, behind a plus sign or not (`Reads`).  Digits are read one at a time, and what
has been read never gets smaller, so the limit is passed at some digit if and only if the whole is
above it (`readDigits_eq_ok_iff`).  Nothing is ever wrapped around.

A number has one numeral only that has neither a sign nor a leading zero, the one that is printed
(`toDigits_valueOf`).
-/
import Mathlib.Data.List.Basic
import Mathlib.Data.List.Induction
import Mathlib.Data.Nat.Digits.Defs
import Lifecast.Numeral
import Lifecast.Proofs.Text.Blank

namespace Lifecast

namespace Numeral

variable {limit n value : Nat} {cs digits : List Char} {past : NumeralFault}

/-- At least one character, and nothing but digits. -/
structure Digits (cs : List Char) : Prop where
  ne_nil : cs ≠ []
  isDigit : ∀ c ∈ cs, c.isDigit = true

/-- The number that digits write. -/
def valueOf (digits : List Char) : Nat :=
  Nat.ofDigitChars 10 digits 0

/-- What a numeral is read as. -/
inductive Reads : List Char → Nat → Prop where
  | plain {digits : List Char} (h : Digits digits) : Reads digits (valueOf digits)
  | plus {digits : List Char} (h : Digits digits) : Reads ('+' :: digits) (valueOf digits)

/-! ### The digits that are printed -/

theorem digits_toDigits (n : Nat) : Digits (Nat.toDigits 10 n) where
  ne_nil := Nat.toDigits_ne_nil
  isDigit _ hc := Nat.isDigit_of_mem_toDigits (by decide) (Nat.le_refl 10) hc

theorem valueOf_toDigits (n : Nat) : valueOf (Nat.toDigits 10 n) = n :=
  Nat.ofDigitChars_ten_toDigits

theorem reads_toDigits (n : Nat) : Reads (Nat.toDigits 10 n) n := by
  have h := Reads.plain (digits_toDigits n)
  rwa [valueOf_toDigits] at h

theorem toNat_of_isDigit {c : Char} (h : c.isDigit = true) : 48 ≤ c.toNat ∧ c.toNat ≤ 57 := by
  rw [Char.isDigit, Bool.and_eq_true, decide_eq_true_eq, decide_eq_true_eq] at h
  exact h

theorem isBlank_eq_false_of_isDigit {c : Char} (h : c.isDigit = true) : Text.isBlank c = false := by
  obtain ⟨hlow, hhigh⟩ := toNat_of_isDigit h
  exact Text.isBlank_eq_false_of_visible ⟨by omega, by omega⟩

/-- No blank stands at either end of a numeral. -/
theorem Reads.trimmed (h : Reads cs n) : Text.Trimmed cs := by
  refine .of_forall ?_
  cases h with
  | plain h => exact fun c hc => isBlank_eq_false_of_isDigit (h.isDigit c hc)
  | plus h =>
      rw [List.forall_mem_cons]
      exact ⟨rfl, fun c hc => isBlank_eq_false_of_isDigit (h.isDigit c hc)⟩

/-- A digit is the one that is printed for its value. -/
theorem digitChar_sub {c : Char} (h : c.isDigit = true) : (c.toNat - '0'.toNat).digitChar = c := by
  obtain ⟨hlow, hhigh⟩ := toNat_of_isDigit h
  apply Char.toNat_inj.mp
  show (c.toNat - 48).digitChar.toNat = c.toNat
  rw [Nat.toNat_digitChar_of_lt_ten (by omega)]
  omega

theorem valueOf_concat (digits : List Char) (c : Char) :
    valueOf (digits ++ [c]) = 10 * valueOf digits + (c.toNat - '0'.toNat) := by
  rw [valueOf, Nat.ofDigitChars_append, Nat.ofDigitChars_cons]
  rfl

/-- **Digits without a leading zero are those that are printed for their value**, and the value is
not zero. -/
theorem toDigits_valueOf (h : Digits digits) (hzero : digits.head? ≠ some '0') :
    Nat.toDigits 10 (valueOf digits) = digits ∧ 0 < valueOf digits := by
  obtain ⟨hne, hdigits⟩ := h
  induction digits using List.reverseRecOn with
  | nil => exact absurd rfl hne
  | append_singleton front c ih =>
      have hc : c.isDigit = true := hdigits c (by simp)
      obtain ⟨hlow, hhigh⟩ := toNat_of_isDigit hc
      have hsmall : c.toNat - '0'.toNat < 10 := by
        show c.toNat - 48 < 10
        omega
      rw [valueOf_concat]
      cases front with
      | nil =>
          have hpos : 0 < c.toNat - '0'.toNat := by
            have hnot : c.toNat ≠ 48 := fun heq => hzero (congrArg some (Char.toNat_inj.mp heq))
            show 0 < c.toNat - 48
            omega
          refine ⟨?_, Nat.add_pos_right _ hpos⟩
          show Nat.toDigits 10 (10 * 0 + (c.toNat - '0'.toNat)) = [c]
          rw [Nat.mul_zero, Nat.zero_add, Nat.toDigits_of_lt_base hsmall, digitChar_sub hc]
      | cons first rest =>
          obtain ⟨hfront, hpos⟩ := ih hzero (List.cons_ne_nil first rest)
            fun d hd => hdigits d (List.mem_append_left _ hd)
          refine ⟨?_, by omega⟩
          rw [← Nat.toDigits_append_toDigits (by decide) hpos hsmall, hfront,
            Nat.toDigits_of_lt_base hsmall, digitChar_sub hc]

/-- No number above zero is printed with a zero in front. -/
theorem head?_toDigits {n : Nat} (hpos : 0 < n) : (Nat.toDigits 10 n).head? ≠ some '0' := by
  induction n using Nat.strong_induction_on with
  | _ n ih =>
      by_cases hsmall : n < 10
      · rw [Nat.toDigits_of_lt_base hsmall]
        intro heq
        have hzero : n.digitChar = '0' := Option.some.inj heq
        have hnat : n.digitChar.toNat = 48 := congrArg Char.toNat hzero
        rw [Nat.toNat_digitChar_of_lt_ten hsmall] at hnat
        omega
      · have hsplit := Nat.toDigits_append_toDigits (b := 10) (n := n / 10) (d := n % 10)
          (by decide) (by omega) (by omega)
        rw [Nat.div_add_mod] at hsplit
        rw [← hsplit, List.head?_append_of_ne_nil _ Nat.toDigits_ne_nil]
        exact ih (n / 10) (by omega) (by omega)

/-! ### Reading digits -/

theorem ofDigitChars_cons (c : Char) (rest : List Char) (value : Nat) :
    Nat.ofDigitChars 10 (c :: rest) value
      = Nat.ofDigitChars 10 rest (value * 10 + digitValue c) := by
  rw [Nat.ofDigitChars_cons, Nat.mul_comm 10 value]
  rfl

theorem le_ofDigitChars (digits : List Char) (value : Nat) :
    value ≤ Nat.ofDigitChars 10 digits value := by
  rw [Nat.ofDigitChars_eq_ofDigitChars_zero]
  exact (Nat.le_mul_of_pos_left value (Nat.pow_pos (by decide))).trans (Nat.le_add_right _ _)

/-- **The limit is passed at some digit if and only if the whole is above it.** -/
theorem readDigits_eq_ok_iff (hvalue : value ≤ limit) :
    readDigits limit past value cs = .ok n
      ↔ (∀ c ∈ cs, c.isDigit = true) ∧ Nat.ofDigitChars 10 cs value = n ∧ n ≤ limit := by
  induction cs generalizing value with
  | nil =>
      rw [readDigits, Nat.ofDigitChars_nil, Except.ok.injEq]
      exact ⟨fun h => ⟨nofun, h, h ▸ hvalue⟩, fun h => h.2.1⟩
  | cons c rest ih =>
      rw [readDigits, ofDigitChars_cons, List.forall_mem_cons]
      cases hc : c.isDigit with
      | false => simp
      | true =>
          by_cases hpast : limit < value * 10 + digitValue c
          · have hle := le_ofDigitChars rest (value * 10 + digitValue c)
            simp only [Bool.not_true, Bool.false_eq_true, if_false, if_pos hpast, reduceCtorEq,
              true_and, false_iff, not_and]
            omega
          · simp only [Bool.not_true, Bool.false_eq_true, if_false, if_neg hpast, true_and]
            exact ih (Nat.le_of_not_lt hpast)

/-- **A numeral is read as what it writes, if that is within the limit.** -/
theorem readNat_eq_ok_iff : readNat limit cs = .ok n ↔ Reads cs n ∧ n ≤ limit := by
  have hdigits (digits : List Char) (hne : digits ≠ []) :
      readDigits limit .tooLarge 0 digits = .ok n
        ↔ (Digits digits ∧ valueOf digits = n) ∧ n ≤ limit := by
    rw [readDigits_eq_ok_iff (Nat.zero_le limit), and_assoc]
    exact and_congr_left fun _ => ⟨fun h => ⟨hne, h⟩, fun h => h.isDigit⟩
  have hplus (digits : List Char) : ¬ Digits ('+' :: digits) := fun h =>
    absurd (h.isDigit '+' (by simp)) (by decide)
  have hempty : ¬ Digits [] := fun h => h.ne_nil rfl
  unfold readNat
  split
  case h_1 =>
    refine ⟨nofun, fun ⟨h, _⟩ => ?_⟩
    cases h with
    | plain h => exact absurd h hempty
  case h_2 =>
    refine ⟨nofun, fun ⟨h, _⟩ => ?_⟩
    cases h with
    | plain h => exact absurd h (hplus [])
    | plus h => exact absurd h hempty
  case h_3 digits hne =>
    rw [hdigits digits (fun heq => hne heq)]
    refine and_congr_left fun _ => ⟨fun ⟨h, heq⟩ => heq ▸ .plus h, fun h => ?_⟩
    cases h with
    | plain h => exact absurd h (hplus digits)
    | plus h => exact ⟨h, rfl⟩
  case h_4 hne hsign hhead =>
    rw [hdigits cs hne]
    refine and_congr_left fun _ => ⟨fun ⟨h, heq⟩ => heq ▸ .plain h, fun h => ?_⟩
    cases h with
    | plain h => exact ⟨h, rfl⟩
    | plus h => exact absurd rfl (hhead _)

end Numeral

end Lifecast
