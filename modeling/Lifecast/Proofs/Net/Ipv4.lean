/-
What texts are IPv4 addresses.

A number below 256 has one spelling without leading zeros (`isOctet_iff`), so an address has one
text (`spells_iff`).  An address stands at the front of a text if its text does and no further
digit follows (`read?_eq_some_iff`).
-/
import Lifecast.Net.Address
import Lifecast.Proofs.Numeral

namespace Lifecast

theorem skipChar?_eq_some_iff {c : Char} {cs rest : List Char} :
    skipChar? c cs = some rest ↔ cs = c :: rest := by
  cases cs with
  | nil => exact ⟨nofun, nofun⟩
  | cons first back =>
      rw [skipChar?, Option.ite_none_right_eq_some, Option.some.injEq, List.cons.injEq]

namespace Ipv4

variable {w cs rest : List Char} {n : UInt8} {ip : Ipv4}

/-! ### One number -/

/-- A number from 0 to 255 in decimal, without leading zeros. -/
structure IsOctet (w : List Char) (n : UInt8) : Prop where
  digits : Numeral.Digits w
  leading : w.head? = some '0' → w = ['0']
  value : Numeral.valueOf w = n.toNat

/-- **A number is written as it is printed, and not in any other way.** -/
theorem isOctet_iff : IsOctet w n ↔ w = Nat.toDigits 10 n.toNat := by
  constructor
  · rintro ⟨hdigits, hleading, hvalue⟩
    rw [← hvalue]
    by_cases hzero : w.head? = some '0'
    · rw [hleading hzero]
      rfl
    · exact (Numeral.toDigits_valueOf hdigits hzero).1.symm
  · rintro rfl
    refine ⟨Numeral.digits_toDigits _, fun hzero => ?_, Numeral.valueOf_toDigits _⟩
    rcases Nat.eq_zero_or_pos n.toNat with h | h
    · rw [h]
      rfl
    · exact absurd hzero (Numeral.head?_toDigits h)

theorem IsOctet.length_le (h : IsOctet w n) : w.length ≤ 3 := by
  rw [isOctet_iff.mp h, Nat.length_toDigits_le_iff (by decide) (by decide)]
  exact n.toNat_lt.trans (by decide)

theorem foldl_digits (cs : List Char) :
    cs.foldl (fun n c => n * 10 + (c.toNat - '0'.toNat)) 0 = Numeral.valueOf cs := by
  simp only [Numeral.valueOf, Nat.ofDigitChars, Nat.mul_comm]

/-- A number is read if the digits in front are one, and all of them are taken. -/
theorem octet?_eq_some :
    octet? cs = some (n, rest)
      ↔ IsOctet (cs.takeWhile Char.isDigit) n ∧ cs.dropWhile Char.isDigit = rest := by
  have hall : ∀ c ∈ cs.takeWhile Char.isDigit, c.isDigit = true := fun c hc =>
    List.mem_takeWhile_imp hc
  simp only [octet?, foldl_digits]
  generalize cs.takeWhile Char.isDigit = digits at hall ⊢
  simp only [Option.ite_none_left_eq_some, Option.some.injEq, Prod.mk.injEq, Bool.or_eq_true,
    Bool.and_eq_true, decide_eq_true_eq, List.isEmpty_iff, not_or, not_and, Nat.not_lt]
  constructor
  · rintro ⟨⟨⟨hne, -⟩, hvalue⟩, hleading, hn, hrest⟩
    refine ⟨⟨⟨hne, hall⟩, fun hzero => ?_, ?_⟩, hrest⟩
    · obtain ⟨back, rfl⟩ := List.head?_eq_some_iff.mp hzero
      have hlength := hleading hzero
      rw [List.length_cons] at hlength
      have hback : back = [] := List.eq_nil_of_length_eq_zero (by omega)
      rw [hback]
    · rw [← hn, UInt8.toNat_ofNat_of_lt' (Nat.lt_succ_of_le hvalue)]
  · rintro ⟨h, hrest⟩
    refine ⟨⟨⟨h.digits.ne_nil, h.length_le⟩, ?_⟩, fun hzero => ?_, ?_, hrest⟩
    · rw [h.value]
      exact Nat.le_of_lt_succ n.toNat_lt
    · rw [h.leading hzero]
      exact Nat.le_refl 1
    · rw [h.value, UInt8.ofNat_toNat]

theorem octet?_eq_some_iff :
    octet? cs = some (n, rest)
      ↔ ∃ w, IsOctet w n ∧ cs = w ++ rest ∧ ∀ c ∈ rest.head?, c.isDigit = false := by
  rw [octet?_eq_some]
  constructor
  · rintro ⟨h, rfl⟩
    exact ⟨_, h, List.takeWhile_append_dropWhile.symm, fun c hc => Text.head?_dropWhile hc⟩
  · rintro ⟨w, h, rfl, hrest⟩
    obtain ⟨hfront, hback⟩ := Text.cut_eq h.digits.isDigit hrest
    exact ⟨hfront.symm ▸ h, hback⟩

/-! ### An address -/

/-- Four such numbers with dots between them. -/
inductive Spells : List Char → Ipv4 → Prop where
  | quad {a b c d : List Char} {ip : Ipv4} (ha : IsOctet a ip.a) (hb : IsOctet b ip.b)
      (hc : IsOctet c ip.c) (hd : IsOctet d ip.d) :
      Spells (a ++ '.' :: (b ++ '.' :: (c ++ '.' :: d))) ip

theorem toList_text (ip : Ipv4) :
    ip.text.toList = Nat.toDigits 10 ip.a.toNat ++ '.' :: (Nat.toDigits 10 ip.b.toNat ++ '.' ::
      (Nat.toDigits 10 ip.c.toNat ++ '.' :: Nat.toDigits 10 ip.d.toNat)) := by
  have hdot : ".".toList = ['.'] := rfl
  have hnumber (n : UInt8) : (toString n).toList = Nat.toDigits 10 n.toNat := Nat.toList_repr
  have htext : ip.text = toString ip.a ++ "." ++ toString ip.b ++ "." ++ toString ip.c ++ "."
      ++ toString ip.d := rfl
  simp only [htext, String.toList_append, hdot, hnumber, List.append_assoc,
    List.cons_append, List.nil_append]

/-- **An address has one text.** -/
theorem spells_iff : Spells w ip ↔ w = ip.text.toList := by
  rw [toList_text]
  constructor
  · rintro ⟨ha, hb, hc, hd⟩
    rw [isOctet_iff.mp ha, isOctet_iff.mp hb, isOctet_iff.mp hc, isOctet_iff.mp hd]
  · rintro rfl
    exact .quad (isOctet_iff.mpr rfl) (isOctet_iff.mpr rfl) (isOctet_iff.mpr rfl)
      (isOctet_iff.mpr rfl)

theorem not_isDigit_of_dot (rest : List Char) : ∀ c ∈ ('.' :: rest).head?, c.isDigit = false := by
  rintro c ⟨⟩
  rfl

/-- **An address stands in front if its text does, with no further digit behind it.** -/
theorem read?_eq_some_iff :
    read? cs = some (ip, rest)
      ↔ ∃ w, Spells w ip ∧ cs = w ++ rest ∧ ∀ c ∈ rest.head?, c.isDigit = false := by
  have hdot := not_isDigit_of_dot
  simp only [read?, Option.bind_eq_bind, Option.bind_eq_some_iff, Option.pure_def,
    Option.some.injEq, Prod.exists, Prod.mk.injEq, skipChar?_eq_some_iff, octet?_eq_some_iff]
  constructor
  · rintro ⟨a, _, ⟨wa, ha, rfl, -⟩, _, rfl, b, _, ⟨wb, hb, rfl, -⟩, _, rfl, c, _,
      ⟨wc, hc, rfl, -⟩, _, rfl, d, _, ⟨wd, hd, rfl, hrest⟩, rfl, rfl⟩
    refine ⟨_, .quad ha hb hc hd, ?_, hrest⟩
    simp only [List.append_assoc, List.cons_append]
  · rintro ⟨_, ⟨ha, hb, hc, hd⟩, rfl, hrest⟩
    simp only [List.append_assoc, List.cons_append]
    exact ⟨_, _, ⟨_, ha, rfl, hdot _⟩, _, rfl, _, _, ⟨_, hb, rfl, hdot _⟩, _, rfl, _, _,
      ⟨_, hc, rfl, hdot _⟩, _, rfl, _, _, ⟨_, hd, rfl, hrest⟩, rfl, rfl⟩

theorem read?_eq_some_nil_iff : read? cs = some (ip, []) ↔ Spells cs ip := by
  rw [read?_eq_some_iff]
  constructor
  · rintro ⟨w, hw, rfl, -⟩
    exact (List.append_nil w).symm ▸ hw
  · exact fun h => ⟨cs, h, (List.append_nil cs).symm, nofun⟩

/-- No address stands where no dot follows the digits. -/
theorem read?_eq_none (h : ∀ c ∈ (cs.dropWhile Char.isDigit).head?, c ≠ '.') :
    read? cs = none := by
  refine Option.eq_none_iff_forall_not_mem.mpr fun ⟨ip, rest⟩ hread => ?_
  obtain ⟨_, ⟨ha, hb, hc, hd⟩, rfl, -⟩ := read?_eq_some_iff.mp hread
  rw [List.append_assoc, List.cons_append,
    (Text.cut_eq ha.digits.isDigit (not_isDigit_of_dot _)).2] at h
  exact h '.' rfl rfl

/-- Every character is a digit or a dot. -/
theorem Spells.mem (h : Spells w ip) {c : Char} (hc : c ∈ w) : c.isDigit = true ∨ c = '.' := by
  obtain ⟨ha, hb, hc', hd⟩ := h
  simp only [List.mem_append, List.mem_cons] at hc
  rcases hc with hc | hc | hc | hc | hc | hc | hc
  · exact .inl (ha.digits.isDigit c hc)
  · exact .inr hc
  · exact .inl (hb.digits.isDigit c hc)
  · exact .inr hc
  · exact .inl (hc'.digits.isDigit c hc)
  · exact .inr hc
  · exact .inl (hd.digits.isDigit c hc)

theorem Spells.trimmed (h : Spells w ip) : Text.Trimmed w := by
  refine .of_forall fun c hc => ?_
  rcases h.mem hc with hdigit | rfl
  · exact Numeral.isBlank_eq_false_of_isDigit hdigit
  · rfl

end Ipv4

end Lifecast
