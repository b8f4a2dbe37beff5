/-
What texts are IPv6 addresses.

Groups of hexadecimal digits stand in a row with colons between them, and an IPv4 address may
close the row in the place of two groups (`Row`).  A text is an address if it is a row of eight, or
two rows of seven at most with `::` between them, and either row may be left out (`IsText`).

What the reader takes is always a row (`stretch_groupsOf`), and it follows a row to its end
(`groupsOf_row`).  It looks for an IPv4 address before it looks for a group.  This never leads it
astray, since a group is followed by a colon and the first number of an IPv4 address by a dot.
-/
import Lifecast.Proofs.Net.Ipv4

namespace Lifecast

namespace Ipv6

variable {first closed : Bool} {slots n m : Nat} {cs w rest tail body : List Char}

/-! ### Groups -/

/-- A hexadecimal digit of either case. -/
def IsHexDigit (c : Char) : Prop :=
  ('0' ≤ c ∧ c ≤ '9') ∨ ('a' ≤ c ∧ c ≤ 'f') ∨ ('A' ≤ c ∧ c ≤ 'F')

instance (c : Char) : Decidable (IsHexDigit c) :=
  inferInstanceAs (Decidable (_ ∨ _))

/-- One to four hexadecimal digits. -/
structure IsGroup (w : List Char) : Prop where
  ne_nil : w ≠ []
  length_le : w.length ≤ 4
  digits : ∀ c ∈ w, IsHexDigit c

theorem isSome_hexValue? {c : Char} : (hexValue? c).isSome = true ↔ IsHexDigit c := by
  have hdigit : c.isDigit = true ↔ '0' ≤ c ∧ c ≤ '9' := by
    rw [Char.isDigit, Bool.and_eq_true, decide_eq_true_eq, decide_eq_true_eq]
    rfl
  simp only [hexValue?, IsHexDigit, hdigit]
  split_ifs <;> simp_all

theorem group?_eq_some {g : UInt16} (h : group? cs = some (g, rest)) :
    ∃ w, IsGroup w ∧ cs = w ++ rest := by
  have hall : ∀ c ∈ cs.takeWhile fun c => (hexValue? c).isSome, IsHexDigit c := fun _ hc =>
    isSome_hexValue?.mp (List.mem_takeWhile_imp (p := fun c => (hexValue? c).isSome) hc)
  simp only [group?, Option.ite_none_left_eq_some, Option.some.injEq, Prod.mk.injEq,
    Bool.or_eq_true, decide_eq_true_eq, List.isEmpty_iff, not_or, Nat.not_lt] at h
  obtain ⟨⟨hne, hlength⟩, -, rfl⟩ := h
  exact ⟨_, ⟨hne, hlength, hall⟩, List.takeWhile_append_dropWhile.symm⟩

theorem group?_append (h : IsGroup w) (htail : ∀ c ∈ tail.head?, ¬ IsHexDigit c) :
    ∃ g, group? (w ++ tail) = some (g, tail) := by
  obtain ⟨hfront, hback⟩ := Text.cut_eq (p := fun c => (hexValue? c).isSome)
    (fun c hc => isSome_hexValue?.mpr (h.digits c hc))
    (fun c hc => Bool.eq_false_iff.mpr (mt isSome_hexValue?.mp (htail c hc)))
  have hlength := h.length_le
  simp only [group?, hfront, hback]
  rw [if_neg]
  · exact ⟨_, rfl⟩
  · simp only [Bool.or_eq_true, decide_eq_true_eq, List.isEmpty_iff, h.ne_nil, false_or]
    omega

theorem colon_of_mem_head? (rest : List Char) : ∀ c ∈ (':' :: rest).head?, c = ':' :=
  fun _ hc => (Option.mem_some_iff.mp hc).symm

/-- No IPv4 address stands where a group does, since no dot stands behind the group. -/
theorem IsGroup.ipv4_read? (h : IsGroup w) (htail : ∀ c ∈ tail.head?, c = ':') :
    Ipv4.read? (w ++ tail) = none := by
  have hword : ∀ c ∈ w, c ≠ '.' := by
    rintro c hc rfl
    exact absurd (h.digits '.' hc) (by decide)
  clear h
  refine Ipv4.read?_eq_none ?_
  induction w with
  | nil =>
      intro c hc
      cases tail with
      | nil => exact nomatch hc
      | cons colon rest =>
          obtain rfl := htail colon rfl
          obtain rfl : ':' = c := Option.some.inj hc
          decide
  | cons c w ih =>
      rw [List.forall_mem_cons] at hword
      rw [List.cons_append, List.dropWhile_cons]
      split_ifs
      · exact ih hword.2
      · rintro d ⟨⟩
        exact hword.1

/-! ### Rows -/

/-- Groups in a row, how many places they take, and whether an IPv4 address closes them. -/
inductive Row : List Char → Nat → Bool → Prop where
  | group {w : List Char} (h : IsGroup w) : Row w 1 false
  | ipv4 {w : List Char} {ip : Ipv4} (h : Ipv4.Spells w ip) : Row w 2 true
  | cons {w rest : List Char} {n : Nat} {closed : Bool} (h : IsGroup w)
      (hrest : Row rest n closed) : Row (w ++ ':' :: rest) (n + 1) closed

/-- What stands in front of a row: a colon, unless it is the first one. -/
def lead (first : Bool) : List Char :=
  if first then [] else [':']

/-- A row with what stands in front of it, or nothing. -/
inductive Stretch (first : Bool) : List Char → Nat → Bool → Prop where
  | nothing : Stretch first [] 0 false
  | row {w : List Char} {n : Nat} {closed : Bool} (h : Row w n closed) :
      Stretch first (lead first ++ w) n closed

/-- An IPv6 address as text. -/
inductive IsText : List Char → Prop where
  | full {w : List Char} {closed : Bool} (h : Row w 8 closed) : IsText w
  | compressed {front back : List Char} {m n : Nat} {closed : Bool}
      (hfront : Stretch true front m false) (hback : Stretch true back n closed)
      (hplaces : m + n ≤ 7) : IsText (front ++ ':' :: ':' :: back)

theorem Stretch.row_of_ne_zero (h : Stretch true w n closed) (hn : n ≠ 0) : Row w n closed := by
  cases h with
  | nothing => exact absurd rfl hn
  | row h => exact h

/-- A group and what follows it are a row. -/
theorem IsGroup.row_append (h : IsGroup w) (hrest : Stretch false rest n closed) :
    Row (w ++ rest) (n + 1) closed := by
  cases hrest with
  | nothing => exact (List.append_nil w).symm ▸ .group h
  | row hrest => exact .cons h hrest

/-- Where the reader starts on a row. -/
theorem open_eq_some_iff :
    (if first then some cs else skipChar? ':' cs) = some body ↔ cs = lead first ++ body := by
  cases first with
  | true => exact Option.some.injEq cs body ▸ Iff.rfl
  | false => exact skipChar?_eq_some_iff

/-! ### What the reader takes -/

theorem stretch_groupsOf (first : Bool) (slots : Nat) (cs : List Char) :
    ∃ w, Stretch first w (groupsOf first slots cs).1.length (groupsOf first slots cs).2.1 ∧
      cs = w ++ (groupsOf first slots cs).2.2 ∧ (groupsOf first slots cs).1.length ≤ slots := by
  induction slots generalizing first cs with
  | zero => exact ⟨[], .nothing, rfl, Nat.le_refl 0⟩
  | succ slots ih =>
      rw [groupsOf]
      split
      case h_1 => exact ⟨[], .nothing, rfl, Nat.zero_le _⟩
      case h_2 body hopen =>
        obtain rfl := open_eq_some_iff.mp hopen
        split
        case h_1 ip rest hread =>
          obtain ⟨hslots, hread⟩ := Option.ite_none_right_eq_some.mp hread
          obtain ⟨w, hw, rfl, -⟩ := Ipv4.read?_eq_some_iff.mp hread
          exact ⟨_, .row (.ipv4 hw), (List.append_assoc _ _ _).symm, Nat.succ_le_succ hslots⟩
        case h_2 =>
          split
          case h_1 => exact ⟨[], .nothing, rfl, Nat.zero_le _⟩
          case h_2 g rest hgroup =>
            obtain ⟨w, hw, rfl⟩ := group?_eq_some hgroup
            obtain ⟨back, hback, heq, hle⟩ := ih false rest
            refine ⟨_, .row (hw.row_append hback), ?_, Nat.succ_le_succ hle⟩
            rw [List.append_assoc, List.append_assoc, ← heq]

/-! ### How far the reader goes -/

/-- A row ends here: the text does, or `::` follows on a row that may go on. -/
inductive Ends : Bool → List Char → Prop where
  | text {closed : Bool} : Ends closed []
  | gap {rest : List Char} : Ends false (':' :: ':' :: rest)

theorem Ends.head? (h : Ends closed tail) : ∀ c ∈ tail.head?, c = ':' := by
  cases h with
  | text => exact nofun
  | gap => exact colon_of_mem_head? _

/-- Where a row ends the reader takes nothing. -/
theorem groupsOf_ends (first : Bool) (slots : Nat) (h : Ends closed tail) :
    groupsOf first slots tail = ([], false, tail) := by
  cases slots with
  | zero => rfl
  | succ slots =>
      rw [groupsOf]
      split
      case h_1 => rfl
      case h_2 body hopen =>
        have hbody : body = [] ∨ ∃ rest, body = ':' :: rest := by
          have heq := open_eq_some_iff.mp hopen
          cases h with
          | text => exact .inl (List.append_eq_nil_iff.mp heq.symm).2
          | gap =>
              cases first with
              | true => exact .inr ⟨_, heq.symm⟩
              | false => exact .inr ⟨_, (List.cons.inj heq).2.symm⟩
        have hipv4 : (if 0 < slots then Ipv4.read? body else none) = none := by
          rcases hbody with rfl | ⟨rest, rfl⟩ <;> exact ite_self _
        have hgroup : group? body = none := by
          rcases hbody with rfl | ⟨rest, rfl⟩ <;> rfl
        rw [hipv4, hgroup]

/-- One group is taken, and the reader goes on behind it. -/
theorem groupsOf_group (first : Bool) (slots : Nat) (h : IsGroup w)
    (htail : ∀ c ∈ tail.head?, c = ':') :
    ∃ g, groupsOf first (slots + 1) (lead first ++ (w ++ tail))
      = (g :: (groupsOf false slots tail).1, (groupsOf false slots tail).2) := by
  obtain ⟨g, hg⟩ := group?_append h fun c hc => htail c hc ▸ (by decide)
  have hipv4 : (if 0 < slots then Ipv4.read? (w ++ tail) else none) = none := by
    rw [h.ipv4_read? htail, ite_self]
  refine ⟨g, ?_⟩
  rw [groupsOf, open_eq_some_iff.mpr rfl]
  simp only [hipv4, hg]

/-- **The reader follows a row to its end**, if there are places enough. -/
theorem groupsOf_row (h : Row w n closed) (first : Bool) (hends : Ends closed tail)
    (hplaces : n ≤ slots) :
    ∃ gs : List UInt16, gs.length = n ∧
      groupsOf first slots (lead first ++ (w ++ tail)) = (gs, closed, tail) := by
  induction h generalizing first slots with
  | group hw =>
      obtain ⟨slots, rfl⟩ := Nat.exists_eq_add_of_le' hplaces
      obtain ⟨g, hg⟩ := groupsOf_group first slots hw hends.head?
      refine ⟨[g], rfl, ?_⟩
      rw [hg, groupsOf_ends false slots hends]
  | @ipv4 w ip hw =>
      cases hends
      obtain ⟨slots, rfl⟩ := Nat.exists_eq_add_of_le' hplaces
      have hread : Ipv4.read? (w ++ []) = some (ip, []) :=
        Ipv4.read?_eq_some_nil_iff.mpr ((List.append_nil w).symm ▸ hw)
      refine ⟨ip.groups, rfl, ?_⟩
      rw [groupsOf, open_eq_some_iff.mpr rfl]
      simp only [if_pos (Nat.succ_pos slots), hread]
  | @cons w rest n closed hw hrest ih =>
      obtain ⟨more, rfl⟩ := Nat.exists_eq_add_of_le' hplaces
      obtain ⟨g, hg⟩ := groupsOf_group first (more + n) hw (colon_of_mem_head? (rest ++ tail))
      obtain ⟨gs, hlength, hgs⟩ := ih false hends (Nat.le_add_left n more)
      refine ⟨g :: gs, congrArg Nat.succ hlength, ?_⟩
      rw [List.append_assoc, List.cons_append, ← Nat.add_assoc, hg]
      exact congrArg (fun r : List UInt16 × Bool × List Char => (g :: r.1, r.2)) hgs

theorem groupsOf_stretch (h : Stretch true w n closed) (hends : Ends closed tail)
    (hplaces : n ≤ slots) :
    ∃ gs : List UInt16, gs.length = n ∧ groupsOf true slots (w ++ tail) = (gs, closed, tail) := by
  cases h with
  | nothing => exact ⟨[], rfl, groupsOf_ends true slots hends⟩
  | row h => exact groupsOf_row h true hends hplaces

/-! ### Addresses -/

/-- What the reader takes off the front of a text is an address. -/
theorem read?_eq_some {ip : Ipv6} (h : read? cs = some (ip, rest)) :
    ∃ w, IsText w ∧ cs = w ++ rest := by
  obtain ⟨w, hw, heq, hfront⟩ := stretch_groupsOf true 8 cs
  rw [read?] at h
  generalize groupsOf true 8 cs = taken at h hw heq hfront
  obtain ⟨front, closed, after⟩ := taken
  simp only at h hw heq hfront
  split_ifs at h with hfull hclosed
  · obtain ⟨-, rfl⟩ := Prod.mk.inj (Option.some.inj h)
    exact ⟨w, .full (hfull ▸ hw.row_of_ne_zero (hfull ▸ by decide)), heq⟩
  · simp only [Option.bind_eq_bind, Option.bind_eq_some_iff, skipChar?_eq_some_iff] at h
    obtain ⟨_, rfl, behind, rfl, h⟩ := h
    obtain ⟨v, hv, hbehind, hback⟩ := stretch_groupsOf true (7 - front.length) behind
    generalize groupsOf true (7 - front.length) behind = taken at h hv hbehind hback
    obtain ⟨back, closed', after⟩ := taken
    simp only at hv hbehind hback
    obtain ⟨-, rfl⟩ := Prod.mk.inj (Option.some.inj h)
    rw [Bool.not_eq_true] at hclosed
    refine ⟨_, .compressed (hclosed ▸ hw) hv ?_, ?_⟩
    · omega
    · rw [heq, hbehind, List.append_assoc, List.cons_append, List.cons_append]

/-- **What is read as an address as a whole is the text of one.** -/
theorem exists_read?_iff : (∃ ip, read? cs = some (ip, [])) ↔ IsText cs := by
  constructor
  · rintro ⟨ip, h⟩
    obtain ⟨w, hw, rfl⟩ := read?_eq_some h
    exact (List.append_nil w).symm ▸ hw
  · rintro (h | @⟨front, back, m, n, closed, hfront, hback, hplaces⟩)
    · obtain ⟨gs, hlength, hgs⟩ := groupsOf_stretch (.row h) .text (Nat.le_refl 8)
      rw [lead, if_pos rfl, List.nil_append, List.append_nil] at hgs
      refine ⟨ofEnds gs [], ?_⟩
      rw [read?, hgs]
      exact if_pos hlength
    · have hgap : Ends false (':' :: ':' :: back) := .gap
      have hm : m ≤ 8 := by omega
      have hn : n ≤ 7 - m := by omega
      obtain ⟨gs, hlength, hgs⟩ := groupsOf_stretch hfront hgap hm
      obtain ⟨hs, -, hhs⟩ := groupsOf_stretch hback .text hn
      have hfull : m ≠ 8 := by omega
      rw [List.append_nil] at hhs
      refine ⟨ofEnds gs hs, ?_⟩
      simp only [read?, hgs, hlength, if_neg hfull, Bool.false_eq_true, if_false, Option.bind_eq_bind,
        skipChar?_eq_some_iff.mpr rfl, Option.bind_some, hhs, Option.pure_def]

/-- No IPv4 address stands at the front of a row that one does not make up alone. -/
theorem Row.ipv4_read? (h : Row w n closed) (hlong : closed = true → n ≠ 2)
    (htail : ∀ c ∈ tail.head?, c = ':') : Ipv4.read? (w ++ tail) = none := by
  cases h with
  | group h => exact h.ipv4_read? htail
  | ipv4 h => exact absurd rfl (hlong rfl)
  | cons h hrest =>
      rw [List.append_assoc]
      exact h.ipv4_read? (colon_of_mem_head? _)

theorem IsText.ipv4_read? (h : IsText cs) : Ipv4.read? cs = none := by
  cases h with
  | full h =>
      rw [← List.append_nil cs]
      exact h.ipv4_read? (fun _ => by decide) nofun
  | @compressed front back m n closed hfront hback hplaces =>
      cases hfront with
      | nothing => rfl
      | row h => exact h.ipv4_read? nofun (colon_of_mem_head? _)

theorem IsHexDigit.toNat {c : Char} (h : IsHexDigit c) : 48 ≤ c.toNat ∧ c.toNat ≤ 102 := by
  have hle (a b : Char) : a ≤ b ↔ a.toNat ≤ b.toNat := Iff.rfl
  have hends : '0'.toNat = 48 ∧ '9'.toNat = 57 ∧ 'a'.toNat = 97 ∧ 'f'.toNat = 102 ∧
      'A'.toNat = 65 ∧ 'F'.toNat = 70 := by decide
  simp only [IsHexDigit, hle, hends] at h
  omega

/-- Every character of a row is a hexadecimal digit, a colon or a dot. -/
theorem Row.toNat (h : Row w n closed) : ∀ c ∈ w, 46 ≤ c.toNat ∧ c.toNat ≤ 102 := by
  have hdigit {c : Char} (hc : IsHexDigit c) : 46 ≤ c.toNat ∧ c.toNat ≤ 102 :=
    ⟨Nat.le_of_succ_le (Nat.le_of_succ_le hc.toNat.1), hc.toNat.2⟩
  induction h with
  | group h => exact fun c hc => hdigit (h.digits c hc)
  | ipv4 h =>
      intro c hc
      rcases h.mem hc with hc | rfl
      · obtain ⟨hlow, hhigh⟩ := Numeral.toNat_of_isDigit hc
        omega
      · decide
  | cons h _ ih =>
      intro c hc
      rcases List.mem_append.mp hc with hc | hc
      · exact hdigit (h.digits c hc)
      · rcases List.mem_cons.mp hc with rfl | hc
        · decide
        · exact ih c hc

theorem IsText.trimmed (h : IsText w) : Text.Trimmed w := by
  have hvisible {c : Char} (hc : 46 ≤ c.toNat ∧ c.toNat ≤ 102) : Text.isBlank c = false :=
    Text.isBlank_eq_false_of_visible ⟨by omega, by omega⟩
  have hstretch {v : List Char} {n : Nat} {closed : Bool} (hv : Stretch true v n closed) :
      ∀ c ∈ v, Text.isBlank c = false := by
    cases hv with
    | nothing => exact nofun
    | row hv => exact fun c hc => hvisible (hv.toNat c hc)
  refine .of_forall ?_
  cases h with
  | full h => exact fun c hc => hvisible (h.toNat c hc)
  | compressed hfront hback =>
      simp only [List.forall_mem_append, List.forall_mem_cons]
      exact ⟨hstretch hfront, rfl, rfl, hstretch hback⟩

/-- **Where an IPv6 address holds an IPv4 address, it is still the text of one.** -/
theorem isText_mapped (ip : Ipv4) : IsText ("::ffff:" ++ ip.text).toList := by
  have htext : ("::ffff:" ++ ip.text).toList
      = [] ++ ':' :: ':' :: (List.replicate 4 'f' ++ ':' :: ip.text.toList) := by
    rw [String.toList_append]
    rfl
  have hgroup : IsGroup (List.replicate 4 'f') := by
    refine ⟨by decide, by decide, fun c hc => ?_⟩
    rw [List.eq_of_mem_replicate hc]
    decide
  rw [htext]
  exact .compressed .nothing (.row (.cons hgroup (.ipv4 (Ipv4.spells_iff.mpr rfl)))) (by decide)

end Ipv6

/-! ### Addresses of either kind -/

namespace IpAddress

variable {cs : List Char} {ip : Ipv4}

theorem ofText?_eq_some_iff {ip : IpAddress} : ofText? cs = some ip ↔ read? cs = some (ip, []) := by
  rw [ofText?]
  split <;> simp_all

/-- **An IPv4 address is read from its text alone.** -/
theorem ofText?_eq_v4_iff : ofText? cs = some (.v4 ip) ↔ Ipv4.Spells cs ip := by
  rw [ofText?_eq_some_iff, read?, ← Ipv4.read?_eq_some_nil_iff]
  cases Ipv4.read? cs with
  | none =>
      refine ⟨fun h => ?_, nofun⟩
      obtain ⟨_, -, heq⟩ := Option.map_eq_some_iff.mp h
      exact nomatch heq
  | some found => simp [Prod.ext_iff]

/-- **An IPv6 address is read from each text of one.** -/
theorem exists_ofText?_eq_v6_iff : (∃ ip, ofText? cs = some (.v6 ip)) ↔ Ipv6.IsText cs := by
  simp only [ofText?_eq_some_iff, read?]
  rw [← Ipv6.exists_read?_iff]
  constructor
  · rintro ⟨ip, h⟩
    cases hv4 : Ipv4.read? cs with
    | some found =>
        rw [hv4] at h
        exact nomatch h
    | none =>
        rw [hv4] at h
        obtain ⟨found, hfound, heq⟩ := Option.map_eq_some_iff.mp h
        obtain ⟨hip, hrest⟩ := Prod.mk.inj heq
        exact ⟨found.1, hrest ▸ hfound⟩
  · rintro ⟨ip, h⟩
    refine ⟨ip, ?_⟩
    rw [(Ipv6.exists_read?_iff.mp ⟨ip, h⟩).ipv4_read?, h]
    rfl

end IpAddress

end Lifecast
