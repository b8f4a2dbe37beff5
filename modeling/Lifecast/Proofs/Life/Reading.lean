/-
What a payload has to look like, and what is wrong with one that does not.

A header is three digits, the byte between the sides and three digits.  Behind a header
whose sides are not zero there is one byte for each cell, and nothing else.  `Reads` says
this with the places of the bytes: one rule for a payload that shows a picture, and one for
each way to miss that, in the order in which the faults are looked for.

A payload that satisfies a rule is read as the rule says (`Reads.parse_eq`), and every
payload satisfies one (`exists_reads`).  Together they make the rules exact, since a payload
is read in one way only.  The rule for pictures has a shorter form: what is read as a
picture is what is written for the grid it shows, and nothing else (`parse_eq_ok_iff`).
-/
import Lifecast.Proofs.Life.Payload

namespace Lifecast

theorem Size.ofSides_of_zero {width height : Nat} (h : width = 0 ∨ height = 0) :
    Size.ofSides width height = .error (.invalidDimensions width height) := by
  unfold Size.ofSides
  rw [dif_neg]
  omega

namespace Picture

/-! ### The rules -/

/-- What is left of a payload to be read: one line feed at its end does not count. -/
inductive Stripped : Bytes → Bytes → Prop
  | newline (q : Bytes) : Stripped (q ++ [defaultDelimiter]) q
  | plain {q : Bytes} (hend : ¬ [defaultDelimiter] <:+ q) : Stripped q q

/-- The byte of a live or of a dead cell. -/
def IsCell (b : UInt8) : Prop :=
  b = aliveByte ∨ b = deadByte

/-- The number that some digits write. -/
def decimal (digits : Bytes) : Nat :=
  digits.foldl (fun n b => n * 10 + (b.toNat - 48)) 0

/-- Three digits, the byte between the sides and three digits come first. -/
def HasHeader (q : Bytes) : Prop :=
  q[3]? = some timesByte ∧ ∀ i ∈ [0, 1, 2, 4, 5, 6], ∃ b, q[i]? = some b ∧ isDigit b = true

/-- A header comes first, and these are the numbers on its two sides. -/
structure Announces (q : Bytes) (width height : Nat) : Prop where
  header : HasHeader q
  width_eq : decimal (q.take 3) = width
  height_eq : decimal ((q.drop 4).take 3) = height

/-- What is read of some bytes, by the places of the bytes. -/
inductive Reads (q : Bytes) : Except FrameError Picture → Prop
  /-- There is no room for a header. -/
  | tooShort (hlength : q.length < 7) : Reads q (.error (.tooShort q.length))
  /-- There is room for a header, but there is none. -/
  | malformedHeader (hlength : 7 ≤ q.length) (hheader : ¬ HasHeader q) :
      Reads q (.error (.malformedHeader (Text.decode (q.take 7))))
  /-- A side is zero. -/
  | invalidDimensions {width height : Nat} (hsize : Announces q width height)
      (hzero : width = 0 ∨ height = 0) : Reads q (.error (.invalidDimensions width height))
  /-- There are too few or too many bytes behind the header. -/
  | bodyLength {width height : Nat} (hsize : Announces q width height)
      (hpos : 0 < width ∧ 0 < height) (hbody : q.length - 7 ≠ width * height) :
      Reads q (.error (.bodyLength (width * height) (q.length - 7)))
  /-- The number of bytes is right, and this is the first one that is no cell. -/
  | invalidCell {width height index : Nat} {byte : UInt8} (hsize : Announces q width height)
      (hpos : 0 < width ∧ 0 < height) (hbody : q.length - 7 = width * height)
      (hbyte : q[7 + index]? = some byte) (hbad : ¬ IsCell byte)
      (hfirst : ∀ i < index, ∃ b, q[7 + i]? = some b ∧ IsCell b) :
      Reads q (.error (.invalidCell index byte))
  /-- Each cell of the picture is shown by its byte, and beyond its edges there is none. -/
  | picture {f : Picture} (hsize : Announces q f.size.width f.size.height)
      (hbody : q.length - 7 = f.size.width * f.size.height)
      (hcells : ∀ b ∈ q.drop 7, IsCell b)
      (halive : ∀ x y, f.isAlive x y = true ↔
        x < f.size.width ∧ y < f.size.height ∧ q[7 + y * f.size.width + x]? = some aliveByte) :
      Reads q (.ok f)

/-! ### The line feed -/

theorem withoutNewline_concat (q : Bytes) : withoutNewline (q ++ [defaultDelimiter]) = q := by
  unfold withoutNewline
  rw [if_pos (by simp), List.dropLast_concat]

theorem withoutNewline_of_not_suffix {q : Bytes} (h : ¬ [defaultDelimiter] <:+ q) :
    withoutNewline q = q := by
  unfold withoutNewline
  rw [if_neg]
  intro hlast
  obtain ⟨front, rfl⟩ := List.getLast?_eq_some_iff.mp hlast
  exact h (List.suffix_append front _)

theorem stripped_withoutNewline (p : Bytes) : Stripped p (withoutNewline p) := by
  by_cases h : [defaultDelimiter] <:+ p
  · obtain ⟨q, rfl⟩ := h
    rw [withoutNewline_concat]
    exact .newline q
  · rw [withoutNewline_of_not_suffix h]
    exact .plain h

theorem Stripped.eq_withoutNewline {p q : Bytes} (h : Stripped p q) : q = withoutNewline p := by
  cases h with
  | newline => exact (withoutNewline_concat q).symm
  | plain hend => exact (withoutNewline_of_not_suffix hend).symm

theorem Stripped.eq_or_eq {p q : Bytes} (h : Stripped p q) :
    p = q ∨ p = q ++ [defaultDelimiter] := by
  cases h with
  | newline => exact Or.inr rfl
  | plain => exact Or.inl rfl

/-! ### Headers

Three digits write a number that is no more than the longest side, and they are the digits
that this number is written with.  So a header that announces a size is the header of that
size.
-/

theorem exists_header {q : Bytes} (h : 7 ≤ q.length) :
    ∃ a b c x d e f body, q = a :: b :: c :: x :: d :: e :: f :: body := by
  match q, h with
  | a :: b :: c :: x :: d :: e :: f :: body, _ => exact ⟨a, b, c, x, d, e, f, body, rfl⟩

theorem HasHeader.length_le {q : Bytes} (h : HasHeader q) : 7 ≤ q.length := by
  obtain ⟨b, hb, -⟩ := h.2 6 (by simp)
  obtain ⟨hlength, -⟩ := List.getElem?_eq_some_iff.mp hb
  exact hlength

theorem hasHeader_iff {a b c x d e f : UInt8} {body : Bytes} :
    HasHeader (a :: b :: c :: x :: d :: e :: f :: body)
      ↔ x = timesByte ∧ [a, b, c, d, e, f].all isDigit = true := by
  simp [HasHeader]

theorem HasHeader.exists_digits {q : Bytes} (h : HasHeader q) :
    ∃ a b c d e f body, q = a :: b :: c :: timesByte :: d :: e :: f :: body ∧
      (isDigit a = true ∧ isDigit b = true ∧ isDigit c = true) ∧
      (isDigit d = true ∧ isDigit e = true ∧ isDigit f = true) := by
  obtain ⟨a, b, c, x, d, e, f, body, rfl⟩ := exists_header h.length_le
  obtain ⟨rfl, hdigits⟩ := hasHeader_iff.mp h
  simp only [List.all_cons, List.all_nil, Bool.and_true, Bool.and_eq_true] at hdigits
  obtain ⟨ha, hb, hc, hd, he, hf⟩ := hdigits
  exact ⟨a, b, c, d, e, f, body, rfl, ⟨ha, hb, hc⟩, hd, he, hf⟩

theorem decimal_side (a b c : UInt8) : decimal [a, b, c] = sideOf a b c := by
  simp only [decimal, sideOf, List.foldl_cons, List.foldl_nil]
  omega

theorem toNat_of_isDigit {b : UInt8} (h : isDigit b = true) : 48 ≤ b.toNat ∧ b.toNat ≤ 57 := by
  simp only [isDigit, Bool.and_eq_true, decide_eq_true_eq, UInt8.le_iff_toNat_le] at h
  exact h

theorem decimal_le {a b c : UInt8} (ha : isDigit a = true) (hb : isDigit b = true)
    (hc : isDigit c = true) : decimal [a, b, c] ≤ maxSide := by
  have ha' := toNat_of_isDigit ha
  have hb' := toNat_of_isDigit hb
  have hc' := toNat_of_isDigit hc
  rw [decimal_side]
  unfold sideOf maxSide
  omega

/-- Three digits are those of the number they write. -/
theorem threeDigits_decimal {a b c : UInt8} (ha : isDigit a = true) (hb : isDigit b = true)
    (hc : isDigit c = true) : threeDigits (decimal [a, b, c]) = [a, b, c] := by
  have ha' := toNat_of_isDigit ha
  have hb' := toNat_of_isDigit hb
  have hc' := toNat_of_isDigit hc
  have hdigit : ∀ {n : Nat} {x : UInt8}, 48 ≤ x.toNat → n % 10 = x.toNat - 48 →
      digitByte n = x := by
    intro n x hx hn
    apply UInt8.toNat_inj.mp
    rw [toNat_digitByte, hn]
    omega
  rw [decimal_side]
  unfold threeDigits sideOf
  rw [hdigit ha'.1 (by omega), hdigit hb'.1 (by omega), hdigit hc'.1 (by omega)]

theorem Announces.le {q : Bytes} {width height : Nat} (h : Announces q width height) :
    width ≤ maxSide ∧ height ≤ maxSide := by
  obtain ⟨a, b, c, d, e, f, body, rfl, ⟨ha, hb, hc⟩, hd, he, hf⟩ := h.header.exists_digits
  constructor
  · rw [← h.width_eq]
    exact decimal_le ha hb hc
  · rw [← h.height_eq]
    exact decimal_le hd he hf

/-- The size that a header announces, if no side is zero. -/
def Announces.size {q : Bytes} {width height : Nat} (h : Announces q width height)
    (hpos : 0 < width ∧ 0 < height) : Size :=
  ⟨width, height, hpos.1, hpos.2, h.le.1, h.le.2⟩

theorem Announces.area_size {q : Bytes} {width height : Nat} (h : Announces q width height)
    (hpos : 0 < width ∧ 0 < height) : (h.size hpos).area = width * height :=
  Nat.mul_comm height width

theorem announces_header (s : Size) (body : Bytes) :
    Announces (s.header ++ body) s.width s.height where
  header := by
    refine hasHeader_iff.mpr ⟨rfl, ?_⟩
    simp [isDigit_digitByte]
  width_eq := (decimal_side ..).trans (sideOf_threeDigits s.width_le)
  height_eq := (decimal_side ..).trans (sideOf_threeDigits s.height_le)

theorem Announces.eq_header {q : Bytes} {s : Size} (h : Announces q s.width s.height) :
    q = s.header ++ q.drop 7 := by
  obtain ⟨a, b, c, d, e, f, body, rfl, ⟨ha, hb, hc⟩, hd, he, hf⟩ := h.header.exists_digits
  have hwidth : decimal [a, b, c] = s.width := h.width_eq
  have hheight : decimal [d, e, f] = s.height := h.height_eq
  unfold Size.header
  rw [← hwidth, ← hheight, threeDigits_decimal ha hb hc, threeDigits_decimal hd he hf]
  rfl

/-! ### Cells

The search for a byte that is no cell stops at the first one, so what it finds is said by the
places of the bytes before it.
-/

theorem badCell?_cons_of_cell {b : UInt8} (h : IsCell b) (index : Nat) (rest : Bytes) :
    badCell? index (b :: rest) = badCell? (index + 1) rest :=
  if_pos h

theorem badCell?_cons_of_bad {b : UInt8} (h : ¬ IsCell b) (index : Nat) (rest : Bytes) :
    badCell? index (b :: rest) = some (.invalidCell index b) :=
  if_neg h

theorem badCell?_of_first (start : Nat) {index : Nat} {byte : UInt8} {body : Bytes}
    (hbyte : body[index]? = some byte) (hbad : ¬ IsCell byte)
    (hfirst : ∀ i < index, ∃ b, body[i]? = some b ∧ IsCell b) :
    badCell? start body = some (.invalidCell (start + index) byte) := by
  induction body generalizing start index with
  | nil => simp at hbyte
  | cons b rest ih =>
      cases index with
      | zero =>
          obtain rfl : b = byte := by simpa using hbyte
          rw [badCell?_cons_of_bad hbad, Nat.add_zero]
      | succ index =>
          obtain ⟨b', hb', hcell⟩ := hfirst 0 (Nat.succ_pos index)
          obtain rfl : b = b' := by simpa using hb'
          have hrest : ∀ i < index, ∃ b, rest[i]? = some b ∧ IsCell b :=
            fun i hi => hfirst (i + 1) (Nat.succ_lt_succ hi)
          rw [badCell?_cons_of_cell hcell, ih (start + 1) hbyte hrest, Nat.add_right_comm,
            Nat.add_assoc]

theorem exists_first_bad {body : Bytes} (h : ¬ ∀ b ∈ body, IsCell b) :
    ∃ (index : Nat) (byte : UInt8), body[index]? = some byte ∧ ¬ IsCell byte ∧
      ∀ i < index, ∃ b, body[i]? = some b ∧ IsCell b := by
  induction body with
  | nil => simp at h
  | cons b rest ih =>
      by_cases hb : IsCell b
      · have hrest : ¬ ∀ b ∈ rest, IsCell b :=
          fun hall => h (List.forall_mem_cons.mpr ⟨hb, hall⟩)
        obtain ⟨index, byte, hbyte, hbad, hfirst⟩ := ih hrest
        refine ⟨index + 1, byte, hbyte, hbad, ?_⟩
        intro i hi
        cases i with
        | zero => exact ⟨b, rfl, hb⟩
        | succ i => exact hfirst i (Nat.lt_of_succ_lt_succ hi)
      · exact ⟨0, b, rfl, hb, by simp⟩

theorem map_cellByte_of_cells {body : Bytes} (h : ∀ b ∈ body, IsCell b) :
    (body.map (· == aliveByte)).map cellByte = body := by
  have hself : ∀ b ∈ body, (cellByte ∘ (· == aliveByte)) b = id b := by
    intro b hb
    rcases h b hb with rfl | rfl
    · rfl
    · rfl
  rw [List.map_map, List.map_congr_left hself, List.map_id]

theorem parseBody_of_length {size : Size} {body : Bytes} (h : body.length ≠ size.area) :
    parseBody size body = .error (.bodyLength size.area body.length) :=
  dif_neg h

theorem parseBody_of_bad {size : Size} {body : Bytes} {fault : FrameError}
    (hlength : body.length = size.area) (hbad : badCell? 0 body = some fault) :
    parseBody size body = .error fault := by
  unfold parseBody
  rw [dif_pos hlength, hbad]

/-! ### What each rule is read as -/

theorem parse_congr {p p' : Bytes} (h : withoutNewline p = withoutNewline p') :
    parse p = parse p' := by
  unfold parse
  rw [h]

theorem parse_of_short {p : Bytes} (h : (withoutNewline p).length < 7) :
    parse p = .error (.tooShort (withoutNewline p).length) := by
  unfold parse
  split
  · next heq =>
      rw [heq] at h
      simp only [List.length_cons] at h
      omega
  · rfl

theorem parse_of_no_header {p : Bytes} (hlength : 7 ≤ (withoutNewline p).length)
    (hheader : ¬ HasHeader (withoutNewline p)) :
    parse p = .error (.malformedHeader (Text.decode ((withoutNewline p).take 7))) := by
  unfold parse
  obtain ⟨a, b, c, x, d, e, f, body, hq⟩ := exists_header hlength
  rw [hq] at hheader ⊢
  simp only [parseHeader, if_neg (mt hasHeader_iff.mpr hheader)]
  rfl

/-- Behind a header its size is made, and then the body is read. -/
theorem parse_of_announces {p : Bytes} {width height : Nat}
    (h : Announces (withoutNewline p) width height) :
    parse p = (do
      let size ← Size.ofSides width height
      parseBody size ((withoutNewline p).drop 7)) := by
  unfold parse
  obtain ⟨a, b, c, x, d, e, f, body, hq⟩ := exists_header h.header.length_le
  rw [hq] at h ⊢
  have hwidth : sideOf a b c = width := (decimal_side a b c).symm.trans h.width_eq
  have hheight : sideOf d e f = height := (decimal_side d e f).symm.trans h.height_eq
  simp only [parseHeader, if_pos (hasHeader_iff.mp h.header), hwidth, hheight, List.drop_succ_cons,
    List.drop_zero]

theorem parse_of_size {p : Bytes} {s : Size} (h : Announces (withoutNewline p) s.width s.height) :
    parse p = parseBody s ((withoutNewline p).drop 7) := by
  rw [parse_of_announces h, s.ofSides_self]
  rfl

/-! ### Pictures and the bytes that show them -/

/-- The grid that a picture shows, before any step. -/
def grid (f : Picture) : Grid where
  size := f.size
  cells := f.cells
  generation := 0

@[simp] theorem ofGrid_grid (f : Picture) : ofGrid f.grid = f :=
  ofGrid_eq f.grid

theorem parse_of_payload {p : Bytes} {g : Grid} (h : withoutNewline p = g.payload) :
    parse p = .ok (ofGrid g) := by
  rw [← parse_payload g]
  exact parse_congr (h.trans g.withoutNewline_payload.symm)

theorem exists_picture {q : Bytes} {s : Size} (hsize : Announces q s.width s.height)
    (hbody : q.length - 7 = s.width * s.height) (hcells : ∀ b ∈ q.drop 7, IsCell b) :
    ∃ f : Picture, f.size = s ∧ q = f.grid.payload := by
  have harea : ((q.drop 7).map (· == aliveByte)).toArray.size = s.area := by
    rw [List.size_toArray, List.length_map, List.length_drop, hbody]
    exact Nat.mul_comm _ _
  refine ⟨⟨s, ⟨((q.drop 7).map (· == aliveByte)).toArray, harea⟩⟩, rfl, ?_⟩
  show q = s.header ++ ((q.drop 7).map (· == aliveByte)).map cellByte
  rw [map_cellByte_of_cells hcells]
  exact hsize.eq_header

theorem getElem?_payload (g : Grid) (i : Fin g.size.area) :
    g.payload[7 + i.val]? = some (cellByte g.cells[i]) := by
  have hheader : g.size.header.length = 7 := rfl
  unfold Grid.payload
  rw [List.getElem?_append_right (by omega), hheader, Nat.add_sub_cancel_left, List.getElem?_map]
  simp

theorem cellByte_eq_aliveByte_iff (alive : Bool) : cellByte alive = aliveByte ↔ alive = true := by
  cases alive <;> decide

theorem isAlive_iff (f : Picture) (x y : Nat) :
    f.isAlive x y = true ↔
      x < f.size.width ∧ y < f.size.height ∧
        f.grid.payload[7 + y * f.size.width + x]? = some aliveByte := by
  simp only [isAlive, Bool.and_eq_true, decide_eq_true_eq, and_assoc]
  refine and_congr_right fun hx => and_congr_right fun hy => ?_
  rw [Nat.add_assoc, ← f.size.index_of_lt hx hy]
  have hplace := getElem?_payload f.grid (f.size.index x y)
  rw [hplace, Option.some_inj, cellByte_eq_aliveByte_iff]
  rfl

/-- A picture is known by its size and by where it is alive. -/
theorem ext_isAlive {f f' : Picture} (hsize : f.size = f'.size)
    (halive : ∀ x y, f.isAlive x y = f'.isAlive x y) : f = f' := by
  obtain ⟨size, cells⟩ := f
  obtain ⟨size', cells'⟩ := f'
  obtain rfl : size = size' := hsize
  congr 1
  apply Vector.ext
  intro i hi
  have hcell := halive (size.column ⟨i, hi⟩) (size.row ⟨i, hi⟩)
  simpa [isAlive, size.column_lt, size.row_lt, size.index_column_row] using hcell

theorem drop_payload (f : Picture) : f.grid.payload.drop 7 = f.cells.toList.map cellByte := rfl

theorem reads_payload (f : Picture) : Reads f.grid.payload (.ok f) := by
  refine .picture (announces_header f.size _) ?_ ?_ f.isAlive_iff
  · rw [f.grid.length_payload, Nat.add_sub_cancel_left]
    exact Nat.mul_comm _ _
  · rw [drop_payload, List.forall_mem_map]
    exact fun alive _ => cellByte_eq alive

/-- Bytes that satisfy the rule of a picture were written for it. -/
theorem eq_payload {q : Bytes} {f : Picture} (hsize : Announces q f.size.width f.size.height)
    (hbody : q.length - 7 = f.size.width * f.size.height) (hcells : ∀ b ∈ q.drop 7, IsCell b)
    (halive : ∀ x y, f.isAlive x y = true ↔
      x < f.size.width ∧ y < f.size.height ∧ q[7 + y * f.size.width + x]? = some aliveByte) :
    q = f.grid.payload := by
  obtain ⟨f', hsame, rfl⟩ := exists_picture hsize hbody hcells
  have hf : f' = f := by
    refine ext_isAlive hsame fun x y => ?_
    rw [Bool.eq_iff_iff, halive, isAlive_iff, hsame]
  rw [hf]

/-! ### The rules are exact -/

/-- **What satisfies a rule is read as the rule says.** -/
theorem Reads.parse_eq {p : Bytes} {r : Except FrameError Picture}
    (h : Reads (withoutNewline p) r) : parse p = r := by
  cases h with
  | tooShort hlength => exact parse_of_short hlength
  | malformedHeader hlength hheader => exact parse_of_no_header hlength hheader
  | invalidDimensions hsize hzero =>
      rw [parse_of_announces hsize, Size.ofSides_of_zero hzero]
      rfl
  | bodyLength hsize hpos hbody =>
      have hlength : ((withoutNewline p).drop 7).length ≠ (hsize.size hpos).area := by
        rwa [List.length_drop, hsize.area_size hpos]
      rw [parse_of_size (s := hsize.size hpos) hsize, parseBody_of_length hlength,
        hsize.area_size hpos, List.length_drop]
  | invalidCell hsize hpos hbody hbyte hbad hfirst =>
      have hlength : ((withoutNewline p).drop 7).length = (hsize.size hpos).area := by
        rw [List.length_drop, hsize.area_size hpos, hbody]
      simp only [← List.getElem?_drop] at hbyte hfirst
      have hfault := badCell?_of_first 0 hbyte hbad hfirst
      rw [Nat.zero_add] at hfault
      rw [parse_of_size (s := hsize.size hpos) hsize, parseBody_of_bad hlength hfault]
  | picture hsize hbody hcells halive =>
      rw [parse_of_payload (eq_payload hsize hbody hcells halive), ofGrid_grid]

/-- **Everything satisfies a rule.** -/
theorem exists_reads (q : Bytes) : ∃ r, Reads q r := by
  -- The faults in the order in which they are looked for; what is left has none.
  by_cases hlength : q.length < 7
  · exact ⟨_, .tooShort hlength⟩
  by_cases hheader : HasHeader q
  case neg => exact ⟨_, .malformedHeader (Nat.le_of_not_lt hlength) hheader⟩
  have hsize : Announces q (decimal (q.take 3)) (decimal ((q.drop 4).take 3)) :=
    ⟨hheader, rfl, rfl⟩
  by_cases hzero : decimal (q.take 3) = 0 ∨ decimal ((q.drop 4).take 3) = 0
  · exact ⟨_, .invalidDimensions hsize hzero⟩
  have hpos : 0 < decimal (q.take 3) ∧ 0 < decimal ((q.drop 4).take 3) := by omega
  by_cases hbody : q.length - 7 = decimal (q.take 3) * decimal ((q.drop 4).take 3)
  case neg => exact ⟨_, .bodyLength hsize hpos hbody⟩
  by_cases hcells : ∀ b ∈ q.drop 7, IsCell b
  · obtain ⟨f, -, hf⟩ := exists_picture (s := hsize.size hpos) hsize hbody hcells
    rw [hf]
    exact ⟨_, reads_payload f⟩
  · obtain ⟨index, byte, hbyte, hbad, hfirst⟩ := exists_first_bad hcells
    simp only [List.getElem?_drop] at hbyte hfirst
    exact ⟨_, .invalidCell hsize hpos hbody hbyte hbad hfirst⟩

/-- **What is read as a picture is what is written for it**, but for the line feed. -/
theorem parse_eq_ok_iff {p : Bytes} {f : Picture} :
    parse p = .ok f ↔ withoutNewline p = f.grid.payload := by
  constructor
  · intro h
    obtain ⟨r, hr⟩ := exists_reads (withoutNewline p)
    obtain rfl : r = .ok f := hr.parse_eq.symm.trans h
    cases hr with
    | picture hsize hbody hcells halive => exact eq_payload hsize hbody hcells halive
  · intro h
    rw [parse_of_payload h, ofGrid_grid]

/-! ### Places

Nothing is ever looked for behind the last byte: a header is taken apart only where there is
room for one, and a cell is asked for only within the edges.
-/

/-- Reading with every byte of a header looked up by its place; none if there is no such
place. -/
def parseByPlace? (p : Bytes) : Option (Except FrameError Picture) := do
  let q := withoutNewline p
  if q.length < 7 then
    return .error (.tooShort q.length)
  let x ← q[3]?
  let a ← q[0]?
  let b ← q[1]?
  let c ← q[2]?
  let d ← q[4]?
  let e ← q[5]?
  let f ← q[6]?
  return do
    let size ← parseHeader a b c x d e f
    parseBody size (q.drop 7)

/-- Whether a cell is alive, with the cell looked up by its place among the cells; none if there
is no such place. -/
def aliveByPlace? (f : Picture) (x y : Nat) : Option Bool :=
  if x < f.size.width ∧ y < f.size.height then f.cells.toList[y * f.size.width + x]?
  else some false

theorem parseByPlace?_eq (p : Bytes) : parseByPlace? p = some (parse p) := by
  unfold parseByPlace?
  by_cases hlength : (withoutNewline p).length < 7
  · rw [parse_of_short hlength]
    simp [hlength]
  · obtain ⟨a, b, c, x, d, e, f, body, hq⟩ := exists_header (Nat.le_of_not_lt hlength)
    unfold parse
    rw [hq] at hlength ⊢
    simp only [if_neg hlength]
    rfl

theorem aliveByPlace?_eq (f : Picture) (x y : Nat) : aliveByPlace? f x y = some (f.isAlive x y) := by
  unfold aliveByPlace? isAlive
  by_cases hinside : x < f.size.width ∧ y < f.size.height
  · rw [if_pos hinside, ← f.size.index_of_lt hinside.1 hinside.2]
    simp [hinside]
  · rw [if_neg hinside]
    have houtside : (decide (x < f.size.width) && decide (y < f.size.height)) = false := by
      simpa using hinside
    rw [houtside, Bool.false_and]

/--
**A payload is read by the first rule that fits it.**  One line feed at its end does not
count.
-/
theorem parse_eq_iff_reads (p : Bytes) :
    (∀ r, parse p = r ↔ ∃ q, Stripped p q ∧ Reads q r) ∧
      parseByPlace? p = some (parse p) ∧
      ∀ f x y, aliveByPlace? f x y = some (isAlive f x y) := by
  refine ⟨fun r => ⟨?_, ?_⟩, parseByPlace?_eq p, aliveByPlace?_eq⟩
  · rintro rfl
    obtain ⟨r, hr⟩ := exists_reads (withoutNewline p)
    exact ⟨_, stripped_withoutNewline p, hr.parse_eq ▸ hr⟩
  · rintro ⟨q, hq, hr⟩
    rw [hq.eq_withoutNewline] at hr
    exact hr.parse_eq

/-- The line feed at the end is no cell, so one of two cells is missing. -/
example : parse [48, 48, 50, 120, 48, 48, 49, 35, 10] = .error (.bodyLength 2 1) := by decide

end Picture

end Lifecast
