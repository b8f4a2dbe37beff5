/-
A payload shows the generation it was written from.

Three codecs have to fit.  The header is read back because three digits are enough for
a side (`sideOf_threeDigits`), the cells because the two cell bytes differ
(`parseBody_cells`), and the frames because no byte of a payload is the delimiter:
a payload is made of digits, the byte between the sides and the two cell bytes, and of
nothing else (`mem_payload`).  The same fact says that a payload does not end in a line
feed, so the reader has none to strip.  Together they lead from the grids that were written
to the pictures that are shown, wherever the stream was cut.
-/
import Lifecast.Life.Picture
import Lifecast.Proofs.Framing

namespace Lifecast

/-! ### Digits -/

theorem toNat_digitByte (n : Nat) : (digitByte n).toNat = 48 + n % 10 := by
  have hlt : n % 10 < 10 := Nat.mod_lt n (by omega)
  unfold digitByte
  rw [UInt8.toNat_ofNat_of_lt' (by unfold UInt8.size; omega)]

theorem isDigit_digitByte (n : Nat) : Picture.isDigit (digitByte n) = true := by
  have hlt : n % 10 < 10 := Nat.mod_lt n (by omega)
  simp only [Picture.isDigit, Bool.and_eq_true, decide_eq_true_eq, UInt8.le_iff_toNat_le,
    toNat_digitByte]
  exact ⟨by simp, by simp; omega⟩

/-- Three digits are enough for a side. -/
theorem sideOf_threeDigits {n : Nat} (h : n ≤ maxSide) :
    Picture.sideOf (digitByte (n / 100)) (digitByte (n / 10)) (digitByte n) = n := by
  unfold maxSide at h
  simp only [Picture.sideOf, toNat_digitByte]
  omega

theorem mem_threeDigits {n : Nat} {b : UInt8} (h : b ∈ threeDigits n) :
    Picture.isDigit b = true := by
  unfold threeDigits at h
  simp only [List.mem_cons, List.not_mem_nil, or_false] at h
  rcases h with rfl | rfl | rfl
  all_goals exact isDigit_digitByte _

/-- The sides of a size are in range. -/
theorem Size.ofSides_self (s : Size) : Size.ofSides s.width s.height = .ok s := by
  have hrange : (0 < s.width ∧ 0 < s.height) ∧ s.width ≤ maxSide ∧ s.height ≤ maxSide :=
    ⟨⟨s.width_pos, s.height_pos⟩, s.width_le, s.height_le⟩
  unfold Size.ofSides
  rw [dif_pos hrange]

/-! ### Cells -/

theorem cellByte_eq (alive : Bool) : cellByte alive = aliveByte ∨ cellByte alive = deadByte := by
  cases alive
  · exact Or.inr rfl
  · exact Or.inl rfl

theorem cellByte_beq_aliveByte (alive : Bool) : (cellByte alive == aliveByte) = alive := by
  cases alive <;> rfl

namespace Picture

theorem badCell?_cells (index : Nat) (cells : List Bool) :
    badCell? index (cells.map cellByte) = none := by
  induction cells generalizing index with
  | nil => rfl
  | cons c rest ih =>
      rw [List.map_cons, badCell?, if_pos (cellByte_eq c)]
      exact ih (index + 1)

/-- The cells of a payload are read back. -/
theorem parseBody_cells (size : Size) (cells : Vector Bool size.area) :
    parseBody size (cells.toList.map cellByte) = .ok ⟨size, cells⟩ := by
  have hlength : (cells.toList.map cellByte).length = size.area := by simp
  have hcells : (cells.toList.map cellByte).map (· == aliveByte) = cells.toList := by
    rw [List.map_map]
    exact List.map_id'' cellByte_beq_aliveByte cells.toList
  unfold parseBody
  rw [dif_pos hlength, badCell?_cells]
  simp only [hcells]
  congr

/-- A picture of a grid has the grid's own cells. -/
theorem ofGrid_eq (g : Grid) : ofGrid g = ⟨g.size, g.cells⟩ := by
  unfold ofGrid
  congr 1
  apply Vector.ext
  intro i hi
  rw [Vector.getElem_ofFn]
  simp only [Grid.isAlive, Size.index_column_row]
  rfl

/-- The header of a payload is read back. -/
theorem parseHeader_header (s : Size) :
    parseHeader (digitByte (s.width / 100)) (digitByte (s.width / 10)) (digitByte s.width)
      timesByte (digitByte (s.height / 100)) (digitByte (s.height / 10)) (digitByte s.height)
      = .ok s := by
  have hdigits : [digitByte (s.width / 100), digitByte (s.width / 10), digitByte s.width,
      digitByte (s.height / 100), digitByte (s.height / 10), digitByte s.height].all isDigit
      = true := by
    simp [isDigit_digitByte]
  unfold parseHeader
  rw [if_pos ⟨rfl, hdigits⟩, sideOf_threeDigits s.width_le, sideOf_threeDigits s.height_le]
  exact s.ofSides_self

end Picture

/-! ### Payloads -/

/-- What a payload is made of. -/
theorem Grid.mem_payload {g : Grid} {b : UInt8} (h : b ∈ g.payload) :
    Picture.isDigit b = true ∨ b = timesByte ∨ b = aliveByte ∨ b = deadByte := by
  unfold Grid.payload Size.header at h
  rcases List.mem_append.mp h with hheader | hcell
  · rcases List.mem_append.mp hheader with hwidth | htail
    · exact Or.inl (mem_threeDigits hwidth)
    · rcases List.mem_cons.mp htail with htimes | hheight
      · exact Or.inr (Or.inl htimes)
      · exact Or.inl (mem_threeDigits hheight)
  · obtain ⟨alive, -, rfl⟩ := List.mem_map.mp hcell
    exact Or.inr (Or.inr (cellByte_eq alive))

theorem Grid.newline_not_mem_payload (g : Grid) : defaultDelimiter ∉ g.payload := by
  intro hmem
  rcases Grid.mem_payload hmem with hdigit | heq | heq | heq
  · exact absurd hdigit (by decide)
  all_goals exact absurd heq (by decide)

theorem Grid.payload_ne_nil (g : Grid) : g.payload ≠ [] := by
  apply List.ne_nil_of_length_pos
  rw [g.length_payload]
  omega

/-- A payload has no line feed for the reader to strip. -/
theorem Grid.withoutNewline_payload (g : Grid) : Picture.withoutNewline g.payload = g.payload := by
  unfold Picture.withoutNewline
  rw [if_neg]
  intro hlast
  exact g.newline_not_mem_payload (List.mem_of_getLast? hlast)

/-- **A payload shows the generation it was written from.** -/
theorem Picture.parse_payload (g : Grid) : Picture.parse g.payload = .ok (Picture.ofGrid g) := by
  unfold Picture.parse
  rw [g.withoutNewline_payload]
  show (do
      let size ← parseHeader (digitByte (g.size.width / 100)) (digitByte (g.size.width / 10))
        (digitByte g.size.width) timesByte (digitByte (g.size.height / 100))
        (digitByte (g.size.height / 10)) (digitByte g.size.height)
      parseBody size (g.cells.toList.map cellByte)) = _
  rw [parseHeader_header, ofGrid_eq]
  exact parseBody_cells g.size g.cells

/-! ### Streams -/

/--
**Every generation of a stream is read back, wherever the stream is cut.**  The
delimiter may be any byte that a payload does not use.
-/
theorem Picture.parse_stream {d : UInt8} (hdigit : isDigit d = false) (htimes : d ≠ timesByte)
    (halive : d ≠ aliveByte) (hdead : d ≠ deadByte) (grids : List Grid) (reads : List Bytes)
    (hcut : reads.flatten = (grids.map fun g => encodeFrame g.payload d).flatten) :
    ((FrameBuffer.empty d).feedAll reads).2.map parse = grids.map (fun g => .ok (ofGrid g)) ∧
      ((FrameBuffer.empty d).feedAll reads).1.pending = 0 := by
  have hpayloads : ∀ p ∈ grids.map Grid.payload, d ∉ p := by
    intro p hp hmem
    obtain ⟨g, -, rfl⟩ := List.mem_map.mp hp
    rcases Grid.mem_payload hmem with h | h | h | h
    · exact absurd h (by simp [hdigit])
    · exact htimes h
    · exact halive h
    · exact hdead h
  have hfull : (grids.map Grid.payload).filter (· ≠ []) = grids.map Grid.payload := by
    rw [List.filter_eq_self]
    intro p hp
    obtain ⟨g, -, rfl⟩ := List.mem_map.mp hp
    have hlength : 0 < g.payload.length := by
      rw [g.length_payload]
      omega
    simpa using List.ne_nil_of_length_pos hlength
  have hstream : reads.flatten = ((grids.map Grid.payload).map (encodeFrame · d)).flatten := by
    rw [hcut, List.map_map]
    rfl
  obtain ⟨hframes, hleft⟩ := FrameBuffer.feedAll_eq_pieces d reads
  constructor
  · rw [hframes, hstream, Bytes.pieces_flatten_encodeFrame hpayloads, hfull, List.map_map]
    exact List.map_congr_left fun g _ => parse_payload g
  · rw [FrameBuffer.pending_eq, hleft, hstream, Bytes.afterLast_flatten_encodeFrame]
    rfl

/-- Three by two cells, then a single one, with a record separator as delimiter and cuts
inside a header, inside the cells and behind a frame. -/
theorem Picture.parse_stream_pair :
    let wide := (Grid.dead ⟨3, 2, by decide, by decide, by decide, by decide⟩).set 2 1 true
    let single := (Grid.dead ⟨1, 1, by decide, by decide, by decide, by decide⟩).set 0 0 true
    let reads : List Bytes :=
      [[48, 48, 51, 120, 48], [48, 50, 32, 32, 32, 32, 32], [], [35, 30, 48],
        [48, 49, 120, 48, 48, 49, 35, 30]]
    (isDigit 30 = false ∧ 30 ≠ timesByte ∧ 30 ≠ aliveByte ∧ 30 ≠ deadByte) ∧
      reads.flatten = ([wide, single].map fun g => encodeFrame g.payload 30).flatten ∧
      ((FrameBuffer.empty 30).feedAll reads).2.map parse
        = [.ok (ofGrid wide), .ok (ofGrid single)] ∧
      ((FrameBuffer.empty 30).feedAll reads).1.pending = 0 := by
  intro wide single reads
  have hcut : reads.flatten
      = ([wide, single].map fun g => encodeFrame g.payload 30).flatten := by decide
  exact ⟨by decide, hcut,
    parse_stream (by decide) (by decide) (by decide) (by decide) [wide, single] reads hcut⟩

end Lifecast
