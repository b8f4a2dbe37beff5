/-
What is drawn, to the last byte.

The text of a picture is written cell by cell.  It is the text that the rows of the picture give
(`gridText_eq`), and it shows the picture (`text_injective`): no glyph and no letter of the caption
is a line feed, so the lines can be told apart, and in a line so can the cells, all of which are
equally wide.

A call writes as much of its text as the writer takes of it in one piece (`perform_eq`), so what is
written depends on nothing but the limit and how long the texts before were (`perform_limited`).
No text is empty, so a call behind one that failed fails too.
-/
import Lifecast.View.Screen
import Lifecast.Proofs.Life.Reading
import Lifecast.Proofs.Text.Utf8
import Lifecast.Proofs.View.Writer

namespace Lifecast

/-! ### The text of a call -/

/-- A line of text with each letter repeated. -/
def wideLine (columns : Nat) (line : String) : List Char :=
  line.toList.flatMap (List.replicate columns)

/-- The text of a call on a screen that was made for cells of some width: for a picture its rows,
letter by letter, and a caption. -/
def DrawCall.text (cellWidth : Nat) : DrawCall → String
  | .grid p =>
    "\x1b[H\x1b[2J"
      ++ String.ofList
        ((p.rows '█' ' ').flatMap fun line => wideLine (max cellWidth 1) line ++ ['\n'])
      ++ s!"{p.size.width}x{p.size.height}  alive: {p.aliveCount}\n"
  | .status message => "\x1b[H\x1b[2J" ++ message ++ "\n"

theorem Picture.row_eq (p : Picture) {y : Nat} (hy : y < p.size.height) :
    p.row y = (List.range p.size.width).map fun x => p.isAlive x y := by
  have hend : (y + 1) * p.size.width ≤ p.size.area := Nat.mul_le_mul_right _ hy
  have hrow : (y + 1) * p.size.width - y * p.size.width = p.size.width := by
    rw [Nat.succ_mul, Nat.add_sub_cancel_left]
  apply List.ext_getElem
  · simp only [row, Vector.length_toList, List.length_map, List.length_range]
    omega
  · intro x hx hx'
    rw [List.length_map, List.length_range] at hx'
    simp only [row, List.getElem_map, List.getElem_range, Vector.getElem_toList,
      Vector.getElem_extract, isAlive, hx', hy, decide_true, Bool.true_and]
    show _ = p.cells[(p.size.index x y).val]
    simp only [p.size.index_of_lt hx' hy]

namespace Screen

variable {columns : Nat} {p q : Picture}

/-- The cells of one row, as they are drawn. -/
def rowLine (columns : Nat) (cells : List Bool) : List Char :=
  cells.flatMap (glyphs columns)

theorem wideLine_row (columns : Nat) (cells : List Bool) :
    wideLine columns (String.ofList (cells.map fun cell => if cell then '█' else ' '))
      = rowLine columns cells := by
  unfold wideLine rowLine
  rw [String.toList_ofList, List.flatMap_map]
  rfl

theorem flatMap_rows (columns : Nat) (p : Picture) :
    ((p.rows '█' ' ').flatMap fun line => wideLine columns line ++ ['\n'])
      = ((List.range p.size.height).map fun y => rowLine columns (p.row y)).flatMap (· ++ ['\n']) := by
  simp only [Picture.rows, List.flatMap_map, wideLine_row]

/-- A row is drawn the same by its coordinates and by its cells. -/
theorem drawnRow_eq (columns : Nat) (p : Picture) {y : Nat} (hy : y < p.size.height) :
    drawnRow columns p y = rowLine columns (p.row y) ++ ['\n'] := by
  rw [p.row_eq hy, rowLine, List.flatMap_map]
  rfl

/-- **What is drawn by coordinates is what the rows show.** -/
theorem gridText_eq (cellWidth : Nat) (p : Picture) :
    gridText (max cellWidth 1) p = (DrawCall.grid p).text cellWidth := by
  have hrows : (List.range p.size.height).flatMap (drawnRow (max cellWidth 1) p)
      = (p.rows '█' ' ').flatMap fun line => wideLine (max cellWidth 1) line ++ ['\n'] := by
    rw [flatMap_rows, List.flatMap_map]
    refine List.flatMap_congr fun y hy => ?_
    exact drawnRow_eq _ p (List.mem_range.mp hy)
  unfold gridText DrawCall.text
  rw [hrows, String.ofList_append, String.ofList_append, String.ofList_toList]
  rfl

/-! ### The text shows the picture -/

/-- The caption without the line feed behind it. -/
def captionLine (p : Picture) : List Char :=
  (toString p.size.width).toList ++ 'x' :: (toString p.size.height).toList
    ++ "  alive: ".toList ++ (toString p.aliveCount).toList

theorem toList_caption (p : Picture) : (caption p).toList = captionLine p ++ ['\n'] := by
  unfold caption captionLine
  simp only [String.toList_append, List.append_assoc, List.cons_append]
  rfl

/-- The lines of a picture, the caption last. -/
def lines (columns : Nat) (p : Picture) : List (List Char) :=
  ((List.range p.size.height).map fun y => rowLine columns (p.row y)) ++ [captionLine p]

theorem toList_text (cellWidth : Nat) (p : Picture) :
    ((DrawCall.grid p).text cellWidth).toList
      = clear ++ (lines (max cellWidth 1) p).flatMap (· ++ ['\n']) := by
  have hcaption : s!"{p.size.width}x{p.size.height}  alive: {p.aliveCount}\n".toList
      = captionLine p ++ ['\n'] := toList_caption p
  unfold DrawCall.text lines
  rw [String.toList_append, String.toList_append, String.toList_ofList, String.toList_ofList,
    hcaption, flatMap_rows, List.flatMap_append, List.flatMap_singleton, List.append_assoc]
  rfl

/-- Cut at the line feeds, lines are found again. -/
theorem splitOn_joined {ls : List (List Char)} (hls : ∀ l ∈ ls, '\n' ∉ l) :
    (ls.flatMap (· ++ ['\n'])).splitOn '\n' = ls ++ [[]] := by
  induction ls with
  | nil => rfl
  | cons l ls ih =>
      rw [List.forall_mem_cons] at hls
      have hline : ∀ c ∈ l, (c == '\n') = false := by
        intro c hc
        exact beq_false_of_ne fun h => hls.1 (h ▸ hc)
      rw [List.flatMap_cons, List.append_assoc, List.singleton_append, List.splitOn,
        List.splitOnP_append_cons_of_forall_mem hline _ (beq_self_eq_true _)]
      exact congrArg (l :: ·) (ih hls.2)

theorem newline_not_mem_rowLine (columns : Nat) (cells : List Bool) :
    '\n' ∉ rowLine columns cells := by
  intro hmem
  obtain ⟨cell, -, hglyph⟩ := List.mem_flatMap.mp hmem
  have hnewline : '\n' = if cell then block else ' ' := List.eq_of_mem_replicate hglyph
  cases cell <;> exact absurd hnewline (by decide)

theorem newline_not_mem_number (n : Nat) : '\n' ∉ (toString n).toList := by
  intro hmem
  have hdigits : '\n' ∈ Nat.toDigits 10 n := Nat.toList_repr ▸ hmem
  have hdigit := Nat.isDigit_of_mem_toDigits (by decide) (Nat.le_refl 10) hdigits
  exact absurd hdigit (by decide)

theorem newline_not_mem_captionLine (p : Picture) : '\n' ∉ captionLine p := by
  have hword : '\n' ∉ "  alive: ".toList := by decide
  simp only [captionLine, List.mem_append, List.mem_cons, newline_not_mem_number, hword, or_false,
    false_or]
  decide

theorem newline_not_mem_lines {l : List Char} (hl : l ∈ lines columns p) : '\n' ∉ l := by
  rcases List.mem_append.mp hl with hrow | hcaption
  · obtain ⟨y, -, rfl⟩ := List.mem_map.mp hrow
    exact newline_not_mem_rowLine columns _
  · rw [List.mem_singleton.mp hcaption]
    exact newline_not_mem_captionLine p

theorem glyphs_injective {alive alive' : Bool} {n : Nat}
    (h : glyphs (n + 1) alive = glyphs (n + 1) alive') : alive = alive' := by
  have hglyph : (if alive then block else ' ') = if alive' then block else ' ' :=
    (List.cons.inj h).1
  revert hglyph
  cases alive <;> cases alive' <;> decide

/-- Cells of at least one column can be told apart in a row. -/
theorem rowLine_injective (hcolumns : 1 ≤ columns) {cells cells' : List Bool}
    (h : rowLine columns cells = rowLine columns cells') : cells = cells' := by
  obtain ⟨n, rfl⟩ : ∃ n, columns = n + 1 := ⟨columns - 1, by omega⟩
  induction cells generalizing cells' with
  | nil =>
      cases cells' with
      | nil => rfl
      | cons cell' cells' => exact absurd h (by simp [rowLine, glyphs])
  | cons cell cells ih =>
      cases cells' with
      | nil => exact absurd h (by simp [rowLine, glyphs])
      | cons cell' cells' =>
          obtain ⟨hcell, hrest⟩ := List.append_inj h (by simp [glyphs])
          rw [glyphs_injective hcell, ih hrest]

theorem eq_of_lines (hcolumns : 1 ≤ columns) (h : lines columns p = lines columns q) : p = q := by
  have hrows := (List.append_inj' h rfl).1
  have hheight : p.size.height = q.size.height := by
    have hlength := congrArg List.length hrows
    rwa [List.length_map, List.length_map, List.length_range, List.length_range] at hlength
  rw [hheight] at hrows
  have hrow (y : Nat) (hy : y < q.size.height) :
      ((List.range p.size.width).map fun x => p.isAlive x y)
        = (List.range q.size.width).map fun x => q.isAlive x y := by
    have hline := List.map_inj_left.mp hrows y (List.mem_range.mpr hy)
    rw [← q.row_eq hy, ← p.row_eq (hheight ▸ hy)]
    exact rowLine_injective hcolumns hline
  have hwidth : p.size.width = q.size.width := by
    have hlength := congrArg List.length (hrow 0 q.size.height_pos)
    rwa [List.length_map, List.length_map, List.length_range, List.length_range] at hlength
  rw [hwidth] at hrow
  have hsize : p.size = q.size := by
    obtain ⟨⟨_, _, _, _, _, _⟩, _⟩ := p
    obtain ⟨⟨_, _, _, _, _, _⟩, _⟩ := q
    subst hwidth hheight
    rfl
  refine Picture.ext_isAlive hsize fun x y => ?_
  by_cases hin : x < q.size.width ∧ y < q.size.height
  · exact List.map_inj_left.mp (hrow y hin.2) x (List.mem_range.mpr hin.1)
  · rw [not_and_or] at hin
    unfold Picture.isAlive
    rcases hin with hx | hy
    · simp [hwidth, hx]
    · simp [hheight, hy]

/-- **No two pictures look the same.** -/
theorem text_injective {cellWidth : Nat}
    (h : (DrawCall.grid p).text cellWidth = (DrawCall.grid q).text cellWidth) : p = q := by
  have hchars := congrArg String.toList h
  rw [toList_text, toList_text] at hchars
  have hsplit := congrArg (List.splitOn '\n') (List.append_cancel_left hchars)
  rw [splitOn_joined fun _ => newline_not_mem_lines,
    splitOn_joined fun _ => newline_not_mem_lines] at hsplit
  exact eq_of_lines (Nat.le_max_right _ _) (List.append_cancel_right hsplit)

end Screen

/-! ### Calls one after the other -/

/-- The bytes of the text of a call. -/
def DrawCall.bytes (cellWidth : Nat) (call : DrawCall) : Bytes :=
  Text.encode (call.text cellWidth)

namespace Screen

variable {k : Nat}

/-- A call writes its text, as far as the writer takes it. -/
theorem perform_eq {w : Writer} (hchunk : w.chunk ≠ some 0) (c : Nat) (call : DrawCall) :
    (new w c).perform call
      = { screen := new (w.yield (call.bytes c)).writer c
          written := (w.yield (call.bytes c)).bytes
          fault := (w.yield (call.bytes c)).fault } := by
  have hpieces (pieces : List String)
      (h : (pieces.map Text.encode).flatten = call.bytes c) :
      (new w c).draw pieces
        = { screen := new (w.yield (call.bytes c)).writer c
            written := (w.yield (call.bytes c)).bytes
            fault := (w.yield (call.bytes c)).fault } := by
    rw [← h, ← Writer.writePieces_eq hchunk]
    rfl
  cases call with
  | grid p =>
      refine hpieces [gridText (max c 1) p] ?_
      rw [gridText_eq, List.map_singleton, List.flatten_singleton]
      rfl
  | status message =>
      refine hpieces (statusPieces message) ?_
      show _ = Text.encode ("\x1b[H\x1b[2J" ++ message ++ "\n")
      rw [Text.encode_append, Text.encode_append, List.append_assoc]
      simp only [statusPieces, List.map_cons, List.map_nil, List.flatten_cons, List.flatten_nil,
        List.append_nil]
      rfl

/-- No text is empty, since each begins with the clear code. -/
theorem bytes_ne_nil (c : Nat) (call : DrawCall) : call.bytes c ≠ [] := by
  obtain ⟨rest, hrest⟩ : ∃ rest, call.text c = "\x1b[H\x1b[2J" ++ rest := by
    cases call with
    | grid p => exact ⟨_, String.append_assoc ..⟩
    | status message => exact ⟨_, String.append_assoc ..⟩
  unfold DrawCall.bytes
  rw [hrest, Text.encode_append]
  exact List.append_ne_nil_of_left_ne_nil (by decide) _

/-- **A call on a screen that was offered `N` bytes before.**  What is written is what is left of
the limit, and the call fails if its text ends behind the limit. -/
theorem perform_limited (hk : 1 ≤ k) (L N c : Nat) (call : DrawCall) :
    (new (.limited k L N) c).perform call
      = { screen := new (.limited k L (N + (call.bytes c).length)) c
          written := (call.bytes c).take (L - N)
          fault := if L < N + (call.bytes c).length then some .brokenPipe else none } := by
  have hchunk : (Writer.limited k L N).chunk ≠ some 0 := by
    intro h
    have hzero : k = 0 := Option.some.inj h
    omega
  have hlength : 0 < (call.bytes c).length := List.length_pos_of_ne_nil (bytes_ne_nil c call)
  have hends : L - N < (call.bytes c).length ↔ L < N + (call.bytes c).length := by omega
  rw [perform_eq hchunk, Writer.yield_limited]
  simp only [hends]

/-- The bytes of the texts of some calls, one text after the other. -/
def bytesOf (c : Nat) (calls : List DrawCall) : Bytes :=
  calls.flatMap (DrawCall.bytes c)

@[simp] theorem bytesOf_cons (c : Nat) (call : DrawCall) (rest : List DrawCall) :
    bytesOf c (call :: rest) = call.bytes c ++ bytesOf c rest :=
  List.flatMap_cons

/-- Each call finds the screen as the ones before it have left it, whether they failed or not. -/
theorem getElem?_performAll (hk : 1 ≤ k) (L N c : Nat) (calls : List DrawCall) (i : Nat) :
    ((new (.limited k L N) c).performAll calls)[i]?
      = calls[i]?.map fun call =>
          (new (.limited k L (N + (bytesOf c (calls.take i)).length)) c).perform call := by
  induction calls generalizing N i with
  | nil => rfl
  | cons call rest ih =>
      cases i with
      | zero => rfl
      | succ i =>
          rw [performAll, List.getElem?_cons_succ, perform_limited hk, ih, List.take_succ_cons,
            List.getElem?_cons_succ, bytesOf_cons, List.length_append, Nat.add_assoc]

theorem length_performAll (s : Screen) (calls : List DrawCall) :
    (s.performAll calls).length = calls.length := by
  induction calls generalizing s with
  | nil => rfl
  | cons call rest ih => rw [performAll, List.length_cons, ih, List.length_cons]

/-- All calls together write as if their texts were one. -/
theorem flatMap_written_performAll (hk : 1 ≤ k) (L N c : Nat) (calls : List DrawCall) :
    ((new (.limited k L N) c).performAll calls).flatMap Drawing.written
      = (bytesOf c calls).take (L - N) := by
  induction calls generalizing N with
  | nil => exact List.take_nil.symm
  | cons call rest ih =>
      rw [performAll, List.flatMap_cons, perform_limited hk, ih, bytesOf_cons, List.take_append,
        Nat.sub_add_eq]

/-- **Drawing is exact, nothing is lost, and what is written is a beginning of what was to be.**

The text of a picture is the clear code, its rows with each glyph as often as a cell has columns,
and the caption; it belongs to no other picture.  Whatever is drawn on a writer that takes at least
one byte at a time and breaks after `L`, the first `L` bytes of the texts are written, and those
calls succeed whose text ends within them. -/
theorem drawn_up_to_limit (hk : 1 ≤ k) (L c : Nat) (calls : List DrawCall) :
    let screen := new { chunk := some k, limit := some L } c
    let drawings := screen.performAll calls
    (∀ p, gridText screen.cellWidth p = (DrawCall.grid p).text c) ∧
      (∀ p q, (DrawCall.grid p).bytes c = (DrawCall.grid q).bytes c → p = q) ∧
      drawings.flatMap Drawing.written
        = (bytesOf c calls).take (min L (bytesOf c calls).length) ∧
      drawings.length = calls.length ∧
      ∀ (i : Nat) (call : DrawCall), calls[i]? = some call →
        ∃ drawing, drawings[i]? = some drawing ∧
          drawing.written = (call.bytes c).take (L - (bytesOf c (calls.take i)).length) ∧
          (drawing.fault = none ↔
            (bytesOf c (calls.take i)).length + (call.bytes c).length ≤ L) := by
  intro screen drawings
  have hscreen : screen = new (.limited k L 0) c := by
    show new _ c = new (.limited k L 0) c
    rw [Writer.limited, Nat.min_zero]
  have hdrawings : drawings = (new (.limited k L 0) c).performAll calls := by
    rw [← hscreen]
  refine ⟨gridText_eq c, ?_, ?_, length_performAll screen calls, ?_⟩
  · intro p q h
    exact text_injective (Text.encode_injective h)
  · rw [hdrawings, flatMap_written_performAll hk, Nat.sub_zero, ← List.take_eq_take_min]
  · intro i call hcall
    have hat := getElem?_performAll hk L 0 c calls i
    rw [← hdrawings, hcall, Option.map_some, Nat.zero_add, perform_limited hk] at hat
    refine ⟨_, hat, rfl, ?_⟩
    rw [ite_eq_right_iff, ← Nat.not_lt]
    simp only [reduceCtorEq, imp_false]

/-- The ninth byte is the second of a block's three, and a status line behind is not begun. -/
theorem drawn_up_to_limit_cut :
    let p : Picture := ⟨⟨1, 1, by decide, by decide, by decide, by decide⟩, #v[true]⟩
    let calls := [DrawCall.grid p, .status "off"]
    let drawings := (new { chunk := some 2, limit := some 9 } 0).performAll calls
    (1 ≤ 2) ∧
      drawings.flatMap Drawing.written = [27, 91, 72, 27, 91, 50, 74, 226, 150] ∧
      ∃ drawing, drawings[1]? = some drawing ∧ drawing.written = [] ∧ drawing.fault ≠ none := by
  intro p calls drawings
  have hk : 1 ≤ 2 := by decide
  obtain ⟨-, -, hwritten, -, hat⟩ := drawn_up_to_limit hk 9 0 calls
  obtain ⟨drawing, hdrawing, hbytes, hfault⟩ := hat 1 (.status "off") rfl
  have htexts : (bytesOf 0 calls).take 9 = [27, 91, 72, 27, 91, 50, 74, 226, 150] := by
    decide +kernel
  have hbefore : (bytesOf 0 (calls.take 1)).length = 25 := by decide +kernel
  rw [hbefore] at hbytes hfault
  refine ⟨hk, ?_, drawing, hdrawing, hbytes, ?_⟩
  · rw [hwritten, ← List.take_eq_take_min, htexts]
  · rw [Ne, hfault]
    omega

end Screen

end Lifecast
