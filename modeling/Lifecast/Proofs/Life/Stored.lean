/-
A stored grid is the grid.

Nothing in the type of a stored grid keeps its numbers in range, so this has to come from how it is
made and changed.  The sides of a grid are short enough that nothing computed from them and from
wrapped coordinates comes near the end of a word: an index is the one that the grid has
(`stored_index`), for coordinates up to the greatest word, and the sums towards the neighbours of a
cell stay far below it (`stored_liveNeighbours`).  So no work on it is ever stopped but a draw with
what is no number, and a run of changes leaves what it leaves of the grid (`stored_performAll`).

What is known of a grid is then known of the array: two pairs of coordinates share a place exactly
if they agree up to wrapping, a place holds what was last set there, and as many cells are alive
as coordinates within one lap.
-/
import Lifecast.Proofs.Life.Population

namespace Lifecast

/-! ### Sizes -/

namespace Size

theorem width_lt_word (s : Size) : s.width < UInt64.size :=
  s.width_le.trans_lt (by decide)

theorem height_lt_word (s : Size) : s.height < UInt64.size :=
  s.height_le.trans_lt (by decide)

theorem area_lt_word (s : Size) : s.area < UInt64.size :=
  (Nat.mul_le_mul s.height_le s.width_le).trans_lt (by decide)

end Size

/-! ### Words -/

namespace StoredGrid

theorem plus_ofNat {a b : Nat} (h : a + b < UInt64.size) :
    plus (.ofNat a) (.ofNat b) = .ok (.ofNat (a + b)) := by
  unfold plus
  rw [UInt64.toNat_ofNat_of_lt' (by omega), UInt64.toNat_ofNat_of_lt' (by omega), if_pos h,
    UInt64.ofNat_add]

theorem minus_ofNat {a b : Nat} (h : b ≤ a) (ha : a < UInt64.size) :
    minus (.ofNat a) (.ofNat b) = .ok (.ofNat (a - b)) := by
  unfold minus
  rw [UInt64.toNat_ofNat_of_lt' (by omega), UInt64.toNat_ofNat_of_lt' ha, if_pos h,
    UInt64.ofNat_sub h]

theorem times_ofNat {a b : Nat} (ha : a < UInt64.size) (hb : b < UInt64.size)
    (h : a * b < UInt64.size) : times (.ofNat a) (.ofNat b) = .ok (.ofNat (a * b)) := by
  unfold times
  rw [UInt64.toNat_ofNat_of_lt' ha, UInt64.toNat_ofNat_of_lt' hb, if_pos h, UInt64.ofNat_mul]

theorem remainder_ofNat (x : UInt64) {side : Nat} (hpos : 0 < side) (hside : side < UInt64.size) :
    remainder x (.ofNat side) = .ok (.ofNat (x.toNat % side)) := by
  have hne : UInt64.ofNat side ≠ 0 := by
    intro hzero
    have := congrArg UInt64.toNat hzero
    rw [UInt64.toNat_ofNat_of_lt' hside] at this
    exact hpos.ne' this
  unfold remainder
  rw [if_neg hne, UInt64.ofNat_mod x.toNat_lt hside, UInt64.ofNat_toNat]

theorem read_ofNat {n : Nat} (cells : Vector Bool n) (i : Fin n) (hn : n < UInt64.size) :
    read cells.toArray (.ofNat i.val) = .ok cells[i] := by
  unfold read
  simp only [UInt64.toNat_ofNat_of_lt' (i.isLt.trans hn)]
  rw [dif_pos (by simp)]
  rfl

theorem write_ofNat {n : Nat} (cells : Vector Bool n) (i : Fin n) (alive : Bool)
    (hn : n < UInt64.size) :
    write cells.toArray (.ofNat i.val) alive = .ok (cells.set i.val alive i.isLt).toArray := by
  unfold write
  simp only [UInt64.toNat_ofNat_of_lt' (i.isLt.trans hn)]
  rw [dif_pos (by simp)]
  rfl

/-- A cell is looked up at its index. -/
theorem isAlive_of_index {s : StoredGrid} {x y i : UInt64} (hindex : s.index x y = .ok i)
    (h : i.toNat < s.cells.size) : s.isAlive x y = .ok s.cells[i.toNat] := by
  unfold isAlive
  rw [hindex]
  exact dif_pos h

/-- A cell is set at its index. -/
theorem set_of_index {s : StoredGrid} {x y i : UInt64} (hindex : s.index x y = .ok i)
    (h : i.toNat < s.cells.size) (alive : Bool) :
    s.set x y alive = .ok { s with cells := s.cells.set i.toNat alive } := by
  have hwrite : write s.cells i alive = .ok (s.cells.set i.toNat alive) := dif_pos h
  unfold set
  rw [hindex]
  show (write s.cells i alive >>= fun cells => pure { s with cells }) = _
  rw [hwrite]
  rfl

/-- A loop over the numbers below `n` that goes from one state to the next. -/
theorem foldlM_range {β : Type} {f : β → Nat → Except Fault β} (state : Nat → β) {n : Nat}
    (h : ∀ i < n, f (state i) i = .ok (state (i + 1))) :
    (List.range n).foldlM f (state 0) = .ok (state n) := by
  induction n with
  | zero => rfl
  | succ n ih =>
      rw [List.range_succ, List.foldlM_append, ih fun i hi => h i (Nat.lt_succ_of_lt hi)]
      show [n].foldlM f (state n) = .ok (state (n + 1))
      rw [List.foldlM_cons, h n (Nat.lt_succ_self n)]
      rfl

end StoredGrid

namespace Grid

theorem stored_width (g : Grid) : g.stored.width.toNat = g.size.width :=
  UInt64.toNat_ofNat_of_lt' g.size.width_lt_word

theorem stored_height (g : Grid) : g.stored.height.toNat = g.size.height :=
  UInt64.toNat_ofNat_of_lt' g.size.height_lt_word

theorem stored_aliveCount (g : Grid) : g.stored.aliveCount = g.aliveCount :=
  Vector.count_toArray

/-! ### Cells -/

/-- The index of a stored grid is the one of the grid. -/
theorem stored_index (g : Grid) (x y : UInt64) :
    g.stored.index x y = .ok (.ofNat (g.size.index x.toNat y.toNat).val) := by
  have hrow : y.toNat % g.size.height < g.size.height := Nat.mod_lt _ g.size.height_pos
  have hindex := (g.size.index_lt x.toNat y.toNat).trans g.size.area_lt_word
  have hheight := g.size.height_lt_word
  unfold StoredGrid.index stored
  simp only [StoredGrid.remainder_ofNat _ g.size.height_pos g.size.height_lt_word,
    StoredGrid.remainder_ofNat _ g.size.width_pos g.size.width_lt_word, bind, Except.bind]
  rw [StoredGrid.times_ofNat (by omega) g.size.width_lt_word (by omega)]
  exact StoredGrid.plus_ofNat hindex

theorem stored_isAlive (g : Grid) (x y : UInt64) :
    g.stored.isAlive x y = .ok (g.isAlive x.toNat y.toNat) := by
  unfold StoredGrid.isAlive
  rw [stored_index]
  exact StoredGrid.read_ofNat g.cells _ g.size.area_lt_word

theorem stored_set (g : Grid) (x y : UInt64) (alive : Bool) :
    g.stored.set x y alive = .ok (g.set x.toNat y.toNat alive).stored := by
  have hwrite := StoredGrid.write_ofNat g.cells (g.size.index x.toNat y.toNat) alive
    g.size.area_lt_word
  unfold StoredGrid.set
  rw [stored_index]
  show (StoredGrid.write g.cells.toArray _ alive >>= fun cells =>
    pure { g.stored with cells }) = _
  rw [hwrite]
  rfl

/-! ### The rule -/

theorem stored_moves {side : Nat} (hpos : 0 < side) (hside : side < UInt64.size) :
    StoredGrid.moves (.ofNat side) = .ok ((moves side).map UInt64.ofNat) := by
  unfold StoredGrid.moves
  rw [show (1 : UInt64) = .ofNat 1 from rfl, StoredGrid.minus_ofNat hpos hside]
  rfl

/-- No move along a side is longer than the side. -/
theorem le_of_mem_moves {side d : Nat} (hpos : 0 < side) (h : d ∈ moves side) :
    d ≤ side := by
  simp only [moves, List.mem_cons, List.not_mem_nil, or_false] at h
  omega

theorem le_of_mem_steps {size : Size} {step : Nat × Nat} (h : step ∈ steps size) :
    step.1 ≤ size.width ∧ step.2 ≤ size.height := by
  obtain ⟨dy, hdy, hstep⟩ := List.mem_flatMap.mp (List.mem_filter.mp h).1
  obtain ⟨dx, hdx, rfl⟩ := List.mem_map.mp hstep
  exact ⟨le_of_mem_moves size.width_pos hdx, le_of_mem_moves size.height_pos hdy⟩

/-- A step in words. -/
def wordStep (step : Nat × Nat) : UInt64 × UInt64 :=
  (.ofNat step.1, .ofNat step.2)

theorem ofNat_beq_zero {n : Nat} (h : n < UInt64.size) : (UInt64.ofNat n == 0) = (n == 0) := by
  rw [Bool.eq_iff_iff, beq_iff_eq, beq_iff_eq, ← UInt64.toNat_inj, UInt64.toNat_ofNat_of_lt' h]
  rfl

theorem stored_steps (g : Grid) : g.stored.steps = .ok ((steps g.size).map wordStep) := by
  have hrows : StoredGrid.moves g.stored.height = _ :=
    stored_moves g.size.height_pos g.size.height_lt_word
  have hcolumns : StoredGrid.moves g.stored.width = _ :=
    stored_moves g.size.width_pos g.size.width_lt_word
  have hwords : ((moves g.size.height).map UInt64.ofNat).flatMap
        (fun dy => ((moves g.size.width).map UInt64.ofNat).map fun dx => (dx, dy))
      = ((moves g.size.height).flatMap fun dy => (moves g.size.width).map fun dx => (dx, dy)).map
          wordStep := by
    simp only [List.flatMap_map, List.map_flatMap, List.map_map]
    rfl
  unfold StoredGrid.steps
  rw [hrows, hcolumns]
  show Except.ok (List.filter _ _) = _
  rw [hwords, List.filter_map]
  unfold steps
  congr 2
  -- A step is none in words exactly if it is none, since its parts are words.
  refine List.filter_congr fun step hstep => ?_
  obtain ⟨dy, hdy, hstep⟩ := List.mem_flatMap.mp hstep
  obtain ⟨dx, hdx, rfl⟩ := List.mem_map.mp hstep
  have hdx := (le_of_mem_moves g.size.width_pos hdx).trans_lt g.size.width_lt_word
  have hdy := (le_of_mem_moves g.size.height_pos hdy).trans_lt g.size.height_lt_word
  show (!(UInt64.ofNat dx == 0 && UInt64.ofNat dy == 0)) = !(dx == 0 && dy == 0)
  rw [ofNat_beq_zero hdx, ofNat_beq_zero hdy]

/-- Along a side no sum of a coordinate and a move overflows. -/
theorem add_lt_word {side x d : Nat} (hside : side ≤ maxSide) (hx : x < side) (hd : d ≤ side) :
    x + d < UInt64.size := by
  have : maxSide + maxSide < UInt64.size := by decide
  omega

/-- The neighbours are counted as those of the grid, and neither the coordinates nor the count
overflow on the way. -/
theorem stored_countNeighbours (g : Grid) {x y : Nat} (hx : x < g.size.width)
    (hy : y < g.size.height) (count : Nat) (steps : List (Nat × Nat))
    (hsteps : ∀ step ∈ steps, step.1 ≤ g.size.width ∧ step.2 ≤ g.size.height)
    (hcount : count + steps.length < UInt64.size) :
    (steps.map wordStep).foldlM (g.stored.countNeighbour (.ofNat x) (.ofNat y)) (.ofNat count)
      = .ok (.ofNat (count + g.aliveAmong steps x y)) := by
  induction steps generalizing count with
  | nil => rfl
  | cons step rest ih =>
      obtain ⟨hdx, hdy⟩ := hsteps step List.mem_cons_self
      have hcolumn := add_lt_word g.size.width_le hx hdx
      have hrow := add_lt_word g.size.height_le hy hdy
      rw [List.length_cons] at hcount
      have hfirst : g.stored.countNeighbour (.ofNat x) (.ofNat y) (.ofNat count) (wordStep step)
          = .ok (.ofNat (count + g.aliveAmong [step] x y)) := by
        unfold StoredGrid.countNeighbour wordStep
        simp only [StoredGrid.plus_ofNat hcolumn, StoredGrid.plus_ofNat hrow, stored_isAlive,
          UInt64.toNat_ofNat_of_lt' hcolumn, UInt64.toNat_ofNat_of_lt' hrow, bind, Except.bind,
          aliveAmong, List.countP_singleton]
        split
        · exact StoredGrid.plus_ofNat (b := 1) (by omega)
        · rfl
      have hone : g.aliveAmong [step] x y ≤ 1 := List.countP_le_length
      have hsum : g.aliveAmong (step :: rest) x y
          = g.aliveAmong [step] x y + g.aliveAmong rest x y := by
        rw [show step :: rest = [step] ++ rest from rfl]
        exact List.countP_append
      rw [List.map_cons, List.foldlM_cons, hfirst, hsum, ← Nat.add_assoc]
      exact ih _ (fun step hstep => hsteps step (List.mem_cons_of_mem _ hstep)) (by omega)

theorem length_steps_le (size : Size) : (steps size).length ≤ 9 :=
  (List.length_filter_le _ _).trans_eq (by simp [moves])

theorem liveNeighbours_lt_word (g : Grid) (x y : Nat) : g.liveNeighbours x y < UInt64.size :=
  (List.countP_le_length.trans (length_steps_le g.size)).trans_lt (by decide)

theorem stored_liveNeighbours (g : Grid) {x y : Nat} (hx : x < g.size.width)
    (hy : y < g.size.height) :
    g.stored.liveNeighbours (.ofNat x) (.ofNat y) = .ok (.ofNat (g.liveNeighbours x y)) := by
  have hlength : 0 + (steps g.size).length < UInt64.size := by
    rw [Nat.zero_add]
    exact (length_steps_le g.size).trans_lt (by decide)
  have hcounted := g.stored_countNeighbours hx hy 0 (steps g.size) (fun _ => le_of_mem_steps)
    hlength
  unfold StoredGrid.liveNeighbours
  rw [stored_steps]
  rw [Nat.zero_add] at hcounted
  exact hcounted

/-! ### Steps -/

/-- What becomes of a cell. -/
def becomes (g : Grid) (i : Fin g.size.area) : Bool :=
  lives (g.isAlive (g.size.column i) (g.size.row i))
    (g.liveNeighbours (g.size.column i) (g.size.row i))

/-- The cells of the next generation as far as they are filled in. -/
def filled (g : Grid) (n : Nat) : Vector Bool g.size.area :=
  Vector.ofFn fun i => decide (i.val < n) && g.becomes i

theorem getElem_filled (g : Grid) (n : Nat) {i : Nat} (hi : i < g.size.area) :
    (g.filled n)[i] = (decide (i < n) && g.becomes ⟨i, hi⟩) :=
  Vector.getElem_ofFn _

theorem filled_zero (g : Grid) : g.filled 0 = Vector.replicate g.size.area false :=
  Vector.ext fun i hi => by simp [getElem_filled]

theorem filled_area (g : Grid) : g.filled g.size.area = g.step.cells := by
  show g.filled g.size.area = Vector.ofFn g.becomes
  exact Vector.ext fun i hi => by simp [getElem_filled, hi]

/-- The next cell is filled in. -/
theorem set_filled (g : Grid) (i : Fin g.size.area) :
    (g.filled i.val).set i.val (g.becomes i) i.isLt = g.filled (i.val + 1) := by
  refine Vector.ext fun j hj => ?_
  rw [Vector.getElem_set, getElem_filled, getElem_filled]
  by_cases heq : i.val = j
  · subst heq
    simp
  · have hlt : j < i.val ↔ j < i.val + 1 := by omega
    rw [if_neg heq, decide_eq_decide.mpr hlt]

theorem stored_advance (g : Grid) {x y : Nat} (hx : x < g.size.width) (hy : y < g.size.height) :
    g.stored.advance y (g.filled (y * g.size.width + x)).toArray x
      = .ok (g.filled (y * g.size.width + (x + 1))).toArray := by
  have hword := g.size.area_lt_word
  have hxword := hx.trans g.size.width_lt_word
  have hyword := hy.trans g.size.height_lt_word
  let i : Fin g.size.area := g.size.index x y
  have hi : i.val = y * g.size.width + x := g.size.index_of_lt hx hy
  have hlt : y * g.size.width + x < g.size.area := hi ▸ i.isLt
  have hbecomes : g.becomes i = lives (g.isAlive x y) (g.liveNeighbours x y) := by
    unfold becomes
    rw [g.size.column_index, g.size.row_index, Nat.mod_eq_of_lt hx, Nat.mod_eq_of_lt hy]
  have hwrite := StoredGrid.write_ofNat (g.filled i.val) i (g.becomes i) hword
  rw [set_filled, hbecomes, hi] at hwrite
  unfold StoredGrid.advance
  simp only [stored_liveNeighbours g hx hy, stored_isAlive, UInt64.toNat_ofNat_of_lt' hxword,
    UInt64.toNat_ofNat_of_lt' hyword, UInt64.toNat_ofNat_of_lt' (g.liveNeighbours_lt_word x y),
    bind, Except.bind]
  rw [show g.stored.width = .ofNat g.size.width from rfl,
    StoredGrid.times_ofNat hyword g.size.width_lt_word (by omega)]
  simp only [StoredGrid.plus_ofNat (hlt.trans hword)]
  exact hwrite

theorem stored_advanceRow (g : Grid) {y : Nat} (hy : y < g.size.height) :
    g.stored.advanceRow (g.filled (y * g.size.width)).toArray y
      = .ok (g.filled ((y + 1) * g.size.width)).toArray := by
  unfold StoredGrid.advanceRow
  rw [stored_width, Nat.succ_mul]
  exact StoredGrid.foldlM_range (fun x => (g.filled (y * g.size.width + x)).toArray)
    fun x hx => g.stored_advance hx hy

theorem stored_step (g : Grid) : g.stored.step = .ok g.step.stored := by
  have hstart : Array.replicate g.stored.cells.size false
      = (g.filled (0 * g.size.width)).toArray := by
    rw [Nat.zero_mul, filled_zero, stored_size]
    rfl
  have hrows := StoredGrid.foldlM_range (fun y => (g.filled (y * g.size.width)).toArray)
    fun y hy => g.stored_advanceRow hy
  have hgeneration : UInt64.ofNat g.generation + 1 = UInt64.ofNat (g.generation + 1) :=
    (UInt64.ofNat_add _ 1).symm
  unfold StoredGrid.step
  rw [stored_height, hstart, hrows, show g.size.height * g.size.width = g.size.area from rfl,
    filled_area]
  exact congrArg (fun generation => Except.ok
    { g.stored with cells := g.step.cells.toArray, generation }) hgeneration

/-! ### Changes -/

/-- Does the change ask for a draw with what is no number? -/
def Change.isUndrawable : Change → Bool
  | .randomize ratio _ => ratio.isNaN
  | .set _ _ _ | .step => false

theorem perform_randomize (g : Grid) {ratio : Binary64} (h : ratio.isNaN = false)
    (words : WordStream) :
    g.perform (.randomize ratio words) = g.drawn (.ofShare ratio.clamped) words := by
  show ((g.randomize ratio words).map (·.1)).getD g = _
  rw [randomize_eq_some g h]
  rfl

/-- A draw with what is no number leaves a grid as it is. -/
theorem perform_of_isUndrawable (g : Grid) {change : Change} (h : change.isUndrawable = true) :
    g.perform change = g := by
  cases change with
  | set x y alive => contradiction
  | randomize ratio words =>
      show ((g.randomize ratio words).map (·.1)).getD g = g
      rw [randomize_of_isNaN g h]
      rfl
  | step => contradiction

/-- A change makes of a stored grid what it makes of the grid, and only a draw with what is no
number stops the work. -/
theorem stored_perform (g : Grid) (change : Change) :
    g.stored.perform change
      = (if change.isUndrawable then some .notANumber else none, (g.perform change).stored) := by
  cases change with
  | set x y alive =>
      show g.stored.orSame (g.stored.set x y alive) = _
      rw [stored_set]
      rfl
  | randomize ratio words =>
      show ((g.stored.randomize ratio words).1, (g.stored.randomize ratio words).2.1) = _
      cases h : (Change.randomize ratio words).isUndrawable with
      | true =>
          rw [stored_randomize_of_isNaN g h, perform_of_isUndrawable g h]
          rfl
      | false =>
          rw [stored_randomize g h, perform_randomize g h]
          rfl
  | step =>
      show g.stored.orSame g.stored.step = _
      rw [stored_step]
      rfl

theorem stored_performAll (g : Grid) (changes : List Change) :
    g.stored.performAll changes = (g.performAll changes).stored := by
  induction changes generalizing g with
  | nil => rfl
  | cons change rest ih =>
      show StoredGrid.performAll (g.stored.perform change).2 rest = _
      rw [stored_perform]
      exact ih _

theorem size_perform (g : Grid) (change : Change) : (g.perform change).size = g.size := by
  cases change with
  | set x y alive => rfl
  | randomize ratio words =>
      cases h : (Change.randomize ratio words).isUndrawable with
      | true => rw [perform_of_isUndrawable g h]
      | false => rw [perform_randomize g h, size_drawn]
  | step => rfl

theorem size_performAll (g : Grid) (changes : List Change) :
    (g.performAll changes).size = g.size := by
  induction changes generalizing g with
  | nil => rfl
  | cons change rest ih => exact (ih _).trans (g.size_perform change)

/-- What was last set at coordinates that agree with these up to wrapping, if anything was. -/
def lastSet (width height : Nat) (sets : List (UInt64 × UInt64 × Bool)) (x y : Nat) :
    Option Bool :=
  (sets.filter fun set => x ≡ set.1.toNat [MOD width] ∧
    y ≡ set.2.1.toNat [MOD height]).getLast?.map (·.2.2)

/-- A cell is what was last set at coordinates that name it, or what it was. -/
theorem isAlive_performAll_set (g : Grid) (sets : List (UInt64 × UInt64 × Bool)) (x y : Nat) :
    (g.performAll (sets.map fun set => .set set.1 set.2.1 set.2.2)).isAlive x y
      = (lastSet g.size.width g.size.height sets x y).getD (g.isAlive x y) := by
  induction sets using List.reverseRecOn with
  | nil => rfl
  | append_singleton sets set ih =>
      have hsize := g.size_performAll (sets.map fun set => .set set.1 set.2.1 set.2.2)
      have hlast : g.performAll ((sets ++ [set]).map fun set => .set set.1 set.2.1 set.2.2)
          = (g.performAll (sets.map fun set => .set set.1 set.2.1 set.2.2)).set set.1.toNat
              set.2.1.toNat set.2.2 := by
        rw [List.map_append]
        exact List.foldl_append
      rw [hlast, isAlive_set, hsize, ih]
      unfold lastSet
      rw [List.filter_append]
      split
      · next hsame => simp [hsame]
      · next hother => simp [hother]

/-! ### New grids -/

theorem stored_dead (s : Size) : (dead s).stored
    = { width := .ofNat s.width, height := .ofNat s.height, cells := Array.replicate s.area false,
        generation := 0 } := rfl

/-- A stored grid is made with sides in range only, and is then the grid of these sides. -/
theorem stored_new (width height : UInt64) :
    StoredGrid.new width height = .ok ((ofSides width.toNat height.toNat).map stored) := by
  unfold StoredGrid.new ofSides Size.ofSides
  by_cases hrange : (0 < width.toNat ∧ 0 < height.toNat) ∧ width.toNat ≤ maxSide ∧
      height.toNat ≤ maxSide
  · let s : Size := ⟨_, _, hrange.1.1, hrange.1.2, hrange.2.1, hrange.2.2⟩
    have harea : width.toNat * height.toNat = s.area := Nat.mul_comm _ _
    have hproduct : StoredGrid.times width height = .ok (.ofNat s.area) := by
      have hwords := StoredGrid.times_ofNat width.toNat_lt height.toNat_lt
        (harea ▸ s.area_lt_word)
      rwa [UInt64.ofNat_toNat, UInt64.ofNat_toNat, harea] at hwords
    rw [dif_pos hrange, if_neg (by omega), hproduct]
    have hcells : (UInt64.ofNat s.area).toNat = s.area :=
      UInt64.toNat_ofNat_of_lt' s.area_lt_word
    show Except.ok (Except.ok (StoredGrid.mk width height
      (Array.replicate (UInt64.ofNat s.area).toNat false) 0)) = .ok (.ok (dead s).stored)
    rw [stored_dead, hcells, UInt64.ofNat_toNat, UInt64.ofNat_toNat]
  · rw [dif_neg hrange, if_pos (by omega)]
    rfl

theorem size_of_ofSides {width height : Nat} {g : Grid} (h : ofSides width height = .ok g) :
    g.size.width = width ∧ g.size.height = height := by
  unfold ofSides Size.ofSides at h
  split at h
  · obtain rfl := Except.ok.inj h
    exact ⟨rfl, rfl⟩
  · contradiction

/-! ### What is known of the array -/

/-- Every two coordinates have a place in the array, and a cell is looked up and set there. -/
theorem stored_place (g : Grid) (x y : UInt64) :
    ∃ (i : UInt64) (h : i.toNat < g.stored.cells.size), g.stored.index x y = .ok i ∧
      g.stored.isAlive x y = .ok g.stored.cells[i.toNat] ∧
      ∀ alive, g.stored.set x y alive
        = .ok { g.stored with cells := g.stored.cells.set i.toNat alive } := by
  have hindex := g.stored_index x y
  have hplace := (g.size.index x.toNat y.toNat).isLt
  have hlt : (UInt64.ofNat (g.size.index x.toNat y.toNat).val).toNat < g.stored.cells.size := by
    rw [UInt64.toNat_ofNat_of_lt' (hplace.trans g.size.area_lt_word), stored_size]
    exact hplace
  exact ⟨_, hlt, hindex, StoredGrid.isAlive_of_index hindex hlt, StoredGrid.set_of_index hindex hlt⟩

/-- Coordinates share a place exactly if they agree up to wrapping. -/
theorem stored_index_eq_iff (g : Grid) (x y x' y' : UInt64) :
    g.stored.index x y = g.stored.index x' y' ↔
      x.toNat ≡ x'.toNat [MOD g.size.width] ∧ y.toNat ≡ y'.toNat [MOD g.size.height] := by
  have hword := g.size.area_lt_word
  rw [stored_index, stored_index, Except.ok.injEq, ← UInt64.toNat_inj,
    UInt64.toNat_ofNat_of_lt' ((g.size.index _ _).isLt.trans hword),
    UInt64.toNat_ofNat_of_lt' ((g.size.index _ _).isLt.trans hword), Fin.val_inj]
  exact Size.index_eq_iff

theorem stored_aliveCount_eq_card (g : Grid) : g.stored.aliveCount
    = ((Finset.range g.size.width ×ˢ Finset.range g.size.height).filter fun c =>
        g.stored.isAlive (.ofNat c.1) (.ofNat c.2) = .ok true).card := by
  rw [stored_aliveCount, aliveCount_eq_card]
  congr 1
  ext c
  rw [mem_living, Finset.mem_filter, Finset.mem_product, Finset.mem_range, Finset.mem_range]
  refine and_congr_right fun ⟨hx, hy⟩ => ?_
  rw [stored_isAlive, UInt64.toNat_ofNat_of_lt' (hx.trans g.size.width_lt_word),
    UInt64.toNat_ofNat_of_lt' (hy.trans g.size.height_lt_word), Except.ok.injEq]

end Grid

/-- A stored grid that is a map of the torus of these sides. -/
structure StoredGrid.IsTorus (s : StoredGrid) (width height : UInt64) : Prop where
  /-- The sides are in range. -/
  sides : (1 ≤ width.toNat ∧ width.toNat ≤ maxSide) ∧ 1 ≤ height.toNat ∧ height.toNat ≤ maxSide
  width_eq : s.width = width
  height_eq : s.height = height
  /-- There is a cell for each place. -/
  size_eq : s.cells.size = width.toNat * height.toNat
  /-- Coordinates up to the greatest word have an index within the cells, with no overflow on the
  way to it, and that is where the cell is looked up and set. -/
  place : ∀ x y, ∃ (i : UInt64) (h : i.toNat < s.cells.size), s.index x y = .ok i ∧
    s.isAlive x y = .ok s.cells[i.toNat] ∧
    ∀ alive, s.set x y alive = .ok { s with cells := s.cells.set i.toNat alive }
  /-- Nor does anything overflow on the way to the neighbours of a cell. -/
  neighbours : ∀ x y, x < width → y < height → ∃ count, s.liveNeighbours x y = .ok count
  /-- Work on a change is not stopped, unless it is a draw with what is no number. -/
  perform : ∀ change : Grid.Change, change.isUndrawable = false → (s.perform change).1 = none
  perform_undrawable : ∀ change : Grid.Change, change.isUndrawable = true →
    s.perform change = (some .notANumber, s)
  /-- Coordinates share an index exactly if they agree up to wrapping. -/
  index_eq_iff : ∀ x y x' y', s.index x y = s.index x' y' ↔
    x.toNat ≡ x'.toNat [MOD width.toNat] ∧ y.toNat ≡ y'.toNat [MOD height.toNat]
  /-- A cell is what was last set at coordinates that agree with its own, or what it was. -/
  last_set : ∀ (sets : List (UInt64 × UInt64 × Bool)) (x y : UInt64), ∃ before,
    s.isAlive x y = .ok before ∧
    (s.performAll (sets.map fun set => .set set.1 set.2.1 set.2.2)).isAlive x y
      = .ok ((Grid.lastSet width.toNat height.toNat sets x.toNat y.toNat).getD before)
  /-- As many cells are alive as coordinates within one lap. -/
  aliveCount_eq : s.aliveCount
    = ((Finset.range width.toNat ×ˢ Finset.range height.toNat).filter fun c =>
        s.isAlive (.ofNat c.1) (.ofNat c.2) = .ok true).card

namespace Grid

/-- The form in which a grid is stored is a map of its torus. -/
theorem stored_isTorus (g : Grid) {width height : UInt64} (hw : g.size.width = width.toNat)
    (hh : g.size.height = height.toNat) : g.stored.IsTorus width height where
  sides := by
    rw [← hw, ← hh]
    exact ⟨⟨g.size.width_pos, g.size.width_le⟩, g.size.height_pos, g.size.height_le⟩
  width_eq := UInt64.toNat_inj.mp (g.stored_width.trans hw)
  height_eq := UInt64.toNat_inj.mp (g.stored_height.trans hh)
  size_eq := by
    rw [stored_size, ← hw, ← hh]
    exact Nat.mul_comm _ _
  place := g.stored_place
  neighbours x y hx hy := by
    have hcounted := g.stored_liveNeighbours (hw.symm ▸ UInt64.lt_iff_toNat_lt.mp hx)
      (hh.symm ▸ UInt64.lt_iff_toNat_lt.mp hy)
    rw [UInt64.ofNat_toNat, UInt64.ofNat_toNat] at hcounted
    exact ⟨_, hcounted⟩
  perform change h := by
    rw [stored_perform]
    exact if_neg (ne_true_of_eq_false h)
  perform_undrawable change h := by
    rw [stored_perform, if_pos h, perform_of_isUndrawable g h]
  index_eq_iff := by
    rw [← hw, ← hh]
    exact g.stored_index_eq_iff
  last_set sets x y := by
    refine ⟨_, g.stored_isAlive x y, ?_⟩
    rw [stored_performAll, stored_isAlive, isAlive_performAll_set, hw, hh]
  aliveCount_eq := by
    rw [← hw, ← hh]
    exact g.stored_aliveCount_eq_card

/--
**A stored grid is a faithful map of the torus.**  However a grid is made and changed, it is a map
of the torus of the sides that it was made with: they stay as they are, there is a cell for each
place, and nothing overflows.  And it is no other grid than the one that the same changes make of
cells kept in range.
-/
theorem stored_faithful {width height : UInt64} {start : StoredGrid}
    (hnew : StoredGrid.new width height = .ok (.ok start)) (changes : List Change) :
    (start.performAll changes).IsTorus width height ∧
      ∃ g : Grid, (ofSides width.toNat height.toNat).map (·.performAll changes) = .ok g ∧
        start.performAll changes = g.stored ∧
        (∀ x y : UInt64,
          (start.performAll changes).isAlive x y = .ok (g.isAlive x.toNat y.toNat)) ∧
        (start.performAll changes).aliveCount = g.aliveCount := by
  rw [stored_new] at hnew
  obtain ⟨g₀, hg₀, rfl⟩ : ∃ g₀, ofSides width.toNat height.toNat = .ok g₀ ∧ g₀.stored = start := by
    cases h : ofSides width.toNat height.toNat with
    | error e =>
        rw [h] at hnew
        exact absurd (Except.ok.inj hnew) nofun
    | ok g₀ =>
        rw [h] at hnew
        exact ⟨g₀, rfl, Except.ok.inj (Except.ok.inj hnew)⟩
  obtain ⟨hw, hh⟩ := size_of_ofSides hg₀
  have hsize := g₀.size_performAll changes
  rw [stored_performAll, hg₀]
  refine ⟨stored_isTorus _ (by rw [hsize, hw]) (by rw [hsize, hh]), _, rfl, rfl, ?_, ?_⟩
  · exact stored_isAlive _
  · exact stored_aliveCount _

/-- Three cells across and two down, where the greatest words name the first cell of the second row.
It is brought to life, a draw with what is no number leaves it so, and it is found there. -/
theorem stored_faithful_greatest :
    let start : StoredGrid :=
      { width := 3, height := 2, cells := Array.replicate 6 false, generation := 0 }
    let greatest : UInt64 := 0xFFFFFFFFFFFFFFFF
    let s := start.performAll [.set greatest greatest true, .randomize .nan ⟨fun _ => 0⟩]
    StoredGrid.new 3 2 = .ok (.ok start) ∧
      s.index greatest greatest = s.index 0 1 ∧ s.isAlive 0 1 = .ok true ∧
      (s.performAll [.set greatest 3 false]).isAlive 0 1 = .ok false ∧
      (∃ count, s.liveNeighbours 2 1 = .ok count) ∧
      s.perform (.randomize .nan ⟨fun _ => 0⟩) = (some .notANumber, s) := by
  intro start greatest s
  have hnew : StoredGrid.new 3 2 = .ok (.ok start) := by decide
  obtain ⟨htorus, -⟩ := stored_faithful hnew
    [.set greatest greatest true, .randomize .nan ⟨fun _ => 0⟩]
  obtain ⟨before, -, hset⟩ := htorus.last_set [(greatest, 3, false)] 0 1
  exact ⟨hnew, (htorus.index_eq_iff greatest greatest 0 1).mpr (by decide), by decide +kernel,
    hset.trans (by cases before <;> decide), htorus.neighbours 2 1 (by decide) (by decide),
    htorus.perform_undrawable (.randomize .nan ⟨fun _ => 0⟩) (by decide +kernel)⟩

end Grid

end Lifecast
