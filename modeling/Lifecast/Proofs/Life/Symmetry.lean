/-
The game looks the same from everywhere on a torus.

A pattern that is moved about, reflected or turned over its diagonal goes on as it would have
gone on where it was: each of these commutes with a step, and so with any number of them.

What has to be shown is that the steps of a grid are the same ways in whatever order they are
written.  Reflection exchanges back and forward (`countP_moves_mirror`), and turning over exchanges
columns and rows (`countP_steps_swap`).  The steps that are left out could spoil this.  On a side
of at least two they are the stays, which reflection leaves alone.  On a side of one a stay and a
step back are left out and a step forward is not, but there all columns are one column, so it does
not matter which of the steps are kept.
-/
import Lifecast.Proofs.Life.Cells
import Lifecast.Proofs.Life.Torus

namespace Lifecast

namespace Grid

/-! ### Grids as planes -/

theorem isAlive_eq_plane (g : Grid) (x y : Nat) : g.isAlive x y = g.plane x y :=
  (plane_eq_isAlive g (Int.ModEq.refl x) (Int.ModEq.refl y)).symm

/-- A grid is known by its size, its count of steps and the plane that it covers. -/
theorem ext_plane {g g' : Grid} (hsize : g.size = g'.size)
    (hgeneration : g.generation = g'.generation)
    (hplane : ∀ i j, g.plane i j = g'.plane i j) : g = g' := by
  refine ext_isAlive hsize hgeneration fun x y => ?_
  rw [isAlive_eq_plane, isAlive_eq_plane, hplane]

theorem wrapped_lt {side : Nat} (hpos : 0 < side) (way : Int) : wrapped side way < side := by
  have hlt : way % side < side := Int.emod_lt_of_pos way (by omega)
  rw [← wrapped_cast hpos] at hlt
  exact Int.ofNat_lt.mp hlt

theorem wrapped_mod_modEq {side : Nat} (hpos : 0 < side) (way : Int) :
    ((wrapped side way % side : Nat) : Int) ≡ way [ZMOD side] :=
  (Int.mod_modEq _ _).trans (wrapped_modEq hpos way)

/-- A plane that repeats after every side is covered by the grid cut out of it. -/
theorem plane_ofFn {size : Size} {p : Plane}
    (hp : ∀ i i' j j' : Int, i ≡ i' [ZMOD size.width] → j ≡ j' [ZMOD size.height] →
      p i j = p i' j') (i j : Int) :
    (ofFn size fun x y => p x y).plane i j = p i j := by
  rw [plane_eq_isAlive (ofFn size fun x y => p x y) (wrapped_modEq size.width_pos i)
    (wrapped_modEq size.height_pos j), isAlive_ofFn]
  exact hp _ _ _ _ (wrapped_mod_modEq size.width_pos i) (wrapped_mod_modEq size.height_pos j)

theorem plane_shifted (g : Grid) (dx dy i j : Int) :
    (g.shifted dx dy).plane i j = g.plane (i - dx) (j - dy) :=
  plane_ofFn (p := fun i j => g.plane (i - dx) (j - dy))
    (fun _ _ _ _ hi hj => plane_congr g (hi.sub_right dx) (hj.sub_right dy)) i j

theorem plane_reflected (g : Grid) (i j : Int) :
    g.reflected.plane i j = g.plane (g.size.width - 1 - i) j :=
  plane_ofFn (p := fun i j => g.plane (g.size.width - 1 - i) j)
    (fun _ _ _ _ hi hj => plane_congr g (hi.sub_left _) hj) i j

theorem plane_flipped (g : Grid) (i j : Int) :
    g.flipped.plane i j = g.plane i (g.size.height - 1 - j) :=
  plane_ofFn (p := fun i j => g.plane i (g.size.height - 1 - j))
    (fun _ _ _ _ hi hj => plane_congr g hi (hj.sub_left _)) i j

theorem plane_transposed (g : Grid) (i j : Int) : g.transposed.plane i j = g.plane j i := by
  have hcells : (fun x y : Nat => g.isAlive y x) = fun x y : Nat => g.plane y x := by
    funext x y
    exact isAlive_eq_plane g y x
  show (ofFn g.size.transposed fun x y => g.isAlive y x).plane i j = _
  rw [hcells]
  exact plane_ofFn (p := fun i j => g.plane j i) (fun _ _ _ _ hi hj => plane_congr g hj hi) i j

/-! ### Undoing -/

theorem shifted_shifted_neg (g : Grid) (dx dy : Int) :
    (g.shifted dx dy).shifted (-dx) (-dy) = g := by
  refine ext_plane rfl rfl fun i j => ?_
  rw [plane_shifted, plane_shifted]
  congr 1 <;> omega

theorem reflected_reflected (g : Grid) : g.reflected.reflected = g := by
  refine ext_plane rfl rfl fun i j => ?_
  rw [plane_reflected, plane_reflected]
  congr 1
  exact sub_sub_cancel _ i

theorem transposed_transposed (g : Grid) : g.transposed.transposed = g := by
  refine ext_plane rfl rfl fun i j => ?_
  rw [plane_transposed, plane_transposed]

/-! ### Neighbours -/

/-- How many of the cells that the steps of a grid reach are alive, from a cell of the plane. -/
def liveAround (g : Grid) (i j : Int) : Nat :=
  (steps g.size).countP fun step => g.plane (i + step.1) (j + step.2)

/-- A step on any torus, seen on the plane. -/
theorem plane_step_eq_lives (g : Grid) (i j : Int) :
    g.step.plane i j = lives (g.plane i j) (g.liveAround i j) := by
  have hi := wrapped_modEq g.size.width_pos i
  have hj := wrapped_modEq g.size.height_pos j
  have hi' := wrapped_mod_modEq g.size.width_pos i
  have hj' := wrapped_mod_modEq g.size.height_pos j
  rw [plane_eq_isAlive g.step hi hj, isAlive_step, plane_eq_isAlive g hi hj]
  congr 1
  unfold liveNeighbours aliveAmong liveAround
  refine List.countP_congr fun step _ => ?_
  rw [isAlive_eq_plane, Nat.cast_add, Nat.cast_add,
    plane_congr g (hi'.add_right step.1) (hj'.add_right step.2)]

/-- The steps of a grid, row by row. -/
theorem countP_steps (size : Size) (p : Nat × Nat → Bool) :
    (steps size).countP p = ((moves size.height).map fun dy =>
      (moves size.width).countP fun dx => p (dx, dy) && !(dx == 0 && dy == 0)).sum := by
  unfold steps
  rw [List.countP_filter, List.countP_flatMap]
  refine congrArg List.sum (List.map_congr_left fun dy _ => ?_)
  exact List.countP_map

/-- Back and forward may be exchanged. -/
theorem countP_moves_mirror {side : Nat} {p q : Nat → Bool} (hback : p (side - 1) = q 1)
    (hstay : p 0 = q 0) (hforward : p 1 = q (side - 1)) :
    (moves side).countP p = (moves side).countP q := by
  unfold moves
  simp only [List.countP_cons, List.countP_nil, hback, hstay, hforward]
  omega

/-- So may columns and rows. -/
theorem countP_steps_swap (size : Size) (p : Nat × Nat → Bool) :
    (steps size.transposed).countP p = (steps size).countP fun step => p (step.2, step.1) := by
  rw [countP_steps, countP_steps]
  unfold moves Size.transposed
  simp only [List.map_cons, List.map_nil, List.sum_cons, List.sum_nil, List.countP_cons,
    List.countP_nil, Bool.and_comm]
  omega

theorem liveAround_shifted (g : Grid) (dx dy i j : Int) :
    (g.shifted dx dy).liveAround i j = g.liveAround (i - dx) (j - dy) := by
  unfold liveAround
  simp only [plane_shifted, add_sub_right_comm]
  rfl

/-- The ways along a side lead to the same cells when they are reflected. -/
theorem countP_moves_reflected {side : Nat} (hpos : 0 < side) {p : Int → Bool}
    (hp : ∀ i i' : Int, i ≡ i' [ZMOD side] → p i = p i') (i : Int) (stays : Bool) :
    ((moves side).countP fun d : Nat => p (side - 1 - (i + d)) && !(d == 0 && stays))
      = (moves side).countP fun d : Nat => p (side - 1 - i + d) && !(d == 0 && stays) := by
  by_cases hone : side = 1
  · refine List.countP_congr fun d _ => ?_
    have hsame : p (side - 1 - (i + d)) = p (side - 1 - i + d) := by
      apply hp
      rw [hone]
      exact Int.modEq_one
    rw [hsame]
  · have hback : (side - 1 == 0) = false := by simp; omega
    have hcast : ((side - 1 : Nat) : Int) = side - 1 := by omega
    have hlap (k : Int) : p (k + side) = p k := hp _ _ Int.add_modEq_right
    refine countP_moves_mirror ?_ ?_ ?_
    · have hfar : (side : Int) - 1 - i + (1 : Nat) = side - 1 - (i + (side - 1)) + side := by omega
      rw [hback, hcast, hfar, hlap]
      rfl
    · rw [Nat.cast_zero, add_zero, add_zero]
    · have hfar : (side : Int) - 1 - i + (side - 1) = side - 1 - (i + (1 : Nat)) + side := by omega
      rw [hback, hcast, hfar, hlap]
      rfl

theorem liveAround_reflected (g : Grid) (i j : Int) :
    g.reflected.liveAround i j = g.liveAround (g.size.width - 1 - i) j := by
  unfold liveAround
  simp only [plane_reflected, countP_steps]
  refine congrArg List.sum (List.map_congr_left fun dy _ => ?_)
  exact countP_moves_reflected (p := fun k => g.plane k (j + dy)) g.size.width_pos
    (fun _ _ hi => plane_congr g hi (Int.ModEq.refl _)) i (dy == 0)

theorem liveAround_transposed (g : Grid) (i j : Int) :
    g.transposed.liveAround i j = g.liveAround j i := by
  unfold liveAround
  simp only [plane_transposed]
  exact countP_steps_swap g.size _

/-! ### Generations -/

theorem step_shifted (g : Grid) (dx dy : Int) : (g.shifted dx dy).step = g.step.shifted dx dy := by
  refine ext_plane rfl rfl fun i j => ?_
  rw [plane_step_eq_lives, plane_shifted, plane_shifted, plane_step_eq_lives, liveAround_shifted]

theorem step_reflected (g : Grid) : g.reflected.step = g.step.reflected := by
  refine ext_plane rfl rfl fun i j => ?_
  rw [plane_step_eq_lives, plane_reflected, plane_reflected, plane_step_eq_lives,
    liveAround_reflected, size_step]

theorem step_transposed (g : Grid) : g.transposed.step = g.step.transposed := by
  refine ext_plane rfl rfl fun i j => ?_
  rw [plane_step_eq_lives, plane_transposed, plane_transposed, plane_step_eq_lives,
    liveAround_transposed]

/-- Top to bottom is left to right, seen over the diagonal. -/
theorem flipped_eq (g : Grid) : g.flipped = g.transposed.reflected.transposed := by
  refine ext_plane rfl rfl fun i j => ?_
  rw [plane_flipped, plane_transposed, plane_reflected, plane_transposed]
  rfl

theorem step_flipped (g : Grid) : g.flipped.step = g.step.flipped := by
  rw [flipped_eq, flipped_eq, step_transposed, step_reflected, step_transposed]

/-- What commutes with a step commutes with any number of steps. -/
theorem stepMany_of_step {f : Grid → Grid} (hf : ∀ g, (f g).step = f g.step) (g : Grid) (n : Nat) :
    (f g).stepMany n = f (g.stepMany n) := by
  induction n generalizing g with
  | zero => rfl
  | succ n ih =>
      show (f g).step.stepMany n = f (g.step.stepMany n)
      rw [hf, ih]

/-! ### Live cells -/

/-- A grid has no more live cells than another one whose cells it shows, each in at most one
place. -/
theorem aliveCount_le_of_shows {g g' : Grid} (column row : Int → Int → Int)
    (hshows : ∀ i j, g'.plane i j = g.plane (column i j) (row i j))
    (honce : ∀ i i' j j', column i j ≡ column i' j' [ZMOD g.size.width] →
      row i j ≡ row i' j' [ZMOD g.size.height] →
      i ≡ i' [ZMOD g'.size.width] ∧ j ≡ j' [ZMOD g'.size.height]) :
    g'.aliveCount ≤ g.aliveCount := by
  rw [aliveCount_eq_card, aliveCount_eq_card]
  let place (c : Nat × Nat) : Nat × Nat :=
    (wrapped g.size.width (column c.1 c.2), wrapped g.size.height (row c.1 c.2))
  have hcolumn (c : Nat × Nat) := wrapped_modEq g.size.width_pos (column c.1 c.2)
  have hrow (c : Nat × Nat) := wrapped_modEq g.size.height_pos (row c.1 c.2)
  refine Finset.card_le_card_of_injOn place ?_ ?_
  · intro c hc
    obtain ⟨-, halive⟩ := mem_living.mp hc
    refine mem_living.mpr ⟨⟨wrapped_lt g.size.width_pos _, wrapped_lt g.size.height_pos _⟩, ?_⟩
    rw [isAlive_eq_plane, hshows] at halive
    rw [← plane_eq_isAlive g (hcolumn c) (hrow c)]
    exact halive
  · intro c hc c' hc' hsame
    obtain ⟨⟨hx, hy⟩, -⟩ := mem_living.mp hc
    obtain ⟨⟨hx', hy'⟩, -⟩ := mem_living.mp hc'
    obtain ⟨hcolumns, hrows⟩ := Prod.mk.inj hsame
    obtain ⟨hi, hj⟩ := honce c.1 c'.1 c.2 c'.2
      ((hcolumn c).symm.trans (hcolumns ▸ hcolumn c'))
      ((hrow c).symm.trans (hrows ▸ hrow c'))
    refine Prod.ext ?_ ?_
    · exact (Int.natCast_modEq_iff.mp hi).eq_of_lt_of_lt hx hx'
    · exact (Int.natCast_modEq_iff.mp hj).eq_of_lt_of_lt hy hy'

theorem aliveCount_shifted (g : Grid) (dx dy : Int) :
    (g.shifted dx dy).aliveCount = g.aliveCount := by
  have hle (g : Grid) (dx dy : Int) : (g.shifted dx dy).aliveCount ≤ g.aliveCount := by
    refine aliveCount_le_of_shows _ _ (plane_shifted g dx dy) ?_
    intro i i' j j' hi hj
    exact ⟨by simpa using hi.add_right dx, by simpa using hj.add_right dy⟩
  refine Nat.le_antisymm (hle g dx dy) ?_
  calc g.aliveCount = ((g.shifted dx dy).shifted (-dx) (-dy)).aliveCount := by
        rw [shifted_shifted_neg]
    _ ≤ (g.shifted dx dy).aliveCount := hle _ _ _

theorem aliveCount_reflected (g : Grid) : g.reflected.aliveCount = g.aliveCount := by
  have hle (g : Grid) : g.reflected.aliveCount ≤ g.aliveCount := by
    refine aliveCount_le_of_shows _ _ (plane_reflected g) ?_
    intro i i' j j' hi hj
    exact ⟨by simpa using hi.sub_left (g.size.width - 1), hj⟩
  refine Nat.le_antisymm (hle g) ?_
  calc g.aliveCount = g.reflected.reflected.aliveCount := by rw [reflected_reflected]
    _ ≤ g.reflected.aliveCount := hle _

theorem aliveCount_transposed (g : Grid) : g.transposed.aliveCount = g.aliveCount := by
  have hle (g : Grid) : g.transposed.aliveCount ≤ g.aliveCount := by
    refine aliveCount_le_of_shows _ _ (plane_transposed g) ?_
    intro i i' j j' hi hj
    exact ⟨hj, hi⟩
  refine Nat.le_antisymm (hle g) ?_
  calc g.aliveCount = g.transposed.transposed.aliveCount := by rw [transposed_transposed]
    _ ≤ g.transposed.aliveCount := hle _

theorem aliveCount_flipped (g : Grid) : g.flipped.aliveCount = g.aliveCount := by
  rw [flipped_eq, aliveCount_transposed, aliveCount_reflected, aliveCount_transposed]

/-! ### Orbits -/

/-- A grid comes from another one by moving, reflecting and turning over its pattern. -/
inductive Alike (g : Grid) : Grid → Prop
  | same : Alike g g
  | shifted {g' : Grid} (h : Alike g g') (dx dy : Int) : Alike g (g'.shifted dx dy)
  | reflected {g' : Grid} (h : Alike g g') : Alike g g'.reflected
  | flipped {g' : Grid} (h : Alike g g') : Alike g g'.flipped
  | transposed {g' : Grid} (h : Alike g g') : Alike g g'.transposed

/-- Grids that are alike stay so. -/
theorem Alike.stepMany {g g' : Grid} (h : Alike g g') (n : Nat) :
    Alike (g.stepMany n) (g'.stepMany n) := by
  induction h with
  | same => exact .same
  | shifted h dx dy ih =>
      rw [stepMany_of_step (f := fun g => g.shifted dx dy) fun g => step_shifted g dx dy]
      exact ih.shifted dx dy
  | reflected h ih =>
      rw [stepMany_of_step step_reflected]
      exact ih.reflected
  | flipped h ih =>
      rw [stepMany_of_step step_flipped]
      exact ih.flipped
  | transposed h ih =>
      rw [stepMany_of_step step_transposed]
      exact ih.transposed

/-- Grids that are alike have as many live cells. -/
theorem Alike.aliveCount_eq {g g' : Grid} (h : Alike g g') : g'.aliveCount = g.aliveCount := by
  induction h with
  | same => rfl
  | shifted h dx dy ih => rw [aliveCount_shifted, ih]
  | reflected h ih => rw [aliveCount_reflected, ih]
  | flipped h ih => rw [aliveCount_flipped, ih]
  | transposed h ih => rw [aliveCount_transposed, ih]

/--
**The game respects all symmetries of the torus.**  Whether a pattern is moved, reflected or
turned over first and goes on then, or the other way round, makes no difference on any size, and
all patterns that come from one another in these ways have as many live cells in every generation.
-/
theorem stepMany_symmetric (g : Grid) (n : Nat) :
    (∀ dx dy : Int, (g.shifted dx dy).stepMany n = (g.stepMany n).shifted dx dy) ∧
      g.reflected.stepMany n = (g.stepMany n).reflected ∧
      g.flipped.stepMany n = (g.stepMany n).flipped ∧
      g.transposed.stepMany n = (g.stepMany n).transposed ∧
      ∀ g' : Grid, Alike g g' → (g'.stepMany n).aliveCount = (g.stepMany n).aliveCount := by
  refine ⟨?_, ?_, ?_, ?_, ?_⟩
  · intro dx dy
    exact stepMany_of_step (f := fun g => g.shifted dx dy) (fun g => step_shifted g dx dy) g n
  · exact stepMany_of_step step_reflected g n
  · exact stepMany_of_step step_flipped g n
  · exact stepMany_of_step step_transposed g n
  · intro g' h
    exact (h.stepMany n).aliveCount_eq

/-- A column of three cells, moved down by two and turned into a row. -/
theorem stepMany_symmetric_column :
    let column := (dead ⟨1, 3, by decide, by decide, by decide, by decide⟩).set 0 1 true
    let row := (column.shifted 0 2).transposed
    Alike column row ∧ (column.shifted 0 2).stepMany 4 = (column.stepMany 4).shifted 0 2 ∧
      (row.stepMany 4).aliveCount = (column.stepMany 4).aliveCount := by
  intro column row
  have halike : Alike column row := (Alike.same.shifted 0 2).transposed
  obtain ⟨hshifted, -, -, -, hcount⟩ := stepMany_symmetric column 4
  exact ⟨halike, hshifted 0 2, hcount row halike⟩

end Grid

end Lifecast
