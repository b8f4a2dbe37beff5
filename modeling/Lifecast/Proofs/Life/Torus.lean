/-
The game on a torus is the game on the plane that the torus covers.

A step back is written as a step of one less than the side.  Wrapped around, the eight
ways of the plane are exactly the steps of a grid, in the same order, as long as both
sides have at least two cells (`steps_eq_around`); on a side of one the step back would be
no step at all, and the rule would leave it out.

The steps are not told apart by where they lead.  On a side of two the step back and the
step forward reach the same cell, and both count, as the two cells of the plane do that
the torus lays over it.
-/
import Mathlib.Data.Int.ModEq
import Lifecast.Life.Plane

namespace Lifecast

namespace Grid

/-! ### Coordinates -/

/-- A way along a side, wrapped around it. -/
def wrapped (side : Nat) (way : Int) : Nat :=
  (way % side).toNat

theorem wrapped_cast {side : Nat} (hpos : 0 < side) (way : Int) :
    (wrapped side way : Int) = way % side :=
  Int.toNat_of_nonneg (Int.emod_nonneg way (by omega))

theorem wrapped_modEq {side : Nat} (hpos : 0 < side) (way : Int) :
    (wrapped side way : Int) ≡ way [ZMOD side] := by
  rw [wrapped_cast hpos]
  exact Int.mod_modEq way side

/-- A cell of the plane is any cell of the torus with the same coordinates up to wrapping. -/
theorem plane_eq_isAlive (g : Grid) {x y : Nat} {i j : Int} (hx : (x : Int) ≡ i [ZMOD g.size.width])
    (hy : (y : Int) ≡ j [ZMOD g.size.height]) : g.plane i j = g.isAlive x y := by
  have hcolumn : (i % g.size.width).toNat = x % g.size.width := by
    rw [← hx.eq]
    exact Int.toNat_natCast (x % g.size.width)
  have hrow : (j % g.size.height).toNat = y % g.size.height := by
    rw [← hy.eq]
    exact Int.toNat_natCast (y % g.size.height)
  unfold plane
  rw [hcolumn, hrow, isAlive_mod]

/-- The plane repeats after every side. -/
theorem plane_congr (g : Grid) {i i' j j' : Int} (hi : i ≡ i' [ZMOD g.size.width])
    (hj : j ≡ j' [ZMOD g.size.height]) : g.plane i j = g.plane i' j' := by
  unfold plane
  rw [hi.eq, hj.eq]

/-- On a side of two, back and forward are the same. -/
theorem sub_one_modEq_add_one (i : Int) : i - 1 ≡ i + 1 [ZMOD 2] := by
  show (i - 1) % 2 = (i + 1) % 2
  omega

/-- A step of the torus from a cell leads where the way leads from a cell of the plane
over it. -/
theorem add_wrapped_modEq {side : Nat} (hpos : 0 < side) {x : Nat} {i : Int}
    (hx : (x : Int) ≡ i [ZMOD side]) (way : Int) :
    ((x + wrapped side way : Nat) : Int) ≡ i + way [ZMOD side] := by
  rw [Nat.cast_add]
  exact hx.add (wrapped_modEq hpos way)

/-! ### Neighbours -/

theorem wrapped_zero (side : Nat) : wrapped side 0 = 0 := by
  simp [wrapped]

theorem wrapped_one {side : Nat} (h : 2 ≤ side) : wrapped side 1 = 1 := by
  unfold wrapped
  rw [Int.emod_eq_of_lt (by omega) (by omega)]
  rfl

/-- Back is as far as forward by all cells but one. -/
theorem wrapped_neg_one {side : Nat} (h : 2 ≤ side) : wrapped side (-1) = side - 1 := by
  unfold wrapped
  rw [← Int.add_emod_right, Int.emod_eq_of_lt (by omega) (by omega)]
  omega

/-- **The steps of a grid are the ways of the plane, wrapped.** -/
theorem steps_eq_around {size : Size} (hw : 2 ≤ size.width) (hh : 2 ≤ size.height) :
    steps size
      = Plane.around.map fun way => (wrapped size.width way.1, wrapped size.height way.2) := by
  have hbackWidth : size.width - 1 ≠ 0 := by omega
  have hbackHeight : size.height - 1 ≠ 0 := by omega
  simp only [steps, moves, Plane.around, List.map_cons, List.map_nil, wrapped_zero,
    wrapped_one hw, wrapped_one hh, wrapped_neg_one hw, wrapped_neg_one hh]
  -- Only the pair of two stays is left out, since neither step back is one.
  simp [hbackWidth, hbackHeight]

/-- The neighbours of a cell are counted as on the plane. -/
theorem liveNeighbours_eq_plane {g : Grid} (hw : 2 ≤ g.size.width) (hh : 2 ≤ g.size.height)
    {x y : Nat} {i j : Int} (hx : (x : Int) ≡ i [ZMOD g.size.width])
    (hy : (y : Int) ≡ j [ZMOD g.size.height]) :
    g.liveNeighbours x y = g.plane.liveNeighbours i j := by
  unfold liveNeighbours aliveAmong Plane.liveNeighbours
  rw [steps_eq_around hw hh, List.countP_map]
  apply List.countP_congr
  intro way _
  rw [plane_eq_isAlive g (add_wrapped_modEq g.size.width_pos hx way.1)
    (add_wrapped_modEq g.size.height_pos hy way.2)]
  rfl

/-! ### Generations -/

/-- The rule in the words of the plane. -/
theorem lives_eq (alive : Bool) (neighbours : Nat) :
    lives alive neighbours = (neighbours == 3 || (alive && neighbours == 2)) := by
  match alive, neighbours with
  | true, 0 | true, 1 | true, 2 | true, 3 => rfl
  | false, 0 | false, 1 | false, 2 | false, 3 => rfl
  | true, n + 4 => simp [lives]
  | false, n + 4 => simp [lives]

theorem plane_step {g : Grid} (hw : 2 ≤ g.size.width) (hh : 2 ≤ g.size.height) :
    g.step.plane = g.plane.step := by
  funext i j
  have hx := wrapped_modEq g.size.width_pos i
  have hy := wrapped_modEq g.size.height_pos j
  have hcolumn : ((wrapped g.size.width i % g.size.width : Nat) : Int) ≡ i [ZMOD g.size.width] :=
    (Int.mod_modEq _ _).trans hx
  have hrow : ((wrapped g.size.height j % g.size.height : Nat) : Int) ≡ j [ZMOD g.size.height] :=
    (Int.mod_modEq _ _).trans hy
  rw [plane_eq_isAlive g.step hx hy, isAlive_step, lives_eq, ← plane_eq_isAlive g hx hy,
    liveNeighbours_eq_plane hw hh hcolumn hrow]
  rfl

theorem size_stepMany (g : Grid) (n : Nat) : (g.stepMany n).size = g.size := by
  induction n generalizing g with
  | zero => rfl
  | succ n ih => exact ih g.step

theorem generation_stepMany (g : Grid) (n : Nat) :
    (g.stepMany n).generation = g.generation + n := by
  induction n generalizing g with
  | zero => rfl
  | succ n ih =>
      have hrest : (g.step.stepMany n).generation = g.generation + 1 + n := ih g.step
      show (g.step.stepMany n).generation = g.generation + (n + 1)
      omega

theorem plane_stepMany {g : Grid} (hw : 2 ≤ g.size.width) (hh : 2 ≤ g.size.height) (n : Nat) :
    (g.stepMany n).plane = g.plane.stepMany n := by
  induction n generalizing g with
  | zero => rfl
  | succ n ih =>
      show (g.step.stepMany n).plane = g.plane.step.stepMany n
      rw [ih (g := g.step) hw hh, plane_step hw hh]

/--
**Every generation on a torus is the one on the plane.**  Each cell counts all eight
neighbours that it has on the plane, so on a side of two the one cell that is both before
and behind counts twice.
-/
theorem stepMany_covers (g : Grid) (hw : 2 ≤ g.size.width) (hh : 2 ≤ g.size.height) (n : Nat) :
    (g.stepMany n).plane = g.plane.stepMany n ∧
      (g.stepMany n).size = g.size ∧
      (g.stepMany n).generation = g.generation + n ∧
      (∀ x y : Nat, (g.stepMany n).liveNeighbours x y
        = (g.plane.stepMany n).liveNeighbours x y) ∧
      (g.size.width = 2 → ∀ i j : Int, g.plane (i - 1) j = g.plane (i + 1) j) ∧
      (g.size.height = 2 → ∀ i j : Int, g.plane i (j - 1) = g.plane i (j + 1)) := by
  have hcovers := plane_stepMany hw hh n
  have hsize := size_stepMany g n
  refine ⟨hcovers, hsize, generation_stepMany g n, ?_, ?_, ?_⟩
  · intro x y
    rw [← hcovers]
    exact liveNeighbours_eq_plane (hsize ▸ hw) (hsize ▸ hh) (Int.ModEq.refl _) (Int.ModEq.refl _)
  · intro htwo i j
    refine plane_congr g ?_ (Int.ModEq.refl j)
    rw [htwo]
    exact sub_one_modEq_add_one i
  · intro htwo i j
    refine plane_congr g (Int.ModEq.refl i) ?_
    rw [htwo]
    exact sub_one_modEq_add_one j

/-- Two cells across and three down, where the neighbours to both sides are one. -/
theorem stepMany_covers_narrow :
    let g := ((dead ⟨2, 3, by decide, by decide, by decide, by decide⟩).set 0 0 true).set 1 1 true
    (2 ≤ g.size.width ∧ 2 ≤ g.size.height ∧ g.size.width = 2) ∧
      (g.stepMany 5).plane = g.plane.stepMany 5 ∧ (g.stepMany 5).generation = 5 ∧
      g.plane (-1) 1 = g.plane 1 1 := by
  intro g
  obtain ⟨hplane, -, hgeneration, -, hbeside, -⟩ := stepMany_covers g (by decide) (by decide) 5
  exact ⟨by decide, hplane, hgeneration, hbeside rfl 0 1⟩

end Grid

end Lifecast
