/-
A glider flies on every torus that it fits on.

On the endless plane a glider is back in its shape after four steps, one column and one row
further on.  On a torus the same glider stands again a lap away in each direction, and the two
could meet.  But a cell looks no further than its eight neighbours: as long as a pattern, with a
margin of one cell all around, is no larger than the torus, no cell has neighbours from more than
one of its copies.  The margins of two copies may touch, and on a torus of five by five they do.

So a small pattern goes on as if it were alone (`step_tiled`).  What a lone glider does is known
once its four shapes have been looked at, since only cells next to a live one can come to life
(`step_lone`); after that it repeats itself, moved (`evolves_gliderAfter`).
-/
import Mathlib.Algebra.Order.Group.Unbundled.Int
import Lifecast.Life.Payload
import Lifecast.Proofs.Life.Symmetry

namespace Lifecast

namespace Plane

/-! ### Patterns -/

/-- The plane on which only these cells are alive. -/
def lone (cells : List (Int × Int)) : Plane := fun i j =>
  decide ((i, j) ∈ cells)

/-- The plane on which these cells are alive, and again a lap of a torus away from them. -/
def tiled (size : Size) (cells : List (Int × Int)) : Plane := fun i j =>
  decide (∃ c ∈ cells, i ≡ c.1 [ZMOD size.width] ∧ j ≡ c.2 [ZMOD size.height])

/-- The cells moved by some columns and rows. -/
def moved (dx dy : Int) (cells : List (Int × Int)) : List (Int × Int) :=
  cells.map fun c => (c.1 + dx, c.2 + dy)

/-- The cells lie within a square whose upper left corner is here. -/
def Within (p q side : Int) (cells : List (Int × Int)) : Prop :=
  ∀ c ∈ cells, (p ≤ c.1 ∧ c.1 < p + side) ∧ q ≤ c.2 ∧ c.2 < q + side

instance (p q side : Int) (cells : List (Int × Int)) : Decidable (Within p q side cells) :=
  inferInstanceAs (Decidable (∀ c ∈ cells, _))

variable {size : Size} {cells next : List (Int × Int)} {p q side dx dy i i' j j' : Int}

theorem lone_moved : lone (moved dx dy cells) i j = lone cells (i - dx) (j - dy) := by
  unfold lone moved
  rw [decide_eq_decide, List.mem_map]
  constructor
  · rintro ⟨c, hc, hcell⟩
    obtain ⟨hi, hj⟩ := Prod.mk.inj hcell
    rw [← hi, ← hj, add_sub_cancel_right, add_sub_cancel_right]
    exact hc
  · intro hc
    exact ⟨_, hc, by rw [sub_add_cancel, sub_add_cancel]⟩

theorem tiled_moved :
    tiled size (moved dx dy cells) i j = tiled size cells (i - dx) (j - dy) := by
  unfold tiled moved
  rw [decide_eq_decide]
  constructor
  · rintro ⟨c', hc', hi, hj⟩
    obtain ⟨c, hc, rfl⟩ := List.mem_map.mp hc'
    exact ⟨c, hc, by simpa using hi.sub_right dx, by simpa using hj.sub_right dy⟩
  · rintro ⟨c, hc, hi, hj⟩
    exact ⟨_, List.mem_map_of_mem hc, by simpa using hi.add_right dx,
      by simpa using hj.add_right dy⟩

theorem tiled_congr (hi : i ≡ i' [ZMOD size.width]) (hj : j ≡ j' [ZMOD size.height]) :
    tiled size cells i j = tiled size cells i' j' := by
  unfold tiled
  rw [decide_eq_decide]
  constructor
  · rintro ⟨c, hc, hcolumn, hrow⟩
    exact ⟨c, hc, hi.symm.trans hcolumn, hj.symm.trans hrow⟩
  · rintro ⟨c, hc, hcolumn, hrow⟩
    exact ⟨c, hc, hi.trans hcolumn, hj.trans hrow⟩

theorem length_moved : (moved dx dy cells).length = cells.length :=
  List.length_map _

theorem moved_moved {dx' dy' : Int} :
    moved dx dy (moved dx' dy' cells) = moved (dx' + dx) (dy' + dy) cells := by
  unfold moved
  rw [List.map_map]
  refine List.map_congr_left fun c _ => ?_
  show (c.1 + dx' + dx, c.2 + dy' + dy) = (c.1 + (dx' + dx), c.2 + (dy' + dy))
  rw [add_assoc, add_assoc]

theorem Within.moved (h : Within p q side cells) :
    Within (p + dx) (q + dy) side (moved dx dy cells) := by
  intro c hc
  obtain ⟨c', hc', rfl⟩ := List.mem_map.mp hc
  have hthere := h c' hc'
  show (p + dx ≤ c'.1 + dx ∧ c'.1 + dx < p + dx + side) ∧
    q + dy ≤ c'.2 + dy ∧ c'.2 + dy < q + dy + side
  omega

/-! ### A pattern alone -/

/-- The cells and their neighbours. -/
def reach (cells : List (Int × Int)) : List (Int × Int) :=
  cells.flatMap fun c => ((0, 0) :: around).map fun way => (c.1 - way.1, c.2 - way.2)

theorem mem_reach {way : Int × Int} (hway : way ∈ (0, 0) :: around)
    (h : (i + way.1, j + way.2) ∈ cells) : (i, j) ∈ reach cells := by
  refine List.mem_flatMap.mpr ⟨_, h, List.mem_map.mpr ⟨way, hway, ?_⟩⟩
  show (i + way.1 - way.1, j + way.2 - way.2) = (i, j)
  rw [add_sub_cancel_right, add_sub_cancel_right]

/-- Out of reach of the live cells nothing comes to life. -/
theorem step_lone_of_far (hfar : (i, j) ∉ reach cells) : (lone cells).step i j = false := by
  have hnone : (lone cells).liveNeighbours i j = 0 := by
    refine List.countP_eq_zero.mpr fun way hway halive => ?_
    exact hfar (mem_reach (List.mem_cons_of_mem _ hway) (of_decide_eq_true halive))
  have hself : lone cells i j = false := by
    refine decide_eq_false fun hmem => ?_
    refine hfar (mem_reach List.mem_cons_self ?_)
    rwa [add_zero, add_zero]
  unfold step
  rw [hnone, hself]
  rfl

/-- The next generation is known once the cells within reach have been looked at. -/
theorem step_lone (hnext : ∀ c ∈ next, c ∈ reach cells)
    (hreach : ∀ c ∈ reach cells, (lone cells).step c.1 c.2 = lone next c.1 c.2) :
    (lone cells).step = lone next := by
  funext i j
  by_cases hc : (i, j) ∈ reach cells
  · exact hreach (i, j) hc
  · rw [step_lone_of_far hc]
    exact (decide_eq_false fun hmem => hc (hnext _ hmem)).symm

/-- A lone pattern of at most three by three cells becomes another one in a step. -/
structure Evolves (cells next : List (Int × Int)) : Prop where
  step : (lone cells).step = lone next
  small : ∃ p q, Within p q 3 cells ∧ Within (p - 1) (q - 1) 5 next

/-- It does so everywhere. -/
theorem Evolves.moved (h : Evolves cells next) (dx dy : Int) :
    Evolves (moved dx dy cells) (moved dx dy next) := by
  refine ⟨?_, ?_⟩
  · have hplane (cells : List (Int × Int)) :
        lone (Plane.moved dx dy cells) = fun i j => lone cells (i - dx) (j - dy) := by
      funext i j
      exact lone_moved
    rw [hplane, hplane, ← h.step]
    funext i j
    unfold Plane.step liveNeighbours
    simp only [add_sub_right_comm]
  · obtain ⟨p, q, hcells, hnext⟩ := h.small
    refine ⟨p + dx, q + dy, hcells.moved, ?_⟩
    rw [add_sub_right_comm, add_sub_right_comm]
    exact hnext.moved

/-! ### A pattern on a torus -/

/-- Coordinates less than a lap apart are the same if they are so up to wrapping. -/
theorem eq_of_modEq_of_near {side : Nat} (h : i ≡ j [ZMOD side]) (hlow : j - i < side)
    (hhigh : i - j < side) : i = j := by
  have hzero : j - i = 0 := Int.eq_zero_of_abs_lt_dvd h.dvd (abs_lt.mpr (by omega))
  omega

/-- Less than a lap from all cells of a pattern, it is seen once. -/
theorem tiled_eq_lone (hi : i ≡ i' [ZMOD size.width]) (hj : j ≡ j' [ZMOD size.height])
    (hnear : ∀ c ∈ cells, (c.1 - i' < size.width ∧ i' - c.1 < size.width) ∧
      c.2 - j' < size.height ∧ j' - c.2 < size.height) :
    tiled size cells i j = lone cells i' j' := by
  unfold tiled lone
  rw [decide_eq_decide]
  constructor
  · rintro ⟨c, hc, hcolumn, hrow⟩
    obtain ⟨⟨hleft, hright⟩, habove, hbelow⟩ := hnear c hc
    have hi' : i' = c.1 := eq_of_modEq_of_near (hi.symm.trans hcolumn) hleft hright
    have hj' : j' = c.2 := eq_of_modEq_of_near (hj.symm.trans hrow) habove hbelow
    rw [hi', hj']
    exact hc
  · intro hc
    exact ⟨_, hc, hi, hj⟩

theorem near_of_around {way : Int × Int} (hway : way ∈ around) :
    (-1 ≤ way.1 ∧ way.1 ≤ 1) ∧ -1 ≤ way.2 ∧ way.2 ≤ 1 := by
  have hall : ∀ way ∈ around, (-1 ≤ way.1 ∧ way.1 ≤ 1) ∧ -1 ≤ way.2 ∧ way.2 ≤ 1 := by decide
  exact hall way hway

/-- Every coordinate is, up to wrapping, one within the lap that begins here. -/
theorem exists_within_lap {side : Nat} (hpos : 0 < side) (start i : Int) :
    ∃ i', i ≡ i' [ZMOD side] ∧ start ≤ i' ∧ i' < start + side := by
  have hlow := Int.emod_nonneg (i - start) (b := side) (by omega)
  have hhigh := Int.emod_lt_of_pos (i - start) (b := side) (by omega)
  refine ⟨start + (i - start) % side, ?_, by omega, by omega⟩
  have hmod := (Int.mod_modEq (i - start) side).add_left start
  rw [add_sub_cancel] at hmod
  exact hmod.symm

/-- **A small pattern goes on as if it were alone**, on every torus that has room for it and for a
margin of one cell on each side. -/
theorem step_tiled (hw : 5 ≤ size.width) (hh : 5 ≤ size.height) (h : Evolves cells next) :
    (tiled size cells).step = tiled size next := by
  funext i j
  obtain ⟨p, q, hcells, hnext⟩ := h.small
  -- The lap that begins with the margin of the pattern.
  obtain ⟨i', hi, hileft, hiright⟩ := exists_within_lap size.width_pos (p - 1) i
  obtain ⟨j', hj, hjabove, hjbelow⟩ := exists_within_lap size.height_pos (q - 1) j
  have hself : tiled size cells i j = lone cells i' j' := by
    refine tiled_eq_lone hi hj fun c hc => ?_
    have hthere := hcells c hc
    omega
  have haround : (tiled size cells).liveNeighbours i j = (lone cells).liveNeighbours i' j' := by
    refine List.countP_congr fun way hway => ?_
    rw [tiled_eq_lone (hi.add_right way.1) (hj.add_right way.2)]
    intro c hc
    have hthere := hcells c hc
    have hnear := near_of_around hway
    omega
  have hgoes : tiled size next i j = lone next i' j' := by
    refine tiled_eq_lone hi hj fun c hc => ?_
    have hthere := hnext c hc
    omega
  have hlone : (lone cells).step i' j' = lone next i' j' := by rw [h.step]
  rw [hgoes, ← hlone]
  unfold step
  rw [hself, haround]

/-! ### The glider -/

/-- The cells of a glider after some steps.  Every four steps it is one column and one row
further on. -/
def gliderAfter : Nat → List (Int × Int)
  | 0 => [(1, 0), (2, 1), (0, 2), (1, 2), (2, 2)]
  | 1 => [(0, 1), (2, 1), (1, 2), (2, 2), (1, 3)]
  | 2 => [(2, 1), (0, 2), (2, 2), (1, 3), (2, 3)]
  | 3 => [(1, 1), (2, 2), (3, 2), (1, 3), (2, 3)]
  | n + 4 => moved 1 1 (gliderAfter n)

theorem evolves_gliderAfter (n : Nat) : Evolves (gliderAfter n) (gliderAfter (n + 1)) := by
  induction n using gliderAfter.induct with
  | case1 => exact ⟨step_lone (by decide) (by decide), 0, 0, by decide, by decide⟩
  | case2 => exact ⟨step_lone (by decide) (by decide), 0, 1, by decide, by decide⟩
  | case3 => exact ⟨step_lone (by decide) (by decide), 0, 1, by decide, by decide⟩
  | case4 => exact ⟨step_lone (by decide) (by decide), 1, 1, by decide, by decide⟩
  | case5 n ih => exact ih.moved 1 1

/-- After four times as many steps it has moved by so many columns and rows. -/
theorem gliderAfter_four_mul (k : Nat) : gliderAfter (4 * k) = moved k k (gliderAfter 0) := by
  induction k with
  | zero => rfl
  | succ k ih =>
      show moved 1 1 (gliderAfter (4 * k)) = _
      rw [ih, moved_moved, Nat.cast_succ]

theorem length_gliderAfter (n : Nat) : (gliderAfter n).length = 5 := by
  induction n using gliderAfter.induct with
  | case1 | case2 | case3 | case4 => rfl
  | case5 n ih => rw [gliderAfter, length_moved, ih]

theorem nodup_moved (h : cells.Nodup) : (moved dx dy cells).Nodup := by
  refine h.map ?_
  intro c c' hsame
  obtain ⟨hi, hj⟩ := Prod.mk.inj hsame
  exact Prod.ext (add_right_cancel hi) (add_right_cancel hj)

theorem nodup_gliderAfter (n : Nat) : (gliderAfter n).Nodup := by
  induction n using gliderAfter.induct with
  | case1 | case2 | case3 | case4 => decide
  | case5 n ih => exact nodup_moved ih

/-- A glider goes on as if it were alone. -/
theorem stepMany_tiled (hw : 5 ≤ size.width) (hh : 5 ≤ size.height) (dx dy : Int) (m n : Nat) :
    (tiled size (moved dx dy (gliderAfter m))).stepMany n
      = tiled size (moved dx dy (gliderAfter (m + n))) := by
  induction n generalizing m with
  | zero => rfl
  | succ n ih =>
      have hstep := step_tiled hw hh ((evolves_gliderAfter m).moved dx dy)
      show (tiled size (moved dx dy (gliderAfter m))).step.stepMany n = _
      rw [hstep, ih, Nat.add_right_comm, Nat.add_assoc]

end Plane

namespace Grid

open Plane

/-- Several cells set to life are alive, wherever they are named from. -/
theorem isAlive_setAll (g : Grid) (cells : List (Nat × Nat)) (x y : Nat) :
    (g.setAll cells).isAlive x y = true ↔ g.isAlive x y = true ∨
      ∃ c ∈ cells, x ≡ c.1 [MOD g.size.width] ∧ y ≡ c.2 [MOD g.size.height] := by
  induction cells generalizing g with
  | nil => simp [setAll]
  | cons c rest ih =>
      have hrest := ih (g.set c.1 c.2 true)
      rw [isAlive_set, size_set] at hrest
      show ((g.set c.1 c.2 true).setAll rest).isAlive x y = true ↔ _
      rw [hrest, List.exists_mem_cons_iff]
      by_cases hc : x ≡ c.1 [MOD g.size.width] ∧ y ≡ c.2 [MOD g.size.height]
      · simp [hc]
      · simp [hc]

theorem generation_glider (size : Size) (x y : Nat) : (glider size x y).generation = 0 := rfl

/-- Nothing but the glider is alive. -/
theorem isAlive_glider (size : Size) (x y i j : Nat) :
    (glider size x y).isAlive i j = true ↔
      ∃ c ∈ gliderCells x y, i ≡ c.1 [MOD size.width] ∧ j ≡ c.2 [MOD size.height] := by
  have hdead : (dead size).isAlive i j = false := Vector.getElem_replicate _
  unfold glider
  rw [isAlive_setAll, hdead]
  simp only [Bool.false_eq_true, false_or]
  rfl

theorem map_gliderCells (x y : Nat) :
    (gliderCells x y).map (fun c => ((c.1 : Int), (c.2 : Int))) = moved x y (gliderAfter 0) := by
  simp [gliderCells, moved, gliderAfter, add_comm]

theorem plane_glider (size : Size) (x y : Nat) :
    (glider size x y).plane = tiled size (moved x y (gliderAfter 0)) := by
  funext i j
  have hi := wrapped_modEq size.width_pos i
  have hj := wrapped_modEq size.height_pos j
  rw [plane_eq_isAlive (glider size x y) hi hj, ← map_gliderCells, Bool.eq_iff_iff, isAlive_glider]
  unfold tiled
  rw [decide_eq_true_iff]
  constructor
  · rintro ⟨c, hc, hcolumn, hrow⟩
    refine ⟨_, List.mem_map_of_mem hc, ?_, ?_⟩
    · exact hi.symm.trans (Int.natCast_modEq_iff.mpr hcolumn)
    · exact hj.symm.trans (Int.natCast_modEq_iff.mpr hrow)
  · rintro ⟨c', hc', hcolumn, hrow⟩
    obtain ⟨c, hc, rfl⟩ := List.mem_map.mp hc'
    exact ⟨c, hc, Int.natCast_modEq_iff.mp (hi.trans hcolumn),
      Int.natCast_modEq_iff.mp (hj.trans hrow)⟩

/-- Where the glider is after some steps. -/
theorem plane_stepMany_glider {size : Size} (hw : 5 ≤ size.width) (hh : 5 ≤ size.height)
    (x y n : Nat) :
    ((glider size x y).stepMany n).plane = tiled size (moved x y (gliderAfter n)) := by
  have hcovers : ((glider size x y).stepMany n).plane = (glider size x y).plane.stepMany n := by
    refine plane_stepMany ?_ ?_ n
    · show 2 ≤ size.width
      omega
    · show 2 ≤ size.height
      omega
  rw [hcovers, plane_glider, stepMany_tiled hw hh, Nat.zero_add]

theorem wrapped_eq {side x : Nat} {i : Int} (hx : x < side) (h : (x : Int) ≡ i [ZMOD side]) :
    wrapped side i = x := by
  have hpos : 0 < side := Nat.zero_lt_of_lt hx
  have hsame : (wrapped side i : Int) ≡ x [ZMOD side] := (wrapped_modEq hpos i).trans h.symm
  exact (Int.natCast_modEq_iff.mp hsame).eq_of_lt_of_lt (wrapped_lt hpos i) hx

/-- As many cells are alive as a pattern has that is repeated after every side, if it is no
larger than the torus. -/
theorem aliveCount_of_tiled {g : Grid} {cells : List (Int × Int)} {p q side : Int}
    (hplane : g.plane = tiled g.size cells) (hnodup : cells.Nodup)
    (hcells : Within p q side cells) (hw : side ≤ g.size.width) (hh : side ≤ g.size.height) :
    g.aliveCount = cells.length := by
  let place (c : Int × Int) : Nat × Nat := (wrapped g.size.width c.1, wrapped g.size.height c.2)
  have hcolumn (c : Int × Int) := wrapped_modEq g.size.width_pos c.1
  have hrow (c : Int × Int) := wrapped_modEq g.size.height_pos c.2
  have hliving : g.living = (cells.map place).toFinset := by
    ext c
    rw [mem_living, List.mem_toFinset, List.mem_map, isAlive_eq_plane, hplane]
    unfold tiled
    rw [decide_eq_true_iff]
    constructor
    · rintro ⟨⟨hx, hy⟩, c', hc', hi, hj⟩
      exact ⟨c', hc', Prod.ext (wrapped_eq hx hi) (wrapped_eq hy hj)⟩
    · rintro ⟨c', hc', rfl⟩
      exact ⟨⟨wrapped_lt g.size.width_pos _, wrapped_lt g.size.height_pos _⟩,
        c', hc', hcolumn c', hrow c'⟩
  have honce : (cells.map place).Nodup := by
    refine hnodup.map_on ?_
    intro c hc c' hc' hsame
    obtain ⟨hcolumns, hrows⟩ := Prod.mk.inj hsame
    have hthere := hcells c hc
    have hthere' := hcells c' hc'
    refine Prod.ext ?_ ?_
    · exact eq_of_modEq_of_near ((hcolumn c).symm.trans (hcolumns ▸ hcolumn c')) (by omega)
        (by omega)
    · exact eq_of_modEq_of_near ((hrow c).symm.trans (hrows ▸ hrow c')) (by omega) (by omega)
  rw [aliveCount_eq_card, hliving, List.toFinset_card_of_nodup honce, List.length_map]

/-- A whole number of laps further on the glider is where it was. -/
theorem glider_add_laps {size : Size} {laps : Nat} (hcolumns : size.width ∣ laps)
    (hrows : size.height ∣ laps) (x y : Nat) :
    glider size (x + laps) (y + laps) = glider size x y := by
  have hlap {side : Nat} (hside : side ∣ laps) (i : Int) (x : Nat) :
      i - (x + laps : Nat) ≡ i - x [ZMOD side] := by
    refine Int.ModEq.sub_left i (Int.natCast_modEq_iff.mpr ?_)
    exact (Nat.modEq_zero_iff_dvd.mpr hside).add_left x
  refine ext_plane rfl rfl fun i j => ?_
  rw [plane_glider, plane_glider, tiled_moved, tiled_moved]
  exact tiled_congr (hlap hcolumns i x) (hlap hrows j y)

/--
**A glider flies on every torus of at least five by five cells**, wherever it is set.  Every four
steps it is one column and one row further on, so it is back when it has gone round both sides a
whole number of times, and it always has five cells.
-/
theorem glider_flies {size : Size} (hw : 5 ≤ size.width) (hh : 5 ≤ size.height) (x y : Nat) :
    (∀ i j, (glider size x y).isAlive i j = true ↔
        ∃ c ∈ gliderCells x y, i ≡ c.1 [MOD size.width] ∧ j ≡ c.2 [MOD size.height]) ∧
      (∀ k, (glider size x y).stepMany (4 * k)
        = { glider size (x + k) (y + k) with generation := 4 * k }) ∧
      ((glider size x y).stepMany (4 * size.width.lcm size.height)).payload
        = (glider size x y).payload ∧
      ∀ n, ((glider size x y).stepMany n).aliveCount = 5 := by
  have hmoves (k : Nat) : (glider size x y).stepMany (4 * k)
      = { glider size (x + k) (y + k) with generation := 4 * k } := by
    refine ext_plane ?_ ?_ fun i j => ?_
    · exact size_stepMany _ _
    · rw [generation_stepMany, generation_glider, Nat.zero_add]
    · show _ = (glider size (x + k) (y + k)).plane i j
      rw [plane_stepMany_glider hw hh, plane_glider, gliderAfter_four_mul, moved_moved,
        Nat.cast_add, Nat.cast_add, add_comm (k : Int), add_comm (k : Int)]
  refine ⟨isAlive_glider size x y, hmoves, ?_, ?_⟩
  · rw [hmoves, glider_add_laps (Nat.dvd_lcm_left _ _) (Nat.dvd_lcm_right _ _)]
    rfl
  · intro n
    have hsize : ((glider size x y).stepMany n).size = size := size_stepMany _ n
    obtain ⟨p, q, hbox, -⟩ := ((evolves_gliderAfter n).moved x y).small
    have hplane := plane_stepMany_glider hw hh x y n
    rw [aliveCount_of_tiled (hsize.symm ▸ hplane) (nodup_moved (nodup_gliderAfter n)) hbox,
      length_moved, length_gliderAfter]
    · rw [hsize]
      omega
    · rw [hsize]
      omega

/-- On five by seven cells, set across both edges. -/
theorem glider_flies_overEdges :
    let size : Size := ⟨5, 7, by decide, by decide, by decide, by decide⟩
    (5 ≤ size.width ∧ 5 ≤ size.height) ∧
      ((glider size 4 6).isAlive 0 6 = true ↔
        ∃ c ∈ gliderCells 4 6, 0 ≡ c.1 [MOD 5] ∧ 6 ≡ c.2 [MOD 7]) ∧
      (glider size 4 6).stepMany (4 * 3) = { glider size 7 9 with generation := 12 } ∧
      ((glider size 4 6).stepMany (4 * Nat.lcm 5 7)).payload = (glider size 4 6).payload ∧
      ((glider size 4 6).stepMany 1001).aliveCount = 5 := by
  intro size
  have hw : 5 ≤ size.width := by decide
  have hh : 5 ≤ size.height := by decide
  obtain ⟨hcells, hmoves, hback, hcount⟩ := glider_flies hw hh 4 6
  exact ⟨⟨hw, hh⟩, hcells 0 6, hmoves 3, hback, hcount 1001⟩

end Grid

end Lifecast
