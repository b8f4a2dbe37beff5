/-
A grid, cell by cell.

Coordinates of any size name a cell, and two pairs of them name the same one exactly if they
agree up to wrapping around both sides (`Size.index_eq_iff`).  So a grid is known by its size, its
count of steps and by which coordinates are alive, setting a cell changes the coordinates of that
one cell, and the live cells are counted within one lap of both sides.
-/
import Mathlib.Data.Finset.Card
import Mathlib.Data.Finset.Prod
import Mathlib.Data.List.FinRange
import Mathlib.Data.Nat.ModEq
import Lifecast.Life.Pattern

namespace Lifecast

/-- Two pairs of coordinates name one cell if they agree up to wrapping. -/
theorem Size.index_eq_iff {s : Size} {x y x' y' : Nat} :
    s.index x y = s.index x' y' ↔ x ≡ x' [MOD s.width] ∧ y ≡ y' [MOD s.height] := by
  constructor
  · intro h
    constructor
    · show x % s.width = x' % s.width
      rw [← s.column_index x y, h, s.column_index]
    · show y % s.height = y' % s.height
      rw [← s.row_index x y, h, s.row_index]
  · rintro ⟨hx, hy⟩
    apply Fin.ext
    show y % s.height * s.width + x % s.width = y' % s.height * s.width + x' % s.width
    rw [hx, hy]

namespace Grid

/-- A grid is known by its size, its count of steps and by where it is alive. -/
theorem ext_isAlive {g g' : Grid} (hsize : g.size = g'.size)
    (hgeneration : g.generation = g'.generation)
    (halive : ∀ x y, g.isAlive x y = g'.isAlive x y) : g = g' := by
  obtain ⟨size, cells, generation⟩ := g
  obtain ⟨size', cells', generation'⟩ := g'
  obtain rfl : size = size' := hsize
  obtain rfl : generation = generation' := hgeneration
  congr 1
  apply Vector.ext
  intro i hi
  have hcell := halive (size.column ⟨i, hi⟩) (size.row ⟨i, hi⟩)
  simpa [isAlive, size.index_column_row] using hcell

/-- Setting a cell changes the coordinates that name it and no others. -/
theorem isAlive_set (g : Grid) (x y : Nat) (alive : Bool) (x' y' : Nat) :
    (g.set x y alive).isAlive x' y'
      = if x' ≡ x [MOD g.size.width] ∧ y' ≡ y [MOD g.size.height] then alive
        else g.isAlive x' y' := by
  show (g.cells.set (g.size.index x y).val alive (g.size.index x y).isLt)[g.size.index x' y'] = _
  rw [Fin.getElem_fin, Vector.getElem_set]
  refine if_congr ?_ rfl rfl
  rw [Fin.val_inj, eq_comm]
  exact Size.index_eq_iff

theorem isAlive_ofFn (size : Size) (alive : Nat → Nat → Bool) (x y : Nat) :
    (ofFn size alive).isAlive x y = alive (x % size.width) (y % size.height) := by
  show (Vector.ofFn fun i => alive (size.column i) (size.row i))[size.index x y] = _
  rw [← size.column_index x y, ← size.row_index x y]
  exact Vector.getElem_ofFn _

/-! ### Counting -/

/-- The columns and rows of all cells, one for each. -/
def places (size : Size) : List (Nat × Nat) :=
  (List.finRange size.area).map fun i => (size.column i, size.row i)

theorem nodup_places (size : Size) : (places size).Nodup := by
  refine List.Nodup.map ?_ (List.nodup_finRange _)
  intro i i' hsame
  obtain ⟨hcolumn, hrow⟩ := Prod.mk.inj hsame
  rw [← size.index_column_row i, hcolumn, hrow, size.index_column_row]

theorem mem_places {size : Size} {c : Nat × Nat} :
    c ∈ places size ↔ c.1 < size.width ∧ c.2 < size.height := by
  unfold places
  rw [List.mem_map]
  constructor
  · rintro ⟨i, -, rfl⟩
    exact ⟨size.column_lt i, size.row_lt i⟩
  · rintro ⟨hcolumn, hrow⟩
    refine ⟨size.index c.1 c.2, List.mem_finRange _, ?_⟩
    rw [size.column_index, size.row_index, Nat.mod_eq_of_lt hcolumn, Nat.mod_eq_of_lt hrow]

/-- The live cells within one lap of both sides. -/
def living (g : Grid) : Finset (Nat × Nat) :=
  (places g.size).toFinset.filter fun c => g.isAlive c.1 c.2

theorem mem_living {g : Grid} {c : Nat × Nat} :
    c ∈ g.living ↔ (c.1 < g.size.width ∧ c.2 < g.size.height) ∧ g.isAlive c.1 c.2 = true := by
  unfold living
  rw [Finset.mem_filter, List.mem_toFinset, mem_places]

/-- **As many cells are alive as coordinates within one lap.** -/
theorem aliveCount_eq_card (g : Grid) : g.aliveCount = g.living.card := by
  have hcells : (places g.size).map (fun c => g.isAlive c.1 c.2) = g.cells.toList := by
    unfold places
    rw [List.map_map]
    refine List.ext_getElem (by simp) fun i hi hi' => ?_
    simp [isAlive, g.size.index_column_row]
  unfold living aliveCount
  rw [List.Nodup.card_eq_countP (nodup_places g.size), ← Vector.count_toList, ← hcells, List.count,
    List.countP_map]
  exact List.countP_congr fun c _ => by simp

end Grid

end Lifecast
