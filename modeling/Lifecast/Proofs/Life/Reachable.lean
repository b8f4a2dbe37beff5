/-
Every grid can be reached.

A grid is made without a live cell and then changed by setting cells, by drawing all of
them, and by steps.  The type of grids says no more than that the sides are in range and
that there is a cell for each place, and no more is true of the grids that are made so:
steps alone lead to any count of generations, and setting the cells one by one to any cells
(`reachable`).  So what holds of every grid holds of exactly the grids that can come up.
-/
import Lifecast.Life.Population
import Lifecast.Proofs.Life.Payload

namespace Lifecast

namespace Grid

/-- Made from sides in range and changed in the ways there are. -/
inductive Reachable : Grid → Prop
  | new {width height : Nat} {g : Grid} (h : ofSides width height = .ok g) : Reachable g
  | set {g : Grid} (h : Reachable g) (x y : Nat) (alive : Bool) : Reachable (g.set x y alive)
  | randomize {σ : Type} [WordSource σ] {g g' : Grid} {ratio : Binary64} {source source' : σ}
      (h : Reachable g) (hdrawn : g.randomize ratio source = some (g', source')) : Reachable g'
  | step {g : Grid} (h : Reachable g) : Reachable g.step

theorem ofSides_dead (s : Size) : ofSides s.width s.height = .ok (dead s) := by
  unfold ofSides
  rw [s.ofSides_self]
  rfl

/-- Steps lead to any count of generations. -/
theorem exists_reachable_generation (s : Size) (n : Nat) :
    ∃ g : Grid, g.Reachable ∧ g.size = s ∧ g.generation = n := by
  induction n with
  | zero => exact ⟨dead s, .new (ofSides_dead s), rfl, rfl⟩
  | succ n ih =>
      obtain ⟨g, hg, hsize, hgeneration⟩ := ih
      exact ⟨g.step, hg.step, hsize, congrArg (· + 1) hgeneration⟩

/-- Setting the first cells of a grid one by one makes them agree with any others. -/
theorem exists_reachable_cells {g : Grid} (hg : g.Reachable) (cells : Vector Bool g.size.area)
    (n : Nat) (hn : n ≤ g.size.area) :
    ∃ painted : Vector Bool g.size.area, Reachable { g with cells := painted } ∧
      ∀ i (hi : i < n), painted[i] = cells[i] := by
  induction n with
  | zero => exact ⟨g.cells, hg, by simp⟩
  | succ n ih =>
      obtain ⟨painted, hpainted, hagree⟩ := ih (by omega)
      let place : Fin g.size.area := ⟨n, hn⟩
      have hset : set { g with cells := painted } (g.size.column place) (g.size.row place) cells[n]
          = { g with cells := painted.set n cells[n] } := by
        simp only [set, g.size.index_column_row]
        rfl
      refine ⟨painted.set n cells[n], hset ▸ hpainted.set _ _ _, fun i hi => ?_⟩
      by_cases hlast : i = n
      · subst hlast
        simp
      · rw [Vector.getElem_set_ne _ _ (Ne.symm hlast)]
        exact hagree i (by omega)

/-- **Every grid can be reached.** -/
theorem reachable (g : Grid) : g.Reachable := by
  obtain ⟨start, hstart, hsize, hgeneration⟩ := exists_reachable_generation g.size g.generation
  obtain ⟨size, cells, generation⟩ := g
  obtain rfl : start.size = size := hsize
  obtain rfl : start.generation = generation := hgeneration
  obtain ⟨painted, hpainted, hagree⟩ := exists_reachable_cells hstart cells _ (Nat.le_refl _)
  have hall : painted = cells := Vector.ext fun i hi => hagree i hi
  rwa [hall] at hpainted

end Grid

end Lifecast
