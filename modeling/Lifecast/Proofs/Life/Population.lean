/-
Random grids, word by word.

The cells that a grid draws are those that its chance draws one after the other, each from the
source that the one before left (`Chance.cell`).  With a chance below one that takes a word for
each cell, and the cell lives if its word is below the limit; a certain chance takes no words.
So two draws from one source keep in step, or one of them is certain, and a greater ratio has a
greater limit: what lives with the smaller ratio lives with the greater one
(`randomize_coupled`).

A stored grid draws its cells one at a time.  The same comes out (`stored_randomize`), and a ratio
that is no number stops it at the first cell, with nothing drawn and nothing changed.
-/
import Mathlib.Algebra.Order.Floor.Semifield
import Lifecast.Life.Stored
import Lifecast.Proofs.Binary64
import Lifecast.Proofs.Life.Cells

namespace Lifecast

/-! ### Words -/

namespace WordSource

variable {σ : Type} [WordSource σ]

/-- The source after some words. -/
def skip (source : σ) : Nat → σ
  | 0 => source
  | n + 1 => skip (next source).2 n

/-- The word that comes after so many others. -/
def word (source : σ) (i : Nat) : UInt64 :=
  (next (skip source i)).1

theorem skip_counted (source : Counted σ) (n : Nat) :
    skip source n = { source := skip source.source n, drawn := source.drawn + n } := by
  induction n generalizing source with
  | zero => rfl
  | succ n ih =>
      rw [skip, ih]
      congr 1
      show source.drawn + 1 + n = source.drawn + (n + 1)
      omega

/-- The words of a stream are those it is made of. -/
theorem word_stream (words : WordStream) (i : Nat) : word words i = words.word i := by
  have hskip : ∀ (n : Nat) (words : WordStream), skip words n = ⟨fun i => words.word (i + n)⟩ := by
    intro n
    induction n with
    | zero => exact fun words => rfl
    | succ n ih =>
        intro words
        rw [skip, ih]
        congr 1
  show (skip words i).word 0 = words.word i
  rw [hskip]
  exact congrArg words.word (Nat.zero_add i)

end WordSource

/-! ### Draws -/

namespace Chance

variable {σ : Type} [WordSource σ]

/-- The source after some cells. -/
def after (c : Chance) (source : σ) : Nat → σ
  | 0 => source
  | n + 1 => c.after (c.draw source).2 n

/-- The cell that is drawn after so many others. -/
def cell (c : Chance) (source : σ) (i : Nat) : Bool :=
  (c.draw (c.after source i)).1

theorem after_certain (source : σ) (n : Nat) : certain.after source n = source := by
  induction n with
  | zero => rfl
  | succ n ih => exact ih

theorem after_below (limit : Nat) (source : σ) (n : Nat) :
    (below limit).after source n = WordSource.skip source n := by
  induction n generalizing source with
  | zero => rfl
  | succ n ih => exact ih _

theorem cell_below (limit : Nat) (source : σ) (i : Nat) :
    (below limit).cell source i = decide ((WordSource.word source i).toNat < limit) := by
  unfold cell
  rw [after_below]
  rfl

/-- Behind the cells already drawn come the next ones. -/
theorem drawOnto_eq (c : Chance) {total drawn missing : Nat} (cells : Vector Bool drawn)
    (source : σ) (h : drawn + missing = total) :
    (c.drawOnto total cells source missing h).1.toList
        = cells.toList ++ (List.range missing).map (c.cell source) ∧
      (c.drawOnto total cells source missing h).2 = c.after source missing := by
  induction missing generalizing drawn cells source with
  | zero =>
      subst h
      exact ⟨by simp [drawOnto], rfl⟩
  | succ missing ih =>
      obtain ⟨hcells, hrest⟩ := ih (cells.push (c.draw source).1) (c.draw source).2 (by omega)
      refine ⟨?_, hrest⟩
      rw [drawOnto, hcells, List.range_succ_eq_map, List.map_cons, List.map_map, Vector.toList_push,
        List.append_assoc]
      rfl

/-- Cells are drawn one after the other. -/
theorem drawMany_eq (c : Chance) (n : Nat) (source : σ) :
    (c.drawMany n source).1.toList = (List.range n).map (c.cell source) ∧
      (c.drawMany n source).2 = c.after source n :=
  c.drawOnto_eq #v[] source (Nat.zero_add n)

/-- No number, no chance. -/
theorem ofRatio?_of_isNaN {p : Binary64} (h : p.isNaN = true) : ofRatio? p = none := by
  unfold ofRatio?
  rw [Binary64.share?_of_isNaN h]
  rfl

/-- The chance that a share of one gives: certain if it is all of one, and otherwise that share of
all words, rounded down. -/
def ofShare (r : ℚ) : Chance :=
  if r = 1 then certain else below ⌊r * 2 ^ 64⌋₊

theorem ofRatio?_eq_some {p : Binary64} (h : p.isNaN = false) :
    ofRatio? p = some (ofShare p.clamped) := by
  obtain ⟨share, hshare, hclamped⟩ := Binary64.share?_eq_some h
  have hone : p.clamped = 1 ↔ share = Binary64.unit := by
    rw [hclamped, div_eq_one_iff_eq Binary64.unit_pos.ne']
    exact Nat.cast_inj
  have hwords : ((Nat.pow 2 64 : Nat) : ℚ) = 2 ^ 64 := by norm_num
  have hlimit : share * Nat.pow 2 64 / Binary64.unit = ⌊p.clamped * 2 ^ 64⌋₊ := by
    rw [hclamped, div_mul_eq_mul_div, ← Nat.floor_div_eq_div (K := ℚ), Nat.cast_mul, hwords]
  unfold ofRatio? ofShare
  rw [hshare, Option.map_some]
  simp only [hone, hlimit]

theorem ofShare_of_lt {r : ℚ} (h : r < 1) : ofShare r = below ⌊r * 2 ^ 64⌋₊ :=
  if_neg h.ne

/-- What lives with a chance lives with a greater one. -/
theorem cell_ofShare_mono {r r' : ℚ} (hle : r ≤ r') (hone : r' ≤ 1) (source : σ) (i : Nat)
    (halive : (ofShare r).cell source i = true) : (ofShare r').cell source i = true := by
  rcases hone.lt_or_eq with hlt | rfl
  · rw [ofShare_of_lt (hle.trans_lt hlt), cell_below, decide_eq_true_eq] at halive
    rw [ofShare_of_lt hlt, cell_below, decide_eq_true_eq]
    refine halive.trans_le (Nat.floor_le_floor ?_)
    exact mul_le_mul_of_nonneg_right hle (by norm_num)
  · rfl

end Chance

/-! ### Grids -/

namespace Grid

variable {σ : Type} [WordSource σ]

/-- The grid whose cells are drawn with a chance. -/
def drawn (g : Grid) (c : Chance) (source : σ) : Grid :=
  { g with cells := Vector.ofFn fun i => c.cell source i.val }

@[simp] theorem size_drawn (g : Grid) (c : Chance) (source : σ) :
    (g.drawn c source).size = g.size := rfl

theorem isAlive_drawn (g : Grid) (c : Chance) (source : σ) (x y : Nat) :
    (g.drawn c source).isAlive x y = c.cell source (g.size.index x y).val :=
  Vector.getElem_ofFn _

theorem toList_drawn (g : Grid) (c : Chance) (source : σ) :
    (g.drawn c source).cells.toList = (List.range g.size.area).map (c.cell source) := by
  show (Vector.ofFn fun i : Fin g.size.area => c.cell source i.val).toList = _
  exact List.ext_getElem (by simp) fun i hi hi' => by simp

/-- If all draws come out the same, so are all cells. -/
theorem aliveCount_drawn {g : Grid} {c : Chance} {source : σ} (alive : Bool)
    (h : ∀ i, c.cell source i = alive) :
    (g.drawn c source).aliveCount = if alive then g.size.area else 0 := by
  have hcells : (g.drawn c source).cells.toList = List.replicate g.size.area alive := by
    rw [toList_drawn, List.eq_replicate_iff]
    simp [h]
  unfold aliveCount
  rw [← Vector.count_toList, hcells, List.count_replicate]
  cases alive <;> rfl

theorem randomize_of_isNaN (g : Grid) {p : Binary64} (h : p.isNaN = true) (source : σ) :
    g.randomize p source = none := by
  unfold randomize
  rw [Chance.ofRatio?_of_isNaN h]
  rfl

theorem randomize_eq_some (g : Grid) {p : Binary64} (h : p.isNaN = false) (source : σ) :
    g.randomize p source
      = some (g.drawn (.ofShare p.clamped) source,
          (Chance.ofShare p.clamped).after source g.size.area) := by
  obtain ⟨hcells, hrest⟩ := (Chance.ofShare p.clamped).drawMany_eq g.size.area source
  have hdrawn : ((Chance.ofShare p.clamped).drawMany g.size.area source).1
      = (g.drawn (.ofShare p.clamped) source).cells :=
    Vector.toList_inj.mp (hcells.trans (g.toList_drawn _ source).symm)
  unfold randomize
  rw [Chance.ofRatio?_eq_some h, Option.map_some]
  simp only [hdrawn, hrest]
  rfl

end Grid

/-! ### Cell by cell -/

namespace StoredGrid

variable {σ : Type} [WordSource σ]

/-- Cells that can be drawn are drawn one after the other, whatever they were. -/
theorem drawCells_eq {p : Binary64} {c : Chance} (h : Chance.ofRatio? p = some c)
    (cells : List Bool) (source : σ) :
    drawCells p cells source
      = (none, (List.range cells.length).map (c.cell source), c.after source cells.length) := by
  induction cells generalizing source with
  | nil => rfl
  | cons cell rest ih =>
      rw [drawCells, h]
      simp only [ih]
      rw [List.length_cons, List.range_succ_eq_map, List.map_cons, List.map_map]
      rfl

/-- The first cell that cannot be drawn stops the work. -/
theorem drawCells_of_isNaN {p : Binary64} (h : p.isNaN = true) (cell : Bool) (rest : List Bool)
    (source : σ) :
    drawCells p (cell :: rest) source = (some .notANumber, cell :: rest, source) := by
  rw [drawCells, Chance.ofRatio?_of_isNaN h]

end StoredGrid

namespace Grid

variable {σ : Type} [WordSource σ]

theorem stored_size (g : Grid) : g.stored.cells.size = g.size.area :=
  g.cells.size_toArray

/-- A stored grid draws what the grid draws. -/
theorem stored_randomize (g : Grid) {p : Binary64} (h : p.isNaN = false) (source : σ) :
    g.stored.randomize p source
      = (none, (g.drawn (.ofShare p.clamped) source).stored,
          (Chance.ofShare p.clamped).after source g.size.area) := by
  have hcells : ((List.range g.size.area).map ((Chance.ofShare p.clamped).cell source)).toArray
      = (g.drawn (.ofShare p.clamped) source).cells.toArray := by
    rw [← toList_drawn]
    rfl
  have hlength : g.stored.cells.toList.length = g.size.area := g.stored_size
  simp only [StoredGrid.randomize, StoredGrid.drawCells_eq (Chance.ofRatio?_eq_some h), hlength,
    hcells]
  rfl

/-- A ratio that is no number stops a stored grid before anything is drawn. -/
theorem stored_randomize_of_isNaN (g : Grid) {p : Binary64} (h : p.isNaN = true) (source : σ) :
    g.stored.randomize p source = (some .notANumber, g.stored, source) := by
  have hpos : 0 < g.stored.cells.toList.length := by
    rw [Array.length_toList, stored_size]
    exact Nat.zero_lt_of_lt (g.size.index 0 0).isLt
  obtain ⟨cell, rest, hcells⟩ := List.exists_cons_of_length_pos hpos
  simp only [StoredGrid.randomize, hcells, StoredGrid.drawCells_of_isNaN h]
  rw [← hcells]

/--
**A greater ratio lets live what a smaller one does.**  Two draws from one source, with two ratios
that are numbers, differ only in cells that live with the greater one; it is enough that the ratios
are in order once clamped (`Binary64.clamped_mono`).  A ratio below one takes one word for each
cell, row by row, and the cell lives if the word is below that share of all words, rounded down; a
ratio of one takes none.  What the cells were before does not matter, with nothing or less nothing
lives, and with one or more everything does.  A stored grid draws the same cells, and what is no
number stops it with no word drawn and no cell changed.
-/
theorem randomize_coupled {σ : Type} [WordSource σ] (g : Grid) (source : Counted σ) :
    (∀ p q : Binary64, p.isNaN = false → q.isNaN = false → p.clamped ≤ q.clamped →
      ∃ (g₁ g₂ : Grid) (rest₁ rest₂ : Counted σ), g.randomize p source = some (g₁, rest₁) ∧
        g.randomize q source = some (g₂, rest₂) ∧
        ∀ x y, g₁.isAlive x y = true → g₂.isAlive x y = true) ∧
    (∀ p : Binary64, p.isNaN = false → ∃ (g' : Grid) (rest : Counted σ),
      (∀ cells, randomize { g with cells } p source = some (g', rest) ∧
        (stored { g with cells }).randomize p source = (none, g'.stored, rest)) ∧
      g'.size = g.size ∧ g'.generation = g.generation ∧
      (p.clamped < 1 → rest = WordSource.skip source (g.size.width * g.size.height) ∧
        rest.drawn = source.drawn + g.size.width * g.size.height ∧
        ∀ x y, x < g.size.width → y < g.size.height → (g'.isAlive x y = true ↔
          (WordSource.word source (y * g.size.width + x)).toNat < ⌊p.clamped * 2 ^ 64⌋₊)) ∧
      (p.clamped = 1 → rest = source) ∧
      (p.value ≤ 0 → g'.aliveCount = 0) ∧
      (1 ≤ p.value → g'.aliveCount = g.size.width * g.size.height)) ∧
    (∀ p : Binary64, p.isNaN = true → g.randomize p source = none ∧
      g.stored.randomize p source = (some .notANumber, g.stored, source)) := by
  refine ⟨?_, ?_, fun p hp =>
    ⟨g.randomize_of_isNaN hp source, g.stored_randomize_of_isNaN hp source⟩⟩
  · intro p q hp hq hle
    refine ⟨_, _, _, _, g.randomize_eq_some hp source, g.randomize_eq_some hq source, ?_⟩
    intro x y halive
    rw [isAlive_drawn] at halive ⊢
    exact Chance.cell_ofShare_mono hle q.clamped_le_one source _ halive
  · intro p hp
    have harea : g.size.area = g.size.width * g.size.height := Nat.mul_comm _ _
    refine ⟨g.drawn (.ofShare p.clamped) source,
      (Chance.ofShare p.clamped).after source g.size.area,
      fun cells => ⟨randomize_eq_some { g with cells } hp source,
        stored_randomize { g with cells } hp source⟩, rfl, rfl, ?_, ?_, ?_, ?_⟩
    · intro hlt
      rw [Chance.ofShare_of_lt hlt, Chance.after_below, ← harea]
      refine ⟨rfl, by rw [WordSource.skip_counted], fun x y hx hy => ?_⟩
      rw [isAlive_drawn, Chance.cell_below, decide_eq_true_eq, g.size.index_of_lt hx hy]
    · intro hone
      rw [hone]
      exact Chance.after_certain source _
    · intro hnonpos
      refine aliveCount_drawn false fun i => ?_
      rw [Binary64.clamped_of_nonpos hnonpos, Chance.ofShare_of_lt zero_lt_one, Chance.cell_below]
      simp
    · intro hone
      rw [← harea, Binary64.clamped_of_one_le hone]
      exact aliveCount_drawn true fun i => rfl

/-- Two cells with the words 0 and two to the power 63: with a quarter one of them lives, with three
quarters both. -/
theorem randomize_coupled_quarters :
    let words : WordStream := ⟨fun i => if i = 0 then 0 else 0x8000000000000000⟩
    let source : Counted WordStream := { source := words }
    let g := dead ⟨2, 1, by decide, by decide, by decide, by decide⟩
    let quarter : Binary64 := ⟨0x3FD0000000000000⟩
    let threeQuarters : Binary64 := ⟨0x3FE8000000000000⟩
    (quarter.isNaN = false ∧ threeQuarters.isNaN = false ∧
        quarter.clamped ≤ threeQuarters.clamped ∧ Binary64.nan.isNaN = true) ∧
      ∃ (g₁ g₂ : Grid) (rest₁ rest₂ : Counted WordStream),
        g.randomize quarter source = some (g₁, rest₁) ∧
        g.randomize threeQuarters source = some (g₂, rest₂) ∧
        (∀ x y, g₁.isAlive x y = true → g₂.isAlive x y = true) ∧
        (g₁.aliveCount, rest₁.drawn) = (1, 2) ∧ (g₂.aliveCount, rest₂.drawn) = (2, 2) ∧
        g.randomize .nan source = none := by
  intro words source g quarter threeQuarters
  have hquarter : quarter.isNaN = false := by decide +kernel
  have hthree : threeQuarters.isNaN = false := by decide +kernel
  have hvalue : quarter.value ≤ threeQuarters.value := by decide +kernel
  have hle := Binary64.clamped_mono hvalue
  have hnan : Binary64.nan.isNaN = true := by decide +kernel
  obtain ⟨hcoupled, -, hstopped⟩ := randomize_coupled g source
  obtain ⟨g₁, g₂, rest₁, rest₂, h₁, h₂, hmore⟩ := hcoupled quarter threeQuarters hquarter hthree hle
  have hone : (g.randomize quarter source).map (fun r => (r.1.aliveCount, r.2.drawn))
      = some (1, 2) := by decide +kernel
  have htwo : (g.randomize threeQuarters source).map (fun r => (r.1.aliveCount, r.2.drawn))
      = some (2, 2) := by decide +kernel
  rw [h₁] at hone
  rw [h₂] at htwo
  exact ⟨⟨hquarter, hthree, hle, hnan⟩, g₁, g₂, rest₁, rest₂, h₁, h₂, hmore,
    Option.some.inj hone, Option.some.inj htwo, (hstopped .nan hnan).1⟩

end Grid

end Lifecast
