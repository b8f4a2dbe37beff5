/-
Random grids.

Each cell is alive with the same chance, given as a floating-point number and moved
into the range from 0 to 1 first.  A cell lives if a random word falls below that
share of all words.  A chance of 1 is certain and takes no words at all, so a grid
takes either one word for each cell or none.
-/
import Lifecast.Binary64.Basic
import Lifecast.Life.Grid
import Lifecast.Random.WordSource

namespace Lifecast

/-- With what chance a cell lives. -/
inductive Chance where
  /-- It lives in any case. -/
  | certain
  /-- It lives if a random word is below the limit. -/
  | below (limit : Nat)
deriving DecidableEq, Repr

namespace Chance

/-- The chance that a fill ratio gives; none if it is no number. -/
def ofRatio? (ratio : Binary64) : Option Chance :=
  ratio.share?.map fun share =>
    if share = Binary64.unit then certain else below (share * Nat.pow 2 64 / Binary64.unit)

variable {σ : Type} [WordSource σ]

/-- Draw one cell. -/
def draw (c : Chance) (source : σ) : Bool × σ :=
  match c with
  | certain => (true, source)
  | below limit =>
    let (word, source) := WordSource.next source
    (decide (word.toNat < limit), source)

/-- Draw cells behind those already drawn until there are `total`. -/
def drawOnto (c : Chance) (total : Nat) {drawn : Nat} (cells : Vector Bool drawn) (source : σ) :
    (missing : Nat) → drawn + missing = total → Vector Bool total × σ
  | 0, h => (cells.cast h, source)
  | missing + 1, h =>
    let (cell, source) := c.draw source
    drawOnto c total (cells.push cell) source missing (by omega)

/-- Draw some cells. -/
def drawMany (c : Chance) (n : Nat) (source : σ) : Vector Bool n × σ :=
  c.drawOnto n #v[] source n (Nat.zero_add n)

end Chance

/-- Replace all cells by cells drawn with a fill ratio; `none` if the ratio is no
number. -/
def Grid.randomize {σ : Type} [WordSource σ] (g : Grid) (ratio : Binary64) (source : σ) :
    Option (Grid × σ) :=
  (Chance.ofRatio? ratio).map fun chance =>
    let (cells, source) := chance.drawMany g.size.area source
    ({ g with cells }, source)

end Lifecast
