/-
The grid size of a producer.

A size is written as width and height with an `x` of either case between them.  The
text is split at the first such letter, blanks around the text and around either side
do not count, and each side lies between `leastSide` and `greatestSide`.  Such a size
is always one that a grid can have.
-/
import Lifecast.Life.Size
import Lifecast.Numeral
import Lifecast.Text.Blank

namespace Lifecast

/-- The shortest side that a producer takes. -/
def leastSide : Nat := 10

/-- The longest side that a producer takes. -/
def greatestSide : Nat := 200

/-- A grid size that a producer takes. -/
structure GridSize where
  width : Nat
  height : Nat
  width_mem : leastSide ≤ width ∧ width ≤ greatestSide
  height_mem : leastSide ≤ height ∧ height ≤ greatestSide
deriving DecidableEq, Repr

/-- Why a text is no grid size. -/
inductive GridSizeFault where
  /-- There is no separator in the text. -/
  | noSeparator (text : String)
  /-- A side is not a number. -/
  | notANumber (side : String)
  /-- A side is too short or too long. -/
  | outOfRange (side : Nat)
deriving DecidableEq, Repr

namespace GridSizeFault

/-- The fault in words. -/
def message : GridSizeFault → String
  | noSeparator text => s!"expected WIDTHxHEIGHT, got '{text}'"
  | notANumber side => s!"'{side}' is not a number"
  | outOfRange side => s!"grid side {side} outside {leastSide}..={greatestSide}"

end GridSizeFault

namespace GridSize

/-- A side in range. -/
abbrev Side : Type := { n : Nat // leastSide ≤ n ∧ n ≤ greatestSide }

/-- Does the character stand between the sides? -/
def isSeparator (c : Char) : Bool :=
  c == 'x' || c == 'X'

/-- Read one side. -/
def side (cs : List Char) : Except GridSizeFault Side :=
  match Numeral.readNat Numeral.maxWord (Text.trim cs) with
  | .error _ => .error (.notANumber (String.ofList cs))
  | .ok n =>
    if h : leastSide ≤ n ∧ n ≤ greatestSide then .ok ⟨n, h⟩ else .error (.outOfRange n)

/-- Read a size, the width before the height. -/
def ofText (s : String) : Except GridSizeFault GridSize :=
  let cs := Text.trim s.toList
  match cs.dropWhile (!isSeparator ·) with
  | [] => .error (.noSeparator s)
  | _ :: second => do
    let width ← side (cs.takeWhile (!isSeparator ·))
    let height ← side second
    return ⟨width.val, height.val, width.property, height.property⟩

/-- The size as text. -/
def text (s : GridSize) : String :=
  s!"{s.width}x{s.height}"

/-- The size as that of a grid. -/
def size (s : GridSize) : Size where
  width := s.width
  height := s.height
  width_pos := Nat.lt_of_lt_of_le (by decide) s.width_mem.1
  height_pos := Nat.lt_of_lt_of_le (by decide) s.height_mem.1
  width_le := Nat.le_trans s.width_mem.2 (by decide)
  height_le := Nat.le_trans s.height_mem.2 (by decide)

/-- The size used when none is given. -/
def standard : GridSize := ⟨40, 20, by decide, by decide⟩

end GridSize

end Lifecast
