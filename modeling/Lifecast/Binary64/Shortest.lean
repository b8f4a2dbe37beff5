/-
The shortest decimal that reads back as a given floating-point number.

The reals that round to a number form an interval around it, whose ends lie halfway to
its neighbours and belong to it if its last bit is even.  Of all decimals in that
interval those with the fewest digits are wanted, of these the one nearest to the
number, and of two equally near the greater.

For each count of digits the decimals with that many digits form a grid, and if any
point of the grid lies in the interval, one of the two around the number does.
Seventeen digits always suffice.

Numbers are written out in full, without an exponent.
-/
import Lifecast.Binary64.Basic

namespace Lifecast

namespace Binary64

/-- What rounds to a number, all in units of two to the power -1075. -/
structure Rounding where
  /-- Twice the number itself. -/
  value : Nat
  /-- The lower end. -/
  low : Nat
  /-- The upper end. -/
  high : Nat
  /-- Do the ends belong to it? -/
  closed : Bool
deriving DecidableEq, Repr

/-- The interval of a positive finite number. -/
def rounding (x : Binary64) : Rounding :=
  { value := 2 * x.magnitude
    low := x.magnitude + magnitude ⟨x.bits - 1⟩
    high := x.magnitude + magnitude ⟨x.bits + 1⟩
    closed := x.bits % 2 == 0 }

/-- A digit string with a power of ten. -/
structure Digits where
  digits : Nat
  power : Int
deriving DecidableEq, Repr

/-- The same decimal without zeros at its end. -/
def Digits.reduced (d : Digits) : Digits :=
  if _h : 0 < d.digits ∧ d.digits % 10 = 0 then
    reduced { digits := d.digits / 10, power := d.power + 1 }
  else d
termination_by d.digits
decreasing_by omega

namespace Rounding

/-- The number 1 in units of two to the power -1075. -/
def one : Nat := 2 * unit

/-- The quotient of one grid step and the unit, as numerator and denominator. -/
def gridStep (power : Int) : Nat × Nat :=
  if 0 ≤ power then (Nat.pow 10 power.toNat * one, 1) else (one, Nat.pow 10 (-power).toNat)

/-- Does a point of the grid lie in the interval? -/
def holds (r : Rounding) (power : Int) (point : Nat) : Bool :=
  let (step, scale) := gridStep power
  if r.closed then r.low * scale ≤ point * step && point * step ≤ r.high * scale
  else r.low * scale < point * step && point * step < r.high * scale

/-- The point of the grid that lies in the interval, the nearer of two. -/
def onGrid? (r : Rounding) (power : Int) : Option Digits :=
  let (step, scale) := gridStep power
  let below := r.value * scale / step
  let pick (point : Nat) : Option Digits := some { digits := point, power }
  match r.holds power below, r.holds power (below + 1) with
  | true, false => pick below
  | false, true => pick (below + 1)
  | true, true =>
    if 2 * (r.value * scale) < (2 * below + 1) * step then pick below else pick (below + 1)
  | false, false => none

/-- The power of ten of the first digit. -/
def leading (r : Rounding) : Int :=
  if one ≤ r.value then (Nat.toDigits 10 (r.value / one)).length - 1
  else
    match (List.range 325).find? fun k => one ≤ r.value * Nat.pow 10 k with
    | some k => -k
    | none => -325

/-- The shortest decimal in the interval.  Next to a power of ten the grid may offer
that power itself, with one digit more than it needs. -/
def shortest (r : Rounding) : Digits :=
  let grids := (List.range 17).map fun n => r.leading - Int.ofNat n
  ((grids.findSome? r.onGrid?).getD { digits := r.value, power := 0 }).reduced

end Rounding

/-- Digits written out in full. -/
def Digits.plain (d : Digits) : List Char :=
  let digits := Nat.toDigits 10 d.digits
  if 0 ≤ d.power then digits ++ List.replicate d.power.toNat '0'
  else
    let places := (-d.power).toNat
    let padded := List.replicate (places + 1 - digits.length) '0' ++ digits
    padded.take (padded.length - places) ++ '.' :: padded.drop (padded.length - places)

/-- The number as text. -/
def text (x : Binary64) : String :=
  if x.isNaN then "NaN"
  else
    let size : Binary64 := ⟨x.bits &&& 0x7FFFFFFFFFFFFFFF⟩
    let digits :=
      if x.isInfinite then "inf"
      else if x.magnitude = 0 then "0"
      else String.ofList size.rounding.shortest.plain
    if x.isNegative then "-" ++ digits else digits

end Binary64

end Lifecast
