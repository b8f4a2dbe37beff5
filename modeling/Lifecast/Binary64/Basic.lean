/-
Floating-point numbers of 64 bits, exactly.

A number is kept as its bits: a sign, eleven bits of exponent and 52 bits of
fraction.  Every finite one is a whole multiple of the least positive number, two to
the power -1074, so its size is a natural number of such units and can be compared,
scaled and rounded without loss.
-/

namespace Lifecast

/-- A floating-point number of 64 bits. -/
structure Binary64 where
  bits : UInt64
deriving DecidableEq, Repr

namespace Binary64

/-- Is the sign bit set? -/
def isNegative (x : Binary64) : Bool :=
  Nat.pow 2 63 ≤ x.bits.toNat

/-- The eleven bits of the exponent. -/
def exponent (x : Binary64) : Nat :=
  x.bits.toNat / Nat.pow 2 52 % Nat.pow 2 11

/-- The 52 bits of the fraction. -/
def fraction (x : Binary64) : Nat :=
  x.bits.toNat % Nat.pow 2 52

/-- Is it no number? -/
def isNaN (x : Binary64) : Bool :=
  x.exponent == 2047 && x.fraction != 0

/-- Is it infinite? -/
def isInfinite (x : Binary64) : Bool :=
  x.exponent == 2047 && x.fraction == 0

/-- The size of the number, without its sign, in units of two to the power -1074.
Infinity comes out larger than all others. -/
def magnitude (x : Binary64) : Nat :=
  if x.exponent = 0 then x.fraction else (Nat.pow 2 52 + x.fraction) * Nat.pow 2 (x.exponent - 1)

/-- The number 1, in units of two to the power -1074. -/
def unit : Nat := Nat.pow 2 1074

/-- Does the number lie between 0 and 1, both included? -/
def isRatio (x : Binary64) : Bool :=
  !x.isNaN && (x.magnitude == 0 || (!x.isNegative && x.magnitude ≤ unit))

/-- The number moved to the nearer end of the range from 0 to 1 if it lies outside,
in units of two to the power -1074; `none` if it is no number. -/
def share? (x : Binary64) : Option Nat :=
  if x.isNaN then none
  else if x.isNegative then some 0
  else some (min x.magnitude unit)

/-- Infinity. -/
def infinity : Binary64 := ⟨0x7FF0000000000000⟩

/-- What is no number. -/
def nan : Binary64 := ⟨0x7FF8000000000000⟩

/-- The number with its sign bit set. -/
def negated (x : Binary64) : Binary64 :=
  ⟨x.bits ||| 0x8000000000000000⟩

/-- The quotient `n / d` as a whole number: the nearest one, of two equally near the
even one. -/
def roundedQuotient (n d : Nat) : Nat :=
  let q := n / d
  let twice := 2 * (n % d)
  if d < twice ∨ (twice = d ∧ q % 2 = 1) then q + 1 else q

/-- The positive number nearest to `n / d`, of two equally near the one with an even
fraction.  The bits of a positive number, read as a whole number, are its exponent
step times two to the power 52 plus its significand, also where rounding carries into
the next step. -/
def ofQuotient (n d : Nat) : Binary64 :=
  let step := Nat.log2 (n * unit / d) - 52
  let bits := step * Nat.pow 2 52 + roundedQuotient (n * unit) (d * Nat.pow 2 step)
  if 2047 * Nat.pow 2 52 ≤ bits then infinity else ⟨UInt64.ofNat bits⟩

end Binary64

end Lifecast
