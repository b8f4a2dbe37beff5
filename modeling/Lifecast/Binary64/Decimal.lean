/-
Floating-point numbers written in decimal.

A text is read as one sign if any, then digits with at most one point among them and
at least one digit in all, then an exponent of ten if any.  `inf`, `infinity` and
`nan`, in letters of either case, are read as well.  The number is the floating-point
number nearest to what is written, however many digits that takes.
-/
import Lifecast.Binary64.Basic

namespace Lifecast

namespace Binary64

/-- A decimal number without a sign: digits times a power of ten. -/
structure Decimal where
  digits : Nat
  power : Int
deriving DecidableEq, Repr

/-- The number that some decimal digits write. -/
def digitsValue (cs : List Char) : Nat :=
  cs.foldl (fun n c => n * 10 + (c.toNat - '0'.toNat)) 0

/-- Read an exponent of ten behind its letter. -/
def exponent? (cs : List Char) : Option Int :=
  let (negative, digits) := match cs with
    | '-' :: rest => (true, rest)
    | '+' :: rest => (false, rest)
    | cs => (false, cs)
  if digits.isEmpty || !digits.all Char.isDigit then none
  else if negative then some (-(digitsValue digits : Int))
  else some (digitsValue digits)

/-- Read a decimal number without a sign. -/
def decimal? (cs : List Char) : Option Decimal := do
  let whole := cs.takeWhile Char.isDigit
  let (places, rest) := match cs.dropWhile Char.isDigit with
    | '.' :: cs => (cs.takeWhile Char.isDigit, cs.dropWhile Char.isDigit)
    | cs => ([], cs)
  if whole.isEmpty && places.isEmpty then
    none
  let exponent ← match rest with
    | [] => some 0
    | c :: cs => if c = 'e' ∨ c = 'E' then exponent? cs else none
  return { digits := digitsValue (whole ++ places), power := exponent - places.length }

/-- The floating-point number nearest to a decimal number.  What lies beyond the
exponents tested for is infinite or zero in any case. -/
def ofDecimal (d : Decimal) : Binary64 :=
  let size : Int := (Nat.toDigits 10 d.digits).length + d.power
  if d.digits = 0 ∨ size < -330 then ⟨0⟩
  else if 310 < size then infinity
  else if 0 ≤ d.power then ofQuotient (d.digits * Nat.pow 10 d.power.toNat) 1
  else ofQuotient d.digits (Nat.pow 10 (-d.power).toNat)

/-- Read a number without a sign, or a word that stands for none. -/
def unsigned? (cs : List Char) : Option Binary64 :=
  let word := String.ofList (cs.map Char.toLower)
  if word = "inf" ∨ word = "infinity" then some infinity
  else if word = "nan" then some nan
  else (decimal? cs).map ofDecimal

/-- The floating-point number that a text writes. -/
def ofText? (s : String) : Option Binary64 :=
  match s.toList with
  | '-' :: cs => (unsigned? cs).map negated
  | '+' :: cs => unsigned? cs
  | cs => unsigned? cs

end Binary64

end Lifecast
