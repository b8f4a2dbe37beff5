/-
Whole numbers written in decimal.

One sign may stand in front and at least one digit has to follow; leading zeros are
allowed.  The digits are taken from the left, and the first fault met is the one
reported: a character that is no digit, or the digit that takes the value past what
the number may hold.
-/

namespace Lifecast

/-- What is wrong with a numeral. -/
inductive NumeralFault where
  /-- There is nothing to read. -/
  | empty
  /-- A character is not a digit, or a sign stands alone. -/
  | badDigit
  /-- The value is above the greatest one allowed. -/
  | tooLarge
  /-- The value is below the least one allowed. -/
  | tooSmall
deriving DecidableEq, Repr

namespace NumeralFault

/-- The fault in words. -/
def message : NumeralFault → String
  | empty => "cannot parse integer from empty string"
  | badDigit => "invalid digit found in string"
  | tooLarge => "number too large to fit in target type"
  | tooSmall => "number too small to fit in target type"

end NumeralFault

namespace Numeral

/-- The value of a decimal digit. -/
def digitValue (c : Char) : Nat :=
  c.toNat - '0'.toNat

/-- Read the digits behind a value already read, up to `limit`. -/
def readDigits (limit : Nat) (past : NumeralFault) (value : Nat) :
    List Char → Except NumeralFault Nat
  | [] => .ok value
  | c :: rest =>
    if !c.isDigit then .error .badDigit
    else if limit < value * 10 + digitValue c then .error past
    else readDigits limit past (value * 10 + digitValue c) rest

/-- Read a number from 0 to `limit`.  A plus sign may stand in front. -/
def readNat (limit : Nat) : List Char → Except NumeralFault Nat
  | [] => .error .empty
  | ['+'] => .error .badDigit
  | '+' :: digits => readDigits limit .tooLarge 0 digits
  | digits => readDigits limit .tooLarge 0 digits

/-- Read a number from `-(limit + 1)` to `limit`. -/
def readInt (limit : Nat) : List Char → Except NumeralFault Int
  | ['-'] => .error .badDigit
  | '-' :: digits => do return -(← readDigits (limit + 1) .tooSmall 0 digits)
  | cs => do return ← readNat limit cs

/-- The greatest number of 64 bits. -/
def maxWord : Nat := Nat.pow 2 64 - 1

/-- The greatest number of 64 bits with a sign. -/
def maxSigned : Nat := Nat.pow 2 63 - 1

end Numeral

end Lifecast
