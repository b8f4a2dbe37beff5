/-
Names of hosts.

A name is a list of labels with dots between them, and one dot may end it.  What looks
like a number or several may be an IPv4 address in its short form: one to four numbers,
each of which fills one byte but for the last one, which fills all that are left.
-/
import Lifecast.Net.Address

namespace Lifecast

/-- Why nobody is found under a name. -/
inductive NameFault where
  /-- It cannot be a name. -/
  | notAName
  /-- Nobody answers for it. -/
  | noAnswer
deriving DecidableEq, Repr

namespace NameFault

/-- The fault in words. -/
def message : NameFault → String
  | notAName => "failed to lookup address information: Name or service not known"
  | noAnswer => "failed to lookup address information: Temporary failure in name resolution"

end NameFault

/-! ### Names -/

/-- May the character stand in a name? -/
def isNameChar (c : Char) : Bool :=
  c.isAlphanum || c == '-' || c == '_'

/-- The longest label. -/
def maxLabelLength : Nat := 63

/-- May the text stand between two dots? -/
def isLabel (cs : List Char) : Bool :=
  !cs.isEmpty && cs.length ≤ maxLabelLength && cs.all isNameChar

/-- The labels of a name.  The name of the root, a dot alone, has none. -/
def labelsOf (cs : List Char) : List (List Char) :=
  if cs = ['.'] then []
  else if cs.getLast? = some '.' then cs.dropLast.splitOn '.'
  else cs.splitOn '.'

/-- How many bytes a name takes in a question to a name server: each label has its
length in front, and a zero closes the name. -/
def questionLength (labels : List (List Char)) : Nat :=
  labels.foldl (fun n label => n + label.length + 1) 1

/-- The longest name in a question. -/
def maxQuestionLength : Nat := 255

/-- Can the text be the name of a host? -/
def isHostName (cs : List Char) : Bool :=
  cs.head? != some '-' && (labelsOf cs).all isLabel && questionLength (labelsOf cs) ≤ maxQuestionLength

/-! ### Short addresses -/

namespace Ipv4

/-- A number in base sixteen behind `0x`, in base eight behind `0`, else in base
ten. -/
def looseNumber? (cs : List Char) : Option Nat :=
  let (base, digits) := match cs with
    | '0' :: 'x' :: rest => (16, rest)
    | '0' :: 'X' :: rest => (16, rest)
    | '0' :: rest => (8, '0' :: rest)
    | cs => (10, cs)
  if digits.isEmpty then none
  else
    digits.foldlM (fun n c => do
      let d ← hexValue? c
      if d < base then some (n * base + d) else none) 0

/-- Add the parts of an address in its short form: each fills one byte, the last one
all bytes that are left. -/
def ofParts? (bytesLeft value : Nat) : List Nat → Option Nat
  | [] => none
  | [last] =>
    if last < Nat.pow 256 bytesLeft then some (value * Nat.pow 256 bytesLeft + last) else none
  | part :: rest => if part < 256 then ofParts? (bytesLeft - 1) (value * 256 + part) rest else none

/-- The address that a text in the short form is. -/
def ofShortText? (cs : List Char) : Option Ipv4 := do
  let parts ← (cs.splitOn '.').mapM looseNumber?
  if 4 < parts.length then none
  else
    let n ← ofParts? 4 0 parts
    return ⟨UInt8.ofNat (n / 0x1000000), UInt8.ofNat (n / 0x10000), UInt8.ofNat (n / 0x100),
      UInt8.ofNat n⟩

end Ipv4

end Lifecast
