/-
Escapes of a pattern.

A backslash takes its meaning from a sign, and gives one to a letter: a character
without a sign of its own, a character by its number, the characters with a property,
a class of characters, or a place.
-/
import Lifecast.Net.Address
import Lifecast.ValuePattern.Cursor

namespace Lifecast

namespace ValuePattern

open Read

/-- May the character stand behind a backslash for itself?  All signs of ASCII may,
except those for the edges of words. -/
def isEscapable (c : Char) : Bool :=
  c.toNat < 0x80 && !c.isAlphanum && c != '<' && c != '>'

/-- The number that hexadecimal digits write. -/
def hexNumber (digits : List Char) : Nat :=
  digits.foldl (fun n c => n * 16 + (hexValue? c).getD 0) 0

/-- Is the character a hexadecimal digit? -/
def isHexDigit (c : Char) : Bool :=
  (hexValue? c).isSome

/-- Read a number of hexadecimal digits. -/
def readHexDigits : Nat → Read (List Char)
  | 0 => return []
  | n + 1 => do
    match (← peek) with
    | none => failHere .escapeOpen
    | some c =>
      if !isHexDigit c then failAt .badHexDigit (← nextSpan)
      discard advance
      return c :: (← readHexDigits n)

/-- The character with a number. -/
def characterOf (digits : List Char) (span : Span) : Read Char := do
  let n := hexNumber digits
  if n.isValidChar then return Char.ofNat n else failAt .badHex span

/-- Read a character's number between braces. -/
def readBracedHex : Read Char := do
  let brace ← place
  let start := (← nextSpan).stop
  discard advance
  let digits ← takeWhile isHexDigit
  match (← peek) with
  | none => failFrom .escapeOpen brace
  | some '\x7d' =>
    let stop ← place
    discard advance
    if digits.isEmpty then failFrom .noHex brace
    characterOf digits ⟨start, stop⟩
  | some _ => failAt .badHexDigit (← nextSpan)

/-- Read a character by its number, from the letter on that says how many digits the
number has. -/
def readCharacter (start : Position) (digits : Nat) : Read Literal := do
  unless (← advance) do failHere .escapeOpen
  if (← peek) = some '\x7b' then
    let char ← readBracedHex
    return { span := ⟨start, ← place⟩, char }
  else
    let first ← place
    let written ← readHexDigits digits
    let char ← characterOf written ⟨first, ← place⟩
    return { span := ⟨start, ← place⟩, char, isByte := digits = 2 }

/-- Read a property, from its letter on: a name of one letter, or one between
braces. -/
def readProperty (start : Position) : Read Atom := do
  unless (← advance) do failHere .escapeOpen
  if (← peek) = some '\x7b' then
    discard advance
    discard (takeWhile (· != '\x7d'))
    if (← atEnd) then failHere .escapeOpen
    pass
  else
    if (← peek) = some '\\' then failAt .badProperty (← nextSpan)
    discard advance
  return .property ⟨start, ← place⟩

/-- The names that may stand in braces behind the edge of a word. -/
def edgeNames : List String := ["start", "end", "start-half", "end-half"]

/-- May the character stand in such a name? -/
def isEdgeChar (c : Char) : Bool :=
  c.isAlpha || c == '-'

/-- Read what may follow the edge of a word in braces.  Where no such name begins, the
brace is left for a count. -/
def readEdge (start : Position) : Read Atom := do
  let before ← get
  if before.rest.head? = some '\x7b' then
    unless (← advance) do failFrom .edgeOrCountOpen start
    let first ← place
    if (← peek).any isEdgeChar then
      let name ← takeWhile isEdgeChar
      if (← peek) != some '\x7d' then failFrom .edgeOpen before.place
      if !edgeNames.contains (String.ofList name) then failFrom .badEdge first
      pass
    else set before
  return .place ⟨start, ← place⟩ true

/-- The characters without a sign of their own, by their letters. -/
def letterEscapes : List (Char × Char) :=
  [('a', '\x07'), ('f', '\x0c'), ('t', '\t'), ('n', '\n'), ('r', '\r'), ('v', '\x0b')]

/-- Read an escape, from its backslash on. -/
def readEscape : Read Atom := do
  let start ← place
  pass
  match (← peek) with
  | none => failFrom .escapeOpen start
  | some 'x' => return .literal (← readCharacter start 2)
  | some 'u' => return .literal (← readCharacter start 4)
  | some 'U' => return .literal (← readCharacter start 8)
  | some 'p' | some 'P' => readProperty start
  | some c =>
    pass
    let span : Span := ⟨start, ← place⟩
    if c.isDigit then failAt .backReference span
    else if "dsw".contains c then return .shorthand span false
    else if "DSW".contains c then return .shorthand span true
    else if isEscapable c then return .literal { span, char := c }
    else if c = 'b' then readEdge start
    else if "B<>".contains c then return .place span true
    else if "Az".contains c then return .place span false
    else match letterEscapes.lookup c with
      | some char => return .literal { span, char }
      | none => failAt .badEscape span

end ValuePattern

end Lifecast
