/-
The reading of a pattern from left to right.

The reader keeps what is left of the pattern and where that starts, whether blanks and
comments are skipped, and which names groups have so far.  A comment extends from `#`
to the end of its line.
-/
import Lifecast.Text.Blank
import Lifecast.ValuePattern.Basic

namespace Lifecast

namespace ValuePattern

/-- Where the reading of a pattern stands. -/
structure Cursor where
  /-- What is left. -/
  rest : List Char
  /-- Where that starts. -/
  place : Position := {}
  /-- Are blanks and comments skipped? -/
  spaced : Bool := false
  /-- The names of groups so far, and where they stand. -/
  names : List (List Char × Span) := []
deriving Repr

/-- A step in the reading of a pattern. -/
abbrev Read := StateT Cursor (Except Fault)

namespace Read

/-- The next character, if any. -/
def peek : Read (Option Char) :=
  return (← get).rest.head?

/-- Is nothing left? -/
def atEnd : Read Bool :=
  return (← get).rest.isEmpty

/-- Where the reading stands. -/
def place : Read Position :=
  return (← get).place

/-- Fail at a part of the pattern. -/
def failAt {α : Type} (problem : Problem) (span : Span) : Read α :=
  throw { problem, span }

/-- Fail at the part from a place to where the reading stands. -/
def failFrom {α : Type} (problem : Problem) (start : Position) : Read α := do
  failAt problem ⟨start, ← place⟩

/-- Fail where the reading stands. -/
def failHere {α : Type} (problem : Problem) : Read α := do
  failFrom problem (← place)

/-- The part of the pattern that the next character takes. -/
def nextSpan : Read Span := do
  let here ← place
  return ⟨here, (← peek).elim here here.after⟩

/-- Pass the next character. -/
def pass : Read Unit :=
  modify fun c => match c.rest with
    | [] => c
    | x :: rest => { c with rest, place := c.place.after x }

/-- Pass some characters. -/
def passMany (n : Nat) : Read Unit :=
  n.forM fun _ _ => pass

/-- What is left behind blanks and comments, and where that starts.  `comment` says
that the text starts within a comment. -/
def behindBlanks (comment : Bool) (place : Position) : List Char → Position × List Char
  | [] => (place, [])
  | c :: rest =>
    if comment then behindBlanks (c != '\n') (place.after c) rest
    else if Text.isBlank c then behindBlanks false (place.after c) rest
    else if c = '#' then behindBlanks true (place.after c) rest
    else (place, c :: rest)

/-- Pass blanks and comments if they do not count. -/
def passBlanks : Read Unit :=
  modify fun c =>
    if c.spaced then
      let (place, rest) := behindBlanks false c.place c.rest
      { c with place, rest }
    else c

/-- Pass the next character and the blanks behind it; is something left? -/
def advance : Read Bool := do
  pass
  passBlanks
  return !(← atEnd)

/-- Pass a text if it comes next. -/
def passText (text : String) : Read Bool := do
  let found := text.toList.isPrefixOf (← get).rest
  if found then passMany text.length
  return found

/-- Pass characters of one kind, and blanks between them. -/
def takeWhile (p : Char → Bool) : Read (List Char) := do
  let rec go : Nat → Read (List Char)
    | 0 => return []
    | fuel + 1 => do
      match (← peek) with
      | none => return []
      | some c =>
        if p c then
          discard advance
          return c :: (← go fuel)
        else return []
  go (← get).rest.length

/-- The character behind the next one, blanks aside if they do not count. -/
def peekSecond : Read (Option Char) := do
  let c ← get
  let behind := c.rest.drop 1
  if c.spaced then
    let text := behind.dropWhile Text.isBlank
    let text := if text.head? = some '#' then (text.drop 1).dropWhile Text.isBlank else text
    return text.head? <|> behind.head?
  else return behind.head?

end Read

end ValuePattern

end Lifecast
