/-
Classes of a pattern.

A class is a list of characters and ranges between brackets, and may hold other classes
and operations on two of them.  A bracket or a dash that comes first stands for itself,
and so does a dash that comes last.
-/
import Lifecast.ValuePattern.Escape

namespace Lifecast

namespace ValuePattern

open Read

/-- The classes of ASCII that have a name. -/
def namedClasses : List String :=
  ["alnum", "alpha", "ascii", "blank", "cntrl", "digit", "graph", "lower", "print", "punct",
    "space", "upper", "word", "xdigit"]

/-- What has been read of a class. -/
structure Gathered where
  span : Span
  items : List ClassItem := []

namespace Gathered

/-- Nothing yet. -/
def here : Read Gathered := do
  let here ← place
  return { span := ⟨here, here⟩ }

/-- One item more. -/
def push (g : Gathered) (item : ClassItem) : Gathered :=
  let start := if g.items.isEmpty then item.span.start else g.span.start
  { span := ⟨start, item.span.stop⟩, items := g.items ++ [item] }

/-- All as one item. -/
def item (g : Gathered) : ClassItem :=
  match g.items with
  | [] => .empty g.span
  | [item] => item
  | items => .union g.span items

/-- All as one item, behind the left side of an operation if there is one. -/
def closed (g : Gathered) : Option ClassItem → ClassItem
  | none => g.item
  | some left => .operation ⟨left.span.start, g.item.span.stop⟩ left g.item

end Gathered

/-- Read the next character as it is. -/
def readVerbatim : Read Literal := do
  let span ← nextSpan
  let char := (← peek).getD ' '
  pass
  return { span, char }

/-- Read the name of a class of ASCII with its brackets, if there is one. -/
def readNamed? : Read (Option ClassItem) := do
  let c ← get
  match c.rest with
  | '[' :: ':' :: rest =>
    let negated := rest.head? = some '^'
    let text := if negated then rest.drop 1 else rest
    let name := text.takeWhile (· != ':')
    if namedClasses.contains (String.ofList name)
        && ":]".toList.isPrefixOf (text.dropWhile (· != ':')) then
      passMany ((if negated then 5 else 4) + name.length)
      return some (.named ⟨c.place, ← place⟩ negated)
    else return none
  | _ => return none

/-- Read dashes that come first in a class which begins at `start`. -/
def readDashes (start : Position) : Nat → Gathered → Read Gathered
  | 0, g => return g
  | fuel + 1, g => do
    if (← peek) = some '-' then
      let g := g.push (.literal { span := ← nextSpan, char := '-' })
      unless (← advance) do failAt .classOpen ⟨start, start⟩
      readDashes start fuel g
    else return g

/-- Read the beginning of a class: the part it takes, whether it is negated, and what
stands in it so far. -/
def openClass : Read (Span × Bool × Gathered) := do
  let start ← place
  unless (← advance) do failFrom .classOpen start
  let negated := (← peek) = some '^'
  if negated then
    unless (← advance) do failFrom .classOpen start
  let g ← readDashes start (← get).rest.length (← Gathered.here)
  if g.items.isEmpty && (← peek) = some ']' then
    let g := g.push (.literal { span := ← nextSpan, char := ']' })
    unless (← advance) do failFrom .classOpen start
    return (⟨start, ← place⟩, negated, g)
  else return (⟨start, ← place⟩, negated, g)

/-- Read a character or an escape of a class. -/
def readClassAtom : Read Atom := do
  if (← peek) = some '\\' then readEscape else return .literal (← readVerbatim)

/-- An atom as an item of a class. -/
def Atom.toItem : Atom → Read ClassItem
  | literal l => return .literal l
  | property span => return .property span
  | shorthand span negated => return .shorthand span negated
  | a => failAt .classEscape a.span

/-- An atom as an end of a range. -/
def Atom.toEnd : Atom → Read Literal
  | literal l => return l
  | a => failAt .classRangeEnd a.span

/-- Read a character, an escape or a range; `opened` is the beginning of the class. -/
def readRange (opened : Span) : Read ClassItem := do
  let first ← readClassAtom
  passBlanks
  if (← atEnd) then failAt .classOpen opened
  let second ← peekSecond
  if (← peek) != some '-' || second = some ']' || second = some '-' then first.toItem
  else
    unless (← advance) do failAt .classOpen opened
    let last ← readClassAtom
    let span : Span := ⟨first.span.start, last.span.stop⟩
    let low ← first.toEnd
    let high ← last.toEnd
    if high.char < low.char then failAt .classRange span
    return .range span low high

/-- The operation that comes next? -/
def isOperation (cs : List Char) : Bool :=
  ["&&", "--", "~~"].any (·.toList.isPrefixOf cs)

/-- Read what is left of a class, with its last bracket. -/
def readItems (opened : Span) : Nat → Option ClassItem → Gathered → Read ClassItem
  | 0, _, _ => failAt .classOpen opened
  | fuel + 1, left, g => do
    passBlanks
    let rest := (← get).rest
    match rest with
    | [] => failAt .classOpen opened
    | ']' :: _ =>
      pass
      return g.closed left
    | '[' :: _ =>
      match (← readNamed?) with
      | some item => readItems opened fuel left (g.push item)
      | none =>
        let (inner, negated, started) ← openClass
        let item ← readItems inner fuel none started
        readItems opened fuel left (g.push (.nested ⟨inner.start, ← place⟩ negated item))
    | _ =>
      if isOperation rest then
        passMany 2
        readItems opened fuel (some (g.closed left)) (← Gathered.here)
      else readItems opened fuel left (g.push (← readRange opened))

/-- Read a class. -/
def readClass : Read Tree := do
  let fuel := (← get).rest.length
  let (opened, negated, g) ← openClass
  let item ← readItems opened fuel none g
  return .set ⟨opened.start, ← place⟩ negated item

end ValuePattern

end Lifecast
