/-
The tree that a pattern writes.

A pattern is an alternation of sequences.  What stands in a sequence may be repeated,
and a group in parentheses is a pattern again; it may have a name, or flags that hold
within it.
-/
import Lifecast.Numeral
import Lifecast.Text.Letter
import Lifecast.ValuePattern.ClassReader

namespace Lifecast

namespace ValuePattern

open Read

/-! ### Groups -/

/-- The flags by their letters. -/
def flagLetters : List (Char × Flag) :=
  [('i', .ignoreCase), ('m', .multiLine), ('s', .dotAll), ('U', .lazy), ('u', .unicode),
    ('R', .carriageReturns), ('x', .spaced)]

/-- The item of a list of flags that comes next. -/
def nextFlag : Read FlagItem := do
  match (← peek) with
  | some '-' => return .takeAway
  | c =>
    match c.bind fun c => flagLetters.lookup c with
    | some flag => return .flag flag
    | none => failAt .badFlag (← nextSpan)

/-- Read flags up to a colon or a parenthesis. -/
def readFlags : Nat → List (FlagItem × Span) → Read (List FlagItem)
  | 0, _ => failHere .flagsOpen
  | fuel + 1, items => do
    let next ← peek
    if next = some ':' || next = some ')' then
      match items.getLast? with
      | some (.takeAway, span) => failAt .nothingTakenAway span
      | _ => return items.map (·.1)
    else
      let item ← nextFlag
      let span ← nextSpan
      match items.lookup item with
      | some earlier =>
        throw {
          problem := if item = .takeAway then .signTwice else .flagTwice
          span
          earlier := some earlier }
      | none =>
        pass
        if (← atEnd) then failHere .flagsOpen
        readFlags fuel (items ++ [(item, span)])

/-- May the character stand in the name of a group? -/
def isGroupNameChar (first : Bool) (c : Char) : Bool :=
  c == '_' || if first then Text.isLetter c
    else c == '.' || c == '[' || c == ']' || Text.isLetterOrNumber c

/-- Read the name of a group, with the sign that ends it. -/
def readName : Read Unit := do
  let start ← place
  let text := (← get).rest
  let name := (text.takeWhile (isGroupNameChar false)).takeWhile (· != '>')
  let name := if text.head?.any (isGroupNameChar true) then name else []
  passMany name.length
  match (← peek) with
  | none => failHere .nameOpen
  | some '>' =>
    let span : Span := ⟨start, ← place⟩
    if name.isEmpty then failAt .noName ⟨start, start⟩
    match (← get).names.lookup name with
    | some earlier => throw { problem := .nameTwice, span, earlier := some earlier }
    | none =>
      pass
      modify fun c => { c with names := c.names ++ [(name, span)] }
  | some _ => failAt .badName (← nextSpan)

/-- What the beginning of a group turns out to be. -/
inductive Opening where
  /-- Flags for the rest of the group around it. -/
  | flags (span : Span) (items : List FlagItem)
  /-- A group, with the flags that hold within it. -/
  | group (parenthesis : Span) (items : List FlagItem)

/-- Read the beginning of a group. -/
def openGroup : Read Opening := do
  let parenthesis ← nextSpan
  discard advance
  for text in ["?=", "?!", "?<=", "?<!"] do
    if (← passText text) then failFrom .lookAround parenthesis.start
  let inner ← place
  if (← passText "?P<") then
    readName
    return .group parenthesis []
  else if (← passText "?<") then
    readName
    return .group parenthesis []
  else if (← passText "?") then
    if (← atEnd) then failAt .groupOpen parenthesis
    let items ← readFlags ((← get).rest.length + 1) []
    let closes := (← peek) = some ')'
    pass
    if closes then
      if items.isEmpty then failAt .nothingRepeated ⟨inner, inner⟩
      return .flags ⟨parenthesis.start, ← place⟩ items
    else return .group parenthesis items
  else return .group parenthesis []

/-! ### Repetitions -/

/-- What a repetition applies to: the last item of a sequence, unless that is flags. -/
def repeated (items : List Tree) : Read (List Tree × Tree) := do
  match items.reverse with
  | [] | .flags .. :: _ => failHere .nothingRepeated
  | last :: front => return (front.reverse, last)

/-- The greatest count. -/
def maxCount : Nat := 0xffffffff

/-- Read a count, blanks around it aside.  A fault of it may come second to another. -/
def readCount : Read (Except Fault Nat) := do
  discard (takeWhile Text.isBlank)
  let start ← place
  let digits ← takeWhile Char.isDigit
  let span : Span := ⟨start, ← place⟩
  discard (takeWhile Text.isBlank)
  if digits.isEmpty then return .error { problem := .noCount, span }
  match Numeral.readNat maxCount digits with
  | .ok n => return .ok n
  | .error _ => return .error { problem := .badDecimal, span }

/-- Pass the question mark that may follow a repetition. -/
def passQuestionMark : Read Unit := do
  if (← peek) = some '?' then pass

/-- Read counts between braces. -/
def readCounts : Read Unit := do
  let start ← place
  unless (← advance) do failFrom .countOpen start
  let first ← readCount
  let mut bounds := (0, 0)
  match (← peek) with
  | none => failFrom .countOpen start
  | some ',' =>
    unless (← advance) do failFrom .countOpen start
    let low ← first
    if (← peek) != some '\x7d' then
      bounds := (low, ← (← readCount))
  | some _ => discard first
  if (← peek) != some '\x7d' then failFrom .countOpen start
  discard advance
  passQuestionMark
  if bounds.2 < bounds.1 then failFrom .badCounts start

/-! ### Sequences and alternations -/

/-- Some items that stand one behind the other. -/
def sequenceOf (span : Span) : List Tree → Tree
  | [] => .empty span
  | [item] => item
  | items => .sequence span items

/-- What has been read of a pattern or a group. -/
structure Branches where
  /-- Where it begins. -/
  start : Position
  /-- The sequences that are complete. -/
  complete : List Tree := []
  /-- Where the last sequence begins. -/
  lastStart : Position
  /-- The items of the last sequence. -/
  items : List Tree := []

namespace Branches

/-- Nothing yet. -/
def here : Read Branches := do
  let here ← place
  return { start := here, lastStart := here }

/-- One item more. -/
def push (b : Branches) (item : Tree) : Branches :=
  { b with items := b.items ++ [item] }

/-- All as one tree. -/
def closed (b : Branches) : Read Tree := do
  let stop ← place
  let last := sequenceOf ⟨b.lastStart, stop⟩ b.items
  if b.complete.isEmpty then return last
  else return .alternation ⟨b.start, stop⟩ (b.complete ++ [last])

/-- Begin another sequence. -/
def next (b : Branches) : Read Branches := do
  let last := sequenceOf ⟨b.lastStart, ← place⟩ b.items
  pass
  return { b with complete := b.complete ++ [last], lastStart := ← place, items := [] }

end Branches

/-- Skip blanks from now on, or stop doing so, if flags say it. -/
def heedSpacing (items : List FlagItem) : Read Unit :=
  modify fun c => { c with spaced := (FlagItem.setting .spaced items).getD c.spaced }

/-- Read one item that is neither a group nor a repetition. -/
def readItem : Read Tree := do
  match (← peek) with
  | some '[' => readClass
  | some '\\' => return .atom (← readEscape)
  | some '.' =>
    let span ← nextSpan
    pass
    return .atom (.dot span)
  | some '^' | some '$' =>
    let span ← nextSpan
    pass
    return .atom (.place span false)
  | _ => return .atom (.literal (← readVerbatim))

/-- Read what is left of a pattern, or of a group up to its last parenthesis. -/
def readBranches (group : Option Span) : Nat → Branches → Read Tree
  | 0, b => b.closed
  | fuel + 1, b => do
    passBlanks
    match (← peek) with
    | none =>
      match group with
      | none => b.closed
      | some parenthesis => failAt .groupOpen parenthesis
    | some ')' =>
      match group with
      | none => failAt .groupNotOpen (← nextSpan)
      | some _ => b.closed
    | some '|' => readBranches group fuel (← b.next)
    | some '(' =>
      match (← openGroup) with
      | .flags span items =>
        heedSpacing items
        readBranches group fuel (b.push (.flags span items))
      | .group parenthesis items =>
        let spaced := (← get).spaced
        heedSpacing items
        let inner ← readBranches (some parenthesis) fuel (← Branches.here)
        modify fun c => { c with spaced }
        pass
        let span : Span := ⟨parenthesis.start, ← place⟩
        readBranches group fuel (b.push (.group span items inner))
    | some '?' | some '*' | some '+' =>
      let (front, last) ← repeated b.items
      pass
      passQuestionMark
      let whole := Tree.repetition ⟨last.span.start, ← place⟩ last
      readBranches group fuel { b with items := front ++ [whole] }
    | some '\x7b' =>
      let (front, last) ← repeated b.items
      readCounts
      let whole := Tree.repetition ⟨last.span.start, ← place⟩ last
      readBranches group fuel { b with items := front ++ [whole] }
    | some _ => readBranches group fuel (b.push (← readItem))

/-- The tree that a pattern writes. -/
def Tree.ofText (pattern : List Char) : Except Fault Tree :=
  let read : Read Tree := do readBranches none (pattern.length + 1) (← Branches.here)
  (read.run { rest := pattern }).map (·.1)

end ValuePattern

end Lifecast
