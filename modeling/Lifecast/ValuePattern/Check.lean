/-
Which patterns can be used.

A pattern is about characters or, with a flag, about bytes.  Of characters beyond ASCII
nothing is known but their numbers: no classes, no properties, and no letters of either
case.  Bytes must not match what is no text.  A pattern about characters may not ask for
the edge of a word.
-/
import Lifecast.ValuePattern.Reader

namespace Lifecast

namespace ValuePattern

/-! ### Depth -/

mutual

/-- The first part of a class that lies too deep, if any. -/
def ClassItem.tooDeep? (depth : Nat) : ClassItem → Option Span
  | .nested span _ item =>
    if depth < maxDepth then item.tooDeep? (depth + 1) else some span
  | .union span items =>
    if depth < maxDepth then ClassItem.anyTooDeep? (depth + 1) items else some span
  | .operation span left right =>
    if depth < maxDepth then left.tooDeep? (depth + 1) <|> right.tooDeep? (depth + 1)
    else some span
  | _ => none

/-- The first part of some items that lies too deep, if any. -/
def ClassItem.anyTooDeep? (depth : Nat) : List ClassItem → Option Span
  | [] => none
  | item :: rest => item.tooDeep? depth <|> ClassItem.anyTooDeep? depth rest

end

mutual

/-- The first part of a pattern that lies too deep, if any. -/
def Tree.tooDeep? (depth : Nat) : Tree → Option Span
  | .set span _ item =>
    if depth < maxDepth then item.tooDeep? (depth + 1) else some span
  | .repetition span item =>
    if depth < maxDepth then item.tooDeep? (depth + 1) else some span
  | .group span _ item =>
    if depth < maxDepth then item.tooDeep? (depth + 1) else some span
  | .sequence span items =>
    if depth < maxDepth then Tree.anyTooDeep? (depth + 1) items else some span
  | .alternation span items =>
    if depth < maxDepth then Tree.anyTooDeep? (depth + 1) items else some span
  | _ => none

/-- The first part of some trees that lies too deep, if any. -/
def Tree.anyTooDeep? (depth : Nat) : List Tree → Option Span
  | [] => none
  | item :: rest => item.tooDeep? depth <|> Tree.anyTooDeep? depth rest

end

/-! ### Meaning -/

/-- The flags in force on which it depends what can be used. -/
structure Modes where
  ignoreCase : Bool := false
  /-- Is the pattern about characters? -/
  unicode : Bool := true
deriving DecidableEq, Repr

namespace Modes

/-- The modes behind some flags. -/
def apply (m : Modes) (items : List FlagItem) : Modes where
  ignoreCase := (FlagItem.setting .ignoreCase items).getD m.ignoreCase
  unicode := (FlagItem.setting .unicode items).getD m.unicode

/-- Are letters of either case looked for among all characters? -/
def folds (m : Modes) : Bool :=
  m.unicode && m.ignoreCase

/-- Refuse a part of a pattern if a condition holds. -/
def refuseIf (condition : Bool) (problem : Problem) (span : Span) : Except Fault Unit :=
  if condition then throw { problem, span } else return

/-- Check a byte beyond ASCII, which is part of a character at most. -/
def checkByte (m : Modes) (l : Literal) : Except Fault Unit :=
  refuseIf (!m.unicode && l.isByte && 0x80 ≤ l.char.toNat) .invalidText l.span

/-- Check a character of a class. -/
def checkMember (m : Modes) (l : Literal) : Except Fault Unit := do
  m.checkByte l
  refuseIf (!m.unicode && 0x80 ≤ l.char.toNat) .characterNotAllowed l.span

/-- Check the characters with a property. -/
def checkProperty (m : Modes) (span : Span) : Except Fault Unit :=
  throw { problem := if m.unicode then .propertyUnknown else .characterNotAllowed, span }

/-- Check digits, blanks or the characters of words. -/
def checkShorthand (m : Modes) (span : Span) (negated : Bool) : Except Fault Unit := do
  refuseIf m.unicode .classUnknown span
  refuseIf negated .invalidText span

/-- Check a class as a whole.  `cased` says that it has members that may be letters. -/
def checkWhole (m : Modes) (span : Span) (negated cased : Bool) : Except Fault Unit := do
  refuseIf (m.folds && cased) .caseUnknown span
  refuseIf (!m.unicode && negated) .invalidText span

end Modes

open Modes

mutual

/-- Check a part of a class.  The answer is whether it has members that may be letters;
it has none if it has no members, or all characters. -/
def ClassItem.check (m : Modes) : ClassItem → Except Fault Bool
  | .empty _ => return false
  | .literal l => do
    m.checkMember l
    return true
  | .range _ first last => do
    m.checkMember first
    m.checkMember last
    return true
  | .named span negated => do
    m.checkWhole span negated true
    return true
  | .property span => do
    m.checkProperty span
    return true
  | .shorthand span negated => do
    m.checkShorthand span negated
    return true
  | .nested span negated item => do
    let cased ← item.check m
    m.checkWhole span negated cased
    return cased
  | .union _ items => ClassItem.checkAll m items
  | .operation _ left right => do
    let leftCased ← left.check m
    let rightCased ← right.check m
    refuseIf (m.folds && rightCased) .caseUnknown right.span
    refuseIf (m.folds && leftCased) .caseUnknown left.span
    return leftCased || rightCased

/-- Check some parts of a class. -/
def ClassItem.checkAll (m : Modes) : List ClassItem → Except Fault Bool
  | [] => return false
  | item :: rest => do
    let cased ← item.check m
    let restCased ← ClassItem.checkAll m rest
    return cased || restCased

end

/-- Check an atom.  The answer is whether it asks for the edge of a word. -/
def Atom.check (m : Modes) : Atom → Except Fault Bool
  | .literal l => do
    m.checkByte l
    refuseIf m.folds .caseUnknown l.span
    return false
  | .dot span => do
    refuseIf (!m.unicode) .invalidText span
    return false
  | .place _ wordEdge => return m.unicode && wordEdge
  | .property span => do
    m.checkProperty span
    return false
  | .shorthand span negated => do
    m.checkShorthand span negated
    return false

mutual

/-- Check a pattern.  The answer is the modes behind it and whether it asks for the edge
of a word. -/
def Tree.check (m : Modes) : Tree → Except Fault (Modes × Bool)
  | .empty _ => return (m, false)
  | .flags _ items => return (m.apply items, false)
  | .atom a => return (m, ← a.check m)
  | .set span negated item => do
    m.checkWhole span negated (← item.check m)
    return (m, false)
  | .repetition _ item => item.check m
  | .group _ items item => return (m, (← item.check (m.apply items)).2)
  | .sequence _ items => Tree.checkAll m items
  | .alternation _ items => Tree.checkAll m items

/-- Check some trees, one behind the other. -/
def Tree.checkAll (m : Modes) : List Tree → Except Fault (Modes × Bool)
  | [] => return (m, false)
  | item :: rest => do
    let (m, edge) ← item.check m
    let (m, restEdge) ← Tree.checkAll m rest
    return (m, edge || restEdge)

end

/-! ### Refusals -/

/-- Why a pattern cannot be used. -/
inductive Refusal where
  | faulty (pattern : List Char) (fault : Fault)
  /-- It asks for the edge of a word. -/
  | wordEdge
deriving DecidableEq, Repr

/-- The refusal in words, and why, down to the last cause. -/
def Refusal.causes : Refusal → List String
  | faulty pattern fault => ["error building NFA", "error parsing regex", fault.report pattern]
  | wordEdge =>
    ["unsupported regex feature for DFAs: cannot build DFAs for regexes with Unicode word "
      ++ "boundaries; switch to ASCII word boundaries, or heuristically enable Unicode word "
      ++ "boundaries or use a different regex engine"]

/-- The first fault of a pattern, if any: first of how it is written, then of its depth,
then of what it means. -/
def examine (pattern : List Char) : Except Fault Bool := do
  let tree ← Tree.ofText pattern
  if let some span := tree.tooDeep? 0 then throw { problem := .tooDeep, span }
  return (← tree.check {}).2

/-- Check a pattern. -/
def check (pattern : List Char) : Except Refusal Unit :=
  match examine pattern with
  | .error fault => .error (.faulty pattern fault)
  | .ok true => .error .wordEdge
  | .ok false => .ok ()

end ValuePattern

end Lifecast
