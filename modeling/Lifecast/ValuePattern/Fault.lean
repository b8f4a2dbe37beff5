/-
What is wrong with a pattern, and where.

A report shows the pattern with marks below the places concerned.  A pattern of several
lines is shown between two rules, its lines numbered, and a place that extends over
several lines is described instead of marked.
-/

namespace Lifecast

namespace ValuePattern

/-- A place in a pattern. -/
structure Position where
  /-- How many characters stand in front. -/
  offset : Nat := 0
  /-- The line, counted from 1. -/
  line : Nat := 1
  /-- The column, counted from 1. -/
  column : Nat := 1
deriving DecidableEq, Repr

/-- The place behind a character. -/
def Position.after (p : Position) (c : Char) : Position :=
  if c = '\n' then { offset := p.offset + 1, line := p.line + 1, column := 1 }
  else { p with offset := p.offset + 1, column := p.column + 1 }

/-- A part of a pattern, from one place to another. -/
structure Span where
  start : Position
  stop : Position
deriving DecidableEq, Repr

/-- Does the part lie within one line? -/
def Span.isOneLine (s : Span) : Bool :=
  s.start.line == s.stop.line

/-- Does one part come before another? -/
def Span.precedes (a b : Span) : Bool :=
  a.start.offset < b.start.offset
    || (a.start.offset == b.start.offset && a.stop.offset ≤ b.stop.offset)

/-- The deepest that the parts of a pattern may lie within each other. -/
def maxDepth : Nat := 250

/-- What can be wrong with a pattern. -/
inductive Problem where
  /-- An escape that is no character stands in a class. -/
  | classEscape
  /-- A range ends before it starts. -/
  | classRange
  /-- A range starts or ends with something that is no character. -/
  | classRangeEnd
  /-- A class is not closed. -/
  | classOpen
  /-- A number is too large. -/
  | badDecimal
  /-- There is nothing between the braces of a character's number. -/
  | noHex
  /-- A character's number is the number of no character. -/
  | badHex
  /-- A digit is not hexadecimal. -/
  | badHexDigit
  /-- The pattern ends within an escape. -/
  | escapeOpen
  /-- There is no such escape. -/
  | badEscape
  /-- Nothing follows the sign that takes flags away. -/
  | nothingTakenAway
  /-- A flag is given twice. -/
  | flagTwice
  /-- The sign that takes flags away is given twice. -/
  | signTwice
  /-- The pattern ends within flags. -/
  | flagsOpen
  /-- There is no such flag. -/
  | badFlag
  /-- Two groups have one name. -/
  | nameTwice
  /-- A group has an empty name. -/
  | noName
  /-- A character may not stand in the name of a group. -/
  | badName
  /-- The pattern ends within the name of a group. -/
  | nameOpen
  /-- A group is not closed. -/
  | groupOpen
  /-- A group is closed that is not open. -/
  | groupNotOpen
  /-- The parts of the pattern lie too deep within each other. -/
  | tooDeep
  /-- Of two counts the first is the larger one. -/
  | badCounts
  /-- A count is not a number. -/
  | noCount
  /-- A count is not closed. -/
  | countOpen
  /-- There is nothing to repeat. -/
  | nothingRepeated
  /-- The braces behind a word's edge are not closed, or hold a wrong character. -/
  | edgeOpen
  /-- There is no such edge of a word. -/
  | badEdge
  /-- The pattern ends with a brace behind a word's edge. -/
  | edgeOrCountOpen
  /-- There is no such property. -/
  | badProperty
  /-- A group may not be referred to. -/
  | backReference
  /-- What comes before or after may not be looked at. -/
  | lookAround
  /-- What is meant are bytes, but this is a character of several. -/
  | characterNotAllowed
  /-- What is meant are bytes, and they may be no text. -/
  | invalidText
  /-- No properties of characters are known. -/
  | propertyUnknown
  /-- No classes of characters beyond ASCII are known. -/
  | classUnknown
  /-- No letters of either case are known beyond ASCII. -/
  | caseUnknown
deriving DecidableEq, Repr

/-- The problem in words. -/
def Problem.message : Problem → String
  | classEscape => "invalid escape sequence found in character class"
  | classRange => "invalid character class range, the start must be <= the end"
  | classRangeEnd => "invalid range boundary, must be a literal"
  | classOpen => "unclosed character class"
  | badDecimal => "decimal literal invalid"
  | noHex => "hexadecimal literal empty"
  | badHex => "hexadecimal literal is not a Unicode scalar value"
  | badHexDigit => "invalid hexadecimal digit"
  | escapeOpen => "incomplete escape sequence, reached end of pattern prematurely"
  | badEscape => "unrecognized escape sequence"
  | nothingTakenAway => "dangling flag negation operator"
  | flagTwice => "duplicate flag"
  | signTwice => "flag negation operator repeated"
  | flagsOpen => "expected flag but got end of regex"
  | badFlag => "unrecognized flag"
  | nameTwice => "duplicate capture group name"
  | noName => "empty capture group name"
  | badName => "invalid capture group character"
  | nameOpen => "unclosed capture group name"
  | groupOpen => "unclosed group"
  | groupNotOpen => "unopened group"
  | tooDeep => s!"exceed the maximum number of nested parentheses/brackets ({maxDepth})"
  | badCounts => "invalid repetition count range, the start must be <= the end"
  | noCount => "repetition quantifier expects a valid decimal"
  | countOpen => "unclosed counted repetition"
  | nothingRepeated => "repetition operator missing expression"
  | edgeOpen => "special word boundary assertion is either unclosed or contains an invalid character"
  | badEdge => "unrecognized special word boundary assertion, "
      ++ "valid choices are: start, end, start-half or end-half"
  | edgeOrCountOpen => "found either the beginning of a special word boundary or a bounded "
      ++ "repetition on a \\b with an opening brace, but no closing brace"
  | badProperty => "invalid Unicode character class"
  | backReference => "backreferences are not supported"
  | lookAround => "look-around, including look-ahead and look-behind, is not supported"
  | characterNotAllowed => "Unicode not allowed here"
  | invalidText => "pattern can match invalid UTF-8"
  | propertyUnknown => "Unicode property not found"
  | classUnknown => "Unicode-aware Perl class not found "
      ++ "(make sure the unicode-perl feature is enabled)"
  | caseUnknown => "Unicode-aware case insensitivity matching is not available "
      ++ "(make sure the unicode-case feature is enabled)"

/-- A problem of a pattern and its place. -/
structure Fault where
  problem : Problem
  span : Span
  /-- What is the same earlier in the pattern, if that is the problem. -/
  earlier : Option Span := none
deriving DecidableEq, Repr

namespace Fault

/-- A line without the carriage return that may end it. -/
def withoutReturn (line : List Char) : List Char :=
  if line.getLast? = some '\r' then line.dropLast else line

/-- The lines of a pattern.  What follows the last end of a line is a line only if it is
not empty. -/
def linesOf (pattern : List Char) : List (List Char) :=
  let parts := pattern.splitOn '\n'
  let last := parts.getLast?.getD []
  parts.dropLast.map withoutReturn ++ if last.isEmpty then [] else [last]

/-- The places concerned, the earlier one first. -/
def spans (f : Fault) : List Span :=
  match f.earlier with
  | none => [f.span]
  | some other => if other.precedes f.span then [other, f.span] else [f.span, other]

/-- A line of marks below the parts of a line. -/
def marks (parts : List Span) : List Char :=
  parts.foldl (fun out part =>
    out ++ List.replicate (part.start.column - 1 - out.length) ' '
      ++ List.replicate (max 1 (part.stop.column - part.start.column)) '^') []

/-- A number at the right end of a field. -/
def numberIn (width n : Nat) : List Char :=
  let digits := (toString n).toList
  List.replicate (width - digits.length) ' ' ++ digits

/-- The lines of a pattern with the marks below them; `width` columns are left for their
numbers, none if they have none. -/
def notated (f : Fault) (width : Nat) (pattern : List Char) : List (List Char) :=
  (linesOf pattern).mapIdx (fun i line =>
    let number := if width = 0 then "    ".toList else numberIn width (i + 1) ++ ": ".toList
    let here := f.spans.filter fun s => s.isOneLine && s.start.line == i + 1
    let marked := List.replicate number.length ' ' ++ marks here
    (number ++ line) :: if here.isEmpty then [] else [marked]) |>.flatten

/-- A part of several lines in words. -/
def describe (s : Span) : String :=
  s!"on line {s.start.line} (column {s.start.column}) through line {s.stop.line} (column {s.stop.column - 1})"

/-- The report on a pattern. -/
def report (f : Fault) (pattern : List Char) : String :=
  let rule := String.ofList (List.replicate 79 '~')
  let closing := "error: " ++ f.problem.message
  let body :=
    if pattern.contains '\n' then
      let count := (linesOf pattern).length + if pattern.getLast? = some '\n' then 1 else 0
      [rule] ++ (f.notated (toString count).length pattern).map String.ofList ++ [rule]
        ++ (f.spans.filter fun s => !s.isOneLine).map describe
    else (f.notated 0 pattern).map String.ofList
  "\n".intercalate (["regex parse error:"] ++ body ++ [closing])

end Fault

end ValuePattern

end Lifecast
