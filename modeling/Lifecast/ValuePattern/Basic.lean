/-
Patterns for the values of fields.

A pattern is a regular expression.  Its tree keeps where each part stands, because a
problem that shows only later, once the flags in force are known, is reported with its
place.
-/
import Lifecast.ValuePattern.Fault

namespace Lifecast

namespace ValuePattern

/-- A switch within a pattern. -/
inductive Flag where
  | ignoreCase
  | multiLine
  | dotAll
  | lazy
  | unicode
  | carriageReturns
  /-- Blanks and comments do not count. -/
  | spaced
deriving DecidableEq, Repr

/-- What may stand in a list of flags. -/
inductive FlagItem where
  /-- From here on, flags are taken away. -/
  | takeAway
  | flag (f : Flag)
deriving DecidableEq, Repr

/-- What a list of flags says about one of them, if anything. -/
def FlagItem.setting (flag : Flag) (items : List FlagItem) : Option Bool :=
  (items.foldl (fun (given, said) item =>
    match item with
    | .takeAway => (false, said)
    | .flag f => (given, if f = flag then some given else said)) (true, (none : Option Bool))).2

/-- A character that stands for itself. -/
structure Literal where
  span : Span
  char : Char
  /-- Is it written as a byte, by two hexadecimal digits? -/
  isByte : Bool := false
deriving DecidableEq, Repr

/-- A part that is neither made of others nor repeated by itself. -/
inductive Atom where
  | literal (l : Literal)
  /-- Any character. -/
  | dot (span : Span)
  /-- A place, such as the end of a line or the edge of a word. -/
  | place (span : Span) (wordEdge : Bool)
  /-- All characters with a property. -/
  | property (span : Span)
  /-- Digits, blanks or the characters of words. -/
  | shorthand (span : Span) (negated : Bool)
deriving DecidableEq, Repr

/-- Where an atom stands. -/
def Atom.span : Atom → Span
  | literal l => l.span
  | dot s => s
  | place s _ => s
  | property s => s
  | shorthand s _ => s

/-- What a class consists of. -/
inductive ClassItem where
  | empty (span : Span)
  | literal (l : Literal)
  | range (span : Span) (first last : Literal)
  /-- A class of ASCII by its name. -/
  | named (span : Span) (negated : Bool)
  | property (span : Span)
  | shorthand (span : Span) (negated : Bool)
  /-- A class within the class. -/
  | nested (span : Span) (negated : Bool) (item : ClassItem)
  | union (span : Span) (items : List ClassItem)
  /-- What two have in common, or one has without the other. -/
  | operation (span : Span) (left right : ClassItem)
deriving Repr

/-- Where a part of a class stands. -/
def ClassItem.span : ClassItem → Span
  | empty s => s
  | literal l => l.span
  | range s _ _ => s
  | named s _ => s
  | property s => s
  | shorthand s _ => s
  | nested s _ _ => s
  | union s _ => s
  | operation s _ _ => s

/-- The tree of a pattern. -/
inductive Tree where
  | empty (span : Span)
  /-- Flags for the rest of the group. -/
  | flags (span : Span) (items : List FlagItem)
  | atom (a : Atom)
  | set (span : Span) (negated : Bool) (item : ClassItem)
  | repetition (span : Span) (item : Tree)
  | group (span : Span) (flags : List FlagItem) (item : Tree)
  | sequence (span : Span) (items : List Tree)
  | alternation (span : Span) (items : List Tree)
deriving Repr

/-- Where a part of a pattern stands. -/
def Tree.span : Tree → Span
  | empty s => s
  | flags s _ => s
  | atom a => a.span
  | set s _ _ => s
  | repetition s _ => s
  | group s _ _ => s
  | sequence s _ => s
  | alternation s _ => s

end ValuePattern

end Lifecast
