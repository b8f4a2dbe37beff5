/-
Which messages are logged.

A filter is a list of directives with commas between them; empty ones do not count.  A
directive is a level, a target, a target with a level behind an equals sign, or a span
in brackets, which may name a field in braces, with or without such a level.  Any name
may be a target, so a misspelt level is one, too.  A field may have a value: true or
false, a number, or a pattern.

A directive is read without the blanks around it, but its parts are then cut out of the
text with the blanks, at as many bytes from the start.  So behind a blank every part
begins too early, and one that begins or ends within a character breaks the program.
-/
import Lifecast.Binary64.Decimal
import Lifecast.Numeral
import Lifecast.Text.Letter
import Lifecast.ValuePattern.Check

namespace Lifecast

/-- What is wrong with a filter. -/
inductive LogFilterFault where
  /-- A directive is not well formed. -/
  | badDirective
  /-- What stands behind an equals sign is no level. -/
  | badLevel
  /-- A pattern for the value of a field cannot be used. -/
  | badPattern (refusal : ValuePattern.Refusal)
  /-- A part begins or ends within a character. -/
  | brokenCharacter
deriving DecidableEq, Repr

namespace LogFilterFault

/-- The fault in words, and its causes. -/
def causes : LogFilterFault → List String
  | badDirective => ["invalid filter directive"]
  | badLevel =>
    let words := "error parsing level filter: expected one of \"off\", \"error\", \"warn\", "
      ++ "\"info\", \"debug\", \"trace\", or a number 0-5"
    [words, words]
  | badPattern refusal =>
    ["invalid field filter: " ++ refusal.causes.headD ""] ++ refusal.causes
  | brokenCharacter => ["byte index is not a char boundary"]

/-- The status a program ends with. -/
def exitStatus : LogFilterFault → Nat
  | brokenCharacter => 101
  | _ => 1

end LogFilterFault

namespace LogFilter

/-! ### Levels and fields -/

/-- The names of the levels, by their numbers. -/
def levels : List String := ["off", "error", "warn", "info", "debug", "trace"]

/-- Is the text a level, by name in letters of either case or by number? -/
def isLevel (cs : List Char) : Bool :=
  match Numeral.readNat Numeral.maxWord cs with
  | .ok n => n < levels.length
  | .error _ => cs.isEmpty || levels.contains (String.ofList (cs.map Char.toLower))

/-- Check the value of a field. -/
def checkValue (value : List Char) : Except LogFilterFault Unit :=
  let text := String.ofList value
  if ["true", "false"].contains text || (Binary64.ofText? text).isSome then .ok ()
  else (ValuePattern.check value).mapError .badPattern

/-- Check a field: a name, with a value behind an equals sign if any.  What follows
another equals sign is not looked at. -/
def checkField (field : List Char) : Except LogFilterFault Unit :=
  if field.isEmpty then .error .badDirective
  else match (field.splitOn '=')[1]? with
    | none => .ok ()
    | some value => checkValue value

/-! ### Cutting -/

/-- The first `n` bytes of a text and what follows them, unless a character lies across
the border. -/
def splitBytes? : Nat → List Char → Option (List Char × List Char)
  | 0, cs => some ([], cs)
  | _ + 1, [] => none
  | n + 1, c :: cs =>
    if c.utf8Size ≤ n + 1 then
      (splitBytes? (n + 1 - c.utf8Size) cs).map fun (front, back) => (c :: front, back)
    else none

/-- Nothing is lost. -/
theorem append_of_splitBytes? {n : Nat} {cs front back : List Char}
    (h : splitBytes? n cs = some (front, back)) : front ++ back = cs := by
  induction cs generalizing n front with
  | nil =>
    cases n with
    | zero => simp_all [splitBytes?]
    | succ n => simp [splitBytes?] at h
  | cons c cs ih =>
    cases n with
    | zero => simp_all [splitBytes?]
    | succ n =>
      rw [splitBytes?] at h
      split at h
      · obtain ⟨⟨rest, back'⟩, hsplit, heq⟩ := Option.map_eq_some_iff.1 h
        simp only [Prod.mk.injEq] at heq
        obtain ⟨rfl, rfl⟩ := heq
        simp [ih hsplit]
      · simp at h

/-- The part of a text from one byte on, up to another if one is given. -/
def cut (text : List Char) (first : Nat) (last : Option Nat) :
    Except LogFilterFault (List Char) :=
  let part : Option (List Char) := do
    let (_, rest) ← splitBytes? first text
    match last with
    | none => some rest
    | some last => (splitBytes? (last - first) rest).map Prod.fst
  part.elim (.error .brokenCharacter) .ok

/-! ### Directives -/

/-- Where the reading of a directive stands.  A part that is not complete yet is known
by the byte at which it begins. -/
inductive Reading where
  /-- At the first character. -/
  | start
  /-- In a level or a target. -/
  | name
  /-- Between the brackets of a span. -/
  | span (first : Nat)
  /-- In a field of a span. -/
  | field (first : Nat)
  /-- Behind the field of a span. -/
  | fields
  /-- Behind a span. -/
  | target
  /-- In a level. -/
  | level (first : Nat)
deriving DecidableEq, Repr

/-- May a target begin with the character? -/
def beginsTarget (c : Char) : Bool :=
  c == '-' || c == ':' || c == '_' || Text.isLetterOrNumber c

/-- Read one more character, which begins at a byte, of a directive whose text with its
blanks is given. -/
def read (text : List Char) (r : Reading) (index : Nat) (c : Char) :
    Except LogFilterFault Reading := do
  match r, c with
  | .start, '[' => return .span (index + 1)
  | .start, c => if beginsTarget c then return .name else throw .badDirective
  | .name, '=' =>
    discard (cut text 0 (some index))
    return .level (index + 1)
  | .name, '[' =>
    discard (cut text 0 (some index))
    return .span (index + 1)
  | .name, _ => return .name
  | .span first, ']' =>
    discard (cut text first (some index))
    return .target
  | .span first, '\x7b' =>
    discard (cut text first (some index))
    return .field (index + 1)
  | .span first, _ => return .span first
  | .field first, '\x7d' =>
    checkField (← cut text first (some index))
    return .fields
  | .field first, _ => return .field first
  | .fields, ']' => return .target
  | .fields, _ => throw .badDirective
  | .target, '=' => return .level (index + 1)
  | .target, _ => throw .badDirective
  | .level first, _ => return .level first

/-- Read characters, the first of which begins at a byte. -/
def readAll (text : List Char) (r : Reading) (index : Nat) :
    List Char → Except LogFilterFault Reading
  | [] => .ok r
  | c :: rest => do readAll text (← read text r index c) (index + c.utf8Size) rest

/-- Check one directive. -/
def checkDirective (text : List Char) : Except LogFilterFault Unit := do
  match (← readAll text .start 0 (Text.trim text)) with
  | .name | .target => return
  | .level first => if isLevel (← cut text first none) then return else throw .badLevel
  | _ => throw .badDirective

/-- Check a filter. -/
def check (s : String) : Except LogFilterFault Unit :=
  ((s.toList.splitOn ',').filter (!·.isEmpty)).forM checkDirective

end LogFilter

end Lifecast
