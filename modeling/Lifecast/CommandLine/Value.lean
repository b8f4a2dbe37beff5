/-
Values of settings.

These are the kinds of value that producer and consumer take: a number in a range, a
seed, a share between 0 and 1, an engine, and the name of a file.
-/
import Lifecast.Binary64.Decimal
import Lifecast.Binary64.Shortest
import Lifecast.CommandLine.Setting
import Lifecast.Engine.Error
import Lifecast.Engine.Kind
import Lifecast.Numeral

namespace Lifecast

namespace Value

/-- A number from `low` to `high`. -/
def ranged (low high : Nat) (s : String) : Except ValueFault Nat :=
  match Numeral.readInt Numeral.maxSigned s.toList with
  | .error fault => .error (.refused fault.message)
  | .ok n =>
    if (low : Int) ≤ n ∧ n ≤ high then .ok n.toNat
    else .error (.refused s!"{n} is not in {low}..={high}")

/-- A port. -/
def port (s : String) : Except ValueFault UInt16 :=
  (ranged 0 65535 s).map UInt16.ofNat

/-- A seed of 64 bits. -/
def seed (s : String) : Except ValueFault UInt64 :=
  match Numeral.readNat Numeral.maxWord s.toList with
  | .error fault => .error (.refused fault.message)
  | .ok n => .ok (UInt64.ofNat n)

/-- A floating-point number between 0 and 1. -/
def ratio (s : String) : Except ValueFault Binary64 :=
  match Binary64.ofText? s with
  | none => .error (.refused s!"'{s}' is not a number")
  | some x =>
    if x.isRatio then .ok x else .error (.refused s!"fill ratio {x.text} outside 0.0..=1.0")

/-- An engine. -/
def engine (s : String) : Except ValueFault EngineKind :=
  match EngineKind.ofText s with
  | .ok kind => .ok kind
  | .error name => .error (.refused (EngineError.unknownEngine name).message)

/-- The name of a file. -/
def path (s : String) : Except ValueFault String :=
  if s.isEmpty then .error .empty else .ok s

end Value

end Lifecast
