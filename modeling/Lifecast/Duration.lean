/-
Spans of time and how they are written.

A span is written in the largest unit that it fills at least once, with as many
decimals as it needs: `1.5s`, `20ms`, `1µs`, `0ns`.
-/

namespace Lifecast

/-- A span of time, to the nanosecond. -/
structure Duration where
  /-- Its length in nanoseconds. -/
  nanoseconds : Nat
deriving DecidableEq, Repr

namespace Duration

/-- A whole number of seconds. -/
def ofSeconds (n : Nat) : Duration := ⟨n * 1000000000⟩

/-- A whole number of milliseconds. -/
def ofMilliseconds (n : Nat) : Duration := ⟨n * 1000000⟩

/-- A whole number of microseconds. -/
def ofMicroseconds (n : Nat) : Duration := ⟨n * 1000⟩

/-- The most whole seconds in a span. -/
def maxSeconds : Nat := 0xffffffffffffffff

/-- A whole number of seconds and nanoseconds besides, unless that is too long. -/
def ofParts? (seconds nanoseconds : Nat) : Option Duration :=
  let d : Duration := ⟨seconds * 1000000000 + nanoseconds⟩
  if d.nanoseconds / 1000000000 ≤ maxSeconds then some d else none

/-- The span from one to the next of things that happen so often a second. -/
def perSecond (times : Nat) : Duration := ⟨1000000000 / times⟩

/-- The span in whole milliseconds. -/
def milliseconds (d : Duration) : Nat := d.nanoseconds / 1000000

/-- The decimals of `n` out of ten to the power `places`, without trailing zeros. -/
def decimals (places n : Nat) : List Char :=
  let digits := (toString n).toList
  let padded := List.replicate (places - digits.length) '0' ++ digits
  (padded.reverse.dropWhile (· == '0')).reverse

/-- The span in units of ten to the power `places` nanoseconds. -/
def inUnit (d : Duration) (places : Nat) (unit : String) : String :=
  let whole := toString (d.nanoseconds / Nat.pow 10 places)
  match decimals places (d.nanoseconds % Nat.pow 10 places) with
  | [] => whole ++ unit
  | digits => whole ++ "." ++ String.ofList digits ++ unit

/-- The span as text. -/
def text (d : Duration) : String :=
  if 1000000000 ≤ d.nanoseconds then d.inUnit 9 "s"
  else if 1000000 ≤ d.nanoseconds then d.inUnit 6 "ms"
  else if 1000 ≤ d.nanoseconds then d.inUnit 3 "µs"
  else d.inUnit 0 "ns"

end Duration

end Lifecast
