/-
Threads: how many to run, and what they may be named.
-/
import Lifecast.Text.Utf8

namespace Lifecast

/-- The most threads that one engine runs. -/
def maxThreads : Nat := 64

/-- The number of threads run where some number is asked for: at least one, at most
`maxThreads`. -/
def clampThreads (requested : Nat) : Nat :=
  max 1 (min requested maxThreads)

theorem clampThreads_pos (n : Nat) : 0 < clampThreads n := by
  unfold clampThreads; omega

theorem clampThreads_le (n : Nat) : clampThreads n ≤ maxThreads := by
  unfold clampThreads maxThreads; omega

/-- A name that threads cannot have, in bytes: one of them is zero, where names end. -/
structure BadThreadName where
  /-- The bytes of the name. -/
  bytes : Bytes
deriving DecidableEq, Repr

/-- Where the name would end. -/
def BadThreadName.position (n : BadThreadName) : Nat :=
  n.bytes.findIdx (· == 0)

/-- Can a thread have this name? -/
def checkThreadName (name : String) : Except BadThreadName Unit :=
  let bytes := Text.encode name
  if bytes.contains 0 then .error ⟨bytes⟩ else .ok ()

end Lifecast
