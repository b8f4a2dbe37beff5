/-
The settings of the producer.
-/
import Lifecast.CommandLine.GridSize
import Lifecast.CommandLine.Value

namespace Lifecast

/-- How a producer is set up. -/
structure ProducerConfig where
  /-- How its frames travel. -/
  engine : EngineKind := .standard
  /-- The group to send to, or the address to listen at. -/
  address : String := "239.255.0.1"
  /-- The port to send to or to listen at. -/
  port : UInt16 := 9090
  /-- How many threads the engine runs. -/
  threads : Nat := 2
  /-- How many generations a second. -/
  fps : Nat := 1
  /-- The size of the grid. -/
  gridSize : GridSize := .standard
  /-- The chance of each cell to be alive at first: 0.3. -/
  fillRatio : Binary64 := .ofDecimal { digits := 3, power := -1 }
  /-- What the first generation is drawn with, if it is to be repeatable. -/
  seed : Option UInt64 := none
  /-- Which messages are logged. -/
  logLevel : String := "info"
  /-- Where they are logged. -/
  logFile : Option String := none
deriving DecidableEq, Repr

namespace ProducerConfig

/-- A grid size. -/
def readGridSize (s : String) : Except ValueFault GridSize :=
  match GridSize.ofText s with
  | .ok size => .ok size
  | .error fault => .error (.refused fault.message)

/-- The settings, in the order in which variables are read. -/
def settings : List (Setting ProducerConfig) := [
  { name := "engine", assign := fun s c => do return { c with engine := ← Value.engine s } },
  { name := "address", letter := 'a', assign := fun s c => .ok { c with address := s } },
  { name := "port", letter := 'p', assign := fun s c => do return { c with port := ← Value.port s } },
  { name := "threads", letter := 't'
    assign := fun s c => do return { c with threads := ← Value.ranged 1 64 s } },
  { name := "fps", assign := fun s c => do return { c with fps := ← Value.ranged 1 30 s } },
  { name := "grid-size", assign := fun s c => do return { c with gridSize := ← readGridSize s } },
  { name := "fill-ratio", assign := fun s c => do return { c with fillRatio := ← Value.ratio s } },
  { name := "seed", assign := fun s c => do return { c with seed := some (← Value.seed s) } },
  { name := "log-level", assign := fun s c => .ok { c with logLevel := s } },
  { name := "log-file", assign := fun s c => do return { c with logFile := some (← Value.path s) } }]

/-- The configuration that arguments and variables give. -/
def read (arguments : List String) (environment : List (String × String)) :
    Except SettingError ProducerConfig :=
  configure settings {} arguments environment

end ProducerConfig

end Lifecast
