/-
The settings of the consumer.
-/
import Lifecast.CommandLine.Value

namespace Lifecast

/-- How a consumer is set up. -/
structure ConsumerConfig where
  /-- How its frames travel. -/
  engine : EngineKind := .standard
  /-- The group to join, or the host of the producer. -/
  address : String := "239.255.0.1"
  /-- The port to receive on or to connect to. -/
  port : UInt16 := 9090
  /-- How many threads the engine runs. -/
  threads : Nat := 1
  /-- How often a second the screen is drawn. -/
  fps : Nat := 30
  /-- How many columns a cell takes on the screen. -/
  cellWidth : Nat := 2
  /-- Which messages are logged. -/
  logLevel : String := "info"
  /-- Where they are logged. -/
  logFile : Option String := none
deriving DecidableEq, Repr

namespace ConsumerConfig

/-- The settings, in the order in which variables are read. -/
def settings : List (Setting ConsumerConfig) := [
  { name := "engine", assign := fun s c => do return { c with engine := ← Value.engine s } },
  { name := "address", letter := 'a', assign := fun s c => .ok { c with address := s } },
  { name := "port", letter := 'p', assign := fun s c => do return { c with port := ← Value.port s } },
  { name := "threads", letter := 't'
    assign := fun s c => do return { c with threads := ← Value.ranged 1 64 s } },
  { name := "fps", letter := 'f'
    assign := fun s c => do return { c with fps := ← Value.ranged 1 60 s } },
  { name := "cell-width", letter := 'c'
    assign := fun s c => do return { c with cellWidth := ← Value.ranged 1 4 s } },
  { name := "log-level", letter := 'l', assign := fun s c => .ok { c with logLevel := s } },
  { name := "log-file", assign := fun s c => do return { c with logFile := some (← Value.path s) } }]

/-- The configuration that arguments and variables give. -/
def read (arguments : List String) (environment : List (String × String)) :
    Except SettingError ConsumerConfig :=
  configure settings {} arguments environment

end ConsumerConfig

end Lifecast
