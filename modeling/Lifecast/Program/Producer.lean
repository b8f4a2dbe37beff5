/-
The producer.

A producer keeps one grid.  At every tick it makes a step and broadcasts the new
generation, so the first generation that anybody sees is the one after the random
grid that it began with.
-/
import Lifecast.CommandLine.Producer
import Lifecast.Life.Payload
import Lifecast.Life.Population

namespace Lifecast

/-- How long it takes from one tick to the next. -/
def ProducerConfig.period (c : ProducerConfig) : Duration :=
  .perSecond c.fps

/-- A producer at work. -/
structure Producer where
  /-- The generation broadcast last, or the random grid before the first tick. -/
  grid : Grid
  /-- The byte that ends a frame. -/
  delimiter : UInt8
deriving DecidableEq, Repr

namespace Producer

/-- The producer that a configuration describes, with a grid drawn from a source of
random words; none if the fill ratio is no number. -/
def ofConfig? {σ : Type} [WordSource σ] (c : ProducerConfig) (delimiter : UInt8) (source : σ) :
    Option Producer :=
  ((Grid.dead c.gridSize.size).randomize c.fillRatio source).map fun (grid, _) =>
    { grid, delimiter }

/-- One tick: the bytes to broadcast. -/
def tick (p : Producer) : Bytes × Producer :=
  let grid := p.grid.step
  (encodeFrame grid.payload p.delimiter, { p with grid })

/-- What is broadcast in the next `n` ticks. -/
def broadcasts (p : Producer) : Nat → List Bytes
  | 0 => []
  | n + 1 => p.tick.1 :: p.tick.2.broadcasts n

/-! ### What can fail -/

/-- One tick, unless there are as many generations as can be counted in 64 bits. -/
def tick? (p : Producer) : Option (Bytes × Producer) :=
  if p.grid.generation < Numeral.maxWord then some p.tick else none

/-- What is broadcast in the next `n` ticks; none if one of them fails. -/
def broadcasts? (p : Producer) : Nat → Option (List Bytes)
  | 0 => some []
  | n + 1 => do
    let (data, p) ← p.tick?
    let later ← p.broadcasts? n
    return data :: later

/-- How long it takes from one tick to the next; none if a second is to be divided by zero. -/
def period? (fps : Nat) : Option Duration :=
  if fps = 0 then none else some (.perSecond fps)

/-- What a producer broadcasts in its first `n` ticks; none if anything fails, be it the grid, the
draw, the period or a tick. -/
def run? {σ : Type} [WordSource σ] (c : ProducerConfig) (delimiter : UInt8) (source : σ) (n : Nat) :
    Option (List Bytes) := do
  let grid ← (Grid.ofSides c.gridSize.width c.gridSize.height).toOption
  let (grid, _) ← grid.randomize c.fillRatio source
  let _ ← period? c.fps
  broadcasts? { grid, delimiter } n

end Producer

end Lifecast
