/-
The consumer.

A consumer keeps the newest frame in a slot and looks at it at every tick.  A frame
that came since the last tick is drawn if it can be read and dropped if not.  As long
as no frame has come at all, a status line says whether there is a connection; after
the first frame, readable or not, the status is never drawn again.
-/
import Lifecast.CommandLine.Consumer
import Lifecast.Engine.Client
import Lifecast.View.FrameSlot
import Lifecast.View.Screen

namespace Lifecast

/-- How long it takes from one tick to the next. -/
def ConsumerConfig.period (c : ConsumerConfig) : Duration :=
  .perSecond c.fps

/-- A consumer at work. -/
structure Consumer where
  /-- The newest frame. -/
  slot : FrameSlot := {}
  /-- Where it is drawn. -/
  screen : Screen
deriving DecidableEq, Repr

/-- What happens to a consumer. -/
inductive ConsumerEvent where
  /-- A frame arrives. -/
  | frame (payload : Bytes)
  /-- The connection is made or lost. -/
  | connection (made : Bool)
  /-- It is time to draw. -/
  | tick
deriving DecidableEq, Repr

/-- What a consumer makes of what its client is told. -/
def ConsumerEvent.ofClient? : ClientEvent → Option ConsumerEvent
  | .connected => some (.connection true)
  | .disconnected => some (.connection false)
  | .frame _ payload => some (.frame payload)
  | .calledConnect _ => none

namespace Consumer

/-- The consumer that a configuration describes. -/
def ofConfig (c : ConsumerConfig) (writer : Writer) : Consumer :=
  { screen := .new writer c.cellWidth }

/-- The status line as long as no frame has come. -/
def status (connected : Bool) : String :=
  if connected then "Waiting for data from server..." else "Connecting to server..."

/-- Draw what is due. -/
def draw (c : Consumer) : Drawing × Consumer :=
  let (fresh, slot) := c.slot.takeFresh
  let drawing := match fresh with
    | some payload =>
      match Picture.parse payload with
      | .ok picture => c.screen.drawGrid picture
      | .error _ => c.screen.drawNothing
    | none =>
      if slot.hasFrame then c.screen.drawNothing else c.screen.drawStatus (status slot.connected)
  (drawing, { slot, screen := drawing.screen })

/-- Go through one event; the answer is what is written to the screen. -/
def step (c : Consumer) : ConsumerEvent → Bytes × Consumer
  | .frame payload => ([], { c with slot := c.slot.store payload })
  | .connection made => ([], { c with slot := c.slot.setConnected made })
  | .tick =>
    let (drawing, c) := c.draw
    (drawing.written, c)

/-- Go through events in order; the answer is what is written at each of them. -/
def run (c : Consumer) : List ConsumerEvent → List Bytes × Consumer
  | [] => ([], c)
  | e :: rest =>
    let (written, c) := c.step e
    let (later, c) := c.run rest
    (written :: later, c)

end Consumer

end Lifecast
