/-
The command line.

`produce` runs a producer and `consume` a consumer, each with the settings that follow
and that the environment gives, until a signal asks it to end.
-/
import Lifecast.CommandLine.LogFilter
import Lifecast.Live.Broadcast
import Lifecast.Live.Receive
import Lifecast.Program.Consumer
import Lifecast.Program.Failure
import Lifecast.Program.Producer
import Lifecast.Random.ChaCha
import Std.Async.Signal
import Std.Sync.CancellationToken

namespace Lifecast

open Std.Async

/-! ### Before the start -/

/-- The variables of some settings that are set. -/
def environment {α : Type} (settings : List (Setting α)) : IO (List (String × String)) :=
  settings.filterMapM fun s => do return (← IO.getEnv s.variableName).map (s.variableName, ·)

/-- What a fault of the command line says, and the status the program ends with. -/
def refuse (program : String) (e : SettingError) : IO UInt32 := do
  match e with
  | .helpWanted => IO.println s!"usage: lifecast {program} [--name value]..."
  | .versionWanted => IO.println "lifecast 0.1.0"
  | e => IO.eprintln s!"error: {e.message}"
  return UInt32.ofNat e.exitStatus

/-- Check which messages are logged and create the file they go to. -/
def openLog (level : String) (file : Option String) : IO (Option Failure) := do
  match LogFilter.check level, file with
  | .error fault, _ => return some (.badLogLevel level fault)
  | .ok (), none => return none
  | .ok (), some path =>
    try
      discard (IO.FS.Handle.mk path .write)
      return none
    catch refusal => return some (.noLogFile path (toString refusal))

/-- Report a failure. -/
def fail (f : Failure) : IO UInt32 := do
  IO.eprint f.report
  return UInt32.ofNat f.exitStatus

/-! ### Running -/

/-- Cancel a token when a signal comes. -/
def watch (ending : Std.CancellationToken) (signal : Signal) : Async Unit := do
  let waiter ← Signal.Waiter.mk signal false
  discard (await (← waiter.wait))
  ending.cancel

/-- A token that is cancelled when the program is asked to end. -/
def awaitEnding : Async Std.CancellationToken := do
  let ending ← Std.CancellationToken.new
  for signal in [Signal.sigint, Signal.sigterm] do
    background (watch ending signal)
  return ending

/-- Wait until the next tick is due; the answer is whether the program is to end
instead. -/
def endsBefore (ending : Std.CancellationToken) (start : Nat) (period : Duration) : Async Bool := do
  let spent := (← IO.monoMsNow) - start
  Selectable.one #[
    .case ending.selector fun _ => return true,
    .case (← Selector.sleep (.ofNat (period.milliseconds - spent))) fun _ => return false]

/-- Tick until the end. -/
partial def produceAll (ending : Std.CancellationToken) (period : Duration) (s : LiveServer) (p : Producer) :
    Async Unit := do
  let start ← IO.monoMsNow
  let (data, p) := p.tick
  s.broadcast data
  unless (← endsBefore ending start period) do produceAll ending period s p

/-- Tick until the end, or until the screen takes no more. -/
partial def consumeAll (ending : Std.CancellationToken) (period : Duration) (consumer : IO.Ref Consumer) :
    Async Unit := do
  let start ← IO.monoMsNow
  let drawing ← consumer.modifyGet (·.draw)
  let screen ← IO.getStdout
  screen.write drawing.written.socketForm
  screen.flush
  unless (← endsBefore ending start period) do consumeAll ending period consumer

/-- Random words from the host if no seed is given. -/
def seedOf (seed : Option UInt64) : IO UInt64 := do
  match seed with
  | some seed => return seed
  | none => return UInt64.ofNat (Bytes.ofBigEndian (← IO.getRandomBytes 8).toList)

/-- Run a producer. -/
def produce (c : ProducerConfig) : IO UInt32 := do
  if let some failure ← openLog c.logLevel c.logFile then return ← fail failure
  let config : EngineConfig := {}
  Async.block do
    let ending ← awaitEnding
    match (← LiveServer.start c.engine config c.address c.port c.threads) with
    | .error e => fail (.noServer c e)
    | .ok s =>
      if let some p := Producer.ofConfig? c config.delimiter (ChaChaSource.ofSeed (← seedOf c.seed)) then
        produceAll ending c.period s p
      s.stop
      return 0

/-- Run a consumer. -/
def consume (c : ConsumerConfig) : IO UInt32 := do
  if let some failure ← openLog c.logLevel c.logFile then return ← fail failure
  let consumer ← IO.mkRef (Consumer.ofConfig c {})
  let tell (e : ClientEvent) : BaseIO Unit :=
    match ConsumerEvent.ofClient? e with
    | some e => consumer.modify fun consumer => (consumer.step e).2
    | none => return
  Async.block do
    let ending ← awaitEnding
    match (← LiveClient.connect c.engine {} tell c.address c.port) with
    | .error e => fail (.noConnection c e)
    | .ok disconnect =>
      try
        consumeAll ending c.period consumer
        disconnect
        return 0
      catch refusal =>
        disconnect
        fail { context := "failed to draw", causes := [toString refusal] }

end Lifecast

/-- Run the program that the first argument names. -/
def main : List String → IO UInt32
  | "produce" :: arguments => do
    match Lifecast.ProducerConfig.read arguments
        (← Lifecast.environment Lifecast.ProducerConfig.settings) with
    | .error e => Lifecast.refuse "produce" e
    | .ok c => Lifecast.produce c
  | "consume" :: arguments => do
    match Lifecast.ConsumerConfig.read arguments
        (← Lifecast.environment Lifecast.ConsumerConfig.settings) with
    | .error e => Lifecast.refuse "consume" e
    | .ok c => Lifecast.consume c
  | _ => do
    IO.eprintln "usage: lifecast (produce | consume) [--name value]..."
    return 2
