/-
How a program says that it failed.

A failure is what was being done and what went wrong, with the cause of that and so on
down to the last cause.  The report names the first on a line of its own and lists the
causes below, numbered if there are several; a cause of several lines is indented as a
whole.
-/
import Lifecast.CommandLine.Consumer
import Lifecast.CommandLine.LogFilter
import Lifecast.CommandLine.Producer
import Lifecast.OsError

namespace Lifecast

/-- The failure of a program. -/
structure Failure where
  /-- What was being done. -/
  context : String
  /-- What went wrong, and why, down to the last cause. -/
  causes : List String
  /-- The status the program ends with. -/
  exitStatus : Nat := 1
deriving DecidableEq, Repr

namespace Failure

/-- Text of several lines with some columns left free in front of all lines but the
first. -/
def hanging (columns : Nat) (s : String) : String :=
  String.ofList (s.toList.flatMap fun c => if c = '\n' then c :: List.replicate columns ' ' else [c])

/-- A number at the right end of a field of five columns. -/
def fieldOfFive (n : Nat) : String :=
  let digits := (toString n).toList
  String.ofList (List.replicate (5 - digits.length) ' ' ++ digits)

/-- The only cause, or one of several with its number. -/
def causeText (causes : List String) (number : Nat) (cause : String) : String :=
  match causes with
  | [_] => "    " ++ hanging 4 cause
  | _ => fieldOfFive number ++ ": " ++ hanging 7 cause

/-- The report. -/
def report (f : Failure) : String :=
  let listed := f.causes.mapIdx fun i cause => "\n" ++ causeText f.causes i cause
  let because := if f.causes.isEmpty then "" else "\n\nCaused by:" ++ String.join listed
  "Error: " ++ f.context ++ because ++ "\n"

end Failure

/-- What went wrong according to an error of an engine.  A refusal by the host is given
once more without what the engine says about it. -/
def EngineError.causes (e : EngineError) : List String :=
  match e with
  | transport detail => [e.message, detail]
  | _ => [e.message]

namespace Failure

/-- There is no such log level. -/
def badLogLevel (level : String) (fault : LogFilterFault) : Failure :=
  { context := s!"invalid log level '{level}'"
    causes := fault.causes
    exitStatus := fault.exitStatus }

/-- The log file cannot be created. -/
def noLogFile (path reason : String) : Failure :=
  { context := s!"cannot create log file {path}", causes := [reason] }

/-- The log of a program cannot be opened.  The level is looked at first, and no file is
created for a bad one; `file` is where the log goes and why that fails, if it does. -/
def ofLog? (level : String) (file : Option (String × Except OsError Unit)) : Option Failure :=
  match LogFilter.check level, file with
  | .error fault, _ => some (badLogLevel level fault)
  | .ok (), some (path, .error refusal) => some (noLogFile path refusal.message)
  | .ok (), _ => none

/-- The server of a producer does not start. -/
def noServer (c : ProducerConfig) (e : EngineError) : Failure :=
  { context := s!"failed to start {c.engine.name} server on {c.address}:{c.port}"
    causes := e.causes }

/-- The client of a consumer does not connect. -/
def noConnection (c : ConsumerConfig) (e : EngineError) : Failure :=
  { context := s!"failed to connect to {c.address}:{c.port}", causes := e.causes }

end Failure

end Lifecast
