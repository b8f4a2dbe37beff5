/-
Settings on a command line and in the environment.

Each setting has a long name, mostly a letter as well, and an environment variable of
the same name.  On the command line its value follows as the next argument, behind an
equals sign, or right behind the letter.

Arguments are read from left to right.  A value that stands as an argument of its own
is looked at only when the next setting begins or the arguments end; a value attached
to its setting is looked at on the spot.  An argument that belongs to no setting is
reported as soon as it is met.  Variables are read last, in the order of the settings,
for those that the command line leaves out.
-/

namespace Lifecast

/-- What is wrong with a value. -/
inductive ValueFault where
  /-- The value cannot be used, with the reason. -/
  | refused (reason : String)
  /-- The value is empty where it must not be. -/
  | empty
deriving DecidableEq, Repr

/-- A setting of a program whose configuration is of type `α`. -/
structure Setting (α : Type) where
  /-- Its long name. -/
  name : String
  /-- Its letter, if it has one. -/
  letter : Option Char := none
  /-- Put a value into the configuration. -/
  assign : String → α → Except ValueFault α

namespace Setting

variable {α : Type}

/-- The name in capitals, with low lines for hyphens. -/
def capitals (s : Setting α) : String :=
  String.ofList (s.name.toList.map fun c => if c = '-' then '_' else c.toUpper)

/-- The environment variable. -/
def variableName (s : Setting α) : String :=
  "LIFESTREAM_" ++ s.capitals

/-- The setting as it is shown in a message. -/
def shown (s : Setting α) : String :=
  s!"--{s.name} <{s.capitals}>"

end Setting

/-- Why there is no configuration. -/
inductive SettingError where
  /-- A value cannot be used. -/
  | refused (setting value reason : String)
  /-- A setting has no value, or an empty one where it must not be empty. -/
  | noValue (setting : String)
  /-- A setting is given twice. -/
  | repeated (setting : String)
  /-- An argument belongs to no setting. -/
  | unknown (argument : String)
  /-- A switch has a value. -/
  | unwantedValue (switch value : String)
  /-- Help is asked for. -/
  | helpWanted
  /-- The version is asked for. -/
  | versionWanted
deriving DecidableEq, Repr

namespace SettingError

/-- The error in words. -/
def message : SettingError → String
  | refused setting value reason => s!"invalid value '{value}' for '{setting}': {reason}"
  | noValue setting => s!"a value is required for '{setting}' but none was supplied"
  | repeated setting => s!"the argument '{setting}' cannot be used multiple times"
  | unknown argument => s!"unexpected argument '{argument}' found"
  | unwantedValue switch value => s!"unexpected value '{value}' for '{switch}' found"
  | helpWanted => "help is wanted"
  | versionWanted => "the version is wanted"

/-- The status with which a program ends: asking for a text is no fault. -/
def exitStatus : SettingError → Nat
  | helpWanted => 0
  | versionWanted => 0
  | _ => 2

end SettingError

/-- A word that stands for no setting but asks for a text instead. -/
inductive Switch where
  | help
  | version
deriving DecidableEq, Repr

namespace Switch

/-- The switch with a long name. -/
def ofName? : String → Option Switch
  | "help" => some help
  | "version" => some version
  | _ => none

/-- The switch with a letter. -/
def ofLetter? : Char → Option Switch
  | 'h' => some help
  | 'V' => some version
  | _ => none

/-- What the switch asks for. -/
def wanted : Switch → SettingError
  | help => .helpWanted
  | version => .versionWanted

end Switch

/-- What has been read of a command line. -/
structure Reading (α : Type) where
  /-- The configuration so far. -/
  config : α
  /-- The names of the settings given so far. -/
  given : List String := []
  /-- The setting read last and its value, neither looked at yet. -/
  waiting : Option (Setting α × Option String) := none

namespace Reading

variable {α : Type}

/-- Put the value of a setting into the configuration. -/
def assign (config : α) (s : Setting α) (value : String) : Except SettingError α :=
  match s.assign value config with
  | .ok config => .ok config
  | .error (.refused reason) => .error (.refused s.shown value reason)
  | .error .empty => .error (.noValue s.shown)

/-- Take in a setting with its value. -/
def accept (r : Reading α) (s : Setting α) (value : Option String) :
    Except SettingError (Reading α) :=
  match value with
  | none => .error (.noValue s.shown)
  | some value =>
    if r.given.contains s.name then .error (.repeated s.shown)
    else do return { config := ← assign r.config s value, given := s.name :: r.given }

/-- Look at the setting that waits. -/
def settle (r : Reading α) : Except SettingError (Reading α) :=
  match r.waiting with
  | none => .ok r
  | some (s, value) => r.accept s value

/-- Begin a setting, with its value if it is attached. -/
def begin (r : Reading α) (s : Setting α) (attached : Option String) :
    Except SettingError (Reading α) := do
  let r ← r.settle
  match attached with
  | some value => r.accept s value
  | none => return { r with waiting := some (s, none) }

/-- Answer a switch. -/
def answer (r : Reading α) (s : Switch) : Except SettingError (Reading α) := do
  let _ ← r.settle
  throw s.wanted

/-- An argument that starts with two hyphens, without them. -/
def long (settings : List (Setting α)) (r : Reading α) (argument : List Char) :
    Except SettingError (Reading α) :=
  let name := String.ofList (argument.takeWhile (· != '='))
  let attached := match argument.dropWhile (· != '=') with
    | [] => none
    | _ :: value => some (String.ofList value)
  match settings.find? (·.name == name), Switch.ofName? name with
  | some s, _ => r.begin s attached
  | none, some switch =>
    match attached with
    | some value => .error (.unwantedValue s!"--{name}" value)
    | none => r.answer switch
  | none, none => .error (.unknown s!"--{name}")

/-- An argument that starts with one hyphen, without it.  Only its first letter
matters: what follows is the value of its setting. -/
def short (settings : List (Setting α)) (r : Reading α) :
    List Char → Except SettingError (Reading α)
  | [] => .ok r
  | letter :: rest =>
    match settings.find? (·.letter == some letter), Switch.ofLetter? letter with
    | some s, _ =>
      match rest with
      | [] => r.begin s none
      | '=' :: value => r.begin s (some (String.ofList value))
      | value => r.begin s (some (String.ofList value))
    | none, some switch => r.answer switch
    | none, none => .error (.unknown s!"-{letter}")

/-- An argument that is no option: the value of the setting in front of it. -/
def plain (r : Reading α) (argument : String) : Except SettingError (Reading α) :=
  match r.waiting with
  | some (s, none) => .ok { r with waiting := some (s, some argument) }
  | _ => .error (.unknown argument)

/-- Read arguments. -/
def readArguments (settings : List (Setting α)) (r : Reading α) :
    List String → Except SettingError (Reading α)
  | [] => r.settle
  | argument :: rest =>
    match argument.toList with
    | ['-', '-'] =>
      match rest with
      | [] => r.settle
      | stray :: _ => .error (.unknown stray)
    | '-' :: '-' :: name => do (← r.long settings name).readArguments settings rest
    | '-' :: letter :: more => do
      (← r.short settings (letter :: more)).readArguments settings rest
    | _ => do (← r.plain argument).readArguments settings rest

/-- Read variables for the settings that the command line leaves out. -/
def readVariables (environment : List (String × String)) (r : Reading α) :
    List (Setting α) → Except SettingError α
  | [] => .ok r.config
  | s :: rest =>
    match r.given.contains s.name, environment.lookup s.variableName with
    | false, some value => do
      let config ← assign r.config s value
      readVariables environment { r with config } rest
    | _, _ => readVariables environment r rest

end Reading

/-- The configuration that arguments and variables give, on top of one that holds the
value of every setting they leave out. -/
def configure {α : Type} (settings : List (Setting α)) (standard : α) (arguments : List String)
    (environment : List (String × String)) : Except SettingError α := do
  let r ← Reading.readArguments settings { config := standard } arguments
  r.readVariables environment settings

end Lifecast
