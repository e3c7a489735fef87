import GaleraHealth.Text.Pieces

/-!
# Options of a command line

A command takes options with a value each, which stands after an equals sign, or in the next
argument, or, for the short form, in the rest of the argument. An option is given at most once, and
there are no arguments beside the options. Help ends the reading wherever it is asked for.
-/

namespace GaleraHealth

/-- An option: its long and short name, and which values it takes. -/
structure OptionSpec where
  name : String
  short : Option Char
  accepts : String → Bool

/-- Why a command line is not read to its end. -/
inductive UsageFault where
  /-- Help is asked for, which is no mistake. -/
  | help
  | unknown (argument : String)
  | missingValue (option : String)
  | badValue (option value : String)
  | repeated (option : String)
  deriving DecidableEq, Repr

/-- The values of options by their names. -/
abbrev OptionValues := List (String × String)

namespace OptionSpec

/-- What an argument is to a reader of options. -/
inductive Argument where
  /-- An option, with its value if the argument holds it. -/
  | option (spec : OptionSpec) (value : Option String)
  | help
  /-- The mark behind which no options stand. -/
  | endMark
  | other

/-- The long form: a name, and perhaps a value after an equals sign. -/
def longForm (specs : List OptionSpec) (text : List Char) : Argument :=
  let (name, value) := match Text.cutAt? ['='] text with
    | some (n, v) => (String.ofList n, some (String.ofList v))
    | none => (String.ofList text, none)
  match specs.find? (·.name == name) with
  | some s => .option s value
  | none => if name == "help" && value.isNone then .help else .other

/-- The short form: a letter, and perhaps a value behind it. -/
def shortForm (specs : List OptionSpec) (letter : Char) (rest : List Char) : Argument :=
  match specs.find? (·.short == some letter) with
  | some s =>
    .option s (match rest with
      | [] => none
      | '=' :: value => some (String.ofList value)
      | value => some (String.ofList value))
  | none => if letter == 'h' then .help else .other

/-- What an argument is. -/
def classify (specs : List OptionSpec) (argument : String) : Argument :=
  match argument.toList with
  | ['-', '-'] => .endMark
  | '-' :: '-' :: text => longForm specs text
  | '-' :: letter :: rest => shortForm specs letter rest
  | _ => .other

/-- Whether an argument can be the value of the option before it. -/
def isValue (argument : String) : Bool :=
  match argument.toList with
  | '-' :: _ :: _ => false
  | _ => true

/-- A value added to those read so far. -/
def add (values : OptionValues) (s : OptionSpec) (value : String) :
    Except UsageFault OptionValues :=
  if (values.lookup s.name).isSome then .error (.repeated s.name)
  else if s.accepts value then .ok (values ++ [(s.name, value)])
  else .error (.badValue s.name value)

/-- Reads arguments from left to right. -/
def read (specs : List OptionSpec) : OptionValues → List String → Except UsageFault OptionValues
  | values, [] => .ok values
  | values, argument :: rest =>
    match classify specs argument with
    | .help => .error .help
    | .other => .error (.unknown argument)
    | .endMark =>
      match rest with
      | [] => .ok values
      | extra :: _ => .error (.unknown extra)
    | .option s (some value) => do read specs (← add values s value) rest
    | .option s none =>
      match rest with
      | [] => .error (.missingValue s.name)
      | value :: rest =>
        if isValue value then do read specs (← add values s value) rest
        else .error (.missingValue s.name)

end OptionSpec

/-! ### Options that both commands have -/

def configOption : OptionSpec := ⟨"config", some 'c', fun v => !v.isEmpty⟩

/-- How much is logged. -/
def logLevelOption : OptionSpec := ⟨"log-level", none, fun _ => true⟩

/-- Whether messages of the usual kind are logged at a level. -/
def logsInfo (level : String) : Bool :=
  let name := String.ofList (level.toList.map Char.toLower)
  name != "warn" && name != "error"

end GaleraHealth
