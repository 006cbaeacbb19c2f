/-
SliceFleet.CommandLine.Arguments — reading the options from arguments.

Arguments are read from left to right. `--name` and `-n` begin an option; its
value is attached (`--name=value`, `-nvalue`, `-n=value`) or is the next
argument, unless that one looks like an option itself. A value that stands
alone is taken up when the next known option begins, or at the end; so an
argument that belongs nowhere is reported before the fault of a value that
is still waiting. After `--` no argument is an option, and none is allowed.
Variables of the environment are looked at last, in the order of the
options.
-/
import SliceFleet.CommandLine

namespace SliceFleet.CommandLine

open Text

/-- What is known of the options so far. -/
structure Given where
  properties : Option String
  root : Option String
  overrides : List (String × String)
  logLevel : Option String
  format : Option ReportFormat
  noVerify : Bool
deriving DecidableEq

namespace Given

def nothing : Given := ⟨none, none, [], none, none, false⟩

def has (given : Given) : CliOption → Bool
  | .properties => given.properties.isSome
  | .root => given.root.isSome
  | .set => !given.overrides.isEmpty
  | .logLevel => given.logLevel.isSome
  | .format => given.format.isSome
  | .noVerify => given.noVerify
  | .help => false

/-- Reads `KEY=VALUE`: both trimmed, the key not empty. -/
def assignment (text : String) : Except ValueFault (String × String) :=
  match cutString? (· == '=') text with
  | none => .error (.noAssignment text)
  | some (key, value) =>
    if trim key == "" then .error (.emptyKey text) else .ok (trim key, trim value)

/-- Takes a value as that of an option. -/
def accept (given : Given) (option : CliOption) (value : String) : Except UsageFault Given :=
  match option with
  | .properties =>
    if value == "" then .error (.valueMissing .properties)
    else .ok { given with properties := some value }
  | .root => .ok { given with root := some value }
  | .logLevel => .ok { given with logLevel := some value }
  | .set =>
    match assignment value with
    | .ok entry => .ok { given with overrides := given.overrides ++ [entry] }
    | .error fault => .error (.valueRefused .set value fault)
  | .format =>
    match ReportFormat.ofText? value with
    | some format => .ok { given with format := some format }
    | none => .error (.valueRefused .format value (.unknownFormat value))
  | .noVerify => .ok { given with noVerify := true }
  | .help => .error .helpRequested

/-- Takes a value as that of an option, which may be given once only unless it
is the one for overrides. -/
def take (given : Given) (option : CliOption) (value : String) : Except UsageFault Given :=
  if option != .set && given.has option then .error (.repeated option)
  else given.accept option value

/-- What the options amount to, with the defaults in the place of those not given. -/
def toCommandLine (given : Given) : CommandLine where
  properties := given.properties
  root := given.root.getD default.root
  overrides := given.overrides
  logLevel := given.logLevel.getD default.logLevel
  format := given.format.getD default.format
  noVerify := given.noVerify

end Given

/-! ## Reading arguments -/

/-- An option whose value is not taken up yet. -/
structure Pending where
  option : CliOption
  value : Option String
deriving DecidableEq

/-- How far the reading has come. -/
structure Reading where
  given : Given
  /-- The option whose value is not taken up yet. -/
  pending : Option Pending
  onlyValues : Bool
deriving DecidableEq

namespace Reading

def start : Reading := ⟨.nothing, none, false⟩

/-- Takes up the value that was waiting. -/
def settle (reading : Reading) : Except UsageFault Given :=
  match reading.pending with
  | none => .ok reading.given
  | some ⟨option, none⟩ => .error (.valueMissing option)
  | some ⟨option, some value⟩ => reading.given.take option value

/-- Goes on after an option, whose value may be attached. -/
def begin (reading : Reading) (option : CliOption) (attached : Option String) :
    Except UsageFault Reading :=
  if option.takesValue then do
    let given ← reading.settle
    match attached with
    | some value => return { reading with given := ← given.take option value, pending := none }
    | none => return { reading with given, pending := some ⟨option, none⟩ }
  else
    match attached with
    | some value => .error (.valueUnwanted option value)
    | none => do
      let given ← reading.settle
      return { reading with given := ← given.take option "", pending := none }

/-- Reads `--name` or `--name=value`, given what follows the hyphens. -/
def readLong (reading : Reading) (rest : String) : Except UsageFault Reading :=
  let (name, attached) := match cutString? (· == '=') rest with
    | some (name, value) => (name, some value)
    | none => (rest, none)
  match CliOption.ofLong? name with
  | some option => reading.begin option attached
  | none => .error (.unknownArgument ("--" ++ name))

/-- The value behind a short name: an equals sign before it does not belong to it. -/
def attachedTo : List Char → Option String
  | [] => none
  | '=' :: value => some (String.ofList value)
  | value => some (String.ofList value)

/-- Reads `-n`, `-nvalue` or `-n=value`, given what follows the hyphen. -/
def readShort (reading : Reading) (name : Char) (rest : List Char) : Except UsageFault Reading :=
  match CliOption.ofShort? name with
  | some option =>
    reading.begin option (if option.takesValue then attachedTo rest else none)
  | none => .error (.unknownArgument ("-" ++ name.toString))

def readValue (reading : Reading) (value : String) : Except UsageFault Reading :=
  match reading.pending with
  | some ⟨option, none⟩ => .ok { reading with pending := some ⟨option, some value⟩ }
  | _ => .error (.unknownArgument value)

def readArgument (reading : Reading) (argument : String) : Except UsageFault Reading :=
  if reading.onlyValues then .error (.unknownArgument argument)
  else
    match argument.toList with
    | ['-', '-'] => .ok { reading with onlyValues := true }
    | '-' :: '-' :: rest => reading.readLong (String.ofList rest)
    | '-' :: name :: rest => reading.readShort name rest
    | _ => reading.readValue argument

end Reading

/-- The options that a variable of the environment can stand in for, in order. -/
def variableOptions : List CliOption :=
  CliOption.all.filter fun option => option.environmentName?.isSome

/-- Takes the value of an option's variable where the option is not given. -/
def takeVariable (environment : KeyMap String) (given : Given) (option : CliOption) :
    Except UsageFault Given :=
  if given.has option then .ok given
  else
    match option.environmentName?.bind environment.get? with
    | some value => given.take option value
    | none => .ok given

/-- Reads the options from arguments and environment. -/
def parse (environment : KeyMap String) (arguments : List String) :
    Except UsageFault CommandLine := do
  let reading ← arguments.foldlM Reading.readArgument .start
  let given ← reading.settle
  let given ← variableOptions.foldlM (takeVariable environment) given
  return given.toCommandLine

end SliceFleet.CommandLine
