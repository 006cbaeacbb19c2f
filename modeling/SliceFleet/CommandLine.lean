/-
SliceFleet.CommandLine — the options of the checker.

Six options and a request for help; four of the options can also be given by
an environment variable, which counts where the option is not on the command
line. `CommandLine` is what the options amount to, `UsageFault` why arguments
are refused.
-/
import SliceFleet.Report
import SliceFleet.FileStore
import SliceFleet.Terminal

namespace SliceFleet

/-! ## Options -/

/-- The options. -/
inductive CliOption where
  | properties
  | root
  /-- A property that is set after the file is read. -/
  | set
  | logLevel
  | format
  | noVerify
  | help
deriving DecidableEq, Repr

namespace CliOption

def all : List CliOption :=
  [.properties, .root, .set, .logLevel, .format, .noVerify, .help]

def long : CliOption → String
  | .properties => "properties"
  | .root => "root"
  | .set => "set"
  | .logLevel => "log-level"
  | .format => "format"
  | .noVerify => "no-verify"
  | .help => "help"

def short? : CliOption → Option Char
  | .properties => some 'p'
  | .help => some 'h'
  | _ => none

/-- What stands for the option's value; an option without it takes none. -/
def placeholder? : CliOption → Option String
  | .properties => some "PROPERTIES"
  | .root => some "ROOT"
  | .set => some "KEY=VALUE"
  | .logLevel => some "LOG_LEVEL"
  | .format => some "FORMAT"
  | .noVerify => none
  | .help => none

def takesValue (option : CliOption) : Bool :=
  option.placeholder?.isSome

/-- The environment variable that stands in for the option. -/
def environmentName? : CliOption → Option String
  | .properties => some "HSC_PROPERTIES"
  | .root => some "HSC_ROOT"
  | .logLevel => some "HSC_LOG_LEVEL"
  | .format => some "HSC_FORMAT"
  | _ => none

def purpose : CliOption → String
  | .properties => "Property file holding the slice configuration"
  | .root => "Namespace root of the property keys"
  | .set => "Property override, applied after the file (repeatable)"
  | .logLevel => "Log level (error, warn, info, debug, trace)"
  | .format => "Report format (text, json)"
  | .noVerify => "Report the configuration without connecting to any slice"
  | .help => "Print help"

def shown (option : CliOption) : String :=
  "--" ++ option.long ++ (match option.placeholder? with
    | some placeholder => " <" ++ placeholder ++ ">"
    | none => "")

def ofLong? (name : String) : Option CliOption :=
  all.find? fun option => option.long == name

def ofShort? (name : Char) : Option CliOption :=
  all.find? fun option => option.short? == some name

end CliOption

/-! ## Refusals -/

/-- Why a value is refused. -/
inductive ValueFault where
  | noAssignment (text : String)
  | emptyKey (text : String)
  /-- No form of a report has this name. -/
  | unknownFormat (text : String)
deriving DecidableEq, Repr

def ValueFault.message : ValueFault → String
  | .noAssignment text => "expected KEY=VALUE, got \"" ++ text ++ "\""
  | .emptyKey text => "empty key in \"" ++ text ++ "\""
  | .unknownFormat text => ReportFormat.unknownText text

/-- Why arguments are refused. -/
inductive UsageFault where
  | helpRequested
  /-- There is no such option, or an argument that belongs to none. -/
  | unknownArgument (argument : String)
  /-- The option needs a value and has none. -/
  | valueMissing (option : CliOption)
  | valueRefused (option : CliOption) (value : String) (fault : ValueFault)
  /-- The option takes no value and has one. -/
  | valueUnwanted (option : CliOption) (value : String)
  | repeated (option : CliOption)
deriving DecidableEq, Repr

/-- A text that the user gave, in quotes. -/
def UsageFault.given (text : String) : String :=
  "'" ++ Terminal.styled .yellow text ++ "'"

/-- A text that the user may give, in quotes. -/
def UsageFault.literal (text : String) : String :=
  "'" ++ Terminal.styled .bold text ++ "'"

/-- The wording of a fault, styled for a terminal. What a value's fault says
itself is not styled. -/
def UsageFault.message : UsageFault → String
  | .helpRequested => "help requested"
  | .unknownArgument argument => "unexpected argument " ++ given argument ++ " found"
  | .valueMissing option =>
    "a value is required for " ++ literal option.shown ++ " but none was supplied"
  | .valueRefused option value fault =>
    "invalid value " ++ given value ++ " for " ++ literal option.shown ++ ": " ++ fault.message
  | .valueUnwanted option value =>
    "unexpected value " ++ given value ++ " for " ++ literal option.shown ++
      " found; no more were expected"
  | .repeated option =>
    "the argument " ++ given option.shown ++ " cannot be used multiple times"

/-- Whether the fault lies in how the command is used, and not in one value. -/
def UsageFault.concernsUsage : UsageFault → Bool
  | .valueMissing _ | .valueRefused .. => false
  | _ => true

/-! ## What the options amount to -/

/-- What the options amount to. -/
structure CommandLine where
  properties : Option String
  root : String
  /-- The properties that are set after the file is read, in order. -/
  overrides : List (String × String)
  logLevel : String
  format : ReportFormat
  noVerify : Bool
deriving DecidableEq

namespace CommandLine

def default : CommandLine where
  properties := none
  root := Keyspace.defaultRoot
  overrides := []
  logLevel := "info"
  format := .text
  noVerify := false

instance : Inhabited CommandLine := ⟨default⟩

/-- What is wrong with the options together. -/
inductive OptionsFault where
  /-- There is neither a property file nor an override. -/
  | noProperties
  /-- The root is blank or has a dot. -/
  | badRoot (root : String)
deriving DecidableEq, Repr

def OptionsFault.message : OptionsFault → String
  | .noProperties => "No properties given: pass --properties or --set"
  | .badRoot root => "Invalid namespace root \"" ++ root ++ "\""

/-- Whether a text can be the root of keys. -/
def isRoot (root : String) : Bool :=
  Text.trim root != "" && !Text.hasChar '.' root

/-- All that is wrong with the options together. -/
def validate (line : CommandLine) : List OptionsFault :=
  (if line.properties.isNone && line.overrides.isEmpty then [.noProperties] else []) ++
  (if isRoot line.root then [] else [.badRoot line.root])

/-- Why the property file can not be read. -/
structure LoadFault where
  path : String
  cause : FileStore.ReadFault
deriving DecidableEq, Repr

/-- The properties of the file, then the overrides in order. -/
def loadProperties (line : CommandLine) (files : FileStore) : Except LoadFault Properties :=
  match line.properties with
  | none => .ok (KeyMap.ofList line.overrides)
  | some path =>
    match files.readText path with
    | .ok text => .ok ((Properties.parse text).insertAll line.overrides)
    | .error cause => .error ⟨path, cause⟩

end CommandLine

end SliceFleet
