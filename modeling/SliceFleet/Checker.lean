/-
SliceFleet.Checker — a run of the checker.

The checker reads its options, loads the properties, builds the
configuration and prints a report, after verifying the slices with its backends
(`Backends`) unless it was asked not to. The backends of the command are SQLite
databases (`Backends.databases`). The exit code is 2 for arguments and
options that are refused, 1 for properties that can not be loaded, a
configuration that can not be built and slices that can not be composed, and
0 otherwise. Slices that can not be composed have a report all the same.
-/
import SliceFleet.CommandLine.Arguments
import SliceFleet.Sqlite.Waiting

namespace SliceFleet.Checker

/-- What a run leaves behind. -/
structure Result where
  exit : Nat
  stdout : String
  stderr : String
  files : FileStore

def usage : String := "Usage: hsc [OPTIONS]\n"

/-- The line of an option in the help. -/
def helpLine (option : CliOption) : String :=
  (match option.short? with
    | some short => "  -" ++ short.toString ++ ", "
    | none => "      ") ++
  option.shown ++ "  " ++ option.purpose ++
  (match option.environmentName? with
    | some name => " [env: " ++ name ++ "]"
    | none => "") ++ "\n"

def help : String :=
  "Verify and report a Helios slice configuration\n\n" ++ usage ++ "\nOptions:\n" ++
    String.join (CliOption.all.map helpLine)

/-- What is said of arguments that are refused, styled for a terminal. -/
def refusal (fault : UsageFault) : String :=
  Terminal.styled .alarm "error:" ++ " " ++ fault.message ++
    (if fault.concernsUsage then "\n\n" ++ usage else "\n") ++
    "\nFor more information, try " ++ UsageFault.literal "--help" ++ ".\n"

/-- A run that arguments end. What is said goes to no terminal, so it has no
control sequences, not even those that an argument brought along. -/
def refuse (files : FileStore) : UsageFault → Result
  | .helpRequested => ⟨0, help, "", files⟩
  | fault => ⟨2, "", Terminal.plain (refusal fault), files⟩

def reject (files : FileStore) (faults : List CommandLine.OptionsFault) : Result :=
  ⟨2, "", String.join (faults.map fun fault => "Configuration error: " ++ fault.message ++ "\n"),
    files⟩

def fail (files : FileStore) (message : String) : Result :=
  ⟨1, "", "Error: " ++ message ++ "\n", files⟩

/-- The wording of a property file that can not be read. -/
def loadMessage (fault : CommandLine.LoadFault) : String :=
  "Failed to read " ++ fault.path ++ "\n\nCaused by:\n    " ++ fault.cause.message

def present (format : ReportFormat) (files : FileStore) (report : Report) : Result :=
  if report.isFailure then
    ⟨1, report.print format, "Error: Slice verification failed\n", files⟩
  else ⟨0, report.print format, "", files⟩

/-- The backends that a run finds. -/
structure Backends (σ F C : Type) where
  provider : Provider σ F C
  /-- The order in which threads that probe in parallel come through. -/
  schedule : Schedule
  start : σ
  /-- The files among what the provider works with. -/
  filesIn : σ → FileStore

/-- The files that a run finds. -/
def Backends.files {σ F C : Type} (backends : Backends σ F C) : FileStore :=
  backends.filesIn backends.start

/-- SQLite databases in these files. -/
def Backends.databases (files : FileStore) :
    Backends Sqlite.Host Sqlite.SqliteFactory Unit where
  provider := Sqlite.provider
  schedule := Sqlite.schedule (.ofFiles files)
  start := .ofFiles files
  filesIn := Sqlite.Host.files

section Runs

variable {σ F C : Type}

def check (backends : Backends σ F C) (line : CommandLine) (config : Configuration) : Result :=
  match Report.collect config backends.provider backends.schedule (!line.noVerify)
    (.initial backends.start) with
  | (.done report, session) =>
    present line.format (backends.filesIn session.world.backend) report
  | (.panicked text, session) =>
    ⟨101, "", text ++ "\n", backends.filesIn session.world.backend⟩
  | (.failed impossible, _) => nomatch impossible

def runWith (backends : Backends σ F C) (line : CommandLine) : Result :=
  match line.validate with
  | [] =>
    match line.loadProperties backends.files with
    | .error fault => fail backends.files (loadMessage fault)
    | .ok whole =>
      match Configuration.build ⟨line.root⟩ .standard whole with
      | .error fault => fail backends.files ("Invalid slice configuration: " ++ fault.message)
      | .ok config => check backends line config
  | faults => reject backends.files faults

end Runs

/-- The paths of the files that a slice looks for to open its database. -/
def filesOf (slice : Slice) : List Text.Bytes :=
  match Sqlite.makeFactory slice.config with
  | .done factory =>
    match factory.request? with
    | some request =>
      match request.storage with
      | .file path _ => path :: request.model.toList
      | _ => []
    | none => []
  | _ => []

/-- The paths of the files that a run with these options may look for to open
databases. -/
def databaseFiles (line : CommandLine) (files : FileStore) : List Text.Bytes :=
  match line.loadProperties files with
  | .error _ => []
  | .ok whole =>
    match Configuration.build ⟨line.root⟩ .standard whole with
    | .error _ => []
    | .ok config => config.registry.slices.flatMap filesOf

def run (environment : KeyMap String) (arguments : List String) (files : FileStore) : Result :=
  match CommandLine.parse environment arguments with
  | .error fault => refuse files fault
  | .ok line => runWith (.databases files) line

end SliceFleet.Checker
