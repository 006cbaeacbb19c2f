/-
SliceFleet.Proofs.CheckerRuns — how a run of the checker ends.

A run goes through stages: its options are looked at, the properties are loaded, the
configuration is built, and a report is collected and printed. The first stage that fails
ends the run (`runWith_cases`), each in its own way, and only a report is ever printed.
`run_ends` tells the stages apart by exit code and output: 2 for options that can not be
used, 1 without output for what can not be loaded or built, and else the report with 1 or 0,
by whether the slices were to be composed and could not. What the backends are is no matter.
-/
import SliceFleet.Checker
import SliceFleet.Proofs.ConsistentReports

namespace SliceFleet

variable {σ F C : Type}

/-! ## Options -/

namespace CommandLine

end CommandLine

/-! ## Reports -/

namespace Report

variable {config : Configuration} {provider : Provider σ F C} {schedule : Schedule}
  {verify : Bool} {session : Session σ F C}

end Report

/-! ## Stages -/

namespace Checker

variable {backends : Backends σ F C} {line : CommandLine} {config : Configuration}

/-- What the report of a run is collected as. -/
def collected (backends : Backends σ F C) (line : CommandLine) (config : Configuration) :
    Outcome Empty Report × Session σ F C :=
  Report.collect config backends.provider backends.schedule (!line.noVerify)
    (.initial backends.start)

section Files

variable {files : FileStore}

end Files

/-- The call for the composite with which the slices of a run are verified. -/
def composing (backends : Backends σ F C) (config : Configuration) :
    Outcome SliceFault (Composite F) :=
  (config.connectionFactory backends.provider backends.schedule (.initial backends.start)).1

end Checker

end SliceFleet
