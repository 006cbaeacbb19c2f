/-
SliceFleet.Report — what a configuration looks like, with or without
verification.

A report lists the controls and one row per slice with its status, and, if
the slices were verified, the composite or the fault in its place. Rows are
taken after the verification. The text form pads names to sixteen
characters; the JSON form leaves out what there is not.
-/
import SliceFleet.Configuration.Session
import SliceFleet.Json

namespace SliceFleet

/-- One slice in a report. -/
structure ReportRow where
  name : String
  id : String
  target : String
  status : Status
  master : Bool
deriving DecidableEq

/-- The composite in a report. -/
structure ReportComposite where
  slices : List String
  capable : Bool
deriving DecidableEq

/-- What a verification came to. -/
inductive ReportFinding where
  | notVerified
  | composed (composite : ReportComposite)
  | failed (fault : SliceFault)
deriving DecidableEq

/-- What a configuration looks like. -/
structure Report where
  unit : String
  root : String
  master : String
  /-- Whether slices out of reach are left out. -/
  lenient : Bool
  mode : ProbeMode
  policy : String
  rows : List ReportRow
  finding : ReportFinding
deriving DecidableEq

namespace Report

variable {σ F C : Type}

/-! ## Collecting -/

def rowOf (config : Configuration) (board : Board) (slice : Slice) : ReportRow where
  name := slice.name
  id := slice.config.id
  target := slice.target
  status := board.of slice
  master := slice.name == config.master.name

/-- The report on a configuration whose slices have these statuses. -/
def ofBoard (config : Configuration) (board : Board) (finding : ReportFinding) : Report where
  unit := config.unit
  root := config.keys.root
  master := config.master.name
  lenient := config.lenient
  mode := config.mode
  policy := config.policyName
  rows := config.registry.slices.map (rowOf config board)
  finding := finding

def compositeOf (composite : Composite F) : ReportComposite :=
  ⟨composite.slices, composite.capable⟩

/-- Reports on a configuration, after composing its slices if `verify` says so.
A panic of the provider leaves the call. -/
def collect (config : Configuration) (provider : Provider σ F C) (schedule : Schedule)
    (verify : Bool) (session : Session σ F C) : Outcome Empty Report × Session σ F C :=
  if verify then
    match config.connectionFactory provider schedule session with
    | (.panicked text, session) => (.panicked text, session)
    | (.done composite, session) =>
      (.done (ofBoard config session.board (.composed (compositeOf composite))), session)
    | (.failed fault, session) => (.done (ofBoard config session.board (.failed fault)), session)
  else (.done (ofBoard config session.board .notVerified), session)

def isFailure (report : Report) : Bool :=
  match report.finding with
  | .failed _ => true
  | _ => false

/-! ## Text -/

/-- How many characters a name is padded to. -/
def nameWidth : Nat := 16

/-- The text with blanks behind it, up to a number of characters. -/
def padded (width : Nat) (text : String) : String :=
  text ++ String.ofList (List.replicate (width - text.length) ' ')

def line (text : String) : String :=
  text ++ "\n"

/-- The line of a row; a star marks the master. -/
def rowText (row : ReportRow) : String :=
  "  " ++ (if row.master then "*" else " ") ++ " " ++ padded nameWidth row.name ++ " " ++
    row.status.word ++ " " ++ row.target

def boolText (value : Bool) : String :=
  if value then "true" else "false"

def findingText : ReportFinding → String
  | .notVerified => "composite: not verified"
  | .composed composite =>
    "composite: " ++ String.intercalate ", " composite.slices ++ " (distributed transactions: " ++
      (if composite.capable then "yes" else "no") ++ ")"
  | .failed fault => "error:    " ++ fault.message

def toText (report : Report) : String :=
  line ("unit:     " ++ report.unit) ++
  line ("root:     " ++ report.root) ++
  line ("policy:   " ++ report.policy ++ " (lenient: " ++ boolText report.lenient ++
    ", executor: " ++ report.mode.word ++ ")") ++
  line "slices:" ++
  String.join (report.rows.map fun row => line (rowText row)) ++
  line (findingText report.finding)

/-! ## JSON -/

def rowJson (row : ReportRow) : Json :=
  .object [
    ("name", .string row.name),
    ("id", .string row.id),
    ("target", .string row.target),
    ("status", .string row.status.word),
    ("master", .bool row.master)]

def findingFields : ReportFinding → List (String × Json)
  | .notVerified => []
  | .composed composite =>
    [("composite", .object [
      ("slices", .array (composite.slices.map .string)),
      ("distributed_transactions", .bool composite.capable)])]
  | .failed fault => [("error", .string fault.message)]

def toJson (report : Report) : Json :=
  .object ([
    ("unit", .string report.unit),
    ("root", .string report.root),
    ("master", .string report.master),
    ("lenient", .bool report.lenient),
    ("executor", .string report.mode.word),
    ("policy", .string report.policy),
    ("slices", .array (report.rows.map rowJson))] ++ findingFields report.finding)

end Report

/-! ## Forms of a report -/

/-- The forms in which a report can be printed. -/
inductive ReportFormat where
  | text
  | json
deriving DecidableEq, Repr

namespace ReportFormat

def word : ReportFormat → String
  | .text => "text"
  | .json => "json"

/-- The form that a text names, trimmed and in any case. -/
def ofText? (text : String) : Option ReportFormat :=
  match Text.foldCase (Text.trim text) with
  | "text" => some .text
  | "json" => some .json
  | _ => none

/-- The wording for a text that names no form. -/
def unknownText (text : String) : String :=
  "unknown output format: " ++ Text.foldCase (Text.trim text)

end ReportFormat

/-- The report in a form, with the line break at its end. -/
def Report.print (report : Report) : ReportFormat → String
  | .text => report.toText
  | .json => report.toJson.pretty ++ "\n"

end SliceFleet
