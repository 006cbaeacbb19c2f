/-
SliceFleet.Configuration — a configuration of several slices.

A configuration is built once from a namespace and never changes: controls,
slices, master and the configuration that the defaults give on their own.
Building looks at the controls first, then at the defaults, then at the
slices in the order of their discovery, and reports the first fault. No
provider takes part.
-/
import SliceFleet.Registry
import SliceFleet.Verification
import SliceFleet.Policy

namespace SliceFleet

/-- A configuration of several slices. -/
structure Configuration where
  keys : Keyspace
  /-- The name of the unit that the slices belong to. -/
  unit : String
  global : BackendConfig
  registry : Registry
  master : Slice
  /-- Whether slices out of reach are left out. -/
  lenient : Bool
  mode : ProbeMode
  policyName : String
  policies : PolicyBook

namespace Configuration

/-! ## Reading the controls -/

/-- The unit of a namespace that names none. -/
def unknownUnit : String := "?"

/-- The truth value that a text names, trimmed and in any case. -/
def flagOfText? (text : String) : Option Bool :=
  match Text.foldCase (Text.trim text) with
  | "true" | "yes" | "1" => some true
  | "false" | "no" | "0" => some false
  | _ => none

def control? (keys : Keyspace) (whole : Properties) (control : Control) : Option String :=
  whole.get? (keys.controlKey control.word)

/-- Reads a control: its value must be one that `read` knows. -/
def readControl {α : Type} (keys : Keyspace) (whole : Properties) (control : Control)
    (absent : α) (expected : Expected) (read : String → Option α) : Except SliceFault α :=
  match control? keys whole control with
  | none => .ok absent
  | some text =>
    match read text with
    | some value => .ok value
    | none => .error (.invalidValue (keys.controlKey control.word) text expected)

/-- Whether slices out of reach are left out. -/
def lenientOf (keys : Keyspace) (whole : Properties) : Except SliceFault Bool :=
  readControl keys whole .lenient false .flag flagOfText?

def modeOf (keys : Keyspace) (whole : Properties) : Except SliceFault ProbeMode :=
  readControl keys whole .probeMode .sequential .probeMode ProbeMode.ofText?

def policyNameOf (keys : Keyspace) (whole : Properties) : String :=
  ((control? keys whole .distributionPolicy).map Text.trim).getD PolicyBook.masterName

def unitOf (keys : Keyspace) (whole : Properties) : String :=
  (whole.get? (keys.settingKey .id)).getD unknownUnit

/-! ## Building -/

def build (keys : Keyspace) (policies : PolicyBook) (whole : Properties) :
    Except SliceFault Configuration := do
  let unit := unitOf keys whole
  let lenient ← lenientOf keys whole
  let mode ← modeOf keys whole
  let global ← BackendConfig.ofProperties keys (keys.globalProperties whole)
  let names ← keys.discover whole
  let registry ← Registry.build keys whole unit names
  return {
    keys, unit, global, registry, lenient, mode, policies
    master := registry.electMaster .blank (control? keys whole .master)
    policyName := policyNameOf keys whole
  }

/-! ## Rendering -/

def render (config : Configuration) : String :=
  "DistributedConfiguration \x7b unit: " ++ Text.quote config.unit ++
    ", slices: " ++ Text.quoteList config.registry.names ++
    ", master: " ++ Text.quote config.master.name ++
    ", lenient: " ++ (if config.lenient then "true" else "false") ++
    ", executor: " ++ config.mode.label ++
    ", policy: " ++ Text.quote config.policyName ++ ", .. \x7d"

end Configuration

end SliceFleet
