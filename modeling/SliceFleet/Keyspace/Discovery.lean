/-
SliceFleet.Keyspace.Discovery — which slices a namespace configures.

A namespace that has the `Names` control lists its slices there: the entries
between the commas, trimmed, without the blank ones, each at its first
place. An entry with a dot could never be told from a property and is
refused. Without the control every slice that owns a property counts, in
ascending order. Either way there must be at least one slice.
-/
import SliceFleet.Keyspace
import SliceFleet.Properties
import SliceFleet.Fault

namespace SliceFleet.Keyspace

open Text

/-- The entries of a comma-separated list, trimmed, without the blank ones. -/
def listEntries (list : String) : List String :=
  ((pieces ',' list).map trim).filter (· != "")

/-- The slice names of a `Names` control. -/
def listedNames (key list : String) : Except SliceFault (List String) :=
  let entries := listEntries list
  if entries.any (hasChar '.') then .error (.invalidValue key list .sliceNames)
  else .ok entries.eraseDups

def owner? (keys : Keyspace) (key : String) : Option String :=
  match keys.classify key with
  | .data slice _ => some slice
  | _ => none

/-- The slices that own a property, ascending, each once. -/
def scannedNames (keys : Keyspace) (whole : Properties) : List String :=
  (KeyMap.ofList ((whole.keys.filterMap keys.owner?).map fun name => (name, ()))).keys

/-- The fault of a namespace without slices. -/
def noSlices (keys : Keyspace) : SliceFault :=
  .noSlices (keys.controlKey Control.names.word) keys.sliceLead

def discover (keys : Keyspace) (whole : Properties) : Except SliceFault (List String) := do
  let namesKey := keys.controlKey Control.names.word
  let names ← match whole.get? namesKey with
    | some list => listedNames namesKey list
    | none => pure (keys.scannedNames whole)
  if names.isEmpty then .error keys.noSlices else .ok names

end SliceFleet.Keyspace
