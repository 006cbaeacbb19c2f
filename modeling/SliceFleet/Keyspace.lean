/-
SliceFleet.Keyspace — the grammar of keys under one root.

Under a root such as `helios` three kinds of keys have a meaning:

* `<root>.slice.<control>` — a control, which concerns all slices;
* `<root>.slice.<slice>.<property>` — a property of one slice;
* `<root>.<property>` — a default for every slice.

A key is classified by what follows the slice lead `<root>.slice.`: a
non-empty rest without a dot names a control; a rest with a dot is cut at the
first one into the slice and the property, both non-empty and the property
on one line. Any other rest is malformed. The root may be any text; only
literal beginnings of keys are compared.
-/
import SliceFleet.Text.Split

namespace SliceFleet

/-- The controls under the slice lead. -/
inductive Control where
  | names
  | master
  | lenient
  | distributionPolicy
  | probeMode
deriving DecidableEq, Repr

/-- The word of a control in its key. -/
def Control.word : Control → String
  | .names => "Names"
  | .master => "Master"
  | .lenient => "Lenient"
  | .distributionPolicy => "DistributionPolicy"
  | .probeMode => "ExecutorService"

/-- What a key means. -/
inductive KeyClass where
  | control (name : String)
  | data (slice property : String)
  /-- A key under the slice lead that is neither. -/
  | malformed
  | global (property : String)
  | foreign
deriving DecidableEq, Repr

/-- The keys under one root. -/
structure Keyspace where
  root : String
deriving DecidableEq, Repr

namespace Keyspace

open Text

/-- The root that is taken when none is given. -/
def defaultRoot : String := "helios"

instance : Inhabited Keyspace := ⟨⟨defaultRoot⟩⟩

/-! ## Building keys -/

/-- How every key under the root begins. -/
def globalLead (keys : Keyspace) : String :=
  keys.root ++ "."

/-- How every key that concerns slices begins. -/
def sliceLead (keys : Keyspace) : String :=
  keys.globalLead ++ "slice."

def controlKey (keys : Keyspace) (control : String) : String :=
  keys.sliceLead ++ control

def globalKey (keys : Keyspace) (property : String) : String :=
  keys.globalLead ++ property

/-- How the keys of one slice begin. -/
def ownLead (keys : Keyspace) (slice : String) : String :=
  keys.sliceLead ++ slice ++ "."

/-- The key of a property of one slice. -/
def sliceKey (keys : Keyspace) (slice property : String) : String :=
  keys.ownLead slice ++ property

/-! ## Classifying keys -/

def classifyRest (rest : String) : KeyClass :=
  match cutString? (· == '.') rest with
  | none => if rest == "" then .malformed else .control rest
  | some (slice, property) =>
    if slice == "" || property == "" || hasChar '\n' property then .malformed
    else .data slice property

def classify (keys : Keyspace) (key : String) : KeyClass :=
  match afterLead? keys.sliceLead key with
  | some rest => classifyRest rest
  | none =>
    match afterLead? keys.globalLead key with
    | some property => .global property
    | none => .foreign

end Keyspace

end SliceFleet
