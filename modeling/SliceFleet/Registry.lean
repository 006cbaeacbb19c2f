/-
SliceFleet.Registry — the configured slices in order.

A registry holds at least one slice. Each slice is configured from its
partition of the whole namespace and identified by the unit and its name.
The master is elected by name among the active slices, or among all as long
as none is active; where the name finds nobody, and where none is wanted,
the first slice is the master.
-/
import SliceFleet.Slice
import SliceFleet.Keyspace.Partition
import SliceFleet.Keyspace.Discovery

namespace SliceFleet

/-- A name with the configuration of that slice. -/
abbrev NamedConfig := String × BackendConfig

/-- The configured slices, at least one, in order. -/
structure Registry where
  head : NamedConfig
  tail : List NamedConfig
deriving DecidableEq

namespace Registry

/-! ## Building -/

/-- The configuration of the named slice: its partition, identified by unit and name. -/
def configOf (keys : Keyspace) (whole : Properties) (unit name : String) :
    Except SliceFault NamedConfig := do
  let config ← BackendConfig.ofProperties keys (keys.partition whole name)
  return (name, { config with id := unit ++ "." ++ name })

/-- One slice per name, in the order of the names. -/
def build (keys : Keyspace) (whole : Properties) (unit : String) :
    List String → Except SliceFault Registry
  | [] => .error keys.noSlices
  | name :: names => do
    let head ← configOf keys whole unit name
    let tail ← names.mapM (configOf keys whole unit)
    return ⟨head, tail⟩

/-! ## Looking at the slices -/

def entries (registry : Registry) : List NamedConfig :=
  registry.head :: registry.tail

/-- Gives every entry its place, counted from `start`. -/
def placedFrom (start : Nat) : List NamedConfig → List Slice
  | [] => []
  | entry :: rest => ⟨start, entry.1, entry.2⟩ :: placedFrom (start + 1) rest

def slices (registry : Registry) : List Slice :=
  placedFrom 0 registry.entries

def names (registry : Registry) : List String :=
  registry.slices.map (·.name)

def size (registry : Registry) : Nat :=
  registry.slices.length

def isEmpty (registry : Registry) : Bool :=
  registry.slices.isEmpty

def first (registry : Registry) : Slice :=
  ⟨0, registry.head.1, registry.head.2⟩

def get? (registry : Registry) (name : String) : Option Slice :=
  registry.slices.find? fun slice => slice.name == name

/-- The slices with one of the statuses, in order. -/
def withStatus (registry : Registry) (board : Board) (statuses : List Status) : List Slice :=
  registry.slices.filter fun slice => statuses.contains (board.of slice)

/-! ## Electing the master -/

/-- The master slice, given the value of the control that names it. -/
def electMaster (registry : Registry) (board : Board) : Option String → Slice
  | none => registry.first
  | some wanted =>
    let active := registry.withStatus board [.active]
    let candidates := if active.isEmpty then registry.slices else active
    (candidates.find? fun slice => slice.name == Text.trim wanted).getD registry.first

/-! ## Places and names -/

theorem length_placedFrom (start : Nat) (entries : List NamedConfig) :
    (placedFrom start entries).length = entries.length := by
  induction entries generalizing start with
  | nil => rfl
  | cons entry rest ih => simp [placedFrom, ih]

/-- The places count up from the start. -/
theorem map_place_placedFrom (start : Nat) (entries : List NamedConfig) :
    (placedFrom start entries).map (·.place) = List.range' start entries.length := by
  induction entries generalizing start with
  | nil => rfl
  | cons entry rest ih => simp [placedFrom, ih, List.range'_succ]

theorem map_name_placedFrom (start : Nat) (entries : List NamedConfig) :
    (placedFrom start entries).map (·.name) = entries.map (·.1) := by
  induction entries generalizing start with
  | nil => rfl
  | cons entry rest ih => simp [placedFrom, ih]

/-- The places are given to the entries as they are. -/
theorem map_entry_placedFrom (start : Nat) (entries : List NamedConfig) :
    (placedFrom start entries).map (fun slice => (slice.name, slice.config)) = entries := by
  induction entries generalizing start with
  | nil => rfl
  | cons entry rest ih => simp [placedFrom, ih]

theorem entry_mem_of_mem_slices {registry : Registry} {slice : Slice}
    (member : slice ∈ registry.slices) : (slice.name, slice.config) ∈ registry.entries := by
  rw [← map_entry_placedFrom 0 registry.entries]
  exact List.mem_map_of_mem member

theorem names_eq (registry : Registry) : registry.names = registry.entries.map (·.1) :=
  map_name_placedFrom 0 registry.entries

theorem slices_eq (registry : Registry) :
    registry.slices = registry.first :: placedFrom 1 registry.tail := rfl

/-- The first slice is one of the slices. -/
theorem first_mem (registry : Registry) : registry.first ∈ registry.slices := by
  rw [slices_eq]
  exact List.mem_cons_self

/-- The master is one of the slices. -/
theorem electMaster_mem (registry : Registry) (board : Board) (wanted : Option String) :
    registry.electMaster board wanted ∈ registry.slices := by
  cases wanted with
  | none => exact registry.first_mem
  | some wanted =>
    rw [electMaster]
    split
    · cases found : registry.slices.find? _ with
      | none => exact registry.first_mem
      | some slice => exact List.mem_of_find?_eq_some found
    · cases found : (registry.withStatus board [.active]).find? _ with
      | none => exact registry.first_mem
      | some slice =>
        exact (List.mem_filter.1 (List.mem_of_find?_eq_some found)).1

end Registry

end SliceFleet
