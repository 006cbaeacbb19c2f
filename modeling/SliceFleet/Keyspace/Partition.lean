/-
SliceFleet.Keyspace.Partition — the private properties of one slice.

A slice sees its own properties under the keys of defaults, every default
that it does not override, and every key outside the root. It sees nothing
else under the slice lead: no control and no property of another slice.
`route` decides this key by key.
-/
import SliceFleet.Keyspace
import SliceFleet.Properties

namespace SliceFleet.Keyspace

open Text

/-- The entry that a slice gets from one entry of the whole namespace. -/
def route (keys : Keyspace) (whole : Properties) (slice : String) (entry : String × String) :
    Option (String × String) :=
  match afterLead? (keys.ownLead slice) entry.1 with
  | some property => some (keys.globalKey property, entry.2)
  | none =>
    if beginsWith keys.sliceLead entry.1 then none
    else
      match afterLead? keys.globalLead entry.1 with
      | some property => if whole.contains (keys.sliceKey slice property) then none else some entry
      | none => some entry

def partition (keys : Keyspace) (whole : Properties) (slice : String) : Properties :=
  KeyMap.ofList (whole.entries.filterMap (keys.route whole slice))

/-- The properties outside the slice lead, which configure all slices together. -/
def globalProperties (keys : Keyspace) (whole : Properties) : Properties :=
  whole.filterKeys fun key => !beginsWith keys.sliceLead key

end SliceFleet.Keyspace
