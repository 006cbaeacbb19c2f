/-
SliceFleet.Sqlite.Path — where the path of a database leads.

The path of a database is made absolute before anything is opened, name by
name: an empty name and `.` fall away, and `..` takes the name before it away,
whether there is such a directory or not. On the way each name is looked for,
and a file in the place of a directory or a name that is too long ends the
search; a missing directory does not. Paths have at most 504 bytes when they
are absolute, and at most 511 on the way.
-/
import SliceFleet.FileStore

namespace SliceFleet.Sqlite

open Text

/-- The greatest size of a path on the way, in bytes. -/
def wayLimit : Nat := 511

/-- The greatest size of an absolute path, in bytes. -/
def pathLimit : Nat := 504

/-- Goes on by a name. A name that does not lead down needs nothing to be there. -/
def enter (files : FileStore) (trail : Trail) (name : Bytes) : Except FilePlace Trail :=
  let onward := trail.step name
  if onward.length ≤ trail.length then .ok onward
  else if wayLimit < onward.path.length then .error .nameTooLong
  else
    match files.nodeAt trail with
    | some (.file _) => .error .notDirectory
    | some .directory =>
      if FileStore.nameLimit < name.length then .error .nameTooLong else .ok onward
    | none => .ok onward

/-- The place that a path leads to if nothing ends the search; the root is none
for a database. -/
def resolve (files : FileStore) (path : Bytes) : Except FilePlace Trail := do
  match ← (Trail.names path).foldlM (enter files) (files.origin path) with
  | [] => .error (.occupied .directory)
  | trail => .ok trail

def placeAt (files : FileStore) (trail : Trail) : FilePlace :=
  if pathLimit < trail.path.length then .nameTooLong
  else
    match files.nodeAt trail with
    | some node => .occupied node
    | none =>
      match files.nodeAt trail.tail with
      | some .directory => .vacant trail
      | some (.file _) => .notDirectory
      | none => .missing

/-- Where the path of a database leads. -/
def locate (files : FileStore) (path : Bytes) : FilePlace :=
  match resolve files path with
  | .ok trail => placeAt files trail
  | .error place => place

end SliceFleet.Sqlite
