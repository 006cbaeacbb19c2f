/-
SliceFleet.Sqlite.Host — what databases are opened in.

A host has files and databases that are open and shared. A shared database is
known under its name in its layer: a file under its absolute path, a database
in memory under the name that its location gives it. Who asks to share finds
the database there before anything else is looked at, so a path that leads to
no file can be connected while a database in memory has this path for a name.
Databases that were opened stay open.

A file must exist unless it may be created, and with it the file whose mode it
takes over, if one is named; what a database holds is no matter. Files that
are kept in memory are always there; their paths have at most 1016 bytes, of
which at most 1024 are compared.
-/
import SliceFleet.Sqlite.Location
import SliceFleet.Sqlite.Path

namespace SliceFleet.Sqlite

open Text

/-- The name of a shared database. -/
structure SharedName where
  layer : String
  name : Bytes
deriving DecidableEq, Repr

/-- What databases are opened in. -/
structure Host where
  files : FileStore
  /-- The names of the databases that are open and shared. -/
  shared : List SharedName

namespace Host

/-- A host on which nothing is open. -/
def ofFiles (files : FileStore) : Host := ⟨files, []⟩

instance : Inhabited Host := ⟨ofFiles .empty⟩

/-- The greatest size of a path in the layer that keeps files in memory, in bytes. -/
def memoryPathLimit : Nat := 1016

/-- How many bytes of a path are compared in the layer that keeps files in memory. -/
def memoryNameSize : Nat := 1024

/-- The name of a storage in its layer; a storage without a name and a path
that leads nowhere have none. -/
def nameOf? (host : Host) : Storage → Option Bytes
  | .transient => none
  | .memory name => some name
  | .memoryFile path => some (path.take memoryNameSize)
  | .file path _ => (resolve host.files path).toOption.map Trail.path

/-- Opens a file: the host afterwards, unless the file can not be opened. -/
def openFile? (host : Host) (path : Bytes) (access : Access) : Option Host :=
  match locate host.files path with
  | .occupied (.file _) => some host
  | .vacant trail =>
    if access == .create then some { host with files := host.files.put trail .empty } else none
  | _ => none

/-- Opens a database of its own: the host afterwards, unless it can not be opened. -/
def openAlone? (host : Host) (request : Request) : Option Host :=
  match request.storage with
  | .transient => some host
  | .memory _ => some host
  | .memoryFile path => if path.length ≤ memoryPathLimit then some host else none
  | .file path access =>
    if request.model.all host.files.occupies then host.openFile? path access else none

/-- Adds the name of a shared database. -/
def share (host : Host) (name : SharedName) : Host :=
  { host with shared := name :: host.shared }

/-- Opens a database: the host afterwards, unless it can not be opened. -/
def open? (host : Host) (request : Request) : Option Host :=
  if request.shared && request.storage != .transient then do
    let name := ⟨request.layer, ← host.nameOf? request.storage⟩
    if host.shared.contains name then some host
    else (host.openAlone? request).map (·.share name)
  else host.openAlone? request

end Host

end SliceFleet.Sqlite
