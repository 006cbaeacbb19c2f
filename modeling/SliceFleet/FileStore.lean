/-
SliceFleet.FileStore — files by path.

A path is a string of bytes, cut into names at its slashes; names need not be
text. A store holds files and directories by the names that lead to them from
the root (`Trail`), and has a working directory from which relative paths
start. The working directory and the directories on the way to it exist. A
path is walked name by name: an empty name and `.` stay, `..` goes up, any
other name goes down; all of them need a directory to start from. At its end
there is a node, or a place where one could be created, or neither. A path has
at most 4095 bytes and a name at most 255.
-/
import SliceFleet.KeyMap
import SliceFleet.Text.Split
import SliceFleet.Text.Utf8

namespace SliceFleet

open Text

/-- What a path can lead to. -/
inductive FileNode where
  | file (content : ByteArray)
  | directory

/-- The names that lead to a place from the root, last name first. -/
abbrev Trail := List Bytes

/-- Files and directories by path. -/
structure FileStore where
  workingDirectory : Trail
  nodes : List (Trail × FileNode)

/-- Where a path leads. -/
inductive FilePlace where
  | occupied (node : FileNode)
  /-- To nothing, in a directory that exists; a new node would come here. -/
  | vacant (trail : Trail)
  /-- Nowhere: a directory on the way is missing. -/
  | missing
  /-- Nowhere: a file stands in the place of a directory. -/
  | notDirectory
  /-- Nowhere: the path or one of its names is too long. -/
  | nameTooLong

/-! ## Names -/

namespace Trail

def slash : UInt8 := 0x2F

/-- The name that stays where it is. -/
def stay : Bytes := bytesOf "."

def up : Bytes := bytesOf ".."

/-- The names of a path, those included that lead nowhere else. -/
def names (path : Bytes) : List Bytes :=
  piecesBetween slash path

/-- The path from the root to a place. -/
def path (trail : Trail) : Bytes :=
  trail.reverse.flatMap (slash :: ·)

/-- Goes on by a name, whatever is there. -/
def step (trail : Trail) (name : Bytes) : Trail :=
  if name = [] ∨ name = stay then trail
  else if name = up then trail.tail
  else name :: trail

end Trail

namespace FileStore

/-- No file below a working directory, which is given from the root on. -/
def emptyAt (workingDirectory : List String) : FileStore :=
  ⟨(workingDirectory.map bytesOf).reverse, []⟩

def empty : FileStore := emptyAt []

instance : Inhabited FileStore := ⟨empty⟩

/-- The greatest size of a path in bytes. -/
def pathLimit : Nat := 4095

/-- The greatest size of a name in bytes. -/
def nameLimit : Nat := 255

/-! ## Finding -/

/-- The node at a place. A directory need not be listed if something below it is. -/
def nodeAt (store : FileStore) (trail : Trail) : Option FileNode :=
  if trail.isSuffixOf store.workingDirectory then some .directory
  else
    match store.nodes.lookup trail with
    | some node => some node
    | none =>
      if store.nodes.any fun entry => trail.isSuffixOf entry.1 then some .directory else none

/-- The place that a path starts from. -/
def origin (store : FileStore) (path : Bytes) : Trail :=
  if path.head? = some Trail.slash then [] else store.workingDirectory

def walk (store : FileStore) : Trail → List Bytes → FilePlace
  | trail, [] =>
    match store.nodeAt trail with
    | some node => .occupied node
    | none => .vacant trail
  | trail, name :: ahead =>
    match store.nodeAt trail with
    | none => .missing
    | some (.file _) => .notDirectory
    | some .directory =>
      if nameLimit < name.length then .nameTooLong else walk store (trail.step name) ahead

def locate (store : FileStore) (path : Bytes) : FilePlace :=
  if path = [] then .missing
  else if pathLimit < path.length then .nameTooLong
  else walk store (store.origin path) (Trail.names path)

/-- Whether the path leads to a node. -/
def occupies (store : FileStore) (path : Bytes) : Bool :=
  match store.locate path with
  | .occupied _ => true
  | _ => false

/-- The places that a walk comes by. -/
def waypointsFrom : Trail → List Bytes → List Trail
  | _, [] => []
  | trail, name :: ahead => trail.step name :: waypointsFrom (trail.step name) ahead

/-- All places on the way to a path; where it leads depends on the nodes there
alone. -/
def waypoints (store : FileStore) (path : Bytes) : List Trail :=
  waypointsFrom (store.origin path) (Trail.names path)

/-! ## Putting -/

def putNode (store : FileStore) (trail : Trail) (node : FileNode) : FileStore :=
  { store with nodes := (trail, node) :: store.nodes.filter fun entry => entry.1 != trail }

def put (store : FileStore) (trail : Trail) (content : ByteArray) : FileStore :=
  store.putNode trail (.file content)

/-- Puts a file at the end of a path, whatever is on the way. -/
def write (store : FileStore) (path : String) (content : ByteArray) : FileStore :=
  store.put ((Trail.names (bytesOf path)).foldl Trail.step (store.origin (bytesOf path))) content

/-! ## Listing -/

/-- The path from the working directory to a place below it, as it is shown. -/
def shownBelow? (store : FileStore) (trail : Trail) : Option String :=
  if store.workingDirectory.isSuffixOf trail then
    some (String.intercalate "/"
      ((trail.take (trail.length - store.workingDirectory.length)).reverse.map shown))
  else none

/-- What is shown of the nodes below the working directory, in order; nodes that
are shown alike are listed once. -/
def listing (store : FileStore) : List String :=
  (KeyMap.ofList ((store.nodes.filterMap fun entry => store.shownBelow? entry.1).map
    fun name => (name, ()))).keys

theorem listing_ascending (store : FileStore) : store.listing.Pairwise (· < ·) :=
  KeyMap.keys_ascending _

/-! ## Reading text -/

/-- Why no text can be read at a path. -/
inductive ReadFault where
  | noSuchFile
  | isDirectory
  /-- A file stands in the place of a directory. -/
  | notDirectory
  /-- The path or one of its names is too long. -/
  | nameTooLong
  | notText
deriving DecidableEq, Repr

def ReadFault.message : ReadFault → String
  | .noSuchFile => "No such file or directory (os error 2)"
  | .isDirectory => "Is a directory (os error 21)"
  | .notDirectory => "Not a directory (os error 20)"
  | .nameTooLong => "File name too long (os error 36)"
  | .notText => "stream did not contain valid UTF-8"

def readText (store : FileStore) (path : String) : Except ReadFault String :=
  match store.locate (bytesOf path) with
  | .occupied (.file content) =>
    match String.fromUTF8? content with
    | some text => .ok text
    | none => .error .notText
  | .occupied .directory => .error .isDirectory
  | .vacant _ => .error .noSuchFile
  | .missing => .error .noSuchFile
  | .notDirectory => .error .notDirectory
  | .nameTooLong => .error .nameTooLong

end FileStore

end SliceFleet
