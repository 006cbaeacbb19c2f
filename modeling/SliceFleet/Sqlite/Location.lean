/-
SliceFleet.Sqlite.Location — what the location of a database asks for.

A location is the path of a file, `:memory:`, empty, or a URI that begins
with `file:`. A URI may name this host, and may have options behind a
question mark: `mode` narrows the access or asks for a database in memory,
`cache` says whether the database is shared, `vfs` names the layer over the
file system, `modeof` names a file whose mode a new file takes over; other
options are passed over. Path, names and values may spell out bytes by two
hexadecimal digits behind a percent sign, also bytes that are no text; the
byte zero ends the piece that it stands in. What stands behind a number sign
is no part of the URI.
-/
import SliceFleet.Text.Numeral
import SliceFleet.Text.Split
import SliceFleet.Text.Utf8

namespace SliceFleet.Sqlite

open Text

/-! ## Storage -/

/-- How a database may be opened. -/
inductive Access where
  | readOnly
  | readWrite
  /-- A file, which is created if it is missing. -/
  | create
  | memory
deriving DecidableEq, Repr

/-- Whether one access can be narrowed to another. -/
def Access.allows : Access → Access → Bool
  | .memory, _ => true
  | _, .memory => true
  | .create, _ => true
  | .readWrite, narrower => narrower != .create
  | .readOnly, narrower => narrower == .readOnly

/-- Where a database is kept. -/
inductive Storage where
  /-- Nowhere: it has no name and vanishes with the connection. -/
  | transient
  | memory (name : Bytes)
  /-- In a file of the layer that keeps files in memory. -/
  | memoryFile (path : Bytes)
  | file (path : Bytes) (access : Access)
deriving DecidableEq, Repr

/-- The location of a database in memory. -/
def inMemory : String := ":memory:"

/-- The layer that keeps files in memory. -/
def memoryLayer : String := "memdb"

/-- The layers that there are; the first one is used where none is named. -/
def layers : List String :=
  ["unix", "unix-none", "unix-dotfile", "unix-excl", memoryLayer]

/-- The layer that is used where none is named. -/
def defaultLayer : String := layers.headD ""

/-- The storage under a path, which may also be that of no file. -/
def Storage.ofPath (path : Bytes) (access : Access) (layer : String) : Storage :=
  if path = [] then .transient
  else if access == .memory || path == bytesOf inMemory then .memory path
  else if layer == memoryLayer then .memoryFile path
  else .file path access

/-- What a location asks for. -/
structure Request where
  storage : Storage
  layer : String
  /-- Whether the database is shared with others who ask for it. -/
  shared : Bool
  /-- The path of the file whose mode a new file takes over. -/
  model : Option Bytes
deriving DecidableEq, Repr

def Request.ofPath (path : String) (access : Access) : Request :=
  ⟨.ofPath (bytesOf path) access defaultLayer, defaultLayer, false, none⟩

/-! ## Spelled-out bytes -/

/-- The byte that two hexadecimal digits spell out. -/
def byte? (a b : Char) : Option Nat := do
  let high ← hexValue? a
  let low ← hexValue? b
  return high * 16 + low

/-- The bytes of a piece, up to a byte that is zero. -/
def pieceBytes : List Char → Bytes
  | [] => []
  | '%' :: a :: b :: rest =>
    match byte? a b with
    | some 0 => []
    | some byte => byte.toUInt8 :: pieceBytes rest
    | none => String.utf8EncodeChar '%' ++ pieceBytes (a :: b :: rest)
  | c :: rest => String.utf8EncodeChar c ++ pieceBytes rest

/-- A piece of a URI with its bytes spelled in. -/
def decode (piece : String) : Bytes :=
  pieceBytes piece.toList

/-! ## URIs -/

def uriLead : String := "file:"

/-- The two sides of the first separator; without one there is nothing behind it. -/
def sides (sep : Char) (s : String) : String × String :=
  (cutString? (· == sep) s).getD (s, "")

/-- A URI without its beginning and its host, if that is this one. -/
def withoutHost? (rest : String) : Option String :=
  match afterLead? "//" rest with
  | none => some rest
  | some hierarchy =>
    let host := String.ofList (hierarchy.toList.takeWhile (· != '/'))
    if host == "" || host == "localhost" then
      some (String.ofList (hierarchy.toList.dropWhile (· != '/')))
    else none

/-- An option of a URI. Its name and value are shown as text, which changes no
word that has a meaning here; the value is kept as it is, too. -/
structure UriOption where
  name : String
  word : String
  value : Bytes
deriving DecidableEq, Repr

/-- The options of a URI; one without a name does not count. -/
def optionsOf (query : String) : List UriOption :=
  (pieces '&' query).filterMap fun option =>
    let (name, value) := sides '=' option
    if decode name = [] then none
    else some ⟨shown (decode name), shown (decode value), decode value⟩

/-- What the options of a URI have settled so far. -/
structure Settled where
  access : Access
  layer : String
  shared : Bool
  /-- The path of the file whose mode a new file takes over. -/
  model : Option Bytes
deriving DecidableEq, Repr

/-- The access that a value of `mode` stands for. -/
def mode? : String → Option Access
  | "ro" => some .readOnly
  | "rw" => some .readWrite
  | "rwc" => some .create
  | "memory" => some .memory
  | _ => none

/-- Whether a value of `cache` asks for sharing. -/
def sharing? : String → Option Bool
  | "shared" => some true
  | "private" => some false
  | _ => none

/-- Takes an option, unless its value is refused. Of repeated options the last
one counts, of `modeof` the first one. -/
def Settled.take (settled : Settled) (option : UriOption) : Option Settled :=
  match option.name with
  | "vfs" => some { settled with layer := option.word }
  | "cache" => do
    let shared ← sharing? option.word
    some { settled with shared }
  | "mode" => do
    let access ← mode? option.word
    if settled.access.allows access then some { settled with access } else none
  | "modeof" => some { settled with model := settled.model.or (some option.value) }
  | _ => some settled

/-- What a URI asks for, given what follows its beginning. -/
def requestOfUri? (rest : String) (access : Access) : Option Request := do
  let hierarchy ← withoutHost? rest
  let (path, query) := sides '?' (sides '#' hierarchy).1
  let settled ← (optionsOf query).foldlM Settled.take ⟨access, defaultLayer, false, none⟩
  if layers.contains settled.layer then
    some ⟨.ofPath (decode path) settled.access settled.layer, settled.layer, settled.shared,
      settled.model⟩
  else none

/-- What a location asks for, unless it is refused. -/
def request? (location : String) (access : Access) : Option Request :=
  if hasChar '\x00' location then none
  else
    match afterLead? uriLead location with
    | some rest => requestOfUri? rest access
    | none => some (.ofPath location access)

end SliceFleet.Sqlite
