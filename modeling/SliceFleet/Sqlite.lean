/-
SliceFleet.Sqlite — the provider of SQLite databases.

The location of a database is what follows `sqlite:` in the URL, or the
whole URL where the driver is `sqlite` in any case. Two connection
properties are options: `create` allows a missing file to be created,
`max_connections` bounds the pool (four where it is not set, and one for
zero). Building a pool panics if its bound or its timeout is zero
(`poolPanic?`).

A database in memory can always be connected, unless its location is refused;
a file must exist unless it may be created (`Host.open?`).
-/
import SliceFleet.Provider
import SliceFleet.BackendConfig.Options
import SliceFleet.Sqlite.Host

namespace SliceFleet.Sqlite

open Text

/-! ## Reading the configuration -/

def scheme : String := "sqlite:"

def driverName : String := "sqlite"

def namesDriver (config : BackendConfig) : Bool :=
  config.driver.any (sameFolded · driverName)

def location (config : BackendConfig) : Except BackendFault String :=
  match config.url with
  | none => .error (.unsupportedDriver config.target)
  | some url =>
    match afterLead? scheme url with
    | some place => .ok place
    | none => if namesDriver config then .ok url else .error (.unsupportedDriver config.target)

/-- Whether a missing file may be created. -/
def mayCreate (config : BackendConfig) : Bool :=
  (config.options.get? "create").any (sameFolded · "true")

/-- Pools are bounded by numbers of 32 bits. -/
def poolBound : Nat := UInt32.size

/-- The bound of the pool where none is set. -/
def defaultPool : Nat := 4

/-- The bound of the pool as it is set. -/
def poolSize (config : BackendConfig) : Except BackendFault Nat :=
  match config.options.get? "max_connections" with
  | none => .ok defaultPool
  | some text =>
    match numeralBelow poolBound text with
    | .ok size => .ok size
    | .error cause =>
      .error (.internal "sqlite" ("invalid max_connections \"" ++ text ++ "\"") (some cause))

/-! ## Factories -/

/-- A factory of connections to one database. -/
structure SqliteFactory where
  target : String
  location : String
  create : Bool
  maxSize : Nat
deriving DecidableEq, Repr

def SqliteFactory.render (factory : SqliteFactory) : String :=
  "SqliteConnectionFactory \x7b target: " ++ quote factory.target ++ ", max_size: " ++
    Nat.repr factory.maxSize ++ ", .. \x7d"

/-- What building a pool panics with, if it does: both its bounds must be positive. -/
def poolPanic? (size timeout : Nat) : Option String :=
  if size = 0 then some "max_size must be positive"
  else if timeout = 0 then some "connection_timeout must be positive"
  else none

def makeFactory (config : BackendConfig) : Outcome BackendFault SqliteFactory :=
  match location config with
  | .error fault => .failed fault
  | .ok place =>
    match poolSize config with
    | .error fault => .failed fault
    | .ok size =>
      let size := max size 1
      match poolPanic? size config.timeout with
      | some text => .panicked text
      | none => .done ⟨config.target, place, mayCreate config, size⟩

/-! ## Connections -/

/-- A database whose file can not be opened. -/
def unopened (factory : SqliteFactory) : BackendFault :=
  .connectionFailed factory.target
    ("timed out waiting for connection: unable to open database file: " ++ factory.location)

/-- What the location of the database asks for, unless it is refused. -/
def SqliteFactory.request? (factory : SqliteFactory) : Option Request :=
  Sqlite.request? factory.location (if factory.create then .create else .readWrite)

def connect (factory : SqliteFactory) (host : Host) :
    Outcome BackendFault (Option Unit) × Host :=
  match factory.request?.bind host.open? with
  | some host => (.done (some ()), host)
  | none => (.failed (unopened factory), host)

/-- The provider of SQLite databases on a host. -/
def provider : Provider Host SqliteFactory Unit where
  makeFactory config host := (makeFactory config, host)
  connect := connect
  close _ host := (none, host)
  capable _ := false

end SliceFleet.Sqlite
