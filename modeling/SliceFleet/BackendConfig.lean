/-
SliceFleet.BackendConfig — the configuration of one backend.

Seven settings are recognised under the root: an identity, a connection URL,
a driver name, connection properties, a user name, a password and a bound on
a connection attempt in milliseconds. Every other property is kept verbatim
(`extra`). `ofProperties` reads a configuration from properties and can only
fail on the timeout; `toProperties` writes it back, the password only where
secrets are wanted.
-/
import SliceFleet.Keyspace
import SliceFleet.Properties
import SliceFleet.Fault

namespace SliceFleet

/-- The recognised settings of a backend. -/
inductive Setting where
  | id
  | url
  /-- The driver name, used where there is no URL. -/
  | driver
  /-- Properties for the driver, a list of `key=value`. -/
  | properties
  | user
  | password
  | timeout
deriving DecidableEq, Repr

/-- The word of a setting in its key. -/
def Setting.word : Setting → String
  | .id => "Id"
  | .url => "ConnectionURL"
  | .driver => "ConnectionDriverName"
  | .properties => "ConnectionProperties"
  | .user => "ConnectionUserName"
  | .password => "ConnectionPassword"
  | .timeout => "ConnectTimeout"

def Setting.all : List Setting :=
  [.id, .url, .driver, .properties, .user, .password, .timeout]

theorem Setting.mem_all (setting : Setting) : setting ∈ Setting.all := by
  cases setting <;> decide

/-- The key of a setting under the root. -/
def Keyspace.settingKey (keys : Keyspace) (setting : Setting) : String :=
  keys.globalKey setting.word

/-- Whether the key is that of a setting under the root. -/
def Keyspace.isSetting (keys : Keyspace) (key : String) : Bool :=
  Setting.all.any fun setting => keys.settingKey setting == key

/-- The configuration of one backend. -/
structure BackendConfig where
  root : String
  id : String
  url : Option String
  driver : Option String
  properties : Option String
  user : Option String
  password : Option String
  /-- The bound on a connection attempt, in milliseconds. -/
  timeout : Nat
  extra : Properties
deriving DecidableEq

namespace BackendConfig

/-- The bound on a connection attempt where none is set. -/
def defaultTimeout : Nat := 5000

def timeoutBound : Nat := UInt64.size

def blank (keys : Keyspace) : BackendConfig where
  root := keys.root
  id := ""
  url := none
  driver := none
  properties := none
  user := none
  password := none
  timeout := defaultTimeout
  extra := ∅

/-! ## Reading -/

/-- Reads the timeout from its property, which is trimmed first. -/
def timeoutOf (keys : Keyspace) (p : Properties) : Except SliceFault Nat :=
  match p.get? (keys.settingKey .timeout) with
  | none => .ok defaultTimeout
  | some text =>
    match Text.numeralBelow timeoutBound (Text.trim text) with
    | .ok millis => .ok millis
    | .error _ => .error (.invalidValue (keys.settingKey .timeout) text .timeout)

def ofProperties (keys : Keyspace) (p : Properties) : Except SliceFault BackendConfig := do
  let timeout ← timeoutOf keys p
  return {
    root := keys.root
    id := (p.get? (keys.settingKey .id)).getD ""
    url := p.get? (keys.settingKey .url)
    driver := p.get? (keys.settingKey .driver)
    properties := p.get? (keys.settingKey .properties)
    user := p.get? (keys.settingKey .user)
    password := p.get? (keys.settingKey .password)
    timeout
    extra := p.filterKeys fun key => !keys.isSetting key
  }

/-! ## Writing -/

def keys (config : BackendConfig) : Keyspace := ⟨config.root⟩

def id? (config : BackendConfig) : Option String :=
  if config.id == "" then none else some config.id

/-- Writes a configuration: the other properties, overlaid by the settings. -/
def toProperties (config : BackendConfig) (secrets : Bool) : Properties :=
  let key := config.keys.settingKey
  config.extra
    |>.insertSome (key .id) config.id?
    |>.insertSome (key .url) config.url
    |>.insertSome (key .driver) config.driver
    |>.insertSome (key .properties) config.properties
    |>.insertSome (key .user) config.user
    |>.insertSome (key .password) (if secrets then config.password else none)
    |>.insert (key .timeout) (Nat.repr config.timeout)

/-! ## What the connection is called -/

/-- The target of the connection as messages show it: the URL, else the driver
with the connection properties in parentheses. -/
def target (config : BackendConfig) : String :=
  match config.url, config.driver, config.properties with
  | some url, _, _ => url
  | none, some driver, some properties => driver ++ "(" ++ properties ++ ")"
  | none, some driver, none => driver
  | none, none, _ => "<unknown>"

end BackendConfig

end SliceFleet
