/-
SliceFleet.Fault — what can go wrong, by cause.

A `BackendFault` is what one backend reports when a factory or a connection
is asked of it. A `SliceFault` is what the configuration of several slices
reports: no slices, a slice out of reach, none in reach, an unknown name, a
value that can not be interpreted. `message` gives the wording of each.
-/
import SliceFleet.Text.Numeral
import SliceFleet.Text.Quoted

namespace SliceFleet

/-! ## Faults of one backend -/

/-- Why a backend gave no factory, no connection, or could not close one. -/
inductive BackendFault where
  | connectionFailed (target detail : String)
  | noConnection (target : String)
  /-- Nothing is known of the way to this backend. -/
  | unsupportedDriver (driver : String)
  /-- The backend itself went wrong, over a numeral if `cause` says so. -/
  | internal (backend detail : String) (cause : Option Text.NumeralFault)
deriving DecidableEq, Repr

namespace BackendFault

def message : BackendFault → String
  | .connectionFailed target detail => "connection failed to " ++ target ++ ": " ++ detail
  | .noConnection target => "no connection returned by " ++ target
  | .unsupportedDriver driver => "unsupported driver \"" ++ driver ++ "\""
  | .internal backend detail _ => "internal error in " ++ backend ++ ": " ++ detail

def causeText? : BackendFault → Option String
  | .internal _ _ (some cause) => some cause.message
  | _ => none

end BackendFault

/-! ## Faults of a configuration -/

/-- What a property should have held. -/
inductive Expected where
  | sliceNames
  | flag
  | probeMode
  | timeout
deriving DecidableEq, Repr

def Expected.text : Expected → String
  | .sliceNames => "comma-separated slice names without dots"
  | .flag => "true or false"
  | .probeMode => "sequential or parallel"
  | .timeout => "a timeout in milliseconds"

/-- Why a configuration of slices can not be built, connected or asked. -/
inductive SliceFault where
  /-- No slice is named, neither under `namesKey` nor by a key that begins with `sliceLead`. -/
  | noSlices (namesKey sliceLead : String)
  /-- A slice can not be reached and may not be left out. -/
  | unreachable (slice target : String) (cause : BackendFault)
  | noneReachable
  | unknownSlice (name : String) (active : List String)
  /-- A property holds a value that can not be interpreted. -/
  | invalidValue (key value : String) (expected : Expected)
  /-- There is no distribution policy of that name. -/
  | unknownPolicy (name : String) (registered : List String)
deriving DecidableEq, Repr

namespace SliceFault

def message : SliceFault → String
  | .noSlices namesKey sliceLead =>
    "no slice configured: set " ++ namesKey ++ " or provide keys of the form " ++ sliceLead ++
      "<name>.<property>"
  | .unreachable slice target cause =>
    "slice \"" ++ slice ++ "\" can not connect to \"" ++ target ++ "\": " ++ cause.message
  | .noneReachable => "no usable slice: every configured slice failed to connect"
  | .unknownSlice name active =>
    "slice \"" ++ name ++ "\" not found, active slices are " ++ Text.quoteList active
  | .invalidValue key value expected =>
    "invalid value \"" ++ value ++ "\" for " ++ key ++ ": expected " ++ expected.text
  | .unknownPolicy name registered =>
    "unknown distribution policy \"" ++ name ++ "\", registered policies are " ++
      Text.quoteList registered

def causeText? : SliceFault → Option String
  | .unreachable _ _ cause => some cause.message
  | _ => none

end SliceFault

end SliceFleet
