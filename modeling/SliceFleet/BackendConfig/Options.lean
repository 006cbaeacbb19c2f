/-
SliceFleet.BackendConfig.Options — connection properties as options.

Connection properties are items separated by commas. An item is cut at its
first equals sign into a key and a value, both trimmed; an item without the
sign or with a blank key says nothing. Of several items with one key the
last wins.
-/
import SliceFleet.BackendConfig

namespace SliceFleet.BackendConfig

open Text

def optionOfItem? (item : String) : Option (String × String) :=
  match cutString? (· == '=') item with
  | none => none
  | some (key, value) => if trim key == "" then none else some (trim key, trim value)

/-- The options of a list of items. -/
def optionsOfText (text : String) : KeyMap String :=
  KeyMap.ofList ((pieces ',' text).filterMap optionOfItem?)

def options (config : BackendConfig) : KeyMap String :=
  optionsOfText (config.properties.getD "")

end SliceFleet.BackendConfig
