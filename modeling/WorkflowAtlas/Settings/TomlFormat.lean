import WorkflowAtlas.Settings.Reader
import WorkflowAtlas.Toml.Reader

/-!
# Settings in TOML

TOML as a format of settings. A record is a table; it may also be an array of its fields in order, and
a date stands for a record without fields.
-/

namespace WorkflowAtlas

/-- **TOML** as a format of settings. -/
def Format.toml : Format Toml where
  string?
    | .string text => some text
    | _ => none
  bool?
    | .boolean value => some value
    | _ => none
  nat64?
    | .integer (.ofNat number) => some number
    | _ => none
  list?
    | .array items => some items
    | .tables items => some items
    | _ => none
  fields? names
    | .table _ members => known? names members
    | .array items => some (names.zip items)
    | .tables items => some (names.zip items)
    | .date => some []
    | _ => none

/-- **The settings that a TOML text spells.** -/
def Settings.ofToml? (text : String) : Option Settings := do
  Format.toml.settings? (← Toml.parse? text)

end WorkflowAtlas
