import WorkflowAtlas.Settings.Reader
import WorkflowAtlas.Yaml.Node
import WorkflowAtlas.Text.Blank

/-!
# Settings in YAML

YAML as a format of settings. Any scalar is a text. Truth values and numbers are plain, or literal blocks
with the tag of their kind. An empty plain scalar stands for a list without items and for a record
without fields.
-/

namespace WorkflowAtlas

namespace YamlValue

/-- The text of a plain scalar, or of a literal block with a tag. -/
def plainText? (tag : String) (value : YamlValue) : Option String :=
  match value.target? with
  | some (.scalar _ .plain _ text) => some text
  | some (.scalar _ .literal own text) => if own = some tag then some text else none
  | _ => none

/-- Whether a value is an empty plain scalar. -/
def isBare (node : YamlNode) : Bool :=
  match node with
  | .scalar _ .plain _ "" => true
  | _ => false

/-- The truth value that a word spells. -/
def boolOf? (word : String) : Option Bool :=
  if word ∈ ["true", "True", "TRUE"] then some true
  else if word ∈ ["false", "False", "FALSE"] then some false
  else none

/-- A number from digits of a base, if there are some and it fits 64 bits. -/
def natOf? (base : Nat) (digits : List Char) : Option Nat :=
  if digits.isEmpty then none else (Text.ofBase? base digits).filter (· < Text.bound64)

/-- The number that a word spells: a sign `+` may stand in front, a base other than ten has its mark, and
a decimal number of several digits does not start with zero. -/
def nat64Of? (word : String) : Option Nat :=
  match (match word.toList with
    | '+' :: rest => rest
    | cs => cs) with
  | '0' :: 'x' :: digits => natOf? 16 digits
  | '0' :: 'o' :: digits => natOf? 8 digits
  | '0' :: 'b' :: digits => natOf? 2 digits
  | '0' :: _ :: _ => none
  | digits => natOf? 10 digits

/-- The members of a mapping by the texts of their keys, which must be scalars. -/
def members? (value : YamlValue) (members : List (YamlNode × YamlNode)) : Option (List (String × YamlValue)) :=
  members.mapM fun (key, item) =>
    match (value.withNode key).target? with
    | some (.scalar _ _ _ text) => some (text, value.withNode item)
    | _ => none

end YamlValue

/-- **YAML** as a format of settings. -/
def Format.yaml : Format YamlValue where
  string? value :=
    match value.target? with
    | some (.scalar _ _ _ text) => some text
    | _ => none
  bool? value := (value.plainText? "tag:yaml.org,2002:bool").bind YamlValue.boolOf?
  nat64? value := (value.plainText? "tag:yaml.org,2002:int").bind YamlValue.nat64Of?
  list? value :=
    match value.target? with
    | some (.sequence _ items) => some (items.map value.withNode)
    | some node => if YamlValue.isBare node then some [] else none
    | none => none
  fields? names value :=
    match value.target? with
    | some (.mapping _ members) => do known? names (← value.members? members)
    | some node => if YamlValue.isBare node then some [] else none
    | none => none

/-- **The settings that a YAML text spells**; a blank text spells the standard ones. -/
def Settings.ofYaml? (text : String) : Option Settings :=
  if Text.isAllBlank text then some {}
  else do Format.yaml.settings? (← YamlValue.parse? text)

end WorkflowAtlas
