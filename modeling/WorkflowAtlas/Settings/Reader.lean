import WorkflowAtlas.Settings.Basic
import WorkflowAtlas.Json.Decoder

/-!
# Reading settings

Settings are written in several formats. A **format** says how a text, a truth value, a number, a
list and the named fields of a record are read off one of its values; settings are read the same way
through each of them. A field that is missing keeps its own value, a field that is there must be of
its kind, and fields of other names are passed over.
-/

namespace WorkflowAtlas

/-- **How the values of a format are read.** -/
structure Format (ν : Type) where
  string? : ν → Option String
  bool? : ν → Option Bool
  nat64? : ν → Option Nat
  list? : ν → Option (List ν)
  /-- The values of the named fields that are there; each is there at most once. -/
  fields? : (names : List String) → ν → Option (List (String × ν))

namespace Format

variable {ν : Type}

/-- A list of texts. -/
def strings? (format : Format ν) (value : ν) : Option (List String) := do
  (← format.list? value).mapM format.string?

/-- The value of a field, or `default` when the field is missing. -/
def field? {α : Type} (fields : List (String × ν)) (name : String) (read : ν → Option α) (default : α) : Option α :=
  match fields.lookup name with
  | some value => read value
  | none => some default

def llmPatterns? (format : Format ν) (value : ν) : Option LlmPatterns := do
  let fields ← format.fields? ["call_patterns", "identifier_patterns", "hint_patterns", "track_bindings"] value
  let standard : LlmPatterns := {}
  return {
    calls := ← field? fields "call_patterns" format.strings? standard.calls
    identifiers := ← field? fields "identifier_patterns" format.strings? standard.identifiers
    hints := ← field? fields "hint_patterns" format.strings? standard.hints
    trackBindings := ← field? fields "track_bindings" format.bool? standard.trackBindings }

def httpObjects? (format : Format ν) (value : ν) : Option Http.Objects := do
  let fields ← format.fields? ["router_objects", "client_objects"] value
  return {
    routers := ← field? fields "router_objects" format.strings? Http.Objects.standard.routers
    clients := ← field? fields "client_objects" format.strings? Http.Objects.standard.clients }

def scanLimits? (format : Format ν) (value : ν) : Option ScanLimits := do
  let fields ← format.fields? ["exclude", "max_file_size"] value
  let standard : ScanLimits := {}
  return {
    exclude := ← field? fields "exclude" format.strings? standard.exclude
    maxFileSize := ← field? fields "max_file_size" format.nat64? standard.maxFileSize }

/-- **The settings that a value of a format spells.** -/
def settings? (format : Format ν) (value : ν) : Option Settings := do
  let fields ← format.fields? ["llm", "http", "scan"] value
  let standard : Settings := {}
  return {
    llm := ← field? fields "llm" format.llmPatterns? standard.llm
    http := ← field? fields "http" format.httpObjects? standard.http
    scan := ← field? fields "scan" format.scanLimits? standard.scan }

/-- The members of an object that have one of some names, if each is there at most once. -/
def known? (names : List String) (members : List (String × ν)) : Option (List (String × ν)) :=
  let known := members.filter fun member => member.1 ∈ names
  if (known.map (·.1)).eraseDups.length = known.length then some known else none

/-- **JSON** as a format of settings. A record may also be an array of its fields in order. -/
def json : Format Document where
  string? doc := (Decoder.string doc).toOption
  bool? doc := (Decoder.bool doc).toOption
  nat64? doc := (Decoder.nat64 doc).toOption
  list? doc := (Decoder.list .ok doc).toOption
  fields? names doc :=
    match doc with
    | .obj _ _ => (Decoder.entries .ok doc).toOption.bind (known? names)
    | .arr _ _ => do
      let items ← (Decoder.list .ok doc).toOption
      if items.length ≤ names.length then some (names.zip items) else none
    | _ => none

end Format

end WorkflowAtlas
