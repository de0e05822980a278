import IncomUdon.SchemaTargets.Repository

/-! The schema-target manifest: its JSON Schema as a predicate, and `_load_manifest`. A violation is
    recorded and the value is handed on, so what comes back is one of

        None    one error      a file could not be loaded, or the manifest is `null`
        value   no error       the checker found no violation
        value   one error      it found one  -/

namespace IncomUdon.SchemaTargets
open IncomUdon.Python IncomUdon.Lib.ErrorLog

/-- `MANIFEST_PATH`. -/
def manifestPath : String := "tools/vector-schema-targets.json"

/-- `MANIFEST_SCHEMA_PATH`. -/
def manifestSchemaPath : String := "tools/vector-schema-targets.schema.json"

/-! ### The manifest schema -/

/-- `"type": "string"` and another keyword. -/
def textSchema (keyword : String) (argument : Json) : Json :=
  .obj [("type", .str "string"), (keyword, argument)]

/-- The items of `targets`. -/
def targetSchema : Json :=
  .obj [("type", .str "object"),
    ("required", .arr [.str "name", .str "vector", .str "pointer", .str "schema"]),
    ("properties", .obj [
      ("name", textSchema "minLength" (.int 1)),
      ("vector", textSchema "pattern" (.str "^test-vectors/.+\\.json$")),
      ("pointer", textSchema "pattern" (.str "^(?:/.*)?$")),
      ("schema", textSchema "pattern" (.str "^schemas/.+\\.schema\\.json$")),
      ("each", .obj [("type", .str "boolean")]),
      ("itemPointer", textSchema "pattern" (.str "^(?:/.*)?$")),
      ("encoding", .obj [("enum", .arr [.str "object", .str "json-string"])]),
      ("expected", .obj [("enum", .arr [.str "valid", .str "invalid"])])]),
    ("additionalProperties", .bool false)]

/-- `tools/vector-schema-targets.schema.json`. -/
def manifestSchema : Json :=
  .obj [("$schema", .str "https://json-schema.org/draft/2020-12/schema"),
    ("title", .str "IncomUdon reference validator schema-target manifest"),
    ("type", .str "object"),
    ("required", .arr [.str "manifestVersion", .str "targets"]),
    ("properties", .obj [
      ("manifestVersion", .obj [("const", .int 1)]),
      ("targets", .obj [("type", .str "array"), ("minItems", .int 1), ("items", targetSchema)])]),
    ("additionalProperties", .bool false)]

/-- The text that `re.search` compares with a pattern `^…$`: `$` also stands before a final line
    break. -/
def line (text : String) : List Char :=
  if text.toList.getLast? = some '\n' then text.toList.dropLast else text.toList

/-- `^front.+back$`. -/
def matchesPath (front back text : String) : Bool :=
  !(line text).contains '\n' && front.toList.isPrefixOf (line text) &&
    back.toList.isSuffixOf (line text) && decide (front.length + back.length < (line text).length)

/-- `^(?:/.*)?$`. -/
def matchesPointer (text : String) : Bool :=
  (line text).isEmpty || (line text).head? = some '/' && !(line text).contains '\n'

/-- `"type": "string"` and a condition on the text. -/
def isText (p : String → Bool) : Json → Bool
  | .str text => p text
  | _ => false

/-- `"type": "boolean"`. -/
def isBoolean : Json → Bool
  | .bool _ => true
  | _ => false

/-- `"const": 1`; no boolean is a number here. -/
def isOne : Json → Bool
  | .int n => n = 1
  | .float x => x = .finite 1
  | _ => false

/-- `"type": "array"` with `minItems` and `items`. -/
def isArray (minItems : ℕ) (item : Json → Bool) : Json → Bool
  | .arr items => decide (minItems ≤ items.length) && items.all item
  | _ => false

/-- `"type": "object"` with `required` and `properties`, and no additional ones. -/
def isRecord (required : List String) (properties : List (String × (Json → Bool))) : Json → Bool
  | .obj d => required.all (Dict.has d) && d.all fun m => (properties.lookup m.1).any fun p => p m.2
  | _ => false

/-- The properties of a target. -/
def targetProperties : List (String × (Json → Bool)) :=
  [("name", isText fun text => 1 ≤ text.length),
    ("vector", isText (matchesPath "test-vectors/" ".json")),
    ("pointer", isText matchesPointer),
    ("schema", isText (matchesPath "schemas/" ".schema.json")),
    ("each", isBoolean),
    ("itemPointer", isText matchesPointer),
    ("encoding", isText fun text => text = "object" ∨ text = "json-string"),
    ("expected", isText fun text => text = "valid" ∨ text = "invalid")]

/-- A value that `targetSchema` accepts. -/
def isTarget : Json → Bool := isRecord ["name", "vector", "pointer", "schema"] targetProperties

/-- A value that the manifest schema accepts. -/
def isManifest : Json → Bool :=
  isRecord ["manifestVersion", "targets"] [("manifestVersion", isOne),
    ("targets", isArray 1 isTarget)]

example : isTarget (.obj [("name", .str "Floor"), ("vector", .str "test-vectors/floor.json"),
    ("pointer", .str "/cases"), ("schema", .str "schemas/floor.schema.json"), ("each", .bool true)]) = true := by
  decide

section Record
variable {required : List String} {properties : List (String × (Json → Bool))} {value v : Json}
  {d : Dict} {key : String} {p : Json → Bool}

/-- A member that is there satisfies its property. -/
theorem property_of_isRecord (h : isRecord required properties (.obj d) = true)
    (hkey : properties.lookup key = some p) (hv : d.lookup key = some v) : p v = true := by
  simp only [isRecord, Bool.and_eq_true, List.all_eq_true] at h
  simpa [hkey] using h.2 (key, v) (mem_of_lookup hv)

/-- A required member is there and satisfies its property. -/
theorem required_of_isRecord (key : String) (h : isRecord required properties (.obj d) = true)
    (hreq : key ∈ required)
    (hkey : properties.lookup key = some p) : ∃ v, d.lookup key = some v ∧ p v = true := by
  have hd := h
  simp only [isRecord, Bool.and_eq_true, List.all_eq_true] at hd
  obtain ⟨v, hv⟩ := Option.isSome_iff_exists.mp (hd.1 key hreq)
  exact ⟨v, hv, property_of_isRecord h hkey hv⟩

theorem isText_iff {q : String → Bool} : isText q value = true ↔
    ∃ text, value = .str text ∧ q text = true := by
  cases value <;> simp [isText]

theorem exists_obj_of_isRecord (h : isRecord required properties value = true) :
    ∃ d, value = .obj d := by
  cases value with
  | obj d => exact ⟨d, rfl⟩
  | _ => cases h

theorem isArray_iff {minItems : ℕ} : isArray minItems p value = true ↔
    ∃ items, value = .arr items ∧ minItems ≤ items.length ∧ ∀ item ∈ items, p item = true := by
  cases value <;> simp [isArray]

/-- The targets of a manifest that the schema accepts. -/
theorem targets_of_isManifest (h : isManifest value = true) : ∃ d items, value = .obj d ∧
    d.lookup "targets" = some (.arr items) ∧ ∀ target ∈ items, isTarget target = true := by
  obtain ⟨d, rfl⟩ := exists_obj_of_isRecord h
  obtain ⟨targets, htargets, harray⟩ := required_of_isRecord "targets" h (by decide) rfl
  obtain ⟨items, rfl, -, hitems⟩ := isArray_iff.mp harray
  exact ⟨d, items, rfl, htargets, hitems⟩

end Record

/-! ### Loading it -/

/-- `_validation_summary`, which reads the first error. -/
def validationSummary (first : Violation) : Msg :=
  let location : Msg :=
    match first.absolutePath with
    | [] | [.str ""] => ["<root>"]
    | parts => (parts.map .val).intersperse "/"
  location.add [": ", first.message]

variable (repo : Repository) (lib : Library)

/-- The manifest and the errors of the checker. -/
def readManifest : Py (Json × List Violation) := do
  let manifest ← loadPath repo lib manifestPath
  let manifestSchema ← loadPath repo lib manifestSchemaPath
  return (manifest, lib.iterErrors manifestSchema manifest)

/-- `_load_manifest`; `None` is `null`. -/
def loadManifest : Py (Json × List Msg) :=
  match readManifest repo lib with
  | .ok (manifest, []) => .ok (manifest, [])
  | .ok (manifest, first :: _) =>
      .ok (manifest, [Msg.add [manifestPath, ": "] (validationSummary first)])
  | .error (.vectorValidation msg) =>
      .ok (.null, [Msg.add [manifestPath, ": invalid manifest: "] msg])
  | .error (.fault kind) => fails kind

/-- The checker reports whatever violates the manifest schema. -/
def SoundForManifest : Prop :=
  ∀ schema, loadPath repo lib manifestSchemaPath = .ok schema →
    ∀ value, isManifest value = false → lib.iterErrors schema value ≠ []

section Load
variable {repo lib} {value schema : Json} {msg : Msg} {kind : Fault}

/-- When both files load, the manifest comes back, with an error if the checker found a violation. -/
theorem loadManifest_of_loaded (hfound : loadPath repo lib manifestPath = .ok value)
    (hschema : loadPath repo lib manifestSchemaPath = .ok schema) :
    ∃ errors, loadManifest repo lib = .ok (value, errors) ∧
      (errors = [] ↔ lib.iterErrors schema value = []) := by
  have hread : readManifest repo lib = .ok (value, lib.iterErrors schema value) := by
    rw [readManifest, hfound, hschema]
    rfl
  rw [loadManifest, hread]
  cases lib.iterErrors schema value with
  | nil => exact ⟨[], rfl, by simp⟩
  | cons first rest => exact ⟨_, rfl, by simp⟩

/-- A manifest schema that cannot be loaded is reported in place of the manifest. -/
theorem loadManifest_of_invalid (hfound : loadPath repo lib manifestPath = .ok value)
    (hschema : loadPath repo lib manifestSchemaPath = .error (.vectorValidation msg)) :
    loadManifest repo lib = .ok (.null, [Msg.add [manifestPath, ": invalid manifest: "] msg]) := by
  rw [loadManifest, readManifest, hfound, hschema]
  rfl

theorem loadManifest_of_fault (hfound : loadPath repo lib manifestPath = .ok value)
    (hschema : loadPath repo lib manifestSchemaPath = .error (.fault kind)) :
    loadManifest repo lib = fails kind := by
  rw [loadManifest, readManifest, hfound, hschema]
  rfl

end Load

end IncomUdon.SchemaTargets
