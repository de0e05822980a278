import IncomUdon.SpecVersion.Gate

/-! The documents of the structural suite that no target reads: every JSON Schema, and the OpenAPI
    document of the Management API. Each is loaded and handed to a library that checks it:

        schemas/*.json      load_json   ──▶ check_schema
        openapi-v1.yaml     safe_load   ──▶ 3.1.0, an object of paths ──▶ validate_openapi

    EXACT: what is accepted, and when an exception goes through. -/

namespace IncomUdon.Validator
open IncomUdon.Python IncomUdon.SchemaTargets IncomUdon.SpecVersion IncomUdon.Lib.ErrorLog

/-- What a library raises: an exception of the classes that the caller catches, with its text, or
    another. -/
inductive Failure where
  | caught (text : String)
  | other (kind : Fault)

/-- What `yaml.safe_load` returns. -/
inductive Yaml where
  | str (text : String)
  | mapping (entries : List (Yaml × Yaml))
  | sequence (items : List Yaml)
  | scalar (text : String)

namespace Yaml

/-- `value == text`. -/
def isText (text : String) : Yaml → Bool
  | .str other => other = text
  | _ => false

/-- `isinstance(value, dict)`. -/
def isMapping : Yaml → Bool
  | .mapping _ => true
  | _ => false

/-- `document.get(key)`. -/
def get (entries : List (Yaml × Yaml)) (key : String) : Option Yaml :=
  (entries.find? fun entry => entry.1.isText key).map Prod.snd

theorem any_isText {value : Option Yaml} {text : String} :
    value.any (isText text) = true ↔ value = some (.str text) := by
  rcases value with _ | value
  · simp
  · cases value <;> simp [isText]

theorem any_isMapping {value : Option Yaml} :
    value.any isMapping = true ↔ ∃ entries, value = some (.mapping entries) := by
  rcases value with _ | value
  · simp
  · cases value <;> simp [isMapping]

end Yaml

/-- The library functions that the structural suite calls. -/
structure DocumentLibrary extends Library where
  /-- `Draft202012Validator.check_schema`. -/
  checkSchema : Json → Except Failure Unit
  /-- `yaml.safe_load`. -/
  safeLoad : String → Except Failure Yaml
  /-- `validate_openapi(document, base_uri=uri, cls=OpenAPIV31SpecValidator)`. -/
  validateOpenapi : List (Yaml × Yaml) → String → Except Failure Unit

/-- A checkout and what else is asked about its files. -/
structure DocumentCheckout extends Checkout where
  /-- `path.read_text(encoding="utf-8")`. -/
  readUtf8 : String → Except ReadError String
  /-- `path.resolve().as_uri()`. -/
  uriOf : String → Except Fault String

variable (lib : DocumentLibrary) (checkout : DocumentCheckout)

/-! ### JSON Schemas -/

/-- One schema file. -/
def checkSchemaFile (relative : String) : Py (List Msg) :=
  match loadJson checkout.toRepository lib.toLibrary (checkout.file relative) with
  | .error (.vectorValidation msg) => .ok [Msg.add [relative, ": invalid JSON Schema: "] msg]
  | .error (.fault kind) => fails kind
  | .ok schema =>
    match lib.checkSchema schema with
    | .ok () => .ok []
    | .error (.caught text) => .ok [[relative, ": invalid JSON Schema: ", text]]
    | .error (.other kind) => fails kind

/-- `validate_schema_documents`. -/
def validateSchemaDocuments : Py (List Msg) := do
  let entries ← (sortedPaths checkout.schemaFiles).mapM (checkSchemaFile lib checkout)
  return entries.flatten

/-- The file is JSON, and a JSON Schema. -/
def SchemaAccepted (relative : String) : Prop :=
  ∃ schema, loadJson checkout.toRepository lib.toLibrary (checkout.file relative) = .ok schema ∧
    lib.checkSchema schema = .ok ()

/-- The file can be read, and what it holds is checked or refused. -/
def SchemaHandled (relative : String) : Prop :=
  FileReadable checkout.toRepository lib.toLibrary (checkout.file relative) ∧
    ∀ schema, loadJson checkout.toRepository lib.toLibrary (checkout.file relative) = .ok schema →
      ∀ kind, lib.checkSchema schema ≠ .error (.other kind)

section Schemas
variable {lib checkout} {relative : String}

theorem checkSchemaFile_eq_nil : checkSchemaFile lib checkout relative = .ok [] ↔
    SchemaAccepted lib checkout relative := by
  unfold checkSchemaFile SchemaAccepted
  rcases loadJson checkout.toRepository lib.toLibrary (checkout.file relative) with
    (msg | kind) | schema
  · simp
  · simp
  · rcases hcheck : lib.checkSchema schema with (text | kind) | u
    · simp [hcheck]
    · simp [hcheck]
    · simp [hcheck]

theorem checkSchemaFile_isOk : (∃ entries, checkSchemaFile lib checkout relative = .ok entries) ↔
    SchemaHandled lib checkout relative := by
  unfold checkSchemaFile SchemaHandled
  rw [← throwsOnly_loadJson]
  rcases loadJson checkout.toRepository lib.toLibrary (checkout.file relative) with
    (msg | kind) | schema
  · simp
  · simp
  · rcases hcheck : lib.checkSchema schema with (text | kind) | u
    · simp [hcheck]
    · simp [hcheck]
    · simp [hcheck]

theorem validateSchemaDocuments_eq_nil : validateSchemaDocuments lib checkout = .ok [] ↔
    ∀ path ∈ checkout.schemaFiles, SchemaAccepted lib checkout path := by
  refine mapM_flatten_eq_nil.trans ?_
  simp only [mem_sortedPaths, checkSchemaFile_eq_nil]

theorem validateSchemaDocuments_isOk : (∃ errors, validateSchemaDocuments lib checkout = .ok errors) ↔
    ∀ path ∈ checkout.schemaFiles, SchemaHandled lib checkout path := by
  have hread : (∃ entries, (sortedPaths checkout.schemaFiles).mapM (checkSchemaFile lib checkout)
      = .ok entries) ↔ ∀ path ∈ checkout.schemaFiles, SchemaHandled lib checkout path := by
    rw [mapM_isOk]
    simp only [mem_sortedPaths, checkSchemaFile_isOk]
  rw [← hread]
  simp [validateSchemaDocuments, bind_eq_ok, pure, Except.pure]

end Schemas

/-! ### The OpenAPI document -/

/-- Its path. -/
def openapiPath : String := "docs/extensions/management/openapi-v1.yaml"

/-- The library call, on a document with its version and its paths. -/
def checkOpenapi (document : List (Yaml × Yaml)) : Py (List Msg) :=
  match checkout.uriOf (checkout.file openapiPath) with
  | .error kind => fails kind
  | .ok uri =>
    match lib.validateOpenapi document uri with
    | .ok () => .ok []
    | .error (.caught text) => .ok [[openapiPath, ": OpenAPI 3.1 validation failed: ", text]]
    | .error (.other kind) => fails kind

/-- The document that is loaded. -/
def checkOpenapiValue : Yaml → Py (List Msg)
  | .mapping document =>
    if ¬(Yaml.get document "openapi").any (Yaml.isText "3.1.0") then
      .ok [[openapiPath, ": expected openapi 3.1.0"]]
    else if ¬(Yaml.get document "paths").any Yaml.isMapping then
      .ok [[openapiPath, ": paths must be an object"]]
    else checkOpenapi lib checkout document
  | _ => .ok [[openapiPath, ": OpenAPI document must be an object"]]

/-- `validate_openapi_document`. -/
def validateOpenapiDocument : Py (List Msg) :=
  match checkout.readUtf8 (checkout.file openapiPath) with
  | .error (.osError reason) => .ok [[openapiPath, ": invalid OpenAPI YAML: ", reason]]
  | .error (.other kind) => fails kind
  | .ok text =>
    match lib.safeLoad text with
    | .error (.caught reason) => .ok [[openapiPath, ": invalid OpenAPI YAML: ", reason]]
    | .error (.other kind) => fails kind
    | .ok value => checkOpenapiValue lib checkout value

/-- An object with version 3.1.0 and an object of paths. -/
structure IsOpenapi (value : Yaml) (document : List (Yaml × Yaml)) : Prop where
  mapping : value = .mapping document
  version : Yaml.get document "openapi" = some (.str "3.1.0")
  paths : ∃ paths, Yaml.get document "paths" = some (.mapping paths)

/-- The file holds an OpenAPI 3.1 document. -/
def OpenapiAccepted : Prop :=
  ∃ text, checkout.readUtf8 (checkout.file openapiPath) = .ok text ∧
    ∃ value, lib.safeLoad text = .ok value ∧ ∃ document, IsOpenapi value document ∧
      ∃ uri, checkout.uriOf (checkout.file openapiPath) = .ok uri ∧
        lib.validateOpenapi document uri = .ok ()

/-- Reading, loading and checking raise nothing but what is caught. -/
structure OpenapiHandled : Prop where
  file : ∀ kind, checkout.readUtf8 (checkout.file openapiPath) ≠ .error (.other kind)
  yaml : ∀ text, checkout.readUtf8 (checkout.file openapiPath) = .ok text →
    ∀ kind, lib.safeLoad text ≠ .error (.other kind)
  document : ∀ text, checkout.readUtf8 (checkout.file openapiPath) = .ok text →
    ∀ value, lib.safeLoad text = .ok value → ∀ document, IsOpenapi value document →
    ∃ uri, checkout.uriOf (checkout.file openapiPath) = .ok uri ∧
      ∀ kind, lib.validateOpenapi document uri ≠ .error (.other kind)

section Openapi
variable {lib checkout} {value : Yaml} {document : List (Yaml × Yaml)}

theorem checkOpenapi_eq_nil : checkOpenapi lib checkout document = .ok [] ↔
    ∃ uri, checkout.uriOf (checkout.file openapiPath) = .ok uri ∧
      lib.validateOpenapi document uri = .ok () := by
  unfold checkOpenapi
  rcases checkout.uriOf (checkout.file openapiPath) with kind | uri
  · simp
  · rcases hcheck : lib.validateOpenapi document uri with (text | kind) | u
    · simp [hcheck]
    · simp [hcheck]
    · simp [hcheck]

theorem checkOpenapi_isOk : (∃ errors, checkOpenapi lib checkout document = .ok errors) ↔
    ∃ uri, checkout.uriOf (checkout.file openapiPath) = .ok uri ∧
      ∀ kind, lib.validateOpenapi document uri ≠ .error (.other kind) := by
  unfold checkOpenapi
  rcases checkout.uriOf (checkout.file openapiPath) with kind | uri
  · simp
  · rcases hcheck : lib.validateOpenapi document uri with (text | kind) | u
    · simp [hcheck]
    · simp [hcheck]
    · simp [hcheck]

/-- A value is refused, or it is an OpenAPI object that the library gets. -/
theorem checkOpenapiValue_cases (value : Yaml) :
    (∃ document, IsOpenapi value document ∧ checkOpenapiValue lib checkout value = checkOpenapi lib checkout document) ∨
      (∀ document, ¬IsOpenapi value document) ∧
      ∃ entry, checkOpenapiValue lib checkout value = .ok [entry] := by
  cases value with
  | mapping document =>
    rw [checkOpenapiValue]
    by_cases hversion : (Yaml.get document "openapi").any (Yaml.isText "3.1.0") = true
    · rw [if_neg (not_not.mpr hversion)]
      by_cases hpaths : (Yaml.get document "paths").any Yaml.isMapping = true
      · rw [if_neg (not_not.mpr hpaths)]
        exact .inl ⟨document, ⟨rfl, Yaml.any_isText.mp hversion, Yaml.any_isMapping.mp hpaths⟩, rfl⟩
      · rw [if_pos hpaths]
        refine .inr ⟨fun other h => hpaths ?_, _, rfl⟩
        cases h.mapping
        exact Yaml.any_isMapping.mpr h.paths
    · rw [if_pos hversion]
      refine .inr ⟨fun other h => hversion ?_, _, rfl⟩
      cases h.mapping
      exact Yaml.any_isText.mpr h.version
  | str _ | sequence _ | scalar _ =>
    refine .inr ⟨fun document h => ?_, _, rfl⟩
    cases h.mapping

theorem IsOpenapi.unique {other : List (Yaml × Yaml)} (h : IsOpenapi value document)
    (h' : IsOpenapi value other) :
    document = other := by
  cases h.mapping.symm.trans h'.mapping
  rfl

theorem validateOpenapiDocument_eq_nil : validateOpenapiDocument lib checkout = .ok [] ↔
    OpenapiAccepted lib checkout := by
  unfold validateOpenapiDocument OpenapiAccepted
  rcases checkout.readUtf8 (checkout.file openapiPath) with (reason | kind) | text
  · simp
  · simp
  rcases hload : lib.safeLoad text with (reason | kind) | value
  · simp [hload]
  · simp [hload]
  simp only [Except.ok.injEq, exists_eq_left', hload]
  rcases checkOpenapiValue_cases value with ⟨document, hdocument, hvalue⟩ | ⟨hnone, entry, hvalue⟩
  · rw [hvalue, checkOpenapi_eq_nil]
    constructor
    · intro h
      exact ⟨document, hdocument, h⟩
    · rintro ⟨other, hother, h⟩
      exact hdocument.unique hother ▸ h
  · rw [hvalue]
    refine iff_of_false (by simp) ?_
    rintro ⟨document, hdocument, -⟩
    exact hnone document hdocument

theorem validateOpenapiDocument_isOk : (∃ errors, validateOpenapiDocument lib checkout = .ok errors) ↔
    OpenapiHandled lib checkout := by
  have hhandled : OpenapiHandled lib checkout ↔
      (∀ kind, checkout.readUtf8 (checkout.file openapiPath) ≠ .error (.other kind)) ∧
      ∀ text, checkout.readUtf8 (checkout.file openapiPath) = .ok text →
        (∀ kind, lib.safeLoad text ≠ .error (.other kind)) ∧
        ∀ value, lib.safeLoad text = .ok value → ∀ document, IsOpenapi value document →
          ∃ uri, checkout.uriOf (checkout.file openapiPath) = .ok uri ∧
            ∀ kind, lib.validateOpenapi document uri ≠ .error (.other kind) := by
    constructor
    · intro h
      exact ⟨h.file, fun text htext => ⟨h.yaml text htext, h.document text htext⟩⟩
    · rintro ⟨hfile, htext⟩
      exact ⟨hfile, fun text hread => (htext text hread).1, fun text hread => (htext text hread).2⟩
  rw [hhandled]
  unfold validateOpenapiDocument
  rcases checkout.readUtf8 (checkout.file openapiPath) with (reason | kind) | text
  · simp
  · simp
  rcases hload : lib.safeLoad text with (reason | kind) | value
  · simp [hload]
  · simp [hload]
  simp only [ne_eq, reduceCtorEq, not_false_eq_true, implies_true, Except.ok.injEq, forall_eq',
    hload, true_and]
  rcases checkOpenapiValue_cases value with ⟨document, hdocument, hvalue⟩ | ⟨hnone, entry, hvalue⟩
  · rw [hvalue, checkOpenapi_isOk]
    constructor
    · intro h other hother
      exact hdocument.unique hother ▸ h
    · intro h
      exact h document hdocument
  · rw [hvalue]
    exact iff_of_true ⟨_, rfl⟩ fun document hdocument => absurd hdocument (hnone document)

end Openapi

end IncomUdon.Validator
