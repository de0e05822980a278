import Mathlib.Data.Finset.Sort
import Mathlib.Data.String.Basic
import IncomUdon.Pointer.Resolve
import IncomUdon.Python.Operators
import IncomUdon.SchemaTargets.Manifest

/-! `validate_schema_targets`. The loop over the targets loads each file once and keeps it in a
    cache; a `VectorValidationError` ends one target, any other exception the whole run:

        target ──▶ vector, schema ──▶ pointer ──▶ candidates ──▶ decoded ──▶ checked
                        │                │             │            │
                        └────────────────┴── "name: …" ┴────────────┘

    STEP and RUN: with caches that hold what loading gives, a target does what it does on its own. -/

namespace IncomUdon.SchemaTargets
open IncomUdon.Python IncomUdon.Pointer IncomUdon.Lib.ErrorLog

/-- `resolve_json_pointer`, which begins with `pointer.startswith`. -/
def resolvePointer (document pointer : Json) : Py Json :=
  match pointer with
  | .str text => resolveJsonPointer document text
  | _ => fails .attributeError

/-- `target.get("each", False)`. -/
def isEach (target : Dict) : Bool := (Dict.getD target "each" (.bool false)).truthy

/-- `target.get("itemPointer", "")`. -/
def itemPointer (target : Dict) : Json := Dict.getD target "itemPointer" (.str "")

/-- `target.get("expected", "valid")`. -/
def expectedOf (target : Dict) : Json := Dict.getD target "expected" (.str "valid")

/-- `target.get("encoding", "object")`. -/
def encodingOf (target : Dict) : Json := Dict.getD target "encoding" (.str "object")

/-- The candidate of one item, with the pointer that is printed for it. -/
def itemCandidate (target : Dict) (pointer : Json) (item : Json × ℕ) : Py (Msg × Json) := do
  let value ← resolvePointer item.1 (itemPointer target)
  return ([.val pointer, "/", .val (.int item.2), .val (itemPointer target)], value)

/-- The candidates of a selection. -/
def candidates (target : Dict) (name pointer selection : Json) : Py (List (Msg × Json)) :=
  if isEach target then do
    let items ← asArray selection [.val name, ": each target is not an array"]
    items.zipIdx.mapM (itemCandidate target pointer)
  else return [([.val pointer], selection)]

variable (repo : Repository) (lib : Library)

/-- `_decode_target`. -/
def decodeTarget (value encoding : Json) (label : Msg) : Py Json :=
  if encoding.eq (.str "object") then return value
  else do
    require (encoding.eq (.str "json-string") = true)
      (label.add [": unsupported encoding ", .repr encoding])
    let text ← asString value (label.add [": json-string target is not a string"])
    parse lib text (label.add [": target contains invalid JSON: "])

/-- One candidate against the schema. -/
def checkCandidate (target : Dict) (name vector schema schemaValue : Json) (candidate : Msg × Json) :
    Check Unit := do
  let decoded ← decodeTarget lib candidate.2 (encodingOf target) [.val name]
  let place := Msg.add [.val name, " (", .val vector] candidate.1
  match lib.iterErrors schemaValue decoded with
  | first :: _ =>
    reportIf ((expectedOf target).eq (.str "valid") = true)
      (place.add (Msg.add [") does not validate against ", .val schema, ": "] (validationSummary first)))
  | [] =>
    reportIf ((expectedOf target).eq (.str "invalid") = true)
      (place.add [") unexpectedly validates against ", .val schema])

/-- A target whose files are loaded. -/
def checkTarget (target : Dict) (name vector schema document schemaValue : Json) : Check Unit := do
  let pointer ← subscript target "pointer"
  let selection ← resolvePointer document pointer
  let found ← candidates target name pointer selection
  forM found (checkCandidate lib target name vector schema schemaValue)

/-- The `except` clause: the entries of a target, and one for a `VectorValidationError`. -/
def reported (name : Json) : Check Unit → Py (List Msg)
  | .returned _ log => .ok log
  | .raised (.vectorValidation msg) log => .ok (log ++ [Msg.add [.val name, ": "] msg])
  | .raised (.fault kind) _ => fails kind

/-- The `try` block on the two files, or on the exception of the one that could not be loaded. -/
def evaluate (target : Dict) (name vector schema : Json) (sources : Py (Json × Json)) :
    Py (List Msg) :=
  reported name do
    let (document, schemaValue) ← sources
    checkTarget lib target name vector schema document schemaValue

/-! ### The loop -/

/-- Files by relative path. -/
abbrev Cache := List (String × Json)

/-- `cache[relative]`, after loading the file when it is not there. -/
def cached (cache : Cache) (relative : Json) : Py (Cache × Json) :=
  match relative with
  | .str path =>
    match cache.lookup path with
    | some value => return (cache, value)
    | none => do
      let value ← loadPath repo lib path
      return ((path, value) :: cache, value)
  | _ => fails .typeError

/-- `vector_cache` and `schema_cache`. -/
structure Caches where
  vectors : Cache
  schemas : Cache

/-- The two files of a target; the vector stays in its cache when the schema cannot be loaded. -/
def loadSources (caches : Caches) (vector schema : Json) : Caches × Py (Json × Json) :=
  match cached repo lib caches.vectors vector with
  | .error exc => (caches, .error exc)
  | .ok (vectors, document) =>
    match cached repo lib caches.schemas schema with
    | .error exc => (⟨vectors, caches.schemas⟩, .error exc)
    | .ok (schemas, schemaValue) => (⟨vectors, schemas⟩, .ok (document, schemaValue))

/-- The local variables of the loop. -/
structure Progress where
  caches : Caches
  declared : List Json
  errors : List Msg

/-- One pass of the loop; what is no object has no `target["name"]`. -/
def targetStep (progress : Progress) (target : Json) : Py Progress :=
  match target with
  | .obj d => do
    let name ← subscript d "name"
    let vector ← subscript d "vector"
    let schema ← subscript d "schema"
    hash schema
    let (caches, sources) := loadSources repo lib progress.caches vector schema
    let entries ← evaluate lib d name vector schema sources
    return ⟨caches, progress.declared ++ [schema], progress.errors ++ entries⟩
  | _ => fails .typeError

/-- The schema files that no target declares, in one message. -/
def reportMissing (declared : List Json) : List Msg :=
  match (repo.schemaFiles.filter fun path => (Json.str path).isIn declared = false).sort (· ≤ ·) with
  | [] => []
  | missing => [Msg.add ["schema target manifest has no runtime target for: "]
      ((missing.map Frag.lit).intersperse ", ")]

/-- All targets of a manifest, and then the schema files. -/
def checkTargets (manifest : Json) (errors : List Msg) : Py (List Msg) := do
  let targets ← member manifest "targets"
  let targets ← iterate targets
  let progress ← targets.foldlM (targetStep repo lib) ⟨⟨[], []⟩, [], errors⟩
  return progress.errors ++ reportMissing repo progress.declared

/-- `validate_schema_targets`. -/
def validateSchemaTargets : Py (List Msg) := do
  let (manifest, errors) ← loadManifest repo lib
  match manifest with
  | .null => return errors
  | manifest => checkTargets repo lib manifest errors

/-! ### What a target selects -/

/-- The values of the candidates: one for each item of the selection, or the selection. -/
def Selects (target : Dict) (selection : Json) (values : List Json) : Prop :=
  if isEach target then ∃ items, selection = .arr items ∧
    items.mapM (fun item => resolvePointer item (itemPointer target)) = .ok values
  else values = [selection]

/-- A value is taken as it is, or read as JSON text. -/
def DecodesTo (encoding value decoded : Json) : Prop :=
  encoding = .str "object" ∧ value = decoded ∨
    encoding = .str "json-string" ∧ ∃ text, value = .str text ∧ lib.loads text = .ok decoded

section Candidates
variable {lib} {target : Dict} {name pointer selection : Json} {values : List Json}

theorem mapM_itemCandidate (items : List Json) (start : ℕ) :
    (fun found => found.map Prod.snd) <$> (items.zipIdx start).mapM (itemCandidate target pointer)
      = items.mapM fun item => resolvePointer item (itemPointer target) := by
  induction items generalizing start with
  | nil => rfl
  | cons item items ih =>
    rw [List.zipIdx_cons, List.mapM_cons, List.mapM_cons, ← ih (start + 1), itemCandidate]
    rcases resolvePointer item (itemPointer target) with exc | value
    · rfl
    · simp only [ok_bind]
      cases (items.zipIdx (start + 1)).mapM (itemCandidate target pointer) <;> rfl

theorem exists_candidates :
    (∃ found, candidates target name pointer selection = .ok found ∧ found.map Prod.snd = values) ↔
      Selects target selection values := by
  rw [← map_eq_ok, candidates, Selects]
  split
  · cases selection with
    | arr items => simp [asArray, mapM_itemCandidate]
    | _ => simp [asArray, invalid, bind, Except.bind, Functor.map, Except.map]
  · simp [pure, Except.pure, Functor.map, Except.map, eq_comm]

theorem decodeTarget_eq_ok {value encoding decoded : Json} {label : Msg} :
    decodeTarget lib value encoding label = .ok decoded ↔ DecodesTo lib encoding value decoded := by
  unfold decodeTarget DecodesTo
  split
  · next h =>
    rw [Json.eq_str] at h
    simp [h, pure, Except.pure]
  · next h =>
    rw [Json.eq_str] at h
    simp [h, bind_eq_ok]

end Candidates

/-! ### Without the caches -/

/-- The two files of a target, loaded anew. -/
def sources (vector schema : Json) : Py (Json × Json) := do
  let document ← loadValue repo lib vector
  let schemaValue ← loadValue repo lib schema
  return (document, schemaValue)

/-- A target on its own: the schema that it declares, and its entries. -/
def targetOutcome (target : Json) : Py (Json × List Msg) :=
  match target with
  | .obj d => do
    let name ← subscript d "name"
    let vector ← subscript d "vector"
    let schema ← subscript d "schema"
    hash schema
    let entries ← evaluate lib d name vector schema (sources repo lib vector schema)
    return (schema, entries)
  | _ => fails .typeError

/-- The cache holds what loading gives. -/
def Current (cache : Cache) : Prop :=
  ∀ path value, cache.lookup path = some value → loadPath repo lib path = .ok value

/-- Both caches do. -/
structure Caches.Current (caches : Caches) : Prop where
  vectors : SchemaTargets.Current repo lib caches.vectors
  schemas : SchemaTargets.Current repo lib caches.schemas

section Caches
variable {repo lib} {cache : Cache} {caches : Caches} {progress : Progress}

theorem current_cons {path : String} {value : Json} (h : Current repo lib cache)
    (hload : loadPath repo lib path = .ok value) : Current repo lib ((path, value) :: cache) := by
  intro path' value' hlookup
  rw [List.lookup_cons] at hlookup
  split at hlookup
  · next heq =>
    rw [beq_iff_eq.mp heq, hload]
    exact congrArg Except.ok (Option.some.inj hlookup)
  · exact h path' value' hlookup

/-- A cache that is current gives what loading gives, and stays current. -/
theorem cached_spec (relative : Json) (h : Current repo lib cache) :
    Prod.snd <$> cached repo lib cache relative = loadValue repo lib relative ∧
      ∀ cache' value, cached repo lib cache relative = .ok (cache', value) →
        Current repo lib cache' := by
  cases relative with
  | str path =>
    cases hlookup : cache.lookup path with
    | some value =>
      simp only [cached, loadValue, hlookup, h path value hlookup]
      refine ⟨rfl, ?_⟩
      rintro cache' value' hret
      cases hret
      exact h
    | none =>
      cases hload : loadPath repo lib path with
      | error exc => simp [cached, loadValue, hlookup, hload, bind, Except.bind]
      | ok value =>
        simp only [cached, loadValue, hlookup, hload, ok_bind]
        refine ⟨rfl, ?_⟩
        rintro cache' value' hret
        cases hret
        exact current_cons h hload
  | _ => simp [cached, loadValue, fails]

theorem loadSources_spec (vector schema : Json) (h : caches.Current repo lib) :
    (loadSources repo lib caches vector schema).1.Current repo lib ∧
      (loadSources repo lib caches vector schema).2 = sources repo lib vector schema := by
  obtain ⟨hvector, hvectors⟩ := cached_spec vector h.vectors
  obtain ⟨hschema, hschemas⟩ := cached_spec schema h.schemas
  rw [sources, ← hvector, ← hschema, loadSources]
  rcases hv : cached repo lib caches.vectors vector with exc | ⟨vectors, document⟩
  · exact ⟨h, rfl⟩
  rcases hs : cached repo lib caches.schemas schema with exc | ⟨schemas, schemaValue⟩
  · exact ⟨⟨hvectors vectors document hv, h.schemas⟩, rfl⟩
  · exact ⟨⟨hvectors vectors document hv, hschemas schemas schemaValue hs⟩, rfl⟩

/-- STEP: a pass of the loop appends what the target appends on its own, and the caches stay
    current. -/
theorem targetStep_eq (target : Json) (h : progress.caches.Current repo lib) :
    ∃ caches : Caches, caches.Current repo lib ∧ targetStep repo lib progress target
      = (fun outcome => ⟨caches, progress.declared ++ [outcome.1], progress.errors ++ outcome.2⟩) <$>
          targetOutcome repo lib target := by
  cases target with
  | obj d =>
    simp only [targetStep, targetOutcome]
    rcases subscript d "name" with exc | name
    · exact ⟨progress.caches, h, rfl⟩
    rcases subscript d "vector" with exc | vector
    · exact ⟨progress.caches, h, rfl⟩
    rcases subscript d "schema" with exc | schema
    · exact ⟨progress.caches, h, rfl⟩
    simp only [ok_bind]
    rcases Python.hash schema with exc | _
    · exact ⟨progress.caches, h, rfl⟩
    obtain ⟨hcaches, hsources⟩ := loadSources_spec vector schema h
    refine ⟨_, hcaches, ?_⟩
    simp only [ok_bind, hsources]
    rcases evaluate lib d name vector schema (sources repo lib vector schema) with exc |
      entries <;> rfl
  | _ => exact ⟨progress.caches, h, rfl⟩

/-- RUN: so does the whole loop. -/
theorem foldlM_targetStep_eq (targets : List Json) (progress : Progress)
    (h : progress.caches.Current repo lib) :
    (fun progress : Progress => (progress.declared, progress.errors)) <$>
        targets.foldlM (targetStep repo lib) progress
      = (fun outcomes => (progress.declared ++ outcomes.map Prod.fst,
          progress.errors ++ outcomes.flatMap Prod.snd)) <$>
        targets.mapM (targetOutcome repo lib) := by
  induction targets generalizing progress with
  | nil => simp [pure, Except.pure, Functor.map, Except.map]
  | cons target targets ih =>
    obtain ⟨caches, hcaches, hstep⟩ := targetStep_eq target h
    rw [List.foldlM_cons, List.mapM_cons, hstep]
    cases targetOutcome repo lib target with
    | error exc => rfl
    | ok outcome =>
      have hrest := ih ⟨caches, progress.declared ++ [outcome.1], progress.errors ++ outcome.2⟩ hcaches
      refine hrest.trans ?_
      rcases targets.mapM (targetOutcome repo lib) with exc | outcomes
      · rfl
      · simp [bind, Except.bind, pure, Except.pure, Functor.map, Except.map, List.append_assoc]

/-- The caches change nothing: the run is that of the targets one by one. -/
theorem checkTargets_eq {manifest : Json} {errors : List Msg} :
    checkTargets repo lib manifest errors = (do
      let targets ← member manifest "targets"
      let targets ← iterate targets
      let outcomes ← targets.mapM (targetOutcome repo lib)
      return errors ++ outcomes.flatMap Prod.snd ++ reportMissing repo (outcomes.map Prod.fst)) := by
  have hempty : (⟨[], []⟩ : Caches).Current repo lib := ⟨nofun, nofun⟩
  refine congrArg (_ >>= ·) (funext fun _ => congrArg (_ >>= ·) (funext fun targets => ?_))
  have hrun := foldlM_targetStep_eq targets ⟨⟨[], []⟩, [], errors⟩ hempty
  have hresult : ∀ run : Py Progress,
      (do let progress ← run; return progress.errors ++ reportMissing repo progress.declared)
        = (fun result => result.2 ++ reportMissing repo result.1) <$>
            (fun progress : Progress => (progress.declared, progress.errors)) <$> run := by
    rintro (exc | progress) <;> rfl
  refine (hresult _).trans ?_
  rw [hrun]
  rcases targets.mapM (targetOutcome repo lib) with exc | outcomes <;> rfl

end Caches

/-! ### From the manifest to its targets -/

section Manifest
variable {repo lib} {value : Json}

/-- What the run comes to, once the manifest is loaded: a list or an exception about its schema, the
    list of a `null`, or the run of the targets. -/
theorem validateSchemaTargets_cases (hfound : loadPath repo lib manifestPath = .ok value) :
    (∃ msg entry, loadPath repo lib manifestSchemaPath = .error (.vectorValidation msg) ∧
      validateSchemaTargets repo lib = .ok [entry]) ∨
    (∃ kind, loadPath repo lib manifestSchemaPath = .error (.fault kind) ∧
      validateSchemaTargets repo lib = fails kind) ∨
    ∃ schema errors, loadPath repo lib manifestSchemaPath = .ok schema ∧
      (errors = [] ↔ lib.iterErrors schema value = []) ∧
      (value = .null ∧ validateSchemaTargets repo lib = .ok errors ∨
        value ≠ .null ∧ validateSchemaTargets repo lib = checkTargets repo lib value errors) := by
  rw [validateSchemaTargets]
  rcases hschema : loadPath repo lib manifestSchemaPath with (msg | kind) | schema
  · rw [loadManifest_of_invalid hfound hschema]
    exact .inl ⟨msg, _, rfl, rfl⟩
  · rw [loadManifest_of_fault hfound hschema]
    exact .inr (.inl ⟨kind, rfl, rfl⟩)
  · obtain ⟨errors, hload, herrors⟩ := loadManifest_of_loaded hfound hschema
    rw [hload]
    refine .inr (.inr ⟨schema, errors, rfl, herrors, ?_⟩)
    cases value <;> simp [pure, Except.pure]

end Manifest

end IncomUdon.SchemaTargets
