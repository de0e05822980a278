import IncomUdon.SchemaTargets.Targets

/-! Which manifests `validate_schema_targets` survives. The violation that `_load_manifest` records is
    returned only when no target of the manifest raises anything but a `VectorValidationError`:

        manifest          targets           result
        null              not read          the violation
        an empty object   KeyError          an exception, and the violation is lost
        an object         each handled      the violation, and what the targets append

    HANDLED: what a target must have is a condition on its members and on the files that it
    reaches. -/

namespace IncomUdon.SchemaTargets
open IncomUdon.Python IncomUdon.Pointer IncomUdon.Lib.ErrorLog

/-- Where the tokens lead to an array, a decimal token has no more digits than `int` reads. -/
def IndexesReadable (document : Json) (raws : List (List Char)) : Prop :=
  ∀ before raw after items, raws = before ++ raw :: after →
    before.foldlM child? document = some (.arr items) → isDecimal (unescape raw) = true →
      (unescape raw).length ≤ maxStrDigits

/-- The pointer is a string, and its indexes can be read. -/
def PointerHandled (document pointer : Json) : Prop :=
  ∃ text, pointer = .str text ∧ (Rooted text → IndexesReadable document (tokens text))

section Pointer
variable {document pointer current : Json} {raw : List Char} {raws : List (List Char)} {text : String}

theorem throwsOnly_resolveToken : ThrowsOnly IsValidation (resolveToken text current raw) ↔
    ∀ items, current = .arr items → isDecimal (unescape raw) = true →
      (unescape raw).length ≤ maxStrDigits := by
  cases current with
  | obj d =>
    simp only [resolveToken]
    cases d.lookup (.ofList (unescape raw)) <;> simp
  | arr items =>
    simp only [resolveToken, intOfDecimal, throwsOnly_bind, throwsOnly_require, require_eq_ok,
      isValidation_vectorValidation, or_true, true_and, forall_unit]
    by_cases hlength : (unescape raw).length ≤ maxStrDigits
    · simp [hlength]
    · simp [hlength]
  | _ => simp [resolveToken]

theorem throwsOnly_follow {document : Json} :
    ThrowsOnly IsValidation (raws.foldlM (resolveToken text) document) ↔
      IndexesReadable document raws := by
  induction raws generalizing document with
  | nil => simp [IndexesReadable]
  | cons raw raws ih =>
    simp only [List.foldlM_cons, throwsOnly_bind, throwsOnly_resolveToken, resolveToken_eq_ok, ih]
    constructor
    · rintro ⟨hfirst, hrest⟩ (_ | ⟨raw', before⟩) next after items hraws hbefore
      · cases hraws
        exact hfirst items (Option.some.inj hbefore)
      · cases hraws
        rw [List.foldlM_cons, Option.bind_eq_bind, Option.bind_eq_some_iff] at hbefore
        obtain ⟨child, hchild, hbefore⟩ := hbefore
        exact hrest child hchild before next after items rfl hbefore
    · intro h
      refine ⟨fun items hitems => h [] raw raws items rfl (congrArg some hitems),
        fun next hnext => ?_⟩
      rintro before raw' after items rfl hbefore
      refine h (raw :: before) raw' after items rfl ?_
      rw [List.foldlM_cons, hnext]
      exact hbefore

theorem throwsOnly_resolvePointer :
    ThrowsOnly IsValidation (resolvePointer document pointer) ↔ PointerHandled document pointer := by
  cases pointer with
  | str text =>
    simp only [resolvePointer, resolveJsonPointer, PointerHandled, Json.str.injEq, exists_eq_left']
    by_cases hempty : text = ""
    · simp [hempty, tokens, IndexesReadable]
    · simp [hempty, throwsOnly_follow, Rooted, tokens]
  | _ => simp [resolvePointer, PointerHandled]

end Pointer

/-! ### One target -/

/-- `json.loads` is called only on a string, for a target with encoding `json-string`. -/
def DecodingHandled (lib : Library) (encoding value : Json) : Prop :=
  encoding = .str "json-string" → ∀ text, value = .str text → TextHandled lib text

/-- Every item that is reached has a pointer that is handled, and every value that is reached is
    decoded or handled. -/
structure SelectionHandled (lib : Library) (target : Dict) (selection : Json) : Prop where
  items : isEach target = true → ∀ items, selection = .arr items →
    EachReached (fun item => ∃ value, resolvePointer item (itemPointer target) = .ok value)
      (fun item => PointerHandled item (itemPointer target)) items
  values : ∀ values, Selects target selection values →
    EachReached (fun value => ∃ decoded, DecodesTo lib (encodingOf target) value decoded)
      (DecodingHandled lib (encodingOf target)) values

/-- The target has a pointer into the document that is handled, and so is what it leads to. -/
def DocumentHandled (lib : Library) (target : Dict) (document : Json) : Prop :=
  ∃ pointer, target.lookup "pointer" = some pointer ∧ PointerHandled document pointer ∧
    ∀ selection, resolvePointer document pointer = .ok selection →
      SelectionHandled lib target selection

/-- The schema is the path of a file that is handled, and if it loads, so is the document. -/
def SchemaHandled (repo : Repository) (lib : Library) (target : Dict)
    (schema document : Json) : Prop :=
  ∃ path, schema = .str path ∧ FileHandled repo lib path ∧
    ∀ schemaValue, loadPath repo lib path = .ok schemaValue → DocumentHandled lib target document

/-- The target is an object with a name, a vector and a schema that has a hash. The vector is the path
    of a file that is handled, and if it loads, so is the schema. -/
def TargetHandled (repo : Repository) (lib : Library) (target : Json) : Prop :=
  ∃ d schema path, target = .obj d ∧ Dict.has d "name" = true ∧ d.lookup "schema" = some schema ∧
    schema.hashable = true ∧ d.lookup "vector" = some (.str path) ∧ FileHandled repo lib path ∧
      ∀ document, loadPath repo lib path = .ok document → SchemaHandled repo lib d schema document

section Target
variable {repo : Repository} {lib : Library} {target : Dict}
  {name vector schema pointer selection document schemaValue encoding value : Json} {label : Msg}

theorem throwsOnly_decodeTarget :
    ThrowsOnly IsValidation (decodeTarget lib value encoding label) ↔
      DecodingHandled lib encoding value := by
  unfold decodeTarget DecodingHandled
  split
  · next h =>
    rw [Json.eq_str] at h
    simp [h]
  · simp [throwsOnly_parse]

theorem throwsOnly_candidates : ThrowsOnly IsValidation (candidates target name pointer selection) ↔
    (isEach target = true → ∀ items, selection = .arr items →
      EachReached (fun item => ∃ value, resolvePointer item (itemPointer target) = .ok value)
        (fun item => PointerHandled item (itemPointer target)) items) := by
  have hitems : ∀ items : List Json,
      ThrowsOnly IsValidation (items.zipIdx.mapM (itemCandidate target pointer)) ↔ _ := fun items => by
    rw [← throwsOnly_map (f := fun found : List (Msg × Json) => found.map Prod.snd),
      mapM_itemCandidate, throwsOnly_mapM_iff]
  unfold candidates
  split
  · next h => simp [h, hitems, throwsOnly_resolvePointer]
  · next h => simp [h]

theorem returns_checkCandidate {candidate : Msg × Json} :
    Returns (checkCandidate lib target name vector schema schemaValue candidate) () ↔
      ∃ decoded, DecodesTo lib (encodingOf target) candidate.2 decoded := by
  simp only [checkCandidate, Run.liftM_eq, returns_bind, returns_lift, decodeTarget_eq_ok]
  refine exists_congr fun decoded => and_iff_left ?_
  split <;> simp

theorem raisesOnly_checkCandidate {candidate : Msg × Json} :
    RaisesOnly IsValidation (checkCandidate lib target name vector schema schemaValue candidate) ↔
      DecodingHandled lib (encodingOf target) candidate.2 := by
  simp only [checkCandidate, Run.liftM_eq, raisesOnly_bind, raisesOnly_lift, throwsOnly_decodeTarget]
  refine and_iff_left fun decoded _ => ?_
  split <;> simp

/-- The loop over the candidates is one over the values that the target selects. -/
theorem raisesOnly_forM_checkCandidate {found : List (Msg × Json)} :
    RaisesOnly IsValidation (forM found (checkCandidate lib target name vector schema schemaValue)) ↔
      EachReached (fun value => ∃ decoded, DecodesTo lib (encodingOf target) value decoded)
        (DecodingHandled lib (encodingOf target)) (found.map Prod.snd) := by
  rw [raisesOnly_forM_iff, eachReached_map]
  exact eachReached_congr (fun _ => returns_checkCandidate) (fun _ => raisesOnly_checkCandidate)

theorem throwsOnly_selection :
    (ThrowsOnly IsValidation (candidates target name pointer selection) ∧
      ∀ found, candidates target name pointer selection = .ok found →
        RaisesOnly IsValidation (forM found (checkCandidate lib target name vector schema schemaValue))) ↔
      SelectionHandled lib target selection := by
  simp only [throwsOnly_candidates, raisesOnly_forM_checkCandidate]
  constructor
  · rintro ⟨hitems, hvalues⟩
    refine ⟨hitems, fun values hselects => ?_⟩
    obtain ⟨found, hfound, rfl⟩ := exists_candidates.mpr hselects
    exact hvalues found hfound
  · rintro ⟨hitems, hvalues⟩
    exact ⟨hitems, fun found hfound => hvalues _ (exists_candidates.mp ⟨found, hfound, rfl⟩)⟩

theorem raisesOnly_checkTarget :
    RaisesOnly IsValidation (checkTarget lib target name vector schema document schemaValue) ↔
      DocumentHandled lib target document := by
  simp only [checkTarget, Run.liftM_eq, raisesOnly_bind, raisesOnly_lift, returns_lift,
    throwsOnly_subscript, subscript_eq_ok, throwsOnly_resolvePointer, throwsOnly_selection,
    DocumentHandled, not_isValidation_fault, or_false]
  cases target.lookup "pointer" <;> simp

theorem reported_isOk {run : Check Unit} :
    (∃ entries, reported name run = .ok entries) ↔ RaisesOnly IsValidation run := by
  match run with
  | .returned _ log => simp [reported, RaisesOnly]
  | .raised (.vectorValidation msg) log => simp [reported, RaisesOnly]
  | .raised (.fault kind) log => simp [reported, RaisesOnly]

theorem evaluate_isOk :
    (∃ entries, evaluate lib target name vector schema (sources repo lib vector schema) = .ok entries) ↔
      ∃ path, vector = .str path ∧ FileHandled repo lib path ∧
        ∀ document, loadPath repo lib path = .ok document →
          SchemaHandled repo lib target schema document := by
  simp only [evaluate, reported_isOk, Run.liftM_eq, raisesOnly_bind, raisesOnly_lift, returns_lift,
    raisesOnly_checkTarget, sources, throwsOnly_bind, throwsOnly_loadValue, loadValue_eq_ok,
    throwsOnly_pure, bind_eq_ok, SchemaHandled]
  constructor
  · rintro ⟨⟨⟨path, rfl, hfile⟩, hschema⟩, hdocument⟩
    refine ⟨path, rfl, hfile, fun document hload => ?_⟩
    obtain ⟨⟨path', rfl, hfile'⟩, -⟩ := hschema document ⟨path, rfl, hload⟩
    exact ⟨path', rfl, hfile', fun schemaValue hvalue => hdocument (document, schemaValue)
      ⟨document, ⟨path, rfl, hload⟩, schemaValue, ⟨path', rfl, hvalue⟩, rfl⟩⟩
  · rintro ⟨path, rfl, hfile, h⟩
    refine ⟨⟨⟨path, rfl, hfile⟩, ?_⟩, ?_⟩
    · rintro document ⟨_, hpath, hload⟩
      cases hpath
      obtain ⟨path', hschema, hfile', -⟩ := h document hload
      exact ⟨⟨path', hschema, hfile'⟩, fun _ _ => trivial⟩
    · rintro _ ⟨document, ⟨_, hpath, hload⟩, schemaValue, ⟨path', hschema, hvalue⟩, hret⟩
      cases hpath
      cases hret
      obtain ⟨_, hpath', -, hdocument⟩ := h document hload
      cases hschema.symm.trans hpath'
      exact hdocument schemaValue hvalue

theorem targetOutcome_isOk {target : Json} :
    (∃ outcome, targetOutcome repo lib target = .ok outcome) ↔ TargetHandled repo lib target := by
  cases target with
  | obj d =>
    simp only [targetOutcome, TargetHandled, bind_eq_ok, subscript_eq_ok, hash_eq_ok]
    constructor
    · rintro ⟨outcome, name, hname, vector, hvector, schema, hschema, -, hhash, entries, hentries, -⟩
      obtain ⟨path, rfl, hfile, hdocument⟩ := evaluate_isOk.mp ⟨entries, hentries⟩
      exact ⟨d, schema, path, rfl, by rw [Dict.has, hname]; rfl, hschema, hhash, hvector, hfile,
        hdocument⟩
    · rintro ⟨_, schema, path, htarget, hname, hschema, hhash, hvector, hfile, hdocument⟩
      cases htarget
      obtain ⟨name, hname⟩ := Option.isSome_iff_exists.mp hname
      obtain ⟨entries, hentries⟩ := evaluate_isOk.mpr ⟨path, rfl, hfile, hdocument⟩
      exact ⟨_, name, hname, _, hvector, schema, hschema, (), hhash, entries, hentries, rfl⟩
  | _ => simp [targetOutcome, TargetHandled]

end Target

/-! ### The manifest -/

/-- An object whose targets can be iterated, and each target is handled. -/
def TargetsHandled (repo : Repository) (lib : Library) (value : Json) : Prop :=
  ∃ d targets items, value = .obj d ∧
    d.lookup "targets" = some targets ∧ targets.items? = some items ∧
    ∀ target ∈ items, TargetHandled repo lib target

/-- The file of the manifest schema is handled. If it loads, the manifest is `null` or its targets are
    handled. -/
def ManifestHandled (repo : Repository) (lib : Library) (value : Json) : Prop :=
  FileHandled repo lib manifestSchemaPath ∧
    ∀ schema, loadPath repo lib manifestSchemaPath = .ok schema →
    value = .null ∨ TargetsHandled repo lib value

section Manifest
variable {repo : Repository} {lib : Library} {value schema : Json} {errors result : List Msg}

theorem checkTargets_isOk (errors : List Msg) :
    (∃ result, checkTargets repo lib value errors = .ok result) ↔ TargetsHandled repo lib value := by
  simp only [checkTargets_eq, bind_eq_ok, member_eq_ok, iterate_eq_ok, TargetsHandled,
    ← targetOutcome_isOk, ← mapM_isOk]
  constructor
  · rintro ⟨result, targets, ⟨d, hvalue, htargets⟩, items, hitems, outcomes, houtcomes, -⟩
    exact ⟨d, targets, items, hvalue, htargets, hitems, outcomes, houtcomes⟩
  · rintro ⟨d, targets, items, hvalue, htargets, hitems, outcomes, houtcomes⟩
    exact ⟨_, targets, ⟨d, hvalue, htargets⟩, items, hitems, outcomes, houtcomes, rfl⟩

/-- What is recorded before the targets stays in the list. -/
theorem checkTargets_ne_nil (h : checkTargets repo lib value errors = .ok result)
    (herrors : errors ≠ []) :
    result ≠ [] := by
  simp only [checkTargets_eq, bind_eq_ok] at h
  obtain ⟨-, -, -, -, outcomes, -, hresult⟩ := h
  cases hresult
  simp [herrors]

end Manifest

/-- HANDLED: with a checker that is sound for the manifest schema, the validator returns a list, and
    one that is not empty for a manifest that violates the schema, exactly when the manifest is
    handled. -/
theorem invalid_manifest_reported_iff (repo : Repository) (lib : Library) (value : Json)
    (hfound : loadPath repo lib manifestPath = .ok value) (hsound : SoundForManifest repo lib) :
    (∃ errors, validateSchemaTargets repo lib = .ok errors ∧ (isManifest value = false → errors ≠ [])) ↔
      ManifestHandled repo lib value := by
  rw [ManifestHandled, ← throwsOnly_loadPath]
  rcases validateSchemaTargets_cases hfound with ⟨msg, entry, hschema, hrun⟩ | ⟨kind, hschema, hrun⟩ |
    ⟨schema, errors, hschema, herrors, hrun⟩
  · simp [hschema, hrun]
  · simp [hschema, hrun]
  · have hreported : isManifest value = false → errors ≠ [] :=
      fun hinvalid hnil => hsound schema hschema value hinvalid (herrors.mp hnil)
    simp only [hschema, throwsOnly_ok, true_and, Except.ok.injEq, forall_eq',
      ← checkTargets_isOk errors]
    rcases hrun with ⟨hnull, hrun⟩ | ⟨hvalue, hrun⟩
    · exact ⟨fun _ => .inl hnull, fun _ => ⟨errors, hrun, hreported⟩⟩
    · rw [hrun]
      constructor
      · rintro ⟨result, hresult, -⟩
        exact .inr ⟨result, hresult⟩
      · rintro (hnull | ⟨result, hresult⟩)
        · exact absurd hnull hvalue
        · exact ⟨result, hresult, fun hinvalid => checkTargets_ne_nil hresult (hreported hinvalid)⟩

/-! ### Two manifests that violate the schema -/

/-- A manifest and its schema. -/
def manifestDocuments (manifest : Json) : Dict :=
  [(manifestPath, manifest), (manifestSchemaPath, manifestSchema)]

/-- These two files, and no others. -/
def manifestRepository (manifest : Json) : Repository := .ofDocuments (manifestDocuments manifest) ∅

/-- A checker that reports one violation of whatever violates the manifest schema. -/
def manifestLibrary (manifest : Json) (violation : Violation) : Library :=
  .ofDocuments (manifestDocuments manifest) fun _ value => if isManifest value then [] else [violation]

section Sample
variable {manifest : Json} {violation : Violation}

theorem soundForManifest_manifestLibrary :
    SoundForManifest (manifestRepository manifest) (manifestLibrary manifest violation) := by
  intro schema _ value hinvalid
  simp [manifestLibrary, Library.ofDocuments, hinvalid]

theorem loadPath_manifest (hfloat : noFloat manifest = true) :
    loadPath (manifestRepository manifest) (manifestLibrary manifest violation) manifestPath = .ok manifest :=
  loadPath_ofDocuments (by decide) rfl hfloat

theorem loadPath_manifestSchema :
    loadPath (manifestRepository manifest) (manifestLibrary manifest violation) manifestSchemaPath
      = .ok manifestSchema :=
  loadPath_ofDocuments (by decide) rfl rfl

end Sample

/-- `targets` is there, and empty. -/
def noTargets : Json := .obj [("manifestVersion", .int 1), ("targets", .arr [])]

/-- What is wrong with it. -/
def noTargetsViolation : Violation := ⟨[.str "targets"], "[] should be non-empty"⟩

/-- An empty list of targets is reported. -/
theorem invalid_manifest_reported_noTargets :
    ∃ errors, validateSchemaTargets (manifestRepository noTargets)
        (manifestLibrary noTargets noTargetsViolation) = .ok errors ∧
      (isManifest noTargets = false → errors ≠ []) :=
  (invalid_manifest_reported_iff _ _ noTargets (loadPath_manifest rfl)
      soundForManifest_manifestLibrary).mpr
    ⟨throwsOnly_loadPath.mp (by rw [loadPath_manifestSchema]; exact throwsOnly_ok _), fun _ _ =>
      .inr ⟨_, .arr [], [], rfl, rfl, rfl, nofun⟩⟩

/-- What is wrong with an empty object. -/
def emptyViolation : Violation := ⟨[], "'manifestVersion' is a required property"⟩

/-- An empty object is not reported: `manifest["targets"]` raises `KeyError`. -/
theorem invalid_manifest_escapes :
    isManifest (.obj []) = false ∧
      loadPath (manifestRepository (.obj [])) (manifestLibrary (.obj []) emptyViolation) manifestPath
        = .ok (.obj []) ∧
      SoundForManifest (manifestRepository (.obj [])) (manifestLibrary (.obj []) emptyViolation) ∧
      validateSchemaTargets (manifestRepository (.obj [])) (manifestLibrary (.obj []) emptyViolation)
        = fails .keyError := by
  have hfound : loadPath (manifestRepository (.obj [])) (manifestLibrary (.obj []) emptyViolation)
      manifestPath = .ok (.obj []) := loadPath_manifest rfl
  refine ⟨rfl, hfound, soundForManifest_manifestLibrary, ?_⟩
  rcases validateSchemaTargets_cases hfound with ⟨msg, entry, hschema, -⟩ | ⟨kind, hschema, -⟩ |
    ⟨schema, errors, hschema, -, ⟨hnull, -⟩ | ⟨-, hrun⟩⟩
  · cases hschema.symm.trans loadPath_manifestSchema
  · cases hschema.symm.trans loadPath_manifestSchema
  · cases hnull
  · exact hrun

end IncomUdon.SchemaTargets
