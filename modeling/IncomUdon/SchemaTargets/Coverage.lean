import IncomUdon.SchemaTargets.Targets

/-! What a run without errors has checked. Every schema file is declared by a target, and every
    target was evaluated; each value that it selects was decoded and is valid, or invalid, as the
    target expects:

        schema file ──▶ target ──▶ selection ──▶ values ──▶ checked
                          each       [v, w]       v, w         2
                          each       []           none         0
                                     v            v            1

    COVERED: only a target that stands for the items of an empty array checks no value. -/

namespace IncomUdon.SchemaTargets
open IncomUdon.Python IncomUdon.Pointer IncomUdon.Lib.ErrorLog

/-- The targets of a manifest. -/
def targetsOf (manifest : Json) : List Dict :=
  match manifest with
  | .obj d =>
    match d.lookup "targets" with
    | some (.arr items) => items.filterMap fun
      | .obj target => some target
      | _ => none
    | _ => []
  | _ => []

/-- The files of a target are loaded, its pointer leads to the selection, and it selects these
    values. -/
structure Evaluated (repo : Repository) (lib : Library) (target : Dict) (schemaValue selection : Json)
    (values : List Json) : Prop where
  schema : ∃ path, target.lookup "schema" = some (.str path) ∧
    loadPath repo lib path = .ok schemaValue
  pointer : ∃ path document pointer, target.lookup "vector" = some (.str path) ∧
    loadPath repo lib path = .ok document ∧ target.lookup "pointer" = some pointer ∧
    resolvePointer document pointer = .ok selection
  values : Selects target selection values

/-- A value is decoded, and its check appends nothing. -/
def Checked (lib : Library) (target : Dict) (schemaValue value : Json) : Prop :=
  ∃ decoded, DecodesTo lib (encodingOf target) value decoded ∧
    (expectedOf target = .str "valid" → lib.iterErrors schemaValue decoded = []) ∧
    (expectedOf target = .str "invalid" → lib.iterErrors schemaValue decoded ≠ [])

/-- A value is decoded, and it is valid or invalid as the target expects. -/
def AsExpected (lib : Library) (target : Dict) (schemaValue value : Json) : Prop :=
  ∃ decoded, DecodesTo lib (encodingOf target) value decoded ∧
    (expectedOf target = .str "valid" ∧ lib.iterErrors schemaValue decoded = [] ∨
      expectedOf target = .str "invalid" ∧ lib.iterErrors schemaValue decoded ≠ [])

section Target
variable {repo : Repository} {lib : Library} {target : Dict} {run : Check Unit} {declared : List Json}
  {name vector schema document schemaValue pointer selection : Json} {candidate : Msg × Json}

theorem clean_checkCandidate :
    Clean (checkCandidate lib target name vector schema schemaValue candidate) () ↔
      Checked lib target schemaValue candidate.2 := by
  simp only [checkCandidate, Run.liftM_eq, clean_bind, clean_lift, decodeTarget_eq_ok, Checked]
  refine exists_congr fun decoded => and_congr_right fun _ => ?_
  split
  · next first rest h => simp [h]
  · next h => simp [h]

theorem exists_candidates_forall {P : Json → Prop} :
    (∃ found, candidates target name pointer selection = .ok found ∧ ∀ c ∈ found, P c.2) ↔
      ∃ values, Selects target selection values ∧ ∀ value ∈ values, P value := by
  constructor
  · rintro ⟨found, hfound, hall⟩
    exact ⟨_, exists_candidates.mp ⟨found, hfound, rfl⟩, List.forall_mem_map.mpr hall⟩
  · rintro ⟨values, hselects, hall⟩
    obtain ⟨found, hfound, rfl⟩ := exists_candidates.mpr hselects
    exact ⟨found, hfound, List.forall_mem_map.mp hall⟩

theorem clean_checkTarget :
    Clean (checkTarget lib target name vector schema document schemaValue) () ↔
    ∃ pointer, target.lookup "pointer" = some pointer ∧ ∃ selection,
      resolvePointer document pointer = .ok selection ∧ ∃ values, Selects target selection values ∧
        ∀ value ∈ values, Checked lib target schemaValue value := by
  simp only [checkTarget, Run.liftM_eq, clean_bind, clean_lift, subscript_eq_ok, clean_forM,
    clean_checkCandidate, exists_candidates_forall]

theorem reported_eq_nil : reported name run = .ok [] ↔ Clean run () := by
  match run with
  | .returned _ log => simp [reported, Clean]
  | .raised (.vectorValidation msg) log => simp [reported, Clean]
  | .raised (.fault kind) log => simp [reported, Clean]

theorem evaluate_clean :
    evaluate lib target name vector schema (sources repo lib vector schema) = .ok [] ↔
      ∃ document schemaValue, loadValue repo lib vector = .ok document ∧
        loadValue repo lib schema = .ok schemaValue ∧
        Clean (checkTarget lib target name vector schema document schemaValue) () := by
  simp only [evaluate, reported_eq_nil, Run.liftM_eq, clean_bind, clean_lift, sources, bind_eq_ok]
  constructor
  · rintro ⟨_, ⟨document, hdocument, schemaValue, hschema, hret⟩, hclean⟩
    cases hret
    exact ⟨document, schemaValue, hdocument, hschema, hclean⟩
  · rintro ⟨document, schemaValue, hdocument, hschema, hclean⟩
    exact ⟨(document, schemaValue), ⟨document, hdocument, schemaValue, hschema, rfl⟩, hclean⟩

/-- A target appends nothing exactly when it is evaluated and every value is as it expects. -/
theorem targetOutcome_clean : targetOutcome repo lib (.obj target) = .ok (schema, []) ↔
    Dict.has target "name" = true ∧ target.lookup "schema" = some schema ∧
      ∃ schemaValue selection values, Evaluated repo lib target schemaValue selection values ∧
        ∀ value ∈ values, Checked lib target schemaValue value := by
  simp only [targetOutcome, bind_eq_ok, subscript_eq_ok, hash_eq_ok]
  constructor
  · rintro ⟨name, hname, vector, hvector, schema', hschema, -, -, entries, hentries, hret⟩
    cases hret
    obtain ⟨document, schemaValue, hload, hvalue, hclean⟩ := evaluate_clean.mp hentries
    obtain ⟨path, rfl, hload⟩ := loadValue_eq_ok.mp hload
    obtain ⟨path', rfl, hvalue⟩ := loadValue_eq_ok.mp hvalue
    obtain ⟨pointer, hpointer, selection, hresolve, values, hselects, hall⟩ :=
      clean_checkTarget.mp hclean
    exact ⟨by rw [Dict.has, hname]; rfl, hschema, schemaValue, selection, values,
      ⟨⟨path', hschema, hvalue⟩, ⟨path, document, pointer, hvector, hload, hpointer, hresolve⟩,
      hselects⟩, hall⟩
  · rintro ⟨hname, hschema, schemaValue, selection, values, ⟨⟨path, hpath, hvalue⟩,
      ⟨path', document, pointer, hvector, hload, hpointer, hresolve⟩, hselects⟩, hall⟩
    obtain ⟨name, hname⟩ := Option.isSome_iff_exists.mp hname
    cases hschema.symm.trans hpath
    refine ⟨name, hname, _, hvector, _, hschema, (), rfl, [], ?_, rfl⟩
    exact evaluate_clean.mpr ⟨document, schemaValue, loadValue_eq_ok.mpr ⟨path', rfl, hload⟩,
      loadValue_eq_ok.mpr ⟨path, rfl, hvalue⟩,
      clean_checkTarget.mpr ⟨pointer, hpointer, selection, hresolve, values, hselects, hall⟩⟩

theorem reportMissing_eq_nil :
    reportMissing repo declared = [] ↔ ∀ path ∈ repo.schemaFiles, .str path ∈ declared := by
  have hmem : ∀ path, path ∈ (repo.schemaFiles.filter fun path =>
      (Json.str path).isIn declared = false).sort (· ≤ ·) ↔
        path ∈ repo.schemaFiles ∧ .str path ∉ declared := by
    simp [← Json.isIn_str]
  unfold reportMissing
  split
  · next hnone => simpa [hnone] using hmem
  · next missing hsome =>
    obtain ⟨path, hpath⟩ := List.exists_mem_of_ne_nil _ hsome
    obtain ⟨hfile, hmissing⟩ := (hmem path).mp hpath
    exact ⟨nofun, fun hall => absurd (hall path hfile) hmissing⟩

end Target

/-! ### The run -/

section Run
variable {repo : Repository} {lib : Library} {value schema : Json} {d : Dict} {items : List Json}
  {errors : List Msg} {target : Dict}

/-- The run of the targets has no errors when each target appends nothing and every schema file is the
    schema of one. -/
theorem checkTargets_clean (htargets : d.lookup "targets" = some (.arr items)) :
    checkTargets repo lib (.obj d) errors = .ok [] ↔ errors = [] ∧
      (∀ target ∈ items, ∃ schema, targetOutcome repo lib target = .ok (schema, [])) ∧
      ∀ path ∈ repo.schemaFiles, ∃ target ∈ items, targetOutcome repo lib target = .ok (.str path, []) := by
  have hrun : checkTargets repo lib (.obj d) errors = (do
      let outcomes ← items.mapM (targetOutcome repo lib)
      return errors ++ outcomes.flatMap Prod.snd ++ reportMissing repo (outcomes.map Prod.fst)) := by
    rw [checkTargets_eq, member, subscript, htargets]
    rfl
  rw [hrun, bind_eq_ok]
  constructor
  · rintro ⟨outcomes, houtcomes, hret⟩
    obtain ⟨hentries, hmissing⟩ := List.append_eq_nil_iff.mp (Except.ok.inj hret)
    obtain ⟨herrors, hentries⟩ := List.append_eq_nil_iff.mp hentries
    have hempty : ∀ outcome ∈ outcomes, outcome.2 = [] := List.flatMap_eq_nil_iff.mp hentries
    refine ⟨herrors, fun target htarget => ?_, fun path hpath => ?_⟩
    · obtain ⟨⟨schema, entries⟩, hmem, houtcome⟩ := exists_result_of_mapM houtcomes htarget
      cases hempty _ hmem
      exact ⟨schema, houtcome⟩
    · obtain ⟨⟨_, entries⟩, hmem, rfl⟩ :=
        List.mem_map.mp (reportMissing_eq_nil.mp hmissing path hpath)
      obtain ⟨target, htarget, houtcome⟩ := exists_element_of_mapM houtcomes hmem
      cases hempty _ hmem
      exact ⟨target, htarget, houtcome⟩
  · rintro ⟨rfl, htarget, hfiles⟩
    obtain ⟨outcomes, houtcomes⟩ :
        ∃ outcomes, items.mapM (targetOutcome repo lib) = .ok outcomes := by
      refine mapM_isOk.mpr fun target hitem => ?_
      obtain ⟨schema, hclean⟩ := htarget target hitem
      exact ⟨_, hclean⟩
    have hentries : outcomes.flatMap Prod.snd = [] := by
      refine List.flatMap_eq_nil_iff.mpr fun outcome hmem => ?_
      obtain ⟨target, hitem, houtcome⟩ := exists_element_of_mapM houtcomes hmem
      obtain ⟨schema, hclean⟩ := htarget target hitem
      cases houtcome.symm.trans hclean
      rfl
    have hmissing : reportMissing repo (outcomes.map Prod.fst) = [] := by
      refine reportMissing_eq_nil.mpr fun path hpath => ?_
      obtain ⟨target, hitem, hclean⟩ := hfiles path hpath
      obtain ⟨outcome, hmem, houtcome⟩ := exists_result_of_mapM houtcomes hitem
      cases hclean.symm.trans houtcome
      exact List.mem_map_of_mem hmem
    exact ⟨outcomes, houtcomes, by rw [hentries, hmissing]; rfl⟩

theorem mem_targetsOf (htargets : d.lookup "targets" = some (.arr items)) :
    target ∈ targetsOf (.obj d) ↔ .obj target ∈ items := by
  simp only [targetsOf, htargets, List.mem_filterMap]
  constructor
  · rintro ⟨item, hitem, hsome⟩
    cases item <;> simp_all
  · exact fun h => ⟨.obj target, h, rfl⟩

/-- A target that the schema accepts expects one of the two outcomes. -/
theorem expectedOf_of_isTarget (h : isTarget (.obj target) = true) :
    expectedOf target = .str "valid" ∨ expectedOf target = .str "invalid" := by
  rw [expectedOf, Dict.getD]
  cases hlookup : target.lookup "expected" with
  | none => exact .inl rfl
  | some expected =>
    obtain ⟨text, rfl, htext⟩ := isText_iff.mp (property_of_isRecord h rfl hlookup)
    simpa using htext

theorem asExpected_of_checked {schemaValue v : Json} (h : isTarget (.obj target) = true)
    (hchecked : Checked lib target schemaValue v) : AsExpected lib target schemaValue v := by
  obtain ⟨decoded, hdecodes, hvalid, hinvalid⟩ := hchecked
  refine ⟨decoded, hdecodes, ?_⟩
  rcases expectedOf_of_isTarget h with hexpected | hexpected
  · exact .inl ⟨hexpected, hvalid hexpected⟩
  · exact .inr ⟨hexpected, hinvalid hexpected⟩

/-- Only the items of an empty array are no values. -/
theorem empty_of_selects {selection : Json} (h : Selects target selection []) :
    isEach target = true ∧ selection = .arr [] := by
  unfold Selects at h
  split at h
  · next heach =>
    obtain ⟨items, rfl, hitems⟩ := h
    cases mapM_eq_ok.mp hitems
    exact ⟨heach, rfl⟩
  · cases h

end Run

/-- COVERED: let the manifest satisfy its schema and the run have no errors. Then every schema file
    has a target. Every target was evaluated, each value that it selects is valid or invalid as it
    expects, and there is at least one, unless it is an `each` target for an empty array. -/
theorem clean_run_coverage (repo : Repository) (lib : Library) (value : Json)
    (hfound : loadPath repo lib manifestPath = .ok value) (hvalid : isManifest value = true)
    (hclean : validateSchemaTargets repo lib = .ok []) :
    (∀ path ∈ repo.schemaFiles, ∃ target ∈ targetsOf value,
      target.lookup "schema" = some (.str path)) ∧
    ∀ target ∈ targetsOf value, ∃ schemaValue selection values,
      Evaluated repo lib target schemaValue selection values ∧
      (∀ v ∈ values, AsExpected lib target schemaValue v) ∧
      (values = [] → isEach target = true ∧ selection = .arr []) := by
  obtain ⟨d, items, rfl, htargets, hitems⟩ := targets_of_isManifest hvalid
  obtain ⟨errors, hrun⟩ : ∃ errors, checkTargets repo lib (.obj d) errors = .ok [] := by
    rcases validateSchemaTargets_cases hfound with ⟨msg, entry, -, hrun⟩ | ⟨kind, -, hrun⟩ |
      ⟨schema, errors, -, -, ⟨hnull, -⟩ | ⟨-, hrun⟩⟩
    · cases hclean.symm.trans hrun
    · cases hclean.symm.trans hrun
    · cases hnull
    · exact ⟨errors, hrun.symm.trans hclean⟩
  obtain ⟨-, houtcomes, hfiles⟩ := (checkTargets_clean htargets).mp hrun
  simp only [mem_targetsOf htargets]
  constructor
  · intro path hpath
    obtain ⟨target, htarget, houtcome⟩ := hfiles path hpath
    obtain ⟨target, rfl⟩ := exists_obj_of_isRecord (hitems target htarget)
    exact ⟨target, htarget, (targetOutcome_clean.mp houtcome).2.1⟩
  · intro target htarget
    obtain ⟨schema, houtcome⟩ := houtcomes _ htarget
    obtain ⟨-, -, schemaValue, selection, values, hevaluated, hchecked⟩ :=
      targetOutcome_clean.mp houtcome
    refine ⟨schemaValue, selection, values, hevaluated, fun v hv => ?_, ?_⟩
    · exact asExpected_of_checked (hitems _ htarget) (hchecked v hv)
    · rintro rfl
      exact empty_of_selects hevaluated.values

/-! ### An array of events -/

/-- A target that stands for the items of `events`. -/
def eventTarget : Dict :=
  [("name", .str "Events"), ("vector", .str "test-vectors/events.json"), ("pointer", .str "/events"),
    ("each", .bool true), ("schema", .str "schemas/event.schema.json")]

/-- A manifest with this target only. -/
def eventManifest : Json := .obj [("manifestVersion", .int 1), ("targets", .arr [.obj eventTarget])]

/-- The schema of an event. -/
def eventSchema : Json := .obj [("type", .str "object")]

/-- The manifest, its schema, a vector with these events, and the schema of an event. -/
def eventDocuments (events : List Json) : Dict :=
  [(manifestPath, eventManifest), (manifestSchemaPath, manifestSchema),
    ("test-vectors/events.json", .obj [("events", .arr events)]), ("schemas/event.schema.json", eventSchema)]

/-- These files, of which one is a schema file. -/
def eventRepository (events : List Json) : Repository :=
  .ofDocuments (eventDocuments events) {"schemas/event.schema.json"}

/-- A checker that accepts each value. -/
def eventLibrary (events : List Json) : Library := .ofDocuments (eventDocuments events) fun _ _ => []

section Events
variable {events : List Json}

theorem loadPath_eventManifest :
    loadPath (eventRepository events) (eventLibrary events) manifestPath = .ok eventManifest :=
  loadPath_ofDocuments (by decide) rfl rfl

theorem loadPath_events (h : noFloatItems events = true) :
    loadPath (eventRepository events) (eventLibrary events) "test-vectors/events.json"
      = .ok (.obj [("events", .arr events)]) :=
  loadPath_ofDocuments (by decide) rfl (by simp [noFloat, noFloatMembers, h])

theorem resolve_events :
    resolvePointer (.obj [("events", .arr events)]) (.str "/events") = .ok (.arr events) := rfl

theorem selects_events : Selects eventTarget (.arr events) events :=
  ⟨events, rfl, mapM_eq_ok.mpr (List.forall₂_same.mpr fun _ _ => rfl)⟩

theorem evaluated_events (h : noFloatItems events = true) :
    Evaluated (eventRepository events) (eventLibrary events) eventTarget eventSchema (.arr events) events where
  schema := ⟨_, rfl, loadPath_ofDocuments (by decide) rfl rfl⟩
  pointer := ⟨_, _, _, rfl, loadPath_events h, rfl, resolve_events⟩
  values := selects_events

theorem targetOutcome_events (h : noFloatItems events = true) :
    targetOutcome (eventRepository events) (eventLibrary events) (.obj eventTarget)
      = .ok (.str "schemas/event.schema.json", []) := by
  have hexpected : expectedOf eventTarget = .str "valid" := rfl
  refine targetOutcome_clean.mpr ⟨rfl, rfl, _, _, _, evaluated_events h, fun value _ => ?_⟩
  exact ⟨value, .inl ⟨rfl, rfl⟩, fun _ => rfl, by simp [hexpected]⟩

theorem clean_events (h : noFloatItems events = true) :
    validateSchemaTargets (eventRepository events) (eventLibrary events) = .ok [] := by
  have hschema : loadPath (eventRepository events) (eventLibrary events) manifestSchemaPath
      = .ok manifestSchema := loadPath_ofDocuments (by decide) rfl rfl
  have hmanifest : loadManifest (eventRepository events) (eventLibrary events) = .ok (eventManifest, []) := by
    rw [loadManifest, readManifest, loadPath_eventManifest, hschema]
    rfl
  rw [validateSchemaTargets, hmanifest]
  have htargets : ([("manifestVersion", .int 1), ("targets", .arr [.obj eventTarget])] : Dict).lookup "targets"
      = some (.arr [.obj eventTarget]) := rfl
  refine (checkTargets_clean htargets).mpr ⟨rfl, ?_, ?_⟩
  · exact List.forall_mem_singleton.mpr ⟨_, targetOutcome_events h⟩
  · intro path hpath
    cases Finset.mem_singleton.mp hpath
    exact ⟨_, List.mem_singleton_self _, targetOutcome_events h⟩

end Events

/-- One event: it is checked. -/
theorem clean_run_coverage_event :
    (∀ path ∈ (eventRepository [.obj []]).schemaFiles, ∃ target ∈ targetsOf eventManifest,
      target.lookup "schema" = some (.str path)) ∧
    ∀ target ∈ targetsOf eventManifest, ∃ schemaValue selection values,
      Evaluated (eventRepository [.obj []]) (eventLibrary [.obj []]) target schemaValue selection values ∧
      (∀ v ∈ values, AsExpected (eventLibrary [.obj []]) target schemaValue v) ∧
      (values = [] → isEach target = true ∧ selection = .arr []) :=
  clean_run_coverage _ _ eventManifest loadPath_eventManifest (by decide) (clean_events rfl)

/-- No events: the run has no errors, and nothing is checked against the schema of an event. -/
theorem clean_run_checks_nothing :
    isManifest eventManifest = true ∧
      loadPath (eventRepository []) (eventLibrary []) manifestPath = .ok eventManifest ∧
      validateSchemaTargets (eventRepository []) (eventLibrary []) = .ok [] ∧
      "schemas/event.schema.json" ∈ (eventRepository []).schemaFiles ∧
      ∀ target ∈ targetsOf eventManifest, ∀ schemaValue selection values,
        Evaluated (eventRepository []) (eventLibrary []) target schemaValue selection values →
        values = [] := by
  refine ⟨by decide, loadPath_eventManifest, clean_events rfl, Finset.mem_singleton_self _, ?_⟩
  intro target htarget schemaValue selection values hevaluated
  obtain ⟨path, document, pointer, hvector, hload, hpointer, hresolve⟩ := hevaluated.pointer
  obtain rfl : target = eventTarget := List.mem_singleton.mp htarget
  cases hvector
  cases hload.symm.trans (loadPath_events rfl)
  cases hpointer
  cases hresolve.symm.trans resolve_events
  obtain ⟨items, hitems, hmap⟩ : ∃ items, Json.arr [] = .arr items ∧
      items.mapM (fun item => resolvePointer item (itemPointer eventTarget)) = .ok values :=
    hevaluated.values
  cases hitems
  cases hmap
  rfl

end IncomUdon.SchemaTargets
