import IncomUdon.Lifecycle.Suite

/-! What becomes of a mismatch that the media replay validator has found. It collects its errors in
    a list of its own; the handler of the suite takes that list when the validator returns, and only
    the text of the exception when it raises:

        case  case  case                       both mismatches are returned
         ✗     ✗    readable
        case  case  case                       one entry about the third case
         ✗     ✗    malformed

    KEPT: the mismatches of the first cases are in the list of the suite, whatever the other files
    hold, exactly when every case after them is readable. -/

namespace IncomUdon.Lifecycle
open IncomUdon.Python IncomUdon.Loader IncomUdon.Lib.ReplayWindow IncomUdon.Lib.ErrorLog

/-- The path of the media replay document. -/
def mediaReplayPath : String := "test-vectors/media-replay-v1.json"

/-- The case is an object, and unless it is a session check its counters are 32-bit integers. -/
def MediaCaseReadable (case : Json) : Prop :=
  ∃ d, case = .obj d ∧ (Dict.has d "announcedMediaNonceBase96Hex" = true ∨
    (Dict.get d "initialHighestAuthenticatedCounter" = .null ∨
        Natural 0xFFFFFFFF (Dict.get d "initialHighestAuthenticatedCounter")) ∧
      (∃ seen, (Dict.getD d "initialSeenCounters" (.arr [])).items? = some seen ∧
        ∀ value ∈ seen, Natural 0xFFFFFFFF value) ∧
      Natural 0xFFFFFFFF (Dict.get d "counter"))

/-- The longer document has further cases. -/
structure CasesAppended (short long : Dict) (cases more : List Json) : Prop where
  window : Dict.get long "windowSize" = Dict.get short "windowSize"
  short : Dict.get short "cases" = .arr cases
  long : Dict.get long "cases" = .arr (cases ++ more)

/-- Whatever the other files hold, a list that the suite returns has these entries. -/
def Kept (lib : Library) (document : Dict) (found : List Msg) : Prop :=
  ∀ root errors, root mediaReplayPath = .json (.obj document) →
    validateLifecycleVectors lib root = .ok errors → ∀ entry ∈ found, entry ∈ errors

/-! ### One case, in its parts -/

/-- The session check of a case. -/
def sessionCheck (case : Dict) (name : Msg) : Check Unit :=
  let announced := Dict.get case "announcedMediaNonceBase96Hex"
  let expected :=
    if announced.eq (Dict.get case "packetMediaNonceBase96Hex")
    then "accept_and_mark_seen" else "reject_unannounced_session"
  compare (name.add [" action"]) (.str expected) (Dict.get case "expected")

/-- `highest` of a case. -/
def readHighest (high : Json) (label : Msg) : Check (Option ℕ) :=
  match high with
  | .null => pure none
  | high => some <$> Run.lift (integer high label 0xFFFFFFFF)

/-- The transition of a case, once `highest` is read. -/
def counterCheck (window : ℕ) (case : Dict) (name : Msg) (highest : Option ℕ) : Check Unit := do
  let seen ← iterate (Dict.getD case "initialSeenCounters" (.arr []))
  let seen ← seen.mapM fun value => integer value (name.add [" seen counter"]) 0xFFFFFFFF
  let counter ← integer (Dict.get case "counter") (name.add [" counter"]) 0xFFFFFFFF
  let (decision, state) := mediaReplayTransition window ⟨highest, seen.toFinset⟩
    ⟨counter, Dict.get case "authentication"⟩
  compare (name.add [" action"]) (.str decision.text) (Dict.get case "expected")
  compare (name.add [" high counter"]) (.ofNat? state.highest)
    (Dict.get case "resultHighestAuthenticatedCounter")
  compare (name.add [" seen counters"])
    (.ints (state.seen.sort (· ≥ ·))) (Dict.get case "resultSeenCounters")

/-- The label of a case without a name. -/
def caseLabel (index : ℕ) : Msg := ["media replay case ", .val (.int index)]

theorem mediaReplayCase_eq (window : ℕ) (case : Json) (index : ℕ) :
    mediaReplayCase window case index = (do
      let case ← asObject case ((caseLabel index).add [" must be an object"])
      let name := nameLabel case (caseLabel index)
      if Dict.has case "announcedMediaNonceBase96Hex" then sessionCheck case name
      else do
        let highest ← readHighest (Dict.get case "initialHighestAuthenticatedCounter")
          (name.add [" high counter"])
        counterCheck window case name highest) := by
  unfold mediaReplayCase
  refine congrArg (_ >>= ·) (funext fun d => ?_)
  simp only [readHighest]
  cases Dict.get d "initialHighestAuthenticatedCounter" <;> rfl

section Case
variable {window index : ℕ} {case value : Json} {d : Dict} {label name entry : Msg}
  {highest : Option ℕ}

theorem exists_returns_readHighest :
    (∃ highest, Returns (readHighest value label) highest) ↔
      value = .null ∨ Natural 0xFFFFFFFF value := by
  cases value <;> simp [readHighest, Natural, integer_eq_ok]

theorem exists_returns_seen (label : Msg) {seen : List Json} : (∃ values, Returns (seen.mapM
      fun value => (Run.lift (integer value label 0xFFFFFFFF) : Check ℕ)) values) ↔
    ∀ value ∈ seen, Natural 0xFFFFFFFF value := by
  induction seen with
  | nil => simp
  | cons value seen ih =>
    rw [List.forall_mem_cons, ← ih]
    simp only [List.mapM_cons, returns_bind, returns_pure, returns_lift, integer_eq_ok, Natural]
    constructor
    · rintro ⟨_, n, hn, ns, hns, -⟩
      exact ⟨⟨n, hn⟩, ns, hns⟩
    · rintro ⟨⟨n, hn⟩, ns, hns⟩
      exact ⟨_, n, hn, ns, hns, rfl⟩

theorem returns_counterCheck : Returns (counterCheck window d name highest) () ↔
    (∃ seen, (Dict.getD d "initialSeenCounters" (.arr [])).items? = some seen ∧
      ∀ value ∈ seen, Natural 0xFFFFFFFF value) ∧ Natural 0xFFFFFFFF (Dict.get d "counter") := by
  simp only [counterCheck, Run.liftM_eq, returns_bind, returns_lift, iterate_eq_ok, integer_eq_ok,
    returns_compare, exists_const, and_true, ← exists_returns_seen (name.add [" seen counter"])]
  constructor
  · rintro ⟨seen, hseen, values, hvalues, n, hn⟩
    exact ⟨⟨seen, hseen, values, hvalues⟩, n, hn⟩
  · rintro ⟨⟨seen, hseen, values, hvalues⟩, n, hn⟩
    exact ⟨seen, hseen, values, hvalues, n, hn⟩

/-- A case returns exactly when it is readable. -/
theorem returns_mediaReplayCase :
    Returns (mediaReplayCase window case index) () ↔ MediaCaseReadable case := by
  simp only [mediaReplayCase_eq, Run.liftM_eq, returns_bind, returns_lift, asObject_eq_ok,
    returns_ite, sessionCheck, returns_compare, and_true, returns_counterCheck, exists_and_right,
    exists_returns_readHighest, MediaCaseReadable]
  refine exists_congr fun d => and_congr_right fun _ => ?_
  tauto

/-! ### Mismatches and exceptions have different texts -/

/-- The entry ends with the `repr` of a value, as those of `_compare` do. -/
def EndsInRepr (entry : Msg) : Prop := ∃ value, entry.getLast? = some (.repr value)

/-- The text of the exception does not. -/
def Plain (exc : PyExc) : Prop := ¬EndsInRepr exc.text

theorem plain_lit (front : Msg) (text : String) :
    Plain (.vectorValidation (front ++ [.lit text])) := by
  simp [Plain, EndsInRepr, PyExc.text]

theorem plain_integer {maximum : ℕ} : ThrowsOnly Plain (integer value label maximum) :=
  throwsOnly_integer (by simp [Plain, EndsInRepr, PyExc.text, integer.outOfRange])

theorem plain_iterate : ThrowsOnly Plain (iterate value) :=
  throwsOnly_iterate.mpr (.inr (by simp [Plain, EndsInRepr, PyExc.text]))

theorem endsInRepr_of_compare {actual expected : Json}
    (h : Reports (compare label actual expected) entry) :
    EndsInRepr entry := by
  rw [eq_of_reports_compare h]
  exact ⟨actual, by simp⟩

theorem plain_mediaReplayCase : RaisesOnly Plain (mediaReplayCase window case index) := by
  have hseen : ∀ (label : Msg) (items : List Json), RaisesOnly Plain (items.mapM fun value =>
      (Run.lift (integer value label 0xFFFFFFFF) : Check ℕ)) := fun _ _ =>
    raisesOnly_mapM fun _ _ => raisesOnly_lift.mpr plain_integer
  have hhigh : ∀ value label, RaisesOnly Plain (readHighest value label) := by
    intro value label
    cases value <;> simp [readHighest, plain_integer]
  simp only [mediaReplayCase_eq, Run.liftM_eq, raisesOnly_bind, raisesOnly_lift, throwsOnly_asObject,
    raisesOnly_ite, sessionCheck, counterCheck, raisesOnly_compare, hhigh, plain_iterate,
    plain_integer, hseen, implies_true, and_true]
  exact .inr (plain_lit _ _)

theorem endsInRepr_of_mediaReplayCase (h : Reports (mediaReplayCase window case index) entry) :
    EndsInRepr entry := by
  have hseen : ∀ (label : Msg) (items : List Json), ¬Reports (items.mapM fun value =>
      (Run.lift (integer value label 0xFFFFFFFF) : Check ℕ)) entry := fun _ _ h =>
    (exists_reports_of_mapM h).elim fun _ h => not_reports_lift h.2
  have hhigh : ∀ value label, ¬Reports (readHighest value label) entry := by
    intro value label
    cases value <;> simp [readHighest]
  simp only [mediaReplayCase_eq, Run.liftM_eq, reports_bind, not_reports_lift, false_or, reports_ite,
    sessionCheck, counterCheck, hhigh, hseen] at h
  obtain ⟨d, -, ⟨-, h⟩ | ⟨-, highest, -, seen, -, values, -, counter, -, h⟩⟩ := h
  · exact endsInRepr_of_compare h
  · rcases h with h | ⟨-, -, h | ⟨-, -, h⟩⟩ <;> exact endsInRepr_of_compare h

end Case

/-! ### The validator -/

/-- `_validate_media_replay` on the two members that it reads. -/
def checkMediaReplay (windowSize cases : Json) : Check Unit := do
  let window ← integer windowSize ["media replay windowSize"] 0xFFFF
  compare ["media replay window size"] (.int window) (.int 64)
  let cases ← asArray cases ["media replay cases must be an array"]
  forM cases.zipIdx fun (case, index) => mediaReplayCase window case index

section Validator
variable {root : Root} {document : Dict} {windowSize value : Json} {cases more : List Json}
  {entry : Msg}

theorem validateMediaReplay_eq (h : root mediaReplayPath = .json (.obj document)) :
    validateMediaReplay root
      = checkMediaReplay (Dict.get document "windowSize") (Dict.get document "cases") := by
  have hload : load root "test-vectors/media-replay-v1.json" = .ok document := load_eq_ok.mpr h
  rw [validateMediaReplay, hload]
  exact Run.pure_bind' _ _

theorem returns_checkMediaReplay : Returns (checkMediaReplay windowSize (.arr cases)) () ↔
    Natural 0xFFFF windowSize ∧ ∀ case ∈ cases, MediaCaseReadable case := by
  have hcases : ∀ window, Returns (forM cases.zipIdx fun (case, index) =>
      mediaReplayCase window case index) () ↔ ∀ case ∈ cases, MediaCaseReadable case := fun _ =>
    returns_forM_zipIdx fun _ _ => returns_mediaReplayCase
  simp only [checkMediaReplay, asArray, Run.liftM_eq, returns_bind, returns_lift,
    returns_compare, hcases, true_and, exists_const, Except.ok.injEq, exists_eq_left',
    exists_and_right, integer_eq_ok, Natural]

/-- STEP: what a run over the first cases has reported is reported when others follow. -/
theorem reports_checkMediaReplay_append (h : Reports (checkMediaReplay windowSize (.arr cases)) entry) :
    Reports (checkMediaReplay windowSize (.arr (cases ++ more))) entry := by
  simp only [checkMediaReplay, asArray, Run.liftM_eq, reports_bind, not_reports_lift, false_or,
    returns_lift, Except.ok.injEq, exists_eq_left', List.zipIdx_append, List.forM_append] at h ⊢
  obtain ⟨window, hwindow, h⟩ := h
  exact ⟨window, hwindow, h.imp_right fun ⟨u, hreturns, hcases⟩ => ⟨u, hreturns, .inl hcases⟩⟩

theorem endsInRepr_of_checkMediaReplay (h : Reports (checkMediaReplay windowSize (.arr cases)) entry) :
    EndsInRepr entry := by
  simp only [checkMediaReplay, asArray, Run.liftM_eq, reports_bind, not_reports_lift, false_or,
    returns_lift, Except.ok.injEq, exists_eq_left'] at h
  obtain ⟨window, -, h | ⟨-, -, h⟩⟩ := h
  · exact endsInRepr_of_compare h
  · obtain ⟨_, -, hcase⟩ := exists_reports_of_forM h
    exact endsInRepr_of_mediaReplayCase hcase

theorem plain_checkMediaReplay : RaisesOnly Plain (checkMediaReplay windowSize (.arr cases)) := by
  have hcases : ∀ window, RaisesOnly Plain (forM cases.zipIdx fun (case, index) =>
      mediaReplayCase window case index) := fun _ => raisesOnly_forM fun _ _ => plain_mediaReplayCase
  simp [checkMediaReplay, asArray, plain_integer, hcases]

end Validator

/-! ### The suite -/

section Suite
variable {lib : Library} {root : Root} {errors entries : List Msg} {label : String}
  {validator : Check Unit} {entry : Msg} {exc : PyExc} {log : List Msg} {document : Dict}

/-- The entries of each validator are returned, and only these. -/
theorem mem_of_validator (h : validateLifecycleVectors lib root = .ok errors)
    (hvalidator : (label, validator) ∈ validators lib root)
    (hentries : handle lifecycleCaught [label] validator = .ok entries) (hentry : entry ∈ entries) :
    entry ∈ errors := by
  obtain ⟨reports, hreports, hflat⟩ := bind_eq_ok.mp h
  cases hflat
  obtain ⟨report, hmem, hreport⟩ := exists_result_of_mapM hreports hvalidator
  cases hentries.symm.trans hreport
  exact List.mem_flatten_of_mem hmem hentry

theorem exists_validator_of_mem (h : validateLifecycleVectors lib root = .ok errors)
    (hentry : entry ∈ errors) : ∃ validator ∈ validators lib root, ∃ entries,
      handle lifecycleCaught [validator.1] validator.2 = .ok entries ∧ entry ∈ entries := by
  obtain ⟨reports, hreports, hflat⟩ := bind_eq_ok.mp h
  cases hflat
  obtain ⟨report, hmem, hentry⟩ := List.mem_flatten.mp hentry
  obtain ⟨validator, hvalidator, hreport⟩ := exists_element_of_mapM hreports hmem
  exact ⟨validator, hvalidator, report, hreport, hentry⟩

/-- A validator that raises with a plain text is reported with one. -/
theorem not_endsInRepr_of_raised (hplain : Plain exc)
    (h : handle lifecycleCaught [label] (.raised exc log) = .ok entries) (hentry : entry ∈ entries) :
    ¬EndsInRepr entry := by
  simp only [handle] at h
  split at h
  · cases h
    rw [List.mem_singleton.mp hentry]
    rintro ⟨value, hlast⟩
    cases htext : exc.text.getLast? with
    | none => simp [List.getLast?_eq_none_iff.mp htext] at hlast
    | some last =>
      rw [List.getLast?_append, List.getLast?_cons, htext] at hlast
      exact hplain ⟨value, by simpa [htext] using hlast⟩
  · cases h

/-- A repository with the media replay document and nothing else. -/
def onlyMediaReplay (document : Dict) : Root := fun path =>
  if path = mediaReplayPath then .json (.obj document) else .unreadable "no such file"

/-- There the other validators raise at once. -/
theorem validators_onlyMediaReplay : ∀ validator ∈ validators lib (onlyMediaReplay document),
    validator.2 = validateMediaReplay (onlyMediaReplay document) ∨
      ∃ path : String, validator.2
        = .raised (.vectorValidation ["cannot read ", path, ": ", "no such file"]) [] := by
  simp only [validators, List.forall_mem_cons, List.not_mem_nil, false_imp_iff, implies_true,
    and_true]
  exact ⟨.inr ⟨_, rfl⟩, .inr ⟨_, rfl⟩, .inr ⟨_, rfl⟩, .inr ⟨_, rfl⟩, .inr ⟨_, rfl⟩, .inr ⟨_, rfl⟩,
    .inr ⟨_, rfl⟩, .inl trivial, .inr ⟨_, rfl⟩⟩

/-- The suite returns there, whatever the document. -/
theorem exists_errors_onlyMediaReplay (lib : Library) (document : Dict) :
    ∃ errors, validateLifecycleVectors lib (onlyMediaReplay document) = .ok errors :=
  validateLifecycleVectors_isOk.mpr ⟨nofun, nofun, nofun⟩

/-- When the media replay validator raises there, no entry is a mismatch. -/
theorem not_endsInRepr_onlyMediaReplay (hplain : Plain exc)
    (hrun : validateMediaReplay (onlyMediaReplay document) = .raised exc log)
    (h : validateLifecycleVectors lib (onlyMediaReplay document) = .ok errors) (hentry : entry ∈ errors) :
    ¬EndsInRepr entry := by
  obtain ⟨validator, hvalidator, entries, hentries, hmem⟩ := exists_validator_of_mem h hentry
  rcases validators_onlyMediaReplay validator hvalidator with hmedia | ⟨path, hpath⟩
  · rw [hmedia, hrun] at hentries
    exact not_endsInRepr_of_raised hplain hentries hmem
  · rw [hpath] at hentries
    exact not_endsInRepr_of_raised (plain_lit ["cannot read ", path, ": "] _) hentries hmem

end Suite

section Kept
variable {lib : Library} {short long : Dict} {cases more : List Json} {found : List Msg}

/-- Every further case is readable, so the validator returns and its list is kept. -/
theorem kept_of_readable (hextends : CasesAppended short long cases more)
    (hrun : checkMediaReplay (Dict.get short "windowSize") (Dict.get short "cases") = .returned () found)
    (hmore : ∀ case ∈ more, MediaCaseReadable case) : Kept lib long found := by
  intro root errors hroot hsuite entry hentry
  rw [hextends.short] at hrun
  have hreturns := returns_checkMediaReplay.mp ⟨found, hrun⟩
  have hall : ∀ case ∈ cases ++ more, MediaCaseReadable case :=
    List.forall_mem_append.mpr ⟨hreturns.2, hmore⟩
  obtain ⟨log, hlog⟩ : Returns (validateMediaReplay root) () := by
    rw [validateMediaReplay_eq hroot, hextends.window, hextends.long]
    exact returns_checkMediaReplay.mpr ⟨hreturns.1, hall⟩
  have hreports : Reports (validateMediaReplay root) entry := by
    rw [validateMediaReplay_eq hroot, hextends.window, hextends.long]
    exact reports_checkMediaReplay_append ((reports_of_returned hrun).mpr hentry)
  have hmember : ("Media replay", validateMediaReplay root) ∈ validators lib root := by simp [validators]
  refine mem_of_validator hsuite hmember ?_ ((reports_of_returned hlog).mp hreports)
  rw [hlog]; rfl

/-- A further case that is malformed makes the validator raise, and its list is lost. -/
theorem readable_of_kept (hextends : CasesAppended short long cases more)
    (hrun : checkMediaReplay (Dict.get short "windowSize") (Dict.get short "cases") = .returned () found)
    (hkept : Kept lib long found) (hfound : found ≠ []) : ∀ case ∈ more, MediaCaseReadable case := by
  obtain ⟨entry, hentry⟩ := List.exists_mem_of_ne_nil found hfound
  obtain ⟨errors, hsuite⟩ := exists_errors_onlyMediaReplay lib long
  have hmem := hkept (onlyMediaReplay long) errors (if_pos rfl) hsuite entry hentry
  rw [hextends.short] at hrun
  have hmismatch : EndsInRepr entry :=
    endsInRepr_of_checkMediaReplay ((reports_of_returned hrun).mpr hentry)
  have hcheck : validateMediaReplay (onlyMediaReplay long)
      = checkMediaReplay (Dict.get short "windowSize") (.arr (cases ++ more)) := by
    rw [validateMediaReplay_eq (if_pos rfl), hextends.window, hextends.long]
  cases hlong : validateMediaReplay (onlyMediaReplay long) with
  | returned u log =>
    have hall := (returns_checkMediaReplay.mp ⟨log, hcheck.symm.trans hlong⟩).2
    exact (List.forall_mem_append.mp hall).2
  | raised exc log =>
    have hplain : Plain exc := plain_checkMediaReplay exc log (hcheck.symm.trans hlong)
    exact absurd hmismatch (not_endsInRepr_onlyMediaReplay hplain hlong hsuite hmem)

end Kept

/-- KEPT: let the validator alone record these mismatches on the shorter document. With further cases
    they are all in the list of the suite, whatever the other files hold, exactly when there are
    none or every further case is readable. -/
theorem mediaReplay_errors_kept_iff (lib : Library) (short long : Dict) (cases more : List Json)
    (hextends : CasesAppended short long cases more) (alone : Root) (found : List Msg)
    (halone : alone mediaReplayPath = .json (.obj short))
    (hrun : validateMediaReplay alone = .returned () found) :
    Kept lib long found ↔ found = [] ∨ ∀ case ∈ more, MediaCaseReadable case := by
  rw [validateMediaReplay_eq halone] at hrun
  constructor
  · exact fun hkept => or_iff_not_imp_left.mpr (readable_of_kept hextends hrun hkept)
  · rintro (rfl | hmore)
    · exact fun _ _ _ _ _ => nofun
    · exact kept_of_readable hextends hrun hmore

/-! ### A mismatch that is lost -/

/-- A document with these cases. -/
def replayDocument (cases : List Json) : Dict := [("windowSize", .int 64), ("cases", .arr cases)]

/-- A session check that expects the wrong action. -/
def mismatchCase : Json :=
  .obj [("announcedMediaNonceBase96Hex", .str "00"), ("packetMediaNonceBase96Hex", .str "00"),
    ("expected", .str "reject_unannounced_session")]

/-- What is recorded about it. -/
def mismatch : Msg :=
  ["media replay case ", .val (.int 0), " action", ": expected ", .repr (.str "reject_unannounced_session"),
    ", got ", .repr (.str "accept_and_mark_seen")]

theorem run_mismatchCase :
    validateMediaReplay (onlyMediaReplay (replayDocument [mismatchCase])) = .returned () [mismatch] := rfl

/-- A library that parses nothing. -/
def silentLibrary : Library where
  loads _ := fails .jsonDecodeError
  dictReader _ := .ok []
  sha256 _ := []
  hmacSha256 _ _ := []

/-- A second session check leaves the mismatch of the first in the list. -/
theorem mediaReplay_errors_kept_session :
    Kept silentLibrary (replayDocument [mismatchCase, mismatchCase]) [mismatch] :=
  (mediaReplay_errors_kept_iff silentLibrary (replayDocument [mismatchCase])
    (replayDocument [mismatchCase, mismatchCase]) [mismatchCase] [mismatchCase] ⟨rfl, rfl, rfl⟩
    (onlyMediaReplay (replayDocument [mismatchCase])) [mismatch] rfl run_mismatchCase).mpr
    (.inr (List.forall_mem_singleton.mpr ⟨_, rfl, .inl rfl⟩))

/-- With `null` after it the mismatch is recorded, and the list that the suite returns is without
    it. -/
theorem mediaReplay_errors_lost :
    CasesAppended (replayDocument [mismatchCase]) (replayDocument [mismatchCase, .null]) [mismatchCase]
        [.null] ∧
      validateMediaReplay (onlyMediaReplay (replayDocument [mismatchCase])) = .returned () [mismatch] ∧
      ∀ lib, ∃ errors,
        validateLifecycleVectors lib (onlyMediaReplay (replayDocument [mismatchCase, .null])) = .ok errors ∧
        mismatch ∉ errors := by
  refine ⟨⟨rfl, rfl, rfl⟩, run_mismatchCase, fun lib => ?_⟩
  obtain ⟨errors, hsuite⟩ := exists_errors_onlyMediaReplay lib (replayDocument [mismatchCase, .null])
  have hrun : validateMediaReplay (onlyMediaReplay (replayDocument [mismatchCase, .null]))
      = .raised (.vectorValidation ["media replay case ", .val (.int 1), " must be an object"])
        [mismatch] := rfl
  refine ⟨errors, hsuite, fun hmem => ?_⟩
  have hplain := plain_lit ["media replay case ", .val (.int 1)] " must be an object"
  exact not_endsInRepr_onlyMediaReplay hplain hrun hsuite hmem ⟨_, rfl⟩

end IncomUdon.Lifecycle
