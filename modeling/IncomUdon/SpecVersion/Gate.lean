import Mathlib.Data.Finset.Sort
import Mathlib.Data.List.Lex
import Mathlib.Data.String.Basic
import IncomUdon.SpecVersion.Version

/-! `check_spec_version.py`, the gate of the snapshot. The stages come one after another, and each
    ends the program with status 1:

        SPEC_VERSION ──▶ --expected-version ──▶ --require-unreleased-unless-tagged ──▶ every vector
                                                      unreleased, or a tag at HEAD

    EXACT: the status is 0 exactly when the checkout states one version throughout.
    JOBS:  the job of a branch accepts what the job of some tag at its commit accepts. -/

namespace IncomUdon.SpecVersion
open IncomUdon.Python IncomUdon.SchemaTargets IncomUdon.Lib.ErrorLog

/-- `sorted(directory.rglob("*.json"))`: paths are compared part by part. -/
def sortedPaths (files : Finset String) : List String :=
  ((files.image fun path => split path.toList '/').sort (· ≤ ·)).map fun parts =>
    .ofList (['/'].intercalate parts)

theorem mem_sortedPaths {files : Finset String} {path : String} : path ∈ sortedPaths files ↔
    path ∈ files := by
  have hjoin : ∀ path : String, String.ofList (['/'].intercalate (split path.toList '/')) = path := by
    intro path
    rw [split, List.intercalate_splitOn, String.ofList_toList]
  simp [sortedPaths, hjoin]

/-- `head_tags`. -/
def headTags (checkout : Checkout) : Except SpecError (List (List Char)) :=
  match checkout.tags with
  | .error (.failed reason) => .error (.valueError ["cannot list tags pointing at HEAD: ", reason])
  | .error (.other kind) => .error (.fault kind)
  | .ok output => .ok ((splitLines output.toList).filter (· ≠ []))

variable (lib : Library) (checkout : Checkout)

/-- One vector file. -/
def checkVector (expected relative : String) : Py (List Msg) :=
  match checkout.readText (checkout.file relative) with
  | .error (.osError reason) => .ok [[relative, ": invalid JSON: ", reason]]
  | .error (.other kind) => fails kind
  | .ok text =>
    match lib.loads text with
    | .error .jsonDecodeError => .ok [[relative, ": invalid JSON: ", .fault .jsonDecodeError]]
    | .error kind => fails kind
    | .ok (.obj document) =>
      if (Dict.get document "specVersion").eq (.str expected) = true then .ok []
      else .ok [[relative, ": specVersion=", .repr (Dict.get document "specVersion"), ", expected ",
        .repr (.str expected)]]
    | .ok _ => .ok [[relative, ": root must be a JSON object"]]

/-- `validate_vectors`. -/
def validateVectors (expected : String) : Py (List Msg) :=
  match sortedPaths checkout.vectorFiles with
  | [] => .ok [["no JSON vectors found under ", checkout.file "test-vectors"]]
  | paths => do
    let entries ← paths.mapM (checkVector lib checkout expected)
    return entries.flatten

/-- The arguments. -/
structure Options where
  expectedVersion : Option String
  requireUnreleasedUnlessTagged : Bool

/-- The status of the program, and what it prints. -/
structure Exit where
  status : ℕ
  printed : List Msg

/-- `print(f"error: {exc}")` for a `ValueError`, and status 1. -/
def exitOn : SpecError → Py Exit
  | .valueError msg => .ok ⟨1, [Msg.add ["error: "] msg]⟩
  | .fault kind => if isValueError kind then .ok ⟨1, [["error: ", .fault kind]]⟩ else fails kind

/-- `version != args.expected_version`, when there is one. -/
def checkExpected (options : Options) (version : String) : Option Exit :=
  match options.expectedVersion with
  | none => none
  | some expected =>
    if version = expected then none
    else some ⟨1, [["error: SPEC_VERSION=", .repr (.str version), ", expected release tag ",
      .repr (.str expected)]]⟩

/-- `args.require_unreleased_unless_tagged`. -/
def checkTagged (options : Options) (version : String) : Py (Option Exit) :=
  if options.requireUnreleasedUnlessTagged = true ∧ version ≠ "unreleased" then
    match headTags checkout with
    | .error exc => some <$> exitOn exc
    | .ok tags =>
      if version.toList ∈ tags then .ok none
      else .ok (some ⟨1, [["error: non-tag build requires SPEC_VERSION='unreleased' unless ",
        "a matching tag points at HEAD; found ", .repr (.str version)]]⟩)
  else .ok none

/-- The last stage. -/
def checkVectors (version : String) : Py Exit := do
  match ← validateVectors lib checkout version with
  | [] => return ⟨0, [["validated ", version, ": all test-vector specVersion values match"]]⟩
  | errors => return ⟨1, errors.map fun error => Msg.add ["error: "] error⟩

/-- `main`. -/
def main (options : Options) : Py Exit :=
  match readSpecVersion checkout with
  | .error exc => exitOn exc
  | .ok version =>
    match checkExpected options version with
    | some exit => .ok exit
    | none => do
      match ← checkTagged checkout options version with
      | some exit => return exit
      | none => checkVectors lib checkout version

/-! ### What it accepts -/

/-- The vector is an object that states this version. -/
def VectorStates (version relative : String) : Prop :=
  ∃ text document, checkout.readText (checkout.file relative) = .ok text ∧
    lib.loads text = .ok (.obj document) ∧ Dict.get document "specVersion" = .str version

/-- There are vectors, and all of them state this version. -/
def VectorsState (version : String) : Prop :=
  checkout.vectorFiles.Nonempty ∧
    ∀ path ∈ checkout.vectorFiles, VectorStates lib checkout version path

/-- A line that `git` writes is this version. -/
def Tagged (version : String) : Prop :=
  ∃ output, checkout.tags = .ok output ∧ version.toList ∈ splitLines output.toList

/-- The options allow this version. -/
structure Allows (options : Options) (version : String) : Prop where
  expected : ∀ expected ∈ options.expectedVersion, version = expected
  tagged : options.requireUnreleasedUnlessTagged = true → version = "unreleased" ∨
    Tagged checkout version

/-- Nothing but `OSError`, `ValueError` and `JSONDecodeError` is met where it is caught. -/
structure GateHandled (options : Options) : Prop where
  version : ∀ kind, checkout.readText (checkout.file "SPEC_VERSION") = .error (.other kind) →
    isValueError kind = true
  tags : ∀ version, StatesVersion checkout version →
    (∀ expected ∈ options.expectedVersion, version = expected) →
    options.requireUnreleasedUnlessTagged = true → version ≠ "unreleased" →
    ∀ kind, checkout.tags = .error (.other kind) → isValueError kind = true
  vectors : ∀ version, StatesVersion checkout version → Allows checkout options version →
    ∀ path ∈ checkout.vectorFiles, FileReadable checkout.toRepository lib (checkout.file path)

section Stages
variable {lib checkout} {options : Options} {version relative : String}

theorem checkVector_eq_nil : checkVector lib checkout version relative = .ok [] ↔
    VectorStates lib checkout version relative := by
  unfold checkVector VectorStates
  rcases checkout.readText (checkout.file relative) with (reason | kind) | text
  · simp
  · simp
  · rcases hloads : lib.loads text with kind | value
    · cases kind <;> simp [hloads]
    · cases value <;> simp [hloads]

theorem checkVector_isOk : (∃ entries, checkVector lib checkout version relative = .ok entries) ↔
    FileReadable checkout.toRepository lib (checkout.file relative) := by
  unfold checkVector FileReadable TextHandled
  rcases checkout.readText (checkout.file relative) with (reason | kind) | text
  · simp
  · simp
  · rcases hloads : lib.loads text with kind | value
    · cases kind <;> simp [hloads]
    · cases value with
      | obj document =>
        simp only [hloads, reduceCtorEq, false_imp_iff, implies_true, iff_true]
        split <;> exact ⟨_, rfl⟩
      | _ => simp [hloads]

theorem sortedPaths_eq_nil {files : Finset String} : sortedPaths files = [] ↔ ¬files.Nonempty := by
  rw [List.eq_nil_iff_forall_not_mem]
  simp only [mem_sortedPaths]
  exact not_exists.symm

theorem validateVectors_eq_nil : validateVectors lib checkout version = .ok [] ↔
    VectorsState lib checkout version := by
  unfold validateVectors VectorsState
  rcases hpaths : sortedPaths checkout.vectorFiles with _ | ⟨path, paths⟩
  · simp [sortedPaths_eq_nil.mp hpaths]
  · have hnonempty : checkout.vectorFiles.Nonempty := by
      by_contra hne
      rw [sortedPaths_eq_nil.mpr hne] at hpaths
      cases hpaths
    rw [and_iff_right hnonempty]
    refine mapM_flatten_eq_nil.trans ?_
    rw [← hpaths]
    simp only [mem_sortedPaths, checkVector_eq_nil]

theorem validateVectors_isOk : (∃ errors, validateVectors lib checkout version = .ok errors) ↔
    ∀ path ∈ checkout.vectorFiles, FileReadable checkout.toRepository lib (checkout.file path) := by
  unfold validateVectors
  rcases hpaths : sortedPaths checkout.vectorFiles with _ | ⟨path, paths⟩
  · rw [sortedPaths_eq_nil, Finset.not_nonempty_iff_eq_empty] at hpaths
    simp [hpaths]
  · have hread : (∃ entries, (path :: paths).mapM (checkVector lib checkout version) = .ok entries) ↔
        ∀ path ∈ checkout.vectorFiles, FileReadable checkout.toRepository lib (checkout.file path) := by
      rw [mapM_isOk, ← hpaths]
      simp only [mem_sortedPaths, checkVector_isOk]
    rw [← hread]
    simp [bind_eq_ok, pure, Except.pure]

theorem checkExpected_eq_none : checkExpected options version = none ↔
    ∀ expected ∈ options.expectedVersion, version = expected := by
  unfold checkExpected
  rcases options.expectedVersion with _ | expected <;> simp

theorem status_of_checkExpected {exit : Exit} (h : checkExpected options version = some exit) :
    exit.status = 1 := by
  unfold checkExpected at h
  split at h
  · cases h
  · split at h
    · cases h
    · cases h
      rfl

theorem status_of_exitOn {exc : SpecError} {exit : Exit} (h : exitOn exc = .ok exit) :
    exit.status = 1 := by
  unfold exitOn at h
  split at h
  · cases h
    rfl
  · split at h
    · cases h
      rfl
    · cases h

theorem mem_headTags {tags : List (List Char)} {tag : List Char} (h : headTags checkout = .ok tags)
    (hne : tag ≠ []) : tag ∈ tags ↔
      ∃ output, checkout.tags = .ok output ∧ tag ∈ splitLines output.toList := by
  unfold headTags at h
  split at h
  · cases h
  · cases h
  · next output houtput =>
    cases h
    simp [houtput, hne]

theorem checkTagged_eq_none (hne : version.toList ≠ []) :
    checkTagged checkout options version = .ok none ↔
    (options.requireUnreleasedUnlessTagged = true → version = "unreleased" ∨ Tagged checkout version) := by
  unfold checkTagged
  split
  · next h =>
    rw [forall_prop_of_true h.1, or_iff_right h.2, Tagged]
    rcases htags : headTags checkout with exc | tags
    · have hnone : ¬∃ output, checkout.tags = .ok output ∧
          version.toList ∈ splitLines output.toList := by
        rintro ⟨output, houtput, -⟩
        simp [headTags, houtput] at htags
      rw [iff_false_right hnone, map_eq_ok]
      simp
    · rw [← mem_headTags htags hne]
      simp
  · next h =>
    refine iff_of_true rfl fun hrequire => .inl ?_
    by_contra hversion
    exact h ⟨hrequire, hversion⟩

theorem status_of_checkTagged {exit : Exit}
    (h : checkTagged checkout options version = .ok (some exit)) :
    exit.status = 1 := by
  unfold checkTagged at h
  split at h
  · split at h
    · obtain ⟨exit', hexit, hsome⟩ := map_eq_ok.mp h
      cases hsome
      exact status_of_exitOn hexit
    · split at h
      · cases h
      · cases h
        rfl
  · cases h

theorem exitOn_isOk {kind : Fault} : (∃ exit, exitOn (.fault kind) = .ok exit) ↔
    isValueError kind = true := by
  rw [exitOn]
  split <;> simp_all

theorem checkTagged_isOk : (∃ exit, checkTagged checkout options version = .ok exit) ↔
    (options.requireUnreleasedUnlessTagged = true → version ≠ "unreleased" →
      ∀ kind, checkout.tags = .error (.other kind) → isValueError kind = true) := by
  unfold checkTagged
  split
  · next h =>
    rw [forall_prop_of_true h.1, forall_prop_of_true h.2]
    rcases htags : checkout.tags with (reason | kind) | output
    · simp [headTags, htags, exitOn, Functor.map, Except.map]
    · simp only [headTags, htags, map_eq_ok, Except.error.injEq, GitError.other.injEq, forall_eq',
        ← exitOn_isOk]
      constructor
      · rintro ⟨_, exit, hexit, -⟩
        exact ⟨exit, hexit⟩
      · rintro ⟨exit, hexit⟩
        exact ⟨some exit, exit, hexit, rfl⟩
    · simp only [headTags, htags, reduceCtorEq, false_imp_iff, implies_true, iff_true]
      split <;> exact ⟨_, rfl⟩
  · next h =>
    refine iff_of_true ⟨none, rfl⟩ fun hrequire hversion => ?_
    exact absurd ⟨hrequire, hversion⟩ h

theorem checkVectors_zero : (∃ printed, checkVectors lib checkout version = .ok ⟨0, printed⟩) ↔
    VectorsState lib checkout version := by
  rw [← validateVectors_eq_nil, checkVectors]
  rcases validateVectors lib checkout version with exc | _ | ⟨error, errors⟩
  · simp [bind, Except.bind]
  · simp [pure, Except.pure]
  · simp [pure, Except.pure]

theorem checkVectors_isOk : (∃ exit, checkVectors lib checkout version = .ok exit) ↔
    ∀ path ∈ checkout.vectorFiles, FileReadable checkout.toRepository lib (checkout.file path) := by
  have hreadable : (∃ errors, validateVectors lib checkout version = .ok errors) ↔ _ :=
    validateVectors_isOk
  rw [← hreadable, checkVectors]
  rcases validateVectors lib checkout version with exc | _ | ⟨error, errors⟩
  · simp [bind, Except.bind]
  · simp [pure, Except.pure]
  · simp [pure, Except.pure]

theorem allows_iff : Allows checkout options version ↔
    (∀ expected ∈ options.expectedVersion, version = expected) ∧
      (options.requireUnreleasedUnlessTagged = true → version = "unreleased" ∨ Tagged checkout version) := by
  constructor
  · intro h
    exact ⟨h.expected, h.tagged⟩
  · rintro ⟨hexpected, htagged⟩
    exact ⟨hexpected, htagged⟩

theorem exists_states_iff {p : String → Prop} (h : StatesVersion checkout version) :
    (∃ other, StatesVersion checkout other ∧ p other) ↔ p version := by
  constructor
  · rintro ⟨other, hother, hp⟩
    rw [statesVersion_unique h hother]
    exact hp
  · intro hp
    exact ⟨version, h, hp⟩

/-- A version that is refused ends the program. -/
theorem main_refused {exit : Exit} (hread : readSpecVersion checkout = .ok version)
    (hexpected : checkExpected options version = some exit) : main lib checkout options = .ok exit := by
  simp only [main, hread, hexpected]

/-- A version that is expected goes to the other two stages. -/
theorem main_expected (hread : readSpecVersion checkout = .ok version)
    (hexpected : checkExpected options version = none) :
    main lib checkout options = checkTagged checkout options version >>= fun refused =>
      refused.elim (checkVectors lib checkout version) .ok := by
  simp only [main, hread, hexpected]
  refine congrArg _ (funext fun refused => ?_)
  cases refused <;> rfl

theorem not_states_of_error {exc : SpecError} (hread : readSpecVersion checkout = .error exc) :
    ¬StatesVersion checkout version := by
  intro h
  cases hread.symm.trans (readSpecVersion_eq_ok.mpr h)

/-- ZERO: the status is 0 exactly for a version that is stated, allowed and stated by all vectors. -/
theorem main_zero : (∃ printed, main lib checkout options = .ok ⟨0, printed⟩) ↔
    ∃ version, StatesVersion checkout version ∧ Allows checkout options version ∧
      VectorsState lib checkout version := by
  rcases hread : readSpecVersion checkout with exc | version
  · refine iff_of_false ?_ ?_
    · rintro ⟨printed, hexit⟩
      rw [main, hread] at hexit
      cases status_of_exitOn hexit
    · rintro ⟨version, h, -⟩
      exact not_states_of_error hread h
  · have hstates := readSpecVersion_eq_ok.mp hread
    rw [exists_states_iff hstates, allows_iff, ← checkExpected_eq_none,
      ← checkTagged_eq_none (isVersion_ne_nil hstates.1), ← checkVectors_zero]
    rcases hexpected : checkExpected options version with _ | exit
    · rw [main_expected hread hexpected]
      rcases htagged : checkTagged checkout options version with exc | _ | exit
      · simp [bind, Except.bind]
      · simp
      · have hstatus := status_of_checkTagged htagged
        have hne : ∀ printed, exit ≠ ⟨0, printed⟩ := by
          rintro printed rfl
          cases hstatus
        simp [hne]
    · rw [main_refused hread hexpected]
      have hstatus := status_of_checkExpected hexpected
      have hne : ∀ printed, exit ≠ ⟨0, printed⟩ := by
        rintro printed rfl
        cases hstatus
      simp [hne]

/-- The stages after the first, for the version that is read. -/
theorem main_isOk_of_states (hread : readSpecVersion checkout = .ok version) :
    (∃ exit, main lib checkout options = .ok exit) ↔
      ((∀ expected ∈ options.expectedVersion, version = expected) →
        (∃ refused, checkTagged checkout options version = .ok refused) ∧
        (checkTagged checkout options version = .ok none →
          ∃ exit, checkVectors lib checkout version = .ok exit)) := by
  rw [← checkExpected_eq_none]
  rcases hexpected : checkExpected options version with _ | exit
  · rw [main_expected hread hexpected]
    rcases checkTagged checkout options version with exc | _ | exit
    · simp [bind, Except.bind]
    · simp
    · simp
  · simp [main_refused hread hexpected]

theorem exitOn_isOk_of_error {exc : SpecError} (hread : readSpecVersion checkout = .error exc) :
    (∃ exit, exitOn exc = .ok exit) ↔
      ∀ kind, checkout.readText (checkout.file "SPEC_VERSION") = .error (.other kind) →
        isValueError kind = true := by
  have hvalue : ∀ msg, ∃ exit, exitOn (.valueError msg) = .ok exit := fun msg => ⟨_, rfl⟩
  unfold readSpecVersion at hread
  rcases htext : checkout.readText (checkout.file "SPEC_VERSION") with (reason | kind) | text
  · simp only [htext] at hread
    cases hread
    exact iff_of_true (hvalue _) (by simp)
  · simp only [htext] at hread
    cases hread
    simp [exitOn_isOk]
  · simp only [htext] at hread
    refine iff_of_true ?_ (by simp)
    split at hread
    · split at hread
      · cases hread
      · cases hread
        exact hvalue _
    · cases hread
      exact hvalue _

/-- HANDLED: the program ends with a status exactly when what it meets is handled. -/
theorem main_isOk : (∃ exit, main lib checkout options = .ok exit) ↔
    GateHandled lib checkout options := by
  rcases hread : readSpecVersion checkout with exc | version
  · have hnone : ∀ version, ¬StatesVersion checkout version :=
      fun version => not_states_of_error hread
    have hmain : main lib checkout options = exitOn exc := by simp only [main, hread]
    rw [hmain, exitOn_isOk_of_error hread]
    constructor
    · intro h
      exact ⟨h, fun version hversion => absurd hversion (hnone version),
        fun version hversion => absurd hversion (hnone version)⟩
    · intro h
      exact h.version
  · have hstates := readSpecVersion_eq_ok.mp hread
    have hunique : ∀ other, StatesVersion checkout other → other = version := fun other hother =>
      statesVersion_unique hother hstates
    rw [main_isOk_of_states hread, checkTagged_isOk, checkTagged_eq_none (isVersion_ne_nil hstates.1),
      checkVectors_isOk]
    constructor
    · intro h
      refine ⟨?_, ?_, ?_⟩
      · intro kind htext
        obtain ⟨-, text, hok, -⟩ := hstates
        cases htext.symm.trans hok
      · rintro other hother hexpected
        cases hunique other hother
        exact (h hexpected).1
      · intro other hother hallows
        cases hunique other hother
        exact (h hallows.expected).2 hallows.tagged
    · intro h hexpected
      exact ⟨h.tags version hstates hexpected, fun htagged => h.vectors version hstates ⟨hexpected,
        htagged⟩⟩

end Stages

/-- EXACT: the gate passes exactly when `SPEC_VERSION` states a version that the options allow and
    that every vector states; it ends without a status exactly when an exception goes through. -/
theorem checkSpecVersion_exact (lib : Library) (checkout : Checkout) (options : Options) :
    ((∃ printed, main lib checkout options = .ok ⟨0, printed⟩) ↔
      ∃ version, StatesVersion checkout version ∧ Allows checkout options version ∧
        VectorsState lib checkout version) ∧
    ((∃ exit, main lib checkout options = .ok exit) ↔ GateHandled lib checkout options) :=
  ⟨main_zero, main_isOk⟩

/-- The lines that `git` writes for the names of tags. -/
def tagLines (names : List String) : String :=
  .ofList ((names.map String.toList).flatMap fun name => name ++ ['\n'])

/-- What the jobs of the workflow pass to the program. -/
def plainJob : Options := ⟨none, false⟩

def branchJob : Options := ⟨none, true⟩

def tagJob (name : String) : Options := ⟨some name, false⟩

theorem tagged_tagLines {checkout : Checkout} {names : List String} {version : String}
    (htags : checkout.tags = .ok (tagLines names)) (hnames : ∀ name ∈ names, OneLine name.toList) :
    Tagged checkout version ↔ version ∈ names := by
  have hlines : splitLines (tagLines names).toList = names.map String.toList := by
    rw [tagLines, String.toList_ofList]
    exact splitLines_unlines (List.forall_mem_map.mpr hnames)
  simp only [Tagged, htags, Except.ok.injEq, exists_eq_left', hlines, List.mem_map, String.toList_inj,
    exists_eq_right]

/-- JOBS: with names of one line, the job of a branch passes exactly when the snapshot is unreleased
    and the plain job passes, or the job of some tag at the commit passes. -/
theorem branchJob_passes_iff (lib : Library) (checkout : Checkout) (names : List String)
    (htags : checkout.tags = .ok (tagLines names)) (hnames : ∀ name ∈ names, OneLine name.toList) :
    (∃ printed, main lib checkout branchJob = .ok ⟨0, printed⟩) ↔
      StatesVersion checkout "unreleased" ∧
      (∃ printed, main lib checkout plainJob = .ok ⟨0, printed⟩) ∨
        ∃ name ∈ names, ∃ printed, main lib checkout (tagJob name) = .ok ⟨0, printed⟩ := by
  simp only [main_zero, allows_iff, tagged_tagLines htags hnames, branchJob, plainJob, tagJob,
    Option.mem_def, Option.some.injEq, forall_eq', reduceCtorEq, false_imp_iff, implies_true, true_and,
    forall_const, Bool.false_eq_true, and_true]
  constructor
  · rintro ⟨version, hstates, rfl | hname, hvectors⟩
    · exact .inl ⟨hstates, "unreleased", hstates, hvectors⟩
    · exact .inr ⟨version, hname, version, hstates, rfl, hvectors⟩
  · rintro (⟨hstates, version, hversion, hvectors⟩ | ⟨name, hname, version, hstates, rfl, hvectors⟩)
    · exact ⟨version, hversion, .inl (statesVersion_unique hversion hstates), hvectors⟩
    · exact ⟨version, hstates, .inr hname, hvectors⟩

/-- One vector of a release. -/
def releaseVectors : Dict :=
  [("test-vectors/ptt-timeout.json", .obj [("specVersion", .str "v0.10.1")])]

/-- A checkout of the release with this vector, tagged twice. -/
def releaseCheckout : Checkout where
  isAbsolute _ := false
  resolve := .ok
  isInside _ := true
  readText path :=
    if path = "SPEC_VERSION" then .ok "v0.10.1\n"
    else (Repository.ofDocuments releaseVectors ∅).readText path
  schemaFiles := ∅
  file := id
  vectorFiles := {"test-vectors/ptt-timeout.json"}
  tags := .ok (tagLines ["v0.10.1", "latest"])

/-- Its JSON reader. -/
def releaseLibrary : Library := .ofDocuments releaseVectors fun _ _ => []

example : (main releaseLibrary releaseCheckout branchJob).toOption.map (·.status) = some 0 := by decide +kernel

theorem branchJob_passes_iff_release :
    (∃ printed, main releaseLibrary releaseCheckout branchJob = .ok ⟨0, printed⟩) ↔
      StatesVersion releaseCheckout "unreleased" ∧
          (∃ printed, main releaseLibrary releaseCheckout plainJob = .ok ⟨0, printed⟩) ∨
        ∃ name ∈ ["v0.10.1", "latest"],
          ∃ printed, main releaseLibrary releaseCheckout (tagJob name) = .ok ⟨0, printed⟩ :=
  branchJob_passes_iff releaseLibrary releaseCheckout _ rfl (by decide)

end IncomUdon.SpecVersion
