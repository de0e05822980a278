import IncomUdon.Lifecycle.Common

/-! The Directory lifecycle: its limits and its replay window. A fixture lists the sequences that were
    accepted and gives the highest of them, if it does:

        candidate ∈ accepted                    reject as a duplicate
        candidate < highest - (window - 1)      reject as stale
        otherwise                               accept

    CAUGHT: the handler reports every exception of these checks. -/

namespace IncomUdon.Lifecycle
open IncomUdon.Python IncomUdon.Loader IncomUdon.Lib.ErrorLog

/-- The vector file. -/
def directoryPath : String := "test-vectors/directory-v3.json"

/-- The numbers in `limits`. -/
structure DirectoryLimits where
  replayWindow : ℕ
  maxRegistrations : ℕ
  ttlSeconds : ℕ

/-- `limits`. -/
def directoryLimits (document : Dict) : Check DirectoryLimits := do
  let limits ← asObject (Dict.get document "limits") ["Directory limits must be an object"]
  let replayWindow ← integer (Dict.get limits "replayWindowSize") ["Directory replayWindowSize"]
    0xFFFF
  let maxRegistrations ← integer (Dict.get limits "maxActiveRegistrations")
    ["Directory maxActiveRegistrations"] 0xFFFF
  let ttlSeconds ← integer (Dict.get limits "registrationTtlSeconds")
    ["Directory registrationTtlSeconds"] 0xFFFF
  compare ["Directory replay window size"] (.int replayWindow) (.int 64)
  compare ["Directory max registrations"] (.int maxRegistrations) (.int 64)
  compare ["Directory registration TTL"] (.int ttlSeconds) (.int 90)
  return ⟨replayWindow, maxRegistrations, ttlSeconds⟩

/-! ### Replay window -/

/-- `expected`: a duplicate is found before the watermark is read. -/
def directoryReplayDecision (window : ℕ) (label : Msg) (high : Json) (seen : List ℕ)
    (candidate : ℕ) : Py String := do
  if candidate ∈ seen then return "reject_duplicate_sequence"
  match high with
  | .null => return "accept_unseen_sequence"
  | high =>
    let high ← integer high (label.add [" high"]) maxDirectoryReplaySequence
    return if (candidate : ℤ) < high - (window - 1) then "reject_stale_sequence"
      else "accept_unseen_sequence"

/-- One `replayWindowCases` fixture. -/
def directoryReplayCase (window : ℕ) (case : Json) (index : ℕ) : Check Unit := do
  let label : Msg := ["Directory replay case ", .val (.int index)]
  let case ← asObject case (label.add [" must be an object"])
  let candidate ← integer (Dict.get case "candidateSequence") (label.add [" candidate"])
    maxDirectoryReplaySequence
  let seen ← iterate (Dict.getD case "acceptedSequences" (.arr []))
  let seen ← (seen.mapM fun value =>
    integer value (label.add [" seen"]) maxDirectoryReplaySequence : Py (List ℕ))
  let expected ← directoryReplayDecision window label (Dict.get case "acceptedHighWatermark") seen
    candidate
  compare label (.str expected) (Dict.get case "expected")

/-! ### What is read without an exception -/

/-- `limits` has its three numbers. -/
def LimitsReadable (document : Dict) : Prop :=
  ∃ d, Dict.get document "limits" = .obj d ∧ Natural 0xFFFF (Dict.get d "replayWindowSize") ∧
    Natural 0xFFFF (Dict.get d "maxActiveRegistrations") ∧
    Natural 0xFFFF (Dict.get d "registrationTtlSeconds")

/-- The sequences are numbers, and so is the watermark if it is read. -/
def ReplayCaseReadable (case : Json) : Prop :=
  ∃ (d : Dict) (candidate : ℕ) (seen : List ℕ), case = .obj d ∧
    Dict.get d "candidateSequence" = .int candidate ∧
    candidate ≤ maxDirectoryReplaySequence ∧
    (Dict.getD d "acceptedSequences" (.arr [])).items? = some (seen.map fun n : ℕ => .int n) ∧
    (∀ n ∈ seen, n ≤ maxDirectoryReplaySequence) ∧
    (candidate ∈ seen ∨ Dict.get d "acceptedHighWatermark" = .null ∨
      Natural maxDirectoryReplaySequence (Dict.get d "acceptedHighWatermark"))

section Replay
variable {document : Dict} {value : Json} {window index : ℕ} {cases : List Json}

theorem exists_returns_directoryLimits :
    (∃ limits, Returns (directoryLimits document) limits) ↔ LimitsReadable document := by
  simp [directoryLimits, LimitsReadable, Natural]

theorem directoryReplayDecision_isOk {label : Msg} {high : Json} {seen : List ℕ} {candidate : ℕ} :
    (∃ expected, directoryReplayDecision window label high seen candidate = .ok expected) ↔
      candidate ∈ seen ∨ high = .null ∨ Natural maxDirectoryReplaySequence high := by
  unfold directoryReplayDecision
  by_cases hseen : candidate ∈ seen
  · simp [hseen, pure, Except.pure]
  · cases high <;> simp [hseen, Natural, bind_eq_ok, pure, Except.pure]

theorem mapM_integer_eq_ok {label : Msg} {maximum : ℕ} {values : List Json} {ns : List ℕ} :
    values.mapM (fun value => integer value label maximum) = .ok ns ↔
      values = ns.map (fun n : ℕ => .int n) ∧ ∀ n ∈ ns, n ≤ maximum := by
  rw [mapM_eq_ok]
  induction ns generalizing values with
  | nil => simp
  | cons n ns ih =>
    cases values with
    | nil => simp
    | cons value values =>
      rw [List.forall₂_cons, ih, integer_eq_ok, List.map_cons, List.cons.injEq, List.forall_mem_cons]
      exact and_and_and_comm

theorem returns_directoryReplayCase :
    Returns (directoryReplayCase window value index) () ↔ ReplayCaseReadable value := by
  simp only [directoryReplayCase, Run.liftM_eq, returns_bind, returns_lift, returns_compare,
    asObject_eq_ok, integer_eq_ok, iterate_eq_ok, mapM_integer_eq_ok, directoryReplayDecision_isOk,
    and_true]
  constructor
  · rintro ⟨d, rfl, candidate, ⟨hcandidate, hle⟩, _, hitems, seen, ⟨rfl, hseen⟩, hhigh⟩
    exact ⟨d, candidate, seen, rfl, hcandidate, hle, hitems, hseen, hhigh⟩
  · rintro ⟨d, candidate, seen, rfl, hcandidate, hle, hitems, hseen, hhigh⟩
    exact ⟨d, rfl, candidate, ⟨hcandidate, hle⟩, _, hitems, seen, ⟨rfl, hseen⟩, hhigh⟩

theorem directoryLimits_caught : RaisesOnly Caught (directoryLimits document) := by
  simp [directoryLimits]

theorem directoryReplayCase_caught : RaisesOnly Caught (directoryReplayCase window value index) := by
  have hdecision : ∀ label high seen candidate,
      ThrowsOnly Caught (directoryReplayDecision window label high seen candidate) := by
    intro label high seen candidate
    unfold directoryReplayDecision
    cases high <;> simp
  have hseen : ∀ (label : Msg) (items : List Json), ThrowsOnly Caught (items.mapM fun value =>
      integer value label maxDirectoryReplaySequence) := fun _ _ =>
    throwsOnly_mapM fun _ _ => throwsOnly_integer_caught
  simp [directoryReplayCase, hdecision, hseen]

/-- CAUGHT: every exception of the replay cases. -/
theorem directoryReplayCases_caught :
    RaisesOnly Caught (forM cases.zipIdx fun (case, index) => directoryReplayCase window case index) :=
  caught_forM_zipIdx fun _ _ => directoryReplayCase_caught

theorem returns_directoryReplayCases :
    Returns (forM cases.zipIdx fun (case, index) => directoryReplayCase window case index) () ↔
      ∀ case ∈ cases, ReplayCaseReadable case :=
  returns_forM_zipIdx fun _ _ => returns_directoryReplayCase

end Replay

end IncomUdon.Lifecycle
