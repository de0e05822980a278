import IncomUdon.Lifecycle.Common

/-! Deadlines that end a talk or a membership, and the TALK_RELEASE payload that reports the reason.

        PTT timeout        deadline = grant + maximum * 1000 ms, not extended by another PTT_ON
        identity expiry    min(normal deadline, ticket expiry)
        service expiry     min(normal deadline, grant expiry [+ grace, for a listener])

    CAUGHT: the handler reports every exception of these validators. -/

namespace IncomUdon.Lifecycle
open IncomUdon.Python IncomUdon.Loader IncomUdon.Lib.ErrorLog

/-! ### PTT timeout -/

/-- One `talk_release_payloads` fixture. -/
def releaseFixture (release : Json) (index : ℕ) : Check Unit := do
  let fixture : Msg := ["TALK_RELEASE fixture ", .val (.int index)]
  let release ← asObject release (fixture.add [" must be an object"])
  let reason := Dict.get release "reason"
  let known ← inNames reason (releaseReasons.map Prod.fst)
  require known (fixture.add [" has unknown reason"])
  let label : Msg := ["TALK_RELEASE ", .val reason]
  let reasonByte ← tableGet releaseReasons reason
  compare (label.add [" reason byte"]) (.int reasonByte) (Dict.get release "reason_byte")
  let talkerId ← integer (Dict.get release "talker_id") (label.add [" talker_id"]) 0xFFFFFFFF
  let payload ← talkReleasePayload talkerId reason
  let given ← hexBytes (Dict.get release "payload_hex") (label.add [" payload"])
  compareBytes (label.add [" payload"]) payload given

/-- The rest of a timeline whose grant has a deadline. -/
def timelineWithDeadline (timeline : Dict) (name : Msg) (grantTime maximum : ℕ) : Check Unit := do
  let expectedDeadline := Dict.get timeline "deadline_ms"
  let deadline := grantTime + maximum * 1000
  compare (name.add [" deadline"]) (.int deadline) expectedDeadline
  match Dict.get timeline "duplicate_ptt_on_ms" with
  | .null => pure ()
  | duplicate => do
    let duplicateTime ← integer duplicate (name.add [" duplicate_ptt_on_ms"]) maxTime
    reportIf (¬(grantTime ≤ duplicateTime ∧ duplicateTime < deadline))
      (name.add [": duplicate PTT_ON must occur during the original lease"])
    compare (name.add [" duplicate PTT_ON does not extend deadline"]) (.int deadline)
      expectedDeadline
  compare (name.add [" release reason"]) (Dict.get timeline "release_reason")
    (.str "SERVER_TALK_TIMEOUT")
  compare (name.add [" forwards before deadline"])
    (Dict.get timeline "must_forward_before_deadline") (.bool true)
  compare (name.add [" rejects at deadline"])
    (Dict.get timeline "must_reject_at_or_after_deadline") (.bool true)

/-- One `timeline_cases` fixture. -/
def timelineCase (timeline : Json) (index : ℕ) : Check Unit := do
  let timeline ← asObject timeline
    ["PTT timeout timeline ", .val (.int index), " must be an object"]
  let name := nameLabel timeline ["timeline ", .val (.int index)]
  let maximum ← integer (Dict.get timeline "maximum_talk_seconds")
    (name.add [" maximum_talk_seconds"]) 0xFFFF
  let grantTime ← integer (Dict.get timeline "grant_time_ms") (name.add [" grant_time_ms"]) maxTime
  if maximum = 0 then
    compare (name.add [" disabled deadline"]) (Dict.get timeline "deadline_ms") .null
    compare (name.add [" ordinary release"]) (Dict.get timeline "release_reason")
      (.str "CLIENT_PTT_OFF")
  else
    timelineWithDeadline timeline name grantTime maximum

/-- `_validate_ptt_timeout`. -/
def validatePttTimeout (root : Root) : Check Unit := do
  let document ← load root "test-vectors/ptt-timeout-v1.json"
  let missing : Msg := ["PTT timeout vectors must contain arrays"]
  let releases ← asArray (Dict.get document "talk_release_payloads") missing
  let timelines ← asArray (Dict.get document "timeline_cases") missing
  forM releases.zipIdx fun (release, index) => releaseFixture release index
  forM timelines.zipIdx fun (timeline, index) => timelineCase timeline index

/-! ### Admission expiry -/

/-- The reason of a release, its byte and its payload, compared with the fixture. -/
def checkRelease (case : Dict) (name : Msg) (reason : String) : Check Unit := do
  compare (name.add [" release reason"]) (.str reason) (Dict.get case "release_reason")
  let reasonByte ← tableGet releaseReasons (.str reason)
  compare (name.add [" release reason byte"]) (.int reasonByte)
    (Dict.get case "release_reason_byte")
  let talkerId ← integer (Dict.get case "talker_id") (name.add [" talker_id"]) 0xFFFFFFFF
  let payload ← talkReleasePayload talkerId (.str reason)
  let given ← hexBytes (Dict.get case "talk_release_payload_hex") (name.add [" payload"])
  compareBytes (name.add [" TALK_RELEASE payload"]) payload given

/-- One `membership_expiry_cases` fixture. -/
def identityExpiryCase (case : Json) (index : ℕ) : Check Unit := do
  let case ← asObject case ["identity expiry case ", .val (.int index), " must be an object"]
  let name := nameLabel case ["identity expiry case ", .val (.int index)]
  let normal ← integer (Dict.get case "normal_membership_deadline") (name.add [" normal deadline"])
    maxTime
  let ticket ← integer (Dict.get case "ticket_exp") (name.add [" ticket expiry"]) maxTime
  compare (name.add [" effective expiry"]) (.int (min normal ticket : ℕ))
    (Dict.get case "effective_membership_expiry")
  checkRelease case name (if normal ≤ ticket then "MEMBERSHIP_TIMEOUT" else "IDENTITY_EXPIRED")

/-- The permission has the talk bit, `permission & 0x02`. -/
def talkCapable (permission : ℕ) : Prop := permission &&& 0x02 ≠ 0

instance (permission : ℕ) : Decidable (talkCapable permission) :=
  inferInstanceAs (Decidable (_ ≠ _))

/-- `service_deadline`. -/
def serviceDeadline (permission grantExp grace : ℕ) : ℕ :=
  if talkCapable permission then grantExp else grantExp + grace

/-- One `expiry_cases` fixture. -/
def serviceExpiryCase (case : Json) (index : ℕ) : Check Unit := do
  let case ← asObject case ["service expiry case ", .val (.int index), " must be an object"]
  let name := nameLabel case ["service expiry case ", .val (.int index)]
  let permission ← integer (Dict.get case "grant_perm") (name.add [" grant_perm"]) 0xFF
  let grantExp ← integer (Dict.get case "grant_exp") (name.add [" grant_exp"]) maxTime
  let grace ← integer (Dict.get case "grace_seconds") (name.add [" grace_seconds"]) 0xFFFFFFFF
  let normal ← integer (Dict.get case "normal_membership_deadline") (name.add [" normal deadline"])
    maxTime
  let deadline := serviceDeadline permission grantExp grace
  compare (name.add [" effective expiry"]) (.int (min normal deadline : ℕ))
    (Dict.get case "effective_membership_expiry")
  if (Dict.get case "active_talk").truthy then
    checkRelease case name
      (if normal ≤ deadline then "MEMBERSHIP_TIMEOUT" else "SERVICE_ADMISSION_EXPIRED")

/-- `_validate_admission_expiry`. -/
def validateAdmissionExpiry (root : Root) : Check Unit := do
  let identity ← load root "test-vectors/identity-admission-v1.json"
  let cases ← asArray (Dict.get identity "membership_expiry_cases")
    ["identity membership_expiry_cases must be an array"]
  forM cases.zipIdx fun (case, index) => identityExpiryCase case index
  let service ← load root "test-vectors/management/service-admission-v1.json"
  let serviceCases ← asArray (Dict.get service "expiry_cases")
    ["service expiry_cases must be an array"]
  forM serviceCases.zipIdx fun (case, index) => serviceExpiryCase case index

/-! ### Every exception is caught -/

section Caught
variable {value : Json} {index : ℕ} {root : Root}

theorem releaseFixture_caught : RaisesOnly Caught (releaseFixture value index) := by
  simp [releaseFixture]

theorem timelineWithDeadline_caught {timeline : Dict} {name : Msg} {grantTime maximum : ℕ} :
    RaisesOnly Caught (timelineWithDeadline timeline name grantTime maximum) := by
  simp only [timelineWithDeadline]
  cases Dict.get timeline "duplicate_ptt_on_ms" <;> simp

theorem timelineCase_caught : RaisesOnly Caught (timelineCase value index) := by
  simp [timelineCase, timelineWithDeadline_caught]

/-- CAUGHT: every exception of `_validate_ptt_timeout`. -/
theorem validatePttTimeout_caught : RaisesOnly Caught (validatePttTimeout root) := by
  simp only [validatePttTimeout, Run.liftM_eq, raisesOnly_bind, raisesOnly_lift,
    throwsOnly_load_caught, throwsOnly_asArray, caught_vectorValidation, or_true, true_and]
  intro document _ releases _ timelines _
  exact ⟨caught_forM_zipIdx fun _ _ => releaseFixture_caught,
    fun _ _ => caught_forM_zipIdx fun _ _ => timelineCase_caught⟩

theorem checkRelease_caught {case : Dict} {name : Msg} {reason : String} :
    RaisesOnly Caught (checkRelease case name reason) := by
  simp [checkRelease]

theorem identityExpiryCase_caught : RaisesOnly Caught (identityExpiryCase value index) := by
  simp [identityExpiryCase, checkRelease_caught]

theorem serviceExpiryCase_caught : RaisesOnly Caught (serviceExpiryCase value index) := by
  simp [serviceExpiryCase, checkRelease_caught]

/-- CAUGHT: every exception of `_validate_admission_expiry`. -/
theorem validateAdmissionExpiry_caught : RaisesOnly Caught (validateAdmissionExpiry root) := by
  simp only [validateAdmissionExpiry, Run.liftM_eq, raisesOnly_bind, raisesOnly_lift,
    throwsOnly_load_caught, throwsOnly_asArray, caught_vectorValidation, or_true, true_and]
  intro identity _ cases _
  refine ⟨caught_forM_zipIdx fun _ _ => identityExpiryCase_caught, fun _ _ service _ cases' _ => ?_⟩
  exact caught_forM_zipIdx fun _ _ => serviceExpiryCase_caught

end Caught

end IncomUdon.Lifecycle
