import IncomUdon.Lifecycle.Directory.Fragments
import IncomUdon.Lifecycle.Directory.Pagination
import IncomUdon.Lifecycle.Directory.Replay

/-! Directory registrations, and the Directory lifecycle as a whole. A registration is created or
    replaced by a register, renewed by a heartbeat from its endpoint, and expires:

        absent ──register──▶ registered ──register──▶ replaced
          ▲  └──heartbeat──▶ (dropped)     │  └──heartbeat──▶ renewed, expiry = accepted + TTL
          └───────────── expiry ───────────┘

    HANDLED: what `_validate_directory_lifecycle` lets through, and when it comes to that. -/

namespace IncomUdon.Lifecycle
open IncomUdon.Python IncomUdon.Loader IncomUdon.Lib.ErrorLog

/-- The case about a relay that lost its state. -/
def reregisterName : String := "periodic_reregister_recovers_lost_relay_state"

/-- The case about a relay without a free slot. -/
def capacityName : String := "new_register_at_capacity_is_silently_dropped_without_eviction"

/-- The case about a record past its expiry. -/
def expiryName : String := "expiry_removes_record_and_stops_periodic_publication"

/-- `case.get("name", "registration case")`. -/
def registrationName (case : Dict) : Json := Dict.getD case "name" (.str "registration case")

/-- What the loop body shares: the limits, the label and the three values of the case. -/
structure RegistrationCase where
  limits : DirectoryLimits
  name : Msg
  initial : Json
  input : Json
  expected : Json

/-- The shared values of a case. -/
def RegistrationCase.of (limits : DirectoryLimits) (case : Dict) : RegistrationCase where
  limits := limits
  name := [.val (registrationName case)]
  initial := Dict.get case "initial"
  input := Dict.get case "input"
  expected := Dict.get case "expected"

/-- `[item.get("expected") for item in inputs]` is a dropped packet and a registration. -/
def recoverySequence (inputs : Json) : Py Bool := do
  match inputs with
  | .arr items =>
    let answers ← items.mapM fun item => getAttr item "expected"
    return (Json.arr answers).eq
      (.arr [.str "silent_drop_unknown_instance", .str "create_registration"])
  | _ => return false

/-- `register_time`. -/
def registerTime (inputs : Json) : Json :=
  match inputs with
  | .arr [_, .obj second] => Dict.get second "atSeconds"
  | _ => .null

/-- The case `reregisterName`. -/
def reregisterCase (case : Dict) (shared : RegistrationCase) : Check Unit := do
  let inputs := Dict.get case "inputs"
  let recovered ← recoverySequence inputs
  reportIf (¬recovered) (shared.name.add [": recovery sequence is invalid"])
  let expiry : Option ℤ := (int? (registerTime inputs)).map (· + shared.limits.ttlSeconds)
  compare (shared.name.add [" expiry"])
    (getIfObject shared.expected "registrationExpiresAtSecondsAfterInitialStateLoss")
    (expiry.elim .null .int)

/-- The case `capacityName`. -/
def capacityCase (shared : RegistrationCase) : Check Unit := do
  let expected ← asObject shared.expected (shared.name.add [" expected must be an object"])
  compare (shared.name.add [" state"]) (Dict.get expected "state") (.str "unregistered")
  compare (shared.name.add [" slots"]) (Dict.get expected "activeRegistrations")
    (.int shared.limits.maxRegistrations)
  compare (shared.name.add [" eviction"]) (Dict.get expected "evictedRegistrations") (.int 0)

/-- The case `expiryName`. -/
def expiryCase (shared : RegistrationCase) : Check Unit := do
  let malformed := shared.name.add [" is malformed"]
  let initial ← asObject shared.initial malformed
  let input ← asObject shared.input malformed
  let expected ← asObject shared.expected malformed
  let expired ← atLeast (Dict.get input "relayMonotonicMs")
    (Dict.get initial "registrationExpiresAtRelayMonotonicMs")
  compare (shared.name.add [" expiry"]) (.bool expired) (.bool true)
  compare (shared.name.add [" state"]) (Dict.get expected "state") (.str "unregistered")
  compare (shared.name.add [" publications"])
    (Dict.get expected "pendingUnsolicitedPublications") (.int 0)

/-- A heartbeat for a record that has not expired: only its endpoint renews it. -/
def renewalCase (shared : RegistrationCase) (input initial : Dict) : Check Unit := do
  let expected ← asObject shared.expected (shared.name.add [" expected must be an object"])
  if (Dict.get input "sourceEndpoint").eq (Dict.get initial "sourceEndpoint") then
    compare (shared.name.add [" state"]) (Dict.get expected "state") (.str "registered")
    let expiry ← plus (Dict.get input "acceptedAtRelayMonotonicMs")
      (shared.limits.ttlSeconds * 1000)
    compare (shared.name.add [" expiry"])
      (Dict.get expected "registrationExpiresAtRelayMonotonicMs") expiry
  else
    compare (shared.name.add [" state"]) (Dict.get expected "state") (.str "unchanged")
    compare (shared.name.add [" endpoint"]) (Dict.get expected "sourceEndpoint")
      (Dict.get initial "sourceEndpoint")
    compare (shared.name.add [" expiry"])
      (Dict.get expected "registrationExpiresAtRelayMonotonicMs")
      (Dict.get initial "registrationExpiresAtRelayMonotonicMs")

/-- The record has expired when the heartbeat is accepted. -/
def heartbeatExpired (input initial : Dict) : Py Bool :=
  atLeast (Dict.getD input "acceptedAtRelayMonotonicMs" (.int 0))
    (Dict.getD initial "registrationExpiresAtRelayMonotonicMs" (.int 0))

/-- A heartbeat. -/
def heartbeatCase (shared : RegistrationCase) (input : Dict) : Check Unit := do
  match shared.initial with
  | .null =>
    compare (shared.name.add [" action"]) shared.expected
      (.str "silent_drop_no_registration_created_no_error")
  | .obj initial =>
    let expired ← heartbeatExpired input initial
    if expired then
      compare (shared.name.add [" action"]) shared.expected
        (.str "silent_drop_expired_no_registration_created_no_error")
    else renewalCase shared input initial
  | _ => invalid (shared.name.add [" initial must be an object"])

/-- A register. -/
def registerCase (shared : RegistrationCase) (input : Dict) : Check Unit := do
  let expected ← asObject shared.expected (shared.name.add [" expected must be an object"])
  match shared.initial with
  | .obj initial =>
    compare (shared.name.add [" state"]) (Dict.get expected "state") (.str "replaced")
    compare (shared.name.add [" endpoint"]) (Dict.get expected "sourceEndpoint")
      (Dict.get input "sourceEndpoint")
    let expiry ← plus (Dict.get input "acceptedAtRelayMonotonicMs")
      (shared.limits.ttlSeconds * 1000)
    compare (shared.name.add [" expiry"])
      (Dict.get expected "registrationExpiresAtRelayMonotonicMs") expiry
    if Dict.has expected "activeRegistrations" then
      compare (shared.name.add [" active registration count"])
        (Dict.get expected "activeRegistrations") (Dict.get initial "activeRegistrations")
  | _ =>
    compare (shared.name.add [" state"]) (Dict.get expected "state") (.str "registered")
    let expiry ← plus (Dict.get input "acceptedAtRelayMonotonicMs")
      (shared.limits.ttlSeconds * 1000)
    compare (shared.name.add [" expiry"])
      (Dict.get expected "registrationExpiresAtRelayMonotonicMs") expiry
    if Dict.has expected "activeRegistrations" then
      compare (shared.name.add [" active registration count"])
        (Dict.get expected "activeRegistrations") (.int 1)

/-- A case decided by the type of its packet. -/
def packetCase (shared : RegistrationCase) : Check Unit := do
  let input ← asObject shared.input (shared.name.add [" input must be an object"])
  let packetType := Dict.getD input "type" (.str "register")
  if packetType.eq (.str "heartbeat") then heartbeatCase shared input
  else if packetType.eq (.str "register") then registerCase shared input
  else invalid (shared.name.add [" has unsupported registration packet type ", .repr packetType])

/-- One registration fixture. -/
def registrationCase (limits : DirectoryLimits) (case : Json) : Check Unit := do
  let case ← asObject case ["Directory registration case must be an object"]
  let name := registrationName case
  let shared := RegistrationCase.of limits case
  if name.eq (.str reregisterName) then reregisterCase case shared
  else if name.eq (.str capacityName) then capacityCase shared
  else if name.eq (.str expiryName) then expiryCase shared
  else packetCase shared

/-- `registrationLifecycleCases`. -/
def directoryRegistrations (document : Dict) (limits : DirectoryLimits) : Check Unit := do
  let registration ← asObject (Dict.get document "registrationLifecycleCases")
    ["Directory registrationLifecycleCases must be an object"]
  let cases ← asArray (Dict.get registration "cases")
    ["Directory registration lifecycle cases must be an array"]
  compare ["Directory registration key"] (Dict.get registration "registrationKey")
    (.arr [.str "channelId", .str "instanceId"])
  compare ["Directory registration capacity scope"] (Dict.get registration "capacityScope")
    (.str "relay-wide")
  compare ["Directory heartbeat failure response"]
    (Dict.get registration "registerHeartbeatFailureResponse") (.str "silent_drop_no_error")
  let schedule ← asObject (Dict.get registration "clientRenewalSchedule")
    ["Directory clientRenewalSchedule must be an object"]
  compare ["Directory register on startup/endpoint change"]
    (Dict.get schedule "registerOnStartupAndEndpointChange") (.bool true)
  compare ["Directory maximum heartbeat interval"]
    (Dict.get schedule "maximumHeartbeatIntervalSeconds") (.int 30)
  compare ["Directory maximum re-registration interval"]
    (Dict.get schedule "maximumReregistrationIntervalSeconds") (.int 60)
  forM cases (registrationCase limits)

/-- `_validate_directory_lifecycle`. -/
def validateDirectoryLifecycle (lib : Library) (root : Root) : Check Unit := do
  let document ← load root directoryPath
  let limits ← directoryLimits document
  let replayCases ← asArray (Dict.get document "replayWindowCases")
    ["Directory replayWindowCases must be an array"]
  forM replayCases.zipIdx fun (case, index) => directoryReplayCase limits.replayWindow case index
  let fragments ← asArray (Dict.get document "fragmentReassemblyCases")
    ["Directory fragmentReassemblyCases must be an array"]
  let table ← mediaFragments lib document
  forM fragments (fragmentCase table)
  let pages ← asArray (Dict.get document "snapshotPaginationCases")
    ["Directory snapshotPaginationCases must be an array"]
  forM pages paginationCase
  directoryRegistrations document limits

/-! ### What is read without an exception -/

/-- Every item of an array of inputs is an object. -/
def InputsReadable (case : Dict) : Prop :=
  ∀ inputs, Dict.get case "inputs" = .arr inputs → ∀ item ∈ inputs, IsObject item

/-- Two values that can be compared with `>=`. -/
def Comparable (x y : Json) : Prop := (x.ge? y).isSome

/-- A number. -/
def Numeric (value : Json) : Prop := value.number?.isSome

/-- What a heartbeat must have: its time can be compared with the expiry, and unless it is late there
    is an expected object, with a time to add to for a renewal. -/
def HeartbeatReadable (case input : Dict) : Prop :=
  Dict.get case "initial" = .null ∨ ∃ initial late, Dict.get case "initial" = .obj initial ∧
    (Dict.getD input "acceptedAtRelayMonotonicMs" (.int 0)).ge?
      (Dict.getD initial "registrationExpiresAtRelayMonotonicMs" (.int 0)) = some late ∧
    (late = false → IsObject (Dict.get case "expected") ∧
      ((Dict.get input "sourceEndpoint").eq (Dict.get initial "sourceEndpoint") = true →
        Numeric (Dict.get input "acceptedAtRelayMonotonicMs")))

/-- What a case decided by the type of its packet must have. -/
def PacketCaseReadable (case : Dict) : Prop :=
  ∃ input, Dict.get case "input" = .obj input ∧
    if (Dict.getD input "type" (.str "register")).eq (.str "heartbeat") then
      HeartbeatReadable case input
    else
      Dict.getD input "type" (.str "register") = .str "register" ∧
        IsObject (Dict.get case "expected") ∧ Numeric (Dict.get input "acceptedAtRelayMonotonicMs")

/-- What the case about expiry must have. -/
def ExpiryCaseReadable (case : Dict) : Prop :=
  ∃ initial, Dict.get case "initial" = .obj initial ∧ ∃ input, Dict.get case "input" = .obj input ∧
    IsObject (Dict.get case "expected") ∧ Comparable (Dict.get input "relayMonotonicMs")
      (Dict.get initial "registrationExpiresAtRelayMonotonicMs")

/-- What each kind of registration case must have. -/
def RegistrationCaseReadable (case : Json) : Prop :=
  ∃ d, case = .obj d ∧
    if (registrationName d).eq (.str reregisterName) then InputsReadable d
    else if (registrationName d).eq (.str capacityName) then IsObject (Dict.get d "expected")
    else if (registrationName d).eq (.str expiryName) then ExpiryCaseReadable d
    else PacketCaseReadable d

/-- The inputs of the case about lost state are objects. -/
def RegistrationCaseHandled (case : Json) : Prop :=
  ∀ d, case = .obj d → registrationName d = .str reregisterName → InputsReadable d

/-- The cases that are looked at are handled. -/
def RegistrationsHandled (document : Dict) : Prop :=
  ∀ registration, Dict.get document "registrationLifecycleCases" = .obj registration →
    ∀ cases, Dict.get registration "cases" = .arr cases →
    IsObject (Dict.get registration "clientRenewalSchedule") →
    EachReached RegistrationCaseReadable RegistrationCaseHandled cases

section Cases
variable {document case input : Dict} {value : Json} {limits : DirectoryLimits}
  {shared : RegistrationCase} {lib : Library} {E : PyExc → Prop}

/-- Nothing but an input that is no object makes the check fail. -/
theorem throwsOnly_recoverySequence (hattr : ¬E (.fault .attributeError)) :
    ThrowsOnly E (recoverySequence (Dict.get case "inputs")) ↔ InputsReadable case := by
  have hitem : ∀ item, ThrowsOnly E (getAttr item "expected") ↔ IsObject item := fun item => by
    simp [IsObject, hattr]
  have hpass : ∀ item, (∃ answer, getAttr item "expected" = .ok answer) ↔ IsObject item := by
    intro item
    simp [IsObject]
  unfold recoverySequence InputsReadable
  cases Dict.get case "inputs" with
  | arr items =>
    simp only [throwsOnly_bind, throwsOnly_pure, implies_true, and_true, Json.arr.injEq, forall_eq']
    rw [throwsOnly_mapM_iff, eachReached_congr hpass hitem, eachReached_self]
  | _ => simp

theorem returns_reregisterCase :
    Returns (reregisterCase case shared) () ↔ InputsReadable case := by
  simp [-Bool.exists_bool, reregisterCase, ← throwsOnly_never, throwsOnly_recoverySequence]

theorem raisesOnly_reregisterCase :
    RaisesOnly Caught (reregisterCase case shared) ↔ InputsReadable case := by
  simp [reregisterCase, throwsOnly_recoverySequence]

theorem plus_isOk {n : ℕ} : (∃ sum, plus value n = .ok sum) ↔ Numeric value := by
  cases value <;> simp [plus, Numeric, Json.number?]

theorem returns_heartbeatCase :
    Returns (heartbeatCase (.of limits case) input) () ↔ HeartbeatReadable case input := by
  unfold heartbeatCase HeartbeatReadable RegistrationCase.of
  cases Dict.get case "initial" with
  | null => simp
  | obj initial =>
    simp [-Bool.exists_bool, heartbeatExpired, renewalCase, plus_isOk, IsObject]
    refine exists_congr fun expired => and_congr_right fun _ => ?_
    cases expired with
    | true => simp
    | false =>
      simp only [Bool.false_eq_true, true_and, false_or, forall_const]
      cases (Dict.get input "sourceEndpoint").eq (Dict.get initial "sourceEndpoint") <;> simp
  | _ => simp

theorem returns_registerCase :
    Returns (registerCase (.of limits case) input) () ↔
      IsObject (Dict.get case "expected") ∧
      Numeric (Dict.get input "acceptedAtRelayMonotonicMs") := by
  unfold registerCase RegistrationCase.of
  cases Dict.get case "initial" <;> simp [plus_isOk, IsObject]

theorem returns_packetCase : Returns (packetCase (.of limits case)) () ↔ PacketCaseReadable case := by
  simp only [packetCase, PacketCaseReadable, Run.liftM_eq, returns_bind, returns_lift, asObject_eq_ok]
  refine exists_congr fun input => and_congr_right fun _ => ?_
  split_ifs with hheartbeat hregister
  · exact returns_heartbeatCase
  · rw [Json.eq_str] at hregister
    simp [hregister, returns_registerCase]
  · rw [Json.eq_str] at hregister
    simp [hregister]

theorem returns_registrationCase :
    Returns (registrationCase limits value) () ↔ RegistrationCaseReadable value := by
  simp only [registrationCase, RegistrationCaseReadable, Run.liftM_eq, returns_bind, returns_lift,
    asObject_eq_ok]
  refine exists_congr fun d => and_congr_right fun _ => ?_
  split_ifs with hreregister hcapacity hexpiry
  · exact returns_reregisterCase
  · simp [capacityCase, IsObject, RegistrationCase.of]
  · simp [-Bool.exists_bool, expiryCase, ExpiryCaseReadable, IsObject, RegistrationCase.of,
      Comparable, Option.isSome_iff_exists]
  · exact returns_packetCase

theorem packetCase_caught : RaisesOnly Caught (packetCase shared) := by
  have hheartbeat : ∀ input, RaisesOnly Caught (heartbeatCase shared input) := fun input => by
    unfold heartbeatCase
    cases shared.initial <;> simp [heartbeatExpired, renewalCase]
  have hregister : ∀ input, RaisesOnly Caught (registerCase shared input) := fun input => by
    unfold registerCase
    cases shared.initial <;> simp
  simp [packetCase, hheartbeat, hregister]

theorem raisesOnly_registrationCase :
    RaisesOnly Caught (registrationCase limits value) ↔ RegistrationCaseHandled value := by
  simp [registrationCase, RegistrationCaseHandled, raisesOnly_reregisterCase, capacityCase,
    expiryCase, packetCase_caught]

theorem raisesOnly_directoryRegistrations :
    RaisesOnly Caught (directoryRegistrations document limits) ↔ RegistrationsHandled document := by
  have hloop : ∀ cases, RaisesOnly Caught (forM cases (registrationCase limits)) ↔
      EachReached RegistrationCaseReadable RegistrationCaseHandled cases := fun cases =>
    raisesOnly_forM_iff.trans (eachReached_congr (fun _ => returns_registrationCase) 
      fun _ => raisesOnly_registrationCase)
  simp [directoryRegistrations, RegistrationsHandled, hloop, IsObject]

end Cases

/-! ### The Directory lifecycle -/

/-- The part of the document that is looked at, section after section, is handled. -/
def DirectoryHandled (lib : Library) (document : Dict) : Prop :=
  LimitsReadable document →
  ∀ replayCases, Dict.get document "replayWindowCases" = .arr replayCases →
  (∀ case ∈ replayCases, ReplayCaseReadable case) →
  ∀ fragments, Dict.get document "fragmentReassemblyCases" = .arr fragments →
  ∃ crypto, directoryCrypto document = .obj crypto ∧
    EachReached (FixtureReadable lib) (FixtureHandled lib) (mediaFragmentFixtures crypto) ∧
    ∀ table, HasEntries lib (mediaFragmentFixtures crypto) table →
      EachReached (FragmentCaseReadable table) FragmentCaseHandled fragments ∧
      ((∀ case ∈ fragments, FragmentCaseReadable table case) →
        ∀ pages, Dict.get document "snapshotPaginationCases" = .arr pages →
        EachReached PaginationCaseReadable PaginationCaseHandled pages ∧
        ((∀ case ∈ pages, PaginationCaseReadable case) → RegistrationsHandled document))

/-- HANDLED: `_validate_directory_lifecycle` raises only what is caught exactly when the part of the
    document that it looks at is handled. -/
theorem raisesOnly_validateDirectoryLifecycle {lib : Library} {root : Root} :
    RaisesOnly Caught (validateDirectoryLifecycle lib root) ↔
      ∀ document, root directoryPath = .json (.obj document) → DirectoryHandled lib document := by
  have hcrypto : ∀ document {P : FragmentTable → Prop},
      (ThrowsOnly Caught (mediaFragments lib document) ∧
        ∀ table, mediaFragments lib document = .ok table → P table) ↔
      ∃ crypto, directoryCrypto document = .obj crypto ∧
        EachReached (FixtureReadable lib) (FixtureHandled lib) (mediaFragmentFixtures crypto) ∧
        ∀ table, HasEntries lib (mediaFragmentFixtures crypto) table → P table := by
    intro document P
    simp only [throwsOnly_mediaFragments, mediaFragments_eq_ok]
    cases directoryCrypto document <;> simp
  simp [validateDirectoryLifecycle, DirectoryHandled, forall_unit, directoryLimits_caught,
    directoryReplayCases_caught, returns_directoryReplayCases, hcrypto,
    raisesOnly_fragmentCases, returns_fragmentCases, raisesOnly_paginationCases,
    returns_paginationCases, raisesOnly_directoryRegistrations, ← exists_returns_directoryLimits]

end IncomUdon.Lifecycle
