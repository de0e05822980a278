import IncomUdon.Lifecycle.Common

/-! Membership leases, and the media security modes a channel accepts. A membership ends when its
    deadline passes; an accepted packet of a refreshing type moves the deadline:

        deadline = join + lease ──refresh at t──▶ t + lease

    Control Authentication decides which control packets are accepted, and with the media security
    mode which codec configurations are.

    CAUGHT: the handler reports every exception of these validators. -/

namespace IncomUdon.Lifecycle
open IncomUdon.Python IncomUdon.Loader IncomUdon.Lib.ErrorLog

/-- `_valid_membership_pair`. -/
def validMembershipPair (lease keepalive : ℕ) : Prop :=
  15 ≤ lease ∧ lease ≤ 300 ∧ 1 ≤ keepalive ∧ keepalive ≤ lease / 3

instance (lease keepalive : ℕ) : Decidable (validMembershipPair lease keepalive) :=
  inferInstanceAs (Decidable (_ ∧ _))

/-- The Control Authentication modes. -/
def controlAuthenticationModes : List String := ["required", "optional", "off"]

/-- `mode == "required" or (mode == "optional" and configured)`. -/
def authenticationRequired (mode : Json) (configured : Bool) : Bool :=
  mode.eq (.str "required") || mode.eq (.str "optional") && configured

/-- `_control_packet_accepted`. -/
def controlPacketAccepted (control packet : Dict) : Py Bool := do
  let mode := Dict.get control "mode"
  let nonBoolean : Msg := ["control acceptance fixture contains non-boolean fields"]
  let valid ← asBool (Dict.getD packet "valid" (.bool true)) nonBoolean
  let authenticated ← asBool (Dict.getD packet "authenticated" (.bool false)) nonBoolean
  let configured ← asBool (Dict.get control "channelHasConfiguredControlKey") nonBoolean
  let known ← inNames mode controlAuthenticationModes
  require known ["unknown Control Authentication mode: ", .repr mode]
  return valid && (authenticated || !authenticationRequired mode configured)

/-! ### Media security modes -/

/-- `actual`, for a case with a policy. -/
def mediaSecurityAction (policy : Json) (mode : String) (configured authenticated : Bool) : String :=
  if policy.eq (.str "required") ∧ ¬configured then "reject_control_key_required"
  -- a required policy rejects unauthenticated control before it looks at the media mode
  else if authenticationRequired policy configured ∧ ¬authenticated then
    "reject_control_auth_required"
  else if mode ∉ mediaSecurityModes then "reject_unknown_media_security_mode"
  else if policy.eq (.str "required") ∧ mode ≠ "aes-gcm-v2" then
    "reject_media_security_mode_required"
  else if mode = "aes-gcm-v2" ∧ ¬authenticated then "reject_aes_gcm_v2_requires_control_auth"
  else "accept"

/-- `actual`: a case without a policy is there for an unregistered mode. -/
def codecPolicyAction (case : Dict) (name : Msg) (mode : String) : Py String := do
  match Dict.get case "policy" with
  | .null =>
    require (mode ∉ mediaSecurityModes)
      (name.add [": registered media security mode requires a policy case"])
    return "reject_unknown_media_security_mode"
  | policy =>
    let known ← inNames policy controlAuthenticationModes
    require known (name.add [": invalid Control Authentication policy ", .repr policy])
    let nonBoolean :=
      name.add [": policy cases require boolean control-key and authentication state"]
    let configured ← asBool (Dict.get case "controlKeyConfigured") nonBoolean
    let authenticated ← asBool (Dict.get case "authenticated") nonBoolean
    return mediaSecurityAction policy mode configured authenticated

/-- One `codecConfigPolicyCases` fixture. -/
def codecPolicyCase (case : Json) (index : ℕ) : Check Unit := do
  let label : Msg := ["codec configuration policy case ", .val (.int index)]
  let case ← asObject case (label.add [" must be an object"])
  let invalidMetadata := label.add [" has invalid metadata"]
  require ((case.lookup "name").all Json.isString) invalidMetadata
  let name := nameLabel case label
  let mode ← asString (Dict.get case "mediaSecurityMode") invalidMetadata
  let expected ← asString (Dict.get case "expected") invalidMetadata
  let actual ← codecPolicyAction case name mode
  compare (name.add [" media security policy"]) (.str actual) (.str expected)

/-- `_validate_media_security_mode_registry`. -/
def validateMediaSecurityModeRegistry (root : Root) : Check Unit := do
  let document ← load root "test-vectors/packet-envelope-v1.json"
  let cases ← asArray (Dict.get document "codecConfigPolicyCases")
    ["codecConfigPolicyCases must be an array"]
  forM cases.zipIdx fun (case, index) => codecPolicyCase case index

/-! ### Membership leases -/

/-- `serverConfig`: the pair of intervals and the SERVER_CONFIG payload. -/
def membershipServerConfig (document : Dict) : Check Unit := do
  let config ← asObject (Dict.get document "serverConfig")
    ["membership serverConfig must be an object"]
  let lease ← integer (Dict.get config "membershipLeaseSeconds")
    ["serverConfig membershipLeaseSeconds"] 0xFFFF
  let keepalive ← integer (Dict.get config "keepaliveIntervalSeconds")
    ["serverConfig keepaliveIntervalSeconds"] 0xFFFF
  reportIf (¬validMembershipPair lease keepalive)
    ["membership serverConfig has an invalid lease/keepalive pair"]
  let multiTalk ← asBool (Dict.get config "multiTalkEnabled")
    ["serverConfig multiTalkEnabled must be boolean"]
  let maximumTalk ← integer (Dict.get config "maximumTalkSeconds")
    ["serverConfig maximumTalkSeconds"] 0xFFFF
  let maximumTalkers ← integer (Dict.get config "maximumActiveTalkers")
    ["serverConfig maximumActiveTalkers"] 0xFF
  let payload ← structPack [.uint 2 maximumTalk, .uint 1 multiTalk.toNat, .uint 1 maximumTalkers,
    .uint 2 lease, .uint 2 keepalive]
  let given ← hexBytes (Dict.get config "payloadHex") ["serverConfig payloadHex"]
  compareBytes ["membership SERVER_CONFIG payload"] payload given

/-- `bootstrap`: the interval before the first SERVER_CONFIG. -/
def membershipBootstrap (document : Dict) : Check Unit := do
  let bootstrap ← asObject (Dict.get document "bootstrap")
    ["membership bootstrap must be an object"]
  compare ["membership bootstrap keepalive"] (Dict.get bootstrap "keepaliveIntervalSeconds")
    (.int 5)
  compare ["membership bootstrap lifetime"] (Dict.get bootstrap "appliesUntil")
    (.str "valid_SERVER_CONFIG_received")

/-- One refresh packet moves the deadline. -/
def refreshPacket (name : Msg) (lease deadline : ℕ) (packet : Json) : Check ℕ := do
  let ineligible := name.add [" has an ineligible refresh packet"]
  let packet ← asObject packet ineligible
  let eligible ← inNames (Dict.get packet "type") (membershipRefreshTypes ++ ["AUDIO", "FEC"])
  require eligible ineligible
  let received ← integer (Dict.get packet "receivedAtSeconds") (name.add [" refresh receive time"])
    maxTime
  reportIf (received ≥ deadline)
    (name.add [": refresh packet arrives after the existing membership deadline"])
  compare (name.add [" refresh deadline"]) (.int (received + lease : ℕ))
    (Dict.get packet "expectedDeadlineSeconds")
  return received + lease

/-- The lease of a case, and the deadline it starts with. -/
def leaseAndDeadline (case : Dict) (name : Msg) : Py (ℕ × ℕ) := do
  let lease ← integer (Dict.get case "leaseSeconds") (name.add [" leaseSeconds"]) 0xFFFF
  let join ← integer (Dict.get case "joinAcceptedAtSeconds") (name.add [" joinAcceptedAtSeconds"])
    maxTime
  return (lease, join + lease)

/-- A case with `refreshPackets`. -/
def refreshCase (case : Dict) (name : Msg) : Check Unit := do
  let (lease, deadline) ← leaseAndDeadline case name
  let packets ← asArray (Dict.get case "refreshPackets")
    (name.add [" refreshPackets must be an array"])
  let deadline ← packets.foldlM (refreshPacket name lease) deadline
  let memberAt ← integer (Dict.get case "expectedMembershipAtSeconds")
    (name.add [" expectedMembershipAtSeconds"]) maxTime
  reportIf (memberAt ≥ deadline) (name.add [": membership is expected after its deadline"])

/-- An object of a type that is neither PING nor PONG. -/
def refreshes (packet : Json) : Py Bool :=
  match packet with
  | .obj packet => (!·) <$> inNames (Dict.get packet "type") ["PING", "PONG"]
  | _ => .ok false

/-- A case with `nonRefreshPackets`. -/
def nonRefreshCase (case : Dict) (name : Msg) : Check Unit := do
  let (_, deadline) ← leaseAndDeadline case name
  let pingsOnly := name.add [" nonRefreshPackets must contain only PING/PONG"]
  let packets ← asArray (Dict.get case "nonRefreshPackets") pingsOnly
  let refreshed ← (packets.anyM refreshes : Py Bool)
  require (¬refreshed) pingsOnly
  compare (name.add [" expiry"]) (.int deadline) (Dict.get case "expectedExpiryAtSeconds")
  compare (name.add [" active talk release"]) (Dict.get case "expectedActiveTalkReleaseReason")
    (.str "MEMBERSHIP_TIMEOUT")

/-- A case with `membershipLeaseSeconds`. -/
def leasePairCase (case : Dict) (name : Msg) : Check Unit := do
  let lease ← integer (Dict.get case "membershipLeaseSeconds") (name.add [" lease"]) 0xFFFF
  let keepalive ← integer (Dict.get case "keepaliveIntervalSeconds") (name.add [" keepalive"]) 0xFFFF
  compare (name.add [" acceptance"]) (.bool (validMembershipPair lease keepalive))
    (Dict.get case "expectedServerConfigAcceptance")

/-- A case with `joinSnapshot`. -/
def joinSnapshotCase (case : Dict) (name : Msg) : Check Unit := do
  let malformed := name.add [" policy snapshots must be objects"]
  let snapshot ← asObject (Dict.get case "joinSnapshot") malformed
  let reloaded ← asObject (Dict.get case "reloadedPolicy") malformed
  compare (name.add [" existing membership"]) (.obj snapshot)
    (Dict.get case "expectedExistingMembership")
  compare (name.add [" new membership"]) (.obj reloaded) (Dict.get case "expectedNewMembership")

/-- One `cases` fixture. -/
def membershipCase (case : Json) (index : ℕ) : Check Unit := do
  let case ← asObject case ["membership case ", .val (.int index), " must be an object"]
  let name := nameLabel case ["membership case ", .val (.int index)]
  if Dict.has case "refreshPackets" then refreshCase case name
  else if Dict.has case "nonRefreshPackets" then nonRefreshCase case name
  else if Dict.has case "membershipLeaseSeconds" then leasePairCase case name
  else if Dict.has case "joinSnapshot" then joinSnapshotCase case name
  else invalid (name.add [" is not a recognized membership lifecycle case"])

/-- `accepted and packet.get("type") in MEMBERSHIP_REFRESH_TYPES`. -/
def controlRefreshes (accepted : Bool) (packet : Dict) : Py Bool :=
  if accepted then inNames (Dict.get packet "type") membershipRefreshTypes else .ok false

/-- One `controlAuthenticationRefreshCases` fixture. -/
def controlRefreshCase (case : Json) (index : ℕ) : Check Unit := do
  let case ← asObject case ["control refresh case ", .val (.int index), " must be an object"]
  let name := nameLabel case ["control refresh case ", .val (.int index)]
  let malformed := name.add [" must contain controlAuthentication and packet objects"]
  let control ← asObject (Dict.get case "controlAuthentication") malformed
  let packet ← asObject (Dict.get case "packet") malformed
  let accepted ← controlPacketAccepted control packet
  let refresh ← controlRefreshes accepted packet
  let (lease, deadline) ← leaseAndDeadline case name
  let received ← integer (Dict.get packet "receivedAtSeconds") (name.add [" receivedAtSeconds"])
    maxTime
  reportIf (received ≥ deadline)
    (name.add [": control packet arrives after membership expiry"])
  compare (name.add [" packet acceptance"]) (.bool accepted)
    (Dict.get case "expectedPacketAcceptance")
  compare (name.add [" membership refresh"]) (.bool refresh)
    (Dict.get case "expectedMembershipRefresh")
  compare (name.add [" deadline"]) (.int (if refresh then received + lease else deadline : ℕ))
    (Dict.get case "expectedDeadlineSeconds")

/-- `_validate_membership`. -/
def validateMembership (root : Root) : Check Unit := do
  let document ← load root "test-vectors/membership-lease-v1.json"
  membershipServerConfig document
  membershipBootstrap document
  let cases ← asArray (Dict.get document "cases") ["membership cases must be an array"]
  forM cases.zipIdx fun (case, index) => membershipCase case index
  let controlCases ← asArray (Dict.get document "controlAuthenticationRefreshCases")
    ["controlAuthenticationRefreshCases must be an array"]
  forM controlCases.zipIdx fun (case, index) => controlRefreshCase case index

/-! ### Every exception is caught -/

section Caught
variable {value : Json} {case control packet : Dict} {name : Msg} {index : ℕ} {root : Root}

@[simp] theorem controlPacketAccepted_caught :
    ThrowsOnly Caught (controlPacketAccepted control packet) := by
  simp [controlPacketAccepted]

theorem codecPolicyAction_caught {mode : String} :
    ThrowsOnly Caught (codecPolicyAction case name mode) := by
  unfold codecPolicyAction
  split <;> simp

theorem codecPolicyCase_caught : RaisesOnly Caught (codecPolicyCase value index) := by
  simp [codecPolicyCase, codecPolicyAction_caught]

/-- CAUGHT: every exception of `_validate_media_security_mode_registry`. -/
theorem validateMediaSecurityModeRegistry_caught :
    RaisesOnly Caught (validateMediaSecurityModeRegistry root) := by
  simp only [validateMediaSecurityModeRegistry, Run.liftM_eq, raisesOnly_bind, raisesOnly_lift,
    throwsOnly_load_caught, throwsOnly_asArray, caught_vectorValidation, or_true, true_and]
  exact fun document _ cases _ => caught_forM_zipIdx fun _ _ => codecPolicyCase_caught

theorem membershipServerConfig_caught : RaisesOnly Caught (membershipServerConfig case) := by
  simp [membershipServerConfig]

theorem membershipBootstrap_caught : RaisesOnly Caught (membershipBootstrap case) := by
  simp [membershipBootstrap]

@[simp] theorem leaseAndDeadline_caught : ThrowsOnly Caught (leaseAndDeadline case name) := by
  simp [leaseAndDeadline]

theorem refreshPacket_caught {lease deadline : ℕ} :
    RaisesOnly Caught (refreshPacket name lease deadline value) := by
  simp [refreshPacket]

theorem refreshCase_caught : RaisesOnly Caught (refreshCase case name) := by
  have hfold : ∀ (packets : List Json) (lease deadline : ℕ),
      RaisesOnly Caught (packets.foldlM (refreshPacket name lease) deadline) := fun _ _ _ =>
    raisesOnly_foldlM fun _ _ _ => refreshPacket_caught
  simp [refreshCase, hfold]

theorem refreshes_caught : ThrowsOnly Caught (refreshes value) := by
  cases value <;> simp [refreshes]

theorem nonRefreshCase_caught : RaisesOnly Caught (nonRefreshCase case name) := by
  have hany : ∀ packets : List Json, ThrowsOnly Caught (packets.anyM refreshes) := fun _ =>
    throwsOnly_anyM.mpr (eachReached_of_forall fun _ _ => refreshes_caught)
  simp [nonRefreshCase, hany]

theorem membershipCase_caught : RaisesOnly Caught (membershipCase value index) := by
  simp [membershipCase, refreshCase_caught, nonRefreshCase_caught, leasePairCase, joinSnapshotCase]

theorem controlRefreshCase_caught : RaisesOnly Caught (controlRefreshCase value index) := by
  simp [controlRefreshCase, controlRefreshes]

/-- CAUGHT: every exception of `_validate_membership`. -/
theorem validateMembership_caught : RaisesOnly Caught (validateMembership root) := by
  simp only [validateMembership, Run.liftM_eq, raisesOnly_bind, raisesOnly_lift,
    throwsOnly_load_caught, throwsOnly_asArray, caught_vectorValidation, or_true, true_and]
  intro document _
  refine ⟨membershipServerConfig_caught, fun _ _ => ⟨membershipBootstrap_caught,
    fun _ _ cases _ => ?_⟩⟩
  refine ⟨caught_forM_zipIdx fun _ _ => membershipCase_caught, fun _ _ controlCases _ => ?_⟩
  exact caught_forM_zipIdx fun _ _ => controlRefreshCase_caught

end Caught

end IncomUdon.Lifecycle
