import IncomUdon.Lifecycle.Common

/-! Private Control Link: revocation commands. A command installs a deny rule until a deadline at most
    5400 seconds ahead; the rule ends the memberships it matches and keeps later attempts out:

        command accepted ──▶ deny rule ──attempt before deny_until──▶ denied
                                   └────attempt from deny_until on──▶ not denied

    A retried command is acknowledged again without a new effect.

    CAUGHT: the handler reports every exception of these checks. -/

namespace IncomUdon.Lifecycle
open IncomUdon.Python IncomUdon.Loader IncomUdon.Lib.ErrorLog

/-- `accepted_at < deny_until <= accepted_at + 5400`. -/
def inCommandWindow (acceptedAt denyUntil : ℕ) : Prop :=
  acceptedAt < denyUntil ∧ denyUntil ≤ acceptedAt + 5400

instance (acceptedAt denyUntil : ℕ) : Decidable (inCommandWindow acceptedAt denyUntil) :=
  inferInstanceAs (Decidable (_ ∧ _))

/-- A time in seconds. -/
def relaySeconds (value : Json) (label : Msg) : Py ℕ := integer value label maxSafeJsonInteger

/-- A string, or `None`. -/
def asOptionalString (value : Json) (msg : Msg) : Py (Option String) :=
  match value with
  | .null => .ok none
  | .str s => .ok (some s)
  | _ => invalid msg

/-! ### Deployment lifecycle -/

/-- The grant and the times of a deployment case. -/
structure Deployment where
  grantService : String
  issuedAt : ℕ
  expiresAt : ℕ
  changedAt : ℕ
  presentedAt : ℕ
  localValidation : Bool

/-- `remote_revocation_applied`, for an enabled link. -/
def remoteRevocationApplied (commandService grantService : String) (presentedAt denyUntil : ℕ) :
    Bool :=
  commandService = grantService ∧ presentedAt < denyUntil

/-- `actual_presentation`. -/
def presentationResult (revoked localValidation : Bool) : String :=
  if revoked then "deny_by_service_rule"
  else if localValidation then "accept"
  else "reject_relay_local_validation"

/-- The grant, the administrative change and the presentation. -/
def readDeployment (grant change presentation : Dict) (name : Msg) : Check Deployment := do
  let grantService ← asString (Dict.get grant "service_id")
    (name.add [": grant service_id must be a string"])
  let issuedAt ← relaySeconds (Dict.get grant "issued_at_relay_unix_seconds")
    (name.add [" grant issuance time"])
  let expiresAt ← relaySeconds (Dict.get grant "expires_at_relay_unix_seconds")
    (name.add [" grant expiry time"])
  let changedAt ← relaySeconds (Dict.get change "at_relay_unix_seconds")
    (name.add [" administrative change time"])
  let presentedAt ← relaySeconds (Dict.get presentation "at_relay_unix_seconds")
    (name.add [" presentation time"])
  let known ← inNames (Dict.get change "type") ["acl_removed", "grant_revoked", "service_disabled"]
  reportIf (¬known) (name.add [": administrative change type is invalid"])
  let localValidation ← asBool (Dict.get presentation "normal_relay_local_validation_succeeds")
    (name.add [": normal_relay_local_validation_succeeds must be a boolean"])
  reportIf (¬(issuedAt < changedAt ∧ changedAt < presentedAt ∧ presentedAt < expiresAt))
    (name.add [": expected issued, changed, presented, and expiry times in that order"])
  return ⟨grantService, issuedAt, expiresAt, changedAt, presentedAt, localValidation⟩

/-- The command of a case with the link enabled. -/
def deploymentCommand (command : Json) (deployment : Deployment) (name : Msg) : Check Bool := do
  let command ← asObject command (name.add [": PCL-enabled case requires a revocation_command"])
  let commandAt ← relaySeconds (Dict.get command "accepted_at_relay_unix_seconds")
    (name.add [" revocation command acceptance time"])
  let denyUntil ← relaySeconds (Dict.get command "deny_until")
    (name.add [" revocation deny deadline"])
  let _ ← integer (Dict.get command "channel_id") (name.add [" revocation channel ID"]) 0xFFFFFFFF
  let commandService ← asString (Dict.get command "service_id")
    (name.add [": revocation command service_id must be a string"])
  reportIf (¬inCommandWindow commandAt denyUntil)
    (name.add [": deny_until must be within the 5400-second command window"])
  reportIf (¬(deployment.changedAt ≤ commandAt ∧ commandAt < deployment.presentedAt))
    (name.add [": revocation command must be accepted after the change and before presentation"])
  return remoteRevocationApplied commandService deployment.grantService deployment.presentedAt
    denyUntil

/-- A case with the link disabled has no command. -/
def noDeploymentCommand (command : Json) (name : Msg) : Check Bool := do
  reportIf (¬command.eq .null)
    (name.add [": PCL-disabled case must not contain a revocation_command"])
  return false

/-- One `deployment_lifecycle_cases` fixture. -/
def deploymentCase (case : Json) (index : ℕ) : Check Unit := do
  let label : Msg := ["Private Control Link deployment lifecycle case ", .val (.int index)]
  let case ← asObject case (label.add [" must be an object"])
  let name := nameLabel case label
  let enabled ← asBool (Dict.get case "private_control_link_enabled")
    (name.add [": private_control_link_enabled must be a boolean"])
  let malformed := name.add [" is malformed"]
  let grant ← asObject (Dict.get case "grant") malformed
  let change ← asObject (Dict.get case "administrative_change") malformed
  let presentation ← asObject (Dict.get case "presentation") malformed
  let expected ← asObject (Dict.get case "expected") malformed
  let deployment ← readDeployment grant change presentation name
  compare (name.add [" new grant issuance"]) (Dict.get expected "new_grant_issuance")
    (.str "denied")
  let command := Dict.get case "revocation_command"
  let revoked ←
    if enabled then deploymentCommand command deployment name else noDeploymentCommand command name
  compare (name.add [" remote revocation"]) (Dict.get expected "remote_revocation_applied")
    (.bool revoked)
  compare (name.add [" presentation"]) (Dict.get expected "presentation")
    (.str (presentationResult revoked deployment.localValidation))

/-! ### Revocation rules -/

/-- What a command selects: a channel, and a service or a grant or both. -/
structure RevocationRule where
  channel : ℕ
  service : Option String
  grantHash : Option String

namespace RevocationRule

/-- `matches_rule`. -/
def matchesRule (rule : RevocationRule) (candidate : Dict) : Bool :=
  (Dict.get candidate "channel_id").eq (.int rule.channel) &&
    rule.service.all (fun service => (Dict.get candidate "service_id").eq (.str service)) &&
    rule.grantHash.all fun grantHash => (Dict.get candidate "grant_id_hash").eq (.str grantHash)

/-- `scope`. -/
def scope (rule : RevocationRule) : String :=
  if rule.service.isSome ∧ rule.grantHash.isSome then "conjunctive"
  else if rule.service.isSome then "service"
  else "grant"

/-- `actual`: what an admission attempt gets. -/
def attemptResult (rule : RevocationRule) (denyUntil attemptAt : ℕ) (attempt : Dict) : String :=
  if attemptAt < denyUntil ∧ rule.matchesRule attempt then "deny_by_" ++ rule.scope ++ "_rule"
  else "not_denied_by_rule"

end RevocationRule

/-- `targeted_grant_maximum_grace_deadline_unix_seconds`. -/
def checkGraceDeadline (case : Dict) (name : Msg) (rule : RevocationRule) (denyUntil : ℕ) :
    Check Unit :=
  match Dict.get case "targeted_grant_maximum_grace_deadline_unix_seconds" with
  | .null => pure ()
  | deadline => do
    require rule.grantHash.isSome
      (name.add [" grant grace deadline requires a grant-scoped command"])
    let deadline ← relaySeconds deadline (name.add [" targeted grant maximum grace deadline"])
    reportIf (denyUntil > deadline)
      (name.add [": grant-scoped deny deadline exceeds maximum grace deadline"])

/-- One of `admission_attempts`. -/
def admissionAttempt (name : Msg) (rule : RevocationRule) (denyUntil : ℕ) (attempt : Json)
    (index : ℕ) : Check Unit := do
  let label := name.add [" admission attempt ", .val (.int index)]
  let attempt ← asObject attempt (label.add [" must be an object"])
  let attemptName := nameLabel attempt label
  let attemptAt ← relaySeconds (Dict.get attempt "accepted_at_relay_unix_seconds")
    (attemptName.add [" accepted_at_relay_unix_seconds"])
  compare (attemptName.add [" result"]) (Dict.get attempt "expected")
    (.str (rule.attemptResult denyUntil attemptAt attempt))

/-- The memberships that a rule matches. -/
def matchingMemberships (memberships : List Json) (rule : RevocationRule) (name : Msg) :
    Py (List Dict) := do
  let memberships ← memberships.mapM fun membership =>
    asObject membership (name.add [" membership must be an object"])
  return memberships.filter rule.matchesRule

/-- The rest of a revocation case, for a command with a target. -/
def revocationEffect (case expected : Dict) (memberships : List Json) (name : Msg)
    (rule : RevocationRule) (denyUntil : ℕ) : Check Unit := do
  compare (name.add [" deny rule scope"]) (Dict.get expected "deny_rule_scope") (.str rule.scope)
  let matching ← matchingMemberships memberships rule name
  let acceptedAt ← relaySeconds (Dict.get case "accepted_at_relay_unix_seconds")
    (name.add [" accepted_at_relay_unix_seconds"])
  reportIf (¬inCommandWindow acceptedAt denyUntil)
    (name.add [": deny_until must be within the 5400-second command window"])
  compare (name.add [" deny_until"]) (Dict.get expected "deny_until") (.int denyUntil)
  checkGraceDeadline case name rule denyUntil
  let attempts ← asArray (Dict.getD case "admission_attempts" (.arr []))
    (name.add [" admission_attempts must be an array"])
  forM attempts.zipIdx fun (attempt, index) => admissionAttempt name rule denyUntil attempt index
  let releases := matching.countP fun membership =>
    match Dict.get membership "active_talk" with
    | .bool true => true
    | _ => false
  compare (name.add [" deny rule"]) (Dict.get expected "deny_rule_installed") (.bool true)
  compare (name.add [" affected membership count"])
    (Dict.get expected "affected_membership_count") (.int matching.length)
  compare (name.add [" TALK_RELEASE count"]) (Dict.get expected "talk_release_count")
    (.int releases)
  compare (name.add [" TALK_RELEASE reason"]) (Dict.get expected "talk_release_reason")
    (if releases = 0 then .null else .str "SERVICE_ADMISSION_REVOKED")

/-- One `revocation_cases` fixture. -/
def revocationCase (case : Json) (index : ℕ) : Check Unit := do
  let label : Msg := ["Private Control Link revocation case ", .val (.int index)]
  let case ← asObject case (label.add [" must be an object"])
  let name := nameLabel case label
  let malformed := name.add [" is malformed"]
  let command ← asObject (Dict.get case "command") malformed
  let memberships ← asArray (Dict.get case "memberships") malformed
  let expected ← asObject (Dict.get case "expected") malformed
  let denyUntil ← relaySeconds (Dict.get command "deny_until") (name.add [" deny_until"])
  let channel ← integer (Dict.get command "channel_id") (name.add [" channel_id"]) 0xFFFFFFFF
  match Dict.get command "service_id", Dict.get command "grant_id_hash" with
  | .null, .null => .append [name.add [": command has no revocation target"]]
  | service, grantHash =>
    let service ← asOptionalString service (name.add [" service_id must be a string"])
    let grantHash ← asOptionalString grantHash (name.add [" grant_id_hash must be a string"])
    revocationEffect case expected memberships name ⟨channel, service, grantHash⟩ denyUntil

/-! ### Idempotency -/

/-- What `validate_idempotency_command` returns. -/
structure IdempotencyCommand where
  messageId : String
  rule : RevocationRule
  denyUntil : ℕ

/-- `validate_idempotency_command`. -/
def validateIdempotencyCommand (command acceptedAt : Json) (label : Msg) :
    Check IdempotencyCommand := do
  let command ← asObject command (label.add [": command must be an object"])
  let messageId ← asString (Dict.get command "message_id")
    (label.add [": message_id must be a string"])
  let channel ← integer (Dict.get command "channel_id") (label.add [" channel_id"]) 0xFFFFFFFF
  let service := Dict.get command "service_id"
  let grantHash := Dict.get command "grant_id_hash"
  require (¬(service.eq .null ∧ grantHash.eq .null))
    (label.add [": command has no revocation target"])
  let service ← asOptionalString service (label.add [": service_id must be a string"])
  let grantHash ← asOptionalString grantHash (label.add [": grant_id_hash must be a string"])
  let accepted ← relaySeconds acceptedAt (label.add [" acceptance time"])
  let denyUntil ← relaySeconds (Dict.get command "deny_until") (label.add [" deny_until"])
  reportIf (¬inCommandWindow accepted denyUntil)
    (label.add [": deny_until must be within the 5400-second command window"])
  return ⟨messageId, ⟨channel, service, grantHash⟩, denyUntil⟩

/-- `actual_ack`. -/
def retryAck (denyUntil retryAt : ℕ) (retained : Bool) : String :=
  if retryAt < denyUntil then
    if retained then "cached_original_ack" else "durable_original_ack"
  else "already_expired"

/-- One retry; the result is its time. -/
def idempotencyRetry (name : Msg) (denyUntil previousAt : ℕ) (retry : Json × ℕ) : Check ℕ := do
  let label := name.add [" retry ", .val (.int retry.2)]
  let retry ← asObject retry.1 (label.add [" must be an object"])
  let retryName := nameLabel retry label
  let retryAt ← relaySeconds (Dict.get retry "at_relay_unix_seconds") (retryName.add [" time"])
  reportIf (retryAt < previousAt) (name.add [": retry times must be non-decreasing"])
  let retained ← asBool (Dict.get retry "idempotency_cache_retained")
    (retryName.add [": idempotency_cache_retained must be a boolean"])
  let restarted ← asBool (Dict.get retry "relay_restarted")
    (retryName.add [": relay_restarted must be a boolean"])
  let identical ← asBool (Dict.get retry "identical_message_id_and_body")
    (retryName.add [": identical_message_id_and_body must be a boolean"])
  reportIf (restarted ∧ retained)
    (retryName.add [": a Relay restart must not retain the in-memory cache"])
  compare (retryName.add [" identical command"]) (.bool identical) (.bool true)
  let ack := retryAck denyUntil retryAt retained
  compare (retryName.add [" ACK"]) (Dict.get retry "expected_ack") (.str ack)
  compare (retryName.add [" deny_until"]) (Dict.get retry "expected_deny_until") (.int denyUntil)
  compare (retryName.add [" additional TALK_RELEASE count"])
    (Dict.get retry "expected_additional_talk_release_count") (.int 0)
  reportIf (restarted ∧ retryAt < denyUntil ∧ ack ≠ "durable_original_ack")
    (retryName.add [": restart must restore the durable deny rule"])
  return retryAt

/-- A case with `retries`. -/
def retriesCase (case : Dict) (name : Msg) : Check Unit := do
  let acceptedAt := Dict.get case "initial_acceptance_at_relay_unix_seconds"
  let command ← validateIdempotencyCommand (Dict.get case "command") acceptedAt name
  let initialAt ← relaySeconds acceptedAt (name.add [" initial acceptance time"])
  let releases ← integer (Dict.get case "initial_talk_release_count")
    (name.add [" initial talk release count"]) 0xFFFFFFFF
  reportIf (releases < 1) (name.add [": initial command must demonstrate a release effect"])
  let nonEmpty := name.add [": retries must be a non-empty array"]
  let retries ← asArray (Dict.get case "retries") nonEmpty
  require (retries ≠ []) nonEmpty
  let _ ← retries.zipIdx.foldlM (idempotencyRetry name command.denyUntil) initialAt

/-- A case that renews a command. -/
def renewalCommandCase (case : Dict) (name : Msg) : Check Unit := do
  let initial ← validateIdempotencyCommand (Dict.get case "initial_command")
    (Dict.get case "initial_acceptance_at_relay_unix_seconds") (name.add [" initial command"])
  let renewal ← validateIdempotencyCommand (Dict.get case "renewal_command")
    (Dict.get case "renewal_acceptance_at_relay_unix_seconds") (name.add [" renewal command"])
  reportIf (initial.messageId = renewal.messageId)
    (name.add [": an explicit extension requires a fresh message_id"])
  reportIf (¬(initial.rule.channel = renewal.rule.channel ∧
      initial.rule.service = renewal.rule.service ∧
      initial.rule.grantHash = renewal.rule.grantHash))
    (name.add [": renewal command must use the same revocation selector"])
  reportIf (renewal.denyUntil ≤ initial.denyUntil)
    (name.add [": renewal deny_until must be later than the original deadline"])
  compare (name.add [" effective deny_until"]) (Dict.get case "expected_effective_deny_until")
    (.int renewal.denyUntil)

/-- One `idempotency_cases` fixture. -/
def idempotencyCase (case : Json) (index : ℕ) : Check Unit := do
  let label : Msg := ["Private Control Link idempotency case ", .val (.int index)]
  let case ← asObject case (label.add [" must be an object"])
  let name := nameLabel case label
  if Dict.has case "retries" then retriesCase case name else renewalCommandCase case name

/-! ### Deadlines -/

/-- `actual`: the answer to a deadline. -/
def deadlineResult (acceptedAt denyUntil : ℕ) : String :=
  if denyUntil > acceptedAt + 5400 then "invalid_revocation_deadline"
  else if denyUntil ≤ acceptedAt then "already_expired"
  else "applied"

/-- One `deadline_validation_cases` fixture. -/
def deadlineCase (case : Json) (index : ℕ) : Check Unit := do
  let label : Msg := ["Private Control Link deadline validation case ", .val (.int index)]
  let case ← asObject case (label.add [" must be an object"])
  let name := nameLabel case label
  let acceptedAt ← relaySeconds (Dict.get case "accepted_at_relay_unix_seconds")
    (name.add [" acceptance time"])
  let denyUntil ← relaySeconds (Dict.get case "deny_until") (name.add [" deny_until"])
  compare (name.add [" result"]) (Dict.get case "expected")
    (.str (deadlineResult acceptedAt denyUntil))

/-- The four lists of cases about revocation. -/
def checkRevocations (document : Dict) : Check Unit := do
  let deployments ← asArray (Dict.get document "deployment_lifecycle_cases")
    ["Private Control Link deployment_lifecycle_cases must be an array"]
  forM deployments.zipIdx fun (case, index) => deploymentCase case index
  let revocations ← asArray (Dict.get document "revocation_cases")
    ["Private Control Link revocation_cases must be an array"]
  forM revocations.zipIdx fun (case, index) => revocationCase case index
  let idempotency ← asArray (Dict.get document "idempotency_cases")
    ["Private Control Link idempotency_cases must be an array"]
  forM idempotency.zipIdx fun (case, index) => idempotencyCase case index
  let deadlines ← asArray (Dict.get document "deadline_validation_cases")
    ["Private Control Link deadline_validation_cases must be an array"]
  forM deadlines.zipIdx fun (case, index) => deadlineCase case index

/-! ### Every exception is caught -/

section Caught
variable {value command acceptedAt : Json} {case expected : Dict} {name label : Msg} {index : ℕ}
  {rule : RevocationRule} {denyUntil : ℕ} {memberships : List Json} {document : Dict}

@[simp] theorem relaySeconds_caught : ThrowsOnly Caught (relaySeconds value label) :=
  throwsOnly_integer_caught

@[simp] theorem asOptionalString_caught : ThrowsOnly Caught (asOptionalString value label) := by
  cases value <;> simp [asOptionalString]

theorem deploymentCase_caught : RaisesOnly Caught (deploymentCase value index) := by
  simp [deploymentCase, readDeployment, deploymentCommand, noDeploymentCommand]

theorem checkGraceDeadline_caught :
    RaisesOnly Caught (checkGraceDeadline case name rule denyUntil) := by
  unfold checkGraceDeadline
  split <;> simp

theorem admissionAttempt_caught :
    RaisesOnly Caught (admissionAttempt name rule denyUntil value index) := by
  simp [admissionAttempt]

theorem matchingMemberships_caught :
    ThrowsOnly Caught (matchingMemberships memberships rule name) := by
  simp [matchingMemberships, throwsOnly_mapM]

theorem revocationEffect_caught :
    RaisesOnly Caught (revocationEffect case expected memberships name rule denyUntil) := by
  have hattempts : ∀ attempts : List Json, RaisesOnly Caught (forM attempts.zipIdx
      fun (attempt, index) => admissionAttempt name rule denyUntil attempt index) := fun _ =>
    caught_forM_zipIdx fun _ _ => admissionAttempt_caught
  simp [revocationEffect, matchingMemberships_caught, checkGraceDeadline_caught, hattempts]

theorem revocationCase_caught : RaisesOnly Caught (revocationCase value index) := by
  simp only [revocationCase, Run.liftM_eq, raisesOnly_bind, raisesOnly_lift, throwsOnly_asObject,
    throwsOnly_asArray, relaySeconds_caught, throwsOnly_integer_caught, caught_vectorValidation,
    or_true, true_and]
  intro case _ command _ memberships _ expected _ denyUntil _ channel _
  -- without a selector there is no rule to look at
  split
  · exact raisesOnly_append _
  · simp [revocationEffect_caught]

theorem validateIdempotencyCommand_caught :
    RaisesOnly Caught (validateIdempotencyCommand command acceptedAt label) := by
  simp [validateIdempotencyCommand]

theorem idempotencyRetry_caught {previousAt : ℕ} {retry : Json × ℕ} :
    RaisesOnly Caught (idempotencyRetry name denyUntil previousAt retry) := by
  simp [idempotencyRetry]

theorem retriesCase_caught : RaisesOnly Caught (retriesCase case name) := by
  have hretries : ∀ denyUntil (retries : List (Json × ℕ)) initialAt,
      RaisesOnly Caught (retries.foldlM (idempotencyRetry name denyUntil) initialAt) := fun _ _ _ =>
    raisesOnly_foldlM fun _ _ _ => idempotencyRetry_caught
  simp [retriesCase, validateIdempotencyCommand_caught, hretries]

theorem idempotencyCase_caught : RaisesOnly Caught (idempotencyCase value index) := by
  simp [idempotencyCase, retriesCase_caught, renewalCommandCase, validateIdempotencyCommand_caught]

theorem deadlineCase_caught : RaisesOnly Caught (deadlineCase value index) := by
  simp [deadlineCase]

/-- CAUGHT: every exception of the cases about revocation. -/
theorem checkRevocations_caught : RaisesOnly Caught (checkRevocations document) := by
  simp only [checkRevocations, Run.liftM_eq, raisesOnly_bind, raisesOnly_lift, throwsOnly_asArray,
    caught_vectorValidation, or_true, true_and]
  intro deployments _
  refine ⟨caught_forM_zipIdx fun _ _ => deploymentCase_caught, fun _ _ revocations _ => ?_⟩
  refine ⟨caught_forM_zipIdx fun _ _ => revocationCase_caught, fun _ _ idempotency _ => ?_⟩
  refine ⟨caught_forM_zipIdx fun _ _ => idempotencyCase_caught, fun _ _ deadlines _ => ?_⟩
  exact caught_forM_zipIdx fun _ _ => deadlineCase_caught

end Caught

end IncomUdon.Lifecycle
