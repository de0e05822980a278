import Mathlib.Data.Set.Basic
import IncomUdon.Lifecycle.PrivateControlLink.Revocation

/-! Private Control Link: the scope of a deny rule. A rule has a channel and up to two selectors, and
    it targets what agrees with all of them:

        targets  =  channel ∩ service ∩ grant            a selector that is absent is no limit
        denied   =  targets, while attempt time < deny_until

    EXACT: a revocation removes and keeps out its targets and nothing else. The deployment cases
    decide about the same command by its service and deadline alone; AGREEMENT says when that is the
    same. -/

namespace IncomUdon.Lifecycle
open IncomUdon.Python IncomUdon.Lib.ErrorLog

namespace RevocationRule
variable {rule : RevocationRule} {candidate : Dict}

/-- The candidate has the channel of the rule. -/
def SameChannel (rule : RevocationRule) (candidate : Dict) : Prop :=
  (Dict.get candidate "channel_id").eq (.int rule.channel) = true

instance (rule : RevocationRule) (candidate : Dict) : Decidable (rule.SameChannel candidate) :=
  inferInstanceAs (Decidable (_ = true))

/-- The candidate has the channel and agrees with every selector that is given. -/
structure Targets (rule : RevocationRule) (candidate : Dict) : Prop where
  channel : rule.SameChannel candidate
  service : ∀ service ∈ rule.service, Dict.get candidate "service_id" = .str service
  grantHash : ∀ grantHash ∈ rule.grantHash, Dict.get candidate "grant_id_hash" = .str grantHash

/-- The candidate differs in the channel or in a selector that is given. -/
def Differs (rule : RevocationRule) (candidate : Dict) : Prop :=
  ¬rule.SameChannel candidate ∨
    (∃ service ∈ rule.service, Dict.get candidate "service_id" ≠ .str service) ∨
    ∃ grantHash ∈ rule.grantHash, Dict.get candidate "grant_id_hash" ≠ .str grantHash

/-- `matches_rule` is the conjunction. -/
theorem matchesRule_iff : rule.matchesRule candidate = true ↔ rule.Targets candidate := by
  have hall : ∀ (selector : Option String) (value : Json),
      selector.all (fun s => value.eq (.str s)) = true ↔ ∀ s ∈ selector, value = .str s := by
    intro selector value
    cases selector <;> simp
  rw [matchesRule, Bool.and_eq_true, Bool.and_eq_true, hall, hall, and_assoc]
  exact ⟨fun ⟨hc, hs, hg⟩ => ⟨hc, hs, hg⟩, fun ⟨hc, hs, hg⟩ => ⟨hc, hs, hg⟩⟩

theorem not_targets_iff : ¬rule.Targets candidate ↔ rule.Differs candidate := by
  constructor
  · intro h
    by_contra hsame
    simp only [Differs, not_or, not_exists, not_and, not_not] at hsame
    exact h ⟨hsame.1, hsame.2.1, hsame.2.2⟩
  · rintro (hc | ⟨service, hs, hne⟩ | ⟨grantHash, hg, hne⟩) h
    · exact hc h.channel
    · exact hne (h.service service hs)
    · exact hne (h.grantHash grantHash hg)

/-- The rule with its service alone. -/
def serviceOnly (rule : RevocationRule) : RevocationRule := { rule with grantHash := none }

/-- The rule with its grant alone. -/
def grantOnly (rule : RevocationRule) : RevocationRule := { rule with service := none }

/-- Two selectors narrow the rule to what both alone target. -/
theorem targets_iff_both :
    rule.Targets candidate ↔ rule.serviceOnly.Targets candidate ∧ rule.grantOnly.Targets candidate :=
  ⟨fun h => ⟨⟨h.channel, h.service, nofun⟩, ⟨h.channel, nofun, h.grantHash⟩⟩,
    fun h => ⟨h.1.channel, h.1.service, h.2.grantHash⟩⟩

end RevocationRule

/-! ### Who is removed and who is kept out -/

/-- An admission attempt at a Relay time. -/
structure Attempt where
  time : ℕ
  candidate : Dict

namespace RevocationRule
variable {rule : RevocationRule} {denyUntil : ℕ} {memberships : List Dict} {attempts : List Attempt}
  {attempt : Attempt} {membership : Dict}

/-- The memberships that the rule ends. -/
def removed (rule : RevocationRule) (memberships : List Dict) : List Dict :=
  memberships.filter rule.matchesRule

/-- The memberships that the rule leaves alone. -/
def kept (rule : RevocationRule) (memberships : List Dict) : List Dict :=
  memberships.filter fun membership => ¬rule.matchesRule membership

/-- The attempts that are denied. -/
def denied (rule : RevocationRule) (denyUntil : ℕ) (attempts : List Attempt) : List Attempt :=
  attempts.filter fun attempt =>
    rule.attemptResult denyUntil attempt.time attempt.candidate ≠ "not_denied_by_rule"

/-- The attempts that are not denied. -/
def admitted (rule : RevocationRule) (denyUntil : ℕ) (attempts : List Attempt) : List Attempt :=
  attempts.filter fun attempt =>
    rule.attemptResult denyUntil attempt.time attempt.candidate = "not_denied_by_rule"

/-- The texts of the two answers never meet. -/
theorem attemptResult_eq_iff :
    rule.attemptResult denyUntil attempt.time attempt.candidate = "not_denied_by_rule" ↔
      ¬(attempt.time < denyUntil ∧ rule.Targets attempt.candidate) := by
  rw [← matchesRule_iff, attemptResult]
  split_ifs with h
  · refine iff_of_false ?_ (not_not.mpr h)
    unfold scope
    split_ifs <;> decide
  · exact iff_of_true rfl h

theorem mem_removed : membership ∈ rule.removed memberships ↔
    membership ∈ memberships ∧ rule.Targets membership := by
  rw [removed, List.mem_filter, matchesRule_iff]

theorem mem_kept : membership ∈ rule.kept memberships ↔
    membership ∈ memberships ∧ ¬rule.Targets membership := by
  rw [kept, List.mem_filter, decide_eq_true_iff, matchesRule_iff]

theorem mem_denied : attempt ∈ rule.denied denyUntil attempts ↔
    attempt ∈ attempts ∧ attempt.time < denyUntil ∧ rule.Targets attempt.candidate := by
  rw [denied, List.mem_filter, decide_eq_true_iff, ne_eq, attemptResult_eq_iff, not_not]

theorem mem_admitted : attempt ∈ rule.admitted denyUntil attempts ↔
    attempt ∈ attempts ∧ ¬(attempt.time < denyUntil ∧ rule.Targets attempt.candidate) := by
  rw [admitted, List.mem_filter, decide_eq_true_iff, attemptResult_eq_iff]

end RevocationRule

section Fixture
variable {rule : RevocationRule} {denyUntil index : ℕ} {name : Msg}

/-- FIXTURE: the memberships that a case counts as affected are the removed ones. -/
theorem matchingMemberships_eq_ok {memberships : List Json} {matching : List Dict} :
    matchingMemberships memberships rule name = .ok matching ↔
      ∃ candidates, List.Forall₂ (fun m d => m = .obj d) memberships candidates ∧
        rule.removed candidates = matching := by
  simp only [matchingMemberships, bind_eq_ok, mapM_eq_ok, asObject_eq_ok, pure, Except.pure,
    Except.ok.injEq, RevocationRule.removed]

/-- FIXTURE: an attempt reports nothing exactly when it has a time and names its answer. -/
theorem clean_admissionAttempt {attempt : Dict} :
    Clean (admissionAttempt name rule denyUntil (.obj attempt) index) () ↔
      ∃ time : ℕ, Dict.get attempt "accepted_at_relay_unix_seconds" = .int time ∧
        time ≤ maxSafeJsonInteger ∧
        Dict.get attempt "expected" = .str (rule.attemptResult denyUntil time attempt) := by
  simp [admissionAttempt, relaySeconds, and_assoc]

end Fixture

/-- EXACT: nobody is left whom the rule targets, unless the attempt came when the rule had expired;
    whoever differs in the channel or in a selector is left, and so is every attempt from the deadline
    on; and a rule with both selectors affects exactly what both alone affect. -/
theorem revocation_exact (rule : RevocationRule) (denyUntil : ℕ) (memberships : List Dict)
    (attempts : List Attempt) :
    (∀ membership ∈ rule.kept memberships, ¬rule.Targets membership) ∧
    (∀ attempt ∈ rule.admitted denyUntil attempts, attempt.time < denyUntil →
      ¬rule.Targets attempt.candidate) ∧
    (∀ membership ∈ memberships, rule.Differs membership → membership ∈ rule.kept memberships) ∧
    (∀ attempt ∈ attempts, rule.Differs attempt.candidate →
      attempt ∈ rule.admitted denyUntil attempts) ∧
    (∀ attempt ∈ attempts, denyUntil ≤ attempt.time →
      attempt ∈ rule.admitted denyUntil attempts) ∧
    {membership | membership ∈ rule.removed memberships}
      = {membership | membership ∈ rule.serviceOnly.removed memberships}
        ∩ {membership | membership ∈ rule.grantOnly.removed memberships} ∧
    {attempt | attempt ∈ rule.denied denyUntil attempts}
      = {attempt | attempt ∈ rule.serviceOnly.denied denyUntil attempts}
        ∩ {attempt | attempt ∈ rule.grantOnly.denied denyUntil attempts} := by
  have hboth : ∀ candidate, rule.Targets candidate ↔
      rule.serviceOnly.Targets candidate ∧ rule.grantOnly.Targets candidate :=
    fun _ => RevocationRule.targets_iff_both
  refine ⟨fun m hm => (RevocationRule.mem_kept.mp hm).2, fun a ha hlt htargets => ?_,
    fun m hm hdiffers => ?_, fun a ha hdiffers => ?_, fun a ha hle => ?_, ?_, ?_⟩
  · exact (RevocationRule.mem_admitted.mp ha).2 ⟨hlt, htargets⟩
  · exact RevocationRule.mem_kept.mpr ⟨hm, RevocationRule.not_targets_iff.mpr hdiffers⟩
  · exact RevocationRule.mem_admitted.mpr
      ⟨ha, fun h => RevocationRule.not_targets_iff.mpr hdiffers h.2⟩
  · exact RevocationRule.mem_admitted.mpr ⟨ha, fun h => Nat.not_lt.mpr hle h.1⟩
  · ext m
    simp only [Set.mem_inter_iff, Set.mem_ofPred_eq, RevocationRule.mem_removed, hboth]
    tauto
  · ext a
    simp only [Set.mem_inter_iff, Set.mem_ofPred_eq, RevocationRule.mem_denied, hboth]
    tauto

/-! ### The deployment cases -/

/-- A command that is well formed and was accepted at this time: a channel, a selector at least, and
    a deadline in the command window. -/
structure WellFormedCommand (command : Dict) (rule : RevocationRule) (acceptedAt denyUntil : ℕ) :
    Prop where
  hasChannel : Dict.get command "channel_id" = .int rule.channel
  channel_le : rule.channel ≤ 0xFFFFFFFF
  hasService : Dict.get command "service_id" = Json.ofString? rule.service
  hasGrantHash : Dict.get command "grant_id_hash" = Json.ofString? rule.grantHash
  selector : rule.service.isSome ∨ rule.grantHash.isSome
  hasAcceptedAt : Dict.get command "accepted_at_relay_unix_seconds" = .int acceptedAt
  hasDenyUntil : Dict.get command "deny_until" = .int denyUntil
  denyUntil_le : denyUntil ≤ maxSafeJsonInteger
  window : inCommandWindow acceptedAt denyUntil

section Deployment
variable {command grant change presentation : Dict} {rule : RevocationRule} {acceptedAt denyUntil : ℕ}
  {deployment : Deployment} {name : Msg} {revoked : Bool}

/-- A deployment case has a verdict only for a command with a service, and then by the service and
    the deadline. -/
theorem returns_deploymentCommand (h : WellFormedCommand command rule acceptedAt denyUntil) :
    Returns (deploymentCommand (.obj command) deployment name) revoked ↔
      ∃ service ∈ rule.service, remoteRevocationApplied service deployment.grantService
        deployment.presentedAt denyUntil = revoked := by
  have haccepted : acceptedAt ≤ maxSafeJsonInteger := h.window.1.le.trans h.denyUntil_le
  have hservice : ∀ service : String, Json.ofString? rule.service = .str service ↔
      service ∈ rule.service := by
    intro service
    cases rule.service <;> simp [Json.ofString?]
  simp [-Bool.exists_bool, deploymentCommand, relaySeconds, h.hasChannel, h.channel_le, h.hasService,
    h.hasAcceptedAt, h.hasDenyUntil, h.denyUntil_le, haccepted, hservice]

/-- The service of the grant is the one that was read. -/
theorem grantService_of_returns_readDeployment
    (h : Returns (readDeployment grant change presentation name) deployment) :
    Dict.get grant "service_id" = .str deployment.grantService := by
  simp only [readDeployment, Run.liftM_eq, returns_bind, returns_lift, asString_eq_ok,
    returns_pure] at h
  obtain ⟨service, hservice, -, -, -, -, -, -, -, -, -, -, -, -, -, -, -, -, rfl⟩ := h
  exact hservice

/-- AGREEMENT: for a well-formed command the deployment verdict is there and is that of the revocation
    rule exactly when the command has a service and, if that is the service of the grant and the
    deadline has not passed, the channel and the grant selector fit the grant too. -/
theorem deploymentVerdict_iff
    (hcommand : WellFormedCommand command rule acceptedAt denyUntil)
    (hread : Returns (readDeployment grant change presentation name) deployment) :
    (∃ revoked, Returns (deploymentCommand (.obj command) deployment name) revoked ∧
      (revoked = true ↔ deployment.presentedAt < denyUntil ∧ rule.matchesRule grant)) ↔
    ∃ service ∈ rule.service, service = deployment.grantService → deployment.presentedAt < denyUntil →
      rule.SameChannel grant ∧
        ∀ grantHash ∈ rule.grantHash, Dict.get grant "grant_id_hash" = .str grantHash := by
  have hgrant := grantService_of_returns_readDeployment hread
  simp only [returns_deploymentCommand hcommand, RevocationRule.matchesRule_iff]
  constructor
  · rintro ⟨revoked, ⟨service, hservice, rfl⟩, hverdict⟩
    refine ⟨service, hservice, fun hsame hpending => ?_⟩
    have htargets := (hverdict.mp (by simp [remoteRevocationApplied, hsame, hpending])).2
    exact ⟨htargets.channel, htargets.grantHash⟩
  · rintro ⟨service, hservice, hfits⟩
    refine ⟨_, ⟨service, hservice, rfl⟩, ?_⟩
    rw [remoteRevocationApplied, decide_eq_true_iff]
    constructor
    · rintro ⟨hsame, hpending⟩
      obtain ⟨hchannel, hhash⟩ := hfits hsame hpending
      refine ⟨hpending, hchannel, fun other hother => ?_, hhash⟩
      rw [hgrant, ← hsame, Option.mem_unique hother hservice]
    · rintro ⟨hpending, htargets⟩
      have hsame := htargets.service service hservice
      rw [hgrant, Json.str.injEq] at hsame
      exact ⟨hsame.symm, hpending⟩

end Deployment

/-- A grant on channel 222, with its hash. -/
def otherChannelGrant : Dict :=
  [("channel_id", .int 222), ("service_id", .str "recorder-01"), ("grant_id_hash", .str "grant-hash-a"),
    ("issued_at_relay_unix_seconds", .int 1767226600), ("expires_at_relay_unix_seconds", .int 1767227200)]

/-- A change between issuance and presentation. -/
def serviceDisabled : Dict :=
  [("type", .str "service_disabled"), ("at_relay_unix_seconds", .int 1767226610)]

/-- A presentation before the grant expires. -/
def presentedGrant : Dict :=
  [("at_relay_unix_seconds", .int 1767226620), ("normal_relay_local_validation_succeeds", .bool true)]

/-- A command on a channel, for the service of the grant. -/
def serviceCommand (channel : ℤ) : Dict :=
  [("channel_id", .int channel), ("service_id", .str "recorder-01"),
    ("accepted_at_relay_unix_seconds", .int 1767226611), ("deny_until", .int 1767226671)]

/-- The four as a deployment case with the link enabled. -/
def deploymentFixture (channel : ℤ) : Json :=
  .obj [("private_control_link_enabled", .bool true), ("grant", .obj otherChannelGrant),
    ("administrative_change", .obj serviceDisabled),
    ("revocation_command", .obj (serviceCommand channel)), ("presentation", .obj presentedGrant),
    ("expected", .obj [("new_grant_issuance", .str "denied"), ("remote_revocation_applied", .bool true),
      ("presentation", .str "deny_by_service_rule")])]

theorem wellFormed_serviceCommand (channel : ℕ) (h : channel ≤ 0xFFFFFFFF) :
    WellFormedCommand (serviceCommand channel) ⟨channel, some "recorder-01", none⟩ 1767226611
      1767226671 :=
  ⟨rfl, h, rfl, rfl, .inl rfl, rfl, rfl, by decide, by decide⟩

/-- A command on the channel of the grant gets the verdict of the rule. -/
theorem deploymentVerdict_same_channel :
    ∃ revoked, Returns (deploymentCommand (.obj (serviceCommand 222))
        ⟨"recorder-01", 1767226600, 1767227200, 1767226610, 1767226620, true⟩ []) revoked ∧
      (revoked = true ↔ 1767226620 < 1767226671 ∧
        RevocationRule.matchesRule ⟨222, some "recorder-01", none⟩ otherChannelGrant) := by
  have hread : Returns (readDeployment otherChannelGrant serviceDisabled presentedGrant [])
      ⟨"recorder-01", 1767226600, 1767227200, 1767226610, 1767226620, true⟩ := ⟨[], rfl⟩
  exact (deploymentVerdict_iff (wellFormed_serviceCommand 222 (by decide)) hread).mpr
    ⟨"recorder-01", rfl, fun _ _ => ⟨by decide, nofun⟩⟩

/-- A command on channel 111 is expected to deny a grant on channel 222, which the rule of the command
    does not match. -/
theorem deploymentVerdict_widens :
    WellFormedCommand (serviceCommand 111) ⟨111, some "recorder-01", none⟩ 1767226611 1767226671 ∧
      Clean (deploymentCase (deploymentFixture 111) 0) () ∧
      RevocationRule.matchesRule ⟨111, some "recorder-01", none⟩ otherChannelGrant = false :=
  ⟨wellFormed_serviceCommand 111 (by decide), rfl, by decide⟩

end IncomUdon.Lifecycle
