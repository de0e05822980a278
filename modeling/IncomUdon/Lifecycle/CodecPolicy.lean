import IncomUdon.Lifecycle.MembershipRun

/-! Which codec configurations a channel takes. The Control Authentication policy speaks first, then
    the registry of media security modes, then the mode itself:

        required    authenticated, with a configured key, and aes-gcm-v2 only
        optional    authenticated if a key is configured; any registered mode
        off         any registered mode
        always      aes-gcm-v2 only authenticated

    EXACT: a case is accepted exactly when it states this decision. IN EFFECT: over any sequence of
    configurations the mode in effect is that of the last one taken, so where authentication is
    required nobody without the key changes it, and a required channel never leaves aes-gcm-v2. -/

namespace IncomUdon.Lifecycle
open IncomUdon.Python IncomUdon.Loader IncomUdon.Lib.ErrorLog

/-- A codec configuration that the Relay receives. -/
structure CodecOffer where
  mode : String
  authenticated : Bool

/-- What a channel decides; without a policy only an unregistered mode is asked about. -/
def codecDecision (policy : Option ControlPolicy) (offer : CodecOffer) : String :=
  match policy with
  | none => "reject_unknown_media_security_mode"
  | some policy => mediaSecurityAction (.str policy.mode) offer.mode policy.configured offer.authenticated

/-- The configuration is taken. -/
def ControlPolicy.takes (policy : ControlPolicy) (offer : CodecOffer) : Bool :=
  codecDecision (some policy) offer = "accept"

/-- The mode in effect after a configuration. -/
def codecStep (policy : ControlPolicy) (mode : Option String) (offer : CodecOffer) : Option String :=
  if policy.takes offer then some offer.mode else mode

/-- The mode in effect after some configurations. -/
def codecRun (policy : ControlPolicy) (mode : Option String) (offers : List CodecOffer) :
    Option String :=
  offers.foldl (codecStep policy) mode

/-! ### One decision -/

section Decision
variable {policy : ControlPolicy} {offer : CodecOffer} {configured : Bool}

/-- A chain of refusals ends in the last answer when none of them applies. -/
theorem refusal_eq_iff {p : Prop} [Decidable p] {refusal answer rest : String}
    (hne : refusal ≠ answer) : (if p then refusal else rest) = answer ↔ ¬p ∧ rest = answer := by
  by_cases h : p
  · simp [h, hne]
  · simp [h]

/-- What it takes to be taken. -/
theorem takes_iff : policy.takes offer = true ↔ offer.mode ∈ mediaSecurityModes ∧
    (policy.mode = "required" → policy.configured = true ∧ offer.mode = "aes-gcm-v2") ∧
    (policy.requires = true ∨ offer.mode = "aes-gcm-v2" → offer.authenticated = true) := by
  rw [ControlPolicy.takes, decide_eq_true_iff, codecDecision, mediaSecurityAction,
    refusal_eq_iff (by decide), refusal_eq_iff (by decide), refusal_eq_iff (by decide),
    refusal_eq_iff (by decide), refusal_eq_iff (by decide), ControlPolicy.requires, Json.eq_str,
    Json.str.injEq]
  simp only [not_and, not_not, ne_eq, and_true]
  constructor
  · rintro ⟨hkey, hauth, hmode, haes, hsafe⟩
    exact ⟨hmode, fun h => ⟨hkey h, haes h⟩, fun h => h.elim hauth hsafe⟩
  · rintro ⟨hmode, hrequired, hauth⟩
    exact ⟨fun h => (hrequired h).1, fun h => hauth (.inl h), hmode, fun h => (hrequired h).2,
      fun h => hauth (.inr h)⟩

/-- AGREES: what is taken is accepted as a control packet. -/
theorem accepts_of_takes {packet : ReceivedControl} (hvalid : packet.valid = true)
    (hauth : packet.authenticated = offer.authenticated) (h : policy.takes offer = true) :
    policy.accepts packet = true := by
  have hrequires := (takes_iff.mp h).2.2
  rw [ControlPolicy.accepts, hvalid, hauth, Bool.true_and, Bool.or_eq_true, Bool.not_eq_true']
  by_cases hpolicy : policy.requires = true
  · exact .inl (hrequires (.inl hpolicy))
  · exact .inr (Bool.eq_false_iff.mpr hpolicy)

/-- STRICTER: a required channel takes no more than an optional one, -/
theorem takes_optional_of_required (h : ControlPolicy.takes ⟨"required", configured⟩ offer = true) :
    ControlPolicy.takes ⟨"optional", configured⟩ offer = true := by
  obtain ⟨hmode, hrequired, hauth⟩ := takes_iff.mp h
  have haes := (hrequired rfl).2
  have hname : "optional" ≠ "required" := by decide
  exact takes_iff.mpr ⟨hmode, fun h => absurd h hname, fun _ => hauth (.inr haes)⟩

/-- and an optional one no more than one without Control Authentication. -/
theorem takes_off_of_optional (h : ControlPolicy.takes ⟨"optional", configured⟩ offer = true) :
    ControlPolicy.takes ⟨"off", configured⟩ offer = true := by
  obtain ⟨hmode, -, hauth⟩ := takes_iff.mp h
  have hname : "off" ≠ "required" := by decide
  refine takes_iff.mpr ⟨hmode, fun h => absurd h hname, ?_⟩
  rintro (hoff | haes)
  · cases configured <;> cases hoff
  · exact hauth (.inr haes)

end Decision

/-! ### Any sequence of configurations -/

section Run
variable {policy : ControlPolicy} {mode : Option String} {offers : List CodecOffer}

/-- IN EFFECT: the last configuration that was taken. -/
theorem codecRun_eq : codecRun policy mode offers =
    (((offers.filter policy.takes).getLast?).map CodecOffer.mode).or mode := by
  induction offers generalizing mode with
  | nil => rfl
  | cons offer offers ih =>
    have hrest : codecRun policy mode (offer :: offers) = codecRun policy (codecStep policy mode offer) offers := rfl
    rw [hrest, ih, codecStep]
    by_cases htakes : policy.takes offer = true
    · rw [if_pos htakes, List.filter_cons_of_pos htakes, List.getLast?_cons]
      cases (offers.filter policy.takes).getLast? <;> rfl
    · rw [if_neg htakes, List.filter_cons_of_neg htakes]

/-- What is in effect was taken, or was there before. -/
theorem mem_of_codecRun {name : String} (h : codecRun policy none offers = some name) :
    ∃ offer ∈ offers, offer.mode = name ∧ policy.takes offer = true := by
  rw [codecRun_eq, Option.or_none, Option.map_eq_some_iff] at h
  obtain ⟨offer, hlast, rfl⟩ := h
  obtain ⟨hmem, htakes⟩ := List.mem_filter.mp (List.mem_of_getLast? hlast)
  exact ⟨offer, hmem, rfl, htakes⟩

/-- Where authentication is required, configurations without it may be left out. -/
theorem codecRun_filter (hrequires : policy.requires = true) :
    codecRun policy mode (offers.filter CodecOffer.authenticated) = codecRun policy mode offers := by
  have hsame : (offers.filter CodecOffer.authenticated).filter policy.takes = offers.filter policy.takes := by
    rw [List.filter_filter]
    refine List.filter_congr fun offer _ => ?_
    by_cases htakes : policy.takes offer = true
    · rw [htakes, (takes_iff.mp htakes).2.2 (.inl hrequires)]
      rfl
    · rw [Bool.eq_false_iff.mpr htakes, Bool.false_and]
  rw [codecRun_eq, codecRun_eq, hsame]

end Run

/-! ### The fixtures -/

/-- The case describes this policy, or has none for an unregistered mode. -/
def DescribesPolicy (case : Dict) (offer : CodecOffer) : Option ControlPolicy → Prop
  | none => Dict.get case "policy" = .null ∧ offer.mode ∉ mediaSecurityModes
  | some policy => Dict.get case "policy" = .str policy.mode ∧
      policy.mode ∈ controlAuthenticationModes ∧
      Dict.get case "controlKeyConfigured" = .bool policy.configured ∧
      Dict.get case "authenticated" = .bool offer.authenticated

/-- The case states the decision on this configuration. -/
structure StatesDecision (case : Dict) (policy : Option ControlPolicy) (offer : CodecOffer) :
    Prop where
  named : (case.lookup "name").all Json.isString = true
  mode : Dict.get case "mediaSecurityMode" = .str offer.mode
  described : DescribesPolicy case offer policy
  expected : Dict.get case "expected" = .str (codecDecision policy offer)

section Fixture
variable {case : Dict} {value : Json} {index : ℕ} {name : Msg} {mode action : String}

theorem codecPolicyAction_eq_ok : codecPolicyAction case name mode = .ok action ↔
    ∃ policy authenticated, DescribesPolicy case ⟨mode, authenticated⟩ policy ∧
      action = codecDecision policy ⟨mode, authenticated⟩ := by
  unfold codecPolicyAction
  constructor
  · intro h
    cases hpolicy : Dict.get case "policy" with
    | null =>
      simp only [hpolicy, bind_eq_ok, require_eq_ok, pure, Except.pure, Except.ok.injEq,
        exists_unit] at h
      exact ⟨none, false, ⟨hpolicy, h.1⟩, h.2.symm⟩
    | _ =>
      simp only [hpolicy, bind_eq_ok, require_eq_ok, asBool_eq_ok, pure, Except.pure,
        Except.ok.injEq, exists_unit] at h
      obtain ⟨known, hknown, rfl, configured, hconfigured, authenticated, hauthenticated, rfl⟩ := h
      obtain ⟨policy, hmem, hname⟩ := inNames_eq_true.mp hknown
      rw [hname] at hpolicy ⊢
      exact ⟨some ⟨policy, configured⟩, authenticated, ⟨hpolicy, hmem, hconfigured,
        hauthenticated⟩, rfl⟩
  · rintro ⟨policy, authenticated, hdescribes, rfl⟩
    cases policy with
    | none =>
      simp only [hdescribes.1, bind_eq_ok, require_eq_ok, pure, Except.pure, exists_unit]
      exact ⟨hdescribes.2, rfl⟩
    | some policy =>
      obtain ⟨hpolicy, hmem, hconfigured, hauthenticated⟩ := hdescribes
      simp only [hpolicy, bind_eq_ok, require_eq_ok, asBool_eq_ok, pure, Except.pure, exists_unit]
      exact ⟨true, inNames_eq_true.mpr ⟨policy.mode, hmem, rfl⟩, rfl, policy.configured,
        hconfigured, authenticated, hauthenticated, rfl⟩

/-- EXACT: a case is accepted exactly when it states the decision on what it describes. -/
theorem clean_codecPolicyCase : Clean (codecPolicyCase value index) () ↔
    ∃ case policy offer, value = .obj case ∧ StatesDecision case policy offer := by
  simp only [codecPolicyCase, Run.liftM_eq, clean_bind, clean_lift, asObject_eq_ok, require_eq_ok,
    asString_eq_ok, codecPolicyAction_eq_ok, clean_compare, Json.eq_str_left, exists_unit]
  constructor
  · rintro ⟨case, rfl, hnamed, mode, hmode, expected, hexpected, _, ⟨policy, authenticated,
      hdescribes, rfl⟩, hcompare⟩
    exact ⟨case, policy, ⟨mode, authenticated⟩, rfl, hnamed, hmode, hdescribes,
      hexpected.trans hcompare⟩
  · rintro ⟨case, policy, offer, rfl, hnamed, hmode, hdescribes, hexpected⟩
    exact ⟨case, rfl, hnamed, offer.mode, hmode, _, hexpected, _,
      ⟨policy, offer.authenticated, hdescribes, rfl⟩, rfl⟩

end Fixture

/-- EXACT: the registry check accepts exactly the files whose cases state the decisions. SAFE: over
    any sequence of configurations the mode in effect is that of the last one taken; a required
    channel has aes-gcm-v2 or nothing in effect, aes-gcm-v2 comes into effect only through an
    authenticated one, and where authentication is required the others make no difference. STRICTER:
    a required channel takes no more than an optional one, and that no more than one without Control
    Authentication. -/
theorem mediaSecurityModes_safe :
    (∀ root, Clean (validateMediaSecurityModeRegistry root) () ↔ ∃ document cases,
      load root "test-vectors/packet-envelope-v1.json" = .ok document ∧
      Dict.get document "codecConfigPolicyCases" = .arr cases ∧ ∀ value ∈ cases,
        ∃ case policy offer, value = .obj case ∧ StatesDecision case policy offer) ∧
    (∀ (policy : ControlPolicy) (mode : Option String) (offers : List CodecOffer),
      codecRun policy mode offers = (((offers.filter policy.takes).getLast?).map CodecOffer.mode).or mode ∧
      (policy.mode = "required" → codecRun policy none offers = none ∨
        codecRun policy none offers = some "aes-gcm-v2") ∧
      (codecRun policy none offers = some "aes-gcm-v2" → ∃ offer ∈ offers, offer.authenticated = true ∧
        offer.mode = "aes-gcm-v2") ∧
      (policy.requires = true →
        codecRun policy mode (offers.filter CodecOffer.authenticated) = codecRun policy mode offers)) ∧
    ∀ (configured : Bool) (offer : CodecOffer),
      (ControlPolicy.takes ⟨"required", configured⟩ offer = true →
        ControlPolicy.takes ⟨"optional", configured⟩ offer = true) ∧
      (ControlPolicy.takes ⟨"optional", configured⟩ offer = true →
        ControlPolicy.takes ⟨"off", configured⟩ offer = true) := by
  refine ⟨fun root => ?_, fun policy mode offers =>
    ⟨codecRun_eq, fun hrequired => ?_, fun hmode => ?_, ?_⟩, ?_⟩
  · simp only [validateMediaSecurityModeRegistry, Run.liftM_eq, clean_bind, clean_lift, asArray_eq_ok]
    constructor
    · rintro ⟨document, hdocument, cases, hcases, hclean⟩
      exact ⟨document, cases, hdocument, hcases,
        (clean_forM_zipIdx fun _ _ => clean_codecPolicyCase).mp hclean⟩
    · rintro ⟨document, cases, hdocument, hcases, hstates⟩
      exact ⟨document, hdocument, cases, hcases,
        (clean_forM_zipIdx fun _ _ => clean_codecPolicyCase).mpr hstates⟩
  · cases hrun : codecRun policy none offers with
    | none => exact .inl rfl
    | some name =>
      obtain ⟨offer, -, rfl, htakes⟩ := mem_of_codecRun hrun
      exact .inr (congrArg some ((takes_iff.mp htakes).2.1 hrequired).2)
  · obtain ⟨offer, hmem, haes, htakes⟩ := mem_of_codecRun hmode
    exact ⟨offer, hmem, (takes_iff.mp htakes).2.2 (.inr haes), haes⟩
  · exact codecRun_filter
  · exact fun configured offer => ⟨takes_optional_of_required, takes_off_of_optional⟩

end IncomUdon.Lifecycle
