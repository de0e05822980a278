import IncomUdon.Lifecycle.ControlPayloads
import IncomUdon.Lifecycle.Release

/-! Who is released, when and why. A talk ends at its PTT deadline; a membership, and the talk with
    it, at its normal deadline or when the admission expires, whichever is first:

        PTT         grant + maximum                        SERVER_TALK_TIMEOUT
        identity    normal ≤ ticket ? normal : ticket      MEMBERSHIP_TIMEOUT : IDENTITY_EXPIRED
        service     normal ≤ grant  ? normal : grant       MEMBERSHIP_TIMEOUT : SERVICE_ADMISSION_EXPIRED

    EXACT: the two validators accept exactly the files that state these endings. TELLS: the five
    bytes of a TALK_RELEASE tell the talker and the reason, so in an accepted expiry case they tell
    which deadline was first. -/

namespace IncomUdon.Lifecycle
open IncomUdon.Python IncomUdon.Loader IncomUdon.Lib.ErrorLog

/-- The fields in which a case keeps a release. -/
structure ReleaseFields where
  reason : String
  reasonByte : String
  payload : String

/-- In `talk_release_payloads`. -/
def fixtureFields : ReleaseFields := ⟨"reason", "reason_byte", "payload_hex"⟩

/-- In an expiry case. -/
def expiryFields : ReleaseFields :=
  ⟨"release_reason", "release_reason_byte", "talk_release_payload_hex"⟩

/-- The case states the release of this talker for this reason, and its five bytes. -/
structure StatesRelease (case : Dict) (fields : ReleaseFields) (reason : String) (talkerId : ℕ) :
    Prop where
  named : Dict.get case fields.reason = .str reason
  talker : Dict.get case "talker_id" = .int talkerId ∧ talkerId ≤ 0xFFFFFFFF
  nonzero : talkerId ≠ 0
  bytes : ∃ reasonByte, (reason, reasonByte) ∈ releaseReasons ∧
    (Json.int (reasonByte : ℕ)).eq (Dict.get case fields.reasonByte) = true ∧
      IsHex (Dict.get case fields.payload) (talkRelease talkerId reasonByte)

/-- The reason why a membership ends: at a tie it is its own timeout. -/
def endReason (normal admission : ℕ) (expired : String) : String :=
  if normal ≤ admission then "MEMBERSHIP_TIMEOUT" else expired

/-- The case states the end of a membership, and the release of its talker if there is one. -/
structure StatesEnd (case : Dict) (normal admission : ℕ) (expired : String) (talks : Prop) :
    Prop where
  effective : (Json.int (min normal admission : ℕ)).eq (Dict.get case "effective_membership_expiry") = true
  release : talks → ∃ talkerId, StatesRelease case expiryFields (endReason normal admission expired) talkerId

/-- The case states a PTT lease from this grant to this deadline. -/
structure StatesLease (timeline : Dict) (grantTime deadline : ℕ) : Prop where
  ends : (Json.int (deadline : ℕ)).eq (Dict.get timeline "deadline_ms") = true
  duplicate : Dict.get timeline "duplicate_ptt_on_ms" = .null ∨
    ∃ time : ℕ, (Dict.get timeline "duplicate_ptt_on_ms" = .int time ∧ time ≤ maxTime) ∧
      grantTime ≤ time ∧ time < deadline
  reason : Dict.get timeline "release_reason" = .str "SERVER_TALK_TIMEOUT"
  forwards : (Dict.get timeline "must_forward_before_deadline").eq (.bool true) = true
  rejects : (Dict.get timeline "must_reject_at_or_after_deadline").eq (.bool true) = true

/-- The case states no lease: the talk ends when the client ends it. -/
structure StatesNoLease (timeline : Dict) : Prop where
  ends : Dict.get timeline "deadline_ms" = .null
  reason : Dict.get timeline "release_reason" = .str "CLIENT_PTT_OFF"

section Release
variable {case : Dict} {fields : ReleaseFields} {name : Msg} {reason : String}
  {reasonByte talkerId : ℕ} {data : Bytes} {value : Json} {index : ℕ}

/-- A reason has one byte, and a byte one reason. -/
theorem releaseReasons_unique : ∀ entry ∈ releaseReasons, ∀ entry' ∈ releaseReasons,
    (entry.1 = entry'.1 ∨ entry.2 = entry'.2) → entry = entry' := by decide

/-- The payload of a registered reason. -/
theorem talkReleasePayload_eq_ok (hreason : (reason, reasonByte) ∈ releaseReasons) :
    talkReleasePayload talkerId (.str reason) = .ok data ↔
      talkerId ≠ 0 ∧ talkerId ≤ 0xFFFFFFFF ∧ data = talkRelease talkerId reasonByte := by
  rw [← talkReleasePayloadOf_int, talkReleasePayloadOf_eq_ok hreason]
  constructor
  · rintro ⟨n, ⟨htalker, hne⟩ | ⟨⟨⟩, -⟩, hlt, rfl⟩
    obtain rfl : talkerId = n := by simpa using htalker
    exact ⟨hne, by omega, rfl⟩
  · rintro ⟨hne, hle, rfl⟩
    exact ⟨talkerId, .inl ⟨rfl, hne⟩, by omega, rfl⟩

/-- What an expiry case says about its release. -/
theorem clean_checkRelease (hreason : (reason, reasonByte) ∈ releaseReasons) :
    Clean (checkRelease case name reason) () ↔
      ∃ talkerId, StatesRelease case expiryFields reason talkerId := by
  obtain ⟨-, htable, -⟩ := registered hreason
  simp only [checkRelease, htable, Run.liftM_eq, clean_bind, clean_lift, clean_compare,
    integer_eq_ok, hexBytes_eq_ok, clean_compareBytes, talkReleasePayload_eq_ok hreason,
    Except.ok.injEq, exists_eq_left', exists_unit, Json.eq_str_left]
  constructor
  · rintro ⟨hname, hbyte, talkerId, htalker, _, ⟨hne, -, rfl⟩, _, hhex, rfl⟩
    exact ⟨talkerId, hname, htalker, hne, reasonByte, hreason, hbyte, hhex⟩
  · rintro ⟨talkerId, hname, htalker, hne, reasonByte', hreason', hbyte, hhex⟩
    cases releaseReasons_unique _ hreason' _ hreason (.inl rfl)
    exact ⟨hname, hbyte, talkerId, htalker, _, ⟨hne, htalker.2, rfl⟩, _, hhex, rfl⟩

/-- What a release fixture says. -/
theorem clean_releaseFixture : Clean (releaseFixture value index) () ↔ ∃ case reason talkerId,
    value = .obj case ∧ StatesRelease case fixtureFields reason talkerId := by
  simp only [releaseFixture, Run.liftM_eq, clean_bind, clean_lift, asObject_eq_ok, require_eq_ok,
    clean_compare, integer_eq_ok, hexBytes_eq_ok, clean_compareBytes, tableGet_eq_ok, exists_unit]
  constructor
  · rintro ⟨case, rfl, known, hknown, rfl, byte, ⟨reason, hname, hlookup⟩, hbyte, talkerId, htalker,
      data, hpayload, _, hhex, rfl⟩
    have hreason : (reason, byte) ∈ releaseReasons := mem_of_lookup hlookup
    rw [hname, talkReleasePayload_eq_ok hreason] at hpayload
    obtain ⟨hne, -, rfl⟩ := hpayload
    exact ⟨case, reason, talkerId, rfl, hname, htalker, hne, byte, hreason, hbyte, hhex⟩
  · rintro ⟨case, reason, talkerId, rfl, hname, htalker, hne, byte, hreason, hbyte, hhex⟩
    obtain ⟨hknown, htable, -⟩ := registered hreason
    have hread : Dict.get case "reason" = .str reason := hname
    obtain ⟨_, ⟨⟩, hlookup⟩ := tableGet_eq_ok.mp htable
    refine ⟨case, rfl, ?_⟩
    rw [hread]
    exact ⟨true, hknown, rfl, byte, ⟨reason, rfl, hlookup⟩, hbyte, talkerId, htalker, _,
      (talkReleasePayload_eq_ok hreason).mpr ⟨hne, htalker.2, rfl⟩, _, hhex, rfl⟩

/-- TELLS: two releases with the same bytes are of one talker, for one reason. -/
theorem StatesRelease.unique {case' : Dict} {fields' : ReleaseFields} {reason' : String}
    {talkerId' : ℕ}
    (h : StatesRelease case fields reason talkerId) (h' : StatesRelease case' fields' reason' talkerId')
    (hdata : IsHex (Dict.get case fields.payload) data) (hdata' : IsHex (Dict.get case' fields'.payload) data) :
    talkerId = talkerId' ∧ reason = reason' := by
  obtain ⟨byte, hreason, -, hhex⟩ := h.bytes
  obtain ⟨byte', hreason', -, hhex'⟩ := h'.bytes
  have heq : talkRelease talkerId byte = talkRelease talkerId' byte' :=
    (isHex_unique hhex hdata).trans (isHex_unique hhex' hdata').symm
  have hexact : ∀ {n b : ℕ}, n ≤ 0xFFFFFFFF → b < 256 →
      ∀ f ∈ [Field.uint 4 n, Field.uint 1 b], f.Exact := by
    intro n b hn hb
    refine List.forall_mem_cons.mpr ⟨?_, List.forall_mem_singleton.mpr ?_⟩
    · rw [Field.Exact]; omega
    · rw [Field.Exact]; omega
  obtain ⟨-, -, hlt⟩ := registered hreason
  obtain ⟨-, -, hlt'⟩ := registered hreason'
  have hfields : [Field.uint 4 talkerId, .uint 1 byte] = [.uint 4 talkerId', .uint 1 byte'] :=
    Field.flatMap_encode_inj rfl (hexact h.talker.2 hlt) (hexact h'.talker.2 hlt') heq
  simp only [List.cons.injEq, Field.uint.injEq, true_and, and_true] at hfields
  have hentry := releaseReasons_unique _ hreason _ hreason' (.inr hfields.2)
  exact ⟨hfields.1, congrArg Prod.fst hentry⟩

theorem endReason_registered (normal admission : ℕ) {expired : String}
    (h : (expired, reasonByte) ∈ releaseReasons) :
    ∃ byte, (endReason normal admission expired, byte) ∈ releaseReasons := by
  unfold endReason
  split
  · exact ⟨2, by decide⟩
  · exact ⟨reasonByte, h⟩

/-- What an identity expiry case says. -/
theorem clean_identityExpiryCase : Clean (identityExpiryCase value index) () ↔
    ∃ case, ∃ normal ticket : ℕ,
    value = .obj case ∧ (Dict.get case "normal_membership_deadline" = .int normal ∧ normal ≤ maxTime) ∧
      (Dict.get case "ticket_exp" = .int ticket ∧ ticket ≤ maxTime) ∧
      StatesEnd case normal ticket "IDENTITY_EXPIRED" True := by
  simp only [identityExpiryCase, Run.liftM_eq, clean_bind, clean_lift, asObject_eq_ok,
    integer_eq_ok, clean_compare, exists_unit]
  have hexpired : ("IDENTITY_EXPIRED", 5) ∈ releaseReasons := by decide
  constructor
  · rintro ⟨case, rfl, normal, hnormal, ticket, hticket, heffective, hrelease⟩
    obtain ⟨byte, hbyte⟩ := endReason_registered normal ticket hexpired
    exact ⟨case, normal, ticket, rfl, hnormal, hticket, heffective,
      fun _ => (clean_checkRelease hbyte).mp hrelease⟩
  · rintro ⟨case, normal, ticket, rfl, hnormal, hticket, heffective, hrelease⟩
    obtain ⟨byte, hbyte⟩ := endReason_registered normal ticket hexpired
    exact ⟨case, rfl, normal, hnormal, ticket, hticket, heffective,
      (clean_checkRelease hbyte).mpr (hrelease trivial)⟩

/-- What a service expiry case says; only a talk that is on is released. -/
theorem clean_serviceExpiryCase : Clean (serviceExpiryCase value index) () ↔
    ∃ case, ∃ permission grantExp grace normal : ℕ, value = .obj case ∧
      (Dict.get case "grant_perm" = .int permission ∧ permission ≤ 0xFF) ∧
      (Dict.get case "grant_exp" = .int grantExp ∧ grantExp ≤ maxTime) ∧
      (Dict.get case "grace_seconds" = .int grace ∧ grace ≤ 0xFFFFFFFF) ∧
      (Dict.get case "normal_membership_deadline" = .int normal ∧ normal ≤ maxTime) ∧
      StatesEnd case normal (serviceDeadline permission grantExp grace) "SERVICE_ADMISSION_EXPIRED"
        ((Dict.get case "active_talk").truthy = true) := by
  simp only [serviceExpiryCase, Run.liftM_eq, clean_bind, clean_lift, asObject_eq_ok, integer_eq_ok,
    clean_compare, clean_ite, clean_pure, and_true, exists_unit]
  have hexpired : ("SERVICE_ADMISSION_EXPIRED", 8) ∈ releaseReasons := by decide
  constructor
  · rintro ⟨case, rfl, permission, hpermission, grantExp, hgrantExp, grace, hgrace, normal, hnormal,
      heffective, hrelease⟩
    obtain ⟨byte, hbyte⟩ :=
      endReason_registered normal (serviceDeadline permission grantExp grace) hexpired
    refine ⟨case, permission, grantExp, grace, normal, rfl, hpermission, hgrantExp, hgrace, hnormal,
      heffective, ?_⟩
    intro htalks
    rcases hrelease with ⟨-, hrelease⟩ | hsilent
    · exact (clean_checkRelease hbyte).mp hrelease
    · exact absurd htalks hsilent
  · rintro ⟨case, permission, grantExp, grace, normal, rfl, hpermission, hgrantExp, hgrace, hnormal,
      heffective, hrelease⟩
    obtain ⟨byte, hbyte⟩ :=
      endReason_registered normal (serviceDeadline permission grantExp grace) hexpired
    refine ⟨case, rfl, permission, hpermission, grantExp, hgrantExp, grace, hgrace, normal, hnormal,
      heffective, ?_⟩
    by_cases htalks : (Dict.get case "active_talk").truthy = true
    · exact .inl ⟨htalks, (clean_checkRelease hbyte).mpr (hrelease htalks)⟩
    · exact .inr htalks

/-- A lease that a duplicate PTT_ON does not extend. -/
theorem clean_timelineWithDeadline {timeline : Dict} {grantTime maximum : ℕ} :
    Clean (timelineWithDeadline timeline name grantTime maximum) () ↔
      StatesLease timeline grantTime (grantTime + maximum * 1000) := by
  unfold timelineWithDeadline
  simp only [clean_bind, clean_compare, exists_unit]
  cases hduplicate : Dict.get timeline "duplicate_ptt_on_ms" with
  | null =>
    simp only [clean_bind, clean_compare, exists_unit, Json.eq_str]
    constructor
    · rintro ⟨hends, hreason, hforwards, hrejects⟩
      exact ⟨hends, .inl hduplicate, hreason, hforwards, hrejects⟩
    · rintro ⟨hends, -, hreason, hforwards, hrejects⟩
      exact ⟨hends, hreason, hforwards, hrejects⟩
  | _ =>
    simp only [Run.liftM_eq, clean_bind, clean_lift, integer_eq_ok, clean_compare, clean_reportIf,
      not_not, exists_unit, Json.eq_str]
    constructor
    · rintro ⟨hends, time, ⟨htime, hle⟩, hrange, -, hreason, hforwards, hrejects⟩
      exact ⟨hends, .inr ⟨time, ⟨hduplicate.trans htime, hle⟩, hrange⟩, hreason, hforwards, hrejects⟩
    · rintro ⟨hends, hnull | ⟨time, ⟨htime, hle⟩, hrange⟩, hreason, hforwards, hrejects⟩
      · cases hduplicate.symm.trans hnull
      · exact ⟨hends, time, ⟨hduplicate.symm.trans htime, hle⟩, hrange, hends, hreason, hforwards,
          hrejects⟩

/-- What a timeline says: a lease, or none when talking is not limited. -/
theorem clean_timelineCase : Clean (timelineCase value index) () ↔
    ∃ timeline, ∃ maximum grantTime : ℕ,
    value = .obj timeline ∧ (Dict.get timeline "maximum_talk_seconds" = .int maximum ∧ maximum ≤ 0xFFFF) ∧
      (Dict.get timeline "grant_time_ms" = .int grantTime ∧ grantTime ≤ maxTime) ∧
      if maximum = 0 then StatesNoLease timeline
      else StatesLease timeline grantTime (grantTime + maximum * 1000) := by
  simp only [timelineCase, Run.liftM_eq, clean_bind, clean_lift, asObject_eq_ok, integer_eq_ok]
  have hbranch : ∀ (timeline : Dict) (name : Msg) (maximum grantTime : ℕ), Clean (if maximum = 0 then do
      compare (name.add [" disabled deadline"]) (Dict.get timeline "deadline_ms") .null
      compare (name.add [" ordinary release"]) (Dict.get timeline "release_reason")
        (.str "CLIENT_PTT_OFF")
      else timelineWithDeadline timeline name grantTime maximum) () ↔ if maximum = 0 then StatesNoLease timeline
        else StatesLease timeline grantTime (grantTime + maximum * 1000) := by
    intro timeline name maximum grantTime
    by_cases hzero : maximum = 0
    · simp only [if_pos hzero, clean_bind, clean_compare, exists_unit, Json.eq_null, Json.eq_str]
      exact ⟨fun h => ⟨h.1, h.2⟩, fun h => ⟨h.ends, h.reason⟩⟩
    · simp only [if_neg hzero]
      exact clean_timelineWithDeadline
  constructor
  · rintro ⟨timeline, rfl, maximum, hmaximum, grantTime, hgrant, hclean⟩
    exact ⟨timeline, maximum, grantTime, rfl, hmaximum, hgrant, (hbranch ..).mp hclean⟩
  · rintro ⟨timeline, maximum, grantTime, rfl, hmaximum, hgrant, hstates⟩
    exact ⟨timeline, rfl, maximum, hmaximum, grantTime, hgrant, (hbranch ..).mpr hstates⟩

end Release

/-- The PTT timeout file states releases and leases. -/
structure StatesPttTimeout (document : Dict) : Prop where
  releases : ∃ releases, Dict.get document "talk_release_payloads" = .arr releases ∧
    ∀ value ∈ releases, ∃ case reason talkerId, value = .obj case ∧
      StatesRelease case fixtureFields reason talkerId
  timelines : ∃ timelines, Dict.get document "timeline_cases" = .arr timelines ∧ ∀ value ∈ timelines,
    ∃ timeline, ∃ maximum grantTime : ℕ, value = .obj timeline ∧
      (Dict.get timeline "maximum_talk_seconds" = .int maximum ∧ maximum ≤ 0xFFFF) ∧
      (Dict.get timeline "grant_time_ms" = .int grantTime ∧ grantTime ≤ maxTime) ∧
      if maximum = 0 then StatesNoLease timeline
      else StatesLease timeline grantTime (grantTime + maximum * 1000)

/-- The identity admission file states ends of memberships with a ticket. -/
def StatesIdentityExpiry (document : Dict) : Prop :=
  ∃ cases, Dict.get document "membership_expiry_cases" = .arr cases ∧ ∀ value ∈ cases,
    ∃ case, ∃ normal ticket : ℕ, value = .obj case ∧
      (Dict.get case "normal_membership_deadline" = .int normal ∧ normal ≤ maxTime) ∧
      (Dict.get case "ticket_exp" = .int ticket ∧ ticket ≤ maxTime) ∧
      StatesEnd case normal ticket "IDENTITY_EXPIRED" True

/-- The service admission file states ends of memberships with a grant. -/
def StatesServiceExpiry (document : Dict) : Prop :=
  ∃ cases, Dict.get document "expiry_cases" = .arr cases ∧ ∀ value ∈ cases,
    ∃ case, ∃ permission grantExp grace normal : ℕ, value = .obj case ∧
      (Dict.get case "grant_perm" = .int permission ∧ permission ≤ 0xFF) ∧
      (Dict.get case "grant_exp" = .int grantExp ∧ grantExp ≤ maxTime) ∧
      (Dict.get case "grace_seconds" = .int grace ∧ grace ≤ 0xFFFFFFFF) ∧
      (Dict.get case "normal_membership_deadline" = .int normal ∧ normal ≤ maxTime) ∧
      StatesEnd case normal (serviceDeadline permission grantExp grace) "SERVICE_ADMISSION_EXPIRED"
        ((Dict.get case "active_talk").truthy = true)

/-- EXACT: both validators accept exactly the files that state how each talk and membership ends.
    TELLS: any two releases with the same bytes are of one talker for one reason, in whichever file
    they are. -/
theorem releaseValidators_exact (root : Root) :
    (Clean (validatePttTimeout root) () ↔ ∃ document,
      load root "test-vectors/ptt-timeout-v1.json" = .ok document ∧ StatesPttTimeout document) ∧
    (Clean (validateAdmissionExpiry root) () ↔
      (∃ document, load root "test-vectors/identity-admission-v1.json" = .ok document ∧
        StatesIdentityExpiry document) ∧
      ∃ document, load root "test-vectors/management/service-admission-v1.json" = .ok document ∧
        StatesServiceExpiry document) ∧
    ∀ case case' fields fields' reason reason' talkerId talkerId' data,
      StatesRelease case fields reason talkerId → StatesRelease case' fields' reason' talkerId' →
      IsHex (Dict.get case fields.payload) data → IsHex (Dict.get case' fields'.payload) data →
      talkerId = talkerId' ∧ reason = reason' := by
  refine ⟨?_, ?_, fun _ _ _ _ _ _ _ _ _ h h' hdata hdata' => h.unique h' hdata hdata'⟩
  · simp only [validatePttTimeout, Run.liftM_eq, clean_bind, clean_lift, asArray_eq_ok, exists_unit]
    constructor
    · rintro ⟨document, hdocument, releases, hreleases, timelines, htimelines, hfixtures, hcases⟩
      exact ⟨document, hdocument, ⟨releases, hreleases,
        (clean_forM_zipIdx fun _ _ => clean_releaseFixture).mp hfixtures⟩,
        ⟨timelines, htimelines, (clean_forM_zipIdx fun _ _ => clean_timelineCase).mp hcases⟩⟩
    · rintro ⟨document, hdocument, ⟨releases, hreleases, hfixtures⟩, ⟨timelines, htimelines, hcases⟩⟩
      exact ⟨document, hdocument, releases, hreleases, timelines, htimelines,
        (clean_forM_zipIdx fun _ _ => clean_releaseFixture).mpr hfixtures,
        (clean_forM_zipIdx fun _ _ => clean_timelineCase).mpr hcases⟩
  · simp only [validateAdmissionExpiry, Run.liftM_eq, clean_bind, clean_lift, asArray_eq_ok,
      exists_unit]
    constructor
    · rintro ⟨identity, hidentity, cases, hcases, hends, service, hservice, cases', hcases', hends'⟩
      exact ⟨⟨identity, hidentity, cases, hcases,
        (clean_forM_zipIdx fun _ _ => clean_identityExpiryCase).mp hends⟩,
        ⟨service, hservice, cases', hcases',
          (clean_forM_zipIdx fun _ _ => clean_serviceExpiryCase).mp hends'⟩⟩
    · rintro ⟨⟨identity, hidentity, cases, hcases, hends⟩,
        ⟨service, hservice, cases', hcases', hends'⟩⟩
      exact ⟨identity, hidentity, cases, hcases,
        (clean_forM_zipIdx fun _ _ => clean_identityExpiryCase).mpr hends,
        service, hservice, cases', hcases',
        (clean_forM_zipIdx fun _ _ => clean_serviceExpiryCase).mpr hends'⟩

end IncomUdon.Lifecycle
