import IncomUdon.Lifecycle.Membership
import IncomUdon.Packet.Datagram

/-! Control payloads that two suites encode. The packet suite writes TALK_RELEASE and SERVER_CONFIG
    from a vector, the lifecycle suite from its own fixtures:

        TALK_RELEASE     encode_payload           _talk_release_payload         5 bytes
        SERVER_CONFIG    _encode_server_config    _validate_membership          8 bytes

    AGREE: each pair succeeds with the same bytes or fails on both sides. The second pair always
    does; the first does except for talker 0, which only the lifecycle suite refuses, and for a bare
    `True`, which `struct.pack` takes for 1. -/

namespace IncomUdon.Lifecycle
open IncomUdon.Python IncomUdon.Packet IncomUdon.Lib.ErrorLog

/-- Both succeed with the same bytes, of this number, or both fail. -/
def Agree (size : ℕ) (left right : Py Bytes) : Prop :=
  (∃ data, left = .ok data ∧ right = .ok data ∧ data.length = size) ∨
    ((∃ exc, left = .error exc) ∧ ∃ exc, right = .error exc)

theorem agree_iff {size : ℕ} {left right : Py Bytes} : Agree size left right ↔
    (∀ data, left = .ok data ↔ right = .ok data) ∧ ∀ data, left = .ok data → data.length = size := by
  cases left <;> cases right <;> simp [Agree]
  grind

/-! ### TALK_RELEASE -/

/-- `operator.index(value)`: an integer, and a `bool` is one. -/
def index? : Json → Option ℤ
  | .int n => some n
  | .bool b => some b.toNat
  | _ => none

/-- `struct.pack(">IB", talker_id, reason_byte)` of any value. -/
def packTalkRelease (talkerId : Json) (reasonByte : ℕ) : Py Bytes :=
  match index? talkerId with
  | some (.ofNat n) => structPack [.uint 4 n, .uint 1 reasonByte]
  | _ => fails .structError

/-- `_talk_release_payload`, called with any value. -/
def talkReleasePayloadOf (talkerId reason : Json) : Py Bytes := do
  let known ← inNames reason (releaseReasons.map Prod.fst)
  require known ["unknown TALK_RELEASE reason: ", .repr reason]
  require (¬talkerId.eq (.int 0)) ["TALK_RELEASE talker_id must be non-zero"]
  let reasonByte ← tableGet releaseReasons reason
  packTalkRelease talkerId reasonByte

/-- A TALK_RELEASE vector with this talker and reason; a talker that is missing reads `None`. -/
structure TalkReleaseVector (vector : Dict) (talkerId : Json) (reasonByte : ℕ) : Prop where
  type : typeOf vector = .str "TALK_RELEASE"
  codecConfig : vector.lookup "codecConfig" = none
  serverConfig : vector.lookup "serverConfig" = none
  talkerId : Dict.get vector "talkerId" = talkerId
  releaseReason : Dict.get vector "releaseReason" = .int reasonByte

/-- The five bytes. -/
def talkRelease (talkerId reasonByte : ℕ) : Bytes :=
  [Field.uint 4 talkerId, .uint 1 reasonByte].flatMap Field.encode

section TalkRelease
variable {vector : Dict} {talkerId : Json} {name : String} {reasonByte : ℕ} {label : Msg}
  {data : Bytes}

theorem length_talkRelease (n reasonByte : ℕ) : (talkRelease n reasonByte).length = 5 := by
  rw [talkRelease, length_flatMap_encode]; rfl

/-- A registered reason is found by its name, and its byte is one. -/
theorem registered (h : (name, reasonByte) ∈ releaseReasons) :
    inNames (.str name) (releaseReasons.map Prod.fst) = .ok true ∧
      tableGet releaseReasons (.str name) = .ok reasonByte ∧ reasonByte < 256 := by
  have hall : ∀ entry ∈ releaseReasons,
      releaseReasons.lookup entry.1 = some entry.2 ∧ entry.2 < 256 := by decide
  obtain ⟨hlookup, hbyte⟩ := hall _ h
  exact ⟨inNames_eq_true.mpr ⟨name, List.mem_map_of_mem h, rfl⟩,
    tableGet_eq_ok.mpr ⟨name, rfl, hlookup⟩, hbyte⟩

/-- On a natural number this is the function that the fixtures call. -/
theorem talkReleasePayloadOf_int (n : ℕ) (reason : Json) :
    talkReleasePayloadOf (.int n) reason = talkReleasePayload n reason := by
  simp [talkReleasePayloadOf, talkReleasePayload, packTalkRelease, index?]

/-- The packet suite takes every 32-bit talker. -/
theorem encodePayload_talkRelease (hvector : TalkReleaseVector vector talkerId reasonByte)
    (hbyte : reasonByte < 256) : encodePayload (.obj vector) = .ok data ↔
      ∃ n : ℕ, talkerId = .int n ∧ n < 256 ^ 4 ∧ data = talkRelease n reasonByte := by
  constructor
  · intro h
    obtain ⟨payload, hcarried, hdescribes, hdata⟩ := encodePayload_writes hvector.type h
    cases payload with
    | talkRelease talker reason =>
      obtain ⟨htalker, hreason⟩ := hdescribes
      refine ⟨talker, hvector.talkerId.symm.trans htalker, talker.isLt, ?_⟩
      have : reasonByte = reason := by simpa using hvector.releaseReason.symm.trans hreason
      rw [this]
      exact hdata.symm
    | _ => simp [Payload.carriers] at hcarried
  · rintro ⟨n, rfl, hn, rfl⟩
    have hlookup := Dict.lookup_of_get hvector.talkerId (by simp)
    have hallowed : inNames (.str "TALK_RELEASE") ["TALK_GRANT", "TALK_DENY", "TALK_RELEASE"] = .ok true :=
      inNames_eq_true.mpr ⟨_, by decide, rfl⟩
    have hread : integer (.int n) ["talkerId"] 0xFFFFFFFF = .ok n := integer_eq_ok.mpr ⟨rfl, by omega⟩
    have hreason : integer (.int reasonByte) ["releaseReason"] 0xFF = .ok reasonByte :=
      integer_eq_ok.mpr ⟨rfl, by omega⟩
    have hpack : structPack [.uint 4 n, .uint 1 reasonByte] = .ok (talkRelease n reasonByte) :=
      structPack_eq_ok.mpr ⟨by simpa using ⟨hn, hbyte⟩, rfl⟩
    simp only [encodePayload, asObject, ok_bind, hvector.codecConfig, hvector.serverConfig, hlookup,
      hvector.type, encodeTalker, hallowed, hread, Json.eq_str, if_true, hvector.releaseReason,
      hreason]
    exact hpack

theorem packTalkRelease_eq_ok (hbyte : reasonByte < 256) :
    packTalkRelease talkerId reasonByte = .ok data ↔
      ∃ n : ℕ, index? talkerId = some (n : ℤ) ∧ n < 256 ^ 4 ∧ data = talkRelease n reasonByte := by
  unfold packTalkRelease
  split
  · next n hindex =>
    rw [hindex, structPack_eq_ok]
    simp only [List.forall_mem_cons, Field.fits_uint, Option.some.injEq]
    constructor
    · rintro ⟨⟨hn, -⟩, rfl⟩
      exact ⟨n, rfl, hn, rfl⟩
    · rintro ⟨m, hm, hlt, rfl⟩
      cases hm
      exact ⟨⟨hlt, by simpa using hbyte⟩, rfl⟩
  · next hnone =>
    refine iff_of_false fails_ne_ok ?_
    rintro ⟨n, hindex, -⟩
    exact hnone n hindex

/-- The lifecycle suite takes every 32-bit talker but zero, and `True` for one. -/
theorem talkReleasePayloadOf_eq_ok (hreason : (name, reasonByte) ∈ releaseReasons) :
    talkReleasePayloadOf talkerId (.str name) = .ok data ↔
      ∃ n : ℕ, (talkerId = .int n ∧ n ≠ 0 ∨ talkerId = .bool true ∧ n = 1) ∧ n < 256 ^ 4 ∧
        data = talkRelease n reasonByte := by
  obtain ⟨hknown, htable, hbyte⟩ := registered hreason
  simp only [talkReleasePayloadOf, hknown, ok_bind, bind_eq_ok, require_eq_ok, htable, true_and,
    exists_const, packTalkRelease_eq_ok hbyte, ← exists_and_left]
  refine exists_congr fun n => ?_
  rw [← and_assoc]
  refine and_congr_left fun _ => ?_
  -- The two guards together: what is not zero, and has an index.
  have hfalse : (Json.bool false).eq (.int 0) = true := by decide
  have htrue : (Json.bool true).eq (.int 0) = false := by decide
  match talkerId with
  | .int m => simp [index?]; grind
  | .bool true => simp [index?, htrue]; omega
  | .bool false => simp [hfalse]
  | .null | .float _ | .str _ | .arr _ | .obj _ => simp [index?]

/-- The two encoders of TALK_RELEASE agree unless the talker is zero or `True`. -/
theorem agree_talkRelease (hreason : (name, reasonByte) ∈ releaseReasons)
    (hvector : TalkReleaseVector vector talkerId reasonByte) :
    Agree 5 (encodePayload (.obj vector)) (talkReleasePayloadOf talkerId (.str name)) ↔
      talkerId ≠ .int 0 ∧ talkerId ≠ .bool true := by
  obtain ⟨-, -, hbyte⟩ := registered hreason
  simp only [agree_iff, encodePayload_talkRelease hvector hbyte, talkReleasePayloadOf_eq_ok hreason]
  constructor
  · rintro ⟨hsame, -⟩
    constructor
    · rintro rfl
      obtain ⟨n, (⟨hn, hne⟩ | ⟨⟨⟩, -⟩), -⟩ := (hsame _).mp ⟨0, rfl, by decide, rfl⟩
      exact hne (by simpa using hn.symm)
    · rintro rfl
      obtain ⟨n, ⟨⟩, -⟩ := (hsame _).mpr ⟨1, .inr ⟨rfl, rfl⟩, by decide, rfl⟩
  · rintro ⟨hzero, htrue⟩
    refine ⟨fun data => exists_congr fun n => ?_, ?_⟩
    · constructor
      · rintro ⟨rfl, hn, hdata⟩
        refine ⟨.inl ⟨rfl, ?_⟩, hn, hdata⟩
        rintro rfl
        exact hzero rfl
      · rintro ⟨⟨htalker, -⟩ | ⟨hbool, -⟩, hn, hdata⟩
        · exact ⟨htalker, hn, hdata⟩
        · exact absurd hbool htrue
    · rintro data ⟨n, -, -, rfl⟩
      exact length_talkRelease n reasonByte

/-- As the fixtures call it, with a talker that `_integer` has read, only zero is left. -/
theorem agree_talkRelease_integer (hreason : (name, reasonByte) ∈ releaseReasons)
    (hvector : TalkReleaseVector vector talkerId reasonByte) :
    Agree 5 (encodePayload (.obj vector))
      (integer talkerId label 0xFFFFFFFF >>= fun n => talkReleasePayload n (.str name)) ↔
      talkerId ≠ .int 0 := by
  by_cases hint : ∃ n : ℕ, talkerId = .int n ∧ n ≤ 0xFFFFFFFF
  · obtain ⟨n, rfl, hn⟩ := hint
    rw [integer_eq_ok.mpr ⟨rfl, hn⟩, ok_bind, ← talkReleasePayloadOf_int,
      agree_talkRelease hreason hvector]
    exact and_iff_left nofun
  · -- Anything else both refuse.
    obtain ⟨-, -, hbyte⟩ := registered hreason
    refine iff_of_true (agree_iff.mpr ?_) ?_
    · simp only [encodePayload_talkRelease hvector hbyte, bind_eq_ok, integer_eq_ok]
      refine ⟨fun data => iff_of_false ?_ ?_, ?_⟩
      · rintro ⟨n, hn, hlt, -⟩
        exact hint ⟨n, hn, by omega⟩
      · rintro ⟨n, hn, -⟩
        exact hint ⟨n, hn⟩
      · rintro data ⟨n, -, -, rfl⟩
        exact length_talkRelease n reasonByte
    · rintro rfl
      exact hint ⟨0, rfl, by decide⟩

end TalkRelease

/-! ### SERVER_CONFIG -/

/-- The error about the two intervals. -/
def invalidPair : Msg := ["membership serverConfig has an invalid lease/keepalive pair"]

/-- `server_payload` in `_validate_membership`. -/
def membershipServerPayload (config : Dict) : Check Bytes := do
  let lease ← integer (Dict.get config "membershipLeaseSeconds")
    ["serverConfig membershipLeaseSeconds"] 0xFFFF
  let keepalive ← integer (Dict.get config "keepaliveIntervalSeconds")
    ["serverConfig keepaliveIntervalSeconds"] 0xFFFF
  reportIf (¬validMembershipPair lease keepalive) invalidPair
  let multiTalk ← asBool (Dict.get config "multiTalkEnabled")
    ["serverConfig multiTalkEnabled must be boolean"]
  let maximumTalk ← integer (Dict.get config "maximumTalkSeconds")
    ["serverConfig maximumTalkSeconds"] 0xFFFF
  let maximumTalkers ← integer (Dict.get config "maximumActiveTalkers")
    ["serverConfig maximumActiveTalkers"] 0xFF
  structPack [.uint 2 maximumTalk, .uint 1 multiTalk.toNat, .uint 1 maximumTalkers,
    .uint 2 lease, .uint 2 keepalive]

/-- The packing is the first part of the check of `serverConfig`. -/
theorem membershipServerConfig_eq (document : Dict) : membershipServerConfig document = (do
    let config ← asObject (Dict.get document "serverConfig")
      ["membership serverConfig must be an object"]
    let payload ← membershipServerPayload config
    let given ← hexBytes (Dict.get config "payloadHex") ["serverConfig payloadHex"]
    compareBytes ["membership SERVER_CONFIG payload"] payload given) := by
  simp only [membershipServerConfig, membershipServerPayload, invalidPair, bind_assoc]

/-- The fields of a SERVER_CONFIG are there and in range. -/
structure ServerFields (config : Dict) (talk active lease keepalive : ℕ) (multi : Bool) : Prop where
  talkSeconds : Dict.get config "maximumTalkSeconds" = .int talk ∧ talk ≤ 0xFFFF
  activeTalkers : Dict.get config "maximumActiveTalkers" = .int active ∧ active ≤ 0xFF
  leaseSeconds : Dict.get config "membershipLeaseSeconds" = .int lease ∧ lease ≤ 0xFFFF
  keepaliveSeconds : Dict.get config "keepaliveIntervalSeconds" = .int keepalive ∧ keepalive ≤ 0xFFFF
  multiTalk : Dict.get config "multiTalkEnabled" = .bool multi

/-- The eight bytes. -/
def serverConfig (talk active lease keepalive : ℕ) (multi : Bool) : Bytes :=
  [Field.uint 2 talk, .uint 1 multi.toNat, .uint 1 active, .uint 2 lease,
    .uint 2 keepalive].flatMap Field.encode

section ServerConfig
variable {config : Dict} {data : Bytes} {talk active lease keepalive : ℕ} {multi : Bool}

theorem length_serverConfig : (serverConfig talk active lease keepalive multi).length = 8 := by
  rw [serverConfig, length_flatMap_encode]; rfl

/-- Fields in range are packed. -/
theorem structPack_serverFields (h : ServerFields config talk active lease keepalive multi) :
    structPack [.uint 2 talk, .uint 1 multi.toNat, .uint 1 active, .uint 2 lease, .uint 2 keepalive]
      = .ok (serverConfig talk active lease keepalive multi) := by
  have htalk := h.talkSeconds.2
  have hactive := h.activeTalkers.2
  have hlease := h.leaseSeconds.2
  have hkeepalive := h.keepaliveSeconds.2
  have hmulti := boolToNat_lt multi
  refine structPack_eq_ok.mpr ⟨?_, rfl⟩
  simp only [List.forall_mem_cons, Field.fits_uint, List.not_mem_nil, false_imp_iff, implies_true,
    and_true]
  omega

theorem encodeServerConfig_eq_ok : encodeServerConfig (.obj config) = .ok data ↔
    ∃ talk active lease keepalive multi, ServerFields config talk active lease keepalive multi ∧
      data = serverConfig talk active lease keepalive multi := by
  simp only [encodeServerConfig, asObject, ok_bind, bind_eq_ok, asBool_eq_ok, integer_eq_ok]
  constructor
  · rintro ⟨multi, hmulti, talk, htalk, active, hactive, lease, hlease, keepalive, hkeepalive, hpack⟩
    have hfields : ServerFields config talk active lease keepalive multi :=
      ⟨htalk, hactive, hlease, hkeepalive, hmulti⟩
    rw [structPack_serverFields hfields, Except.ok.injEq] at hpack
    exact ⟨talk, active, lease, keepalive, multi, hfields, hpack.symm⟩
  · rintro ⟨talk, active, lease, keepalive, multi, h, rfl⟩
    exact ⟨multi, h.multiTalk, talk, h.talkSeconds, active, h.activeTalkers, lease, h.leaseSeconds,
      keepalive, h.keepaliveSeconds, structPack_serverFields h⟩

theorem returns_membershipServerPayload : Returns (membershipServerPayload config) data ↔
    ∃ talk active lease keepalive multi, ServerFields config talk active lease keepalive multi ∧
      data = serverConfig talk active lease keepalive multi := by
  simp only [membershipServerPayload, Run.liftM_eq, returns_bind, returns_lift, integer_eq_ok,
    asBool_eq_ok, returns_reportIf, true_and, exists_const]
  constructor
  · rintro ⟨lease, hlease, keepalive, hkeepalive, multi, hmulti, talk, htalk, active, hactive, hpack⟩
    have hfields : ServerFields config talk active lease keepalive multi :=
      ⟨htalk, hactive, hlease, hkeepalive, hmulti⟩
    rw [structPack_serverFields hfields, Except.ok.injEq] at hpack
    exact ⟨talk, active, lease, keepalive, multi, hfields, hpack.symm⟩
  · rintro ⟨talk, active, lease, keepalive, multi, h, rfl⟩
    exact ⟨lease, h.leaseSeconds, keepalive, h.keepaliveSeconds, multi, h.multiTalk, talk,
      h.talkSeconds, active, h.activeTalkers, structPack_serverFields h⟩

/-- The packing reports at most the pair of intervals. -/
theorem eq_invalidPair_of_reports {entry : Msg} (h : Reports (membershipServerPayload config) entry) :
    entry = invalidPair := by
  simp only [membershipServerPayload, Run.liftM_eq, reports_bind, not_reports_lift, false_or,
    or_false, reports_reportIf, and_false, exists_false] at h
  obtain ⟨_, -, _, -, -, rfl⟩ := h
  rfl

/-- Both sides write the same eight bytes, or both refuse; on one side the pair of intervals may be
    reported. -/
structure ServerAgree (config : Dict) : Prop where
  outcome :
    (∃ data, encodeServerConfig (.obj config) = .ok data ∧
      Returns (membershipServerPayload config) data ∧ data.length = 8) ∨
    ((∃ exc, encodeServerConfig (.obj config) = .error exc) ∧
      ∃ exc log, membershipServerPayload config = .raised exc log)
  reported : ∀ entry, Reports (membershipServerPayload config) entry → entry = invalidPair

theorem serverAgree (config : Dict) : ServerAgree config := by
  refine ⟨?_, fun _ => eq_invalidPair_of_reports⟩
  cases hencode : encodeServerConfig (.obj config) with
  | ok data =>
    have hfields := encodeServerConfig_eq_ok.mp hencode
    refine .inl ⟨data, rfl, returns_membershipServerPayload.mpr hfields, ?_⟩
    obtain ⟨_, _, _, _, _, -, rfl⟩ := hfields
    exact length_serverConfig
  | error exc =>
    refine .inr ⟨⟨exc, rfl⟩, ?_⟩
    cases hrun : membershipServerPayload config with
    | raised exc log => exact ⟨exc, log, rfl⟩
    | returned data log =>
      have hok := encodeServerConfig_eq_ok.mpr (returns_membershipServerPayload.mp ⟨log, hrun⟩)
      cases hencode.symm.trans hok

end ServerConfig

/-- AGREE: the encoders agree exactly when the talker is neither zero nor `True`, called as the
    fixtures do exactly when it is not zero; those of SERVER_CONFIG always. -/
theorem controlPayloads_agree (vector : Dict) (talkerId : Json) (name : String) (reasonByte : ℕ)
    (hreason : (name, reasonByte) ∈ releaseReasons) (hvector : TalkReleaseVector vector talkerId reasonByte)
    (config : Dict) :
    (Agree 5 (encodePayload (.obj vector)) (talkReleasePayloadOf talkerId (.str name)) ∧
        ServerAgree config ↔ talkerId ≠ .int 0 ∧ talkerId ≠ .bool true) ∧
      (∀ label, Agree 5 (encodePayload (.obj vector))
          (integer talkerId label 0xFFFFFFFF >>= fun n => talkReleasePayload n (.str name)) ∧
        ServerAgree config ↔ talkerId ≠ .int 0) ∧
      ServerAgree config := by
  have hserver := serverAgree config
  refine ⟨?_, fun label => ?_, hserver⟩
  · rw [and_iff_left hserver]
    exact agree_talkRelease hreason hvector
  · rw [and_iff_left hserver]
    exact agree_talkRelease_integer hreason hvector

/-- A TALK_RELEASE vector for SERVER_TALK_TIMEOUT. -/
def timeoutVector (talkerId : Json) : Dict :=
  [("fields", .obj [("type", .str "TALK_RELEASE")]), ("talkerId", talkerId), ("releaseReason", .int 1)]

/-- Talker 1001, and a server configuration without fields, which both sides refuse. -/
theorem controlPayloads_agree_1001 :
    Agree 5 (encodePayload (.obj (timeoutVector (.int 1001))))
      (talkReleasePayloadOf (.int 1001) (.str "SERVER_TALK_TIMEOUT")) ∧ ServerAgree [] :=
  (controlPayloads_agree (timeoutVector (.int 1001)) (.int 1001) "SERVER_TALK_TIMEOUT" 1 (by decide)
    ⟨rfl, rfl, rfl, rfl, rfl⟩ []).1.mpr ⟨by simp, nofun⟩

/-- For talker 0 one side writes five bytes and the other refuses. -/
theorem controlPayloads_disagree_zero :
    encodePayload (.obj (timeoutVector (.int 0))) = .ok [0, 0, 0, 0, 1] ∧
      talkReleasePayloadOf (.int 0) (.str "SERVER_TALK_TIMEOUT")
        = invalid ["TALK_RELEASE talker_id must be non-zero"] ∧
      ¬Agree 5 (encodePayload (.obj (timeoutVector (.int 0))))
        (talkReleasePayloadOf (.int 0) (.str "SERVER_TALK_TIMEOUT")) := by
  have hencode : encodePayload (.obj (timeoutVector (.int 0))) = .ok [0, 0, 0, 0, 1] := by rfl
  have hrefuse : talkReleasePayloadOf (.int 0) (.str "SERVER_TALK_TIMEOUT")
      = invalid ["TALK_RELEASE talker_id must be non-zero"] := by rfl
  refine ⟨hencode, hrefuse, ?_⟩
  rw [hencode, hrefuse]
  rintro (⟨_, -, hright, -⟩ | ⟨⟨_, hleft⟩, -⟩)
  · cases hright
  · cases hleft

end IncomUdon.Lifecycle
