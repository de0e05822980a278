import IncomUdon.Lifecycle.Common

/-! Floor Interrupt: authenticated request and release packets, and who may interrupt whom. On a full
    channel the victim is the talker of lowest priority, then of lowest sender ID:

        required identity, control authentication, both permission bits, a priority
          ∧ requester priority > victim priority      preempt_sender_<victim>
        otherwise                                     deny

    HANDLED: what the validator's handler does not catch, and when it comes to that. -/

namespace IncomUdon.Lifecycle
open IncomUdon.Python IncomUdon.Loader IncomUdon.Lib.ErrorLog

/-- The vector file. -/
def floorInterruptPath : String := "test-vectors/floor-interrupt-v1.json"

/-! ### Packets -/

/-- `packet_types`. -/
def floorPacketTypes : List (String × ℕ) := [("PTT_REQUEST", 0x1A), ("TALK_RELEASE", 0x08)]

/-- The header that the tag covers: the fixed fields, the nonce and the key ID. -/
def floorPacketHeader (fields auth : Dict) (name : Msg) : Py Bytes := do
  let version ← integer (Dict.get fields "version") (name.add [" version"]) 0xFF
  let packetType ← tableGet floorPacketTypes (Dict.get fields "type")
  let headerLen ← integer (Dict.get fields "headerLen") (name.add [" headerLen"]) 0xFFFF
  let channelId ← integer (Dict.get fields "channelId") (name.add [" channelId"]) 0xFFFFFFFF
  let senderId ← integer (Dict.get fields "senderId") (name.add [" senderId"]) 0xFFFFFFFF
  let seq ← integer (Dict.get fields "seq") (name.add [" seq"]) 0xFFFF
  let flags ← integer (Dict.get fields "flags") (name.add [" flags"]) 0xFFFF
  let fixed ← structPack [.uint 1 version, .uint 1 packetType, .uint 2 headerLen,
    .uint 4 channelId, .uint 4 senderId, .uint 2 seq, .uint 2 flags]
  let nonce ← hexBytes (Dict.get auth "nonceHex") (name.add [" nonce"])
  let keyId ← integer (Dict.get auth "controlKeyId") (name.add [" control key ID"]) 0xFFFFFFFF
  let keyIdField ← structPack [.uint 4 keyId]
  return fixed ++ nonce ++ keyIdField

/-- One `packets` fixture. -/
def floorPacket (lib : Library) (key domain : Bytes) (fixture : Json) : Check Unit := do
  let fixture ← asObject fixture ["Floor Interrupt packet fixture must be an object"]
  let name := nameLabel fixture ["Floor Interrupt packet"]
  let malformed := name.add [" is malformed"]
  let fields ← asObject (Dict.get fixture "fields") malformed
  let auth ← asObject (Dict.get fixture "controlAuth") malformed
  let header ← floorPacketHeader fields auth name
  let givenHeader ← hexBytes (Dict.get auth "authenticatedHeaderHex")
    (name.add [" authenticatedHeaderHex"])
  compareBytes (name.add [" authenticated header"]) header givenHeader
  let payload ← hexBytes (Dict.get fixture "payloadHex") (name.add [" payloadHex"])
  let tag := (lib.hmacSha256 key (domain ++ header ++ payload)).take 16
  let givenTag ← hexBytes (Dict.get auth "tagHex") (name.add [" tagHex"])
  compareBytes (name.add [" HMAC tag"]) tag givenTag
  let givenDatagram ← hexBytes (Dict.get fixture "datagramHex") (name.add [" datagramHex"])
  compareBytes (name.add [" datagram"]) (header ++ payload ++ tag) givenDatagram

/-! ### Authorization -/

/-- An active talker. -/
structure Talker where
  priority : ℕ
  senderId : ℕ
  deriving DecidableEq

/-- The talker is a better victim: its key is the smaller tuple. -/
def Talker.Before (a b : Talker) : Prop :=
  a.priority < b.priority ∨ a.priority = b.priority ∧ a.senderId < b.senderId

instance (a b : Talker) : Decidable (a.Before b) := inferInstanceAs (Decidable (_ ∨ _))

/-- The first of the smallest. -/
def selectVictim (first : Talker) (others : List Talker) : Talker :=
  others.foldl (fun victim talker => if talker.Before victim then talker else victim) first

/-- `min` of the talkers. -/
def minTalker : List Talker → Py Talker
  | [] => fails .valueError
  | first :: others => .ok (selectVictim first others)

/-- The key of a talker. -/
def talkerKey (name : Msg) (talker : Json) : Py Talker := do
  let priority ← getAttr talker "priority"
  let priority ← integer priority (name.add [" active priority"]) 0xFF
  let senderId ← getAttr talker "sender_id"
  let senderId ← integer senderId (name.add [" active sender"]) 0xFFFFFFFF
  return ⟨priority, senderId⟩

/-- `permitted`: a later condition is looked at only when the earlier ones hold. -/
def requestPermitted (case : Dict) (name : Msg) : Py Bool := do
  if ¬(Dict.get case "identity_admission_mode").eq (.str "required") then return false
  match Dict.get case "control_auth_required" with
  | .bool true =>
    let permission ← integer (Dict.get case "requester_perm") (name.add [" permission"]) 0xFF
    if permission &&& 0x06 ≠ 0x06 then return false
    let priority ← integer (Dict.get case "requester_priority") (name.add [" priority"]) 0xFF
    return 0 < priority
  | _ => return false

/-- `actual`: the sender that is preempted, if any. -/
def preempted (permitted : Bool) (requesterPriority : ℕ) (victim : Talker) : Option ℕ :=
  if permitted ∧ requesterPriority > victim.priority then some victim.senderId else none

/-- The decision as the fixtures name it. -/
def preemptedText : Option ℕ → String
  | some senderId => "preempt_sender_" ++ toString senderId
  | none => "deny"

/-- One `authorization_cases` fixture. -/
def authorizationCase (case : Json) : Check Unit := do
  let case ← asObject case ["Floor Interrupt authorization case must be an object"]
  let name := nameLabel case ["Floor Interrupt authorization case"]
  let permitted ← requestPermitted case name
  let noTalkers := name.add [" must have active talkers"]
  let active ← asArray (Dict.get case "active_talkers") noTalkers
  require (active ≠ []) noTalkers
  let talkers ← (active.mapM (talkerKey name) : Py (List Talker))
  let victim ← minTalker talkers
  let requesterPriority ← integer (Dict.get case "requester_priority") (name.add [" priority"]) 0xFF
  compare (name.add [" result"])
    (.str (preemptedText (preempted permitted requesterPriority victim))) (Dict.get case "result")

/-! ### Receivers -/

/-- One `receiver_release_cases` fixture. -/
def receiverReleaseCase (case : Json) : Check Unit := do
  let malformed : Msg := ["Floor Interrupt receiver release case is malformed"]
  let case ← asObject case malformed
  let expected ← asObject (Dict.get case "expected") malformed
  let name := nameLabel case ["Floor Interrupt receiver release"]
  compare (name.add [" reason"]) (Dict.get case "release_reason") (.str "PREEMPTED")
  compare (name.add [" drain"]) (Dict.get expected "drain_queued_media") (.bool false)
  compare (name.add [" discard media"]) (Dict.get expected "discard_unrendered_media") (.bool true)
  compare (name.add [" discard FEC"]) (Dict.get expected "discard_pending_fec_blocks") (.bool true)
  compare (name.add [" discard recovered"])
    (Dict.get expected "discard_recovered_not_rendered_media") (.bool true)
  compare (name.add [" suppress cue"]) (Dict.get expected "suppress_end_of_talk_cue") (.bool true)
  compare (name.add [" replacement delay"]) (Dict.get expected "delay_replacement_talker")
    (.bool false)
  let fade ← integer (Dict.get expected "fade_out_max_ms") (name.add [" fade_out_max_ms"]) 0xFFFF
  reportIf (fade > 20) (name.add [": PREEMPTED fade exceeds 20 ms"])

/-- `_validate_floor_interrupt`. -/
def validateFloorInterrupt (lib : Library) (root : Root) : Check Unit := do
  let document ← load root floorInterruptPath
  let missing : Msg := ["Floor Interrupt control_auth and packets are required"]
  let control ← asObject (Dict.get document "control_auth") missing
  let packets ← asArray (Dict.get document "packets") missing
  let key ← hexBytes (Dict.get control "control_key_hex") ["Floor Interrupt control key"]
  let domain ← hexBytes (Dict.get control "domain_hex") ["Floor Interrupt control domain"]
  forM packets (floorPacket lib key domain)
  let authorization ← asArray (Dict.get document "authorization_cases")
    ["Floor Interrupt authorization_cases must be an array"]
  forM authorization authorizationCase
  let receiverCases ← asArray (Dict.get document "receiver_release_cases")
    ["Floor Interrupt receiver_release_cases must be an array"]
  forM receiverCases receiverReleaseCase

/-! ### What is read without an exception -/

/-- The fields of a header fit. -/
structure HeaderReadable (fields auth : Dict) : Prop where
  version : Natural 0xFF (Dict.get fields "version")
  packetType : ∃ name ∈ floorPacketTypes.map Prod.fst, Dict.get fields "type" = .str name
  headerLen : Natural 0xFFFF (Dict.get fields "headerLen")
  channelId : Natural 0xFFFFFFFF (Dict.get fields "channelId")
  senderId : Natural 0xFFFFFFFF (Dict.get fields "senderId")
  seq : Natural 0xFFFF (Dict.get fields "seq")
  flags : Natural 0xFFFF (Dict.get fields "flags")
  nonce : HexText (Dict.get auth "nonceHex")
  keyId : Natural 0xFFFFFFFF (Dict.get auth "controlKeyId")

/-- The members of a packet fixture are there. -/
def FloorPacketReadable (fixture : Json) : Prop :=
  ∃ d, fixture = .obj d ∧ ∃ fields, Dict.get d "fields" = .obj fields ∧
    ∃ auth, Dict.get d "controlAuth" = .obj auth ∧ HeaderReadable fields auth ∧
      HexText (Dict.get auth "authenticatedHeaderHex") ∧ HexText (Dict.get d "payloadHex") ∧
      HexText (Dict.get auth "tagHex") ∧ HexText (Dict.get d "datagramHex")

/-- A talker with its two numbers. -/
def TalkerReadable (talker : Json) : Prop :=
  ∃ d, talker = .obj d ∧ Natural 0xFF (Dict.get d "priority") ∧
    Natural 0xFFFFFFFF (Dict.get d "sender_id")

/-- The numbers of a request that are looked at. -/
def PermissionReadable (case : Dict) : Prop :=
  Dict.get case "identity_admission_mode" = .str "required" →
  Dict.get case "control_auth_required" = .bool true →
  ∃ permission : ℕ, Dict.get case "requester_perm" = .int permission ∧ permission ≤ 0xFF ∧
    (permission &&& 0x06 = 0x06 → Natural 0xFF (Dict.get case "requester_priority"))

/-- The members of an authorization case are there. -/
def AuthorizationReadable (case : Json) : Prop :=
  ∃ d, case = .obj d ∧ PermissionReadable d ∧ ∃ active, Dict.get d "active_talkers" = .arr active ∧
    active ≠ [] ∧ (∀ talker ∈ active, TalkerReadable talker) ∧
    Natural 0xFF (Dict.get d "requester_priority")

/-- No talker but an object is looked at. -/
def AuthorizationHandled (case : Json) : Prop :=
  ∀ d, case = .obj d → PermissionReadable d →
    ∀ active, Dict.get d "active_talkers" = .arr active →
      EachReached TalkerReadable IsObject active

/-- The authorization cases that are looked at are handled. -/
def FloorInterruptHandled (document : Dict) : Prop :=
  ∀ control, Dict.get document "control_auth" = .obj control →
  ∀ packets, Dict.get document "packets" = .arr packets →
  HexText (Dict.get control "control_key_hex") → HexText (Dict.get control "domain_hex") →
  (∀ fixture ∈ packets, FloorPacketReadable fixture) →
  ∀ authorization, Dict.get document "authorization_cases" = .arr authorization →
  EachReached AuthorizationReadable AuthorizationHandled authorization

section Packets
variable {fields auth case : Dict} {value : Json} {name : Msg} {lib : Library} {key domain : Bytes}

/-- A known packet type has a byte. -/
theorem lookup_floorPacketTypes {type : String} (h : type ∈ floorPacketTypes.map Prod.fst) :
    ∃ byte, floorPacketTypes.lookup type = some byte ∧ byte < 256 := by
  simp only [floorPacketTypes, List.map_cons, List.map_nil, List.mem_cons, List.not_mem_nil,
    or_false] at h
  rcases h with rfl | rfl
  · exact ⟨0x1A, rfl, by decide⟩
  · exact ⟨0x08, rfl, by decide⟩

theorem floorPacketHeader_isOk :
    (∃ header, floorPacketHeader fields auth name = .ok header) ↔ HeaderReadable fields auth := by
  simp [floorPacketHeader, bind_eq_ok, pure, Except.pure]
  constructor
  · rintro ⟨version, hversion, byte, ⟨type, htype, hbyte⟩, headerLen, hheaderLen, channelId,
      hchannelId, senderId, hsenderId, seq, hseq, flags, hflags, -, hnonce, keyId, hkeyId, -⟩
    exact ⟨⟨version, hversion⟩, ⟨type, List.mem_map_of_mem (mem_of_lookup hbyte), htype⟩,
      ⟨headerLen, hheaderLen⟩, ⟨channelId, hchannelId⟩, ⟨senderId, hsenderId⟩, ⟨seq, hseq⟩,
      ⟨flags, hflags⟩, hnonce, ⟨keyId, hkeyId⟩⟩
  · rintro ⟨⟨version, hversion⟩, ⟨type, hmem, htype⟩, ⟨headerLen, hheaderLen⟩,
      ⟨channelId, hchannelId⟩, ⟨senderId, hsenderId⟩, ⟨seq, hseq⟩, ⟨flags, hflags⟩, hnonce,
      ⟨keyId, hkeyId⟩⟩
    obtain ⟨byte, hbyte, hfits⟩ := lookup_floorPacketTypes hmem
    refine ⟨version, hversion, byte, ⟨type, htype, hbyte⟩, headerLen, hheaderLen, channelId,
      hchannelId, senderId, hsenderId, seq, hseq, flags, hflags, ?_, hnonce, keyId, hkeyId,
      ?_⟩ <;> omega

theorem returns_floorPacket :
    Returns (floorPacket lib key domain value) () ↔ FloorPacketReadable value := by
  simp [floorPacket, FloorPacketReadable, floorPacketHeader_isOk, HexText]

theorem floorPacket_caught : RaisesOnly Caught (floorPacket lib key domain value) := by
  simp [floorPacket, floorPacketHeader]

end Packets

section Authorization
variable {case : Dict} {value : Json} {name : Msg} {E : PyExc → Prop} {active : List Json}

theorem requestPermitted_isOk :
    (∃ permitted, requestPermitted case name = .ok permitted) ↔ PermissionReadable case := by
  unfold requestPermitted PermissionReadable
  by_cases hmode : (Dict.get case "identity_admission_mode").eq (.str "required") = true
  · rw [Json.eq_str] at hmode
    cases Dict.get case "control_auth_required" with
    | bool required =>
      cases required with
      | false => simp [hmode, pure, Except.pure]
      | true =>
        simp [-Bool.exists_bool, hmode, bind_eq_ok, pure, Except.pure]
        constructor
        · rintro ⟨permitted, permission, ⟨hpermission, hle⟩, hrest⟩
          refine ⟨permission, hpermission, hle, fun hbits => ?_⟩
          rw [if_pos hbits] at hrest
          obtain ⟨priority, hpriority, -⟩ := bind_eq_ok.mp hrest
          exact ⟨priority, integer_eq_ok.mp hpriority⟩
        · rintro ⟨permission, hpermission, hle, hpriority⟩
          by_cases hbits : permission &&& 6 = 6
          · obtain ⟨priority, hp⟩ := hpriority hbits
            exact ⟨decide (0 < priority), permission, ⟨hpermission, hle⟩, by
              rw [if_pos hbits, integer_eq_ok.mpr hp]; rfl⟩
          · exact ⟨false, permission, ⟨hpermission, hle⟩, if_neg hbits⟩
    | _ => simp [hmode, pure, Except.pure]
  · rw [Json.eq_str] at hmode
    simp [hmode, pure, Except.pure]

theorem requestPermitted_caught : ThrowsOnly Caught (requestPermitted case name) := by
  unfold requestPermitted
  cases Dict.get case "control_auth_required" with
  | bool required => cases required <;> simp
  | _ => simp

theorem talkerKey_isOk : (∃ talker, talkerKey name value = .ok talker) ↔ TalkerReadable value := by
  simp only [talkerKey, TalkerReadable, bind_eq_ok, pure, Except.pure, Natural, getAttr_eq_ok,
    integer_eq_ok]
  constructor
  · rintro ⟨_, _, ⟨d, rfl, rfl⟩, priority, hpriority, _, ⟨_, ⟨⟩, rfl⟩, senderId, hsender, -⟩
    exact ⟨d, rfl, ⟨priority, hpriority⟩, senderId, hsender⟩
  · rintro ⟨d, rfl, ⟨priority, hpriority⟩, senderId, hsender⟩
    exact ⟨_, _, ⟨d, rfl, rfl⟩, priority, hpriority, _, ⟨d, rfl, rfl⟩, senderId, hsender, rfl⟩

theorem throwsOnly_talkerKey : ThrowsOnly Caught (talkerKey name value) ↔ IsObject value := by
  cases value <;> simp [talkerKey, IsObject]

theorem talkers_isOk :
    (∃ talkers, active.mapM (talkerKey name) = .ok talkers) ↔
      ∀ talker ∈ active, TalkerReadable talker := by
  rw [mapM_isOk]
  exact forall₂_congr fun _ _ => talkerKey_isOk

theorem throwsOnly_talkers :
    ThrowsOnly Caught (active.mapM (talkerKey name)) ↔ EachReached TalkerReadable IsObject active :=
  throwsOnly_mapM_iff.trans (eachReached_congr (fun _ => talkerKey_isOk) fun _ => throwsOnly_talkerKey)

theorem minTalker_isOk {talkers : List Talker} :
    (∃ victim, minTalker talkers = .ok victim) ↔ talkers ≠ [] := by
  cases talkers <;> simp [minTalker]

theorem returns_authorizationCase :
    Returns (authorizationCase value) () ↔ AuthorizationReadable value := by
  simp only [authorizationCase, AuthorizationReadable, Run.liftM_eq, returns_bind, returns_lift,
    returns_compare, asObject_eq_ok, asArray_eq_ok, require_eq_ok, integer_eq_ok,
    requestPermitted_isOk, minTalker_isOk, exists_and_right, exists_const, and_true]
  refine exists_congr fun d => and_congr_right fun _ => and_congr_right fun _ =>
    exists_congr fun active => and_congr_right fun _ => and_congr_right fun hne => ?_
  rw [← talkers_isOk]
  constructor
  · rintro ⟨talkers, htalkers, -, hpriority⟩
    exact ⟨⟨talkers, htalkers⟩, hpriority⟩
  · rintro ⟨⟨talkers, htalkers⟩, hpriority⟩
    refine ⟨talkers, htalkers, ?_, hpriority⟩
    rintro rfl
    exact hne (List.length_eq_zero_iff.mp (mapM_eq_ok.mp htalkers).length_eq)

theorem raisesOnly_authorizationCase :
    RaisesOnly Caught (authorizationCase value) ↔ AuthorizationHandled value := by
  have hmin : ∀ talkers, ThrowsOnly Caught (minTalker talkers) := fun talkers => by
    cases talkers <;> simp [minTalker]
  simp only [authorizationCase, AuthorizationHandled, Run.liftM_eq, raisesOnly_bind, raisesOnly_lift,
    raisesOnly_compare, returns_lift, throwsOnly_asObject, asObject_eq_ok, throwsOnly_asArray,
    asArray_eq_ok, throwsOnly_require, require_eq_ok, requestPermitted_caught, throwsOnly_talkers,
    throwsOnly_integer_caught, hmin, caught_vectorValidation, or_true, implies_true, and_true,
    true_and, forall_const]
  refine forall₂_congr fun d _ => ?_
  rw [← requestPermitted_isOk]
  constructor
  · rintro h ⟨permitted, hpermitted⟩ active hactive
    cases active with
    | nil => trivial
    | cons talker talkers => exact h permitted hpermitted _ hactive (List.cons_ne_nil _ _)
  · exact fun h permitted hpermitted active hactive _ => h ⟨permitted, hpermitted⟩ active hactive

end Authorization

theorem receiverReleaseCase_caught {value : Json} :
    RaisesOnly Caught (receiverReleaseCase value) := by
  simp [receiverReleaseCase]

/-- HANDLED: `_validate_floor_interrupt` raises only what is caught exactly when the authorization
    cases that it looks at are handled. -/
theorem raisesOnly_validateFloorInterrupt {lib : Library} {root : Root} :
    RaisesOnly Caught (validateFloorInterrupt lib root) ↔
      ∀ document, root floorInterruptPath = .json (.obj document) →
        FloorInterruptHandled document := by
  have hpackets : ∀ key domain packets, RaisesOnly Caught (forM packets (floorPacket lib key domain)) :=
    fun _ _ _ => raisesOnly_forM fun _ _ => floorPacket_caught
  have hread : ∀ key domain packets, Returns (forM packets (floorPacket lib key domain)) () ↔
      ∀ fixture ∈ packets, FloorPacketReadable fixture := fun _ _ _ =>
    returns_forM.trans (forall₂_congr fun _ _ => returns_floorPacket)
  have hauthorization : ∀ cases, RaisesOnly Caught (forM cases authorizationCase) ↔
      EachReached AuthorizationReadable AuthorizationHandled cases := fun _ =>
    raisesOnly_forM_iff.trans
      (eachReached_congr (fun _ => returns_authorizationCase) fun _ => raisesOnly_authorizationCase)
  have hreceivers : ∀ cases : List Json, RaisesOnly Caught (forM cases receiverReleaseCase) :=
    fun _ => raisesOnly_forM fun _ _ => receiverReleaseCase_caught
  simp [validateFloorInterrupt, FloorInterruptHandled, hpackets, hread, hauthorization, hreceivers,
    HexText]

end IncomUdon.Lifecycle
