import IncomUdon.Lifecycle.FloorPackets
import IncomUdon.Lifecycle.FloorPreemption

/-! The document of Floor Interrupt, as a whole. Its packets are authenticated, its cases decide on a
    request, and its receivers drop what is left of the preempted talk:

        request ──authorized, above the least talker──▶ preempt_sender_<least>
                ──otherwise─────────────────────────▶ deny

    EXACT: what a document states when it is accepted. RECEIVED: a packet that declares the length of
    its header is split where the fixture splits it. MONOTONE: the order of the talkers decides
    nothing, and whom a request preempts, a request of higher priority preempts too. -/

namespace IncomUdon.Lifecycle
open IncomUdon.Python IncomUdon.Loader IncomUdon.Lib.ErrorLog IncomUdon.Lib.BigEndian

/-! ### Packets -/

/-- RECEIVED: a receiver splits the datagram where the fixture does, if the header declares its own
    length and the digest is long enough. -/
theorem StatesPacket.split_datagram {lib : Library} {key domain payload : Bytes} {fixture : Dict}
    {h : FloorHeader} (hpacket : StatesPacket lib key domain fixture h payload)
    (hdigest : ∀ key data, (lib.hmacSha256 key data).length = 32)
    (hdeclared : h.headerLen = 20 + h.nonce.length) :
    splitControl (h.bytes ++ payload ++ floorTag lib key domain h.bytes payload)
      = ⟨h.bytes, payload, floorTag lib key domain h.bytes payload⟩ := by
  obtain ⟨fields, auth, -, -, hstates, -, -⟩ := hpacket.headerTexts
  refine splitControl_append ?_ ?_
  · rw [List.append_assoc, FloorHeader.read_headerLen (by have := hstates.headerLen.2; omega),
      FloorHeader.length_bytes, hdeclared]
  · rw [floorTag, List.length_take, hdigest]
    rfl

/-! ### Authorization -/

/-- The decision on a request, from the talkers as a set. -/
inductive Decides (request : FloorRequest) (talkers : List Talker) : Option ℕ → Prop
  | preempts (victim : Talker) (least : IsLeast {talker | talker ∈ talkers} victim)
    (authorized : request.Authorized) (above : victim.priority < request.priority) :
    Decides request talkers (some victim.senderId)
  | denies (refused : request.Authorized → ∀ talker ∈ talkers, request.priority ≤ talker.priority) :
    Decides request talkers none

/-- The case has this request. The permission is looked at only behind the two requirements. -/
structure StatesRequest (case : Dict) (request : FloorRequest) : Prop where
  identity : Dict.get case "identity_admission_mode" = request.identityAdmissionMode
  control : Dict.get case "control_auth_required" = request.controlAuthRequired
  perm : request.identityAdmissionMode = .str "required" → request.controlAuthRequired = .bool true →
    Dict.get case "requester_perm" = .int request.perm
  priority : Dict.get case "requester_priority" = .int request.priority

/-- The value is this talker. -/
def IsTalker (value : Json) (talker : Talker) : Prop :=
  ∃ d, value = .obj d ∧ (Dict.get d "priority" = .int talker.priority ∧ talker.priority ≤ 0xFF) ∧
    Dict.get d "sender_id" = .int talker.senderId ∧ talker.senderId ≤ 0xFFFFFFFF

/-- The case states this decision on this request to these talkers. -/
structure StatesAuthorization (case : Dict) (request : FloorRequest) (talkers : List Talker)
    (decision : Option ℕ) : Prop where
  asks : StatesRequest case request
  talks : ∃ active, Dict.get case "active_talkers" = .arr active ∧ active ≠ [] ∧
    List.Forall₂ IsTalker active talkers
  decides : Decides request talkers decision
  result : Dict.get case "result" = .str (preemptedText decision)

section Authorization
variable {case : Dict} {value : Json} {name : Msg} {request : FloorRequest} {talker : Talker}
  {talkers talkers' : List Talker} {decision : Option ℕ} {permitted : Bool} {priority : ℕ}

theorem decides_iff (hne : talkers ≠ []) :
    Decides request talkers decision ↔ decision = floorDecision request talkers := by
  obtain ⟨first, others, rfl⟩ := List.exists_cons_of_ne_nil hne
  have hleast := isLeast_selectVictim first others
  rw [floorDecision, preempted]
  constructor
  · intro h
    cases h with
    | preempts victim hvictim hauthorized habove =>
      obtain rfl := hvictim.unique hleast
      rw [if_pos ⟨FloorRequest.permitted_iff.mpr hauthorized, habove⟩]
    | denies hrefused =>
      rw [if_neg]
      rintro ⟨hpermitted, habove⟩
      have := hrefused (FloorRequest.permitted_iff.mp hpermitted) _ hleast.1
      omega
  · rintro rfl
    split
    · next hpreempt =>
      exact .preempts _ hleast (FloorRequest.permitted_iff.mp hpreempt.1) hpreempt.2
    · next hdeny =>
      refine .denies fun hauthorized talker htalker => ?_
      have hle := Talker.priority_le (hleast.2 htalker)
      by_contra habove
      exact hdeny ⟨FloorRequest.permitted_iff.mpr hauthorized, by omega⟩

theorem talkerKey_eq_ok : talkerKey name value = .ok talker ↔ IsTalker value talker := by
  simp only [talkerKey, IsTalker, bind_eq_ok, pure, Except.pure, getAttr_eq_ok, integer_eq_ok,
    Except.ok.injEq]
  constructor
  · rintro ⟨_, ⟨d, rfl, rfl⟩, priority, hpriority, _, ⟨_, ⟨⟩, rfl⟩, senderId, hsender, rfl⟩
    exact ⟨d, rfl, hpriority, hsender⟩
  · rintro ⟨d, rfl, hpriority, hsender⟩
    exact ⟨_, ⟨d, rfl, rfl⟩, talker.priority, hpriority, _, ⟨d, rfl, rfl⟩, talker.senderId,
      hsender, rfl⟩

/-- What is read of a request is read of it alone. -/
theorem requestPermitted_of_states (h : StatesRequest case request) :
    requestPermitted case name = .ok request.permitted := by
  by_cases hboth : request.identityAdmissionMode = .str "required" ∧
      request.controlAuthRequired = .bool true
  · exact requestPermitted_eq ⟨h.identity, h.control, h.perm hboth.1 hboth.2, h.priority⟩
  · have hrefused : request.permitted = false := by
      rw [Bool.eq_false_iff, ne_eq, FloorRequest.permitted_iff]
      exact fun hauthorized => hboth ⟨hauthorized.identity, hauthorized.control⟩
    rw [hrefused]
    unfold requestPermitted
    rw [h.identity, h.control]
    by_cases hidentity : request.identityAdmissionMode.eq (.str "required") = true
    · have hcontrol : request.controlAuthRequired ≠ .bool true :=
        fun hcontrol => hboth ⟨Json.eq_str.mp hidentity, hcontrol⟩
      split
      · contradiction
      · split
        · next heq => exact absurd heq hcontrol
        · rfl
    · rw [if_pos hidentity]
      rfl

/-- What is read without an exception is a request. -/
theorem exists_states (hpermitted : requestPermitted case name = .ok permitted)
    (hpriority : Dict.get case "requester_priority" = .int priority) (hle : priority ≤ 0xFF) :
    ∃ request, StatesRequest case request := by
  by_cases hboth : Dict.get case "identity_admission_mode" = .str "required" ∧
      Dict.get case "control_auth_required" = .bool true
  · obtain ⟨permission, hpermission, hpermLe, -⟩ :=
      requestPermitted_isOk.mp ⟨permitted, hpermitted⟩ hboth.1 hboth.2
    exact ⟨⟨_, _, permission, priority, 0, hpermLe, hle⟩,
      ⟨rfl, rfl, fun _ _ => hpermission, hpriority⟩⟩
  · -- the permission is not read here, so any will do
    exact ⟨⟨_, _, 0, priority, 0, by decide, hle⟩,
      ⟨rfl, rfl, fun hidentity hcontrol => absurd ⟨hidentity, hcontrol⟩ hboth, hpriority⟩⟩

/-- FIXTURE: a case that describes a request and talkers is accepted exactly when its result names the
    decision. -/
theorem clean_authorizationCase_of_states {active : List Json} (h : StatesRequest case request)
    (hactive : Dict.get case "active_talkers" = .arr active) (hne : active ≠ [])
    (htalkers : List.Forall₂ IsTalker active talkers) :
    Clean (authorizationCase (.obj case)) () ↔
      Dict.get case "result" = .str (preemptedText (floorDecision request talkers)) := by
  have hmapped : active.mapM (talkerKey (nameLabel case ["Floor Interrupt authorization case"]))
      = .ok talkers := mapM_eq_ok.mpr (htalkers.imp fun _ _ => talkerKey_eq_ok.mpr)
  obtain ⟨first, others, rfl⟩ : ∃ first others, talkers = first :: others :=
    List.exists_cons_of_length_pos (htalkers.length_eq ▸ List.length_pos_iff.mpr hne)
  simp [-Bool.exists_bool, authorizationCase, requestPermitted_of_states h, hactive, hne, hmapped,
    minTalker, h.priority, request.priority_le, floorDecision]

/-- EXACT: an authorization case is accepted exactly when it states the decision on a request. -/
theorem clean_authorizationCase_iff : Clean (authorizationCase value) () ↔
    ∃ case request talkers decision, value = .obj case ∧
      StatesAuthorization case request talkers decision := by
  have hdecides : ∀ {active : List Json} {request : FloorRequest} {talkers : List Talker},
      active ≠ [] → List.Forall₂ IsTalker active talkers → ∀ decision,
      Decides request talkers decision ↔ decision = floorDecision request talkers := by
    intro active request talkers hne htalkers decision
    refine decides_iff fun hnil => hne ?_
    rw [← List.length_eq_zero_iff, htalkers.length_eq, hnil, List.length_nil]
  constructor
  · intro hclean
    have hread := hclean
    simp only [authorizationCase, Run.liftM_eq, clean_bind, clean_lift, asObject_eq_ok,
      asArray_eq_ok, require_eq_ok, mapM_eq_ok, talkerKey_eq_ok, integer_eq_ok, exists_unit] at hread
    obtain ⟨case, rfl, permitted, hpermitted, active, hactive, hne, talkers, htalkers, -, -, priority,
      ⟨hpriority, hle⟩, -⟩ := hread
    obtain ⟨request, hrequest⟩ := exists_states hpermitted hpriority hle
    exact ⟨case, request, talkers, _, rfl, hrequest, ⟨active, hactive, hne, htalkers⟩,
      (hdecides hne htalkers _).mpr rfl,
      (clean_authorizationCase_of_states hrequest hactive hne htalkers).mp hclean⟩
  · rintro ⟨case, request, talkers, decision, rfl, hrequest, ⟨active, hactive, hne, htalkers⟩,
      hdecision, hresult⟩
    rw [clean_authorizationCase_of_states hrequest hactive hne htalkers, hresult,
      (hdecides hne htalkers _).mp hdecision]

/-- MONOTONE: a talker that a request preempts is preempted by every authorized request of no lower
    priority, in whatever order the talkers are listed. -/
theorem Decides.mono {request' : FloorRequest} {victim : ℕ} (hperm : talkers'.Perm talkers)
    (h : Decides request talkers (some victim)) (h' : Decides request' talkers' decision)
    (hauthorized : request'.Authorized) (hle : request.priority ≤ request'.priority) :
    decision = some victim := by
  obtain ⟨talker, hleast, -, hbelow⟩ := h
  have hset : {talker | talker ∈ talkers'} = {talker | talker ∈ talkers} :=
    Set.ext fun talker => hperm.mem_iff
  cases h' with
  | preempts talker' hleast' =>
    rw [hset] at hleast'
    rw [hleast'.unique hleast]
  | denies hrefused =>
    have := hrefused hauthorized talker (hperm.mem_iff.mpr hleast.1)
    omega

end Authorization

/-! ### Receivers -/

/-- What a receiver does, and does not, with the media of a preempted talk. -/
def preemptedFlags : List (String × Bool) :=
  [("drain_queued_media", false), ("discard_unrendered_media", true),
    ("discard_pending_fec_blocks", true), ("discard_recovered_not_rendered_media", true),
    ("suppress_end_of_talk_cue", true), ("delay_replacement_talker", false)]

/-- The case states these, and a fade of at most 20 ms. -/
structure StatesReceiver (case expected : Dict) : Prop where
  expected_eq : Dict.get case "expected" = .obj expected
  reason : Dict.get case "release_reason" = .str "PREEMPTED"
  flags : ∀ flag ∈ preemptedFlags, (Dict.get expected flag.1).eq (.bool flag.2) = true
  fade : ∃ fade : ℕ, Dict.get expected "fade_out_max_ms" = .int fade ∧ fade ≤ 20

/-- EXACT: a receiver case is accepted exactly when it states what a receiver does. -/
theorem clean_receiverReleaseCase {value : Json} : Clean (receiverReleaseCase value) () ↔
    ∃ case expected, value = .obj case ∧ StatesReceiver case expected := by
  simp only [receiverReleaseCase, Run.liftM_eq, clean_bind, clean_lift, asObject_eq_ok,
    clean_compare, clean_reportIf, integer_eq_ok, Json.eq_str, exists_unit, not_lt, gt_iff_lt]
  constructor
  · rintro ⟨case, rfl, expected, hexpected, hreason, hdrain, hmedia, hfec, hrecovered, hcue, hdelay,
      fade, ⟨hfade, -⟩, hle⟩
    refine ⟨case, expected, rfl, hexpected, hreason, ?_, fade, hfade, hle⟩
    simp only [preemptedFlags, List.forall_mem_cons, List.not_mem_nil, false_imp_iff, implies_true,
      and_true]
    exact ⟨hdrain, hmedia, hfec, hrecovered, hcue, hdelay⟩
  · rintro ⟨case, expected, rfl, hexpected, hreason, hflags, fade, hfade, hle⟩
    simp only [preemptedFlags, List.forall_mem_cons, List.not_mem_nil, false_imp_iff, implies_true,
      and_true] at hflags
    obtain ⟨hdrain, hmedia, hfec, hrecovered, hcue, hdelay⟩ := hflags
    exact ⟨case, rfl, expected, hexpected, hreason, hdrain, hmedia, hfec, hrecovered, hcue, hdelay,
      fade, ⟨hfade, by omega⟩, hle⟩

/-! ### The document -/

/-- What an accepted document states. -/
structure StatesFloorInterrupt (lib : Library) (document : Dict) : Prop where
  packets : ∃ control key domain packets, Dict.get document "control_auth" = .obj control ∧
    IsHex (Dict.get control "control_key_hex") key ∧ IsHex (Dict.get control "domain_hex") domain ∧
    Dict.get document "packets" = .arr packets ∧ ∀ value ∈ packets, ∃ fixture h payload,
      value = .obj fixture ∧ StatesPacket lib key domain fixture h payload
  authorization : ∃ cases, Dict.get document "authorization_cases" = .arr cases ∧
    ∀ value ∈ cases, ∃ case request talkers decision, value = .obj case ∧
      StatesAuthorization case request talkers decision
  receivers : ∃ cases, Dict.get document "receiver_release_cases" = .arr cases ∧
    ∀ value ∈ cases, ∃ case expected, value = .obj case ∧ StatesReceiver case expected

/-- EXACT: the validator accepts exactly a stored document that states all of this. -/
theorem clean_validateFloorInterrupt {lib : Library} {root : Root} :
    Clean (validateFloorInterrupt lib root) () ↔
      ∃ document, root floorInterruptPath = .json (.obj document) ∧
        StatesFloorInterrupt lib document := by
  simp only [validateFloorInterrupt, Run.liftM_eq, clean_bind, clean_lift, load_eq_ok,
    asObject_eq_ok, asArray_eq_ok, hexBytes_eq_ok, clean_forM, clean_floorPacket,
    clean_authorizationCase_iff, clean_receiverReleaseCase, exists_unit]
  constructor
  · rintro ⟨document, hdocument, control, hcontrol, packets, hpackets, key, hkey, domain, hdomain,
      hstates, authorization, hauthorization, hdecides, receivers, hreceivers, hreleases⟩
    exact ⟨document, hdocument,
      ⟨control, key, domain, packets, hcontrol, hkey, hdomain, hpackets, hstates⟩,
      ⟨authorization, hauthorization, hdecides⟩, receivers, hreceivers, hreleases⟩
  · rintro ⟨document, hdocument,
      ⟨control, key, domain, packets, hcontrol, hkey, hdomain, hpackets, hstates⟩,
      ⟨authorization, hauthorization, hdecides⟩, receivers, hreceivers, hreleases⟩
    exact ⟨document, hdocument, control, hcontrol, packets, hpackets, key, hkey, domain, hdomain,
      hstates, authorization, hauthorization, hdecides, receivers, hreceivers, hreleases⟩

/-- FLOOR INTERRUPT: the validator accepts exactly the documents that state all of this. A receiver
    splits each stated datagram into the header, the payload and the tag, if the header declares its
    own length. A talker that some stated request preempts is preempted in every case with the same
    talkers and an authorized request of no lower priority. -/
theorem floorInterrupt_exact (lib : Library) (root : Root) :
    (Clean (validateFloorInterrupt lib root) () ↔
      ∃ document, root floorInterruptPath = .json (.obj document) ∧
        StatesFloorInterrupt lib document) ∧
    ((∀ key data, (lib.hmacSha256 key data).length = 32) → ∀ key domain fixture h payload,
      StatesPacket lib key domain fixture h payload → h.headerLen = 20 + h.nonce.length →
      ∃ datagram, IsHex (Dict.get fixture "datagramHex") datagram ∧
        splitControl datagram = ⟨h.bytes, payload, floorTag lib key domain h.bytes payload⟩) ∧
    ∀ case case' request request' talkers talkers' victim decision,
      StatesAuthorization case request talkers (some victim) →
      StatesAuthorization case' request' talkers' decision → talkers'.Perm talkers →
      request'.Authorized → request.priority ≤ request'.priority →
      Dict.get case' "result" = Dict.get case "result" := by
  refine ⟨clean_validateFloorInterrupt, fun hdigest key domain fixture h payload hpacket hdeclared =>
    ⟨_, hpacket.datagramText, hpacket.split_datagram hdigest hdeclared⟩, ?_⟩
  intro case case' request request' talkers talkers' victim decision hcase hcase' hperm
    hauthorized hle
  rw [hcase'.result, hcase.result, hcase.decides.mono hperm hcase'.decides hauthorized hle]

/-! ### The request of the suite -/

/-- The header of the interrupt request of the suite. -/
def requestHeader : FloorHeader := ⟨1, 26, 28, 111, 1002, 45, 2, [18, 52, 86, 120, 0, 0, 0, 4], 1⟩

/-- The fixture of the request states it. -/
theorem statesPacket_requestFixture :
    StatesPacket (digestLibrary requestDigest) suiteControlKey suiteControlDomain requestFixture
      requestHeader [1] where
  headerTexts := ⟨_, _, rfl, rfl,
    { version := ⟨rfl, by decide⟩
      headerLen := ⟨rfl, by decide⟩
      flags := ⟨rfl, by decide⟩
      nonce := ⟨_, rfl, by decide +kernel⟩
      keyId := ⟨rfl, by decide⟩
      packetType := ⟨_, rfl, rfl⟩
      channelId := ⟨rfl, by decide⟩
      senderId := ⟨rfl, by decide⟩
      seq := ⟨rfl, by decide⟩ },
    ⟨_, rfl, by decide +kernel⟩, ⟨_, rfl, by decide +kernel⟩⟩
  payloadText := ⟨_, rfl, by decide +kernel⟩
  datagramText := ⟨_, rfl, by decide +kernel⟩

/-- A permitted request of this priority to these talkers, which preempts the victim. -/
def interruptCase (priority : ℕ) (talkers : List Talker) (victim : ℕ) : Dict :=
  [("identity_admission_mode", .str "required"), ("control_auth_required", .bool true),
    ("requester_perm", .int 7), ("requester_priority", .int priority),
    ("active_talkers", .arr (talkers.map fun talker => .obj [("priority", .int talker.priority),
      ("sender_id", .int talker.senderId)])),
    ("result", .str (preemptedText (some victim)))]

/-- It is accepted, if the decision is to preempt the victim. -/
theorem states_interruptCase (request : FloorRequest) (talkers : List Talker) {victim : ℕ}
    (hrequest : request.identityAdmissionMode = .str "required" ∧
      request.controlAuthRequired = .bool true ∧ request.perm = 7) (hne : talkers ≠ [])
    (htalkers : ∀ talker ∈ talkers, talker.priority ≤ 0xFF ∧ talker.senderId ≤ 0xFFFFFFFF)
    (hdecision : some victim = floorDecision request talkers) :
    StatesAuthorization (interruptCase request.priority talkers victim) request talkers
      (some victim) := by
  obtain ⟨hidentity, hcontrol, hperm⟩ := hrequest
  refine ⟨⟨hidentity.symm, hcontrol.symm, fun _ _ => ?_, rfl⟩, ⟨_, rfl, by simpa using hne, ?_⟩,
    (decides_iff hne).mpr hdecision, rfl⟩
  · rw [hperm]
    rfl
  · rw [List.forall₂_map_left_iff]
    exact List.forall₂_same.mpr fun talker htalker =>
      ⟨_, rfl, ⟨rfl, (htalkers talker htalker).1⟩, rfl, (htalkers talker htalker).2⟩

/-- A request for the floor, and the next one with a higher priority. -/
def firstRequest : FloorRequest := ⟨.str "required", .bool true, 7, 150, 1002, by decide, by decide⟩
def higherRequest : FloorRequest := ⟨.str "required", .bool true, 7, 200, 1002, by decide, by decide⟩

/-- A receiver splits the request of the suite, and the higher priority changes nothing. -/
theorem floorInterrupt_exact_request :
    (∃ datagram, IsHex (Dict.get requestFixture "datagramHex") datagram ∧
      splitControl datagram = ⟨requestHeader.bytes, [1], floorTag (digestLibrary requestDigest)
        suiteControlKey suiteControlDomain requestHeader.bytes [1]⟩) ∧
    Dict.get (interruptCase 200 [⟨100, 2002⟩, ⟨50, 2001⟩] 2001) "result" =
      Dict.get (interruptCase 150 [⟨50, 2001⟩, ⟨100, 2002⟩] 2001) "result" := by
  obtain ⟨-, hsplit, hresult⟩ := floorInterrupt_exact (digestLibrary requestDigest)
    (fun _ => .unreadable "absent")
  constructor
  · have hlength : requestDigest.length = 32 := by decide +kernel
    exact hsplit (fun _ _ => hlength) _ _ _ _ _ statesPacket_requestFixture rfl
  · have hfirst : StatesAuthorization (interruptCase 150 [⟨50, 2001⟩, ⟨100, 2002⟩] 2001) firstRequest
        [⟨50, 2001⟩, ⟨100, 2002⟩] (some 2001) :=
      states_interruptCase firstRequest _ ⟨rfl, rfl, rfl⟩ (by decide) (by decide) (by decide)
    have hhigher : StatesAuthorization (interruptCase 200 [⟨100, 2002⟩, ⟨50, 2001⟩] 2001)
        higherRequest [⟨100, 2002⟩, ⟨50, 2001⟩] (some 2001) :=
      states_interruptCase higherRequest _ ⟨rfl, rfl, rfl⟩ (by decide) (by decide) (by decide)
    exact hresult _ _ _ _ _ _ _ _ hfirst hhigher (List.Perm.swap _ _ _)
      ⟨rfl, rfl, rfl, rfl, by decide⟩ (by decide)

end IncomUdon.Lifecycle
