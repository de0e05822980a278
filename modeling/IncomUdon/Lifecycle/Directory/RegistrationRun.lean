import IncomUdon.Lib.Lease
import IncomUdon.Lifecycle.Directory.ExpiredRegistration

/-! The registration of one instance over a run of packets. A register takes it over, with the
    endpoint that it comes from; a heartbeat renews it, when it comes from that endpoint and in time:

        none ──register e──▶ e until t + TTL ──heartbeat of e before that──▶ e until t' + TTL
                             │        ▲   └───heartbeat of another endpoint, or late──▶ the same
                             └────────┘ register e'

    REFINES: a case is accepted exactly when it shows what this step does. RUN: only the last
    register and the heartbeats of its endpoint count. ALIVE: at the interval that an accepted
    document states, a registration outlives every isolated loss, whatever else arrives. -/

namespace IncomUdon.Lifecycle
open IncomUdon.Python IncomUdon.Loader IncomUdon.Lib.ErrorLog IncomUdon.Lib.Lease

/-- A registration. -/
@[ext] structure Registration where
  endpoint : String
  expiresAt : ℤ

/-- A packet of the instance, from an endpoint, at the time it is accepted. -/
inductive RegistrationPacket where
  | register (endpoint : String) (acceptedAt : ℤ)
  | heartbeat (endpoint : String) (acceptedAt : ℤ)

/-- The registration after a packet. -/
def registrationStep (ttl : ℤ) (state : Option Registration) :
    RegistrationPacket → Option Registration
  | .register endpoint acceptedAt => some ⟨endpoint, acceptedAt + ttl⟩
  | .heartbeat endpoint acceptedAt => state.map fun r =>
    if acceptedAt < r.expiresAt ∧ endpoint = r.endpoint then ⟨endpoint, acceptedAt + ttl⟩ else r

/-- The registration after a run of packets. -/
def registrationRun (ttl : ℤ) (packets : List RegistrationPacket) : Option Registration :=
  packets.foldl (registrationStep ttl) none

/-! ### The cases of the document -/

/-- What the expected value of a case tells: a drop, or a record with its state and expiry, and with
    its endpoint and its slots where these are compared. -/
inductive RegistrationOutcome where
  | dropped (action : String)
  | recorded (state : String) (endpoint : Option String) (expiresAt : ℤ) (slots : Option Json)

/-- The outcome of a packet; `slots` are those that the record before it counts. -/
def registrationOutcome (ttl : ℤ) (slots : Json) :
    Option Registration → RegistrationPacket → RegistrationOutcome
  | none, .heartbeat .. => .dropped "silent_drop_no_registration_created_no_error"
  | none, .register _ acceptedAt => .recorded "registered" none (acceptedAt + ttl) (some (.int 1))
  | some r, .heartbeat endpoint acceptedAt =>
    if r.expiresAt ≤ acceptedAt then .dropped "silent_drop_expired_no_registration_created_no_error"
    else if endpoint = r.endpoint then .recorded "registered" none (acceptedAt + ttl) none
    else .recorded "unchanged" (some r.endpoint) r.expiresAt none
  | some _, .register endpoint acceptedAt =>
    .recorded "replaced" (some endpoint) (acceptedAt + ttl) (some slots)

/-- The expected value tells this outcome. -/
def RegistrationOutcome.ShownBy (expected : Json) : RegistrationOutcome → Prop
  | .dropped action => expected = .str action
  | .recorded state endpoint expiresAt slots => ∃ record, expected = .obj record ∧
      RecordState record state expiresAt ∧
      (∀ e ∈ endpoint, Dict.get record "sourceEndpoint" = .str e) ∧
      ∀ n ∈ slots, Dict.has record "activeRegistrations" = true →
        (Dict.get record "activeRegistrations").eq n = true

/-- The outcome leaves this registration where `state` was before. -/
def RegistrationOutcome.Leaves (state after : Option Registration) : RegistrationOutcome → Prop
  | .dropped _ => after = state
  | .recorded _ endpoint expiresAt _ => ∃ r, after = some r ∧ r.expiresAt = expiresAt ∧
      ∀ e ∈ endpoint, e = r.endpoint

/-- A case is about this packet and the registration before it, by the members that its branch reads:
    the times that are read are integers, and the endpoints strings. -/
inductive DescribesPacket (initial : Json) (input : Dict) (slots : Json) :
    Option Registration → RegistrationPacket → Prop
  /-- A heartbeat and no record; nothing else is read. -/
  | unknown {endpoint : String} {acceptedAt : ℤ} (hpacket : packetType input = .str "heartbeat")
      (hinitial : initial = .null) :
      DescribesPacket initial input slots none (.heartbeat endpoint acceptedAt)
  /-- A heartbeat after the expiry; the endpoints are not read. -/
  | late {record : Dict} {r : Registration} {endpoint : String} {acceptedAt : ℤ}
      (hpacket : packetType input = .str "heartbeat") (hinitial : initial = .obj record)
      (haccepted : Dict.getD input "acceptedAtRelayMonotonicMs" (.int 0) = .int acceptedAt)
      (hexpires :
        Dict.getD record "registrationExpiresAtRelayMonotonicMs" (.int 0) = .int r.expiresAt)
      (hlate : r.expiresAt ≤ acceptedAt) :
      DescribesPacket initial input slots (some r) (.heartbeat endpoint acceptedAt)
  /-- A heartbeat in time, from the endpoint of the record. -/
  | renewing {record : Dict} {r : Registration} {acceptedAt : ℤ}
      (hpacket : packetType input = .str "heartbeat") (hinitial : initial = .obj record)
      (haccepted : Dict.get input "acceptedAtRelayMonotonicMs" = .int acceptedAt)
      (hexpires :
        Dict.getD record "registrationExpiresAtRelayMonotonicMs" (.int 0) = .int r.expiresAt)
      (htime : acceptedAt < r.expiresAt)
      (hsource : Dict.get input "sourceEndpoint" = .str r.endpoint)
      (hendpoint : Dict.get record "sourceEndpoint" = .str r.endpoint) :
      DescribesPacket initial input slots (some r) (.heartbeat r.endpoint acceptedAt)
  /-- A heartbeat in time, from another endpoint. -/
  | foreign {record : Dict} {r : Registration} {endpoint : String} {acceptedAt : ℤ}
      (hpacket : packetType input = .str "heartbeat") (hinitial : initial = .obj record)
      (haccepted : Dict.getD input "acceptedAtRelayMonotonicMs" (.int 0) = .int acceptedAt)
      (hexpires : Dict.get record "registrationExpiresAtRelayMonotonicMs" = .int r.expiresAt)
      (htime : acceptedAt < r.expiresAt)
      (hsource : Dict.get input "sourceEndpoint" = .str endpoint)
      (hendpoint : Dict.get record "sourceEndpoint" = .str r.endpoint)
      (hne : endpoint ≠ r.endpoint) :
      DescribesPacket initial input slots (some r) (.heartbeat endpoint acceptedAt)
  /-- A register and no record; the endpoint is not read. -/
  | creating {endpoint : String} {acceptedAt : ℤ} (hpacket : packetType input = .str "register")
      (hinitial : ∀ record, initial ≠ .obj record)
      (haccepted : Dict.get input "acceptedAtRelayMonotonicMs" = .int acceptedAt) :
      DescribesPacket initial input slots none (.register endpoint acceptedAt)
  /-- A register and a record, of which only the slots are read. -/
  | replacing {record : Dict} {r : Registration} {endpoint : String} {acceptedAt : ℤ}
      (hpacket : packetType input = .str "register") (hinitial : initial = .obj record)
      (haccepted : Dict.get input "acceptedAtRelayMonotonicMs" = .int acceptedAt)
      (hsource : Dict.get input "sourceEndpoint" = .str endpoint)
      (hslots : Dict.get record "activeRegistrations" = slots) :
      DescribesPacket initial input slots (some r) (.register endpoint acceptedAt)

/-- The times that are read are integers, and the endpoints that are read strings. -/
structure PlainPacket (initial : Json) (input : Dict) : Prop where
  heartbeat : packetType input = .str "heartbeat" → ∀ record, initial = .obj record →
    ∃ acceptedAt expiresAt : ℤ,
      Dict.getD input "acceptedAtRelayMonotonicMs" (.int 0) = .int acceptedAt ∧
      Dict.getD record "registrationExpiresAtRelayMonotonicMs" (.int 0) = .int expiresAt ∧
      (acceptedAt < expiresAt → ∃ source endpoint,
        Dict.get input "sourceEndpoint" = .str source ∧
        Dict.get record "sourceEndpoint" = .str endpoint ∧
        (source = endpoint → Dict.get input "acceptedAtRelayMonotonicMs" = .int acceptedAt) ∧
        (source ≠ endpoint →
          Dict.get record "registrationExpiresAtRelayMonotonicMs" = .int expiresAt))
  register : packetType input = .str "register" →
    (∃ acceptedAt : ℤ, Dict.get input "acceptedAtRelayMonotonicMs" = .int acceptedAt) ∧
    ∀ record, initial = .obj record → ∃ source, Dict.get input "sourceEndpoint" = .str source

/-- The lifetime of a registration, in milliseconds. -/
def RegistrationCase.ttl (shared : RegistrationCase) : ℤ := shared.limits.ttlSeconds * 1000

section Cases
variable {shared : RegistrationCase} {state : Option Registration} {packet : RegistrationPacket}
  {slots expected : Json} {input : Dict} {ttl : ℤ}

/-- The outcome is that of the step. -/
theorem registrationOutcome_leaves :
    (registrationOutcome ttl slots state packet).Leaves state (registrationStep ttl state packet) := by
  rcases state with _ | r
  · cases packet with
    | register => exact ⟨_, rfl, rfl, by simp⟩
    | heartbeat => rfl
  · cases packet with
    | register => exact ⟨_, rfl, rfl, by simp⟩
    | heartbeat endpoint acceptedAt =>
      rw [registrationOutcome, registrationStep, Option.map_some]
      by_cases hexpired : r.expiresAt ≤ acceptedAt
      · rw [if_pos hexpired, if_neg fun h => absurd h.1 (not_lt.mpr hexpired)]
        rfl
      · rw [if_neg hexpired]
        by_cases hendpoint : endpoint = r.endpoint
        · rw [if_pos hendpoint, if_pos ⟨not_le.mp hexpired, hendpoint⟩]
          exact ⟨_, rfl, rfl, by simp⟩
        · rw [if_neg hendpoint, if_neg fun h => hendpoint h.2]
          exact ⟨_, rfl, rfl, by simp⟩

/-- A heartbeat before the expiry of its record is left to the endpoints. -/
theorem clean_packetCase_inTime {record : Dict} {acceptedAt expiresAt : ℤ}
    (hinput : shared.input = .obj input) (hpacket : packetType input = .str "heartbeat")
    (hinitial : shared.initial = .obj record)
    (haccepted : Dict.getD input "acceptedAtRelayMonotonicMs" (.int 0) = .int acceptedAt)
    (hexpires : Dict.getD record "registrationExpiresAtRelayMonotonicMs" (.int 0) = .int expiresAt)
    (htime : acceptedAt < expiresAt) :
    Clean (packetCase (shared.expecting expected)) () ↔
      Clean (renewalCase (shared.expecting expected) input record) () := by
  rw [clean_packetCase_heartbeat hinput hpacket]
  simp [heartbeatCase, RegistrationCase.expecting, hinitial, heartbeatExpired_eq haccepted hexpires,
    htime]

/-- From the endpoint of the record it must expect the renewal. -/
theorem clean_renewalCase_same {record : Dict} {endpoint : String} {acceptedAt : ℤ}
    (haccepted : Dict.get input "acceptedAtRelayMonotonicMs" = .int acceptedAt)
    (hsource : Dict.get input "sourceEndpoint" = .str endpoint)
    (hendpoint : Dict.get record "sourceEndpoint" = .str endpoint) :
    Clean (renewalCase (shared.expecting expected) input record) () ↔
      (RegistrationOutcome.recorded "registered" none (acceptedAt + shared.ttl) none).ShownBy
        expected := by
  simp [renewalCase, RegistrationCase.expecting, hsource, hendpoint, haccepted, plus,
    RegistrationOutcome.ShownBy, RecordState, RegistrationCase.ttl]

/-- From another endpoint it must expect the record as it is. -/
theorem clean_renewalCase_foreign {record : Dict} {source endpoint : String} {expiresAt : ℤ}
    (hexpires : Dict.get record "registrationExpiresAtRelayMonotonicMs" = .int expiresAt)
    (hsource : Dict.get input "sourceEndpoint" = .str source)
    (hendpoint : Dict.get record "sourceEndpoint" = .str endpoint) (hne : source ≠ endpoint) :
    Clean (renewalCase (shared.expecting expected) input record) () ↔
      (RegistrationOutcome.recorded "unchanged" (some endpoint) expiresAt none).ShownBy
        expected := by
  have hother : (Json.str source).eq (.str endpoint) = false := by simp [Json.eq, hne]
  simp [renewalCase, RegistrationCase.expecting, hsource, hendpoint, hexpires, hother,
    RegistrationOutcome.ShownBy, RecordState]
  refine exists_congr fun record => and_congr_right fun _ => ?_
  rw [and_assoc]
  exact and_congr_right fun _ => and_comm

/-- The creation of a registration is shown as one that takes a slot. -/
theorem describes_created_iff {acceptedAt : ℤ} :
    Describes expected (.created (shared.expiryAfter acceptedAt)) ↔
      (RegistrationOutcome.recorded "registered" none (acceptedAt + shared.ttl)
        (some (.int 1))).ShownBy expected := by
  simp [Describes, TakesSlot, RegistrationOutcome.ShownBy, RegistrationCase.expiryAfter,
    RegistrationCase.ttl]

/-- A register with a record must expect the replacement, and no other slots. -/
theorem clean_registerCase_replacing {record : Dict} {endpoint : String} {acceptedAt : ℤ}
    (hinitial : shared.initial = .obj record)
    (haccepted : Dict.get input "acceptedAtRelayMonotonicMs" = .int acceptedAt)
    (hsource : Dict.get input "sourceEndpoint" = .str endpoint)
    (hslots : Dict.get record "activeRegistrations" = slots) :
    Clean (registerCase (shared.expecting expected) input) () ↔
      (RegistrationOutcome.recorded "replaced" (some endpoint) (acceptedAt + shared.ttl)
        (some slots)).ShownBy expected := by
  simp [registerCase, RegistrationCase.expecting, hinitial, haccepted, hsource, plus, hslots,
    RegistrationOutcome.ShownBy, RecordState, RegistrationCase.ttl]
  refine exists_congr fun record => and_congr_right fun _ => ?_
  cases Dict.has record "activeRegistrations" <;> simp <;> tauto

/-- REFINES: a case about this registration and this packet is accepted exactly when its expected
    value shows the outcome of the step. -/
theorem clean_packetCase_shows (hinput : shared.input = .obj input)
    (h : DescribesPacket shared.initial input slots state packet) :
    Clean (packetCase (shared.expecting expected)) () ↔
      (registrationOutcome shared.ttl slots state packet).ShownBy expected := by
  cases h with
  | unknown hpacket hinitial =>
    rw [clean_packetCase_heartbeat hinput hpacket]
    exact clean_heartbeatCase_null hinitial
  | late hpacket hinitial haccepted hexpires hlate =>
    rw [clean_packetCase_heartbeat hinput hpacket, registrationOutcome, if_pos hlate]
    exact clean_heartbeatCase_late hinitial haccepted hexpires hlate
  | renewing hpacket hinitial haccepted hexpires htime hsource hendpoint =>
    rw [clean_packetCase_inTime hinput hpacket hinitial (Dict.getD_of_get haccepted nofun) hexpires
      htime, registrationOutcome, if_neg (not_le.mpr htime), if_pos rfl]
    exact clean_renewalCase_same haccepted hsource hendpoint
  | foreign hpacket hinitial haccepted hexpires htime hsource hendpoint hne =>
    rw [clean_packetCase_inTime hinput hpacket hinitial haccepted (Dict.getD_of_get hexpires nofun)
      htime, registrationOutcome, if_neg (not_le.mpr htime), if_neg hne]
    exact clean_renewalCase_foreign hexpires hsource hendpoint hne
  | creating hpacket hinitial haccepted =>
    rw [clean_packetCase_register hinput hpacket, clean_registerCase_new hinitial haccepted]
    exact describes_created_iff
  | replacing hpacket hinitial haccepted hsource hslots =>
    rw [clean_packetCase_register hinput hpacket]
    exact clean_registerCase_replacing hinitial haccepted hsource hslots

/-- The packet of an accepted case is a heartbeat or a register. -/
theorem packetType_of_clean (hinput : shared.input = .obj input)
    (hclean : Clean (packetCase shared) ()) :
    packetType input = .str "heartbeat" ∧ Clean (heartbeatCase shared input) () ∨
      packetType input = .str "register" ∧ Clean (registerCase shared input) () := by
  simp only [packetCase, hinput, Run.liftM_eq, clean_bind, clean_lift, asObject_eq_ok,
    Json.obj.injEq, exists_eq_left'] at hclean
  split_ifs at hclean with hheartbeat hregister
  · exact .inl ⟨Json.eq_str.mp hheartbeat, hclean⟩
  · exact .inr ⟨Json.eq_str.mp hregister, hclean⟩
  · simp at hclean

/-- A heartbeat is described when its case is accepted. -/
theorem describes_heartbeat (hplain : PlainPacket shared.initial input)
    (hpacket : packetType input = .str "heartbeat")
    (hclean : Clean (heartbeatCase shared input) ()) :
    ∃ state packet slots, DescribesPacket shared.initial input slots state packet := by
  cases hinitial : shared.initial with
  | null => exact ⟨none, .heartbeat "" 0, .null, .unknown hpacket rfl⟩
  | obj record =>
    obtain ⟨acceptedAt, expiresAt, haccepted, hexpires, hintime⟩ :=
      hplain.heartbeat hpacket record hinitial
    rcases le_or_gt expiresAt acceptedAt with hlate | htime
    · exact ⟨some ⟨"", expiresAt⟩, .heartbeat "" acceptedAt, .null,
        .late hpacket rfl haccepted hexpires hlate⟩
    · obtain ⟨source, endpoint, hsource, hendpoint, hsame, hother⟩ := hintime htime
      by_cases heq : source = endpoint
      · subst heq
        exact ⟨some ⟨source, expiresAt⟩, .heartbeat source acceptedAt, .null,
          .renewing hpacket rfl (hsame rfl) hexpires htime hsource hendpoint⟩
      · exact ⟨some ⟨endpoint, expiresAt⟩, .heartbeat source acceptedAt, .null,
          .foreign hpacket rfl haccepted (hother heq) htime hsource hendpoint heq⟩
  | _ => simp [heartbeatCase, hinitial] at hclean

/-- A register is described. -/
theorem describes_register (hplain : PlainPacket shared.initial input)
    (hpacket : packetType input = .str "register") :
    ∃ state packet slots, DescribesPacket shared.initial input slots state packet := by
  obtain ⟨⟨acceptedAt, haccepted⟩, hrecord⟩ := hplain.register hpacket
  by_cases hinitial : ∃ record, shared.initial = .obj record
  · obtain ⟨record, hinitial⟩ := hinitial
    obtain ⟨source, hsource⟩ := hrecord record hinitial
    exact ⟨some ⟨"", 0⟩, .register source acceptedAt, _,
      .replacing hpacket hinitial haccepted hsource rfl⟩
  · exact ⟨none, .register "" acceptedAt, .null,
      .creating hpacket (not_exists.mp hinitial) haccepted⟩

/-- REFINES: where what is read is plain, a case is accepted exactly when it is about some step and
    shows its outcome. -/
theorem clean_packetCase_iff (hinput : shared.input = .obj input)
    (hplain : PlainPacket shared.initial input) :
    Clean (packetCase shared) () ↔
      ∃ state packet slots, DescribesPacket shared.initial input slots state packet ∧
        (registrationOutcome shared.ttl slots state packet).ShownBy shared.expected := by
  constructor
  · intro hclean
    have hdescribed : ∃ state packet slots,
        DescribesPacket shared.initial input slots state packet := by
      rcases packetType_of_clean hinput hclean with ⟨hpacket, hheartbeat⟩ | ⟨hpacket, -⟩
      · exact describes_heartbeat hplain hpacket hheartbeat
      · exact describes_register hplain hpacket
    obtain ⟨state, packet, slots, h⟩ := hdescribed
    exact ⟨state, packet, slots, h, (clean_packetCase_shows hinput h).mp hclean⟩
  · rintro ⟨state, packet, slots, h, hshown⟩
    exact (clean_packetCase_shows hinput h).mpr hshown

end Cases

/-! ### Runs -/

/-- The packet is a heartbeat. -/
def RegistrationPacket.IsHeartbeat : RegistrationPacket → Prop
  | .heartbeat .. => True
  | .register .. => False

/-- Where a packet comes from. -/
def RegistrationPacket.source : RegistrationPacket → String
  | .heartbeat endpoint _ => endpoint
  | .register endpoint _ => endpoint

/-- When a packet is accepted. -/
def RegistrationPacket.acceptedAt : RegistrationPacket → ℤ
  | .heartbeat _ acceptedAt => acceptedAt
  | .register _ acceptedAt => acceptedAt

/-- The times of the packets from an endpoint. -/
def timesFrom (endpoint : String) (packets : List RegistrationPacket) : List ℤ :=
  (packets.filter fun packet => packet.source = endpoint).map (·.acceptedAt)

/-- The times of the heartbeats of an endpoint. -/
def heartbeatTimes (endpoint : String) (packets : List RegistrationPacket) : List ℤ :=
  packets.filterMap fun packet =>
    match packet with
    | .heartbeat source acceptedAt => if source = endpoint then some acceptedAt else none
    | .register .. => none

/-- The last of these times that renews a registration of time `last`. -/
def renewedAt (ttl : ℤ) (last : ℤ) (times : List ℤ) : ℤ :=
  times.foldl (fun last t => if t < last + ttl then t else last) last

section Runs
variable {ttl last : ℤ} {endpoint : String} {packets : List RegistrationPacket}

/-- STEP: a heartbeat of the endpoint renews in time, and no other does anything. -/
theorem registrationStep_heartbeat {source : String} {acceptedAt : ℤ} :
    registrationStep ttl (some ⟨endpoint, last + ttl⟩) (.heartbeat source acceptedAt) =
      some ⟨endpoint, renewedAt ttl last (heartbeatTimes endpoint [.heartbeat source acceptedAt]) + ttl⟩ := by
  rw [registrationStep, Option.map_some]
  by_cases hsource : source = endpoint
  · by_cases htime : acceptedAt < last + ttl <;> simp [hsource, htime, heartbeatTimes, renewedAt]
  · simp [hsource, heartbeatTimes, renewedAt]

/-- RUN: the registration after heartbeats is renewed by those of its endpoint. -/
theorem foldl_heartbeats (h : ∀ packet ∈ packets, packet.IsHeartbeat) :
    packets.foldl (registrationStep ttl) (some ⟨endpoint, last + ttl⟩) =
      some ⟨endpoint, renewedAt ttl last (heartbeatTimes endpoint packets) + ttl⟩ := by
  induction packets generalizing last with
  | nil => rfl
  | cons packet packets ih =>
    rw [List.forall_mem_cons] at h
    cases packet with
    | register => exact h.1.elim
    | heartbeat source acceptedAt =>
      have htimes : heartbeatTimes endpoint (.heartbeat source acceptedAt :: packets) =
          heartbeatTimes endpoint [.heartbeat source acceptedAt] ++ heartbeatTimes endpoint packets := by
        simp [heartbeatTimes, ← List.filterMap_append]
      rw [List.foldl_cons, registrationStep_heartbeat, ih h.2, htimes]
      simp only [renewedAt, List.foldl_append]

/-- RUN: when only the endpoint itself registers again and its packets come in time, the last
    renews. -/
theorem foldl_of_isChain (honly : ∀ packet ∈ packets, packet.IsHeartbeat ∨ packet.source = endpoint)
    (h : (last :: timesFrom endpoint packets).IsChain fun a b => b < a + ttl) :
    packets.foldl (registrationStep ttl) (some ⟨endpoint, last + ttl⟩) =
      some ⟨endpoint, (timesFrom endpoint packets).getLastD last + ttl⟩ := by
  induction packets generalizing last with
  | nil => rfl
  | cons packet packets ih =>
    rw [List.forall_mem_cons] at honly
    by_cases hsource : packet.source = endpoint
    · have htimes : timesFrom endpoint (packet :: packets) =
          packet.acceptedAt :: timesFrom endpoint packets := by
        simp [timesFrom, hsource]
      rw [htimes] at h ⊢
      obtain ⟨htime, hrest⟩ := List.isChain_cons_cons.mp h
      have hstep : registrationStep ttl (some ⟨endpoint, last + ttl⟩) packet =
          some ⟨endpoint, packet.acceptedAt + ttl⟩ := by
        cases packet with
        | register => exact congrArg some (Registration.ext hsource rfl)
        | heartbeat source acceptedAt =>
          rw [registrationStep, Option.map_some, if_pos ⟨htime, hsource⟩]
          exact congrArg some (Registration.ext hsource rfl)
      rw [List.foldl_cons, hstep, ih honly.2 hrest, List.getLastD_cons]
    · have htimes : timesFrom endpoint (packet :: packets) = timesFrom endpoint packets := by
        simp [timesFrom, hsource]
      rw [htimes] at h ⊢
      have hstep : registrationStep ttl (some ⟨endpoint, last + ttl⟩) packet = some ⟨endpoint, last + ttl⟩ := by
        cases packet with
        | register => exact absurd (honly.1.resolve_left id) hsource
        | heartbeat source acceptedAt =>
          rw [registrationStep, Option.map_some, if_neg fun hboth => hsource hboth.2]
      rw [List.foldl_cons, hstep, ih honly.2 h]

/-- The last register of a run. -/
theorem exists_last_register (packets : List RegistrationPacket) :
    (∀ packet ∈ packets, packet.IsHeartbeat) ∨
      ∃ before endpoint t after, packets = before ++ .register endpoint t :: after ∧
        ∀ packet ∈ after, packet.IsHeartbeat := by
  induction packets with
  | nil => exact .inl (by simp)
  | cons packet packets ih =>
    rcases ih with h | ⟨before, endpoint, t, after, rfl, hafter⟩
    · cases packet with
      | register endpoint t => exact .inr ⟨[], endpoint, t, packets, rfl, h⟩
      | heartbeat => exact .inl (List.forall_mem_cons.mpr ⟨trivial, h⟩)
    · exact .inr ⟨packet :: before, endpoint, t, after, rfl, hafter⟩

theorem registrationRun_heartbeats (h : ∀ packet ∈ packets, packet.IsHeartbeat) :
    registrationRun ttl packets = none := by
  rw [registrationRun]
  induction packets with
  | nil => rfl
  | cons packet packets ih =>
    rw [List.forall_mem_cons] at h
    cases packet with
    | register => exact h.1.elim
    | heartbeat => exact ih h.2

theorem registrationRun_register {before after : List RegistrationPacket} {t : ℤ}
    (h : ∀ packet ∈ after, packet.IsHeartbeat) :
    registrationRun ttl (before ++ .register endpoint t :: after) =
      some ⟨endpoint, renewedAt ttl t (heartbeatTimes endpoint after) + ttl⟩ := by
  rw [registrationRun, List.foldl_append, List.foldl_cons, registrationStep]
  exact foldl_heartbeats h

end Runs

/-- REFINES and RUN: a case is accepted exactly when it shows one step of the machine. In every run
    of the machine an instance is registered exactly when a register has come, under the endpoint of
    the last one, until a lifetime after the last heartbeat of this endpoint that came in time. -/
theorem registration_refines :
    (∀ (shared : RegistrationCase) state packet slots expected input,
      shared.input = .obj input → DescribesPacket shared.initial input slots state packet →
      (Clean (packetCase (shared.expecting expected)) () ↔
        (registrationOutcome shared.ttl slots state packet).ShownBy expected) ∧
      (registrationOutcome shared.ttl slots state packet).Leaves state
        (registrationStep shared.ttl state packet)) ∧
    (∀ (shared : RegistrationCase) input,
      shared.input = .obj input → PlainPacket shared.initial input →
      (Clean (packetCase shared) () ↔
        ∃ state packet slots, DescribesPacket shared.initial input slots state packet ∧
          (registrationOutcome shared.ttl slots state packet).ShownBy shared.expected)) ∧
    ∀ ttl packets,
      registrationRun ttl packets = none ∧ (∀ packet ∈ packets, packet.IsHeartbeat) ∨
      ∃ before endpoint t after, packets = before ++ .register endpoint t :: after ∧
        (∀ packet ∈ after, packet.IsHeartbeat) ∧
        registrationRun ttl packets =
          some ⟨endpoint, renewedAt ttl t (heartbeatTimes endpoint after) + ttl⟩ := by
  refine ⟨fun shared state packet slots expected input hinput h => ?_,
    fun shared input hinput hplain => ?_, fun ttl packets => ?_⟩
  · exact ⟨clean_packetCase_shows hinput h, registrationOutcome_leaves⟩
  · exact clean_packetCase_iff hinput hplain
  · rcases exists_last_register packets with h | ⟨before, endpoint, t, after, rfl, h⟩
    · exact .inl ⟨registrationRun_heartbeats h, h⟩
    · exact .inr ⟨before, endpoint, t, after, rfl, h, registrationRun_register h⟩

/-- A register for a record whose expiry is not told. -/
def repeatedRegister : Dict :=
  [("initial", .obj [("sourceEndpoint", .str "192.0.2.10:40000"), ("activeRegistrations", .int 64)]),
    ("input", .obj [("type", .str "register"), ("sourceEndpoint", .str "192.0.2.10:50000"),
      ("acceptedAtRelayMonotonicMs", .int 200000)]),
    ("expected", replacedRecord)]

/-- A heartbeat without a record, whose time is not told. -/
def unknownHeartbeat : Dict :=
  [("input", .obj [("type", .str "heartbeat"), ("sourceEndpoint", .str "192.0.2.10:40000")]),
    ("expected", .str "silent_drop_no_registration_created_no_error")]

/-- Both are accepted. -/
theorem registration_refines_untold :
    Clean (packetCase (.of directoryDefaults repeatedRegister)) () ∧
      Clean (packetCase (.of directoryDefaults unknownHeartbeat)) () := by
  constructor
  · have hstep := registration_refines.1 (.of directoryDefaults repeatedRegister)
      (some ⟨"192.0.2.10:40000", 0⟩) (.register "192.0.2.10:50000" 200000) (.int 64) replacedRecord _
      rfl (.replacing rfl rfl rfl rfl rfl)
    refine hstep.1.mpr ⟨_, rfl, ⟨rfl, Json.eq_int_int.mpr (by decide)⟩, ?_, ?_⟩
    · rintro _ ⟨⟩
      rfl
    · rintro _ ⟨⟩ -
      rfl
  · have hstep := registration_refines.2.1 (.of directoryDefaults unknownHeartbeat) _ rfl
      ⟨fun _ _ => nofun, by simp [packetType, Dict.getD]⟩
    exact hstep.mpr ⟨none, .heartbeat "192.0.2.10:40000" 0, .null, .unknown rfl rfl, rfl⟩

/-! ### An accepted document -/

section Accepted
variable {document : Dict} {limits : DirectoryLimits} {lib : Library} {root : Root}

theorem clean_directoryLimits (h : Clean (directoryLimits document) limits) :
    ∃ d, Dict.get document "limits" = .obj d ∧
      Dict.get d "registrationTtlSeconds" = .int limits.ttlSeconds ∧ limits.ttlSeconds = 90 := by
  simp [directoryLimits] at h
  obtain ⟨d, hd, _, -, _, -, ttl, ⟨httl, -⟩, -, -, hvalue, rfl⟩ := h
  exact ⟨d, hd, httl, by exact_mod_cast hvalue⟩

theorem clean_directoryRegistrations (h : Clean (directoryRegistrations document limits) ()) :
    ∃ registration schedule, Dict.get document "registrationLifecycleCases" = .obj registration ∧
      Dict.get registration "clientRenewalSchedule" = .obj schedule ∧
      (Dict.get schedule "maximumHeartbeatIntervalSeconds").eq (.int 30) = true := by
  simp [directoryRegistrations] at h
  obtain ⟨registration, hregistration, -, -, -, -, -, schedule, hschedule, -, hinterval, -⟩ := h
  exact ⟨registration, schedule, hregistration, hschedule, hinterval⟩

theorem clean_validateDirectoryLifecycle (h : Clean (validateDirectoryLifecycle lib root) ()) :
    ∃ document limits, root directoryPath = .json (.obj document) ∧
      Clean (directoryLimits document) limits ∧
      Clean (directoryRegistrations document limits) () := by
  simp only [validateDirectoryLifecycle, Run.liftM_eq, clean_bind, clean_lift, load_eq_ok] at h
  obtain ⟨document, hdocument, limits, hlimits, _, -, _, -, _, -, _, -, _, -, _, -, _, -,
    hregistrations⟩ := h
  exact ⟨document, limits, hdocument, hlimits, hregistrations⟩

end Accepted

/-- After a register from the endpoint only the endpoint registers the instance, and it sends
    packets at most `interval` apart, of which no two in a row are lost; heartbeats of others come
    as they may. -/
structure KeepsRegistered (interval : ℤ) (endpoint : String) (registeredAt : ℤ)
    (sent : List (Signal ℤ)) (packets : List RegistrationPacket) : Prop where
  only : ∀ packet ∈ packets, packet.IsHeartbeat ∨ packet.source = endpoint
  arrive : timesFrom endpoint packets = arrived sent
  spaced : (registeredAt :: sent.map Signal.time).IsChain fun a b => b ≤ a + interval
  isolated : sent.IsChain fun a b => ¬(a.lost = true ∧ b.lost = true)

/-- ALIVE: the document that passes states a lifetime and an interval, and whoever keeps to the
    interval is registered after each run, with the lifetime ahead when any of its packets is sent. -/
theorem registration_survives_losses (lib : Library) (root : Root)
    (hclean : Clean (validateDirectoryLifecycle lib root) ()) :
    ∃ (document limits registration schedule : Dict) (ttl interval : ℤ),
      root directoryPath = .json (.obj document) ∧ Dict.get document "limits" = .obj limits ∧
      Dict.get limits "registrationTtlSeconds" = .int ttl ∧
      Dict.get document "registrationLifecycleCases" = .obj registration ∧
      Dict.get registration "clientRenewalSchedule" = .obj schedule ∧
      (Dict.get schedule "maximumHeartbeatIntervalSeconds").eq (.int interval) = true ∧
      ∀ before endpoint registeredAt sent packets,
        KeepsRegistered (interval * 1000) endpoint registeredAt sent packets →
        registrationRun (ttl * 1000) (before ++ .register endpoint registeredAt :: packets) =
            some ⟨endpoint, (arrived sent).getLastD registeredAt + ttl * 1000⟩ ∧
          Alive (ttl * 1000) registeredAt sent := by
  obtain ⟨document, limits, hdocument, hlimits, hregistrations⟩ :=
    clean_validateDirectoryLifecycle hclean
  obtain ⟨d, hd, httl, hninety⟩ := clean_directoryLimits hlimits
  obtain ⟨registration, schedule, hregistration, hschedule, hinterval⟩ :=
    clean_directoryRegistrations hregistrations
  refine ⟨document, d, registration, schedule, 90, 30, hdocument, hd, ?_, hregistration, hschedule,
    hinterval, ?_⟩
  · rw [httl, hninety]
    rfl
  · intro before endpoint registeredAt sent packets h
    have halive : Alive (90 * 1000) registeredAt sent :=
      alive_of_isolated (by norm_num) (by norm_num) h.spaced h.isolated (by norm_num) (.inl rfl)
    refine ⟨?_, halive⟩
    have hchain := halive.isChain_arrived
    rw [← h.arrive] at hchain ⊢
    rw [registrationRun, List.foldl_append, List.foldl_cons, registrationStep]
    exact foldl_of_isChain h.only hchain

/-! ### A document that passes -/

/-- The schedule of the client, and a renewal. -/
def renewalCases : Dict :=
  [("registrationKey", .arr [.str "channelId", .str "instanceId"]), ("capacityScope", .str "relay-wide"),
    ("registerHeartbeatFailureResponse", .str "silent_drop_no_error"),
    ("clientRenewalSchedule", .obj [("registerOnStartupAndEndpointChange", .bool true),
      ("maximumHeartbeatIntervalSeconds", .int 30), ("maximumReregistrationIntervalSeconds", .int 60)]),
    ("cases", .arr [.obj [
      ("initial", .obj [("sourceEndpoint", .str "192.0.2.10:40000"),
        ("registrationExpiresAtRelayMonotonicMs", .int 190000)]),
      ("input", .obj [("type", .str "heartbeat"), ("sourceEndpoint", .str "192.0.2.10:40000"),
        ("acceptedAtRelayMonotonicMs", .int 120000)]),
      ("expected", .obj [("state", .str "registered"),
        ("registrationExpiresAtRelayMonotonicMs", .int 210000)])]])]

/-- A Directory document without fragments and pages. -/
def renewalDocument : Dict :=
  [("limits", .obj [("replayWindowSize", .int 64), ("maxActiveRegistrations", .int 64),
      ("registrationTtlSeconds", .int 90)]),
    ("replayWindowCases", .arr []), ("fragmentReassemblyCases", .arr []), ("crypto", .obj []),
    ("snapshotPaginationCases", .arr []), ("registrationLifecycleCases", .obj renewalCases)]

/-- A library that computes nothing; the document asks for nothing of it. -/
def emptyLibrary : Library where
  loads _ := fails .jsonDecodeError
  dictReader _ := .ok []
  sha256 _ := []
  hmacSha256 _ _ := []

theorem registration_survives_losses_renewal :
    ∃ (document limits registration schedule : Dict) (ttl interval : ℤ),
      Stored.json (.obj renewalDocument) = .json (.obj document) ∧
      Dict.get document "limits" = .obj limits ∧ Dict.get limits "registrationTtlSeconds" = .int ttl ∧
      Dict.get document "registrationLifecycleCases" = .obj registration ∧
      Dict.get registration "clientRenewalSchedule" = .obj schedule ∧
      (Dict.get schedule "maximumHeartbeatIntervalSeconds").eq (.int interval) = true ∧
      ∀ before endpoint registeredAt sent packets,
        KeepsRegistered (interval * 1000) endpoint registeredAt sent packets →
        registrationRun (ttl * 1000) (before ++ .register endpoint registeredAt :: packets) =
            some ⟨endpoint, (arrived sent).getLastD registeredAt + ttl * 1000⟩ ∧
          Alive (ttl * 1000) registeredAt sent :=
  registration_survives_losses emptyLibrary (fun _ => .json (.obj renewalDocument)) (clean_of_isClean (by decide))

end IncomUdon.Lifecycle
