import Mathlib.Data.Set.Insert
import IncomUdon.Lifecycle.Directory.Registration

/-! A packet that finds an expired registration. The deadline is tested when a heartbeat arrives,
    and not when a register does:

                        no record        expired record
        heartbeat       nothing          nothing
        register        created          replaced

    EXPIRED: the expired record behaves like no record exactly when the packet is a heartbeat. -/

namespace IncomUdon.Lifecycle
open IncomUdon.Python IncomUdon.Lib.ErrorLog

/-- What a packet does to the registrations of the relay. -/
inductive RegistrationEffect where
  /-- Nothing is created or changed. -/
  | nothing
  /-- A record with this expiry takes a slot of its own. -/
  | created (expiry : ℤ)
  /-- A record with this expiry takes over the slot of the previous one. -/
  | replaced (expiry : ℤ)

/-- The record of an expected object, with this state and expiry. -/
def RecordState (record : Dict) (state : String) (expiry : ℤ) : Prop :=
  Dict.get record "state" = .str state ∧
    (Dict.get record "registrationExpiresAtRelayMonotonicMs").eq (.int expiry) = true

/-- The slots are counted, when they are, as those of the first registration. -/
def TakesSlot (record : Dict) : Prop :=
  Dict.has record "activeRegistrations" = true →
    (Dict.get record "activeRegistrations").eq (.int 1) = true

/-- The effect that an expected value describes. -/
def Describes (expected : Json) : RegistrationEffect → Prop
  | .nothing => expected = .str "silent_drop_no_registration_created_no_error" ∨
      expected = .str "silent_drop_expired_no_registration_created_no_error"
  | .created expiry =>
      ∃ record, expected = .obj record ∧ RecordState record "registered" expiry ∧ TakesSlot record
  | .replaced expiry => ∃ record, expected = .obj record ∧ RecordState record "replaced" expiry

/-- The same case with another expected value. -/
def RegistrationCase.expecting (shared : RegistrationCase) (expected : Json) : RegistrationCase :=
  { shared with expected := expected }

/-- The effects of the outcomes that a case may require. -/
def RegistrationCase.effects (shared : RegistrationCase) : Set RegistrationEffect :=
  {effect | ∃ expected, Clean (packetCase (shared.expecting expected)) () ∧ Describes expected effect}

/-- The acceptance time plus the lifetime of a registration. -/
def RegistrationCase.expiryAfter (shared : RegistrationCase) (accepted : ℤ) : ℤ :=
  accepted + shared.limits.ttlSeconds * 1000

/-- The same packet with no record. -/
def RegistrationCase.withoutRecord (shared : RegistrationCase) : RegistrationCase :=
  { shared with initial := .null }

/-- `input_value.get("type", "register")`. -/
def packetType (input : Dict) : Json := Dict.getD input "type" (.str "register")

/-- A register or heartbeat is accepted at or after the expiry of the record. -/
structure ExpiredPacket (shared : RegistrationCase) (input initial : Dict) (accepted expiry : ℤ) :
    Prop where
  hasInput : shared.input = .obj input
  hasInitial : shared.initial = .obj initial
  packet : packetType input = .str "heartbeat" ∨ packetType input = .str "register"
  acceptedAt : Dict.get input "acceptedAtRelayMonotonicMs" = .int accepted
  expiresAt : Dict.get initial "registrationExpiresAtRelayMonotonicMs" = .int expiry
  expired : expiry ≤ accepted

section Expired
variable {shared : RegistrationCase} {input initial : Dict} {accepted expiry : ℤ} {expected : Json}

theorem RecordState.expiry_unique {record : Dict} {state : String} {m n : ℤ}
    (hm : RecordState record state m) (hn : RecordState record state n) : m = n := by
  have heq := (Json.eq_int_iff.mp hm.2).symm.trans (Json.eq_int_iff.mp hn.2)
  simpa using heq

theorem clean_packetCase_heartbeat (hinput : shared.input = .obj input)
    (hpacket : packetType input = .str "heartbeat") :
    Clean (packetCase (shared.expecting expected)) () ↔
      Clean (heartbeatCase (shared.expecting expected) input) () := by
  have htype : Dict.getD input "type" (.str "register") = .str "heartbeat" := hpacket
  simp [packetCase, RegistrationCase.expecting, hinput, htype]

theorem clean_packetCase_register (hinput : shared.input = .obj input)
    (hpacket : packetType input = .str "register") :
    Clean (packetCase (shared.expecting expected)) () ↔
      Clean (registerCase (shared.expecting expected) input) () := by
  have htype : Dict.getD input "type" (.str "register") = .str "register" := hpacket
  simp [packetCase, RegistrationCase.expecting, hinput, htype]

/-- FIXTURE: a heartbeat without a record must expect to be dropped. -/
theorem clean_heartbeatCase_null (hinitial : shared.initial = .null) :
    Clean (heartbeatCase (shared.expecting expected) input) () ↔
      expected = .str "silent_drop_no_registration_created_no_error" := by
  simp [heartbeatCase, RegistrationCase.expecting, hinitial]

/-- The times of a heartbeat and of its record, when they are integers, decide whether it is late. -/
theorem heartbeatExpired_eq
    (haccepted : Dict.getD input "acceptedAtRelayMonotonicMs" (.int 0) = .int accepted)
    (hexpires : Dict.getD initial "registrationExpiresAtRelayMonotonicMs" (.int 0) = .int expiry) :
    heartbeatExpired input initial = .ok (decide (expiry ≤ accepted)) := by
  rw [heartbeatExpired, haccepted, hexpires, atLeast_eq_ok]
  simp

/-- FIXTURE: a heartbeat after the expiry of its record must expect to be dropped. -/
theorem clean_heartbeatCase_late (hinitial : shared.initial = .obj initial)
    (haccepted : Dict.getD input "acceptedAtRelayMonotonicMs" (.int 0) = .int accepted)
    (hexpires : Dict.getD initial "registrationExpiresAtRelayMonotonicMs" (.int 0) = .int expiry)
    (hlate : expiry ≤ accepted) :
    Clean (heartbeatCase (shared.expecting expected) input) () ↔
      expected = .str "silent_drop_expired_no_registration_created_no_error" := by
  simp [heartbeatCase, RegistrationCase.expecting, hinitial, heartbeatExpired_eq haccepted hexpires,
    hlate]

/-- FIXTURE: a heartbeat for an expired record must expect to be dropped. -/
theorem clean_heartbeatCase_expired (h : ExpiredPacket shared input initial accepted expiry) :
    Clean (heartbeatCase (shared.expecting expected) input) () ↔
      expected = .str "silent_drop_expired_no_registration_created_no_error" :=
  clean_heartbeatCase_late h.hasInitial (Dict.getD_of_get h.acceptedAt nofun)
    (Dict.getD_of_get h.expiresAt nofun) h.expired

/-- FIXTURE: a register without a record must expect its creation. -/
theorem clean_registerCase_new (hinitial : ∀ record, shared.initial ≠ .obj record)
    (haccepted : Dict.get input "acceptedAtRelayMonotonicMs" = .int accepted) :
    Clean (registerCase (shared.expecting expected) input) () ↔
      Describes expected (.created (shared.expiryAfter accepted)) := by
  cases hvalue : shared.initial with
  | obj record => exact absurd hvalue (hinitial record)
  | _ =>
    simp [registerCase, RegistrationCase.expecting, hvalue, haccepted, plus, Describes, RecordState,
      TakesSlot, RegistrationCase.expiryAfter]
    refine exists_congr fun record => and_congr_right fun _ => ?_
    cases Dict.has record "activeRegistrations" <;> simp [and_assoc]

/-- FIXTURE: a register with a record must expect its replacement. -/
theorem describes_of_registerCase (hinitial : shared.initial = .obj initial)
    (haccepted : Dict.get input "acceptedAtRelayMonotonicMs" = .int accepted)
    (hclean : Clean (registerCase (shared.expecting expected) input) ()) :
    Describes expected (.replaced (shared.expiryAfter accepted)) := by
  simp [registerCase, RegistrationCase.expecting, hinitial, haccepted, plus] at hclean
  obtain ⟨record, hrecord, hstate, -, hexpiry, -⟩ := hclean
  exact ⟨record, hrecord, hstate, hexpiry⟩

/-- An expected value describes one effect. -/
theorem Describes.unique {effect effect' : RegistrationEffect}
    (h : Describes expected effect) (h' : Describes expected effect') : effect = effect' := by
  cases effect with
  | nothing =>
    cases effect' with
    | nothing => rfl
    | created | replaced =>
      obtain ⟨record, rfl, -⟩ := h'
      rcases h with h | h <;> cases h
  | created =>
    obtain ⟨record, rfl, hrecord, -⟩ := h
    cases effect' with
    | nothing => rcases h' with h' | h' <;> cases h'
    | created =>
      obtain ⟨_, ⟨⟩, hrecord', -⟩ := h'
      rw [hrecord.expiry_unique hrecord']
    | replaced =>
      obtain ⟨_, ⟨⟩, hrecord'⟩ := h'
      exact absurd (hrecord.1.symm.trans hrecord'.1) (by simp)
  | replaced =>
    obtain ⟨record, rfl, hrecord⟩ := h
    cases effect' with
    | nothing => rcases h' with h' | h' <;> cases h'
    | created =>
      obtain ⟨_, ⟨⟩, hrecord', -⟩ := h'
      exact absurd (hrecord.1.symm.trans hrecord'.1) (by simp)
    | replaced =>
      obtain ⟨_, ⟨⟩, hrecord'⟩ := h'
      rw [hrecord.expiry_unique hrecord']

/-- The one effect that every required outcome describes. -/
theorem effects_eq_singleton {effect : RegistrationEffect}
    (hexpected : Clean (packetCase (shared.expecting expected)) ())
    (hall : ∀ expected, Clean (packetCase (shared.expecting expected)) () → Describes expected effect) :
    shared.effects = {effect} := by
  ext effect'
  constructor
  · rintro ⟨expected', hclean, hdescribes⟩
    exact hdescribes.unique (hall expected' hclean)
  · rintro rfl
    exact ⟨expected, hexpected, hall expected hexpected⟩

/-- A heartbeat without a record does nothing. -/
theorem effects_heartbeat_null (hinput : shared.input = .obj input)
    (hinitial : shared.initial = .null)
    (hpacket : packetType input = .str "heartbeat") : shared.effects = {.nothing} := by
  have hclean : ∀ expected, Clean (packetCase (shared.expecting expected)) () ↔
      expected = .str "silent_drop_no_registration_created_no_error" := fun expected => by
    rw [clean_packetCase_heartbeat hinput hpacket, clean_heartbeatCase_null hinitial]
  exact effects_eq_singleton ((hclean _).mpr rfl) fun expected h => .inl ((hclean expected).mp h)

/-- A heartbeat for an expired record does nothing. -/
theorem effects_heartbeat_expired (h : ExpiredPacket shared input initial accepted expiry)
    (hpacket : packetType input = .str "heartbeat") : shared.effects = {.nothing} := by
  have hclean : ∀ expected, Clean (packetCase (shared.expecting expected)) () ↔
      expected = .str "silent_drop_expired_no_registration_created_no_error" := fun expected => by
    rw [clean_packetCase_heartbeat h.hasInput hpacket, clean_heartbeatCase_expired h]
  exact effects_eq_singleton ((hclean _).mpr rfl) fun expected h => .inr ((hclean expected).mp h)

/-- A register without a record creates one. -/
theorem effects_register_null (hinput : shared.input = .obj input) (hinitial : shared.initial = .null)
    (hpacket : packetType input = .str "register")
    (haccepted : Dict.get input "acceptedAtRelayMonotonicMs" = .int accepted) :
    shared.effects = {.created (shared.expiryAfter accepted)} := by
  have hclean : ∀ expected, Clean (packetCase (shared.expecting expected)) () ↔
      Describes expected (.created (shared.expiryAfter accepted)) := fun expected => by
    rw [clean_packetCase_register hinput hpacket,
      clean_registerCase_new (by simp [hinitial]) haccepted]
  have hcreated : Describes (.obj [("state", .str "registered"),
      ("registrationExpiresAtRelayMonotonicMs", .int (shared.expiryAfter accepted))])
      (.created (shared.expiryAfter accepted)) :=
    ⟨_, rfl, ⟨rfl, Json.eq_int_int.mpr rfl⟩, nofun⟩
  exact effects_eq_singleton ((hclean _).mpr hcreated) fun expected h => (hclean expected).mp h

/-- A register with a record creates none. -/
theorem not_created_of_record (h : ExpiredPacket shared input initial accepted expiry)
    (hpacket : packetType input = .str "register") (n : ℤ) :
    RegistrationEffect.created n ∉ shared.effects := by
  rintro ⟨expected, hclean, hcreated⟩
  rw [clean_packetCase_register h.hasInput hpacket] at hclean
  cases hcreated.unique (describes_of_registerCase h.hasInitial h.acceptedAt hclean)

/-- EXPIRED: an expired record has the effect of no record exactly for a heartbeat; with no record a
    heartbeat does nothing, and a register creates a record that takes a slot. -/
theorem expiredRegistration_absent_iff (h : ExpiredPacket shared input initial accepted expiry) :
    (shared.effects = shared.withoutRecord.effects ↔ packetType input = .str "heartbeat") ∧
    (packetType input = .str "heartbeat" → shared.withoutRecord.effects = {.nothing}) ∧
    (packetType input = .str "register" →
      shared.withoutRecord.effects = {.created (shared.expiryAfter accepted)}) := by
  have hheartbeat : packetType input = .str "heartbeat" → shared.withoutRecord.effects = {.nothing} :=
    effects_heartbeat_null h.hasInput rfl
  have hregister : packetType input = .str "register" →
      shared.withoutRecord.effects = {.created (shared.expiryAfter accepted)} := fun hpacket =>
    effects_register_null h.hasInput rfl hpacket h.acceptedAt
  refine ⟨⟨fun heffects => ?_, fun hpacket => ?_⟩, hheartbeat, hregister⟩
  · refine h.packet.resolve_right fun hpacket => ?_
    rw [hregister hpacket] at heffects
    exact not_created_of_record h hpacket _ (heffects ▸ Set.mem_singleton _)
  · rw [hheartbeat hpacket, effects_heartbeat_expired h hpacket]

end Expired

/-- The limits of the suite. -/
def directoryDefaults : DirectoryLimits := ⟨64, 64, 90⟩

/-- A record that expires at 190000 and a packet of this type that is accepted at 200000. -/
def lateCase (type : String) (expected : Json) : Dict :=
  [("initial", .obj [("sourceEndpoint", .str "192.0.2.10:40000"),
      ("registrationExpiresAtRelayMonotonicMs", .int 190000), ("activeRegistrations", .int 64)]),
    ("input", .obj [("type", .str type), ("sourceEndpoint", .str "192.0.2.10:50000"),
      ("acceptedAtRelayMonotonicMs", .int 200000)]),
    ("expected", expected)]

/-- A late heartbeat. -/
theorem expiredRegistration_absent_iff_heartbeat :
    (RegistrationCase.of directoryDefaults (lateCase "heartbeat" .null)).effects =
      (RegistrationCase.of directoryDefaults (lateCase "heartbeat" .null)).withoutRecord.effects ↔
    packetType [("type", .str "heartbeat"), ("sourceEndpoint", .str "192.0.2.10:50000"),
      ("acceptedAtRelayMonotonicMs", .int 200000)] = .str "heartbeat" :=
  (expiredRegistration_absent_iff ⟨rfl, rfl, .inl rfl, rfl, rfl, by decide⟩).1

/-- A replacement that counts no further slot. -/
def replacedRecord : Json :=
  .obj [("state", .str "replaced"), ("sourceEndpoint", .str "192.0.2.10:50000"),
    ("registrationExpiresAtRelayMonotonicMs", .int 290000), ("activeRegistrations", .int 64)]

/-- A late register must expect the replacement of the expired record, and cannot expect a
    creation. -/
theorem register_replaces_expired :
    Clean (registrationCase directoryDefaults (.obj (lateCase "register" replacedRecord))) () ∧
      Describes replacedRecord (.replaced 290000) ∧
      ∀ n, RegistrationEffect.created n ∉
        (RegistrationCase.of directoryDefaults (lateCase "register" replacedRecord)).effects :=
  ⟨clean_of_isClean (by decide), ⟨_, rfl, rfl, by decide⟩,
    not_created_of_record ⟨rfl, rfl, .inr rfl, rfl, rfl, by decide⟩ rfl⟩

end IncomUdon.Lifecycle
