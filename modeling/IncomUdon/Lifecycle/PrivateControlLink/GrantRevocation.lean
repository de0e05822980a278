import IncomUdon.Lifecycle.PrivateControlLink.CsvRules
import IncomUdon.Lifecycle.PrivateControlLink.DenyRule
import IncomUdon.Lifecycle.PrivateControlLink.Snapshot
import IncomUdon.Python.Base64

/-! Private Control Link: from a grant to the command that revokes it. The claims of the grant give
    the hash of its ID, its channel and its service, and exactly one command carries the three:

        payload_json ──▶ claims ──▶ jti ──SHA-256──▶ grant_id_hash
                           ├── ch ─────────────────▶ channel_id      one revocation command
                           └── svc ── canonical ───▶ service_id

    EXACT: these checks accept exactly what states this chain. TARGETS: the rule of the command denies
    whoever presents an ID with the same digest on that channel for that service, so no other
    spelling of the ID that the vector lists. -/

namespace IncomUdon.Lifecycle
open IncomUdon.Python IncomUdon.Loader IncomUdon.Lib.ErrorLog

/-- The claims of the grant in the Service Admission vectors, the bytes of its ID and their hash. -/
structure ReadsGrant (lib : Library) (service : Dict) (grantHash : GrantHash) (jti : String) :
    Prop where
  payload : ∃ text, PayloadText service text ∧ lib.loads text = .ok (.obj grantHash.claims)
  named : Dict.get grantHash.claims "jti" = .str jti
  bytes : encodeAscii? jti = some grantHash.jtiBytes
  hash : grantHash.hash = grantIdHash lib grantHash.jtiBytes

/-- A fixture states the bytes of an ID, their digest and the hash, the last in this field. -/
structure StatesHash (lib : Library) (fixture : Dict) (field : String) (input : Bytes) : Prop where
  bytes : Dict.get fixture "input_ascii_hex" = .str (toHex input)
  digest : Dict.get fixture "sha256_hex" = .str (toHex (lib.sha256 input))
  hash : Dict.get fixture field = .str (grantIdHash lib input)

/-- The command carries the hash of the grant, its channel and its service. -/
structure Revokes (command : Dict) (grantHash : GrantHash) : Prop where
  hash : Dict.get command "grant_id_hash" = .str grantHash.hash
  channel : (Dict.get command "channel_id").eq (Dict.get grantHash.claims "ch") = true
  service : (Dict.get command "service_id").eq (Dict.get grantHash.claims "svc") = true

/-- Other bytes, with another hash. -/
structure OtherSpelling (lib : Library) (grantHash : GrantHash) (fixture : Dict) (input : Bytes) :
    Prop where
  bytes : IsHex (Dict.get fixture "input_ascii_hex") input
  ascii : isAscii input = true
  digest : Dict.get fixture "sha256_hex" = .str (toHex (lib.sha256 input))
  bytes_ne : input ≠ grantHash.jtiBytes
  hash_ne : grantIdHash lib input ≠ grantHash.hash

/-- The vector of the grant hash states the chain. -/
structure StatesGrantHash (lib : Library) (root : Root) (document : Dict) (grantHash : GrantHash) :
    Prop where
  messages : Dict.get document "valid_messages" = .arr grantHash.messages
  chain : ∃ case service derivation jti, Dict.get document "grant_id_hash_cross_vector" = .obj case ∧
    Dict.get case "source_vector" = .str serviceAdmissionPath ∧
    load root serviceAdmissionPath = .ok service ∧
    ReadsGrant lib service grantHash jti ∧ Dict.get case "expected_jti" = .str jti ∧
    StatesHash lib case "grant_id_hash" grantHash.jtiBytes ∧
    Dict.get service "grant_id_hash_derivation" = .obj derivation ∧
    StatesHash lib derivation "base64url" grantHash.jtiBytes ∧
    (∃ commandId command, Dict.get case "pcl_command_message_id" = .str commandId ∧
      revocationCommands grantHash.messages (.str commandId) = [command] ∧
      Revokes command grantHash) ∧
    ∃ negatives, Dict.get case "negative_inputs" = .arr negatives ∧ negatives ≠ [] ∧
      ∀ negative ∈ negatives, ∃ fixture input, negative = .obj fixture ∧
        OtherSpelling lib grantHash fixture input

section GrantHash
variable {lib : Library} {root : Root} {document service claims case : Dict} {grantHash : GrantHash}
  {value : Json} {index : ℕ} {commands : List Dict} {hash jti : String}

theorem grantClaims_eq_ok : grantClaims lib service = .ok (claims, jti) ↔
    (∃ text, PayloadText service text ∧ lib.loads text = .ok (.obj claims)) ∧
      Dict.get claims "jti" = .str jti := by
  simp only [grantClaims, bind_eq_ok, asObject_eq_ok, asString_eq_ok, parsePayloadJson_eq_ok, pure,
    Except.pure, Except.ok.injEq, Prod.mk.injEq, PayloadText]
  constructor
  · rintro ⟨grant, hgrant, text, htext, _, hloads, _, rfl, _, hjti, rfl, rfl⟩
    exact ⟨⟨text, ⟨grant, hgrant, htext⟩, hloads⟩, hjti⟩
  · rintro ⟨⟨text, ⟨grant, hgrant, htext⟩, hloads⟩, hjti⟩
    exact ⟨grant, hgrant, text, htext, _, hloads, claims, rfl, jti, hjti, rfl, rfl⟩

/-- The checks that want one message fall through to their error otherwise. -/
theorem not_exists_only {P : Dict → Prop} (hother : ∀ command, commands = [command] → False) :
    ¬∃ command, commands = [command] ∧ P command := by
  rintro ⟨command, rfl, -⟩
  exact hother command rfl

/-- One command is there, and it carries what the grant has. -/
theorem clean_checkHashCommand {u : Unit} : Clean (checkHashCommand commands claims hash) u ↔
    ∃ command, commands = [command] ∧ Dict.get command "grant_id_hash" = .str hash ∧
      (Dict.get command "channel_id").eq (Dict.get claims "ch") = true ∧
      (Dict.get command "service_id").eq (Dict.get claims "svc") = true := by
  unfold checkHashCommand
  split
  · next command => simp
  · next hother => exact iff_of_false (by simp) (not_exists_only hother)

theorem clean_negativeInput : Clean (negativeInput lib grantHash value index) () ↔
    ∃ fixture input, value = .obj fixture ∧ OtherSpelling lib grantHash fixture input := by
  simp only [negativeInput, Run.liftM_eq, clean_bind, clean_lift, asObject_eq_ok, hexBytes_eq_ok,
    require_eq_ok, clean_compare, clean_reportIf, Json.eq_str_left, exists_unit]
  constructor
  · rintro ⟨fixture, rfl, input, hinput, hascii, hdigest, hbytes, hhash⟩
    exact ⟨fixture, input, rfl, hinput, hascii, hdigest, hbytes, hhash⟩
  · rintro ⟨fixture, input, rfl, h⟩
    exact ⟨fixture, rfl, input, h.bytes, h.ascii, h.digest, h.bytes_ne, h.hash_ne⟩

/-- EXACT: the check of the grant hash accepts exactly a vector that states the chain. -/
theorem clean_checkGrantHash :
    Clean (checkGrantHash lib root document) grantHash ↔
      StatesGrantHash lib root document grantHash := by
  simp only [checkGrantHash, checkNegativeInputs, Run.liftM_eq, clean_bind, clean_lift,
    asObject_eq_ok, asArray_eq_ok, asString_eq_ok, require_eq_ok, clean_compare, clean_reportIf,
    clean_pure, not_not, Json.eq_str, Json.eq_str_left, Prod.exists, grantClaims_eq_ok,
    encodeJti_eq_ok, clean_checkHashCommand, exists_unit]
  constructor
  · rintro ⟨case, hcase, hsource, service, hservice, claims, jti, ⟨hpayload, hjti⟩, jtiBytes,
      hbytes, hexpected, hinput, hdigest, hhash, derivation, hderivation, hinput', hdigest', hhash',
      commandId, hcommandId, messages, hmessages,
      ⟨command, hcommands, hcommandHash, hchannel, hcommandService⟩,
      ⟨negatives, hnegatives, hne, hloop⟩, rfl⟩
    exact ⟨hmessages, case, service, derivation, jti, hcase, hsource, hservice,
      ⟨hpayload, hjti, hbytes, rfl⟩, hexpected,
      ⟨hinput, hdigest, hhash⟩, hderivation, ⟨hinput', hdigest', hhash'⟩,
      ⟨commandId, command, hcommandId, hcommands, hcommandHash, hchannel, hcommandService⟩,
      negatives, hnegatives, hne, (clean_forM_zipIdx fun _ _ => clean_negativeInput).mp hloop⟩
  · rintro ⟨hmessages, case, service, derivation, jti, hcase, hsource, hservice, hreads, hexpected,
      hstates, hderivation, hstates', ⟨commandId, command, hcommandId, hcommands, hrevokes⟩,
      negatives, hnegatives, hne, hothers⟩
    obtain ⟨claims, jtiBytes, hash, messages⟩ := grantHash
    obtain ⟨hpayload, hjti, hbytes, hhash⟩ := hreads
    obtain rfl : hash = grantIdHash lib jtiBytes := hhash
    exact ⟨case, hcase, hsource, service, hservice, claims, jti, ⟨hpayload, hjti⟩, jtiBytes, hbytes,
      hexpected, hstates.bytes, hstates.digest, hstates.hash, derivation, hderivation,
      hstates'.bytes, hstates'.digest, hstates'.hash, commandId, hcommandId, messages, hmessages,
      ⟨command, hcommands, hrevokes.hash, hrevokes.channel, hrevokes.service⟩,
      ⟨negatives, hnegatives, hne, (clean_forM_zipIdx fun _ _ => clean_negativeInput).mpr hothers⟩,
      rfl⟩

end GrantHash

/-! ### The service of the grant -/

/-- A list of spellings that is not empty, and each is a Managed Service ID or each is not. -/
def StatesSpellings (value : Json) (shouldMatch : Bool) : Prop :=
  ∃ values, value = .arr values ∧ values ≠ [] ∧ ∀ value ∈ values, ∃ text, value = .str text ∧
    isManagedServiceId text = shouldMatch

/-- The vector of the service ID states one ID on every surface. -/
structure StatesServiceId (document : Dict) (grantHash : GrantHash) (serviceId : String) : Prop where
  canonical : isManagedServiceId serviceId = true
  claimed : Dict.get grantHash.claims "svc" = .str serviceId
  vector : ∃ case, Dict.get document "service_id_cross_surface_vector" = .obj case ∧
    Dict.get case "grammar" = .str managedServiceIdGrammar ∧
    Dict.get case "source_csv_vector" = .str relayCsvPath ∧
    Dict.get case "source_service_admission_vector" = .str serviceAdmissionPath ∧
    StatesSpellings (Dict.get case "valid") true ∧ StatesSpellings (Dict.get case "invalid") false ∧
    Dict.get case "shared_service_id" = .str serviceId ∧
    (∃ command,
      revocationCommands grantHash.messages (Dict.get case "pcl_command_message_id") = [command] ∧
      Dict.get command "service_id" = .str serviceId) ∧
    ∃ hello management, messagesOfType grantHash.messages "hello" = [hello] ∧
      Dict.get hello "management_service_id" = .str management ∧
      Dict.get case "pcl_management_service_id" = .str management ∧
      isManagedServiceId management = true

section ServiceId
variable {document case : Dict} {grantHash : GrantHash} {value shared : Json} {expectation : String}
  {shouldMatch : Bool} {commands : List Dict} {u : Unit}

theorem clean_checkSpellings : Clean (checkSpellings case expectation shouldMatch) u ↔
    StatesSpellings (Dict.get case expectation) shouldMatch := by
  have hspelling : ∀ (value : Json) (index : ℕ),
      Clean (spelling expectation shouldMatch value index) () ↔
      ∃ text, value = .str text ∧ isManagedServiceId text = shouldMatch := by
    intro value index
    simp only [spelling, Run.liftM_eq, clean_bind, clean_lift, asString_eq_ok, clean_reportIf,
      not_not, ne_eq]
  simp only [checkSpellings, Run.liftM_eq, clean_bind, clean_lift, asArray_eq_ok, require_eq_ok,
    exists_unit]
  constructor
  · rintro ⟨values, hvalues, hne, hloop⟩
    exact ⟨values, hvalues, hne, (clean_forM_zipIdx hspelling).mp hloop⟩
  · rintro ⟨values, hvalues, hne, hspellings⟩
    exact ⟨values, hvalues, hne, (clean_forM_zipIdx hspelling).mpr hspellings⟩

theorem clean_checkServiceCommand : Clean (checkServiceCommand commands shared) u ↔
    ∃ command, commands = [command] ∧ (Dict.get command "service_id").eq shared = true := by
  unfold checkServiceCommand
  split
  · next command => simp
  · next hother => exact iff_of_false (by simp) (not_exists_only hother)

theorem clean_checkHello : Clean (checkHello commands value) u ↔
    ∃ hello, commands = [hello] ∧ (Dict.get hello "management_service_id").eq value = true := by
  unfold checkHello
  split
  · next command => simp
  · next hother => exact iff_of_false (by simp) (not_exists_only hother)

theorem isManagedServiceIdValue_iff : isManagedServiceIdValue value = true ↔
    ∃ text, value = .str text ∧ isManagedServiceId text = true := by
  cases value <;> simp [isManagedServiceIdValue]

/-- EXACT: the check of the service ID accepts exactly a vector that states one ID on every
    surface. -/
theorem clean_checkServiceId : Clean (checkServiceId document grantHash) shared ↔
    ∃ serviceId, shared = .str serviceId ∧ StatesServiceId document grantHash serviceId := by
  simp only [checkServiceId, Run.liftM_eq, clean_bind, clean_lift, asObject_eq_ok, clean_compare,
    clean_reportIf, clean_pure, not_not, Json.eq_str, clean_checkSpellings,
    clean_checkServiceCommand, clean_checkHello, isManagedServiceIdValue_iff, exists_unit]
  constructor
  · rintro ⟨case, hcase, hgrammar, hcsv, hservice, hvalid, hinvalid, hclaimed,
      ⟨serviceId, hshared, hcanonical⟩, ⟨command, hcommands, hcommand⟩, ⟨hello, hhellos, hhello⟩,
      ⟨management, hmanagement, hcanonical'⟩, rfl⟩
    rw [hshared, Json.eq_str] at hclaimed hcommand
    rw [hmanagement, Json.eq_str] at hhello
    exact ⟨serviceId, hshared, hcanonical, hclaimed, case, hcase, hgrammar, hcsv, hservice, hvalid,
      hinvalid, hshared, ⟨command, hcommands, hcommand⟩, hello, management, hhellos, hhello,
      hmanagement, hcanonical'⟩
  · rintro ⟨serviceId, rfl, hcanonical, hclaimed, case, hcase, hgrammar, hcsv, hservice, hvalid,
      hinvalid, hshared, ⟨command, hcommands, hcommand⟩, hello, management, hhellos, hhello,
      hmanagement, hcanonical'⟩
    refine ⟨case, hcase, hgrammar, hcsv, hservice, hvalid, hinvalid, ?_⟩
    rw [hshared, hmanagement]
    exact ⟨Json.eq_str.mpr hclaimed, ⟨serviceId, rfl, hcanonical⟩,
      ⟨command, hcommands, Json.eq_str.mpr hcommand⟩,
      ⟨hello, hhellos, Json.eq_str.mpr hhello⟩, ⟨management, rfl, hcanonical'⟩, rfl⟩

end ServiceId

/-! ### Whom the command denies -/

/-- The rule of a command for one grant. -/
def grantRule (channel : ℕ) (serviceId hash : String) : RevocationRule :=
  ⟨channel, some serviceId, some hash⟩

/-- The candidate presents a grant whose ID has these bytes. -/
def Presents (lib : Library) (candidate : Dict) (input : Bytes) : Prop :=
  Dict.get candidate "grant_id_hash" = .str (grantIdHash lib input)

/-- One command of the document revokes the grant of one of the configured services. -/
structure RevokesGrant (lib : Library) (root : Root) (document : Dict) (grantHash : GrantHash)
    (serviceId : String) (command : Dict) : Prop where
  stated : StatesGrantHash lib root document grantHash
  service : StatesServiceId document grantHash serviceId
  configured : ∃ services acl permissions, HasCsvRows lib root services acl permissions ∧
    serviceId ∈ configuredServices services
  unique : ∃ commandId, revocationCommands grantHash.messages commandId = [command]
  revokes : Revokes command grantHash

section Command
variable {lib : Library} {root : Root} {document candidate command : Dict} {grantHash : GrantHash}
  {input : Bytes} {channel : ℕ} {serviceId : String} {shared : Json}

/-- TARGETS: of those who present an ID, the rule denies exactly the ones with the same digest, on
    the channel and for the service. -/
theorem targets_grantRule (h : Presents lib candidate input) :
    (grantRule channel serviceId (grantIdHash lib grantHash.jtiBytes)).Targets candidate ↔
      (Dict.get candidate "channel_id").eq (.int channel) = true ∧
        Dict.get candidate "service_id" = .str serviceId ∧
        lib.sha256 input = lib.sha256 grantHash.jtiBytes := by
  constructor
  · rintro ⟨hchannel, hservice, hhash⟩
    have hsame := hhash _ rfl
    rw [h, Json.str.injEq] at hsame
    exact ⟨hchannel, hservice _ rfl, base64url_injective hsame⟩
  · rintro ⟨hchannel, hservice, hdigest⟩
    refine ⟨hchannel, fun service hs => ?_, fun hash hh => ?_⟩
    · rw [← Option.some.inj hs]
      exact hservice
    · rw [← Option.some.inj hh, grantIdHash, ← hdigest]
      exact h

/-- So no other spelling of the ID is denied. -/
theorem OtherSpelling.not_targets {fixture : Dict}
    (hother : OtherSpelling lib grantHash fixture input)
    (hhash : grantHash.hash = grantIdHash lib grantHash.jtiBytes) (h : Presents lib candidate input) :
    ¬(grantRule channel serviceId grantHash.hash).Targets candidate := by
  intro htargets
  rw [hhash, targets_grantRule h] at htargets
  refine hother.hash_ne ?_
  rw [hhash, grantIdHash, htargets.2.2, grantIdHash]

/-- The shared service is one that the CSV files configure. -/
theorem configured_of_clean (h : Clean (checkCsvFiles lib root (.str serviceId)) ()) :
    ∃ services acl permissions, HasCsvRows lib root services acl permissions ∧
      serviceId ∈ configuredServices services := by
  simp only [checkCsvFiles, Run.liftM_eq, clean_bind, clean_lift, asObject_eq_ok, clean_reportIf,
    not_not] at h
  obtain ⟨csv, hcsv, files, hfiles, services, hservices, _, -, acl, hacl, _, -, permissions,
    hpermissions, _, -, _, -, known, hknown, rfl⟩ := h
  refine ⟨services, acl, permissions, ⟨csv, files, hcsv, hfiles, hservices, hacl, hpermissions⟩, ?_⟩
  rw [inNames_eq_true] at hknown
  obtain ⟨name, hname, hshared⟩ := hknown
  rwa [Json.str.inj hshared]

/-- A document that the validator passes revokes its grant. -/
theorem revokesGrant_of_clean (hload : load root privateControlLinkPath = .ok document)
    (h : Clean (validatePrivateControlLink lib root) ()) :
    ∃ grantHash serviceId command, RevokesGrant lib root document grantHash serviceId command := by
  simp only [validatePrivateControlLink, Run.liftM_eq, clean_bind, clean_lift, hload, Except.ok.injEq,
    exists_eq_left', clean_checkGrantHash, clean_checkServiceId, exists_unit] at h
  obtain ⟨-, grantHash, hstated, _, ⟨serviceId, rfl, hservice⟩, hcsv, -⟩ := h
  obtain ⟨case, service, derivation, jti, -, -, -, -, -, -, -, -,
    ⟨commandId, command, -, hcommands, hrevokes⟩, -⟩ := hstated.chain
  exact ⟨grantHash, serviceId, command, hstated, hservice, configured_of_clean hcsv, ⟨_, hcommands⟩,
    hrevokes⟩

end Command

/-- The ID of a grant, its spelling with a space before it, and their digests, as hexadecimal text. -/
def grantIdHex : String := "746573742d736572766963652d6772616e742d30303031"
def spacedIdHex : String := "20746573742d736572766963652d6772616e742d30303031"
def grantDigestHex : String := "2dc352e31f102e2b78146fc42dc4f58e2862f496b2646e2130bd616540d9ba32"
def spacedDigestHex : String := "ac021f7086087a3899a0a889744cd61dfb80c41e49a05d30c5ee669fa88c1ca6"

/-- The hash of the ID. -/
def grantHashText : String := "LcNS4x8QLit4FG_ELcT1jihi9JayZG4hML1hZUDZujI"

/-- The payload of the grant. -/
def grantPayload : String :=
  "\x7b\"ch\":100,\"jti\":\"test-service-grant-0001\",\"svc\":\"admin\"\x7d"

/-- A library that reads the payload and one enabled service, and digests the two spellings. -/
def grantLibrary : Library where
  loads text :=
    if text = grantPayload then
      .ok (.obj [("ch", .int 100), ("jti", .str "test-service-grant-0001"), ("svc", .str "admin")])
    else fails .jsonDecodeError
  dictReader := (fileLibrary enabledService).dictReader
  sha256 data := ([(grantIdHex, grantDigestHex), (spacedIdHex, spacedDigestHex)].lookup
    (toHex data)).bind fromHex |>.getD []
  hmacSha256 _ _ := []

/-- The grant in the Service Admission vectors. -/
def grantService : Dict :=
  [("grant", .obj [("payload_json", .str grantPayload)]),
    ("grant_id_hash_derivation", .obj [("input_ascii_hex", .str grantIdHex),
      ("sha256_hex", .str grantDigestHex), ("base64url", .str grantHashText)])]

/-- The command that revokes it. -/
def grantCommand : Dict :=
  [("type", .str "revoke_service_admission"), ("message_id", .str "0NHS09TV1tfY2drb3N3e3w"),
    ("channel_id", .int 100), ("service_id", .str "admin"), ("grant_id_hash", .str grantHashText)]

/-- The spelling that the vector lists. -/
def spacedInput : Dict :=
  [("input_ascii_hex", .str spacedIdHex), ("sha256_hex", .str spacedDigestHex)]

/-- A snapshot with all counters at one value. -/
def evenSnapshot (epoch : String) (count : ℕ) : Json :=
  .obj [("counter_epoch", .str epoch),
    ("floor_interrupt", .obj (expectedCounterNames.map fun name => (name, .int count)))]

/-- Diagnostics with one poll and a rollover. -/
def grantDiagnostics : Dict :=
  [("minimum_poll_interval_ms", .int 10000), ("maximum_counter", .int maxSafeJsonInteger),
    ("counter_names", .arr (expectedCounterNames.map .str)), ("negotiation_cases", .arr []),
    ("polling_case", .obj [("requests", .arr [.obj [("at_monotonic_ms", .int 0),
      ("expected_result", .str "relay_diagnostics_snapshot")]])]),
    ("counter_domain_cases", .arr []),
    ("rollover_case", .obj [("before", evenSnapshot "AAECAwQFBgcICQoLDA0ODw" maxSafeJsonInteger),
      ("after", evenSnapshot "EBESExQVFhcYGRobHB0eHw" 0),
      ("expected_result", .str "accept_reset_before_overflow")]),
    ("redaction_cases", .arr [])]

/-- A Private Control Link document about this grant. -/
def grantDocument : Dict :=
  [("framing", .obj [("lengthEncoding", .str "U32BE"), ("minimumJsonLength", .int 2),
      ("maximumJsonLength", .int 65536), ("helloDeadlineSeconds", .int 5),
      ("minimumIdempotencyRetentionSeconds", .int 600)]),
    ("valid_messages", .arr [.obj [("type", .str "hello"), ("management_service_id", .str "main")],
      .obj grantCommand]),
    ("grant_id_hash_cross_vector", .obj [("source_vector", .str serviceAdmissionPath),
      ("expected_jti", .str "test-service-grant-0001"), ("input_ascii_hex", .str grantIdHex),
      ("sha256_hex", .str grantDigestHex), ("grant_id_hash", .str grantHashText),
      ("pcl_command_message_id", .str "0NHS09TV1tfY2drb3N3e3w"),
      ("negative_inputs", .arr [.obj spacedInput])]),
    ("service_id_cross_surface_vector", .obj [("grammar", .str managedServiceIdGrammar),
      ("source_csv_vector", .str relayCsvPath),
      ("source_service_admission_vector", .str serviceAdmissionPath),
      ("shared_service_id", .str "admin"), ("pcl_management_service_id", .str "main"),
      ("pcl_command_message_id", .str "0NHS09TV1tfY2drb3N3e3w"), ("valid", .arr [.str "A"]),
      ("invalid", .arr [.str ""])]),
    ("deployment_lifecycle_cases", .arr []), ("revocation_cases", .arr []),
    ("idempotency_cases", .arr []), ("deadline_validation_cases", .arr []),
    ("diagnostics_lifecycle", .obj grantDiagnostics), ("state_snapshot_cases", .arr [])]

/-- The root of the three documents. -/
def grantRoot : Root := fun path =>
  if path = privateControlLinkPath then .json (.obj grantDocument)
  else if path = serviceAdmissionPath then .json (.obj grantService)
  else fileRoot enabledService path

end IncomUdon.Lifecycle
