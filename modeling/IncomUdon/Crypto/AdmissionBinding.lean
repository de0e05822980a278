import IncomUdon.Crypto.Admission

/-! What an accepted admission document binds together. The begin payload carries a key, and
    acceptance ties to it

        the proof      its signature over the challenge, `ch`, `sid` and the token verifies
        the digest     the SHA-256 listed beside the keys is its own
        the token      the compact form is the one that the proof covers

    but not the claim `cnf.jkt`, which is never read, nor a sender other than 0. EXACT: a document is
    accepted exactly when its parts read so. -/

namespace IncomUdon.Crypto
open IncomUdon.Python IncomUdon.Loader IncomUdon.Lib.ErrorLog IncomUdon.Lib.BigEndian

/-- The parts of an admission document. -/
structure AdmissionParts where
  keys : Dict
  issuerSeed : Bytes
  subjectSeed : Bytes
  jws : Dict
  token : Token
  claims : Dict
  channelId : ℕ
  senderId : ℕ
  challenge : Dict
  challengeBytes : Bytes
  proof : Dict
  beginFixture : Dict
  denies : List Json

namespace AdmissionParts
variable (lib : AdmissionLibrary) (flow : AdmissionFlow) (parts : AdmissionParts)

def issuerPublic : Bytes := lib.publicKey parts.issuerSeed

def subjectPublic : Bytes := lib.publicKey parts.subjectSeed

def compactBytes : Bytes := bytesLiteral parts.token.compact

/-- The message that the proof signs. -/
def message : Bytes :=
  proofMessage lib flow parts.challengeBytes parts.channelId parts.senderId parts.compactBytes

end AdmissionParts

/-- The document has these parts, and each is accepted. -/
structure AcceptsAdmission (lib : AdmissionLibrary) (flow : AdmissionFlow) (document : Dict)
    (parts : AdmissionParts) : Prop where
  keys : Dict.get document "synthetic_keys" = .obj parts.keys
  issuerSeed : IsHex (Dict.get parts.keys "issuer_private_seed_hex") parts.issuerSeed ∧
    parts.issuerSeed.length = 32
  issuerPublic : IsHex (Dict.get parts.keys "issuer_public_key_hex") (parts.issuerPublic lib) ∧
    (parts.issuerPublic lib).length = 32
  subjectSeed : IsHex (Dict.get parts.keys (flow.subjectKeyName ++ "_private_seed_hex"))
    parts.subjectSeed ∧ parts.subjectSeed.length = 32
  subjectPublic : IsHex (Dict.get parts.keys (flow.subjectKeyName ++ "_public_key_hex"))
    (parts.subjectPublic lib) ∧ (parts.subjectPublic lib).length = 32
  digest : Dict.get parts.keys (flow.subjectKeyName ++ "_public_key_sha256_base64url")
    = .str (base64url (lib.sha256 (parts.subjectPublic lib)))
  jws : Dict.get document flow.jwsName = .obj parts.jws
  token : AcceptsJws lib parts.jws parts.issuerSeed (parts.issuerPublic lib) parts.token
  claims : lib.loads parts.token.payload = .ok (.obj parts.claims)
  channelId : Dict.get parts.claims "ch" = .int parts.channelId ∧ parts.channelId ≤ 0xFFFFFFFF
  senderId : Dict.get parts.claims "sid" = .int parts.senderId ∧ parts.senderId ≤ 0xFFFFFFFF
  challenge : Dict.get document (flow.flowPrefix ++ "_challenge") = .obj parts.challenge
  challengeBytes : IsHex (Dict.get parts.challenge "challenge_hex") parts.challengeBytes ∧
    parts.challengeBytes.length = 32
  challengePayload : AcceptsChallenge parts.challenge parts.challengeBytes
  proof : Dict.get document (flow.flowPrefix ++ "_proof") = .obj parts.proof
  signs : AcceptsProof lib parts.proof parts.subjectSeed (parts.subjectPublic lib)
    (parts.message lib flow)
  beginFixture : Dict.get document (flow.flowPrefix ++ "_begin") = .obj parts.beginFixture
  beginPayload : AcceptsBegin flow parts.beginFixture parts.compactBytes (parts.subjectPublic lib)
  denies : Dict.get document (flow.flowPrefix ++ "_deny_payloads") = .arr parts.denies
  denials : ∀ denial ∈ parts.denies, AcceptsDenial denial

section Accepted
variable {lib : AdmissionLibrary} {root : Root} {flow : AdmissionFlow}

/-- EXACT: the validator returns no error exactly when the parts of the document are accepted. -/
theorem clean_validateAdmission :
    Clean (validateAdmission lib root flow) () ↔
      ∃ document parts, root flow.relative = .json (.obj document) ∧
        AcceptsAdmission lib flow document parts := by
  simp only [validateAdmission, Run.liftM_eq, clean_bind, clean_lift, load_eq_ok, asObject_eq_ok,
    asArray_eq_ok, encodeAscii_eq_ok, clean_compare, Json.eq_str_left, exists_unit, Prod.exists,
    clean_validateKeyPair, clean_validateJws, clean_checkBegin, clean_checkChallenge,
    clean_checkDenials]
  constructor
  · rintro ⟨document, hdocument, keys, hkeys, issuerSeed, _, ⟨hissuer, hissuerPublic, rfl⟩,
      subjectSeed, _, ⟨hsubject, hsubjectPublic, rfl⟩, hdigest, _, ⟨jws, token, hjws, htoken, rfl⟩,
      channelId, senderId, hclaims, challenge, hchallenge, proof, hproof, _, hbytes, challengeBytes,
      hcheck, hbegin, hexpiry, denies, hdenies, hdenials⟩
    rw [hjws] at hclaims
    obtain ⟨claims, hloads, hchannel, hsender⟩ := (jwsClaims_eq_ok htoken.payload).mp hclaims
    obtain rfl := Option.some.inj ((encodeAscii?_of_ascii token.asciiText_compact).symm.trans hbytes)
    obtain ⟨hchallengeBytes, hsigns⟩ := (clean_checkProof hchannel.2 hsender.2).mp hcheck
    obtain ⟨beginFixture, hfixture, hpayload⟩ := hbegin
    exact ⟨document, ⟨keys, issuerSeed, subjectSeed, jws, token, claims, channelId, senderId,
      challenge, challengeBytes, proof, beginFixture, denies⟩, hdocument, hkeys, hissuer,
      hissuerPublic, hsubject, hsubjectPublic, hdigest, hjws, htoken, hloads, hchannel, hsender,
      hchallenge, hchallengeBytes, hexpiry, hproof, hsigns, hfixture, hpayload, hdenies, hdenials⟩
  · rintro ⟨document, parts, hdocument, h⟩
    refine ⟨document, hdocument, parts.keys, h.keys, _, _, ⟨h.issuerSeed, h.issuerPublic, rfl⟩, _, _,
      ⟨h.subjectSeed, h.subjectPublic, rfl⟩, h.digest, _, ⟨parts.jws, parts.token, h.jws,
      h.token, rfl⟩, parts.channelId, parts.senderId, ?_, parts.challenge, h.challenge, parts.proof,
      h.proof, _, encodeAscii?_of_ascii parts.token.asciiText_compact, parts.challengeBytes, ?_,
      ⟨parts.beginFixture, h.beginFixture, h.beginPayload⟩, h.challengePayload, parts.denies,
      h.denies, h.denials⟩
    · rw [h.jws]
      exact (jwsClaims_eq_ok h.token.payload).mpr ⟨parts.claims, h.claims, h.channelId, h.senderId⟩
    · exact (clean_checkProof h.channelId.2 h.senderId.2).mpr ⟨h.challengeBytes, h.signs⟩

/-- The key of the begin payload verifies the proof over the token and its claims, and it is the key
    whose digest is listed. -/
structure BindsKey (lib : AdmissionLibrary) (flow : AdmissionFlow) (parts : AdmissionParts)
    (key : Bytes) : Prop where
  begins : IsHex (Dict.get parts.beginFixture "payload_hex")
    (toBE 2 parts.compactBytes.length ++ parts.compactBytes ++ key)
  proves : ∃ signature, IsHex (Dict.get parts.proof "signature_hex") signature ∧
    lib.verify key signature (parts.message lib flow) = true
  digest : Dict.get parts.keys (flow.subjectKeyName ++ "_public_key_sha256_base64url")
    = .str (base64url (lib.sha256 key))
  channelId : Dict.get parts.claims "ch" = .int parts.channelId ∧ parts.channelId ≤ 0xFFFFFFFF
  senderId : Dict.get parts.claims "sid" = .int parts.senderId ∧ parts.senderId ≤ 0xFFFFFFFF

/-- BINDING: an accepted document binds a key. -/
theorem acceptedAdmission_bindsKey (h : Clean (validateAdmission lib root flow) ()) :
    ∃ document parts key, root flow.relative = .json (.obj document) ∧
      AcceptsAdmission lib flow document parts ∧ BindsKey lib flow parts key := by
  obtain ⟨document, parts, hdocument, haccepts⟩ := clean_validateAdmission.mp h
  exact ⟨document, parts, parts.subjectPublic lib, hdocument, haccepts, haccepts.beginPayload.payload,
    ⟨_, haccepts.signs.signature, haccepts.signs.verifies⟩, haccepts.digest, haccepts.channelId,
    haccepts.senderId⟩

end Accepted

/-! ### A ticket for another key -/

/-- The member `cnf.jkt` of the claims. -/
def confirmationKey (claims : Dict) : Json :=
  match Dict.get claims "cnf" with
  | .obj confirmation => Dict.get confirmation "jkt"
  | _ => .null

namespace ForeignTicket

/-- The two key pairs of the vectors. -/
def issuerSeed : Bytes :=
  [157, 97, 177, 157, 239, 253, 90, 96, 186, 132, 74, 244, 146, 236, 44, 196, 68, 73, 197,
   105, 123, 50, 105, 25, 112, 59, 172, 3, 28, 174, 127, 96]

def issuerKey : Bytes :=
  [215, 90, 152, 1, 130, 177, 10, 183, 213, 75, 254, 211, 201, 100, 7, 58, 14, 225, 114, 243,
   218, 166, 35, 37, 175, 2, 26, 104, 247, 7, 81, 26]

def clientSeed : Bytes :=
  [76, 205, 8, 155, 40, 255, 150, 218, 157, 182, 195, 70, 236, 17, 78, 15, 91, 138, 49, 159,
   53, 171, 166, 36, 218, 140, 246, 237, 79, 184, 166, 251]

def clientKey : Bytes :=
  [61, 64, 23, 195, 232, 67, 137, 90, 146, 183, 10, 167, 77, 27, 126, 188, 156, 152, 44, 207,
   46, 196, 150, 140, 192, 205, 85, 241, 42, 244, 102, 12]

/-- The signature of the issuer over the signing input. -/
def jwsSignature : Bytes :=
  [93, 38, 69, 59, 9, 19, 108, 124, 161, 10, 67, 245, 85, 119, 50, 202, 243, 33, 246, 79, 57,
   23, 208, 159, 236, 205, 246, 5, 16, 121, 24, 220, 226, 176, 58, 42, 244, 255, 128, 227,
   216, 82, 29, 223, 132, 150, 95, 65, 190, 196, 20, 113, 57, 116, 74, 90, 135, 187, 2, 137,
   242, 72, 131, 9]

/-- The claims name the key of the issuer, and the sender 0. -/
def claims : Dict :=
  [("ch", .int 100), ("cnf", .obj [("jkt", .str "If4x36FUomFia_hUBG_SJxt77UtqvkWqWId-9H-XIbk")]),
    ("sid", .int 0)]

def token : Token where
  protectedHeader := "\x7b\x7d"
  payload :=
    "\x7b\"ch\":100,\"cnf\":\x7b\"jkt\":\"If4x36FUomFia_hUBG_SJxt77UtqvkWqWId-9H-XIbk\"\x7d,\"sid\":0\x7d"
  signature := jwsSignature

def challenge : Bytes := (List.range 32).map UInt8.ofNat

/-- The SHA-256 of the client's key, of the compact form, and of what the proof hashes. -/
def keyHash : Bytes :=
  [57, 247, 19, 208, 166, 68, 37, 63, 4, 82, 148, 33, 185, 245, 27, 155, 8, 151, 157, 8, 41,
   89, 89, 196, 243, 153, 14, 230, 23, 245, 19, 159]

def compactHash : Bytes :=
  [42, 94, 97, 61, 246, 19, 245, 4, 99, 253, 88, 9, 190, 218, 136, 12, 255, 142, 132, 132,
   162, 228, 136, 198, 133, 42, 143, 120, 94, 209, 28, 14]

def message : Bytes :=
  [212, 22, 146, 84, 48, 35, 236, 124, 80, 27, 178, 24, 78, 138, 59, 50, 1, 116, 66, 117, 200,
   202, 77, 68, 141, 250, 189, 79, 15, 129, 96, 146]

/-- The signature of the client over the message. -/
def proofSignature : Bytes :=
  [49, 240, 46, 196, 134, 219, 113, 168, 120, 10, 48, 160, 22, 75, 35, 247, 55, 106, 16, 241,
   140, 254, 138, 220, 31, 148, 156, 64, 205, 78, 185, 62, 15, 120, 45, 23, 129, 38, 97, 232,
   148, 118, 209, 122, 110, 136, 200, 150, 65, 59, 40, 57, 6, 218, 56, 141, 203, 148, 23, 130,
   153, 48, 113, 10]

/-- SHA-256 on what is hashed of the fixture. -/
def sha256 (data : Bytes) : Bytes :=
  if data = clientKey then keyHash
  else if data = bytesLiteral token.compact then compactHash
  else if data = identityAdmission.domain ++ challenge ++ (toBE 4 100 ++ toBE 4 0) ++ compactHash then
    message
  else []

/-- The public keys of the two seeds. -/
def publicKey (seed : Bytes) : Bytes :=
  if seed = issuerSeed then issuerKey else if seed = clientSeed then clientKey else seed

/-- The signatures under the two keys. -/
def signature (key data : Bytes) : Bytes :=
  if key = issuerKey ∧ data = bytesLiteral token.signingInput then jwsSignature
  else if key = clientKey ∧ data = message then proofSignature
  else []

/-- The library on the fixture. -/
def library : AdmissionLibrary where
  publicKey := publicKey
  sign seed := signature (publicKey seed)
  verify key signed data := signed = signature key data
  loads text := if text = token.payload then .ok (.obj claims) else fails .jsonDecodeError
  sha256 := sha256

def keys : Dict :=
  [("issuer_private_seed_hex", .str (toHex issuerSeed)), ("issuer_public_key_hex", .str (toHex issuerKey)),
    ("client_private_seed_hex", .str (toHex clientSeed)), ("client_public_key_hex", .str (toHex clientKey)),
    ("client_public_key_sha256_base64url", .str (base64url keyHash))]

def jws : Dict :=
  [("protected_header_json", .str token.protectedHeader), ("payload_json", .str token.payload),
    ("signing_input_ascii", .str token.signingInput),
    ("signature_base64url", .str (base64url jwsSignature)), ("compact_jws", .str token.compact),
    ("byte_length", .int (bytesLiteral token.compact).length)]

def challengeFixture : Dict :=
  [("expiry_unix_seconds", .int 1700000030), ("challenge_hex", .str (toHex challenge)),
    ("payload_hex", .str (toHex (toBE 4 1700000030 ++ challenge)))]

def proofFixture : Dict :=
  [("message_sha256_hex", .str (toHex message)), ("signature_hex", .str (toHex proofSignature))]

def beginFixture : Dict :=
  [("ticket_length", .int (bytesLiteral token.compact).length),
    ("payload_hex", .str (toHex (beginPayload (bytesLiteral token.compact) clientKey))),
    ("authenticated_datagram_bytes",
      .int (28 + (beginPayload (bytesLiteral token.compact) clientKey).length + 16))]

def document : Dict :=
  [("synthetic_keys", .obj keys), ("ticket", .obj jws), ("identity_challenge", .obj challengeFixture),
    ("identity_proof", .obj proofFixture), ("identity_begin", .obj beginFixture),
    ("identity_deny_payloads", .arr [.obj [("reason_byte", .int 1), ("payload_hex", .str (toHex [1]))]])]

/-- The repository that holds it. -/
def root : Root := fun path =>
  if path = identityAdmission.relative then .json (.obj document) else .unreadable "not found"

def parts : AdmissionParts where
  keys := keys
  issuerSeed := issuerSeed
  subjectSeed := clientSeed
  jws := jws
  token := token
  claims := claims
  channelId := 100
  senderId := 0
  challenge := challengeFixture
  challengeBytes := challenge
  proof := proofFixture
  beginFixture := beginFixture
  denies := [.obj [("reason_byte", .int 1), ("payload_hex", .str (toHex [1]))]]

theorem bytesLiteral_append (text text' : String) :
    bytesLiteral (text ++ text') = bytesLiteral text ++ bytesLiteral text' := by
  simp [bytesLiteral]

theorem length_bytesLiteral_base64url (data : Bytes) :
    (bytesLiteral (base64url data)).length = (base64urlGroups data).length := by
  simp [bytesLiteral, base64url]

theorem head?_compact : (bytesLiteral token.compact).head? = some 101 := by
  have hheader : bytesLiteral (base64url (encodeUtf8 token.protectedHeader)) = [101, 51, 48] := by
    decide +kernel
  simp [Token.compact, Token.signingInput, bytesLiteral_append, hheader]

theorem length_compact : (bytesLiteral token.compact).length = 195 := by
  have hheader : (base64urlGroups (encodeUtf8 token.protectedHeader)).length = 3 := by decide +kernel
  have hpayload : (base64urlGroups (encodeUtf8 token.payload)).length = 104 := by decide +kernel
  have hsignature : (base64urlGroups token.signature).length = 86 := by decide +kernel
  have hdot : (bytesLiteral ".").length = 1 := by decide +kernel
  simp only [Token.compact, Token.signingInput, bytesLiteral_append, List.length_append,
    length_bytesLiteral_base64url, hheader, hpayload, hsignature, hdot]

/-- What the proof hashes starts with the domain. -/
def hashed : Bytes := identityAdmission.domain ++ challenge ++ (toBE 4 100 ++ toBE 4 0) ++ compactHash

theorem head?_hashed : hashed.head? = some 105 := by
  have hdomain : identityAdmission.domain.head? = some 105 := by decide +kernel
  simp [hashed, List.head?_append, hdomain]

theorem sha256_key : sha256 clientKey = keyHash := if_pos rfl

theorem sha256_compact : sha256 (bytesLiteral token.compact) = compactHash := by
  have hkey : bytesLiteral token.compact ≠ clientKey :=
    ne_of_apply_ne List.head? (by rw [head?_compact]; decide)
  rw [sha256, if_neg hkey, if_pos rfl]

theorem sha256_hashed : sha256 hashed = message := by
  have hkey : hashed ≠ clientKey := ne_of_apply_ne List.head? (by rw [head?_hashed]; decide)
  have hcompact : hashed ≠ bytesLiteral token.compact :=
    ne_of_apply_ne List.head? (by rw [head?_hashed, head?_compact]; decide)
  rw [sha256, if_neg hkey, if_neg hcompact]
  exact if_pos rfl

theorem publicKey_issuer : publicKey issuerSeed = issuerKey := if_pos rfl

theorem publicKey_client : publicKey clientSeed = clientKey := by decide +kernel

theorem signature_issuer : signature issuerKey (bytesLiteral token.signingInput) = jwsSignature :=
  if_pos ⟨rfl, rfl⟩

theorem signature_client : signature clientKey message = proofSignature := by
  have hother : clientKey ≠ issuerKey := by decide
  rw [signature, if_neg fun h => hother h.1]
  exact if_pos ⟨rfl, rfl⟩

theorem loads_payload : library.loads token.payload = .ok (.obj claims) := by simp [library]

theorem library_sha256 : library.sha256 = sha256 := rfl

theorem message_eq : parts.message library identityAdmission = message := by
  rw [← sha256_hashed, AdmissionParts.message, proofMessage, AdmissionParts.compactBytes,
    library_sha256, show parts.token = token from rfl, sha256_compact]
  rfl

theorem acceptsJws : AcceptsJws library jws issuerSeed issuerKey token where
  protectedHeader := rfl
  payload := rfl
  signingInput := rfl
  signs := by
    rw [show library.sign issuerSeed = signature (publicKey issuerSeed) from rfl, publicKey_issuer]
    exact signature_issuer
  signature := rfl
  compact := rfl
  byteLength := Json.eq_int_int.mpr rfl
  verifies := decide_eq_true signature_issuer.symm

theorem acceptsProof : AcceptsProof library proofFixture clientSeed clientKey message := by
  have hsign : library.sign clientSeed message = proofSignature := by
    rw [← signature_client, ← publicKey_client]
    rfl
  constructor
  · exact isHex_toHex message
  · rfl
  · rw [hsign]
    exact isHex_toHex proofSignature
  · rw [hsign]
    rfl
  · rw [hsign]
    exact decide_eq_true signature_client.symm

theorem acceptsBegin :
    AcceptsBegin identityAdmission beginFixture (bytesLiteral token.compact) clientKey where
  lengthFits := by rw [length_compact]; norm_num
  payload := isHex_toHex _
  jwsLength := Json.eq_int_int.mpr rfl
  datagramLength := Json.eq_int_int.mpr rfl

theorem accepts : AcceptsAdmission library identityAdmission document parts := by
  have hissuer : parts.issuerPublic library = issuerKey := publicKey_issuer
  have hclient : parts.subjectPublic library = clientKey := publicKey_client
  have hdenial : AcceptsDenial (.obj [("reason_byte", .int 1), ("payload_hex", .str (toHex [1]))]) :=
    ⟨_, rfl, 1, ⟨rfl, by decide⟩, isHex_toHex [1]⟩
  exact {
    keys := rfl
    issuerSeed := ⟨isHex_toHex issuerSeed, rfl⟩
    issuerPublic := by rw [hissuer]; exact ⟨isHex_toHex issuerKey, rfl⟩
    subjectSeed := ⟨isHex_toHex clientSeed, rfl⟩
    subjectPublic := by rw [hclient]; exact ⟨isHex_toHex clientKey, rfl⟩
    digest := by rw [hclient, library_sha256, sha256_key]; rfl
    jws := rfl
    token := by rw [hissuer]; exact acceptsJws
    claims := loads_payload
    channelId := ⟨rfl, by decide⟩
    senderId := ⟨rfl, by decide⟩
    challenge := rfl
    challengeBytes := ⟨isHex_toHex challenge, rfl⟩
    challengePayload := ⟨1700000030, ⟨rfl, by decide⟩, isHex_toHex _⟩
    proof := rfl
    signs := by rw [hclient, message_eq]; exact acceptsProof
    beginFixture := rfl
    beginPayload := by rw [hclient]; exact acceptsBegin
    denies := rfl
    denials := List.forall_mem_singleton.mpr hdenial }

/-- The validator accepts it. -/
theorem clean : Clean (validateAdmission library root identityAdmission) () :=
  clean_validateAdmission.mpr ⟨document, parts, if_pos rfl, accepts⟩

end ForeignTicket

/-- What the acceptance of the ticket binds. -/
theorem acceptedAdmission_bindsKey_foreign :
    ∃ document parts key,
      ForeignTicket.root identityAdmission.relative = .json (.obj document) ∧
      AcceptsAdmission ForeignTicket.library identityAdmission document parts ∧
      BindsKey ForeignTicket.library identityAdmission parts key :=
  acceptedAdmission_bindsKey ForeignTicket.clean

/-- The ticket is accepted with a key in its begin payload that its claims do not name, and with the
    sender 0. -/
theorem foreignTicket_accepted :
    (∀ seed data, ForeignTicket.library.verify (ForeignTicket.library.publicKey seed)
      (ForeignTicket.library.sign seed data) data = true) ∧
    Clean (validateAdmission ForeignTicket.library ForeignTicket.root identityAdmission) () ∧
    AcceptsAdmission ForeignTicket.library identityAdmission ForeignTicket.document
      ForeignTicket.parts ∧
    confirmationKey ForeignTicket.claims ≠ .str (base64url
      (ForeignTicket.library.sha256 (ForeignTicket.parts.subjectPublic ForeignTicket.library))) ∧
    Dict.get ForeignTicket.claims "sid" = .int 0 := by
  have hclient : ForeignTicket.parts.subjectPublic ForeignTicket.library = ForeignTicket.clientKey :=
    ForeignTicket.publicKey_client
  have hdigest : "If4x36FUomFia_hUBG_SJxt77UtqvkWqWId-9H-XIbk" ≠ base64url ForeignTicket.keyHash := by
    decide +kernel
  refine ⟨fun seed data => decide_eq_true rfl, ForeignTicket.clean, ForeignTicket.accepts, ?_, rfl⟩
  rw [hclient, ForeignTicket.library_sha256, ForeignTicket.sha256_key]
  exact fun h => hdigest (Json.str.inj h)

end IncomUdon.Crypto
