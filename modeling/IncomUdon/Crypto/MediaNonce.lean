import IncomUdon.Crypto.Credential

/-! AES-GCM v2 media packets, `_validate_aes_gcm_v2`. The nonce of a packet is a sum, in twelve bytes:

        media_nonce_base_96 + media_counter

    The protocol takes the sum modulo 2^96. The validator has a guard instead: a sum that does not fit
    is a validation error, so that a session never goes past the top of its range. NONCES: below the
    limit they are the protocol's, and no two counters of a session share one. -/

namespace IncomUdon.Crypto
open IncomUdon.Python IncomUdon.Loader IncomUdon.Lib.ErrorLog IncomUdon.Lib.BigEndian

/-- AES-256-GCM with a 12-byte nonce and a 16-byte tag. -/
structure AesGcm where
  /-- `AESGCM(key).encrypt(nonce, data, aad)`. -/
  encrypt : Bytes → Bytes → Bytes → Bytes → Bytes
  /-- `AESGCM(key).decrypt(nonce, data, aad)`, where none is `InvalidTag`. -/
  decrypt : Bytes → Bytes → Bytes → Bytes → Option Bytes

/-- The message of the guard. -/
def nonceOverflow : Msg := ["media nonce overflows 96 bits"]

/-- The nonce of a packet. -/
def mediaNonce (base : Bytes) (counter : ℕ) : Py Bytes := do
  let nonceValue := ofBE base + counter
  require (¬nonceValue ≥ 2 ^ 96) nonceOverflow
  return toBE 12 nonceValue

section Validator
variable (lib : KeyLibrary) (aes : AesGcm)

/-- The keys of the fixture: the channel and its media key. -/
def mediaKeys (document : Dict) : Check (ℕ × Bytes) := do
  let channelId ← integer (Dict.get document "channelId") ["aes-gcm-v2 channelId"] 0xFFFFFFFF
  let salt ← channelSalt lib channelId
  let expectedSalt ← hexBytesOfLength (Dict.get document "channelSaltHex") ["channelSaltHex"] 16
  compareBytes ["aes-gcm-v2 channel salt"] salt expectedSalt
  let passwordKey ← derive lib (Dict.get document "credentialKind") document salt
  let expectedPassword ← hexBytesOfLength (Dict.get document "passwordKeyHex") ["passwordKeyHex"] 32
  compareBytes ["aes-gcm-v2 password key"] passwordKey expectedPassword
  let key ← hkdfSha256 lib.hmac passwordKey [] mediaKeyInfo 32
  let expectedKey ← hexBytesOfLength (Dict.get document "keyHex") ["keyHex"] 32
  compareBytes ["aes-gcm-v2 media key"] key expectedKey
  return (channelId, key)

/-- The base and the nonce that are derived from the packet, and its counter. -/
def packetNonce (packet : Dict) : Check (Bytes × ℕ × Bytes) := do
  let base ← hexBytesOfLength (Dict.get packet "mediaNonceBase96Hex") ["mediaNonceBase96Hex"] 12
  let counter ← integer (Dict.get packet "mediaCounter") ["mediaCounter"] 0xFFFFFFFF
  let nonce ← mediaNonce base counter
  let expected ← hexBytesOfLength (Dict.get packet "derivedNonce96Hex") ["derivedNonce96Hex"] 12
  compareBytes ["aes-gcm-v2 nonce"] nonce expected
  return (base, counter, nonce)

/-- The header of the packet, which is its associated data. -/
def mediaHeader (document packet : Dict) (channelId : ℕ) (base : Bytes) (counter : ℕ) : Py Bytes := do
  let headerLen ← integer (Dict.get packet "headerLen") ["headerLen"] 0xFFFF
  let senderId ← integer (Dict.get packet "senderId") ["senderId"] 0xFFFFFFFF
  let seq ← integer (Dict.get packet "seq") ["seq"] 0xFFFF
  let flags ← integer (Dict.get packet "flags") ["flags"] 0xFFFF
  let mediaKeyId ← integer (Dict.get document "mediaKeyId") ["mediaKeyId"] 0xFFFFFFFF
  structPack [.uint 1 1, .uint 1 0x01, .uint 2 headerLen, .uint 4 channelId, .uint 4 senderId,
    .uint 2 seq, .uint 2 flags, .bytes 12 base, .uint 4 counter, .uint 4 mediaKeyId]

/-- The encrypted datagram. -/
def mediaDatagram (document : Dict) (key nonce header : Bytes) : Check Bytes := do
  let aad ← hexBytes (Dict.get document "aadHex") ["aadHex"]
  compareBytes ["aes-gcm-v2 AAD"] header aad
  let plaintext ← hexBytes (Dict.get document "plaintextHex") ["plaintextHex"]
  let encrypted := aes.encrypt key nonce plaintext header
  let expectedCiphertext ← hexBytes (Dict.get document "ciphertextHex") ["ciphertextHex"]
  compareBytes ["aes-gcm-v2 ciphertext"] (encrypted.take (encrypted.length - 16)) expectedCiphertext
  let expectedTag ← hexBytesOfLength (Dict.get document "tagHex") ["tagHex"] 16
  compareBytes ["aes-gcm-v2 tag"] (encrypted.drop (encrypted.length - 16)) expectedTag
  let datagram := header ++ encrypted
  let expectedDatagram ← hexBytes (Dict.get document "datagramHex") ["datagramHex"]
  compareBytes ["aes-gcm-v2 datagram"] datagram expectedDatagram
  return datagram

/-- The datagram with one byte changed must not authenticate. -/
def mutatedDatagram (document : Dict) (key nonce datagram : Bytes) : Check Unit := do
  let negative ← asObject (Dict.get document "negativeCase")
    ["aes-gcm-v2 negativeCase must be an object"]
  let offset ← integer (Dict.get negative "mutateOffset") ["negativeCase.mutateOffset"]
    (datagram.length - 1)
  let xor ← hexBytesOfLength (Dict.get negative "xor") ["negativeCase.xor"] 1
  let mask ← index xor 0
  let mutated := datagram.modify offset (· ^^^ mask)
  reportIf ((aes.decrypt key nonce (mutated.drop 36) (mutated.take 36)).isSome = true)
    ["aes-gcm-v2 mutated datagram unexpectedly authenticates"]

/-- `_validate_aes_gcm_v2`. -/
def validateAesGcmV2 (root : Root) : Check Unit := do
  let document ← load root "test-vectors/aes-gcm-v2.json"
  validateArgon2Parameters (Dict.get document "argon2id") ["aes-gcm-v2 argon2id"]
  let (channelId, key) ← mediaKeys lib document
  let packet ← asObject (Dict.get document "packet") ["aes-gcm-v2 packet must be an AUDIO object"]
  require ((Dict.get packet "type").eq (.str "AUDIO") = true)
    ["aes-gcm-v2 packet must be an AUDIO object"]
  let (base, counter, nonce) ← packetNonce packet
  let header ← mediaHeader document packet channelId base counter
  let datagram ← mediaDatagram aes document key nonce header
  mutatedDatagram aes document key nonce datagram

end Validator

section Nonce
variable {base nonce : Bytes} {counter : ℕ}

theorem mediaNonce_eq_ok : mediaNonce base counter = .ok nonce ↔
    ofBE base + counter < 2 ^ 96 ∧ toBE 12 (ofBE base + counter) = nonce := by
  simp only [mediaNonce, bind_eq_ok, require_eq_ok, not_le, ge_iff_le]
  constructor
  · rintro ⟨-, hlt, hret⟩
    exact ⟨hlt, Except.ok.inj hret⟩
  · rintro ⟨hlt, rfl⟩
    exact ⟨(), hlt, rfl⟩

/-- A packet that passes has the nonce of its base and counter. -/
theorem clean_packetNonce {packet : Dict} :
    Clean (packetNonce packet) (base, counter, nonce) ↔
      (IsHex (Dict.get packet "mediaNonceBase96Hex") base ∧ base.length = 12) ∧
      (Dict.get packet "mediaCounter" = .int counter ∧ counter ≤ 0xFFFFFFFF) ∧
      (ofBE base + counter < 2 ^ 96 ∧ toBE 12 (ofBE base + counter) = nonce) ∧
      IsHex (Dict.get packet "derivedNonce96Hex") nonce := by
  simp only [packetNonce, Run.liftM_eq, clean_bind, clean_lift, hexBytesOfLength_eq_ok,
    integer_eq_ok, mediaNonce_eq_ok, clean_compareBytes, clean_pure, exists_unit]
  constructor
  · rintro ⟨base, hbase, counter, hcounter, nonce, hnonce, _, ⟨hhex, -⟩, rfl, ⟨⟩⟩
    exact ⟨hbase, hcounter, hnonce, hhex⟩
  · rintro ⟨hbase, hcounter, hnonce, hhex⟩
    have hlength : nonce.length = 12 := by rw [← hnonce.2, length_toBE]
    exact ⟨base, hbase, counter, hcounter, nonce, hnonce, nonce, ⟨hhex, hlength⟩, rfl, rfl⟩

/-- FILE: the packet of a file that passes has the sum of base and counter as its nonce, and the sum
    fits. -/
theorem nonce_of_clean_validateAesGcmV2 {lib : KeyLibrary} {aes : AesGcm} {root : Root}
    (h : Clean (validateAesGcmV2 lib aes root) ()) :
    ∃ document packet base counter, root "test-vectors/aes-gcm-v2.json" = .json (.obj document) ∧
      Dict.get document "packet" = .obj packet ∧ IsHex (Dict.get packet "mediaNonceBase96Hex") base ∧
      Dict.get packet "mediaCounter" = .int (counter : ℕ) ∧ ofBE base + counter < 2 ^ 96 ∧
      IsHex (Dict.get packet "derivedNonce96Hex") (toBE 12 (ofBE base + counter)) := by
  simp only [validateAesGcmV2, Run.liftM_eq, clean_bind, clean_lift, load_eq_ok, asObject_eq_ok] at h
  obtain ⟨document, hdocument, -, -, -, -, packet, hpacket, -, -, ⟨base, counter, nonce⟩,
    hnonce, -⟩ := h
  obtain ⟨⟨hbase, -⟩, ⟨hcounter, -⟩, ⟨hlt, rfl⟩, hhex⟩ := clean_packetNonce.mp hnonce
  exact ⟨document, packet, base, counter, hdocument, hpacket, hbase, hcounter, hlt, hhex⟩

end Nonce

/-- NONCES: the sum of base and counter gives the nonce of the protocol as long as it fits 96 bits,
    and an error from there on; two counters of one session never have the same nonce. -/
theorem mediaNonce_below_limit (base : Bytes) (counter : ℕ) :
    (ofBE base + counter < 2 ^ 96 →
      mediaNonce base counter = .ok (toBE 12 ((ofBE base + counter) % 2 ^ 96))) ∧
    (2 ^ 96 ≤ ofBE base + counter →
      mediaNonce base counter = .error (.vectorValidation nonceOverflow)) ∧
    ∀ counter' nonce, mediaNonce base counter = .ok nonce → mediaNonce base counter' = .ok nonce →
      counter = counter' := by
  refine ⟨fun hlt => ?_, fun hle => ?_, fun counter' nonce h h' => ?_⟩
  · rw [Nat.mod_eq_of_lt hlt]
    exact mediaNonce_eq_ok.mpr ⟨hlt, rfl⟩
  · rw [mediaNonce, require, if_neg (not_not.mpr hle)]
    rfl
  · obtain ⟨hlt, hnonce⟩ := mediaNonce_eq_ok.mp h
    obtain ⟨hlt', hnonce'⟩ := mediaNonce_eq_ok.mp h'
    have hsum : ofBE base + counter = ofBE base + counter' :=
      (toBE_inj (by omega) (by omega)).mp (hnonce.trans hnonce'.symm)
    omega

theorem mediaNonce_below_limit_example :
    mediaNonce [1, 2, 3, 4, 5, 6, 7, 8, 9, 10, 11, 12] 42
      = .ok [1, 2, 3, 4, 5, 6, 7, 8, 9, 10, 11, 54] :=
  (mediaNonce_below_limit [1, 2, 3, 4, 5, 6, 7, 8, 9, 10, 11, 12] 42).1 (by decide)

/-- At the top of the range the second packet of a session has no nonce, where the protocol wraps to
    zero. -/
theorem mediaNonce_top :
    mediaNonce (List.replicate 12 0xff) 1 ≠
      .ok (toBE 12 ((ofBE (List.replicate 12 0xff) + 1) % 2 ^ 96)) := by
  intro h
  obtain ⟨hlt, -⟩ := mediaNonce_eq_ok.mp h
  exact absurd hlt (by decide)

end IncomUdon.Crypto
