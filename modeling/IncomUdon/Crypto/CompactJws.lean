import IncomUdon.Crypto.Admission
import IncomUdon.Python.Base64
import IncomUdon.Python.Text

/-! The compact form of a token, read back. `_validate_jws` joins three encoded parts with dots,

        base64url(header) . base64url(payload) . base64url(signature)

    and no encoded part has a dot of its own. UNIQUE: the form splits into the three parts again, and
    what is signed determines header and payload. -/

namespace IncomUdon.Crypto
open IncomUdon.Python IncomUdon.Lib.ErrorLog

namespace Token
variable (token : Token)

theorem signingInput_toList : token.signingInput.toList
    = (base64url (encodeUtf8 token.protectedHeader)).toList
      ++ '.' :: (base64url (encodeUtf8 token.payload)).toList := by
  simp [signingInput]

theorem compact_toList :
    token.compact.toList = token.signingInput.toList ++ '.' :: (base64url token.signature).toList := by
  simp [compact]

/-- The compact form has two dots. -/
theorem count_dot_compact : token.compact.toList.count '.' = 2 := by
  have hparts : ∀ data, (base64url data).toList.count '.' = 0 := fun data =>
    List.count_eq_zero.mpr (dot_not_mem_base64url data)
  rw [compact_toList, signingInput_toList]
  simp [hparts]

/-- Cut at the dots, it is the three encoded parts. -/
theorem split_compact : split token.compact.toList '.'
    = [(base64url (encodeUtf8 token.protectedHeader)).toList,
      (base64url (encodeUtf8 token.payload)).toList, (base64url token.signature).toList] := by
  rw [compact_toList, split_append, signingInput_toList, split_append,
    split_of_not_mem (dot_not_mem_base64url _), split_of_not_mem (dot_not_mem_base64url _),
    split_of_not_mem (dot_not_mem_base64url _)]
  rfl

/-- What is signed determines header and payload. -/
theorem signingInput_inj {token token' : Token} (h : token.signingInput = token'.signingInput) :
    token.protectedHeader = token'.protectedHeader ∧ token.payload = token'.payload := by
  have hsplit : split token.signingInput.toList '.' = split token'.signingInput.toList '.' := by rw [h]
  simp only [signingInput_toList, split_append, split_of_not_mem (dot_not_mem_base64url _),
    List.singleton_append, List.cons.injEq, and_true, String.toList_inj] at hsplit
  obtain ⟨hheader, hpayload⟩ := hsplit
  exact ⟨encodeUtf8_injective (base64url_injective hheader),
    encodeUtf8_injective (base64url_injective hpayload)⟩

end Token

/-- Whatever the validator finds wrong, the compact form it returns is that of the header and the
    payload it was given, signed by the issuer. -/
theorem returns_validateJws {lib : AdmissionLibrary} {label : Msg} {value : Json} {seed key : Bytes}
    {compact : String} (h : Returns (validateJws lib label value seed key) compact) :
    ∃ (jws : Dict) (token : Token), value = .obj jws ∧
      Dict.get jws "protected_header_json" = .str token.protectedHeader ∧
      Dict.get jws "payload_json" = .str token.payload ∧
      lib.sign seed (bytesLiteral token.signingInput) = token.signature ∧
      token.compact = compact := by
  simp only [validateJws, Run.liftM_eq, returns_bind, returns_lift, asObject_eq_ok, asString_eq_ok,
    encodeAscii_eq_ok, require_eq_ok, returns_pure] at h
  obtain ⟨jws, rfl, protectedHeader, hheader, payload, hpayload, -, -, signing, hsigning, -, -, -, -,
    -, -, -, -, -, -, rfl⟩ := h
  obtain rfl : bytesLiteral (Token.signingInput ⟨protectedHeader, payload, []⟩) = signing :=
    Option.some.inj ((encodeAscii?_of_ascii (Token.asciiText_signingInput _)).symm.trans hsigning)
  exact ⟨jws, ⟨protectedHeader, payload, _⟩, rfl, hheader, hpayload, rfl, rfl⟩

/-- UNIQUE: the compact form of every header, payload and signature has two dots, and its three parts
    decode to the bytes they were made from; two pairs of header and payload are never signed as one;
    and the compact form that the validator returns is of this kind. -/
theorem compactJws_parses_back :
    (∀ (token : Token) (label : Msg), token.compact.toList.count '.' = 2 ∧
      ∃ header payload signature, split token.compact.toList '.' = [header, payload, signature] ∧
        base64urlDecode (.str (.ofList header)) label = .ok (encodeUtf8 token.protectedHeader) ∧
        base64urlDecode (.str (.ofList payload)) label = .ok (encodeUtf8 token.payload) ∧
        base64urlDecode (.str (.ofList signature)) label = .ok token.signature) ∧
    (∀ token token' : Token, token.signingInput = token'.signingInput →
      token.protectedHeader = token'.protectedHeader ∧ token.payload = token'.payload) ∧
    ∀ (lib : AdmissionLibrary) (label : Msg) (jws : Dict) (seed key : Bytes) (compact : String),
      Returns (validateJws lib label (.obj jws) seed key) compact →
      ∃ token : Token, Dict.get jws "protected_header_json" = .str token.protectedHeader ∧
        Dict.get jws "payload_json" = .str token.payload ∧
        lib.sign seed (bytesLiteral token.signingInput) = token.signature ∧
        token.compact = compact := by
  refine ⟨fun token label => ⟨token.count_dot_compact, ?_⟩, fun _ _ => Token.signingInput_inj,
    fun lib label jws seed key compact h => ?_⟩
  · refine ⟨_, _, _, token.split_compact, ?_, ?_, ?_⟩ <;>
      rw [String.ofList_toList, base64urlDecode_base64url]
  · obtain ⟨jws', token, hobj, htoken⟩ := returns_validateJws h
    cases hobj
    exact ⟨token, htoken⟩

theorem compactJws_parses_back_short :
    (Token.compact ⟨"header", "payload", [1, 2, 3]⟩).toList.count '.' = 2 :=
  (compactJws_parses_back.1 ⟨"header", "payload", [1, 2, 3]⟩ []).1

end IncomUdon.Crypto
