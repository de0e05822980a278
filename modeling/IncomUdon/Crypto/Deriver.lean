import IncomUdon.Lib.Memo
import IncomUdon.Crypto.Credential

/-! `CredentialDeriver`, the object that the suite's validators share. Argon2id is
    expensive, so its keys are kept, by the normalised password and the salt; the object outlives a
    vector that fails, and the validator that it was made for:

        validator   password KDF         AES-GCM v2   Control Authentication
        calls       c₁  c₂ (fails)  c₃   c₄           c₅

    PLAIN: over any run of calls each ends as it would without the cache, and the costly function runs
    exactly once for each password and salt. -/

namespace IncomUdon.Crypto
open IncomUdon.Python IncomUdon.Lib IncomUdon.Lib.ErrorLog

/-- The object: `_argon2_cache`, and the inputs of `hash_secret_raw` so far. -/
abbrev CredentialDeriver := Memo.Answers (Bytes × Bytes) Bytes

/-- The arguments of `derive`. -/
structure DeriveCall where
  kind : Json
  vector : Dict
  salt : Bytes

namespace CredentialDeriver
variable (lib : KeyLibrary)

/-- `cache_key`. -/
def cacheKey (passphrase : String) (salt : Bytes) : Bytes × Bytes :=
  (encodeUtf8 (lib.nfc passphrase), salt)

/-- `argon2id_v1`. -/
def argon2idV1 (passphrase : String) (salt : Bytes) (deriver : CredentialDeriver) :
    Bytes × CredentialDeriver :=
  Memo.ask (fun key => lib.argon2id key.1 key.2) (cacheKey lib passphrase salt) deriver

/-- `derive`; the kinds but `argon2id-v1` leave the object alone. -/
def derive (call : DeriveCall) (deriver : CredentialDeriver) : Py Bytes × CredentialDeriver :=
  if call.kind.eq (.str "argon2id-v1") = true then
    match asString (Dict.get call.vector "passwordInput")
      ["argon2id-v1 vector requires passwordInput"] with
    | .error exc => (.error exc, deriver)
    | .ok password => (argon2idV1 lib password call.salt deriver).map .ok id
  else (Crypto.derive lib call.kind call.vector call.salt, deriver)

/-- The outcomes of the calls, one after another, on one object. -/
def run : List DeriveCall → CredentialDeriver → List (Py Bytes) × CredentialDeriver
  | [], deriver => ([], deriver)
  | call :: calls, deriver =>
    let (outcome, deriver) := derive lib call deriver
    (run calls deriver).map (outcome :: ·) id

/-- The call asks Argon2id for this password and salt. -/
def AsksFor (call : DeriveCall) (key : Bytes × Bytes) : Prop :=
  call.kind = .str "argon2id-v1" ∧
    ∃ passphrase, Dict.get call.vector "passwordInput" = .str passphrase ∧
      key = cacheKey lib passphrase call.salt

/-- What the object keeps is what Argon2id returns. -/
abbrev Valid (deriver : CredentialDeriver) : Prop :=
  Memo.Valid (fun key => lib.argon2id key.1 key.2) deriver

variable {lib} {deriver : CredentialDeriver}

/-- STEP: a call ends as it does without the cache, and leaves what Argon2id returns. -/
theorem derive_valid (h : Valid lib deriver) (call : DeriveCall) :
    (derive lib call deriver).1 = Crypto.derive lib call.kind call.vector call.salt ∧
    Valid lib (derive lib call deriver).2 ∧
    ∀ key, key ∈ (derive lib call deriver).2.evaluated ↔
      key ∈ deriver.evaluated ∨ AsksFor lib call key := by
  unfold derive Crypto.derive AsksFor
  by_cases hkind : call.kind.eq (.str "argon2id-v1") = true
  · rw [if_pos hkind, if_pos hkind]
    rw [Json.eq_str] at hkind
    rcases hpassword : asString (Dict.get call.vector "passwordInput")
      ["argon2id-v1 vector requires passwordInput"] with exc | password
    · refine ⟨rfl, h, fun key => (or_iff_left ?_).symm⟩
      rintro ⟨-, passphrase, hget, -⟩
      rw [asString_eq_ok.mpr hget] at hpassword
      cases hpassword
    · have hget := asString_eq_ok.mp hpassword
      refine ⟨?_, Memo.ask_valid h, fun key => ?_⟩
      · have hask : argon2idV1 lib password call.salt deriver = _ := Memo.ask_eq h
        exact congrArg (fun answer => Except.ok answer.1) hask
      · refine (Memo.mem_evaluated_ask h).trans (or_congr_right ?_)
        simp [hkind, hget]
  · rw [if_neg hkind, if_neg hkind]
    refine ⟨rfl, h, fun key => (or_iff_left ?_).symm⟩
    rintro ⟨hname, -⟩
    exact hkind (Json.eq_str.mpr hname)

theorem run_valid (h : Valid lib deriver) (calls : List DeriveCall) :
    (run lib calls deriver).1 = calls.map (fun call => Crypto.derive lib call.kind call.vector call.salt) ∧
    Valid lib (run lib calls deriver).2 ∧
    ∀ key, key ∈ (run lib calls deriver).2.evaluated ↔
      key ∈ deriver.evaluated ∨ ∃ call ∈ calls, AsksFor lib call key := by
  induction calls generalizing deriver with
  | nil => exact ⟨rfl, h, by simp [run]⟩
  | cons call calls ih =>
    obtain ⟨houtcome, hvalid, hasked⟩ := derive_valid h call
    obtain ⟨houtcomes, hvalid', hasked'⟩ := ih hvalid
    refine ⟨congrArg₂ List.cons houtcome houtcomes, hvalid', fun key => ?_⟩
    refine (hasked' key).trans ?_
    rw [hasked, or_assoc, List.exists_mem_cons_iff]

end CredentialDeriver

end IncomUdon.Crypto
