import IncomUdon.Python.Outcome

/-! Decoding URL-safe Base64, as `base64.urlsafe_b64decode` does it. Four digits make three bytes;
    `-` and `_` are first replaced by `+` and `/`, what is no digit is skipped, and a padding that
    closes a group of four ends the input:

        digits of a group    0    1    2    3
        bytes so far         0    0    1    2      2 needs `==`, 3 needs `=`, 1 is an error

    ROUND TRIP: the decoder undoes `base64url`, with the padding computed from the length. -/

namespace IncomUdon.Python
open IncomUdon.Lib.ErrorLog

/-- The translation of the URL-safe digits to the standard ones. -/
def standardDigit (c : Char) : Char := if c = '-' then '+' else if c = '_' then '/' else c

/-- The value of a Base64 digit. -/
def sextet? (c : Char) : Option ℕ :=
  if 'A' ≤ c ∧ c ≤ 'Z' then some (c.toNat - 'A'.toNat)
  else if 'a' ≤ c ∧ c ≤ 'z' then some (c.toNat - 'a'.toNat + 26)
  else if '0' ≤ c ∧ c ≤ '9' then some (c.toNat - '0'.toNat + 52)
  else if c = '+' then some 62
  else if c = '/' then some 63
  else none

/-- `binascii.a2b_base64`: `digits` have been read of the current group, `left` are the bits of the
    last one that are not in a byte yet, and `pads` padding characters came after it. -/
def a2bBase64 (digits left pads : ℕ) : List Char → Option Bytes
  | [] => if digits = 0 then some [] else none
  | c :: rest =>
    if c = '=' then
      if 2 ≤ digits then
        if 4 ≤ digits + (pads + 1) then some [] else a2bBase64 digits left (pads + 1) rest
      else a2bBase64 digits left pads rest
    else
      match sextet? c with
      | none => a2bBase64 digits left pads rest
      | some value =>
        match digits with
        | 0 => a2bBase64 1 value 0 rest
        | 1 => (a2bBase64 2 (value % 16) 0 rest).map (UInt8.ofNat (left * 4 + value / 16) :: ·)
        | 2 => (a2bBase64 3 (value % 4) 0 rest).map (UInt8.ofNat (left * 16 + value / 4) :: ·)
        | _ => (a2bBase64 0 0 0 rest).map (UInt8.ofNat (left * 64 + value) :: ·)

/-- `base64.urlsafe_b64decode(text)`; none is a `ValueError`. -/
def urlsafeB64decode (text : List Char) : Option Bytes :=
  if text.all (·.toNat < 128) then a2bBase64 0 0 0 (text.map standardDigit) else none

/-- `"=" * (-len(value) % 4)`. -/
def padding (text : List Char) : List Char := List.replicate ((4 - text.length % 4) % 4) '='

/-- `_base64url_decode`. -/
def base64urlDecode (value : Json) (label : Msg) : Py Bytes :=
  match value with
  | .str text =>
    match urlsafeB64decode (text.toList ++ padding text.toList) with
    | some data => .ok data
    | none => invalid (label.add [" is not valid Base64URL"])
  | _ => invalid (label.add [" must be a Base64URL string"])

/-! ### Round trip -/

/-- The digit of a group of six bits. -/
def base64urlDigit (group : ℕ) : Char := base64urlAlphabet.getD group 'A'

/-- Each digit is read back, is no padding and no separator of a compact token. -/
theorem base64urlDigit_spec :
    ∀ group < 64, sextet? (standardDigit (base64urlDigit group)) = some group ∧
    standardDigit (base64urlDigit group) ≠ '=' ∧ base64urlDigit group ≠ '.' := by
  decide +kernel

theorem base64urlGroups_lt : ∀ (data : Bytes), ∀ group ∈ base64urlGroups data, group < 64
  | a :: b :: c :: rest => by
    have ha := a.toNat_lt
    have hb := b.toNat_lt
    have hc := c.toNat_lt
    simp only [base64urlGroups, List.forall_mem_cons]
    exact ⟨by omega, by omega, by omega, by omega, base64urlGroups_lt rest⟩
  | [a, b] => by
    have ha := a.toNat_lt
    have hb := b.toNat_lt
    simp only [base64urlGroups, List.forall_mem_cons, List.not_mem_nil, false_implies, implies_true,
      and_true]
    omega
  | [a] => by
    have ha := a.toNat_lt
    simp only [base64urlGroups, List.forall_mem_cons, List.not_mem_nil, false_implies, implies_true,
      and_true]
    omega
  | [] => nofun

section Decode
variable {group left pads : ℕ} {rest : List Char}

/-! One digit of a group at a time. -/

theorem a2bBase64_first (h : group < 64) :
    a2bBase64 0 left pads (standardDigit (base64urlDigit group) :: rest)
      = a2bBase64 1 group 0 rest := by
  obtain ⟨hvalue, hpad, -⟩ := base64urlDigit_spec group h
  rw [a2bBase64, if_neg hpad, hvalue]
  rfl

theorem a2bBase64_second (h : group < 64) :
    a2bBase64 1 left pads (standardDigit (base64urlDigit group) :: rest)
      = (a2bBase64 2 (group % 16) 0 rest).map (UInt8.ofNat (left * 4 + group / 16) :: ·) := by
  obtain ⟨hvalue, hpad, -⟩ := base64urlDigit_spec group h
  rw [a2bBase64, if_neg hpad, hvalue]
  rfl

theorem a2bBase64_third (h : group < 64) :
    a2bBase64 2 left pads (standardDigit (base64urlDigit group) :: rest)
      = (a2bBase64 3 (group % 4) 0 rest).map (UInt8.ofNat (left * 16 + group / 4) :: ·) := by
  obtain ⟨hvalue, hpad, -⟩ := base64urlDigit_spec group h
  rw [a2bBase64, if_neg hpad, hvalue]
  rfl

theorem a2bBase64_fourth (h : group < 64) :
    a2bBase64 3 left pads (standardDigit (base64urlDigit group) :: rest)
      = (a2bBase64 0 0 0 rest).map (UInt8.ofNat (left * 64 + group) :: ·) := by
  obtain ⟨hvalue, hpad, -⟩ := base64urlDigit_spec group h
  rw [a2bBase64, if_neg hpad, hvalue]
  rfl

end Decode

theorem ofNat_of_eq {n : ℕ} {byte : UInt8} (h : n = byte.toNat) : UInt8.ofNat n = byte := by
  rw [h, UInt8.ofNat_toNat]

/-- Three bytes are four digits, and one or two bytes are two or three digits and their padding. -/
theorem a2bBase64_groups : ∀ data : Bytes,
    a2bBase64 0 0 0 ((base64urlGroups data).map (fun group => standardDigit (base64urlDigit group))
      ++ List.replicate ((4 - (base64urlGroups data).length % 4) % 4) '=') = some data
  | a :: b :: c :: rest => by
    have ha := a.toNat_lt
    have hb := b.toNat_lt
    have hc := c.toNat_lt
    have hcount : (base64urlGroups (a :: b :: c :: rest)).length % 4
        = (base64urlGroups rest).length % 4 := by
      simp only [base64urlGroups, List.length_cons]
      omega
    rw [hcount]
    simp only [base64urlGroups, List.map_cons, List.cons_append]
    rw [a2bBase64_first (by omega), a2bBase64_second (by omega), a2bBase64_third (by omega),
      a2bBase64_fourth (by omega), a2bBase64_groups rest]
    simp only [Option.map_some, Option.some.injEq, List.cons.injEq, and_true]
    exact ⟨ofNat_of_eq (by omega), ofNat_of_eq (by omega), ofNat_of_eq (by omega)⟩
  | [a, b] => by
    have ha := a.toNat_lt
    have hb := b.toNat_lt
    simp only [base64urlGroups, List.map_cons, List.map_nil, List.cons_append, List.nil_append]
    rw [a2bBase64_first (by omega), a2bBase64_second (by omega), a2bBase64_third (by omega)]
    simp only [List.length_cons, List.length_nil, Nat.reduceAdd, Nat.reduceMod, Nat.reduceSub,
      List.replicate_succ, List.replicate_zero, a2bBase64, if_true, Nat.reduceLeDiff,
      Option.map_some, Option.some.injEq, List.cons.injEq, and_true]
    exact ⟨ofNat_of_eq (by omega), ofNat_of_eq (by omega)⟩
  | [a] => by
    have ha := a.toNat_lt
    simp only [base64urlGroups, List.map_cons, List.map_nil, List.cons_append, List.nil_append]
    rw [a2bBase64_first (by omega), a2bBase64_second (by omega)]
    simp only [List.length_cons, List.length_nil, Nat.reduceAdd, Nat.reduceMod, Nat.reduceSub,
      List.replicate_succ, List.replicate_zero, a2bBase64, if_true, if_false, Nat.reduceLeDiff,
      Option.map_some, Option.some.injEq, List.cons.injEq, and_true]
    exact ofNat_of_eq (by omega)
  | [] => rfl

/-- ROUND TRIP: what was encoded is decoded. -/
theorem base64urlDecode_base64url (data : Bytes) (label : Msg) :
    base64urlDecode (.str (base64url data)) label = .ok data := by
  have hascii := asciiText_base64url data
  have hpadding : ∀ c ∈ padding (base64url data).toList, c.toNat < 128 := by
    intro c hc
    rw [List.eq_of_mem_replicate hc]
    decide
  have hdecode : urlsafeB64decode ((base64url data).toList ++ padding (base64url data).toList)
      = some data := by
    have hpad : standardDigit '=' = '=' := rfl
    rw [urlsafeB64decode, if_pos (by simpa [or_imp, forall_and] using ⟨hascii, hpadding⟩), padding,
      List.map_append, List.map_replicate, hpad, base64url, String.toList_ofList, List.map_map,
      List.length_map]
    exact a2bBase64_groups data
  rw [base64urlDecode, hdecode]

/-- Encoded text has no separator of a compact token. -/
theorem dot_not_mem_base64url (data : Bytes) : '.' ∉ (base64url data).toList := by
  intro h
  rw [base64url, String.toList_ofList, List.mem_map] at h
  obtain ⟨group, hgroup, hdot⟩ := h
  obtain ⟨-, -, hne⟩ := base64urlDigit_spec group (base64urlGroups_lt data group hgroup)
  exact hne hdot

/-- Equal texts encode equal bytes. -/
theorem base64url_injective {data data' : Bytes} (h : base64url data = base64url data') :
    data = data' := by
  have hdecode := base64urlDecode_base64url data []
  rw [h, base64urlDecode_base64url] at hdecode
  exact (Except.ok.inj hdecode).symm

end IncomUdon.Python
