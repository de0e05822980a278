import IncomUdon.Lib.BigEndian

/-! Byte strings: `bytes.fromhex`, `bytes(iterable)`, `ljust` and the big-endian `struct.pack`.
    Hexadecimal text may have ASCII white space between two bytes, never inside one. A field that
    does not fit its format character makes `struct.pack` fail. -/

namespace IncomUdon.Python
open IncomUdon.Lib.BigEndian

abbrev Bytes := List UInt8

/-- The white space that `bytes.fromhex` skips. -/
def isSpace (c : Char) : Bool := c = ' ' || ('\t' ≤ c && c ≤ '\r')

/-- The value of a hexadecimal digit. -/
def hexDigit? (c : Char) : Option ℕ :=
  if '0' ≤ c ∧ c ≤ '9' then some (c.toNat - '0'.toNat)
  else if 'a' ≤ c ∧ c ≤ 'f' then some (c.toNat - 'a'.toNat + 10)
  else if 'A' ≤ c ∧ c ≤ 'F' then some (c.toNat - 'A'.toNat + 10)
  else none

/-- `bytes.fromhex` on the characters of a string. -/
def fromHexChars : List Char → Option Bytes
  | [] => some []
  | [c] => if isSpace c then some [] else none
  | c :: d :: rest =>
    if isSpace c then fromHexChars (d :: rest)
    else
      match hexDigit? c, hexDigit? d with
      | some hi, some lo => (fromHexChars rest).map (UInt8.ofNat (16 * hi + lo) :: ·)
      | _, _ => none

/-- `bytes.fromhex(text)`. -/
def fromHex (text : String) : Option Bytes := fromHexChars text.toList

/-- `data.hex()`. -/
def toHex (data : Bytes) : String :=
  .ofList (data.flatMap fun byte => [Nat.digitChar (byte.toNat / 16), Nat.digitChar (byte.toNat % 16)])

/-- `text.encode("ascii")`. -/
def encodeAscii? (text : String) : Option Bytes :=
  if text.toList.all (·.toNat < 128) then some (text.toList.map fun c => UInt8.ofNat c.toNat) else none

/-- `data.decode("ascii")` succeeds. -/
def isAscii (data : Bytes) : Bool := data.all (·.toNat < 128)

/-- The characters of URL-safe Base64. -/
def base64urlAlphabet : List Char :=
  "ABCDEFGHIJKLMNOPQRSTUVWXYZabcdefghijklmnopqrstuvwxyz0123456789-_".toList

/-- Three bytes are four groups of six bits; the last group is shorter and unpadded. -/
def base64urlGroups : Bytes → List ℕ
  | a :: b :: c :: rest =>
    let n := 65536 * a.toNat + 256 * b.toNat + c.toNat
    n / 262144 :: n / 4096 % 64 :: n / 64 % 64 :: n % 64 :: base64urlGroups rest
  | [a, b] =>
    let n := 1024 * a.toNat + 4 * b.toNat
    [n / 4096, n / 64 % 64, n % 64]
  | [a] => [a.toNat / 4, a.toNat % 4 * 16]
  | [] => []

/-- `base64.urlsafe_b64encode(data).rstrip(b"=")`. -/
def base64url (data : Bytes) : String :=
  .ofList ((base64urlGroups data).map fun group => base64urlAlphabet.getD group 'A')

/-- `bytes(values)`: every value must fit in a byte. -/
def ofInts? : List ℕ → Option Bytes
  | [] => some []
  | n :: ns => if n < 256 then (ofInts? ns).map (UInt8.ofNat n :: ·) else none

/-- `data.ljust(width, b"\0")`. -/
def ljust (data : Bytes) (width : ℕ) : Bytes := data ++ List.replicate (width - data.length) 0

/-- `bytes(width)`. -/
def zeros (width : ℕ) : Bytes := List.replicate width 0

/-- One field of a big-endian `struct` format: `B`, `H`, `I` and `Q` have width 1, 2, 4 and 8, and
    `ns` pads or truncates a byte string to `n` bytes. -/
inductive Field where
  | uint (width value : ℕ)
  | bytes (width : ℕ) (data : Bytes)

namespace Field

/-- The value is in the range of its format character. -/
def fits : Field → Bool
  | uint width value => value < 256 ^ width
  | bytes _ _ => true

/-- The bytes of one field. -/
def encode : Field → Bytes
  | uint width value => toBE width value
  | bytes width data => (ljust data width).take width

/-- Kind and width: what the format says about the field. -/
def shape : Field → Bool × ℕ
  | uint width _ => (true, width)
  | bytes width _ => (false, width)

/-- The field is written without loss. -/
def Exact : Field → Prop
  | uint width value => value < 256 ^ width
  | bytes width data => data.length = width

end Field

@[simp] theorem Field.fits_uint {width value : ℕ} :
    (Field.uint width value).fits = true ↔ value < 256 ^ width := by
  simp [Field.fits]

@[simp] theorem length_ljust (data : Bytes) (width : ℕ) :
    (ljust data width).length = max data.length width := by
  simp [ljust]; omega

@[simp] theorem length_zeros (width : ℕ) : (zeros width).length = width := by simp [zeros]

theorem ljust_of_le {data : Bytes} {width : ℕ} (h : width ≤ data.length) :
    ljust data width = data := by
  rw [ljust, Nat.sub_eq_zero_of_le h]; simp

/-- Truncating the padded string to the original length undoes the padding. -/
theorem take_ljust (data : Bytes) (width : ℕ) : (ljust data width).take data.length = data := by
  simp [ljust]

namespace Field

@[simp] theorem length_encode (f : Field) : f.encode.length = f.shape.2 := by
  cases f <;> simp [encode, shape]

/-- A field in front is read back, whatever follows it. -/
theorem encode_append_inj {f g : Field} (hshape : f.shape = g.shape) (hf : f.Exact) (hg : g.Exact)
    {xs ys : Bytes} : f.encode ++ xs = g.encode ++ ys ↔ f = g ∧ xs = ys := by
  constructor
  · intro h
    obtain ⟨hfield, hrest⟩ := List.append_inj h (by rw [length_encode, length_encode, hshape])
    refine ⟨?_, hrest⟩
    cases f <;> cases g <;> simp only [shape, Prod.mk.injEq, reduceCtorEq, false_and] at hshape
    · obtain ⟨-, rfl⟩ := hshape
      rw [(toBE_inj hf hg).mp hfield]
    · obtain ⟨-, rfl⟩ := hshape
      rw [Exact] at hf hg
      simp only [encode, ljust_of_le hf.ge, ljust_of_le hg.ge] at hfield
      rw [List.take_of_length_le hf.le, List.take_of_length_le hg.le] at hfield
      rw [hfield]
  · rintro ⟨rfl, rfl⟩; rfl

/-- Two records of one format have the same bytes only when their fields agree. -/
theorem flatMap_encode_inj : ∀ {fs gs : List Field}, fs.map shape = gs.map shape →
    (∀ f ∈ fs, f.Exact) → (∀ g ∈ gs, g.Exact) → fs.flatMap encode = gs.flatMap encode → fs = gs
  | [], [], _, _, _, _ => rfl
  | f :: fs, g :: gs, hshape, hf, hg, h => by
    simp only [List.map_cons, List.cons.injEq] at hshape
    simp only [List.forall_mem_cons] at hf hg
    rw [List.flatMap_cons, List.flatMap_cons, encode_append_inj hshape.1 hf.1 hg.1] at h
    rw [h.1, flatMap_encode_inj hshape.2 hf.2 hg.2 h.2]

end Field

theorem hexDigit?_digitChar : ∀ n < 16, hexDigit? (Nat.digitChar n) = some n ∧
    isSpace (Nat.digitChar n) = false := by decide

/-- Bytes survive the round trip through hexadecimal text. -/
theorem fromHex_toHex (data : Bytes) : fromHex (toHex data) = some data := by
  rw [fromHex, toHex, String.toList_ofList]
  induction data with
  | nil => rfl
  | cons byte data ih =>
    have hlt := byte.toNat_lt
    have hhi := hexDigit?_digitChar (byte.toNat / 16) (by omega)
    have hlo := hexDigit?_digitChar (byte.toNat % 16) (by omega)
    have hbyte : UInt8.ofNat (16 * (byte.toNat / 16) + byte.toNat % 16) = byte := by
      rw [Nat.div_add_mod, UInt8.ofNat_toNat]
    simp [fromHexChars, hhi, hlo, ih, hbyte]

/-- Text of ASCII characters only. -/
def AsciiText (text : String) : Prop := ∀ c ∈ text.toList, c.toNat < 128

theorem AsciiText.append {text text' : String} (h : AsciiText text) (h' : AsciiText text') :
    AsciiText (text ++ text') := by
  intro c hc
  rw [String.toList_append, List.mem_append] at hc
  exact hc.elim (h c) (h' c)

theorem asciiText_base64url (data : Bytes) : AsciiText (base64url data) := by
  have halphabet : base64urlAlphabet.all (·.toNat < 128) = true := by decide +kernel
  intro c hc
  rw [base64url, String.toList_ofList, List.mem_map] at hc
  obtain ⟨group, -, rfl⟩ := hc
  rw [List.getD_eq_getElem?_getD]
  cases hget : base64urlAlphabet[group]? with
  | none => decide
  | some c => simpa using List.all_eq_true.mp halphabet c (List.mem_of_getElem? hget)

/-- ASCII text is the characters of its bytes. -/
theorem toList_of_encodeAscii? {text : String} {data : Bytes} (h : encodeAscii? text = some data) :
    text.toList = data.map fun byte => Char.ofNat byte.toNat := by
  unfold encodeAscii? at h
  split at h
  · rename_i hascii
    cases h
    rw [List.map_map, List.map_congr_left (g := id), List.map_id]
    intro c hc
    have hlt : c.toNat < 128 := by simpa using List.all_eq_true.mp hascii c hc
    simp [Nat.mod_eq_of_lt (hlt.trans (by norm_num : 128 < 256))]
  · cases h

theorem encodeAscii?_inj {text text' : String} {data : Bytes} (h : encodeAscii? text = some data)
    (h' : encodeAscii? text' = some data) : text = text' :=
  String.toList_inj.mp ((toList_of_encodeAscii? h).trans (toList_of_encodeAscii? h').symm)

/-- A list of integers below 256 has its bytes. -/
theorem ofInts?_eq_some : ∀ {ns : List ℕ}, (∀ n ∈ ns, n < 256) →
    ofInts? ns = some (ns.map UInt8.ofNat)
  | [], _ => rfl
  | n :: ns, h => by
    rw [List.forall_mem_cons] at h
    rw [ofInts?, if_pos h.1, ofInts?_eq_some h.2]; rfl

example : fromHex "0a Ff\n" = some [10, 255] := by decide

example : base64url [102, 111, 111, 98, 97] = "Zm9vYmE" ∧
    toHex [10, 255] = "0aff" := by decide +kernel

end IncomUdon.Python
