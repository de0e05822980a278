import Mathlib.Data.List.Induction
import Mathlib.Tactic.IntervalCases
import IncomUdon.Python.Outcome

/-! Text: `str.split`, `str.replace` with a pattern of two characters, `str.isdecimal`, and `int` and
    `str` on decimal numbers. Text is a list of characters here. A decimal digit is one of any
    script, and `int` reads the digits of all scripts alike; `str` writes ASCII digits only. -/

namespace IncomUdon.Python
open IncomUdon.Lib.ErrorLog

/-- `text.split(separator)`. -/
def split (text : List Char) (separator : Char) : List (List Char) := text.splitOn separator

/-- `text.replace(pattern, replacement)`, where the pattern is two characters and the replacement
    one. -/
def replacePair (first second replacement : Char) : List Char → List Char
  | [] => []
  | [c] => [c]
  | c :: d :: rest =>
    if c = first ∧ d = second then replacement :: replacePair first second replacement rest
    else c :: replacePair first second replacement (d :: rest)

/-- `text.startswith(front)`. -/
def startsWith (text front : String) : Bool := front.toList.isPrefixOf text.toList

/-- `text[n:]`. -/
def dropChars (text : String) (n : ℕ) : String := .ofList (text.toList.drop n)

/-- The digits zero of the scripts of Unicode 15.1; the nine other digits follow each. -/
def decimalZeros : List ℕ :=
  [0x30, 0x660, 0x6f0, 0x7c0, 0x966, 0x9e6, 0xa66, 0xae6, 0xb66, 0xbe6, 0xc66, 0xce6, 0xd66, 0xde6,
    0xe50, 0xed0, 0xf20, 0x1040, 0x1090, 0x17e0, 0x1810, 0x1946, 0x19d0, 0x1a80, 0x1a90, 0x1b50,
    0x1bb0, 0x1c40, 0x1c50, 0xa620, 0xa8d0, 0xa900, 0xa9d0, 0xa9f0, 0xaa50, 0xabf0, 0xff10, 0x104a0,
    0x10d30, 0x11066, 0x110f0, 0x11136, 0x111d0, 0x112f0, 0x11450, 0x114d0, 0x11650, 0x116c0,
    0x11730, 0x118e0, 0x11950, 0x11c50, 0x11d50, 0x11da0, 0x11f50, 0x16a60, 0x16ac0, 0x16b50,
    0x1d7ce, 0x1d7d8, 0x1d7e2, 0x1d7ec, 0x1d7f6, 0x1e140, 0x1e2f0, 0x1e4f0, 0x1e950, 0x1fbf0]

/-- The value of a decimal digit. -/
def decimalDigit? (c : Char) : Option ℕ :=
  (decimalZeros.find? fun first => first ≤ c.toNat && c.toNat < first + 10).map (c.toNat - ·)

/-- `token.isdecimal()`. -/
def isDecimal (token : List Char) : Bool :=
  !token.isEmpty && token.all fun c => (decimalDigit? c).isSome

/-- The number that decimal digits denote. -/
def decimalValue (token : List Char) : ℕ :=
  token.foldl (fun n c => 10 * n + (decimalDigit? c).getD 0) 0

/-- `sys.get_int_max_str_digits()`. -/
def maxStrDigits : ℕ := 4300

/-- `int(token)` for a token of decimal digits. -/
def intOfDecimal (token : List Char) : Py ℕ :=
  if token.length ≤ maxStrDigits then .ok (decimalValue token) else fails .valueError

/-- `str(n)`. -/
def decimalText (n : ℕ) : List Char := Nat.toDigits 10 n

/-! ### Splitting -/

section Split
variable {separator : Char}

theorem split_append (before after : List Char) :
    split (before ++ separator :: after) separator = split before separator ++ split after separator :=
  List.splitOn_append_cons_self before after

theorem split_of_not_mem {text : List Char} (h : separator ∉ text) : split text separator = [text] :=
  List.splitOn_eq_singleton h

/-- A separator ends a piece. -/
theorem not_mem_of_mem_split {text : List Char} :
    ∀ piece ∈ split text separator, separator ∉ piece := by
  induction text with
  | nil => simp [split]
  | cons c text ih =>
    rw [split, List.splitOn_cons_eq_if_modifyHead]
    obtain ⟨first, rest, hpieces⟩ := List.exists_cons_of_ne_nil (List.splitOn_ne_nil separator text)
    rw [split, hpieces, List.forall_mem_cons] at ih
    split_ifs with hc
    · rw [hpieces]
      simpa using ih
    · have hne : separator ≠ c := fun h => hc (by simp [h])
      rw [hpieces, List.modifyHead_cons, List.forall_mem_cons]
      exact ⟨by simp [hne, ih.1], ih.2⟩

end Split

/-! ### Replacing -/

section Replace
variable {first second replacement c d : Char} {rest : List Char}

theorem replacePair_cons (h : c ≠ first) : replacePair first second replacement (c :: rest)
    = c :: replacePair first second replacement rest := by
  cases rest with
  | nil => rfl
  | cons d rest => rw [replacePair, if_neg fun hpair => h hpair.1]

theorem replacePair_pair : replacePair first second replacement (first :: second :: rest)
    = replacement :: replacePair first second replacement rest := by
  rw [replacePair, if_pos ⟨rfl, rfl⟩]

theorem replacePair_other (h : d ≠ second) : replacePair first second replacement (c :: d :: rest)
    = c :: replacePair first second replacement (d :: rest) := by
  rw [replacePair, if_neg fun hpair => h hpair.2]

end Replace

/-! ### Decimal numbers -/

section Decimal

theorem range_of_isDigit {c : Char} (h : c.isDigit = true) : 48 ≤ c.toNat ∧ c.toNat ≤ 57 := by
  simpa [Char.isDigit, UInt32.le_iff_toNat_le] using h

/-- ASCII digits are the digits of the first script. -/
theorem decimalDigit?_of_isDigit {c : Char} (h : c.isDigit = true) :
    decimalDigit? c = some (c.toNat - '0'.toNat) := by
  obtain ⟨hlow, hhigh⟩ := range_of_isDigit h
  have hfirst : (0x30 ≤ c.toNat && c.toNat < 0x30 + 10) = true := by simp; omega
  simp only [decimalDigit?, decimalZeros, List.find?_cons, hfirst, Option.map_some]
  rfl

theorem isDecimal_of_isDigit {token : List Char} (hne : token ≠ [])
    (h : ∀ c ∈ token, c.isDigit = true) : isDecimal token = true := by
  simp only [isDecimal, Bool.and_eq_true, List.all_eq_true]
  exact ⟨by simpa using hne, fun c hc => by rw [decimalDigit?_of_isDigit (h c hc)]; rfl⟩

theorem decimalValue_eq {token : List Char} (h : ∀ c ∈ token, c.isDigit = true) :
    decimalValue token = Nat.ofDigitChars 10 token 0 := by
  rw [decimalValue, Nat.ofDigitChars_eq_foldl]
  refine List.foldl_ext _ _ _ fun n c hc => ?_
  rw [decimalDigit?_of_isDigit (h c hc), Option.getD_some]

theorem isDigit_of_mem_decimalText {n : ℕ} : ∀ c ∈ decimalText n, c.isDigit = true := fun _ hc =>
  Nat.isDigit_of_mem_toDigits (by decide) (by decide) hc

theorem isDecimal_decimalText (n : ℕ) : isDecimal (decimalText n) = true :=
  isDecimal_of_isDigit Nat.toDigits_ne_nil isDigit_of_mem_decimalText

@[simp] theorem decimalValue_decimalText (n : ℕ) : decimalValue (decimalText n) = n := by
  rw [decimalValue_eq isDigit_of_mem_decimalText, decimalText, Nat.ofDigitChars_ten_toDigits]

@[simp] theorem intOfDecimal_eq_ok {token : List Char} {n : ℕ} :
    intOfDecimal token = .ok n ↔ token.length ≤ maxStrDigits ∧ decimalValue token = n := by
  unfold intOfDecimal; split <;> simp_all

/-- `int` undoes `str`, as far as it reads. -/
theorem intOfDecimal_decimalText {n : ℕ} (h : n < 10 ^ maxStrDigits) :
    intOfDecimal (decimalText n) = .ok n := by
  have hlength : (decimalText n).length ≤ maxStrDigits :=
    (Nat.length_toDigits_le_iff (by decide) (by decide)).mpr h
  exact intOfDecimal_eq_ok.mpr ⟨hlength, decimalValue_decimalText n⟩

/-! The text of a number is the one text of ASCII digits without a leading zero. -/

theorem digitChar_of_isDigit {c : Char} (h : c.isDigit = true) :
    Nat.digitChar (c.toNat - '0'.toNat) = c := by
  obtain ⟨hlow, hhigh⟩ := range_of_isDigit h
  rw [← Char.ofNat_toNat c]
  generalize c.toNat = n at hlow hhigh
  interval_cases n <;> rfl

theorem head?_decimalText {n : ℕ} (h : 0 < n) : (decimalText n).head? ≠ some '0' := by
  induction n using Nat.strong_induction_on with
  | _ n ih =>
    rw [decimalText, Nat.toDigits_eq_if (by decide)]
    split_ifs with hlt
    · simpa using h.ne'
    · have hhead := ih (n / 10) (by omega) (by omega)
      rwa [List.head?_append_of_ne_nil _ Nat.toDigits_ne_nil]

theorem decimalText_decimalValue {token : List Char} (hne : token ≠ [])
    (h : ∀ c ∈ token, c.isDigit = true) (hhead : token.head? ≠ some '0') :
    decimalText (decimalValue token) = token := by
  induction token using List.reverseRecOn with
  | nil => exact absurd rfl hne
  | append_singleton init c ih =>
    simp only [List.mem_append, List.mem_singleton, or_imp, forall_and, forall_eq] at h
    obtain ⟨hlow, hhigh⟩ := range_of_isDigit h.2
    have hdigit : c.toNat - '0'.toNat < 10 := by simp; omega
    have hvalue : decimalValue (init ++ [c]) = 10 * decimalValue init + (c.toNat - '0'.toNat) := by
      simp [decimalValue, decimalDigit?_of_isDigit h.2]
    have hlast : decimalText (c.toNat - '0'.toNat) = [c] := by
      rw [decimalText, Nat.toDigits_of_lt_base hdigit, digitChar_of_isDigit h.2]
    by_cases hinit : init = []
    · subst hinit
      rw [hvalue]
      simpa [decimalValue] using hlast
    · rw [List.head?_append_of_ne_nil _ hinit] at hhead
      have hrest := ih hinit h.1 hhead
      have hpos : 0 < decimalValue init := by
        refine Nat.pos_of_ne_zero fun hzero => hhead ?_
        rw [← hrest, hzero]
        rfl
      rw [hvalue, decimalText, ← Nat.toDigits_append_toDigits (by decide) hpos hdigit]
      exact congrArg₂ (· ++ ·) hrest hlast

/-- Writing what was read gives the text back when it is `0` or has no leading zero. -/
theorem decimalText_decimalValue_iff {token : List Char} :
    decimalText (decimalValue token) = token ↔
      token = ['0'] ∨ token ≠ [] ∧ (∀ c ∈ token, c.isDigit = true) ∧ token.head? ≠ some '0' := by
  constructor
  · intro h
    rw [← h]
    rcases Nat.eq_zero_or_pos (decimalValue token) with hzero | hpos
    · exact .inl (by rw [hzero]; rfl)
    · exact .inr ⟨Nat.toDigits_ne_nil, isDigit_of_mem_decimalText, head?_decimalText hpos⟩
  · rintro (rfl | ⟨hne, hdigits, hhead⟩)
    · decide
    · exact decimalText_decimalValue hne hdigits hhead

end Decimal

end IncomUdon.Python
