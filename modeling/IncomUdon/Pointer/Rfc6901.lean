import IncomUdon.Pointer.Resolve

/-! Pointers as RFC 6901 writes them, against the pointers that `resolve_json_pointer` accepts. The
    code unescapes by replacement, which never fails, and reads an index with `int`, which takes
    leading zeros and the digits of every script. So it accepts more:

        "/~"      a tilde that begins no escape
        "/00"     an index with a leading zero
        "/\u0660"  a digit that is not ASCII

    A pointer that resolves is in RFC form exactly when its tokens are WRITTEN BACK: what is read
    from a token, written again, is the token. -/

namespace IncomUdon.Pointer
open IncomUdon.Python IncomUdon.Lib.ErrorLog

/-! ### The form that RFC 6901 asks for -/

/-- Every `~` is followed by `0` or `1`. -/
def TildesEscape : List Char → Prop
  | [] => True
  | c :: rest =>
    (c = '~' → rest.head? = some '0' ∨ rest.head? = some '1') ∧ TildesEscape rest

/-- `0`, or ASCII digits of which the first is not `0`. -/
def IsArrayIndex (rawToken : List Char) : Prop :=
  rawToken = ['0'] ∨
    rawToken ≠ [] ∧ (∀ c ∈ rawToken, c.isDigit = true) ∧ rawToken.head? ≠ some '0'

/-- On its way down the document the pointer applies the token to an array. -/
def AppliedToArray (document : Json) (pointer : String) (rawToken : List Char) : Prop :=
  ∃ before after items, tokens pointer = before ++ rawToken :: after ∧
    before.foldlM child? document = some (.arr items)

/-- The pointer is in RFC form, for this document. -/
structure IsRfc6901 (document : Json) (pointer : String) : Prop where
  rooted : Rooted pointer
  tildes : TildesEscape pointer.toList
  indexes : ∀ rawToken, AppliedToArray document pointer rawToken → IsArrayIndex rawToken

/-- Each token is what is written for the name or the index that is read from it. -/
structure WrittenBack (document : Json) (pointer : String) : Prop where
  names : ∀ rawToken ∈ tokens pointer, escape (unescape rawToken) = rawToken
  indexes : ∀ rawToken, AppliedToArray document pointer rawToken →
    decimalText (decimalValue rawToken) = rawToken

/-! ### Tildes -/

section Tildes

theorem escape_cons (c : Char) (name : List Char) : escape (c :: name)
    = (if c = '~' then ['~', '0'] else if c = '/' then ['~', '1'] else [c]) ++ escape name :=
  List.flatMap_cons

/-- Escaping undoes unescaping where every tilde begins an escape. -/
theorem escape_unescape_iff : ∀ rawToken : List Char, '/' ∉ rawToken →
    (escape (unescape rawToken) = rawToken ↔ TildesEscape rawToken)
  | [], _ => by simp [escape, TildesEscape]
  | [c], hslash => by
    by_cases hc : c = '~'
    · subst hc
      simp [escape, TildesEscape]
    · have hne : c ≠ '/' := fun h => hslash (by simp [h])
      simp [unescape_cons hc, escape, TildesEscape, hc, hne]
  | c :: d :: rest, hslash => by
    simp only [List.mem_cons, not_or] at hslash
    obtain ⟨hc, hd, hrest⟩ := hslash
    have hsame := escape_unescape_iff (d :: rest) (by simp [hd, hrest])
    have hnext := escape_unescape_iff rest hrest
    by_cases htilde : c = '~'
    · subst htilde
      by_cases h0 : d = '0'
      · subst h0
        simp [unescape_zero, escape_cons, TildesEscape, hnext]
      by_cases h1 : d = '1'
      · subst h1
        simp [unescape_one, escape_cons, TildesEscape, hnext]
      · simp [unescape_other h0 h1, escape_cons, TildesEscape, h0, h1, Ne.symm h0]
    · rw [unescape_cons htilde, escape_cons, if_neg htilde, if_neg (Ne.symm hc),
        List.singleton_append, List.cons_inj_right, hsame]
      simp [TildesEscape, htilde]

/-- A slash does not continue an escape. -/
theorem tildesEscape_append {before after : List Char} :
    TildesEscape (before ++ '/' :: after) ↔ TildesEscape before ∧ TildesEscape after := by
  induction before with
  | nil => simp [TildesEscape]
  | cons c before ih =>
    rw [List.cons_append, TildesEscape, TildesEscape, ih, List.head?_append]
    cases before <;> simp [and_assoc]

theorem tildesEscape_intercalate {pieces : List (List Char)} :
    TildesEscape (List.intercalate ['/'] pieces) ↔ ∀ piece ∈ pieces, TildesEscape piece := by
  induction pieces with
  | nil => simp [TildesEscape]
  | cons piece pieces ih =>
    cases pieces with
    | nil => simp
    | cons next pieces =>
      rw [List.intercalate_cons_cons, List.append_assoc, List.singleton_append,
        tildesEscape_append, ih]
      exact List.forall_mem_cons.symm

/-- The tildes of a pointer are the tildes of its tokens. -/
theorem tildesEscape_tokens {pointer : String} (h : Rooted pointer) :
    TildesEscape pointer.toList ↔ ∀ rawToken ∈ tokens pointer, TildesEscape rawToken := by
  rcases h with rfl | h
  · simp [tokens, TildesEscape]
  · have hne : pointer ≠ "" := by rintro rfl; simp at h
    obtain ⟨tail, htail⟩ := List.head?_eq_some_iff.mp h
    rw [tokens, if_neg hne, htail, List.tail_cons, ← tildesEscape_intercalate, split,
      List.intercalate_splitOn]
    simp [TildesEscape]

end Tildes

/-! ### Indexes -/

section Indexes
variable {rawToken : List Char}

/-- What is read from an escape is no digit. -/
theorem mem_unescape_of_tilde : ∀ {rawToken : List Char}, '~' ∈ rawToken →
    '~' ∈ unescape rawToken ∨ '/' ∈ unescape rawToken
  | [c], h => by
    obtain rfl : c = '~' := (List.mem_singleton.mp h).symm
    exact .inl (by simp)
  | c :: d :: rest, h => by
    by_cases hc : c = '~'
    · subst hc
      by_cases h0 : d = '0'
      · exact .inl (by simp [h0, unescape_zero])
      by_cases h1 : d = '1'
      · exact .inr (by simp [h1, unescape_one])
      · exact .inl (by simp [unescape_other h0 h1])
    · have hrest : '~' ∈ d :: rest := (List.mem_cons.mp h).resolve_left (Ne.symm hc)
      rw [unescape_cons hc]
      exact (mem_unescape_of_tilde hrest).imp (List.mem_cons_of_mem c) (List.mem_cons_of_mem c)

/-- A token that is read as an index stands for itself. -/
theorem unescape_of_isDecimal (h : isDecimal (unescape rawToken) = true) :
    unescape rawToken = rawToken := by
  simp only [isDecimal, Bool.and_eq_true, List.all_eq_true] at h
  refine unescape_of_not_mem fun hmem => ?_
  rcases mem_unescape_of_tilde hmem with hread | hread
  · exact absurd (h.2 _ hread) (by decide)
  · exact absurd (h.2 _ hread) (by decide)

/-- A position has one token in RFC form. -/
theorem existsUnique_index {position : ℕ} (h : position ≤ maxListLength) :
    ∃! rawToken, IsArrayIndex rawToken ∧ position? rawToken = some position := by
  refine ⟨decimalText position,
    ⟨decimalText_decimalValue_iff.mp (by rw [decimalValue_decimalText]), position?_decimalText h⟩, ?_⟩
  rintro rawToken ⟨hindex, hposition⟩
  obtain ⟨hdecimal, -, hvalue⟩ := position?_eq_some.mp hposition
  rw [unescape_of_isDecimal hdecimal] at hvalue
  rw [← hvalue, decimalText_decimalValue_iff.mpr hindex]

end Indexes

/-- RFC 6901: a pointer that resolves is in RFC form exactly when its tokens are written back; and
    each position of a list has one token of that form. -/
theorem resolveJsonPointer_rfc6901_iff (document : Json) (pointer : String) (value : Json)
    (h : resolveJsonPointer document pointer = .ok value) :
    (IsRfc6901 document pointer ↔ WrittenBack document pointer) ∧
      ∀ position ≤ maxListLength,
        ∃! rawToken, IsArrayIndex rawToken ∧ position? rawToken = some position := by
  obtain ⟨hrooted, -⟩ := resolveJsonPointer_eq_ok.mp h
  have hslash : ∀ rawToken ∈ tokens pointer, '/' ∉ rawToken := by
    unfold tokens
    split_ifs
    · simp
    · exact not_mem_of_mem_split
  have hnames : TildesEscape pointer.toList ↔
      ∀ rawToken ∈ tokens pointer, escape (unescape rawToken) = rawToken := by
    rw [tildesEscape_tokens hrooted]
    exact forall₂_congr fun rawToken hmem => (escape_unescape_iff rawToken (hslash _ hmem)).symm
  refine ⟨⟨fun hrfc => ⟨hnames.mp hrfc.tildes, fun rawToken happlied => ?_⟩,
    fun hwritten => ⟨hrooted, hnames.mpr hwritten.names, fun rawToken happlied => ?_⟩⟩,
    fun position hposition => existsUnique_index hposition⟩
  · exact decimalText_decimalValue_iff.mpr (hrfc.indexes rawToken happlied)
  · exact decimalText_decimalValue_iff.mp (hwritten.indexes rawToken happlied)

theorem resolveJsonPointer_rfc6901_iff_first :
    (IsRfc6901 (.arr [.int 7]) "/0" ↔ WrittenBack (.arr [.int 7]) "/0") ∧
      ∀ position ≤ maxListLength,
        ∃! rawToken, IsArrayIndex rawToken ∧ position? rawToken = some position :=
  resolveJsonPointer_rfc6901_iff (.arr [.int 7]) "/0" (.int 7) (by rfl)

/-- Three pointers that resolve and are not in RFC form: a second token for the first item, a digit
    that is not ASCII, and a tilde that begins no escape. -/
theorem resolveJsonPointer_accepts_more :
    (resolveJsonPointer (.arr [.int 7]) "/0" = .ok (.int 7) ∧
      resolveJsonPointer (.arr [.int 7]) "/00" = .ok (.int 7) ∧
      ¬IsRfc6901 (.arr [.int 7]) "/00") ∧
    (resolveJsonPointer (.arr [.int 7]) "/\u0660" = .ok (.int 7) ∧
      ¬IsRfc6901 (.arr [.int 7]) "/\u0660") ∧
    (resolveJsonPointer (.obj [("~", .int 7)]) "/~" = .ok (.int 7) ∧
      ¬IsRfc6901 (.obj [("~", .int 7)]) "/~") := by
  refine ⟨⟨by rfl, by rfl, fun h => ?_⟩, ⟨by rfl, fun h => ?_⟩, ⟨by rfl, fun h => ?_⟩⟩
  · have hindex := h.indexes ['0', '0'] ⟨[], [], [.int 7], by decide, rfl⟩
    simp [IsArrayIndex] at hindex
  · have hindex := h.indexes ['\u0660'] ⟨[], [], [.int 7], by decide, rfl⟩
    simp [IsArrayIndex] at hindex
  · have htildes := h.tildes
    simp [TildesEscape] at htildes

end IncomUdon.Pointer
