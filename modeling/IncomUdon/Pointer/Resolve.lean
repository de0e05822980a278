import IncomUdon.Python.Text

/-! `resolve_json_pointer`. A pointer is cut at `/`, each raw token is unescaped by two replacements,
    and the tokens lead from the document to a value:

        "/a~1b/2"  ──split──▶  "a~1b", "2"  ──unescape──▶  a/b, 2  ──▶  document["a/b"][2]

    The two replacements together read a token from left to right, one escape at a time. Resolution
    is COMPLETE, every path of a document has a pointer, and COMPOSITIONAL, a pointer may be resolved
    in two steps. -/

namespace IncomUdon.Pointer
open IncomUdon.Python IncomUdon.Lib.ErrorLog

/-- `raw_token.replace("~1", "/").replace("~0", "~")`. -/
def unescape (rawToken : List Char) : List Char :=
  replacePair '~' '0' '~' (replacePair '~' '1' '/' rawToken)

/-- One token is followed from `current`; `pointer` is for the messages only. -/
def resolveToken (pointer : String) (current : Json) (rawToken : List Char) : Py Json := do
  let token := unescape rawToken
  match current with
  | .obj d =>
    match d.lookup (.ofList token) with
    | some value => return value
    | none => invalid ["JSON Pointer does not exist: ", pointer]
  | .arr items =>
    require (isDecimal token) ["JSON Pointer array token is not an index: ", pointer]
    let position ← intOfDecimal token
    require (position < items.length) ["JSON Pointer index is out of range: ", pointer]
    index items position
  | _ => invalid ["JSON Pointer traverses a scalar value: ", pointer]

/-- `resolve_json_pointer`. -/
def resolveJsonPointer (document : Json) (pointer : String) : Py Json :=
  if pointer = "" then return document
  else do
    require (pointer.toList.head? = some '/')
      ["JSON Pointer must be empty or begin with '/': ", pointer]
    (split pointer.toList.tail '/').foldlM (resolveToken pointer) document

/-! ### Reading a token -/

section Unescape
variable {c d : Char} {rest : List Char}

@[simp] theorem unescape_nil : unescape [] = [] := rfl

theorem unescape_cons (h : c ≠ '~') : unescape (c :: rest) = c :: unescape rest := by
  rw [unescape, replacePair_cons h, replacePair_cons h, unescape]

theorem unescape_zero : unescape ('~' :: '0' :: rest) = '~' :: unescape rest := by
  have hfirst : replacePair '~' '1' '/' ('~' :: '0' :: rest)
      = '~' :: '0' :: replacePair '~' '1' '/' rest := by
    rw [replacePair_other (by decide), replacePair_cons (by decide)]
  rw [unescape, hfirst, replacePair_pair, unescape]

theorem unescape_one : unescape ('~' :: '1' :: rest) = '/' :: unescape rest := by
  rw [unescape, replacePair_pair, replacePair_cons (by decide), unescape]

@[simp] theorem unescape_tilde : unescape ['~'] = ['~'] := rfl

/-- A tilde that begins no escape stays. -/
theorem unescape_other (h0 : d ≠ '0') (h1 : d ≠ '1') :
    unescape ('~' :: d :: rest) = '~' :: unescape (d :: rest) := by
  -- The first replacement leaves a character after the tilde that is no `0`.
  obtain ⟨e, tail, hfirst, he⟩ : ∃ e tail,
      replacePair '~' '1' '/' (d :: rest) = e :: tail ∧ e ≠ '0' := by
    cases rest with
    | nil => exact ⟨d, [], rfl, h0⟩
    | cons f rest =>
      rw [replacePair]
      split_ifs
      · exact ⟨_, _, rfl, by decide⟩
      · exact ⟨_, _, rfl, h0⟩
  rw [unescape, replacePair_other h1, hfirst, replacePair_other he, unescape, hfirst]

/-- A token without a tilde stands for itself. -/
theorem unescape_of_not_mem {token : List Char} (h : '~' ∉ token) : unescape token = token := by
  induction token with
  | nil => rfl
  | cons c token ih =>
    rw [List.mem_cons, not_or] at h
    rw [unescape_cons (Ne.symm h.1), ih h.2]

end Unescape

/-! ### What one token selects -/

/-- The position that a raw token denotes. -/
def position? (rawToken : List Char) : Option ℕ :=
  if isDecimal (unescape rawToken) ∧ (unescape rawToken).length ≤ maxStrDigits then
    some (decimalValue (unescape rawToken))
  else none

/-- The child that a raw token selects. -/
def child? (current : Json) (rawToken : List Char) : Option Json :=
  match current with
  | .obj d => d.lookup (.ofList (unescape rawToken))
  | .arr items => (position? rawToken).bind (items[·]?)
  | _ => none

/-- The raw tokens of a pointer. -/
def tokens (pointer : String) : List (List Char) :=
  if pointer = "" then [] else split pointer.toList.tail '/'

/-- The text is empty or begins with `/`. -/
def Rooted (pointer : String) : Prop := pointer = "" ∨ pointer.toList.head? = some '/'

section Follow
variable {document current value : Json} {pointer : String} {rawToken : List Char}

theorem position?_eq_some {position : ℕ} : position? rawToken = some position ↔
    isDecimal (unescape rawToken) = true ∧ (unescape rawToken).length ≤ maxStrDigits ∧
      decimalValue (unescape rawToken) = position := by
  simp only [position?, Option.ite_none_right_eq_some, Option.some.injEq, and_assoc]

theorem resolveToken_eq_ok :
    resolveToken pointer current rawToken = .ok value ↔ child? current rawToken = some value := by
  cases current with
  | obj d =>
    simp only [resolveToken, child?]
    cases d.lookup (.ofList (unescape rawToken)) <;> simp [pure, Except.pure]
  | arr items =>
    simp only [resolveToken, child?, bind_eq_ok, require_eq_ok, index_eq_ok, intOfDecimal_eq_ok,
      Option.bind_eq_some_iff, position?_eq_some]
    constructor
    · rintro ⟨-, hdecimal, n, ⟨hdigits, hn⟩, -, -, hvalue⟩
      exact ⟨n, ⟨hdecimal, hdigits, hn⟩, hvalue⟩
    · rintro ⟨n, ⟨hdecimal, hdigits, hn⟩, hvalue⟩
      exact ⟨(), hdecimal, n, ⟨hdigits, hn⟩, (), (List.getElem?_eq_some_iff.mp hvalue).1, hvalue⟩
  | _ => simp [resolveToken, child?]

/-- A pointer resolves when it is rooted and its tokens lead to the value one by one. -/
theorem resolveJsonPointer_eq_ok :
    resolveJsonPointer document pointer = .ok value ↔
      Rooted pointer ∧ (tokens pointer).foldlM child? document = some value := by
  have hrun : ∀ (raws : List (List Char)) (current : Json),
      raws.foldlM (resolveToken pointer) current = .ok value ↔
        raws.foldlM child? current = some value := by
    intro raws
    induction raws with
    | nil => simp [pure, Except.pure]
    | cons raw raws ih =>
      intro current
      simp only [List.foldlM_cons, bind_eq_ok, Option.bind_eq_bind, Option.bind_eq_some_iff,
        resolveToken_eq_ok, ih]
  rw [resolveJsonPointer, Rooted, tokens]
  split_ifs with hempty
  · simp [hempty, pure, Except.pure]
  · simp [hempty, bind_eq_ok, hrun]

end Follow

/-! ### Paths -/

/-- One step down from a value: into an object or into an array. -/
inductive PathStep where
  | member (name : String)
  | item (position : ℕ)

/-- The value one step below. -/
def childAt? (current : Json) (step : PathStep) : Option Json :=
  match current, step with
  | .obj d, .member name => d.lookup name
  | .arr items, .item position => items[position]?
  | _, _ => none

/-- A name as it stands in a pointer: `~` is written `~0`, and `/` is written `~1`. -/
def escape (name : List Char) : List Char :=
  name.flatMap fun c => if c = '~' then ['~', '0'] else if c = '/' then ['~', '1'] else [c]

/-- The token of a step: an escaped name, or an index in canonical decimal. -/
def PathStep.token : PathStep → List Char
  | member name => escape name.toList
  | item position => decimalText position

/-- The pointer of a path: every token with a `/` before it. -/
def pointerOf (path : List PathStep) : String := .ofList (path.flatMap fun step => '/' :: step.token)

/-- `sys.maxsize`: no list has more items. -/
def maxListLength : ℕ := 2 ^ 63 - 1

section Escape
variable {name : List Char}

theorem unescape_escape (name : List Char) : unescape (escape name) = name := by
  induction name with
  | nil => rfl
  | cons c name ih =>
    rw [escape, List.flatMap_cons, ← escape]
    split_ifs with htilde hslash
    · rw [List.cons_append, List.cons_append, List.nil_append, unescape_zero, ih, htilde]
    · rw [List.cons_append, List.cons_append, List.nil_append, unescape_one, ih, hslash]
    · rw [List.singleton_append, unescape_cons htilde, ih]

theorem slash_not_mem_escape : '/' ∉ escape name := by
  intro h
  obtain ⟨c, -, hc⟩ := List.mem_flatMap.mp h
  split_ifs at hc with htilde hslash
  · simp at hc
  · simp at hc
  · exact hslash (List.mem_singleton.mp hc).symm

theorem not_mem_decimalText {c : Char} {n : ℕ} (h : c.isDigit = false) : c ∉ decimalText n :=
  fun hc => Bool.false_ne_true (h.symm.trans (isDigit_of_mem_decimalText c hc))

theorem PathStep.slash_not_mem_token (step : PathStep) : '/' ∉ step.token := by
  cases step with
  | member name => exact slash_not_mem_escape
  | item position => exact not_mem_decimalText (by decide)

end Escape

section Tokens
variable {p q : String}

/-- The tokens of two pointers, one after the other. -/
theorem tokens_append (hp : Rooted p) (hq : Rooted q) : tokens (p ++ q) = tokens p ++ tokens q := by
  rcases hp with rfl | hp
  · simp [tokens]
  rcases hq with rfl | hq
  · simp [tokens]
  obtain ⟨first, hfirst⟩ := List.head?_eq_some_iff.mp hp
  obtain ⟨second, hsecond⟩ := List.head?_eq_some_iff.mp hq
  have hp' : p ≠ "" := by rintro rfl; simp at hp
  have hq' : q ≠ "" := by rintro rfl; simp at hq
  rw [tokens, tokens, tokens, if_neg hp', if_neg hq', if_neg (by simp [hp']), String.toList_append,
    hfirst, hsecond, List.cons_append, List.tail_cons, List.tail_cons, List.tail_cons]
  exact split_append first second

theorem Rooted.append (hp : Rooted p) (hq : Rooted q) : Rooted (p ++ q) := by
  rcases hp with rfl | hp
  · rwa [String.empty_append]
  · exact .inr (by rw [String.toList_append, List.head?_append, hp, Option.some_or])

theorem rooted_cons (token : List Char) : Rooted (.ofList ('/' :: token)) := .inr (by simp)

/-- The tokens of a path's pointer are the tokens of its steps. -/
theorem tokens_pointerOf (path : List PathStep) :
    Rooted (pointerOf path) ∧ tokens (pointerOf path) = path.map PathStep.token := by
  induction path with
  | nil => exact ⟨.inl rfl, rfl⟩
  | cons step path ih =>
    have hcons : pointerOf (step :: path) = .ofList ('/' :: step.token) ++ pointerOf path := by
      rw [pointerOf, List.flatMap_cons, String.ofList_append, ← pointerOf]
    have hfirst : tokens (.ofList ('/' :: step.token)) = [step.token] := by
      rw [tokens, if_neg (by simp), String.toList_ofList, List.tail_cons,
        split_of_not_mem step.slash_not_mem_token]
    rw [hcons, tokens_append (rooted_cons step.token) ih.1, hfirst, ih.2]
    exact ⟨(rooted_cons step.token).append ih.1, rfl⟩

end Tokens

section Complete
variable {current value : Json} {step : PathStep}

theorem maxListLength_lt : maxListLength < 10 ^ maxStrDigits :=
  calc maxListLength < 10 ^ 19 := by decide
    _ ≤ 10 ^ maxStrDigits := Nat.pow_le_pow_right (by decide) (by decide)

theorem position?_decimalText {position : ℕ} (h : position ≤ maxListLength) :
    position? (decimalText position) = some position := by
  have hread := intOfDecimal_decimalText (h.trans_lt maxListLength_lt)
  obtain ⟨hdigits, hposition⟩ := intOfDecimal_eq_ok.mp hread
  rw [position?_eq_some, unescape_of_not_mem (not_mem_decimalText (by decide))]
  exact ⟨isDecimal_decimalText position, hdigits, hposition⟩

/-- A step's token selects what the step leads to. -/
theorem child?_token (hstep : childAt? current step = some value)
    (hsize : ∀ position, step = .item position → position ≤ maxListLength) :
    child? current step.token = some value := by
  match current, step with
  | .obj d, .member name =>
    rw [child?, PathStep.token, unescape_escape, String.ofList_toList]
    exact hstep
  | .arr items, .item position =>
    rw [child?, PathStep.token, position?_decimalText (hsize position rfl), Option.bind_some]
    exact hstep

theorem follow_path {path : List PathStep} {document : Json}
    (hpath : path.foldlM childAt? document = some value)
    (hsize : ∀ position, .item position ∈ path → position ≤ maxListLength) :
    (path.map PathStep.token).foldlM child? document = some value := by
  induction path generalizing document with
  | nil => exact hpath
  | cons step path ih =>
    simp only [List.foldlM_cons, Option.bind_eq_bind, Option.bind_eq_some_iff] at hpath
    obtain ⟨next, hstep, hrest⟩ := hpath
    have hselect := child?_token hstep fun position h => hsize position (h ▸ List.mem_cons_self)
    rw [List.map_cons, List.foldlM_cons, hselect]
    exact ih hrest fun position h => hsize position (List.mem_cons_of_mem _ h)

end Complete

/-- COMPLETE and COMPOSITIONAL: the pointer of every path leads to the value at that path, and a
    pointer made of two leads where they lead one after the other. -/
theorem resolveJsonPointer_complete_compositional :
    (∀ (document : Json) (path : List PathStep) (value : Json),
      path.foldlM childAt? document = some value →
      (∀ position, .item position ∈ path → position ≤ maxListLength) →
      resolveJsonPointer document (pointerOf path) = .ok value) ∧
    ∀ (document : Json) (p q : String) (value : Json), Rooted p → Rooted q →
      (resolveJsonPointer document (p ++ q) = .ok value ↔
        ∃ selection, resolveJsonPointer document p = .ok selection ∧
          resolveJsonPointer selection q = .ok value) := by
  constructor
  · intro document path value hpath hsize
    obtain ⟨hrooted, htokens⟩ := tokens_pointerOf path
    exact resolveJsonPointer_eq_ok.mpr ⟨hrooted, htokens ▸ follow_path hpath hsize⟩
  · intro document p q value hp hq
    simp only [resolveJsonPointer_eq_ok, hp, hq, hp.append hq, true_and, tokens_append hp hq,
      List.foldlM_append, Option.bind_eq_bind, Option.bind_eq_some_iff]

/-- A name that looks like an escape, an index, and an empty name. -/
theorem resolveJsonPointer_complete_nested :
    resolveJsonPointer (.obj [("~1", .arr [.null, .obj [("", .int 7)]])])
      (pointerOf [.member "~1", .item 1, .member ""]) = .ok (.int 7) :=
  resolveJsonPointer_complete_compositional.1 _ _ _ rfl fun position h => by
    obtain rfl : position = 1 := by simpa using h
    decide

end IncomUdon.Pointer
