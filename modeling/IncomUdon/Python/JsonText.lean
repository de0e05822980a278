import IncomUdon.Lib.SelfDelimiting
import IncomUdon.Python.Operators
import IncomUdon.Python.Text

/-! JSON text, `json.dumps(value, separators=(",", ":"), ensure_ascii=False)`. Nothing stands between
    the tokens, and of the characters of a string only these are escaped:

        \ and "                       with a backslash
        backspace … carriage return   \b \t \n \f \r
        other controls                \u00 and two hexadecimal digits

    ONE READING: the text of a value without floats is the text of no other value. A number ends where
    a comma or a closing bracket follows it, and a float has a character that no integer has. -/

namespace IncomUdon.Python
open IncomUdon.Lib.ErrorLog IncomUdon.Lib.SelfDelimiting

/-- `ESCAPE_DCT`. -/
def escapes : List (Char × Char) :=
  [('\\', '\\'), ('"', '"'), ('\x08', 'b'), ('\x0c', 'f'), ('\n', 'n'), ('\r', 'r'), ('\t', 't')]

/-- A character of a string. -/
def escape (c : Char) : List Char :=
  match escapes.lookup c with
  | some letter => ['\\', letter]
  | none =>
    if c.toNat < 0x20 then
      ['\\', 'u', '0', '0', Nat.digitChar (c.toNat / 16), Nat.digitChar (c.toNat % 16)]
    else [c]

/-- A string in quotes. -/
def quote (text : String) : List Char := '"' :: (text.toList.flatMap escape ++ ['"'])

/-- `int.__repr__`. -/
def intText (n : ℤ) : List Char := if n < 0 then '-' :: decimalText n.natAbs else decimalText n.natAbs

namespace PyFloat

/-- The decimals with up to 17 digits next to `q`, as digits and exponent: the short ones first, and
    of two with one length the nearer. -/
def decimals (q : ℚ) : List (ℕ × ℤ) :=
  (List.range 17).flatMap fun (k : ℕ) =>
    let exponent := Int.log 10 q - k
    let scaled : ℚ := q / 10 ^ exponent
    [roundHalfEven scaled, ⌊scaled⌋, ⌊scaled⌋ + 1].map fun digits => (digits.toNat, exponent)

/-- The first that is read back as `q`. -/
def shortest (q : ℚ) : ℕ × ℤ :=
  ((decimals q).find? fun d => ofRat (d.1 * 10 ^ d.2) = .finite q).getD (0, 0)

/-- The text of a positive number. -/
def positiveText (q : ℚ) : List Char :=
  let (value, exponent) := shortest q
  let all := decimalText value
  let digits := (all.reverse.dropWhile (· = '0')).reverse
  let point : ℤ := all.length + exponent
  if point ≤ -4 ∨ 16 < point then
    let fraction := if digits.length = 1 then digits else digits.take 1 ++ '.' :: digits.drop 1
    let power := decimalText (point - 1).natAbs
    fraction ++ 'e' :: (if point - 1 < 0 then '-' else '+') ::
      (List.replicate (2 - power.length) '0' ++ power)
  else if point ≤ 0 then '0' :: '.' :: (List.replicate (-point).toNat '0' ++ digits)
  else if digits.length ≤ point then
    digits ++ List.replicate (point - digits.length).toNat '0' ++ ['.', '0']
  else digits.take point.toNat ++ '.' :: digits.drop point.toNat

/-- `float.__repr__`, and the names that `json` writes for the other values. -/
def text : PyFloat → List Char
  | .nan => "NaN".toList
  | .inf negative => if negative then "-Infinity".toList else "Infinity".toList
  | .finite q =>
    if q = 0 then "0.0".toList
    else if q < 0 then '-' :: positiveText (-q)
    else positiveText q

example : text (.finite (6980579422424269 / 2251799813685248)) = "3.1".toList := by decide +kernel

end PyFloat

mutual

/-- `json.dumps`. -/
def dumps : Json → List Char
  | .null => "null".toList
  | .bool b => if b then "true".toList else "false".toList
  | .int n => intText n
  | .float x => x.text
  | .str s => quote s
  | .arr items => '[' :: dumpsItems true items
  | .obj members => '{' :: dumpsMembers true members

/-- The rest of an array. -/
def dumpsItems (first : Bool) : List Json → List Char
  | [] => [']']
  | item :: items => (if first then [] else [',']) ++ (dumps item ++ dumpsItems false items)

/-- The rest of an object. -/
def dumpsMembers (first : Bool) : Dict → List Char
  | [] => ['}']
  | (key, value) :: members =>
    (if first then [] else [',']) ++ (quote key ++ ':' :: (dumps value ++ dumpsMembers false members))

end

/-! ### One reading -/

section Strings

/-- The three forms of a character. -/
theorem escape_cases (c : Char) :
    (∃ letter, escapes.lookup c = some letter ∧ escape c = ['\\', letter]) ∨
    (escapes.lookup c = none ∧ c.toNat < 0x20 ∧
      escape c = ['\\', 'u', '0', '0', Nat.digitChar (c.toNat / 16), Nat.digitChar (c.toNat % 16)]) ∨
    (escapes.lookup c = none ∧ escape c = [c]) := by
  unfold escape
  cases escapes.lookup c with
  | some letter => exact .inl ⟨letter, rfl, rfl⟩
  | none =>
    by_cases h : c.toNat < 0x20
    · exact .inr (.inl ⟨rfl, h, if_pos h⟩)
    · exact .inr (.inr ⟨rfl, if_neg h⟩)

/-- No two characters have one letter, and none has the letter of the hexadecimal form. -/
theorem escapes_letters : ∀ p ∈ escapes, p.2 ≠ 'u' ∧ ∀ q ∈ escapes, p.2 = q.2 → p.1 = q.1 := by
  decide

theorem digitChar_inj : ∀ m < 16, ∀ n < 16, Nat.digitChar m = Nat.digitChar n → m = n := by
  decide

theorem delimits_escape : Delimits (fun _ => True) escape := by
  intro c d _ _ xs ys heq
  have hslash : escapes.lookup '\\' = some '\\' := rfl
  rcases escape_cases c with ⟨letter, hc, htext⟩ | ⟨hc, hlt, htext⟩ | ⟨hc, htext⟩ <;>
    rcases escape_cases d with ⟨letter', hd, htext'⟩ | ⟨hd, hlt', htext'⟩ | ⟨hd, htext'⟩ <;>
    simp only [htext, htext', List.cons_append, List.nil_append, List.cons.injEq, true_and] at heq
  · obtain ⟨rfl, hrest⟩ := heq
    exact ⟨(escapes_letters _ (mem_of_lookup hc)).2 _ (mem_of_lookup hd) rfl, hrest⟩
  · exact absurd heq.1 (escapes_letters _ (mem_of_lookup hc)).1
  · simp [← heq.1, hslash] at hd
  · exact absurd heq.1.symm (escapes_letters _ (mem_of_lookup hd)).1
  · obtain ⟨hhigh, hlow, hrest⟩ := heq
    have hhigh := digitChar_inj _ (by omega) _ (by omega) hhigh
    have hlow := digitChar_inj _ (by omega) _ (by omega) hlow
    exact ⟨Char.toNat_inj.mp (by omega), hrest⟩
  · simp [← heq.1, hslash] at hd
  · simp [heq.1, hslash] at hc
  · simp [heq.1, hslash] at hc
  · exact heq

/-- No character begins with a quote. -/
theorem escape_not_quote (c : Char) : ∃ t rest, escape c = t :: rest ∧ t ≠ '"' := by
  rcases escape_cases c with ⟨letter, -, htext⟩ | ⟨-, -, htext⟩ | ⟨hc, htext⟩
  · exact ⟨_, _, htext, by decide⟩
  · exact ⟨_, _, htext, by decide⟩
  · refine ⟨_, _, htext, ?_⟩
    rintro rfl
    cases hc

theorem delimits_quote : Delimits (fun _ => True) quote := by
  intro text text' _ _ xs ys heq
  simp only [quote, List.cons_append, List.cons.injEq, true_and] at heq
  obtain ⟨htext, hrest⟩ := delimits_escape.terminated (fun c _ => escape_not_quote c)
    (fun _ _ => trivial) (fun _ _ => trivial) heq
  exact ⟨String.toList_inj.mp htext, hrest⟩

end Strings

/-- What follows a value: nothing, or the next token of its array or object. -/
def EndsValue (rest : List Char) : Prop := ∀ c ∈ rest.head?, c ∈ [',', ']', '}']

theorem endsValue_nil : EndsValue [] := nofun

theorem endsValue_cons {c : Char} {rest : List Char} (h : c ∈ [',', ']', '}']) :
    EndsValue (c :: rest) := by
  rintro _ ⟨⟩
  exact h

/-- The characters of an integer. -/
def inInteger (c : Char) : Bool := c.isDigit || c = '-'

theorem not_inInteger_of_ends {c : Char} (h : c ∈ [',', ']', '}']) : inInteger c = false := by
  simp only [List.mem_cons, List.not_mem_nil, or_false] at h
  rcases h with rfl | rfl | rfl <;> decide

section Integers

theorem decimalText_append_inj {m n : ℕ} {xs ys : List Char} (hxs : EndsValue xs)
    (hys : EndsValue ys) (heq : decimalText m ++ xs = decimalText n ++ ys) : m = n ∧ xs = ys := by
  have hdigit : ∀ c ∈ [',', ']', '}'], c.isDigit = false := fun c hc =>
    (Bool.or_eq_false_iff.mp (not_inInteger_of_ends hc)).1
  have hspan : ∀ k zs, EndsValue zs →
      (decimalText k ++ zs).takeWhile Char.isDigit = decimalText k := by
    intro k zs hzs
    rw [List.takeWhile_append_of_pos isDigit_of_mem_decimalText]
    cases zs with
    | nil => simp
    | cons z zs => simp [hdigit z (hzs z rfl)]
  have htext : decimalText m = decimalText n := by rw [← hspan m xs hxs, heq, hspan n ys hys]
  refine ⟨?_, List.append_cancel_left (htext ▸ heq)⟩
  rw [← decimalValue_decimalText m, htext, decimalValue_decimalText]

theorem decimalText_cons (n : ℕ) : ∃ c rest, decimalText n = c :: rest ∧ c.isDigit = true := by
  obtain ⟨c, rest, htext⟩ := List.exists_cons_of_ne_nil (Nat.toDigits_ne_nil (n := n) (b := 10))
  exact ⟨c, rest, htext, isDigit_of_mem_decimalText (n := n) c (by rw [decimalText, htext]; simp)⟩

theorem intText_append_inj {m n : ℤ} {xs ys : List Char} (hxs : EndsValue xs)
    (hys : EndsValue ys) (heq : intText m ++ xs = intText n ++ ys) : m = n ∧ xs = ys := by
  obtain ⟨c, rest, hm, hc⟩ := decimalText_cons m.natAbs
  obtain ⟨d, rest', hn, hd⟩ := decimalText_cons n.natAbs
  unfold intText at heq
  split_ifs at heq with hneg hneg'
  · rw [List.cons_append, List.cons_append, List.cons.injEq] at heq
    obtain ⟨habs, hrest⟩ := decimalText_append_inj hxs hys heq.2
    exact ⟨by omega, hrest⟩
  · rw [hn, List.cons_append, List.cons_append, List.cons.injEq] at heq
    rw [← heq.1] at hd
    exact absurd hd (by decide)
  · rw [hm, List.cons_append, List.cons_append, List.cons.injEq] at heq
    rw [heq.1] at hc
    exact absurd hc (by decide)
  · obtain ⟨habs, hrest⟩ := decimalText_append_inj hxs hys heq
    exact ⟨by omega, hrest⟩

end Integers

section Floats

/-- The characters that tell a float: the point, the exponent, and two initials. -/
def tellsFloat : List Char := ['.', 'e', 'N', 'I']

/-- Characters of an integer, then one that tells a float. -/
def SplitsAsFloat (text : List Char) : Prop :=
  ∃ front c rest, text = front ++ c :: rest ∧ (∀ d ∈ front, inInteger d = true) ∧ c ∈ tellsFloat

theorem splitsAsFloat_append {front rest : List Char} {c : Char}
    (hfront : ∀ d ∈ front, inInteger d = true) (hc : c ∈ tellsFloat) :
    SplitsAsFloat (front ++ c :: rest) :=
  ⟨front, c, rest, rfl, hfront, hc⟩

theorem splitsAsFloat_positiveText (q : ℚ) : SplitsAsFloat (PyFloat.positiveText q) := by
  unfold PyFloat.positiveText
  obtain ⟨value, exponent⟩ := PyFloat.shortest q
  dsimp only
  set digits := ((decimalText value).reverse.dropWhile (· = '0')).reverse with hdigits
  have hdigit : ∀ d ∈ digits, inInteger d = true := by
    intro d hd
    rw [hdigits, List.mem_reverse] at hd
    have hmem := List.mem_reverse.mp ((List.dropWhile_suffix _).mem hd)
    simp [inInteger, isDigit_of_mem_decimalText d hmem]
  have htake : ∀ n, ∀ d ∈ digits.take n, inInteger d = true := fun n d hd =>
    hdigit d (List.mem_of_mem_take hd)
  split
  · split
    · exact splitsAsFloat_append hdigit (by decide)
    · rw [List.append_assoc]
      exact splitsAsFloat_append (htake 1) (by decide)
  · split
    · exact ⟨['0'], '.', _, rfl, List.forall_mem_singleton.mpr (by decide), by decide⟩
    · split
      · refine splitsAsFloat_append (fun d hd => ?_) (by decide)
        rcases List.mem_append.mp hd with hd | hd
        · exact hdigit d hd
        · rw [List.eq_of_mem_replicate hd]
          decide
      · exact splitsAsFloat_append (htake _) (by decide)

theorem splitsAsFloat_text (x : PyFloat) : SplitsAsFloat x.text := by
  cases x with
  | nan => exact ⟨[], 'N', ['a', 'N'], by decide, nofun, by decide⟩
  | inf negative =>
    cases negative with
    | false => exact ⟨[], 'I', "nfinity".toList, by decide, nofun, by decide⟩
    | true =>
      exact ⟨['-'], 'I', "nfinity".toList, by decide, List.forall_mem_singleton.mpr (by decide),
        by decide⟩
  | finite q =>
    rw [PyFloat.text]
    split_ifs
    · exact ⟨['0'], '.', ['0'], by decide, List.forall_mem_singleton.mpr (by decide), by decide⟩
    · obtain ⟨front, c, rest, htext, hfront, hc⟩ := splitsAsFloat_positiveText (-q)
      rw [htext]
      exact ⟨'-' :: front, c, rest, rfl, List.forall_mem_cons.mpr ⟨by decide, hfront⟩, hc⟩
    · exact splitsAsFloat_positiveText q

end Floats

section Values
variable {x y : Json} {xs ys : List Char}

mutual

/-- There is no float in the value. -/
def noFloat : Json → Bool
  | .float _ => false
  | .arr items => noFloatItems items
  | .obj members => noFloatMembers members
  | _ => true

def noFloatItems : List Json → Bool
  | [] => true
  | item :: items => noFloat item && noFloatItems items

def noFloatMembers : Dict → Bool
  | [] => true
  | (_, value) :: members => noFloat value && noFloatMembers members

end

/-- What the first character of a text tells. -/
inductive Kind where
  | null | bool | int | str | arr | obj
  deriving DecidableEq

def kind? : Json → Option Kind
  | .null => some .null
  | .bool _ => some .bool
  | .int _ => some .int
  | .float _ => none
  | .str _ => some .str
  | .arr _ => some .arr
  | .obj _ => some .obj

def leadKind? (c : Char) : Option Kind :=
  if c.isDigit ∨ c = '-' then some .int
  else if c = 'n' then some .null
  else if c = 't' ∨ c = 'f' then some .bool
  else if c = '"' then some .str
  else if c = '[' then some .arr
  else if c = '{' then some .obj
  else none

theorem kind?_of_noFloat (h : noFloat y = true) : ∃ k, kind? y = some k := by
  cases y <;> first | exact ⟨_, rfl⟩ | cases h

theorem leadKind?_dumps {k : Kind} (h : kind? x = some k) :
    ∃ c rest, dumps x = c :: rest ∧ leadKind? c = some k := by
  cases x with
  | null => cases h; exact ⟨_, _, rfl, by decide⟩
  | bool b => cases h; cases b <;> exact ⟨_, _, rfl, by decide⟩
  | int n =>
    cases h
    obtain ⟨c, rest, htext, hc⟩ := decimalText_cons n.natAbs
    rw [dumps, intText]
    split_ifs with hneg
    · exact ⟨_, _, rfl, by decide⟩
    · exact ⟨_, _, htext, if_pos (.inl hc)⟩
  | float x => cases h
  | str s => cases h; exact ⟨_, _, rfl, by decide⟩
  | arr items => cases h; exact ⟨_, _, rfl, by decide⟩
  | obj members => cases h; exact ⟨_, _, rfl, by decide⟩

theorem tellsFloat_spec {c : Char} (h : c ∈ tellsFloat) :
    inInteger c = false ∧ leadKind? c = none ∧ c ∉ [',', ']', '}'] := by
  simp only [tellsFloat, List.mem_cons, List.not_mem_nil, or_false] at h
  rcases h with rfl | rfl | rfl | rfl <;> decide

theorem inInteger_intText {n : ℤ} : ∀ c ∈ intText n, inInteger c = true := by
  have hdigits : ∀ c ∈ decimalText n.natAbs, inInteger c = true := fun c hc => by
    simp [inInteger, isDigit_of_mem_decimalText c hc]
  unfold intText
  split_ifs
  · exact List.forall_mem_cons.mpr ⟨by decide, hdigits⟩
  · exact hdigits

/-- No text without floats goes on as a float. -/
theorem not_splitsAsFloat_dumps (hy : noFloat y = true) (hys : EndsValue ys) :
    ¬SplitsAsFloat (dumps y ++ ys) := by
  rintro ⟨front, c, rest, heq, hfront, hc⟩
  obtain ⟨hinteger, hlead, hend⟩ := tellsFloat_spec hc
  -- Past its first characters of an integer, a text goes on with `c`, or with what ends a value.
  have hdrop := congrArg (List.dropWhile inInteger) heq
  rw [List.dropWhile_append_of_pos hfront, List.dropWhile_cons_of_neg (by simp [hinteger])] at hdrop
  obtain ⟨k, hkind⟩ := kind?_of_noFloat hy
  obtain ⟨d, text, hdumps, hk⟩ := leadKind?_dumps hkind
  cases hd : inInteger d with
  | false =>
    rw [hdumps, List.cons_append, List.dropWhile_cons_of_neg (by simp [hd]), List.cons.injEq] at hdrop
    rw [hdrop.1, hlead] at hk
    cases hk
  | true =>
    have hfirst : d.isDigit = true ∨ d = '-' := by simpa [inInteger] using hd
    rw [leadKind?, if_pos hfirst, Option.some.injEq] at hk
    subst hk
    cases y <;> simp only [kind?, Option.some.injEq, reduceCtorEq] at hkind
    rw [dumps, List.dropWhile_append_of_pos inInteger_intText] at hdrop
    cases ys with
    | nil => cases hdrop
    | cons e ys =>
      have he := hys e rfl
      rw [List.dropWhile_cons_of_neg (by simp [not_inInteger_of_ends he]), List.cons.injEq] at hdrop
      exact hend (hdrop.1 ▸ he)

/-- Equal texts are of one kind. -/
theorem kind?_eq (hy : noFloat y = true) (hys : EndsValue ys) (heq : dumps x ++ xs = dumps y ++ ys) :
    kind? x = kind? y := by
  obtain ⟨k, hk⟩ := kind?_of_noFloat hy
  cases hx : kind? x with
  | none =>
    cases x <;> simp only [kind?, reduceCtorEq] at hx
    obtain ⟨front, c, rest, htext, hfront, hc⟩ := splitsAsFloat_text ‹_›
    rw [dumps, htext, List.append_assoc, List.cons_append] at heq
    exact absurd ⟨front, c, rest ++ xs, heq.symm, hfront, hc⟩ (not_splitsAsFloat_dumps hy hys)
  | some k' =>
    obtain ⟨c, rest, hdumps, hlead⟩ := leadKind?_dumps hx
    obtain ⟨c', rest', hdumps', hlead'⟩ := leadKind?_dumps hk
    rw [hdumps, hdumps', List.cons_append, List.cons_append, List.cons.injEq] at heq
    rw [hk, ← hlead, ← hlead', heq.1]

theorem dumps_cons (x : Json) : ∃ c rest, dumps x = c :: rest ∧ c ≠ ']' := by
  cases hx : kind? x with
  | none =>
    cases x <;> simp only [kind?, reduceCtorEq] at hx
    obtain ⟨front, c, rest, htext, hfront, hc⟩ := splitsAsFloat_text ‹_›
    rw [dumps, htext]
    cases front with
    | nil => exact ⟨c, rest, rfl, fun h => (tellsFloat_spec hc).2.2 (by simp [h])⟩
    | cons d front =>
      refine ⟨d, _, rfl, ?_⟩
      rintro rfl
      exact absurd (hfront _ List.mem_cons_self) (by decide)
  | some k =>
    obtain ⟨c, rest, hdumps, hlead⟩ := leadKind?_dumps hx
    refine ⟨c, rest, hdumps, ?_⟩
    rintro rfl
    exact absurd hlead (by rw [show leadKind? ']' = none by decide]; exact nofun)

/-- No value begins with the end of an array. -/
theorem bracket_ne_dumpsItems {first : Bool} {items : List Json} :
    ']' :: xs ≠ dumpsItems first (y :: items) ++ ys := by
  intro heq
  obtain ⟨c, rest, hdumps, hne⟩ := dumps_cons y
  cases first with
  | false => exact absurd (List.cons.inj heq).1 (by decide)
  | true =>
    simp only [dumpsItems, hdumps, if_true, List.nil_append, List.cons_append, List.cons.injEq] at heq
    exact hne heq.1.symm

theorem brace_ne_dumpsMembers {first : Bool} {member : String × Json} {members : Dict} :
    '}' :: xs ≠ dumpsMembers first (member :: members) ++ ys := by
  intro heq
  cases first <;> exact absurd (List.cons.inj heq).1 (by decide)

theorem endsValue_dumpsItems {items : List Json} : EndsValue (dumpsItems false items ++ xs) := by
  cases items <;> exact endsValue_cons (by decide)

theorem endsValue_dumpsMembers {members : Dict} : EndsValue (dumpsMembers false members ++ xs) := by
  rcases members with _ | ⟨⟨key, value⟩, members⟩ <;> exact endsValue_cons (by decide)

mutual

theorem dumps_append_inj {x y : Json} {xs ys : List Char} (hy : noFloat y = true)
    (hxs : EndsValue xs) (hys : EndsValue ys) (heq : dumps x ++ xs = dumps y ++ ys) :
    x = y ∧ xs = ys := by
  have hkind := kind?_eq hy hys heq
  -- Values of different kinds are excluded by `hkind`.
  match x, y with
  | .float x, y =>
    obtain ⟨k, hk⟩ := kind?_of_noFloat hy
    cases hkind.trans hk
  | .null, .null => exact ⟨rfl, List.append_cancel_left heq⟩
  | .bool b, .bool b' =>
    cases b <;> cases b' <;> simp_all [dumps]
  | .int m, .int n =>
    obtain ⟨rfl, hrest⟩ := intText_append_inj hxs hys heq
    exact ⟨rfl, hrest⟩
  | .str s, .str t =>
    obtain ⟨rfl, hrest⟩ := delimits_quote trivial trivial heq
    exact ⟨rfl, hrest⟩
  | .arr items, .arr items' =>
    obtain ⟨rfl, hrest⟩ := dumpsItems_append_inj hy (List.cons.inj heq).2
    exact ⟨rfl, hrest⟩
  | .obj members, .obj members' =>
    obtain ⟨rfl, hrest⟩ := dumpsMembers_append_inj hy (List.cons.inj heq).2
    exact ⟨rfl, hrest⟩

theorem dumpsItems_append_inj {first : Bool} {items items' : List Json} {xs ys : List Char}
    (hy : noFloatItems items' = true)
    (heq : dumpsItems first items ++ xs = dumpsItems first items' ++ ys) :
    items = items' ∧ xs = ys := by
  match items, items' with
  | [], [] => exact ⟨rfl, List.append_cancel_left heq⟩
  | [], y :: items' => exact absurd heq bracket_ne_dumpsItems
  | x :: items, [] => exact absurd heq.symm bracket_ne_dumpsItems
  | x :: items, y :: items' =>
    obtain ⟨hy, hitems'⟩ := Bool.and_eq_true_iff.mp hy
    simp only [dumpsItems, List.append_assoc, List.append_cancel_left_eq] at heq
    obtain ⟨rfl, hrest⟩ := dumps_append_inj hy endsValue_dumpsItems endsValue_dumpsItems heq
    obtain ⟨rfl, hafter⟩ := dumpsItems_append_inj hitems' hrest
    exact ⟨rfl, hafter⟩

theorem dumpsMembers_append_inj {first : Bool} {members members' : Dict} {xs ys : List Char}
    (hy : noFloatMembers members' = true)
    (heq : dumpsMembers first members ++ xs = dumpsMembers first members' ++ ys) :
    members = members' ∧ xs = ys := by
  match members, members' with
  | [], [] => exact ⟨rfl, List.append_cancel_left heq⟩
  | [], member :: members' => exact absurd heq brace_ne_dumpsMembers
  | member :: members, [] => exact absurd heq.symm brace_ne_dumpsMembers
  | (key, x) :: members, (key', y) :: members' =>
    obtain ⟨hvalue, hmembers'⟩ := Bool.and_eq_true_iff.mp hy
    simp only [dumpsMembers, List.append_assoc, List.cons_append, List.append_cancel_left_eq] at heq
    obtain ⟨rfl, hcolon⟩ := delimits_quote trivial trivial heq
    obtain ⟨rfl, hrest⟩ := dumps_append_inj hvalue endsValue_dumpsMembers endsValue_dumpsMembers
      (List.cons.inj hcolon).2
    obtain ⟨rfl, hafter⟩ := dumpsMembers_append_inj hmembers' hrest
    exact ⟨rfl, hafter⟩

end

/-- ONE READING: a value without floats is the only value that has its text. -/
theorem dumps_injective (hy : noFloat y = true) (heq : dumps x = dumps y) : x = y := by
  have hnil : dumps x ++ [] = dumps y ++ [] := by rw [heq]
  exact (dumps_append_inj hy endsValue_nil endsValue_nil hnil).1

end Values

end IncomUdon.Python
