import IncomUdon.Lib.CharClass
import IncomUdon.Lib.SelfDelimiting
import IncomUdon.Python.Lines
import IncomUdon.SchemaTargets.Repository

/-! The version of a checkout, `read_spec_version`: the one line of `SPEC_VERSION`, which is the word
    `unreleased` or names a release:

        v 1 . 2 . 3 - rc.1
          └───┬───┘   └┬─┘
         numbers     suffix, or none

    ONE READING: the pattern matches the texts of releases, and each of them is the text of one. -/

namespace IncomUdon.SpecVersion
open IncomUdon.Python IncomUdon.SchemaTargets IncomUdon.Lib.CharClass IncomUdon.Lib.SelfDelimiting

/-- `0-9`. -/
def digits : List Char := "0123456789".toList

/-- `0-9A-Za-z`. -/
def alphanumerics : List Char :=
  digits ++ "ABCDEFGHIJKLMNOPQRSTUVWXYZ".toList ++ "abcdefghijklmnopqrstuvwxyz".toList

/-- `0-9A-Za-z.-`. -/
def suffixChars : List Char := alphanumerics ++ ['.', '-']

/-- `unreleased`. -/
def unreleased : List Char := "unreleased".toList

/-- `v[0-9]+\.[0-9]+\.[0-9]+(?:-[0-9A-Za-z][0-9A-Za-z.-]*)?`. -/
def releasePattern : RegularExpression Char :=
  word ['v'] * (many1 (oneOf digits) * (word ['.'] * (many1 (oneOf digits) * (word ['.'] *
    (many1 (oneOf digits) *
      optional (word ['-'] * (oneOf alphanumerics * (oneOf suffixChars).star)))))))

/-- `VERSION_PATTERN`, as `fullmatch` takes it. -/
def versionPattern : RegularExpression Char := word unreleased + releasePattern

example : versionPattern.rmatch "v0.10.2-rc.1".toList = true := by decide +kernel

/-- A release; `number` says what a number is. -/
@[ext] structure Release where
  major : List Char
  minor : List Char
  patch : List Char
  suffix : Option (List Char)
  number : ∀ part ∈ [major, minor, patch], part ≠ [] ∧ ∀ c ∈ part, c ∈ digits
  suffix_chars : ∀ text ∈ suffix, ∃ first rest, text = first :: rest ∧ first ∈ alphanumerics ∧
    ∀ c ∈ rest, c ∈ suffixChars

namespace Release

/-- What follows the numbers. -/
def tail (suffix : Option (List Char)) : List Char := suffix.elim [] ('-' :: ·)

/-- The name of a release. -/
def text (r : Release) : List Char :=
  'v' :: (r.major ++ '.' :: (r.minor ++ '.' :: (r.patch ++ tail r.suffix)))

/-- A number up to a character that is no digit. -/
theorem delimits_number {stop : Char} (hstop : stop ∉ digits) :
    Delimits (fun part : List Char => ∀ c ∈ part, c ∈ digits) fun part => part ++ [stop] := by
  have hchar : Delimits (· ∈ digits) fun c : Char => [c] :=
    delimits_of_length (fun _ _ _ _ heq => List.singleton_inj.mp heq) fun _ _ => rfl
  have hfirst : ∀ c, c ∈ digits → ∃ t rest, [c] = t :: rest ∧ t ≠ stop := fun c hc =>
    ⟨c, [], rfl, fun heq => hstop (heq ▸ hc)⟩
  simpa only [List.flatMap_singleton'] using hchar.terminated hfirst

theorem digits_of_mem (r : Release) {part : List Char} (h : part ∈ [r.major, r.minor, r.patch]) :
    ∀ c ∈ part, c ∈ digits := (r.number part h).2

theorem text_injective : Function.Injective text := by
  intro r s h
  have hrest := (List.cons.inj h).2
  rw [List.append_cons, List.append_cons s.major] at hrest
  obtain ⟨hmajor, hrest⟩ := delimits_number (by decide) (r.digits_of_mem (by simp))
    (s.digits_of_mem (by simp)) hrest
  rw [List.append_cons, List.append_cons s.minor] at hrest
  obtain ⟨hminor, hrest⟩ := delimits_number (by decide) (r.digits_of_mem (by simp))
    (s.digits_of_mem (by simp)) hrest
  -- a hyphen at the end stops the last number of a release without a suffix
  have htail : ∀ t : Release, ∃ rest, t.patch ++ tail t.suffix ++ ['-'] = (t.patch ++ ['-']) ++ rest ∧
      t.suffix.map (· ++ ['-']) = if rest = [] then none else some rest := by
    intro t
    rcases hsuffix : t.suffix with _ | suffix
    · exact ⟨[], by simp [tail], rfl⟩
    · exact ⟨suffix ++ ['-'], by simp [tail], by simp⟩
  obtain ⟨rest, hr, hrsuffix⟩ := htail r
  obtain ⟨rest', hs, hssuffix⟩ := htail s
  have hends : (r.patch ++ ['-']) ++ rest = (s.patch ++ ['-']) ++ rest' := by rw [← hr, ← hs, hrest]
  obtain ⟨hpatch, rfl⟩ := delimits_number (by decide) (r.digits_of_mem (by simp))
    (s.digits_of_mem (by simp)) hends
  have hsuffix : r.suffix = s.suffix :=
    Option.map_injective (List.append_left_injective ['-']) (hrsuffix.trans hssuffix.symm)
  exact Release.ext hmajor hminor hpatch hsuffix

end Release

/-- The word, or the name of exactly one release. -/
def IsVersion (text : List Char) : Prop := text = unreleased ∨ ∃! r : Release, r.text = text

section Pattern
variable {text : List Char}

theorem mem_suffixPattern :
    text ∈ (optional (word ['-'] * (oneOf alphanumerics * (oneOf suffixChars).star))).matches' ↔
      ∃ suffix : Option (List Char), (∀ s ∈ suffix, ∃ first rest, s = first :: rest ∧
        first ∈ alphanumerics ∧ ∀ c ∈ rest, c ∈ suffixChars) ∧ text = Release.tail suffix := by
  rw [mem_optional, mem_mul]
  constructor
  · rintro (rfl | ⟨hyphen, hhyphen, _, hmul, rfl⟩)
    · exact ⟨none, by simp, rfl⟩
    · obtain ⟨_, hclass, rest, hrest, rfl⟩ := mem_mul.mp hmul
      obtain ⟨first, hfirst, rfl⟩ := mem_oneOf.mp hclass
      rw [mem_word.mp hhyphen]
      exact ⟨some (first :: rest), by simpa using ⟨hfirst, mem_star_oneOf.mp hrest⟩, rfl⟩
  · rintro ⟨_ | suffix, hvalid, rfl⟩
    · exact .inl rfl
    · obtain ⟨first, rest, rfl, hfirst, hrest⟩ := hvalid suffix rfl
      exact .inr ⟨['-'], mem_word.mpr rfl, _, mem_mul.mpr
        ⟨[first], mem_oneOf.mpr ⟨first, hfirst, rfl⟩, rest, mem_star_oneOf.mpr hrest, rfl⟩, rfl⟩

theorem mem_releasePattern : text ∈ releasePattern.matches' ↔ ∃ r : Release, r.text = text := by
  constructor
  · intro h
    obtain ⟨_, hv, _, hnumbers, rfl⟩ := mem_mul.mp h
    obtain ⟨major, hmajor, _, hafterMajor, rfl⟩ := mem_mul.mp hnumbers
    obtain ⟨_, hdot, _, hafterDot, rfl⟩ := mem_mul.mp hafterMajor
    obtain ⟨minor, hminor, _, hafterMinor, rfl⟩ := mem_mul.mp hafterDot
    obtain ⟨_, hdot', _, hlast, rfl⟩ := mem_mul.mp hafterMinor
    obtain ⟨patch, hpatch, _, htail, rfl⟩ := mem_mul.mp hlast
    obtain ⟨suffix, hsuffix, rfl⟩ := mem_suffixPattern.mp htail
    rw [mem_many1_oneOf] at hmajor hminor hpatch
    rw [mem_word.mp hv, mem_word.mp hdot, mem_word.mp hdot']
    have hnumber : ∀ part ∈ [major, minor, patch], part ≠ [] ∧ ∀ c ∈ part, c ∈ digits := by
      rw [List.forall_mem_cons, List.forall_mem_cons, List.forall_mem_singleton]
      exact ⟨hmajor, hminor, hpatch⟩
    exact ⟨⟨major, minor, patch, suffix, hnumber, hsuffix⟩, rfl⟩
  · rintro ⟨r, rfl⟩
    have hnumber : ∀ part ∈ [r.major, r.minor, r.patch], part ∈ (many1 (oneOf digits)).matches' :=
      fun part hpart => mem_many1_oneOf.mpr (r.number part hpart)
    refine mem_mul.mpr ⟨['v'], mem_word.mpr rfl, _, mem_mul.mpr ⟨r.major, hnumber _ (by simp), _,
      mem_mul.mpr ⟨['.'], mem_word.mpr rfl, _, mem_mul.mpr ⟨r.minor, hnumber _ (by simp), _,
        mem_mul.mpr ⟨['.'], mem_word.mpr rfl, _, mem_mul.mpr ⟨r.patch, hnumber _ (by simp), _,
          mem_suffixPattern.mpr ⟨r.suffix, r.suffix_chars, rfl⟩, rfl⟩, rfl⟩, rfl⟩, rfl⟩, rfl⟩, rfl⟩

theorem fullmatch_iff : versionPattern.rmatch text = true ↔ IsVersion text := by
  rw [RegularExpression.rmatch_iff_matches', versionPattern, RegularExpression.matches'_add,
    Language.mem_add, mem_word, mem_releasePattern, IsVersion]
  refine or_congr_right ⟨fun h => ?_, ExistsUnique.exists⟩
  obtain ⟨r, rfl⟩ := h
  exact ⟨r, rfl, fun s hs => Release.text_injective hs⟩

theorem Release.suffixChars_of_mem (r : Release) : ∀ c ∈ r.text, c ∈ suffixChars := by
  have hdigits : digits ⊆ suffixChars := by decide
  have hnumber : ∀ part ∈ [r.major, r.minor, r.patch], ∀ c ∈ part, c ∈ suffixChars :=
    fun part hpart c hc => hdigits (r.digits_of_mem hpart c hc)
  have hsuffix : ∀ c ∈ tail r.suffix, c ∈ suffixChars := by
    rcases hs : r.suffix with _ | suffix
    · simp [tail]
    · obtain ⟨first, rest, rfl, hfirst, hrest⟩ := r.suffix_chars suffix hs
      simp only [tail, Option.elim_some, List.forall_mem_cons]
      exact ⟨by decide, List.mem_append_left _ hfirst, hrest⟩
  simp only [text, List.forall_mem_cons, List.forall_mem_append]
  exact ⟨by decide, hnumber _ (by simp), by decide, hnumber _ (by simp), by decide,
    hnumber _ (by simp), hsuffix⟩

theorem isVersion_oneLine (h : IsVersion text) : OneLine text := by
  have hsuffix : OneLine suffixChars := by decide
  rcases h with rfl | ⟨r, rfl, -⟩
  · exact (by decide : OneLine unreleased)
  · exact fun c hc => hsuffix c (r.suffixChars_of_mem c hc)

theorem isVersion_ne_nil (h : IsVersion text) : text ≠ [] := by
  rcases h with rfl | ⟨r, rfl, -⟩
  · decide
  · exact List.cons_ne_nil _ _

end Pattern

/-! ### Reading it -/

/-- What the functions raise: a `ValueError` with its message, or another exception. -/
inductive SpecError where
  | valueError (msg : Msg)
  | fault (kind : Fault)

/-- The exception is a `ValueError`, one of bytes that are no UTF-8 included. -/
def isValueError : Fault → Bool
  | .valueError | .jsonDecodeError => true
  | _ => false

/-- Why `git` lists no tags: it cannot be run or fails, with the text of the exception, or what it
    writes cannot be decoded. -/
inductive GitError where
  | failed (reason : String)
  | other (kind : Fault)

/-- A checkout: its files, the vectors among them, and the tags at its commit. -/
structure Checkout extends Repository where
  /-- `root / relative`. -/
  file : String → String
  /-- The files `*.json` under `test-vectors/`, relative to the root. -/
  vectorFiles : Finset String
  /-- What `git tag --points-at HEAD` writes. -/
  tags : Except GitError String

/-- `read_spec_version`. -/
def readSpecVersion (checkout : Checkout) : Except SpecError String :=
  match checkout.readText (checkout.file "SPEC_VERSION") with
  | .error (.osError reason) =>
    .error (.valueError ["cannot read ", checkout.file "SPEC_VERSION", ": ", reason])
  | .error (.other kind) => .error (.fault kind)
  | .ok text =>
    match splitLines text.toList with
    | [c :: line] =>
      if versionPattern.rmatch (c :: line) = true then .ok (.ofList (c :: line))
      else .error (.valueError ["unsupported SPEC_VERSION value: ", .repr (.str (.ofList (c :: line)))])
    | _ => .error (.valueError ["SPEC_VERSION must contain exactly one non-empty line"])

/-- The file holds this version, and at most the ending of its line. -/
def StatesVersion (checkout : Checkout) (version : String) : Prop :=
  IsVersion version.toList ∧ ∃ text, checkout.readText (checkout.file "SPEC_VERSION") = .ok text ∧
    (text = version ∨ ∃ ending, LineEnding ending ∧ text.toList = version.toList ++ ending)

section Reading
variable {checkout : Checkout} {version : String}

/-- EXACT: the version that is read is the one that the file states. -/
theorem readSpecVersion_eq_ok : readSpecVersion checkout = .ok version ↔
    StatesVersion checkout version := by
  unfold readSpecVersion StatesVersion
  rcases htext : checkout.readText (checkout.file "SPEC_VERSION") with (reason | kind) | text
  · simp
  · simp
  · have hlines : splitLines text.toList = [version.toList] ∧ IsVersion version.toList ↔
        IsVersion version.toList ∧ (text = version ∨
          ∃ ending, LineEnding ending ∧ text.toList = version.toList ++ ending) := by
      rw [and_comm]
      refine and_congr_right fun hversion => ?_
      rw [splitLines_eq_singleton (isVersion_ne_nil hversion), String.toList_inj]
      exact and_iff_right (isVersion_oneLine hversion)
    simp only [Except.ok.injEq, exists_eq_left']
    rw [← hlines]
    split
    · next c line h =>
      rw [h]
      split
      · next hmatch =>
        rw [fullmatch_iff] at hmatch
        simp only [Except.ok.injEq, List.cons.injEq, and_true]
        constructor
        · rintro rfl
          rw [String.toList_ofList]
          exact ⟨rfl, hmatch⟩
        · rintro ⟨hline, -⟩
          rw [hline, String.ofList_toList]
      · next hmatch =>
        simp only [reduceCtorEq, false_iff, not_and]
        intro hline hversion
        exact hmatch (fullmatch_iff.mpr ((List.singleton_inj.mp hline).symm ▸ hversion))
    · next hother =>
      simp only [reduceCtorEq, false_iff, not_and]
      intro hline hversion
      obtain ⟨c, line, hcons⟩ := List.exists_cons_of_ne_nil (isVersion_ne_nil hversion)
      exact hother c line (hline.trans (by rw [hcons]))

theorem statesVersion_unique {other : String} (h : StatesVersion checkout version)
    (h' : StatesVersion checkout other) : version = other :=
  Except.ok.inj ((readSpecVersion_eq_ok.mpr h).symm.trans (readSpecVersion_eq_ok.mpr h'))

end Reading

end IncomUdon.SpecVersion
