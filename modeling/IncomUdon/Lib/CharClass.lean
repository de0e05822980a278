import Mathlib.Computability.RegularExpressions

/-! Regular expressions as they are written: a class of characters, a fixed word, `+` and `?`. Each
    has one lemma that says which words it matches, so that an expression is read part by part:

        oneOf cs      [cs]          the words of one character of `cs`
        word w        w             `w` alone
        many1 P       P+            what `P` matches, once or more
        optional P    (?:P)?        what `P` matches, or nothing                          -/

namespace IncomUdon.Lib.CharClass

variable {α : Type*}

/-- `[cs]`. -/
def oneOf (cs : List α) : RegularExpression α := (cs.map RegularExpression.char).sum

/-- `w`. -/
def word (w : List α) : RegularExpression α := (w.map RegularExpression.char).prod

/-- `P+`. -/
def many1 (P : RegularExpression α) : RegularExpression α := P * P.star

/-- `(?:P)?`. -/
def optional (P : RegularExpression α) : RegularExpression α := 1 + P

variable {cs w : List α} {P Q : RegularExpression α}

theorem mem_mul : w ∈ (P * Q).matches' ↔ ∃ u ∈ P.matches', ∃ v ∈ Q.matches', u ++ v = w := by
  rw [RegularExpression.matches'_mul, Language.mem_mul]

theorem mem_oneOf : w ∈ (oneOf cs).matches' ↔ ∃ c ∈ cs, w = [c] := by
  induction cs with
  | nil => exact ⟨fun h => h.elim, by simp⟩
  | cons c cs ih =>
    have hsum : (oneOf (c :: cs)).matches' = {[c]} + (oneOf cs).matches' := rfl
    rw [hsum, Language.mem_add, ih, List.exists_mem_cons_iff]
    exact Iff.rfl

theorem mem_word {v : List α} : v ∈ (word w).matches' ↔ v = w := by
  induction w generalizing v with
  | nil => exact Iff.rfl
  | cons c w ih =>
    have hprod : word (c :: w) = .char c * word w := rfl
    rw [hprod, mem_mul]
    constructor
    · rintro ⟨_, rfl, u, hu, rfl⟩
      rw [ih.mp hu]
      rfl
    · rintro rfl
      exact ⟨[c], rfl, w, ih.mpr rfl, rfl⟩

/-- STAR: a class repeated matches the words over it. -/
theorem mem_star_oneOf : w ∈ (oneOf cs).star.matches' ↔ ∀ c ∈ w, c ∈ cs := by
  rw [RegularExpression.matches'_star, Language.mem_kstar]
  constructor
  · rintro ⟨parts, rfl, hparts⟩ c hc
    obtain ⟨part, hpart, hc⟩ := List.mem_flatten.mp hc
    obtain ⟨d, hd, rfl⟩ := mem_oneOf.mp (hparts part hpart)
    rw [List.mem_singleton.mp hc]
    exact hd
  · intro h
    refine ⟨w.map fun c => [c], ?_, ?_⟩
    · induction w with
      | nil => rfl
      | cons c w ih =>
        rw [List.map_cons, List.flatten_cons, ← ih fun d hd => h d (List.mem_cons_of_mem c hd)]
        rfl
    · intro part hpart
      obtain ⟨c, hc, rfl⟩ := List.mem_map.mp hpart
      exact mem_oneOf.mpr ⟨c, h c hc, rfl⟩

theorem mem_many1_oneOf : w ∈ (many1 (oneOf cs)).matches' ↔ w ≠ [] ∧ ∀ c ∈ w, c ∈ cs := by
  rw [many1, mem_mul]
  constructor
  · rintro ⟨_, hfirst, rest, hrest, rfl⟩
    obtain ⟨c, hc, rfl⟩ := mem_oneOf.mp hfirst
    refine ⟨by simp, ?_⟩
    rw [List.singleton_append, List.forall_mem_cons]
    exact ⟨hc, mem_star_oneOf.mp hrest⟩
  · rintro ⟨hne, h⟩
    obtain ⟨c, rest, rfl⟩ := List.exists_cons_of_ne_nil hne
    rw [List.forall_mem_cons] at h
    exact ⟨[c], mem_oneOf.mpr ⟨c, h.1, rfl⟩, rest, mem_star_oneOf.mpr h.2, rfl⟩

theorem mem_optional : w ∈ (optional P).matches' ↔ w = [] ∨ w ∈ P.matches' := by
  rw [optional, RegularExpression.matches'_add, Language.mem_add]
  exact Iff.rfl

end IncomUdon.Lib.CharClass
