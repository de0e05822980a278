import Mathlib.Data.List.Nodup
import Mathlib.Tactic.Common

/-! A function that remembers its answers. A key that was asked before is looked up, a new one is
    evaluated and kept:

        asked       k₁   k₂   k₁   k₃   k₂
        evaluated   k₁   k₂        k₃

    The answers are those of the function, and no key is evaluated twice. -/

namespace IncomUdon.Lib.Memo

variable {κ ν : Type*} [DecidableEq κ] (f : κ → ν)

/-- The answers that are kept, and the keys that were evaluated so far. -/
structure Answers (κ ν : Type*) where
  cache : List (κ × ν)
  evaluated : List κ

/-- Nothing was asked. -/
def Answers.empty : Answers κ ν := ⟨[], []⟩

/-- Ask for a key. -/
def ask (key : κ) (memo : Answers κ ν) : ν × Answers κ ν :=
  match memo.cache.lookup key with
  | some value => (value, memo)
  | none => (f key, ⟨memo.cache ++ [(key, f key)], memo.evaluated ++ [key]⟩)

/-- The cache holds the value of each key that was evaluated, once. -/
structure Valid (memo : Answers κ ν) : Prop where
  cache : memo.cache = memo.evaluated.map fun key => (key, f key)
  nodup : memo.evaluated.Nodup

omit [DecidableEq κ] in
theorem valid_empty : Valid f Answers.empty := ⟨rfl, .nil⟩

theorem lookup_map (key : κ) (keys : List κ) :
    (keys.map fun k => (k, f k)).lookup key = if key ∈ keys then some (f key) else none := by
  induction keys with
  | nil => rfl
  | cons first keys ih =>
    rw [List.map_cons, List.lookup_cons, ih]
    rcases eq_or_ne key first with rfl | hne
    · simp
    · rw [beq_false_of_ne hne]
      simp [hne]

variable {f} {key : κ} {memo : Answers κ ν}

/-- STEP: a key that was evaluated costs nothing, another is evaluated now. -/
theorem ask_eq (h : Valid f memo) : ask f key memo =
    (f key, if key ∈ memo.evaluated then memo
      else ⟨memo.cache ++ [(key, f key)], memo.evaluated ++ [key]⟩) := by
  unfold ask
  rw [h.cache, lookup_map]
  by_cases hmem : key ∈ memo.evaluated
  · rw [if_pos hmem, if_pos hmem]
  · rw [if_neg hmem, if_neg hmem]

theorem ask_valid (h : Valid f memo) : Valid f (ask f key memo).2 := by
  rw [ask_eq h]
  by_cases hmem : key ∈ memo.evaluated
  · rwa [if_pos hmem]
  · rw [if_neg hmem]
    refine ⟨?_, List.nodup_append_comm.mp (List.nodup_cons.mpr ⟨hmem, h.nodup⟩)⟩
    rw [h.cache, List.map_append]
    rfl

theorem mem_evaluated_ask (h : Valid f memo) {other : κ} :
    other ∈ (ask f key memo).2.evaluated ↔ other ∈ memo.evaluated ∨ other = key := by
  rw [ask_eq h]
  by_cases hmem : key ∈ memo.evaluated
  · rw [if_pos hmem, or_iff_left_of_imp]
    rintro rfl
    exact hmem
  · rw [if_neg hmem, List.mem_append, List.mem_singleton]

end IncomUdon.Lib.Memo
