import Mathlib.Order.Lattice
import Mathlib.Data.List.Basic
import Mathlib.Tactic.Common

/-! Reading an ordered list through an exclusive cursor. A query returns the first item whose key is
    greater than the cursor, and the next query uses the key just returned. Over a list with strictly
    increasing keys nothing is lost, repeated or reordered:

        after c = x :: after (key x)      when the query at c returns x
        after c = []                      when it returns nothing -/

namespace IncomUdon.Lib.ExclusiveCursor

variable {α κ : Type} [LinearOrder κ] (key : α → κ)

/-- The first item past the cursor. -/
def next (items : List α) (cursor : κ) : Option α := items.find? (cursor < key ·)

/-- All items past the cursor. -/
def after (items : List α) (cursor : κ) : List α := items.filter (cursor < key ·)

variable {key} {items : List α} {cursor : κ}

theorem after_of_next_none (h : next key items cursor = none) : after key items cursor = [] := by
  rw [next, List.find?_eq_none] at h
  exact List.filter_eq_nil_iff.mpr h

/-- STEP: what is past the cursor is the item returned and what is past that item. -/
theorem after_of_next_some (hinc : items.Pairwise fun x y => key x < key y) {item : α}
    (h : next key items cursor = some item) :
    after key items cursor = item :: after key items (key item) := by
  rw [next, List.find?_eq_some_iff_append] at h
  obtain ⟨hlt, before, rest, rfl, hbefore⟩ := h
  have hpast := of_decide_eq_true hlt
  have hrest := (List.pairwise_cons.mp (List.pairwise_append.mp hinc).2.1).1
  have hskip : ∀ c, cursor ≤ c → before.filter (c < key ·) = [] := by
    intro c hc
    refine List.filter_eq_nil_iff.mpr fun x hx => ?_
    have hle : key x ≤ cursor := by simpa using hbefore x hx
    simpa using hle.trans hc
  have hkeep : ∀ c, c ≤ key item → rest.filter (c < key ·) = rest := by
    intro c hc
    refine List.filter_eq_self.mpr fun x hx => decide_eq_true ?_
    exact hc.trans_lt (hrest x hx)
  calc after key (before ++ item :: rest) cursor = item :: rest := by
        simp [after, hpast, hskip cursor le_rfl, hkeep cursor hpast.le]
    _ = item :: after key (before ++ item :: rest) (key item) := by
        simp [after, hskip (key item) hpast.le, hkeep (key item) le_rfl]

end IncomUdon.Lib.ExclusiveCursor
