import Mathlib.Data.Finset.Max
import Mathlib.Order.Bounds.Basic
import Mathlib.Tactic.Common

/-! A replay window over any linear order. A receiver with unlimited memory keeps the whole history
    of accepted counters; the window keeps its greatest element and the part of it that is not yet
    stale. Staleness is any relation that no counter has to itself and that only grows with the
    greatest counter, so that what was dropped stays out of reach:

        history ⊇ seen = { c ∈ history | ¬ stale highest c }

    REPRESENTS is the invariant that ties the two; marking a fresh counter keeps it, and under it
    the window and the history find the same counters fresh. -/

namespace IncomUdon.Lib.ReplayWindow

variable {α : Type}

/-- The greatest accepted counter and the accepted counters still remembered. -/
structure Window (α : Type) where
  highest : Option α
  seen : Finset α

namespace Window

/-- Nothing accepted yet. -/
def empty : Window α := ⟨none, ∅⟩

/-- The counter is not stale and not remembered. -/
def Fresh (stale : α → α → Prop) (w : Window α) (c : α) : Prop :=
  (∀ h ∈ w.highest, ¬stale h c) ∧ c ∉ w.seen

/-- The greatest counter once `c` is accepted too. -/
def raise [LinearOrder α] (highest : Option α) (c : α) : α := highest.elim c (max · c)

/-- Accept `c`: raise the greatest counter, remember `c` and forget what became stale. -/
def mark [LinearOrder α] (stale : α → α → Prop) [DecidableRel stale] (w : Window α) (c : α) :
    Window α :=
  ⟨some (raise w.highest c), {d ∈ insert c w.seen | ¬stale (raise w.highest c) d}⟩

end Window

/-- The counter is fresh for a receiver that forgets nothing. -/
def FreshIn [Preorder α] (stale : α → α → Prop) (history : Set α) (c : α) : Prop :=
  (∀ h, IsGreatest history h → ¬stale h c) ∧ c ∉ history

/-- The window holds the greatest counter of the history and its counters that are not stale. -/
structure Represents [Preorder α] (stale : α → α → Prop) (w : Window α) (history : Set α) :
    Prop where
  highest_none : w.highest = none → history = ∅
  highest_some : ∀ h, w.highest = some h → IsGreatest history h
  mem_seen : ∀ c, c ∈ w.seen ↔ c ∈ history ∧ ∀ h ∈ w.highest, ¬stale h c

open Window

section Represents
variable [LinearOrder α] {stale : α → α → Prop} {w : Window α} {history : Set α} {c : α}

theorem represents_empty : Represents stale (empty : Window α) ∅ where
  highest_none := fun _ => rfl
  highest_some := nofun
  mem_seen := by simp [empty]

/-- The greatest counter of the history is the one recorded. -/
theorem Represents.isGreatest_iff (hr : Represents stale w history) {h : α} :
    IsGreatest history h ↔ w.highest = some h := by
  refine ⟨fun hh => ?_, hr.highest_some h⟩
  cases hw : w.highest with
  | none => exact absurd (hr.highest_none hw ▸ hh.1) (Set.notMem_empty h)
  | some h' => rw [(hr.highest_some h' hw).unique hh]

/-- The window decides like the whole history. -/
theorem Represents.fresh_iff (hr : Represents stale w history) :
    w.Fresh stale c ↔ FreshIn stale history c := by
  have hstale : (∀ h ∈ w.highest, ¬stale h c) ↔ ∀ h, IsGreatest history h → ¬stale h c := by
    simp only [hr.isGreatest_iff, Option.mem_def]
  rw [Window.Fresh, FreshIn, hr.mem_seen, hstale]
  exact and_congr_right fun hc => not_congr (and_iff_left hc)

/-- A history has one window: how it came about leaves no trace. -/
theorem Represents.unique {w' : Window α} (hr : Represents stale w history)
    (hr' : Represents stale w' history) : w = w' := by
  have hhighest : w.highest = w'.highest := by
    refine Option.ext fun h => ?_
    rw [← hr.isGreatest_iff, ← hr'.isGreatest_iff]
  have hseen : w.seen = w'.seen := by
    ext c
    rw [hr.mem_seen, hr'.mem_seen, hhighest]
  cases w
  cases w'
  congr

/-- A counter stays fresh while no counter comes in for which it is stale. -/
theorem FreshIn.union {more : Set α} (hc : FreshIn stale history c) (hmore : c ∉ more)
    (hstale : ∀ d ∈ more, ¬stale d c) : FreshIn stale (history ∪ more) c := by
  refine ⟨fun h hh => ?_, fun hmem => hmem.elim hc.2 hmore⟩
  rcases hh.1 with hhistory | hin
  · exact hc.1 h ⟨hhistory, fun d hd => hh.2 (Or.inl hd)⟩
  · exact hstale h hin

/-- The recorded greatest counter is remembered. -/
theorem Represents.highest_mem_seen (hr : Represents stale w history) (hirrefl : ∀ h, ¬stale h h)
    {h : α} (hw : w.highest = some h) : h ∈ w.seen := by
  refine (hr.mem_seen h).mpr ⟨(hr.highest_some h hw).1, fun h' hh' => ?_⟩
  rw [Option.mem_def, hw, Option.some.injEq] at hh'
  exact hh' ▸ hirrefl h

/-- With no greatest counter nothing is remembered. -/
theorem Represents.seen_of_none (hr : Represents stale w history) (hw : w.highest = none) :
    w.seen = ∅ := by
  refine Finset.eq_empty_of_forall_notMem fun c hc => ?_
  have hmem := ((hr.mem_seen c).mp hc).1
  rw [hr.highest_none hw] at hmem
  exact hmem

/-- The raised mark is the greatest counter of the longer history. -/
theorem Represents.isGreatest_raise (hr : Represents stale w history) (c : α) :
    IsGreatest (insert c history) (raise w.highest c) := by
  cases hw : w.highest with
  | none =>
    rw [hr.highest_none hw]
    simp [raise]
  | some h =>
    rw [raise, Option.elim_some, max_comm]
    exact (hr.highest_some h hw).insert c

/-- The mark never goes down. -/
theorem le_raise {h : α} (hw : h ∈ w.highest) (c : α) : h ≤ raise w.highest c := by
  rw [Option.mem_def] at hw
  rw [hw]
  exact le_max_left h c

/-- STEP: accepting any counter keeps the window in line with the history. Nothing that was
    forgotten can come back, because the mark never goes down. -/
theorem Represents.mark [DecidableRel stale] (hr : Represents stale w history)
    (hmono : ∀ h h' d, h ≤ h' → stale h d → stale h' d) (c : α) :
    Represents stale (w.mark stale c) (insert c history) where
  highest_none := nofun
  highest_some := by
    rintro h ⟨⟩
    exact hr.isGreatest_raise c
  mem_seen := by
    intro d
    simp only [Window.mark, Finset.mem_filter, Finset.mem_insert, Option.mem_def,
      Option.some.injEq, forall_eq', Set.mem_insert_iff]
    refine and_congr_left fun hd => or_congr_right ?_
    rw [hr.mem_seen]
    refine and_iff_left fun h hw hstale => hd ?_
    exact hmono h _ d (le_raise hw c) hstale

end Represents

end IncomUdon.Lib.ReplayWindow
