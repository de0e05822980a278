import Mathlib.Algebra.Order.Monoid.Defs
import Mathlib.Data.List.Chain
import Mathlib.Tactic.Common

/-! A lease that arriving signals renew. It runs for a fixed time from the last signal that arrived,
    so a lost signal leaves the deadline where it was:

        last ──────── lease ────────▶ deadline
             ≤ interval   ≤ interval
        last ──▶ lost ──▶ arrives     2 · interval < lease

    ALIVE says that the deadline is ahead whenever a signal is sent. Signals at most an interval apart
    keep it so, when the lease is longer than two intervals and no two signals in a row are lost. -/

namespace IncomUdon.Lib.Lease

/-- A signal that is sent and may be lost. -/
structure Signal (τ : Type) where
  time : τ
  lost : Bool

variable {τ : Type}

/-- The times of the signals that arrive. -/
def arrived (sent : List (Signal τ)) : List τ := (sent.filter fun s => !s.lost).map Signal.time

section Arrived
variable {s : Signal τ} {sent : List (Signal τ)}

theorem arrived_nil : arrived ([] : List (Signal τ)) = [] := rfl

theorem arrived_append (sent' : List (Signal τ)) :
    arrived (sent ++ sent') = arrived sent ++ arrived sent' := by
  simp [arrived]

theorem arrived_cons_of_lost (h : s.lost = true) : arrived (s :: sent) = arrived sent := by
  simp [arrived, h]

theorem arrived_cons_of_not_lost (h : ¬s.lost = true) :
    arrived (s :: sent) = s.time :: arrived sent := by
  simp [arrived, h]

end Arrived

section Alive
variable [AddCommMonoid τ] [LinearOrder τ]

/-- Each signal is sent before the deadline that the last arrival has set. -/
def Alive (lease : τ) : τ → List (Signal τ) → Prop
  | _, [] => True
  | last, s :: sent => s.time < last + lease ∧ Alive lease (if s.lost then last else s.time) sent

variable {lease interval last previous : τ} {s : Signal τ} {sent before after : List (Signal τ)}

/-- The deadline when a signal is sent comes from the arrivals before it. -/
theorem Alive.lt_deadline (h : Alive lease last (before ++ s :: after)) :
    s.time < (arrived before).getLastD last + lease := by
  induction before generalizing last with
  | nil => exact h.1
  | cons first before ih =>
    have hrest := ih h.2
    by_cases hlost : first.lost = true
    · rwa [if_pos hlost, ← arrived_cons_of_lost hlost] at hrest
    · rwa [if_neg hlost, ← List.getLastD_cons, ← arrived_cons_of_not_lost hlost] at hrest

/-- The deadline is ahead of the signal once it has arrived or was lost, too. -/
theorem Alive.lt_deadline_after [IsOrderedCancelAddMonoid τ] (hpos : 0 < lease)
    (h : Alive lease last (before ++ s :: after)) :
    s.time < (arrived (before ++ [s])).getLastD last + lease := by
  rw [arrived_append]
  by_cases hlost : s.lost = true
  · rw [arrived_cons_of_lost hlost, arrived_nil, List.append_nil]
    exact h.lt_deadline
  · rw [arrived_cons_of_not_lost hlost, arrived_nil, List.getLastD_eq_getLast?, List.getLast?_concat,
      Option.getD_some]
    exact lt_add_of_pos_right s.time hpos

/-- Every signal that arrives does so before the deadline. -/
theorem Alive.isChain_arrived (h : Alive lease last sent) :
    (last :: arrived sent).IsChain fun a b => b < a + lease := by
  induction sent generalizing last with
  | nil => exact List.isChain_singleton last
  | cons first sent ih =>
    have hrest := ih h.2
    by_cases hlost : first.lost = true
    · rwa [if_pos hlost, ← arrived_cons_of_lost hlost] at hrest
    · rw [if_neg hlost] at hrest
      rw [arrived_cons_of_not_lost hlost]
      exact List.isChain_cons_cons.mpr ⟨h.1, hrest⟩

/-- RUN: the lease outlives every isolated loss. After an arrival the next signal may be lost, and the
    one after that still comes in time. -/
theorem alive_of_isolated [IsOrderedCancelAddMonoid τ] (hinterval : 0 ≤ interval)
    (hlease : interval + interval < lease)
    (hspaced : (previous :: sent.map Signal.time).IsChain fun a b => b ≤ a + interval)
    (hisolated : sent.IsChain fun a b => ¬(a.lost = true ∧ b.lost = true))
    (hreach : previous ≤ last + interval)
    (hnext : previous = last ∨ ∀ s ∈ sent.head?, ¬s.lost = true) : Alive lease last sent := by
  induction sent generalizing previous last with
  | nil => trivial
  | cons s sent ih =>
    rw [List.map_cons, List.isChain_cons_cons] at hspaced
    obtain ⟨hgap, hspaced⟩ := hspaced
    have halive : s.time < last + lease := calc
      s.time ≤ previous + interval := hgap
      _ ≤ last + interval + interval := add_le_add_left hreach interval
      _ = last + (interval + interval) := add_assoc ..
      _ < last + lease := add_lt_add_right hlease last
    refine ⟨halive, ?_⟩
    by_cases hlost : s.lost = true
    · rw [if_pos hlost]
      have hprevious : previous = last := hnext.resolve_right fun h => h s rfl hlost
      refine ih hspaced hisolated.tail (hprevious ▸ hgap) (.inr fun next hhead hnextLost => ?_)
      cases sent with
      | nil => cases hhead
      | cons next' sent =>
        cases hhead
        exact (List.isChain_cons_cons.mp hisolated).1 ⟨hlost, hnextLost⟩
    · rw [if_neg hlost]
      exact ih hspaced hisolated.tail (le_add_of_nonneg_right hinterval) (.inl rfl)

end Alive

end IncomUdon.Lib.Lease
