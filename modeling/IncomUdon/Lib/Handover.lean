import Mathlib.Order.Lattice
import Mathlib.Data.List.Chain
import Mathlib.Data.List.Pairwise
import Mathlib.Tactic.Common

/-! Terms that succeed one another. Each term starts and stops; in force is the last one that has
    started, and it is over when it has stopped:

        first  ├──────────────┤
        second         ├──────────────┤
        third                             ├───────┤
               ████████████████████████   ░░░ nobody between the second stop and the third start

    SEAMLESS: there is a term in force all the way to the last stop exactly when each term starts no
    later than the one before it stops. -/

namespace IncomUdon.Lib.Handover

variable {α τ : Type*} [LinearOrder τ] (start stop : α → τ)

/-- The last term that has started. -/
def inForce (terms : List α) (t : τ) : Option α := (terms.filter fun a => start a ≤ t).getLast?

/-- A term is in force, and not over. -/
def Covered (terms : List α) (t : τ) : Prop := ∃ a ∈ inForce start terms t, t < stop a

/-- The terms in order: none starts before the one before it, and each stops later than that. -/
structure Ordered (terms : List α) : Prop where
  starts : terms.Pairwise fun a b => start a ≤ start b
  stops : terms.Pairwise fun a b => stop a < stop b
  nonempty : ∀ a ∈ terms, start a < stop a

variable {start stop} {terms : List α} {a b : α} {t : τ}

theorem Ordered.tail (h : Ordered start stop (a :: terms)) : Ordered start stop terms where
  starts := h.starts.of_cons
  stops := h.stops.of_cons
  nonempty _ hb := h.nonempty _ (List.mem_cons_of_mem a hb)

theorem mem_of_inForce (h : a ∈ inForce start terms t) : a ∈ terms ∧ start a ≤ t := by
  have hmem := List.mem_filter.mp (List.mem_of_getLast? h)
  exact ⟨hmem.1, of_decide_eq_true hmem.2⟩

/-- Before the second term starts, the first is in force. -/
theorem covered_cons_of_lt (h : Ordered start stop (a :: b :: terms)) (ht : t < start b) :
    Covered start stop (a :: b :: terms) t ↔ start a ≤ t ∧ t < stop a := by
  have hnone : (b :: terms).filter (fun c => start c ≤ t) = [] := by
    rw [List.filter_eq_nil_iff]
    intro c hc
    have hle : start b ≤ start c := by
      rcases List.mem_cons.mp hc with rfl | hc
      · exact le_rfl
      · exact List.rel_of_pairwise_cons h.tail.starts hc
    simpa using ht.trans_le hle
  by_cases hstart : start a ≤ t
  · simp [Covered, inForce, hnone, hstart]
  · simp [Covered, inForce, hnone, hstart]

/-- Once the second term has started, the first does not matter. -/
theorem covered_cons_of_le (ht : start b ≤ t) :
    Covered start stop (a :: b :: terms) t ↔ Covered start stop (b :: terms) t := by
  have hsome : (b :: terms).filter (fun c => start c ≤ t) ≠ [] := by
    rw [List.filter_cons_of_pos (by simpa using ht)]
    exact List.cons_ne_nil _ _
  have hlast : inForce start (a :: b :: terms) t = inForce start (b :: terms) t := by
    unfold inForce
    by_cases hstart : start a ≤ t
    · rw [List.filter_cons_of_pos (by simpa using hstart)]
      exact List.getLast?_cons_of_ne_nil hsome
    · rw [List.filter_cons_of_neg (by simpa using hstart)]
  rw [Covered, hlast]
  exact Iff.rfl

/-- The last term stops last. -/
theorem Ordered.stop_le_last (h : Ordered start stop terms) (hne : terms ≠ []) (ha : a ∈ terms) :
    stop a ≤ stop (terms.getLast hne) := by
  have hstops := h.stops
  rw [← List.dropLast_append_getLast hne, List.pairwise_append] at hstops
  rw [← List.dropLast_append_getLast hne, List.mem_append, List.mem_singleton] at ha
  rcases ha with hinit | rfl
  · exact (hstops.2.2 a hinit _ (List.mem_singleton_self _)).le
  · exact le_rfl

/-- Whenever a term is in force, the first has started and the last has not stopped. -/
theorem Covered.bounds (h : Ordered start stop (a :: terms))
    (hcovered : Covered start stop (a :: terms) t) :
    start a ≤ t ∧ t < stop ((a :: terms).getLast (List.cons_ne_nil _ _)) := by
  obtain ⟨c, hc, hstop⟩ := hcovered
  obtain ⟨hmem, hstart⟩ := mem_of_inForce hc
  constructor
  · rcases List.mem_cons.mp hmem with rfl | hmem
    · exact hstart
    · exact (List.rel_of_pairwise_cons h.starts hmem).trans hstart
  · exact hstop.trans_le (h.stop_le_last _ hmem)

/-- SEAMLESS. -/
theorem covered_iff_seamless (h : Ordered start stop (a :: terms)) :
    (∀ t, start a ≤ t → t < stop ((a :: terms).getLast (List.cons_ne_nil _ _)) →
        Covered start stop (a :: terms) t) ↔
      (a :: terms).IsChain fun a b => start b ≤ stop a := by
  induction terms generalizing a with
  | nil =>
    refine iff_of_true ?_ (List.isChain_singleton a)
    intro t hstart hstop
    exact ⟨a, by simp [inForce, hstart], hstop⟩
  | cons b terms ih =>
    rw [List.isChain_cons_cons, ← ih h.tail, List.getLast_cons_cons]
    constructor
    · intro hall
      refine ⟨?_, ?_⟩
      · by_contra hgap
        rw [not_le] at hgap
        have hlast : stop a < stop ((b :: terms).getLast (List.cons_ne_nil _ _)) :=
          List.rel_of_pairwise_cons h.stops (List.getLast_mem _)
        have hcovered := hall (stop a) (h.nonempty a List.mem_cons_self).le hlast
        exact lt_irrefl _ ((covered_cons_of_lt h hgap).mp hcovered).2
      · intro t hstart hstop
        have hle : start a ≤ t := (List.rel_of_pairwise_cons h.starts List.mem_cons_self).trans hstart
        exact (covered_cons_of_le hstart).mp (hall t hle hstop)
    · rintro ⟨hjoin, hrest⟩ t hstart hstop
      rcases lt_or_ge t (start b) with hlt | hge
      · exact (covered_cons_of_lt h hlt).mpr ⟨hstart, hlt.trans_le hjoin⟩
      · exact (covered_cons_of_le hge).mpr (hrest t hge hstop)

end IncomUdon.Lib.Handover
