import Mathlib.Order.Basic
import Mathlib.Tactic.Common

/-! Runs of a deterministic system over its inputs, where each input may be given only in some
    states. A run is the left fold of the step; `Guarded` says that every input was allowed where it
    was given. What holds of one guarded step holds along the run:

        invariant    Inv s                         Inv (run s)
        potential    φ s + [event] ≤ φ (step s i)  #events + φ s ≤ φ (run s)

    The last rule bounds how often an event can happen at all, as soon as `φ` is bounded. -/

namespace IncomUdon.Lib.GuardedRun

variable {σ ι : Type} (step : σ → ι → σ) (guard : σ → ι → Prop)

/-- Every input is allowed in the state it is given in. -/
def Guarded : σ → List ι → Prop
  | _, [] => True
  | s, i :: is => guard s i ∧ Guarded (step s i) is

/-- How many steps of the run are such an event. -/
def occurrences (event : σ → ι → Prop) [∀ s i, Decidable (event s i)] : σ → List ι → ℕ
  | _, [] => 0
  | s, i :: is => (if event s i then 1 else 0) + occurrences event (step s i) is

section Run
variable {step : σ → ι → σ} {guard : σ → ι → Prop} {s : σ} {is js : List ι} {Inv : σ → Prop}

theorem guarded_append :
    Guarded step guard s (is ++ js) ↔
      Guarded step guard s is ∧ Guarded step guard (is.foldl step s) js := by
  induction is generalizing s with
  | nil => simp [Guarded]
  | cons i is ih => simp only [List.cons_append, Guarded, ih, List.foldl_cons, and_assoc]

/-- A run keeps the invariant that its steps keep. -/
theorem invariant_run (hstep : ∀ s i, Inv s → guard s i → Inv (step s i))
    (hrun : Guarded step guard s is) (hs : Inv s) : Inv (is.foldl step s) := by
  induction is generalizing s with
  | nil => exact hs
  | cons i is ih => exact ih hrun.2 (hstep s i hs hrun.1)

/-- A run raises the potential by one for every event, when its steps do. -/
theorem occurrences_add_le {event : σ → ι → Prop} [∀ s i, Decidable (event s i)] (φ : σ → ℕ)
    (hinv : ∀ s i, Inv s → guard s i → Inv (step s i))
    (hstep : ∀ s i, Inv s → guard s i → φ s + (if event s i then 1 else 0) ≤ φ (step s i))
    (hrun : Guarded step guard s is) (hs : Inv s) :
    occurrences step event s is + φ s ≤ φ (is.foldl step s) := by
  induction is generalizing s with
  | nil => simp [occurrences]
  | cons i is ih =>
    have hfirst := hstep s i hs hrun.1
    have hrest := ih hrun.2 (hinv s i hs hrun.1)
    rw [occurrences, List.foldl_cons]
    omega

end Run

end IncomUdon.Lib.GuardedRun
