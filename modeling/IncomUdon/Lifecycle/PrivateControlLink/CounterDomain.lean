import IncomUdon.Lib.KeyedOrder
import IncomUdon.Lifecycle.PrivateControlLink.Diagnostics

/-! Private Control Link: what an accepted list of diagnostics snapshots says. The loop keeps the
    snapshot before, and so it compares neighbours only:

        epoch a: 5   epoch b: 0   epoch a: 3        accepted as a new counter epoch

    EXACT: an accepted list is monotone in each epoch exactly when no epoch that comes back after
    another one has a counter below where it was left. -/

namespace IncomUdon.Lifecycle
open IncomUdon.Python IncomUdon.Lib.ErrorLog IncomUdon.Lib.KeyedOrder

/-! ### Counters -/

namespace Counters

/-- No counter falls. -/
structure Le (a b : Counters) : Prop where
  pttRequests : a.pttRequests ≤ b.pttRequests
  grants : a.grants ≤ b.grants
  denials : a.denials ≤ b.denials
  preemptions : a.preemptions ≤ b.preemptions
  unauthorizedRejections : a.unauthorizedRejections ≤ b.unauthorizedRejections

theorem Le.trans {a b c : Counters} (hab : a.Le b) (hbc : b.Le c) : a.Le c where
  pttRequests := hab.pttRequests.trans hbc.pttRequests
  grants := hab.grants.trans hbc.grants
  denials := hab.denials.trans hbc.denials
  preemptions := hab.preemptions.trans hbc.preemptions
  unauthorizedRejections := hab.unauthorizedRejections.trans hbc.unauthorizedRejections

/-- All counters are zero. -/
def zero : Counters := ⟨0, 0, 0, 0, 0⟩

theorem anyNonzero_eq_false {counters : Counters} : counters.anyNonzero = false ↔
    counters = zero := by
  cases counters
  simp [anyNonzero, values, zero]

theorem regressed_eq_false {a b : Counters} : a.regressed b = false ↔ a.Le b := by
  simp only [regressed, values, List.zip_cons_cons, List.zip_nil_left, List.any_cons, List.any_nil,
    Bool.or_eq_false_iff, decide_eq_false_iff_not, not_lt, and_true]
  exact ⟨fun ⟨h₁, h₂, h₃, h₄, h₅⟩ => ⟨h₁, h₂, h₃, h₄, h₅⟩,
    fun ⟨h₁, h₂, h₃, h₄, h₅⟩ => ⟨h₁, h₂, h₃, h₄, h₅⟩⟩

end Counters

/-! ### What the loop rejects -/

/-- The verdict is one of the two that accept. -/
def CounterVerdict.Accepts : CounterVerdict → Prop
  | .acceptMonotonic | .acceptNewCounterEpoch => True
  | _ => False

/-- A snapshot that is right by itself: zero when the feature is disabled, and no more preemptions
    than grants. -/
def CounterSnapshot.Plausible (enabled : Bool) (snapshot : CounterSnapshot) : Prop :=
  (enabled = false → snapshot.counters = .zero) ∧
    snapshot.counters.preemptions ≤ snapshot.counters.grants

/-- Within each epoch no counter is lower than in any snapshot before. -/
def MonotoneInEpochs : List CounterSnapshot → Prop :=
  MonotoneWithin CounterSnapshot.epoch fun a b => a.counters.Le b.counters

/-- No epoch directly continues with a lower counter. -/
def NeighboursMonotone : List CounterSnapshot → Prop :=
  Neighbours CounterSnapshot.epoch fun a b => a.counters.Le b.counters

/-- No epoch that comes back after another one has a counter below where it was left. -/
def ResumesMonotone : List CounterSnapshot → Prop :=
  Resumes CounterSnapshot.epoch fun a b => a.counters.Le b.counters

section Loop
variable {enabled : Bool} {domain : CounterDomain} {snapshot : CounterSnapshot}
  {snapshots : List CounterSnapshot}

theorem regresses_eq_false {before : CounterSnapshot} :
    regresses (some before) snapshot = false ↔
      (before.epoch = snapshot.epoch → before.counters.Le snapshot.counters) := by
  simp [regresses, ← Counters.regressed_eq_false]

/-- STEP: the loop goes on accepting a snapshot that is plausible and does not regress. -/
theorem verdict_next :
    (domain.next enabled snapshot).verdict = .acceptMonotonic ↔
      domain.verdict = .acceptMonotonic ∧ snapshot.Plausible enabled ∧
        regresses domain.previous snapshot = false := by
  simp only [CounterDomain.next, CounterSnapshot.Plausible, ← Counters.anyNonzero_eq_false]
  split_ifs with hdisabled hexceeds hregresses
  · simp_all
  · simp [Nat.not_le.mpr hexceeds]
  · simp [hregresses]
  · simp_all

/-- RUN: the loop ends as it began exactly when no snapshot is rejected. -/
theorem verdict_foldl :
    (snapshots.foldl (CounterDomain.next enabled) domain).verdict = .acceptMonotonic ↔
      domain.verdict = .acceptMonotonic ∧ (∀ s ∈ snapshots, s.Plausible enabled) ∧
        NeighboursMonotone (domain.previous.toList ++ snapshots) := by
  induction snapshots generalizing domain with
  | nil =>
    cases domain.previous <;> simp [NeighboursMonotone, Neighbours]
  | cons snapshot snapshots ih =>
    have hnext : (domain.next enabled snapshot).previous = some snapshot := rfl
    have hchain : NeighboursMonotone (domain.previous.toList ++ snapshot :: snapshots) ↔
        regresses domain.previous snapshot = false ∧
          NeighboursMonotone (snapshot :: snapshots) := by
      cases domain.previous with
      | none => simp [regresses]
      | some before =>
        rw [regresses_eq_false]
        exact List.isChain_cons_cons
    rw [List.foldl_cons, ih, verdict_next, hnext, hchain, List.forall_mem_cons]
    simp only [Option.toList_some, List.singleton_append]
    tauto

/-- The loop itself never finds a new epoch. -/
theorem verdict_foldl_ne (h : domain.verdict ≠ .acceptNewCounterEpoch) :
    (snapshots.foldl (CounterDomain.next enabled) domain).verdict ≠ .acceptNewCounterEpoch := by
  induction snapshots generalizing domain with
  | nil => exact h
  | cons snapshot snapshots ih =>
    refine ih ?_
    unfold CounterDomain.next
    split_ifs <;> simp_all

/-- A list is accepted exactly when every snapshot is plausible and neighbours are monotone. -/
theorem accepts_domainVerdict :
    (domainVerdict enabled snapshots).Accepts ↔
      (∀ s ∈ snapshots, s.Plausible enabled) ∧ NeighboursMonotone snapshots := by
  have hloop : (snapshots.foldl (CounterDomain.next enabled) ⟨.acceptMonotonic, none⟩).verdict
      = .acceptMonotonic ↔ _ := verdict_foldl
  have hnever : (snapshots.foldl (CounterDomain.next enabled) ⟨.acceptMonotonic, none⟩).verdict
      ≠ .acceptNewCounterEpoch := verdict_foldl_ne nofun
  unfold domainVerdict
  generalize snapshots.foldl (CounterDomain.next enabled) ⟨.acceptMonotonic, none⟩ = domain at *
  rw [Option.toList_none, List.nil_append, and_iff_right rfl] at hloop
  rw [← hloop]
  by_cases haccept : domain.verdict = .acceptMonotonic
  · simp only [haccept, true_and]
    split_ifs <;> simp [CounterVerdict.Accepts]
  · simp only [haccept, false_and, if_false, iff_false]
    cases hverdict : domain.verdict <;> simp_all [CounterVerdict.Accepts]

/-- FIXTURE: a case reports nothing exactly when its result names the verdict. -/
theorem clean_counterDomainCase {case : Dict} {items : List Json} {maximum index : ℕ}
    (henabled : Dict.get case "floor_interrupt_enabled" = .bool enabled)
    (hitems : Dict.get case "snapshots" = .arr items) (hne : items ≠ [])
    (hread : items.zipIdx.mapM (domainSnapshot (nameLabel case
      ["Private Control Link diagnostics counter domain case ", .val (.int index)]) maximum)
        = .ok snapshots) :
    Clean (counterDomainCase maximum (.obj case) index) () ↔
      Dict.get case "expected_result" = .str (domainVerdict enabled snapshots).text := by
  simp [-Bool.exists_bool, counterDomainCase, henabled, hitems, hne, hread]

end Loop

/-- EXACT: every accepted list is monotone in each epoch, with plausible snapshots, exactly when a
    list whose snapshots are plausible and whose neighbours are monotone has no epoch that comes back
    with a lower counter. -/
theorem counterDomains_monotone_iff (enabled : Bool) (snapshots : List CounterSnapshot) :
    ((domainVerdict enabled snapshots).Accepts →
      MonotoneInEpochs snapshots ∧
        (∀ s ∈ snapshots, s.counters.preemptions ≤ s.counters.grants) ∧
        (enabled = false → ∀ s ∈ snapshots, s.counters = .zero)) ↔
    ((∀ s ∈ snapshots, s.Plausible enabled) ∧ NeighboursMonotone snapshots →
      ResumesMonotone snapshots) := by
  rw [accepts_domainVerdict]
  refine imp_congr_right fun ⟨hvalid, hneighbours⟩ => ?_
  have hmonotone : MonotoneInEpochs snapshots ↔ NeighboursMonotone snapshots ∧ _ :=
    monotoneWithin_iff fun _ _ _ => Counters.Le.trans
  rw [hmonotone, and_iff_left ⟨fun s hs => (hvalid s hs).2, fun h s hs => (hvalid s hs).1 h⟩,
    and_iff_right hneighbours]
  rfl

/-- An epoch that comes back after another one, with every counter lower. -/
def resumedEpoch : List CounterSnapshot :=
  [⟨"a", ⟨5, 3, 2, 1, 0⟩⟩, ⟨"b", ⟨0, 0, 0, 0, 0⟩⟩, ⟨"a", ⟨4, 2, 1, 0, 0⟩⟩]

theorem resumedEpoch_accepted :
    domainVerdict true resumedEpoch = .acceptNewCounterEpoch ∧ ¬MonotoneInEpochs resumedEpoch := by
  refine ⟨by decide, fun h => ?_⟩
  have hfirst := (List.pairwise_cons.mp h).1 ⟨"a", ⟨4, 2, 1, 0, 0⟩⟩ (by simp) rfl
  exact absurd hfirst.pttRequests (by decide)

end IncomUdon.Lifecycle
