import Mathlib.Algebra.Order.BigOperators.Group.List
import Mathlib.Data.Prod.Lex
import Mathlib.Order.Bounds.Basic
import IncomUdon.Lib.GuardedRun
import IncomUdon.Lifecycle.FloorInterrupt

/-! Floor preemption over time. On a full channel a request either changes nothing or takes the place
    of one talker, the smallest by priority and then by sender ID:

        active = before ++ victim :: after   ──preempt──▶   before ++ requester :: after
                          victim.priority  <  requester.priority

    PROGRESS: the order of the talkers does not matter, only an authorized request of strictly higher
    priority removes a talker, and each preemption raises the sum of the priorities. A priority is a
    byte, so the preemptions of any run are bounded. -/

namespace IncomUdon.Lifecycle
open IncomUdon.Python IncomUdon.Lib.ErrorLog IncomUdon.Lib.GuardedRun

/-! ### The order of the victims -/

/-- Talkers in the order in which they are preempted. -/
instance : LinearOrder Talker :=
  LinearOrder.lift' (fun talker => toLex (talker.priority, talker.senderId)) fun a b h => by
    cases a
    cases b
    simpa using h

theorem Talker.lt_iff {a b : Talker} : a < b ↔ a.Before b := Prod.Lex.toLex_lt_toLex

theorem Talker.priority_le {a b : Talker} (h : a ≤ b) : a.priority ≤ b.priority := by
  rcases h.lt_or_eq with hlt | rfl
  · rcases lt_iff.mp hlt with hp | ⟨hp, -⟩ <;> omega
  · exact le_refl _

theorem Talker.senderId_le {a b : Talker} (h : a ≤ b) (hp : b.priority = a.priority) :
    a.senderId ≤ b.senderId := by
  rcases h.lt_or_eq with hlt | rfl
  · rcases lt_iff.mp hlt with hq | ⟨-, hs⟩ <;> omega
  · exact le_refl _

/-- The victim is the least talker. -/
theorem isLeast_selectVictim (first : Talker) (others : List Talker) :
    IsLeast {talker | talker ∈ first :: others} (selectVictim first others) := by
  induction others generalizing first with
  | nil => exact ⟨List.mem_singleton_self first, fun t ht => (List.mem_singleton.mp ht).ge⟩
  | cons other others ih =>
    have hstep : selectVictim first (other :: others) = selectVictim (min other first) others := by
      simp only [selectVictim, List.foldl_cons, ← Talker.lt_iff, min_def_lt]
    obtain ⟨hmem, hle⟩ := ih (min other first)
    rw [hstep]
    refine ⟨?_, fun t ht => ?_⟩
    · rcases List.mem_cons.mp hmem with h | h
      · rw [h]
        rcases min_choice other first with hmin | hmin <;> simp [hmin]
      · exact List.mem_cons_of_mem _ (List.mem_cons_of_mem _ h)
    · have hmin : selectVictim (min other first) others ≤ min other first :=
        hle List.mem_cons_self
      rcases List.mem_cons.mp ht with rfl | ht
      · exact hmin.trans (min_le_right _ _)
      · rcases List.mem_cons.mp ht with rfl | ht
        · exact hmin.trans (min_le_left _ _)
        · exact hle (List.mem_cons_of_mem _ ht)

/-! ### One request -/

/-- A request as the decision reads it, and who sends it. -/
structure FloorRequest where
  identityAdmissionMode : Json
  controlAuthRequired : Json
  perm : ℕ
  priority : ℕ
  senderId : ℕ
  perm_le : perm ≤ 0xFF
  priority_le : priority ≤ 0xFF

namespace FloorRequest

/-- `permitted`. -/
def permitted (request : FloorRequest) : Bool :=
  request.identityAdmissionMode.eq (.str "required") &&
    (match request.controlAuthRequired with
      | .bool true => true
      | _ => false) &&
    request.perm &&& 0x06 == 0x06 && decide (0 < request.priority)

/-- Identity admission and control authentication are required, the permission has the talk and the
    interrupt bit, and there is a priority. -/
structure Authorized (request : FloorRequest) : Prop where
  identity : request.identityAdmissionMode = .str "required"
  control : request.controlAuthRequired = .bool true
  talk : request.perm.testBit 1
  interrupt : request.perm.testBit 2
  priority : request.priority ≠ 0

/-- The requester once it is granted. -/
def talker (request : FloorRequest) : Talker := ⟨request.priority, request.senderId⟩

theorem testBit_six (i : ℕ) : (6 : ℕ).testBit i = decide (i = 1 ∨ i = 2) := by
  match i with
  | 0 | 1 | 2 => rfl
  | i + 3 =>
    have hlt : 6 < 2 ^ (i + 3) := calc
      6 < 2 ^ 3 := by decide
      _ ≤ 2 ^ (i + 3) := Nat.pow_le_pow_right (by decide) (Nat.le_add_left 3 i)
    rw [Nat.testBit_lt_two_pow hlt]
    simp

/-- The mask holds exactly when both of its bits are set. -/
theorem and_six_eq {perm : ℕ} : perm &&& 6 = 6 ↔ perm.testBit 1 ∧ perm.testBit 2 := by
  constructor
  · intro h
    have hbit : ∀ i, i = 1 ∨ i = 2 → perm.testBit i := fun i hi => by
      have hand := congrArg (Nat.testBit · i) h
      simpa [Nat.testBit_and, testBit_six, hi] using hand
    exact ⟨hbit 1 (.inl rfl), hbit 2 (.inr rfl)⟩
  · rintro ⟨h1, h2⟩
    refine Nat.eq_of_testBit_eq fun i => ?_
    rw [Nat.testBit_and, testBit_six]
    by_cases hi : i = 1 ∨ i = 2
    · rcases hi with rfl | rfl <;> simp [h1, h2]
    · simp [hi]

theorem permitted_iff {request : FloorRequest} : request.permitted = true ↔ request.Authorized := by
  have hcontrol : (match request.controlAuthRequired with
      | .bool true => true
      | _ => false) = true ↔ request.controlAuthRequired = .bool true := by
    split <;> simp_all
  simp only [permitted, Bool.and_eq_true, Json.eq_str, hcontrol, beq_iff_eq, and_six_eq,
    decide_eq_true_eq, Nat.pos_iff_ne_zero]
  constructor
  · rintro ⟨⟨⟨hidentity, hcontrol⟩, htalk, hinterrupt⟩, hpriority⟩
    exact ⟨hidentity, hcontrol, htalk, hinterrupt, hpriority⟩
  · rintro ⟨hidentity, hcontrol, htalk, hinterrupt, hpriority⟩
    exact ⟨⟨⟨hidentity, hcontrol⟩, htalk, hinterrupt⟩, hpriority⟩

end FloorRequest

/-- The decision for a request: the sender that is preempted, if any. -/
def floorDecision (request : FloorRequest) : List Talker → Option ℕ
  | [] => none
  | first :: others => preempted request.permitted request.priority (selectVictim first others)

/-- The talkers after a request: the requester takes the place of the sender that is preempted. -/
def floorStep (active : List Talker) (request : FloorRequest) : List Talker :=
  match floorDecision request active with
  | some victim => active.map fun talker =>
      if talker.senderId = victim then request.talker else talker
  | none => active

/-! ### The fixtures -/

/-- The fixture has this request. -/
structure ReadsRequest (case : Dict) (request : FloorRequest) : Prop where
  identity : Dict.get case "identity_admission_mode" = request.identityAdmissionMode
  control : Dict.get case "control_auth_required" = request.controlAuthRequired
  perm : Dict.get case "requester_perm" = .int request.perm
  priority : Dict.get case "requester_priority" = .int request.priority

section Fixture
variable {case : Dict} {request : FloorRequest} {name : Msg} {active : List Json}
  {talkers : List Talker}

theorem requestPermitted_eq (h : ReadsRequest case request) :
    requestPermitted case name = .ok request.permitted := by
  have hperm : integer (Dict.get case "requester_perm") (name.add [" permission"]) 0xFF
      = .ok request.perm := integer_eq_ok.mpr ⟨h.perm, request.perm_le⟩
  have hpriority : integer (Dict.get case "requester_priority") (name.add [" priority"]) 0xFF
      = .ok request.priority := integer_eq_ok.mpr ⟨h.priority, request.priority_le⟩
  unfold requestPermitted FloorRequest.permitted
  rw [h.identity, h.control, hperm, hpriority]
  by_cases hidentity : request.identityAdmissionMode.eq (.str "required") = true
  · cases request.controlAuthRequired with
    | bool required =>
      cases required with
      | false => simp [hidentity, pure, Except.pure]
      | true =>
        by_cases hbits : request.perm &&& 6 = 6 <;>
          simp [hidentity, hbits, pure, Except.pure]
    | _ => simp [hidentity, pure, Except.pure]
  · simp [hidentity, pure, Except.pure]

/-- FIXTURE: a case reports nothing exactly when its result names the decision. -/
theorem clean_authorizationCase (h : ReadsRequest case request)
    (hactive : Dict.get case "active_talkers" = .arr active) (hne : active ≠ [])
    (htalkers : active.mapM (talkerKey (nameLabel case ["Floor Interrupt authorization case"]))
      = .ok talkers) :
    Clean (authorizationCase (.obj case)) () ↔
      Dict.get case "result" = .str (preemptedText (floorDecision request talkers)) := by
  have hlen := (mapM_eq_ok.mp htalkers).length_eq
  obtain ⟨first, others, rfl⟩ : ∃ first others, talkers = first :: others :=
    List.exists_cons_of_length_pos (hlen ▸ List.length_pos_iff.mpr hne)
  simp [-Bool.exists_bool, authorizationCase, requestPermitted_eq h, hactive, hne, htalkers,
    minTalker, h.priority, request.priority_le, floorDecision]

end Fixture

/-! ### One step -/

/-- A full channel: active talkers with distinct senders. A priority is a byte. -/
structure FullChannel (active : List Talker) : Prop where
  nonempty : active ≠ []
  distinct : (active.map Talker.senderId).Nodup
  bounded : ∀ talker ∈ active, talker.priority ≤ 0xFF

/-- The requester is not an active talker. -/
def Inactive (active : List Talker) (request : FloorRequest) : Prop :=
  request.senderId ∉ active.map Talker.senderId

instance (active : List Talker) (request : FloorRequest) : Decidable (Inactive active request) :=
  inferInstanceAs (Decidable (_ ∉ _))

section Step
variable {active active' : List Talker} {request : FloorRequest} {talker : Talker}

/-- The order in which the talkers are listed decides nothing. -/
theorem floorDecision_perm (h : active'.Perm active) :
    floorDecision request active' = floorDecision request active := by
  cases active with
  | nil => rw [h.eq_nil]
  | cons first others =>
    cases active' with
    | nil => exact absurd h.symm.eq_nil (List.cons_ne_nil first others)
    | cons first' others' =>
      have hset : {t | t ∈ first' :: others'} = {t | t ∈ first :: others} :=
        Set.ext fun t => h.mem_iff
      have hleast' := isLeast_selectVictim first' others'
      rw [hset] at hleast'
      rw [floorDecision, floorDecision, hleast'.unique (isLeast_selectVictim first others)]

theorem floorDecision_eq_some {victim : ℕ} (h : floorDecision request active = some victim) :
    ∃ talker, IsLeast {t | t ∈ active} talker ∧ talker.senderId = victim ∧ request.Authorized ∧
      talker.priority < request.priority := by
  cases active with
  | nil => cases h
  | cons first others =>
    rw [floorDecision, preempted] at h
    split at h
    · next hpreempt =>
      exact ⟨selectVictim first others, isLeast_selectVictim first others, Option.some.inj h,
        FloorRequest.permitted_iff.mp hpreempt.1, hpreempt.2⟩
    · cases h

/-- With distinct senders, exactly the victim is replaced. -/
theorem map_replace {before after : List Talker} {victim : Talker}
    (hdistinct : ((before ++ victim :: after).map Talker.senderId).Nodup) :
    (before ++ victim :: after).map (fun t =>
        if t.senderId = victim.senderId then request.talker else t)
      = before ++ request.talker :: after := by
  have hother : ∀ side : List Talker, (∀ t ∈ side, t.senderId ≠ victim.senderId) →
      side.map (fun t => if t.senderId = victim.senderId then request.talker else t) = side := by
    intro side hside
    calc side.map _ = side.map id := List.map_congr_left fun t ht => if_neg (hside t ht)
      _ = side := List.map_id side
  rw [List.map_append, List.map_cons] at hdistinct
  obtain ⟨-, htail, hcross⟩ := List.nodup_append.mp hdistinct
  have hbefore : ∀ t ∈ before, t.senderId ≠ victim.senderId := fun t ht =>
    hcross _ (List.mem_map_of_mem ht) _ List.mem_cons_self
  have hafter : ∀ t ∈ after, t.senderId ≠ victim.senderId := fun t ht heq =>
    (List.nodup_cons.mp htail).1 (heq ▸ List.mem_map_of_mem ht)
  rw [List.map_append, List.map_cons, hother before hbefore, hother after hafter, if_pos rfl]

/-- Who is there after a replacement is the new talker or was there before. -/
theorem mem_replace {before after : List Talker} {requester : Talker} (victim : Talker)
    (h : talker ∈ before ++ requester :: after) :
    talker = requester ∨ talker ∈ before ++ victim :: after := by
  rw [List.mem_append, List.mem_cons] at h ⊢
  tauto

/-- What a step can do: an authorized request of higher priority takes the place of the least talker,
    or nothing changes. -/
theorem floorStep_cases (hactive : FullChannel active) (request : FloorRequest) :
    (∃ before victim after, active = before ++ victim :: after ∧ IsLeast {t | t ∈ active} victim ∧
      request.Authorized ∧ victim.priority < request.priority ∧
      floorDecision request active = some victim.senderId ∧
      floorStep active request = before ++ request.talker :: after) ∨
    (floorDecision request active = none ∧ floorStep active request = active) := by
  cases hdecision : floorDecision request active with
  | none => exact .inr ⟨rfl, by simp only [floorStep, hdecision]⟩
  | some senderId =>
    obtain ⟨victim, hleast, rfl, hauthorized, hlt⟩ := floorDecision_eq_some hdecision
    obtain ⟨before, after, rfl⟩ := List.append_of_mem hleast.1
    refine .inl ⟨before, victim, after, rfl, hleast, hauthorized, hlt, rfl, ?_⟩
    simp only [floorStep, hdecision]
    exact map_replace hactive.distinct

/-- INVARIANT: a step leaves a full channel. -/
theorem FullChannel.step (hactive : FullChannel active) (hinactive : Inactive active request) :
    FullChannel (floorStep active request) := by
  rcases floorStep_cases hactive request with
    ⟨before, victim, after, rfl, -, -, -, -, hstep⟩ | ⟨-, hstep⟩
  · rw [hstep]
    have hdistinct := hactive.distinct
    simp only [Inactive, List.map_append, List.map_cons, List.mem_append, List.mem_cons, not_or]
      at hinactive
    refine ⟨by simp, ?_, fun t ht => ?_⟩
    · rw [List.map_append, List.map_cons, List.perm_middle.nodup_iff, List.nodup_cons] at hdistinct ⊢
      refine ⟨?_, hdistinct.2⟩
      rw [List.mem_append, not_or]
      exact ⟨hinactive.1, hinactive.2.2⟩
    · rcases mem_replace victim ht with rfl | ht
      · exact request.priority_le
      · exact hactive.bounded t ht
  · rwa [hstep]

@[simp] theorem length_floorStep : (floorStep active request).length = active.length := by
  unfold floorStep
  split <;> simp

/-- Who is removed, and by whom. -/
theorem removed_by_step (hactive : FullChannel active) (hmem : talker ∈ active)
    (hremoved : talker ∉ floorStep active request) :
    request.Authorized ∧ talker.priority < request.priority ∧
      (∀ other ∈ active, talker.priority ≤ other.priority) ∧
      ∀ other ∈ active, other.priority = talker.priority → talker.senderId ≤ other.senderId := by
  rcases floorStep_cases hactive request with
    ⟨before, victim, after, rfl, hleast, hauthorized, hlt, -, hstep⟩ | ⟨-, hstep⟩
  · rw [hstep, List.mem_append, List.mem_cons, not_or, not_or] at hremoved
    rw [List.mem_append, List.mem_cons] at hmem
    obtain rfl : talker = victim := by tauto
    exact ⟨hauthorized, hlt, fun other hother => Talker.priority_le (hleast.2 hother),
      fun other hother => Talker.senderId_le (hleast.2 hother)⟩
  · rw [hstep] at hremoved
    exact absurd hmem hremoved

/-- No priority falls below the lowest one. -/
theorem le_priority_step (hactive : FullChannel active) {lowest : ℕ}
    (hlowest : ∀ t ∈ active, lowest ≤ t.priority) :
    ∀ t ∈ floorStep active request, lowest ≤ t.priority := by
  rcases floorStep_cases hactive request with
    ⟨before, victim, after, rfl, hleast, -, hlt, -, hstep⟩ | ⟨-, hstep⟩
  · rw [hstep]
    intro t ht
    rcases mem_replace victim ht with rfl | ht
    · exact (hlowest victim hleast.1).trans hlt.le
    · exact hlowest t ht
  · rwa [hstep]

/-- A preemption raises the sum of the priorities. -/
theorem sum_priority_step (hactive : FullChannel active) :
    (active.map Talker.priority).sum + (if floorDecision request active ≠ none then 1 else 0)
      ≤ ((floorStep active request).map Talker.priority).sum := by
  rcases floorStep_cases hactive request with
    ⟨before, victim, after, rfl, -, -, hlt, hdecision, hstep⟩ | ⟨hdecision, hstep⟩
  · rw [hstep, hdecision, if_pos (Option.some_ne_none _)]
    simp only [List.map_append, List.map_cons, List.sum_append, List.sum_cons, FloorRequest.talker]
    omega
  · rw [hstep, hdecision]
    simp

theorem FullChannel.sum_priority_le (hactive : FullChannel active) :
    (active.map Talker.priority).sum ≤ 255 * active.length := by
  have h := List.sum_le_card_nsmul (active.map Talker.priority) 255 fun p hp => by
    obtain ⟨t, ht, rfl⟩ := List.mem_map.mp hp
    exact hactive.bounded t ht
  simpa [Nat.mul_comm] using h

end Step

/-! ### Runs -/

/-- The number of requests of a run that preempt a talker. -/
def preemptions (start : List Talker) (requests : List FloorRequest) : ℕ :=
  occurrences floorStep (fun active request => floorDecision request active ≠ none) start requests

/-- The lowest priority of the talkers. -/
def LowestPriority (active : List Talker) (priority : ℕ) : Prop :=
  IsLeast {p | ∃ talker ∈ active, talker.priority = p} priority

section Run
variable {start : List Talker} {requests : List FloorRequest}

/-- RUN: a full channel stays one. -/
theorem FullChannel.run (hstart : FullChannel start)
    (hrun : Guarded floorStep Inactive start requests) :
    FullChannel (requests.foldl floorStep start) :=
  invariant_run (fun _ _ => FullChannel.step) hrun hstart

@[simp] theorem length_floorRun : (requests.foldl floorStep start).length = start.length := by
  induction requests generalizing start with
  | nil => rfl
  | cons request requests ih => rw [List.foldl_cons, ih, length_floorStep]

/-- RUN: every preemption uses up some of the priorities that are left. -/
theorem preemptions_add_le (hstart : FullChannel start)
    (hrun : Guarded floorStep Inactive start requests) :
    preemptions start requests + (start.map Talker.priority).sum ≤ 255 * start.length := by
  have hkeep : ∀ active request, FullChannel active → Inactive active request →
      FullChannel (floorStep active request) := fun _ _ => FullChannel.step
  have hpotential : preemptions start requests + (start.map Talker.priority).sum ≤
      ((requests.foldl floorStep start).map Talker.priority).sum :=
    occurrences_add_le (fun active => (active.map Talker.priority).sum) hkeep
      (fun _ _ hactive _ => sum_priority_step hactive) hrun hstart
  have hbound := (hstart.run hrun).sum_priority_le
  rw [length_floorRun] at hbound
  exact hpotential.trans hbound

end Run

/-- PROGRESS: along every run on a full channel the decision does not depend on the order of the
    talkers, their number is constant, a talker is removed only by an authorized request of strictly
    higher priority and only if it is the least, and the lowest priority never decreases. The
    preemptions are at most what the priorities are short of 255 at the start. -/
theorem floorPreemption_progress {start : List Talker} {requests : List FloorRequest}
    (hstart : FullChannel start) (hrun : Guarded floorStep Inactive start requests) :
    (∀ before request after, requests = before ++ request :: after →
      let active := before.foldl floorStep start
      let next := floorStep active request
      (∀ active', active'.Perm active → floorDecision request active' = floorDecision request active) ∧
      active.length = start.length ∧ next.length = start.length ∧
      (∀ talker ∈ active, talker ∉ next →
        request.Authorized ∧ talker.priority < request.priority ∧
          LowestPriority active talker.priority ∧
          ∀ other ∈ active, other.priority = talker.priority → talker.senderId ≤ other.senderId) ∧
      ∀ lowest lowest', LowestPriority active lowest → LowestPriority next lowest' →
        lowest ≤ lowest') ∧
    preemptions start requests + (start.map Talker.priority).sum ≤ 255 * start.length := by
  refine ⟨?_, preemptions_add_le hstart hrun⟩
  rintro before request after rfl
  have hactive : FullChannel (before.foldl floorStep start) := hstart.run (guarded_append.mp hrun).1
  refine ⟨fun active' => floorDecision_perm, length_floorRun, ?_, ?_, ?_⟩
  · rw [length_floorStep, length_floorRun]
  · intro talker hmem hremoved
    obtain ⟨hauthorized, hlt, hlowest, htie⟩ := removed_by_step hactive hmem hremoved
    refine ⟨hauthorized, hlt, ⟨⟨talker, hmem, rfl⟩, ?_⟩, htie⟩
    rintro _ ⟨other, hother, rfl⟩
    exact hlowest other hother
  · rintro lowest _ ⟨-, hlowest⟩ ⟨⟨talker, hmem, rfl⟩, -⟩
    exact le_priority_step hactive (fun t ht => hlowest ⟨t, ht, rfl⟩) talker hmem

/-- A requester of priority 9 on a channel with two talkers of priority 5. -/
theorem floorPreemption_progress_tie :
    preemptions [⟨5, 8⟩, ⟨5, 3⟩] [⟨.str "required", .bool true, 0x07, 9, 4, by decide, by decide⟩]
      + 10 ≤ 510 := by
  have hrun : Guarded floorStep Inactive [⟨5, 8⟩, ⟨5, 3⟩]
      [⟨.str "required", .bool true, 0x07, 9, 4, by decide, by decide⟩] := ⟨by decide, trivial⟩
  exact (floorPreemption_progress ⟨by decide, by decide, by decide⟩ hrun).2

end IncomUdon.Lifecycle
