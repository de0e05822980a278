import IncomUdon.Lifecycle.Release

/-! Grace after a service grant has expired. Only a receive-only grant may use it, and for at most
    half an hour; the membership ends then, or at the normal deadline if that is earlier:

        permission     grant_exp ── grace_seconds ──▶ service deadline
        listen only    1 ≤ grace ≤ 1800 allowed
        any other      no grace

    The validator tests the talk bit alone and takes any 32-bit grace, so it also gives grace to a
    grant with the interrupt bit, and more than half an hour of it. BOUNDED says when an accepted
    case keeps the rule. -/

namespace IncomUdon.Lifecycle
open IncomUdon.Python IncomUdon.Loader IncomUdon.Lib.ErrorLog

/-- The numbers of a service expiry case. -/
structure ServiceExpiry where
  permission : ℕ
  grantExp : ℕ
  grace : ℕ
  normal : ℕ
  effective : ℚ

namespace ServiceExpiry

/-- The case has these numbers; the effective expiry may be written as any number. -/
structure InCase (expiry : ServiceExpiry) (case : Dict) : Prop where
  permission : Dict.get case "grant_perm" = .int expiry.permission ∧ expiry.permission ≤ 0xFF
  grantExp : Dict.get case "grant_exp" = .int expiry.grantExp ∧ expiry.grantExp ≤ maxTime
  grace : Dict.get case "grace_seconds" = .int expiry.grace ∧ expiry.grace ≤ 0xFFFFFFFF
  normal : Dict.get case "normal_membership_deadline" = .int expiry.normal ∧ expiry.normal ≤ maxTime
  effective : (Dict.get case "effective_membership_expiry").number? = some (.finite expiry.effective)

/-- The permission has the interrupt bit. -/
def InterruptCapable (expiry : ServiceExpiry) : Prop := expiry.permission &&& 0x04 ≠ 0

/-- The membership ends by its normal deadline and at most half an hour after the grant, and only a
    listener outlives the grant. -/
structure Bounded (expiry : ServiceExpiry) : Prop where
  normal : expiry.effective ≤ expiry.normal
  halfHour : expiry.effective ≤ expiry.grantExp + 1800
  listenOnly : expiry.permission ≠ 1 → expiry.effective ≤ expiry.grantExp
  talkOrInterrupt : talkCapable expiry.permission ∨ expiry.InterruptCapable →
    expiry.effective ≤ expiry.grantExp

/-- The talk bit is set, or the normal deadline comes first, or there is no grace, or a listener has
    at most half an hour of it. -/
def GraceAllowed (expiry : ServiceExpiry) : Prop :=
  talkCapable expiry.permission ∨ expiry.normal ≤ expiry.grantExp ∨ expiry.grace = 0 ∨
    (expiry.permission = 1 ∧ (expiry.grace ≤ 1800 ∨ expiry.normal ≤ expiry.grantExp + 1800))

/-! ### The bound -/

section Bound
variable {expiry : ServiceExpiry}

/-- A listener has neither the talk nor the interrupt bit. -/
theorem not_listenOnly (h : talkCapable expiry.permission ∨ expiry.InterruptCapable) :
    expiry.permission ≠ 1 := by
  rintro hone
  rw [InterruptCapable, talkCapable, hone] at h
  exact absurd h (by decide)

/-- `Bounded` on the natural number that the code computes. -/
theorem bounded_iff_nat {effective : ℕ} (heffective : expiry.effective = effective) :
    expiry.Bounded ↔ effective ≤ expiry.normal ∧ effective ≤ expiry.grantExp + 1800 ∧
      (expiry.permission ≠ 1 → effective ≤ expiry.grantExp) := by
  have hcast : ∀ bound : ℕ, expiry.effective ≤ bound ↔ effective ≤ bound := fun bound => by
    rw [heffective, Nat.cast_le]
  have hhalf : expiry.effective ≤ expiry.grantExp + 1800 ↔ effective ≤ expiry.grantExp + 1800 := by
    exact_mod_cast hcast (expiry.grantExp + 1800)
  constructor
  · rintro ⟨hnormal, hmax, hlisten, -⟩
    exact ⟨(hcast _).mp hnormal, hhalf.mp hmax, fun hone => (hcast _).mp (hlisten hone)⟩
  · rintro ⟨hnormal, hmax, hlisten⟩
    exact ⟨(hcast _).mpr hnormal, hhalf.mpr hmax, fun hone => (hcast _).mpr (hlisten hone),
      fun hbits => (hcast _).mpr (hlisten (not_listenOnly hbits))⟩

/-- The minimum of the two deadlines keeps the rule exactly when grace is allowed. -/
theorem bounded_iff_graceAllowed (heffective : expiry.effective =
      (min expiry.normal (serviceDeadline expiry.permission expiry.grantExp expiry.grace) : ℕ)) :
    expiry.Bounded ↔ expiry.GraceAllowed := by
  have hone : expiry.permission = 1 → ¬talkCapable expiry.permission := by
    rintro hone
    rw [hone]; decide
  rw [bounded_iff_nat heffective, GraceAllowed, serviceDeadline]
  by_cases htalk : talkCapable expiry.permission
  · rw [if_pos htalk]
    exact iff_of_true (by omega) (.inl htalk)
  · rw [if_neg htalk]
    simp only [htalk, false_or]
    omega

end Bound

end ServiceExpiry

/-! ### Accepted cases -/

/-- One of the service expiry cases, whose check reports nothing. -/
def AcceptedServiceCase (root : Root) (case : Json) : Prop :=
  ∃ service cases index, root "test-vectors/management/service-admission-v1.json" = .json (.obj service) ∧
    Dict.get service "expiry_cases" = .arr cases ∧ cases[index]? = some case ∧
    Clean (serviceExpiryCase case index) ()

section Accepted
variable {case : Json} {index : ℕ} {root : Root}

/-- An accepted case has the five numbers, and the last is the minimum of the two deadlines. -/
theorem serviceExpiry_of_clean (h : Clean (serviceExpiryCase case index) ()) :
    ∃ d, ∃ expiry : ServiceExpiry, case = .obj d ∧ expiry.InCase d ∧ expiry.effective =
      (min expiry.normal (serviceDeadline expiry.permission expiry.grantExp expiry.grace) : ℕ) := by
  simp only [serviceExpiryCase, Run.liftM_eq, clean_bind, clean_lift, asObject_eq_ok, integer_eq_ok,
    clean_compare] at h
  obtain ⟨d, rfl, permission, hpermission, grantExp, hgrantExp, grace, hgrace, normal, hnormal, -,
    heffective, -⟩ := h
  exact ⟨d, ⟨permission, grantExp, grace, normal, _⟩, rfl,
    ⟨hpermission, hgrantExp, hgrace, hnormal, Json.int_eq_iff.mp heffective⟩, by simp⟩

/-- A run that reports nothing accepts each of its service expiry cases. -/
theorem acceptedServiceCase_of_clean (h : Clean (validateAdmissionExpiry root) ()) :
    ∃ service cases, root "test-vectors/management/service-admission-v1.json" = .json (.obj service) ∧
      Dict.get service "expiry_cases" = .arr cases ∧
      ∀ case ∈ cases, AcceptedServiceCase root case := by
  simp only [validateAdmissionExpiry, Run.liftM_eq, clean_bind, clean_lift, load_eq_ok, asArray_eq_ok,
    clean_forM] at h
  obtain ⟨-, -, -, -, -, -, service, hservice, cases, hcases, hclean⟩ := h
  refine ⟨service, cases, hservice, hcases, fun case hcase => ?_⟩
  obtain ⟨index, hindex⟩ := List.mem_iff_getElem?.mp hcase
  exact ⟨service, cases, index, hservice, hcases, hindex,
    hclean (case, index) (List.mk_mem_zipIdx_iff_getElem?.mpr hindex)⟩

end Accepted

/-- BOUNDED: an accepted case keeps the rule exactly when its grace is allowed. -/
theorem serviceExpiry_bounded_iff (root : Root) (case : Json)
    (haccepted : AcceptedServiceCase root case) :
    ∃ d, ∃ expiry : ServiceExpiry, case = .obj d ∧ expiry.InCase d ∧
      (expiry.Bounded ↔ expiry.GraceAllowed) := by
  obtain ⟨-, -, index, -, -, -, hclean⟩ := haccepted
  obtain ⟨d, expiry, rfl, hin, heffective⟩ := serviceExpiry_of_clean hclean
  exact ⟨d, expiry, rfl, hin, expiry.bounded_iff_graceAllowed heffective⟩

/-! ### Grace that is not allowed -/

/-- A case with a permission, a grace and an effective expiry; the grant ends at 1000. -/
def graceCase (permission grace effective : ℤ) : Dict :=
  [("grant_perm", .int permission), ("grant_exp", .int 1000), ("grace_seconds", .int grace),
    ("normal_membership_deadline", .int 9000), ("effective_membership_expiry", .int effective),
    ("active_talk", .bool false)]

/-- These service expiry cases, and no identity expiry case. -/
def graceRoot (cases : List Dict) : Root := fun path =>
  .json (if path = "test-vectors/management/service-admission-v1.json" then
      .obj [("expiry_cases", .arr (cases.map .obj))]
    else .obj [("membership_expiry_cases", .arr [])])

/-- A listener with half an hour of grace. -/
theorem serviceExpiry_bounded_iff_listener :
    ∃ d, ∃ expiry : ServiceExpiry, Json.obj (graceCase 1 1800 2800) = .obj d ∧ expiry.InCase d ∧
      (expiry.Bounded ↔ expiry.GraceAllowed) :=
  serviceExpiry_bounded_iff (graceRoot [graceCase 1 1800 2800]) (.obj (graceCase 1 1800 2800))
    ⟨_, _, 0, rfl, rfl, rfl, clean_of_isClean (by decide)⟩

/-- A grant with the listen and the interrupt bit outlives its expiry, and a listener gets an hour;
    the run reports nothing. -/
theorem serviceGrace_not_bounded :
    Clean (validateAdmissionExpiry (graceRoot [graceCase 5 300 1300, graceCase 1 3600 4600])) () ∧
      (ServiceExpiry.InCase ⟨5, 1000, 300, 9000, 1300⟩ (graceCase 5 300 1300) ∧
        ¬ServiceExpiry.Bounded ⟨5, 1000, 300, 9000, 1300⟩) ∧
      ServiceExpiry.InCase ⟨1, 1000, 3600, 9000, 4600⟩ (graceCase 1 3600 4600) ∧
        ¬ServiceExpiry.Bounded ⟨1, 1000, 3600, 9000, 4600⟩ := by
  refine ⟨clean_of_isClean (by decide), ⟨?_, fun h => ?_⟩, ?_, fun h => ?_⟩
  · exact ⟨⟨rfl, by decide⟩, ⟨rfl, by decide⟩, ⟨rfl, by decide⟩, ⟨rfl, by decide⟩, rfl⟩
  · have := h.listenOnly (by decide)
    norm_num at this
  · exact ⟨⟨rfl, by decide⟩, ⟨rfl, by decide⟩, ⟨rfl, by decide⟩, ⟨rfl, by decide⟩, rfl⟩
  · have := h.halfHour
    norm_num at this

end IncomUdon.Lifecycle
