import Mathlib.Logic.Relation
import IncomUdon.Lifecycle.PrivateControlLink.Diagnostics

/-! The redaction scan. A candidate snapshot is rejected when some object in it, however deep, has a
    member with a forbidden name:

        {"a": [{"token": 1}]}      reject, for the name "token"
        {"a": [{"x": "token"}]}    accept: there it is a value

    The scan goes down by `Holds`, from a container to what is directly in it, and stops at the first
    name it finds. EXACT: it finds a name at every depth, and nothing else. -/

namespace IncomUdon.Lifecycle
open IncomUdon.Python Relation

/-- The value directly in a container: a member's value or an item. -/
inductive Holds : Json → Json → Prop
  | member {members : Dict} {name : String} {inner : Json} (h : (name, inner) ∈ members) :
      Holds (.obj members) inner
  | item {items : List Json} {inner : Json} (h : inner ∈ items) : Holds (.arr items) inner

/-- The value is an object with a member of a forbidden name. -/
def NamesForbidden (forbidden : List String) (value : Json) : Prop :=
  ∃ members, value = .obj members ∧ ∃ member ∈ members, member.1 ∈ forbidden

/-! ### One level -/

section Level
variable {forbidden : List String} {value inner : Json}

theorem Holds.sizeOf_lt (h : Holds value inner) : sizeOf inner < sizeOf value := by
  cases h with
  | @member members name inner h =>
    have := List.sizeOf_lt_of_mem h
    rw [Prod.mk.sizeOf_spec] at this
    rw [Json.obj.sizeOf_spec]; omega
  | item h =>
    have := List.sizeOf_lt_of_mem h
    rw [Json.arr.sizeOf_spec]; omega

theorem anyItemForbidden_iff {items : List Json} : anyItemForbidden forbidden items = true ↔
    ∃ item ∈ items, containsForbidden forbidden item = true := by
  induction items with
  | nil => simp [anyItemForbidden]
  | cons item items ih => simp [anyItemForbidden, ih]

theorem anyMemberForbidden_iff {members : Dict} : anyMemberForbidden forbidden members = true ↔
    ∃ member ∈ members, member.1 ∈ forbidden ∨ containsForbidden forbidden member.2 = true := by
  induction members with
  | nil => simp [anyMemberForbidden]
  | cons member members ih => simp [anyMemberForbidden, ih]

/-- STEP: a value is rejected for a name of its own, or for a value directly in it. -/
theorem containsForbidden_step : containsForbidden forbidden value = true ↔
    NamesForbidden forbidden value ∨
      ∃ inner, Holds value inner ∧ containsForbidden forbidden inner = true := by
  cases value with
  | obj members =>
    rw [containsForbidden, anyMemberForbidden_iff]
    constructor
    · rintro ⟨⟨name, inner⟩, hmem, hname | hinner⟩
      · exact .inl ⟨members, rfl, _, hmem, hname⟩
      · exact .inr ⟨inner, .member hmem, hinner⟩
    · rintro (⟨_, heq, member, hmem, hname⟩ | ⟨inner, hholds, hinner⟩)
      · cases heq
        exact ⟨member, hmem, .inl hname⟩
      · cases hholds with
        | member hmem => exact ⟨_, hmem, .inr hinner⟩
  | arr items =>
    rw [containsForbidden, anyItemForbidden_iff]
    constructor
    · rintro ⟨item, hmem, hitem⟩
      exact .inr ⟨item, .item hmem, hitem⟩
    · rintro (⟨_, heq, -⟩ | ⟨inner, hholds, hinner⟩)
      · cases heq
      · cases hholds with
        | item hmem => exact ⟨inner, hmem, hinner⟩
  | _ =>
    refine iff_of_false Bool.false_ne_true ?_
    rintro (⟨_, heq, -⟩ | ⟨inner, hholds, -⟩)
    · cases heq
    · cases hholds

end Level

/-! ### Every depth -/

section Depth
variable {forbidden : List String} {outer value : Json}

/-- What is rejected somewhere inside is rejected as a whole. -/
theorem containsForbidden_of_holds (hin : ReflTransGen Holds outer value)
    (hvalue : containsForbidden forbidden value = true) :
    containsForbidden forbidden outer = true := by
  induction hin using ReflTransGen.head_induction_on with
  | refl => exact hvalue
  | head hstep _ ih => exact containsForbidden_step.mpr (.inr ⟨_, hstep, ih⟩)

/-- The induction is on the size of the value: what a container holds is smaller than it. -/
theorem exists_namesForbidden (h : containsForbidden forbidden value = true) :
    ∃ inner, ReflTransGen Holds value inner ∧ NamesForbidden forbidden inner := by
  induction hsize : sizeOf value using Nat.strong_induction_on generalizing value with
  | _ size ih =>
    rcases containsForbidden_step.mp h with hnames | ⟨inner, hholds, hinner⟩
    · exact ⟨value, .refl, hnames⟩
    · obtain ⟨found, hreach, hnames⟩ := ih _ (hsize ▸ hholds.sizeOf_lt) hinner rfl
      exact ⟨found, .head hholds hreach, hnames⟩

/-- DEPTH: a value is rejected exactly when a forbidden name is somewhere in it. -/
theorem containsForbidden_iff : containsForbidden forbidden value = true ↔
    ∃ inner, ReflTransGen Holds value inner ∧ NamesForbidden forbidden inner := by
  constructor
  · exact exists_namesForbidden
  · rintro ⟨inner, hreach, hnames⟩
    exact containsForbidden_of_holds hreach (containsForbidden_step.mpr (.inl hnames))

end Depth

/-! ### String values -/

mutual

/-- The value with every string in it changed; the member names stay. -/
def mapStrings (f : String → String) : Json → Json
  | .str s => .str (f s)
  | .arr items => .arr (mapItemStrings f items)
  | .obj members => .obj (mapMemberStrings f members)
  | value => value

/-- `mapStrings` on the items of a list. -/
def mapItemStrings (f : String → String) : List Json → List Json
  | [] => []
  | item :: items => mapStrings f item :: mapItemStrings f items

/-- `mapStrings` on the members of an object. -/
def mapMemberStrings (f : String → String) : Dict → Dict
  | [] => []
  | (name, value) :: members => (name, mapStrings f value) :: mapMemberStrings f members

end

mutual

/-- The string values have no part in the verdict. -/
theorem containsForbidden_mapStrings (forbidden : List String) (f : String → String) :
    ∀ value, containsForbidden forbidden (mapStrings f value) = containsForbidden forbidden value
  | .null | .bool _ | .int _ | .float _ | .str _ => by simp [mapStrings, containsForbidden]
  | .arr items => by
    rw [mapStrings, containsForbidden, containsForbidden, anyItemForbidden_mapStrings]
  | .obj members => by
    rw [mapStrings, containsForbidden, containsForbidden, anyMemberForbidden_mapStrings]

theorem anyItemForbidden_mapStrings (forbidden : List String) (f : String → String) :
    ∀ items, anyItemForbidden forbidden (mapItemStrings f items) = anyItemForbidden forbidden items
  | [] => by rw [mapItemStrings]
  | item :: items => by
    rw [mapItemStrings, anyItemForbidden, anyItemForbidden, containsForbidden_mapStrings,
      anyItemForbidden_mapStrings]

theorem anyMemberForbidden_mapStrings (forbidden : List String) (f : String → String) :
    ∀ members,
      anyMemberForbidden forbidden (mapMemberStrings f members) = anyMemberForbidden forbidden members
  | [] => by rw [mapMemberStrings]
  | (name, value) :: members => by
    rw [mapMemberStrings, anyMemberForbidden, anyMemberForbidden, containsForbidden_mapStrings,
      anyMemberForbidden_mapStrings]

end

/-- EXACT: the scan rejects a value exactly when some object reachable from it has a member whose name
    is in the list; a container of a rejected value is rejected; and whatever strings are put in the
    place of the string values, the verdict stays. -/
theorem redaction_scan_exact (forbidden : List String) :
    (∀ value, containsForbidden forbidden value = true ↔
      ∃ members, ReflTransGen Holds value (.obj members) ∧
        ∃ member ∈ members, member.1 ∈ forbidden) ∧
    (∀ outer value, ReflTransGen Holds outer value → containsForbidden forbidden value = true →
      containsForbidden forbidden outer = true) ∧
    ∀ value f, containsForbidden forbidden (mapStrings f value) = containsForbidden forbidden value := by
  refine ⟨fun value => ?_, fun outer value => containsForbidden_of_holds,
    fun value f => containsForbidden_mapStrings forbidden f value⟩
  rw [containsForbidden_iff]
  constructor
  · rintro ⟨_, hreach, members, rfl, hmember⟩
    exact ⟨members, hreach, hmember⟩
  · rintro ⟨members, hreach, hmember⟩
    exact ⟨_, hreach, members, rfl, hmember⟩

/-- An object with a forbidden name, inside an array inside an object. -/
theorem redaction_scan_exact_nested :
    containsForbidden ["token"] (.obj [("a", .arr [.null, .obj [("token", .int 1)]])]) = true :=
  (redaction_scan_exact ["token"]).2.1 _ (.obj [("token", .int 1)])
    (.head (.member (List.mem_singleton.mpr rfl)) (.single (.item (by simp)))) (by decide)

/-- There the name is a value. -/
example : containsForbidden ["token"] (.obj [("a", .arr [.obj [("x", .str "token")]])]) = false := by
  decide

end IncomUdon.Lifecycle
