import Mathlib.Data.Int.Log
import Mathlib.Data.Rat.Floor
import IncomUdon.Python.Outcome

/-! Operators on a value that may be of any type: subscripts, `set(...)`, `range(...)`, `>=`, `+` and
    `sorted(...)`. Outside the types it is defined for an operator raises `TypeError`; the one case
    of `IndexError` is a position past the end of a list or string. -/

namespace IncomUdon.Python
open IncomUdon.Lib.ErrorLog

/-- The integer nearest to `q`; of two, the even one. -/
def roundHalfEven (q : ℚ) : ℤ :=
  let below := ⌊q⌋
  let rest := q - below
  if rest < 1 / 2 ∨ (rest = 1 / 2 ∧ below % 2 = 0) then below else below + 1

namespace PyFloat

/-- The `float` nearest to `q`: 53 significant bits, none of them below `2 ^ -1074`. -/
def ofRat (q : ℚ) : PyFloat :=
  let exponent : ℤ := max (Int.log 2 |q| - 52) (-1074)
  let value : ℚ := roundHalfEven (q / 2 ^ exponent) * 2 ^ exponent
  if |value| < 2 ^ 1024 then .finite value else .inf (value < 0)

/-- `x + n`, for an integer that is a `float` itself. -/
def addNat (x : PyFloat) (n : ℕ) : PyFloat :=
  match x with
  | .finite q => ofRat (q + n)
  | x => x

end PyFloat

/-- `value[key]`. -/
def member (value : Json) (key : String) : Py Json :=
  match value with
  | .obj d => subscript d key
  | _ => fails .typeError

/-- `value[position]`; no object has an integer key. -/
def itemAt (value : Json) (position : ℕ) : Py Json :=
  match value with
  | .arr items => index items position
  | .str text => (fun c => .str (.singleton c)) <$> index text.toList position
  | .obj _ => fails .keyError
  | _ => fails .typeError

/-- `xs[-1]`. -/
def lastItem {α : Type} (xs : List α) : Py α :=
  match xs.getLast? with
  | some x => .ok x
  | none => fails .indexError

/-- `value.get(key, default)`. -/
def getAttrD (value : Json) (key : String) (default : Json) : Py Json :=
  match value with
  | .obj d => .ok (Dict.getD d key default)
  | _ => fails .attributeError

/-- The value of a member, or `None` when `value` is no object. -/
def getIfObject (value : Json) (key : String) : Json :=
  match value with
  | .obj d => Dict.get d key
  | _ => .null

/-- `hash(value)` exists. -/
def hash (value : Json) : Py Unit := if value.hashable then .ok () else fails .typeError

/-- `set(items)`: every item must have a hash. -/
def setOf (items : List Json) : Py (List Json) :=
  if ∀ item ∈ items, item.hashable then .ok items else fails .typeError

/-- `set(value)`. -/
def asSet (value : Json) : Py (List Json) := do
  let items ← iterate value
  setOf items

/-- `len(set(items))`. -/
def setSize (items : List Json) : ℕ :=
  (items.foldl (fun seen item => if item.isIn seen then seen else item :: seen) []).length

/-- The integer that a value is. -/
def int? : Json → Option ℤ
  | .bool b => some b.toNat
  | .int n => some n
  | _ => none

/-- `range(value)`. -/
def rangeOf (value : Json) : Py (List Json) :=
  match int? value with
  | some n => .ok (Json.range n)
  | none => fails .typeError

/-- `x >= y`. -/
def atLeast (x y : Json) : Py Bool :=
  match x.ge? y with
  | some b => .ok b
  | none => fails .typeError

/-- `value + n`. -/
def plus (value : Json) (n : ℕ) : Py Json :=
  match value with
  | .bool b => .ok (.int (b.toNat + n))
  | .int m => .ok (.int (m + n))
  | .float x => .ok (.float (x.addNat n))
  | _ => fails .typeError

/-- The keys can be ordered with one another. -/
def Sortable {α : Type} (key : α → Json) (xs : List α) : Prop :=
  xs.Pairwise fun x y => ((key y).ge? (key x)).isSome

instance {α : Type} (key : α → Json) (xs : List α) : Decidable (Sortable key xs) :=
  inferInstanceAs (Decidable (List.Pairwise _ xs))

/-- `sorted(xs, key=key)`; with NaN among the keys CPython may give another order. -/
def sortedOn {α : Type} (key : α → Json) (xs : List α) : Py (List α) :=
  if Sortable key xs then .ok (xs.mergeSort fun x y => (key y).ge? (key x) = some true)
  else fails .typeError

/-! ### What each operator returns and raises -/

section Outcome
variable {E : PyExc → Prop} {value x y v : Json} {items result : List Json} {key : String} {n : ℕ}

@[simp] theorem subscript_eq_ok {d : Dict} : subscript d key = .ok v ↔ d.lookup key = some v := by
  cases h : d.lookup key <;> simp [subscript, h]

@[simp] theorem throwsOnly_subscript {d : Dict} :
    ThrowsOnly E (subscript d key) ↔ d.lookup key ≠ none ∨ E (.fault .keyError) := by
  cases h : d.lookup key <;> simp [subscript, h]

@[simp] theorem member_eq_ok :
    member value key = .ok v ↔ ∃ d, value = .obj d ∧ d.lookup key = some v := by
  cases value <;> simp [member]

theorem throwsOnly_member (hkey : E (.fault .keyError)) (htype : E (.fault .typeError)) :
    ThrowsOnly E (member value key) := by
  cases value <;> simp [member, hkey, htype]

/-- A list or string without items. -/
def NoItems (value : Json) : Prop := value = .arr [] ∨ value = .str ""

/-- The first item is missing only from an empty list or string. -/
theorem throwsOnly_itemAt_zero (hkey : E (.fault .keyError)) (htype : E (.fault .typeError)) :
    ThrowsOnly E (itemAt value 0) ↔ ¬NoItems value ∨ E (.fault .indexError) := by
  cases value with
  | arr items => cases items <;> simp [itemAt, NoItems]
  | str text =>
    simp only [itemAt, NoItems, throwsOnly_map, throwsOnly_index, reduceCtorEq, Json.str.injEq,
      false_or, List.length_pos_iff_ne_nil, ne_eq, String.toList_eq_nil_iff]
  | _ => simp [itemAt, NoItems, hkey, htype]

@[simp] theorem lastItem_eq_ok {α : Type} {xs : List α} {a : α} :
    lastItem xs = .ok a ↔ xs.getLast? = some a := by
  unfold lastItem; split <;> simp_all

@[simp] theorem throwsOnly_lastItem {α : Type} {xs : List α} :
    ThrowsOnly E (lastItem xs) ↔ xs ≠ [] ∨ E (.fault .indexError) := by
  cases h : xs.getLast? with
  | some x => simp [lastItem, h, show xs ≠ [] by rintro rfl; simp at h]
  | none => simp [lastItem, List.getLast?_eq_none_iff.mp h]

@[simp] theorem getAttr_eq_ok :
    getAttr value key = .ok v ↔ ∃ d, value = .obj d ∧ Dict.get d key = v := by
  cases value <;> simp [getAttr]

@[simp] theorem throwsOnly_getAttr :
    ThrowsOnly E (getAttr value key) ↔ (∃ d, value = .obj d) ∨ E (.fault .attributeError) := by
  cases value <;> simp [getAttr]

@[simp] theorem getAttrD_eq_ok {default : Json} :
    getAttrD value key default = .ok v ↔ ∃ d, value = .obj d ∧ Dict.getD d key default = v := by
  cases value <;> simp [getAttrD]

@[simp] theorem throwsOnly_getAttrD {default : Json} :
    ThrowsOnly E (getAttrD value key default) ↔
      (∃ d, value = .obj d) ∨ E (.fault .attributeError) := by
  cases value <;> simp [getAttrD]

@[simp] theorem hash_eq_ok {u : Unit} : hash value = .ok u ↔ value.hashable = true := by
  unfold hash; split <;> simp_all

@[simp] theorem throwsOnly_hash :
    ThrowsOnly E (hash value) ↔ value.hashable = true ∨ E (.fault .typeError) := by
  unfold hash; split <;> simp_all

@[simp] theorem setOf_eq_ok :
    setOf items = .ok result ↔ (∀ item ∈ items, item.hashable = true) ∧ items = result := by
  unfold setOf; split <;> simp_all

@[simp] theorem throwsOnly_setOf :
    ThrowsOnly E (setOf items) ↔
      (∀ item ∈ items, item.hashable = true) ∨ E (.fault .typeError) := by
  unfold setOf; split <;> simp_all

@[simp] theorem iterate_eq_ok : iterate value = .ok items ↔ value.items? = some items := by
  unfold iterate; split <;> simp_all

@[simp] theorem rangeOf_eq_ok :
    rangeOf value = .ok result ↔ ∃ n, int? value = some n ∧ Json.range n = result := by
  unfold rangeOf; split <;> simp_all

@[simp] theorem throwsOnly_rangeOf :
    ThrowsOnly E (rangeOf value) ↔ (int? value).isSome ∨ E (.fault .typeError) := by
  unfold rangeOf; split <;> simp_all

@[simp] theorem atLeast_eq_ok {b : Bool} : atLeast x y = .ok b ↔ x.ge? y = some b := by
  unfold atLeast; split <;> simp_all

@[simp] theorem throwsOnly_atLeast :
    ThrowsOnly E (atLeast x y) ↔ (x.ge? y).isSome ∨ E (.fault .typeError) := by
  unfold atLeast; split <;> simp_all

theorem throwsOnly_plus (htype : E (.fault .typeError)) : ThrowsOnly E (plus value n) := by
  cases value <;> simp [plus, htype]

@[simp] theorem sortedOn_eq_ok {α : Type} {key : α → Json} {xs ys : List α} :
    sortedOn key xs = .ok ys ↔
      Sortable key xs ∧ xs.mergeSort (fun x y => (key y).ge? (key x) = some true) = ys := by
  unfold sortedOn; split <;> simp_all

@[simp] theorem throwsOnly_sortedOn {α : Type} {key : α → Json} {xs : List α} :
    ThrowsOnly E (sortedOn key xs) ↔ Sortable key xs ∨ E (.fault .typeError) := by
  unfold sortedOn; split <;> simp_all

end Outcome

/-! ### Lists of integers -/

namespace Json
variable {xs ys : List Json} {m n : ℤ} {k : ℕ}

@[simp] theorem same_int {v : Json} : v.same (.int n) = v.eq (.int n) := by
  simp [same, isNan]

theorem eqItems_iff_forall₂ :
    eqItems xs ys = true ↔ List.Forall₂ (fun x y => x.same y = true) xs ys := by
  induction xs generalizing ys with
  | nil => cases ys <;> simp [eqItems]
  | cons x xs ih => cases ys <;> simp [eqItems, ih, same]

/-- A list equals `list(range(k))` when it has `k` items and each equals its position. -/
theorem eq_range : (Json.arr xs).eq (.arr (range k)) = true ↔
    xs.length = k ∧ ∀ (i : ℕ) x, xs[i]? = some x → eq x (.int i) = true := by
  rw [eq, eqItems_iff_forall₂, List.forall₂_iff_get]
  simp only [range, Int.toNat_natCast, List.length_map, List.length_range, List.get_eq_getElem,
    List.getElem_map, List.getElem_range, same_int]
  refine and_congr_right fun hlen => ⟨?_, ?_⟩
  · intro h i x hx
    obtain ⟨hi, rfl⟩ := List.getElem?_eq_some_iff.mp hx
    exact h i hi (hlen ▸ hi)
  · intro h i hi _
    exact h i _ (List.getElem?_eq_getElem hi)

/-- A value equals an integer when it is that number, whichever of the two comes first. -/
theorem eq_int_iff {v : Json} {n : ℤ} : eq v (.int n) = true ↔ v.number? = some (.finite n) := by
  have hnumber : eq v (.int n) = numberEq v (.int n) := by cases v <;> rfl
  rw [hnumber, numberEq]
  rcases v.number? with _ | (_ | _ | x) <;> simp [number?, PyFloat.eq]

theorem int_eq_iff {v : Json} {n : ℤ} : eq (.int n) v = true ↔ v.number? = some (.finite n) := by
  have hnumber : eq (.int n) v = numberEq (.int n) v := by cases v <;> rfl
  rw [hnumber, numberEq]
  rcases v.number? with _ | (_ | _ | x)
  · simp [number?]
  · simp [number?, PyFloat.eq]
  · simp [number?, PyFloat.eq]
  · simpa [number?, PyFloat.eq] using eq_comm

@[simp] theorem ge?_int : (Json.int m).ge? (.int n) = some (decide (n ≤ m)) := by
  simp [ge?, number?, PyFloat.ge]

@[simp] theorem isIn_ints {ns : List ℤ} : (Json.int n).isIn (ns.map .int) = true ↔ n ∈ ns := by
  simp [isIn]

theorem isIn_str {s : String} : (Json.str s).isIn xs = true ↔ .str s ∈ xs := by
  simp [isIn, same, isNan]

/-- Two lists of integers have the same items. -/
theorem setEq_ints {ms ns : List ℤ} :
    setEq (ms.map .int) (ns.map .int) = true ↔ ∀ n, n ∈ ms ↔ n ∈ ns := by
  simp [setEq, List.all_eq_true, forall_and, iff_iff_implies_and_implies]

end Json

example : PyFloat.addNat (.finite (1 / 10)) 3 = .finite (6980579422424269 / 2251799813685248) := by
  decide +kernel

end IncomUdon.Python
