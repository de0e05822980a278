import Mathlib.Data.Rat.Defs
import Mathlib.Tactic.Common

/-! The values the validators read. A vector file holds a JSON value, which the loader turns into a
    Python object; `Json` is that object. An object keeps its members in file order. Python compares
    `True`, `1` and `1.0` as one number, `None` with nothing but itself, and a container item by
    identity before equality; these comparisons decide what a validator reports, so they are
    modelled here and not replaced by Lean's equality. -/

namespace IncomUdon.Python

/-- A `float`: not a number, an infinity, or a finite value. -/
inductive PyFloat where
  | nan
  | inf (negative : Bool)
  | finite (value : ℚ)
  deriving DecidableEq

namespace PyFloat

/-- Python `==` on numbers, integers included: only `nan` differs from itself. -/
def eq : PyFloat → PyFloat → Bool
  | .inf s, .inf t => s == t
  | .finite a, .finite b => a == b
  | _, _ => false

/-- Python `>=` on numbers. -/
def ge : PyFloat → PyFloat → Bool
  | .nan, _ => false
  | _, .nan => false
  | .inf false, _ => true
  | _, .inf true => true
  | .inf true, _ => false
  | _, .inf false => false
  | .finite a, .finite b => decide (b ≤ a)

end PyFloat

/-- A value as the JSON loader returns it, without lone surrogates in its strings. -/
inductive Json where
  | null
  | bool (b : Bool)
  | int (n : ℤ)
  | float (x : PyFloat)
  | str (s : String)
  | arr (items : List Json)
  | obj (members : List (String × Json))

/-- The members of a JSON object. -/
abbrev Dict := List (String × Json)

namespace Dict

/-- `key in d`. -/
def has (d : Dict) (key : String) : Bool := (d.lookup key).isSome

/-- `d.get(key, default)`. -/
def getD (d : Dict) (key : String) (default : Json) : Json := (d.lookup key).getD default

/-- `d.get(key)`. -/
def get (d : Dict) (key : String) : Json := d.getD key .null

/-- A member that reads anything but `None` is there. -/
theorem lookup_of_get {d : Dict} {key : String} {value : Json} (h : Dict.get d key = value)
    (hne : value ≠ .null) : d.lookup key = some value := by
  cases hkey : d.lookup key with
  | some found => simpa [get, getD, hkey] using h
  | none => exact absurd (by simpa [get, getD, hkey] using h.symm) hne

theorem getD_of_get {d : Dict} {key : String} {value default : Json} (h : Dict.get d key = value)
    (hne : value ≠ .null) : Dict.getD d key default = value := by
  rw [getD, lookup_of_get h hne]
  rfl

theorem has_of_get_ne_null {d : Dict} {key : String} (h : Dict.get d key ≠ .null) :
    Dict.has d key = true := by
  rw [has, lookup_of_get rfl h]
  rfl

end Dict

namespace Json

/-- The number a value stands for in a comparison: a `bool` is an `int`. -/
def number? : Json → Option PyFloat
  | .bool b => some (.finite (if b then 1 else 0))
  | .int n => some (.finite n)
  | .float x => some x
  | _ => none

/-- The loader returns one and the same `nan` object each time. -/
def isNan : Json → Bool
  | .float .nan => true
  | _ => false

/-- `x == y` on two values that are numbers; anything else is unequal. -/
def numberEq (x y : Json) : Bool :=
  match x.number?, y.number? with
  | some a, some b => a.eq b
  | _, _ => false

mutual

/-- Python `==`. -/
def eq : Json → Json → Bool
  | .null, .null => true
  | .str s, .str t => s == t
  | .arr xs, .arr ys => eqItems xs ys
  | .obj ms, .obj ns => ms.length == ns.length && eqMembers ms ns
  | x, y => numberEq x y

/-- Two lists have equal items, each compared by identity first. -/
def eqItems : List Json → List Json → Bool
  | [], [] => true
  | x :: xs, y :: ys => (x.isNan && y.isNan || eq x y) && eqItems xs ys
  | _, _ => false

/-- Every member of the first object is a member of the second with an equal value. -/
def eqMembers : Dict → Dict → Bool
  | [], _ => true
  | (key, x) :: ms, ns =>
    (match ns.lookup key with
      | some y => x.isNan && y.isNan || eq x y
      | none => false) && eqMembers ms ns

end

/-- Two values are one item of a list, set or dict: the same object, or equal. -/
def same (x y : Json) : Bool := x.isNan && y.isNan || eq x y

/-- `value in items`, and membership in a set. -/
def isIn (value : Json) (items : List Json) : Bool := items.any value.same

/-- `set(xs) == set(ys)`. -/
def setEq (xs ys : List Json) : Bool := xs.all (·.isIn ys) && ys.all (·.isIn xs)

/-- `list(range(n))`. -/
def range (n : ℤ) : List Json := (List.range n.toNat).map fun i : ℕ => .int i

/-- `bool(value)`. -/
def truthy : Json → Bool
  | .null => false
  | .bool b => b
  | .int n => n != 0
  | .float x => x != .finite 0
  | .str s => s != ""
  | .arr xs => !xs.isEmpty
  | .obj ms => !ms.isEmpty

/-- A `list` or `dict` has no hash. -/
def hashable : Json → Bool
  | .arr _ | .obj _ => false
  | _ => true

/-- What `for item in value` runs over, when the value is iterable. -/
def items? : Json → Option (List Json)
  | .arr xs => some xs
  | .obj ms => some (ms.map fun m => .str m.1)
  | .str s => some (s.toList.map fun c => .str (.singleton c))
  | _ => none

/-- `isinstance(value, str)`. -/
def isString : Json → Bool
  | .str _ => true
  | _ => false

/-- A list of integers. -/
def ints (ns : List ℕ) : Json := .arr (ns.map fun n : ℕ => .int n)

/-- A string, or `None`. -/
def ofString? (s : Option String) : Json := s.elim .null .str

/-- An integer, or `None`. -/
def ofNat? (n : Option ℕ) : Json := n.elim .null fun n : ℕ => .int n

mutual

/-- `x >= y`, when the two can be ordered. -/
def ge? : Json → Json → Option Bool
  | .str s, .str t => some (decide (t ≤ s))
  | .arr xs, .arr ys => geItems? xs ys
  | x, y =>
    match x.number?, y.number? with
    | some a, some b => some (a.ge b)
    | _, _ => none

/-- Lists are ordered by their first items that differ, else by length. -/
def geItems? : List Json → List Json → Option Bool
  | _, [] => some true
  | [], _ :: _ => some false
  | x :: xs, y :: ys => if x.same y then geItems? xs ys else ge? x y

end

/-! ### Comparison with a known value -/

@[simp] theorem eq_null {v : Json} : eq v .null = true ↔ v = .null := by
  cases v <;> simp [eq, numberEq, number?]

@[simp] theorem eq_str {v : Json} {s : String} : eq v (.str s) = true ↔ v = .str s := by
  cases v <;> simp [eq, numberEq, number?]

@[simp] theorem eq_str_left {v : Json} {s : String} : eq (.str s) v = true ↔ v = .str s := by
  cases v <;> simp [eq, numberEq, number?]
  exact eq_comm

@[simp] theorem eq_int_int {m n : ℤ} : eq (.int m) (.int n) = true ↔ m = n := by
  simp [eq, numberEq, number?, PyFloat.eq]

@[simp] theorem eq_ints {ms ns : List ℕ} : eq (ints ms) (ints ns) = true ↔ ms = ns := by
  rw [ints, ints, eq]
  induction ms generalizing ns with
  | nil => cases ns <;> simp [eqItems]
  | cons m ms ih =>
    cases ns with
    | nil => simp [eqItems]
    | cons n ns =>
      simp only [List.map_cons, eqItems, isNan, Bool.and_self, Bool.false_or, Bool.and_eq_true,
        eq_int_int, Int.natCast_inj, ih, List.cons.injEq]

end Json

end IncomUdon.Python
