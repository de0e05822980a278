import Mathlib.Data.List.Forall2
import Mathlib.Tactic.Common

/-! Programs that may raise an exception and that append to an error list on the way. A `Run` raises
    or returns a value, and has the entries it appended until then; whoever catches the exception
    decides whether they still count. A program with no error list is an `Except`. Four questions
    are asked of a run, and each has one rule per way of building programs:

        RaisesOnly E m   every exception of `m` satisfies `E`
        Returns m a      `m` returns `a`, whatever it appended
        Clean m a        `m` returns `a` and appended nothing
        Reports m w      `m` appended `w`, whether it returns or raises

    `ThrowsOnly` is the first question for an `Except`; for the others, `m = .ok a` says it all. With
    `E` never true, the first question is whether the program returns. -/

namespace IncomUdon.Lib.ErrorLog

/-- A run raises `e` or returns `a`, with the entries it appended. -/
inductive Run (ε ω α : Type) where
  | raised (e : ε) (log : List ω)
  | returned (a : α) (log : List ω)

variable {ε ω α β γ : Type}

namespace Run

/-- Run `m`, then `f` on its value; the entries of `m` come first. -/
protected def bind : Run ε ω α → (α → Run ε ω β) → Run ε ω β
  | raised e w, _ => raised e w
  | returned a w, f =>
    match f a with
    | raised e w' => raised e (w ++ w')
    | returned b w' => returned b (w ++ w')

instance : Monad (Run ε ω) where
  pure a := returned a []
  bind := Run.bind

/-- Append entries to the list. -/
def append (entries : List ω) : Run ε ω Unit := returned () entries

/-- A program without an error list, run inside one that has it. -/
def lift : Except ε α → Run ε ω α
  | .error e => raised e []
  | .ok a => returned a []

instance : MonadLift (Except ε) (Run ε ω) := ⟨lift⟩

@[simp] theorem liftM_eq (m : Except ε α) : (liftM m : Run ε ω α) = lift m := rfl

theorem pure_eq (a : α) : (pure a : Run ε ω α) = returned a [] := rfl

theorem bind_raised (e : ε) (w : List ω) (f : α → Run ε ω β) :
    (raised e w >>= f) = raised e w := rfl

theorem bind_returned (a : α) (w : List ω) (f : α → Run ε ω β) :
    (returned a w >>= f) = match f a with
      | raised e w' => raised e (w ++ w')
      | returned b w' => returned b (w ++ w') := rfl

theorem bind_returned_pure (m : Run ε ω α) : Run.bind m (fun a => returned a []) = m := by
  cases m with
  | raised e w => rfl
  | returned a w => exact congrArg (returned a) (List.append_nil w)

theorem pure_bind' (a : α) (f : α → Run ε ω β) : Run.bind (returned a []) f = f a := by
  rw [Run.bind]
  cases f a <;> rfl

theorem bind_assoc' (m : Run ε ω α) (f : α → Run ε ω β) (g : β → Run ε ω γ) :
    (m.bind f).bind g = m.bind fun a => (f a).bind g := by
  cases m with
  | raised e w => rfl
  | returned a w =>
    simp only [Run.bind]
    cases f a with
    | raised e w' => rfl
    | returned b w' => cases hg : g b <;> simp [hg]

instance : LawfulMonad (Run ε ω) :=
  LawfulMonad.mk' (Run ε ω) bind_returned_pure pure_bind' bind_assoc'

end Run

open Run

/-! ### Which exceptions can occur -/

/-- Every exception the program throws satisfies `E`. -/
def ThrowsOnly (E : ε → Prop) (m : Except ε α) : Prop := ∀ e, m = .error e → E e

/-- Every exception the run raises satisfies `E`. -/
def RaisesOnly (E : ε → Prop) (m : Run ε ω α) : Prop := ∀ e w, m = raised e w → E e

/-- The run returns `a`. -/
def Returns (m : Run ε ω α) (a : α) : Prop := ∃ w, m = returned a w

/-- The run returns `a` and appends nothing. -/
def Clean (m : Run ε ω α) (a : α) : Prop := m = returned a []

/-- The entries a run appends. -/
def Run.log : Run ε ω α → List ω
  | raised _ w => w
  | returned _ w => w

/-- The run appends this entry. -/
def Reports (m : Run ε ω α) (entry : ω) : Prop := entry ∈ m.log

/-- No exception at all. -/
def Never (_ : ε) : Prop := False

@[simp] theorem not_never {e : ε} : ¬Never e := id

/-- `P` holds of every element that a loop gets to, when it goes on past those that pass. -/
def EachReached (passes P : α → Prop) : List α → Prop
  | [] => True
  | x :: xs => P x ∧ (passes x → EachReached passes P xs)

section Reached
variable {passes P Q : α → Prop} {x : α} {xs : List α}

@[simp] theorem eachReached_nil : EachReached passes P [] := trivial

@[simp] theorem eachReached_cons :
    EachReached passes P (x :: xs) ↔ P x ∧ (passes x → EachReached passes P xs) := Iff.rfl

theorem eachReached_congr {passes' P' : α → Prop} (hpasses : ∀ x, passes x ↔ passes' x)
    (hP : ∀ x, P x ↔ P' x) : EachReached passes P xs ↔ EachReached passes' P' xs := by
  rw [show passes = passes' from funext fun x => propext (hpasses x),
    show P = P' from funext fun x => propext (hP x)]

theorem eachReached_of_forall (h : ∀ x ∈ xs, P x) : EachReached passes P xs := by
  induction xs with
  | nil => exact trivial
  | cons x xs ih =>
    rw [List.forall_mem_cons] at h
    exact ⟨h.1, fun _ => ih h.2⟩

theorem eachReached_map {f : β → α} {ys : List β} : EachReached passes P (ys.map f) ↔
    EachReached (fun y => passes (f y)) (fun y => P (f y)) ys := by
  induction ys with
  | nil => simp
  | cons y ys ih => simp [ih]

/-- When the elements pass exactly if they satisfy `P`, the loop gets to all of them. -/
theorem eachReached_self : EachReached P P xs ↔ ∀ x ∈ xs, P x := by
  induction xs with
  | nil => simp
  | cons x xs ih => simp [ih]; tauto

end Reached

section Except
variable {E : ε → Prop}

theorem throwsOnly_never {m : Except ε α} : ThrowsOnly Never m ↔ ∃ a, m = .ok a := by
  cases m <;> simp [ThrowsOnly]

@[simp] theorem ok_bind (a : α) (f : α → Except ε β) : (Except.ok a >>= f) = f a := rfl

theorem bind_eq_ok {m : Except ε α} {f : α → Except ε β} {b : β} :
    (m >>= f) = .ok b ↔ ∃ a, m = .ok a ∧ f a = .ok b := by
  cases m <;> simp [bind, Except.bind]

theorem map_eq_ok {m : Except ε α} {f : α → β} {b : β} :
    f <$> m = .ok b ↔ ∃ a, m = .ok a ∧ f a = b := by
  cases m <;> simp [Functor.map, Except.map]

@[simp] theorem throwsOnly_ok (a : α) : ThrowsOnly E (.ok a : Except ε α) := nofun

@[simp] theorem throwsOnly_pure (a : α) : ThrowsOnly E (pure a : Except ε α) := nofun

@[simp] theorem throwsOnly_error {e : ε} : ThrowsOnly E (.error e : Except ε α) ↔ E e := by
  simp [ThrowsOnly]

@[simp] theorem throwsOnly_bind {m : Except ε α} {f : α → Except ε β} :
    ThrowsOnly E (m >>= f) ↔ ThrowsOnly E m ∧ ∀ a, m = .ok a → ThrowsOnly E (f a) := by
  cases m <;> simp [bind, Except.bind]

@[simp] theorem throwsOnly_map {m : Except ε α} {f : α → β} :
    ThrowsOnly E (f <$> m) ↔ ThrowsOnly E m := by
  cases m <;> simp [Functor.map, Except.map]

@[simp] theorem throwsOnly_ite {p : Prop} [Decidable p] {m n : Except ε α} :
    ThrowsOnly E (if p then m else n) ↔ (p → ThrowsOnly E m) ∧ (¬p → ThrowsOnly E n) := by
  split <;> simp_all

/-- A traversal succeeds exactly when every element does. -/
theorem mapM_eq_ok {f : α → Except ε β} : ∀ {xs : List α} {ys : List β},
    xs.mapM f = .ok ys ↔ List.Forall₂ (fun x y => f x = .ok y) xs ys
  | [], ys => by cases ys <;> simp [pure, Except.pure]
  | x :: xs, ys => by
    rw [List.mapM_cons, bind_eq_ok]
    constructor
    · rintro ⟨y, hy, h⟩
      obtain ⟨ys', hys, h⟩ := bind_eq_ok.mp h
      cases h
      exact .cons hy (mapM_eq_ok.mp hys)
    · rintro (_ | ⟨hy, hys⟩)
      exact ⟨_, hy, bind_eq_ok.mpr ⟨_, mapM_eq_ok.mpr hys, rfl⟩⟩

/-- Each element has its result in the list, and each result in the list is that of an element. -/
theorem exists_result_of_mapM {f : α → Except ε β} {xs : List α} {ys : List β} {x : α}
    (h : xs.mapM f = .ok ys) (hx : x ∈ xs) : ∃ y ∈ ys, f x = .ok y := by
  induction mapM_eq_ok.mp h with
  | nil => cases hx
  | @cons x' y xs ys hy hys ih =>
    rcases List.mem_cons.mp hx with rfl | hx
    · exact ⟨y, List.mem_cons_self, hy⟩
    · obtain ⟨z, hz, hfz⟩ := ih (mapM_eq_ok.mpr hys) hx
      exact ⟨z, List.mem_cons_of_mem y hz, hfz⟩

theorem exists_element_of_mapM {f : α → Except ε β} {xs : List α} {ys : List β} {y : β}
    (h : xs.mapM f = .ok ys) (hy : y ∈ ys) : ∃ x ∈ xs, f x = .ok y := by
  induction mapM_eq_ok.mp h with
  | nil => cases hy
  | @cons x y' xs ys hx hxs ih =>
    rcases List.mem_cons.mp hy with rfl | hy
    · exact ⟨x, List.mem_cons_self, hx⟩
    · obtain ⟨z, hz, hfz⟩ := ih (mapM_eq_ok.mpr hxs) hy
      exact ⟨z, List.mem_cons_of_mem x hz, hfz⟩

/-- A traversal whose elements are given through `g` and read as `h`. -/
theorem mapM_map_eq_ok {γ : Type} {f : β → Except ε γ} {g : α → β} {h : α → γ} {xs : List α}
    (hread : ∀ x ∈ xs, f (g x) = .ok (h x)) : (xs.map g).mapM f = .ok (xs.map h) := by
  rw [mapM_eq_ok, List.forall₂_map_left_iff, List.forall₂_map_right_iff]
  exact List.forall₂_same.mpr hread

theorem throwsOnly_mapM {f : α → Except ε β} {xs : List α} (h : ∀ x ∈ xs, ThrowsOnly E (f x)) :
    ThrowsOnly E (xs.mapM f) := by
  induction xs with
  | nil => simp
  | cons x xs ih =>
    rw [List.mapM_cons]
    simp only [List.forall_mem_cons] at h
    simp [h.1, ih h.2]

theorem throwsOnly_mapM_iff {f : α → Except ε β} {xs : List α} :
    ThrowsOnly E (xs.mapM f) ↔
      EachReached (fun x => ∃ y, f x = .ok y) (fun x => ThrowsOnly E (f x)) xs := by
  induction xs with
  | nil => simp
  | cons x xs ih => simp [List.mapM_cons, ih]

/-- A traversal returns when the function does on every element. -/
theorem mapM_isOk {f : α → Except ε β} {xs : List α} :
    (∃ ys, xs.mapM f = .ok ys) ↔ ∀ x ∈ xs, ∃ y, f x = .ok y := by
  simp only [← throwsOnly_never, throwsOnly_mapM_iff, eachReached_self]

/-- Results that are joined: nothing comes out exactly when nothing comes out of any element. -/
theorem mapM_flatten_eq_nil {f : α → Except ε (List β)} {xs : List α} :
    (List.flatten <$> xs.mapM f) = .ok [] ↔ ∀ x ∈ xs, f x = .ok [] := by
  rw [map_eq_ok]
  constructor
  · rintro ⟨ys, hys, hflat⟩ x hx
    obtain ⟨y, hy, hfx⟩ := exists_result_of_mapM hys hx
    rw [hfx, List.flatten_eq_nil_iff.mp hflat y hy]
  · intro h
    refine ⟨xs.map fun _ => [], ?_, by simp⟩
    rw [mapM_eq_ok, List.forall₂_map_right_iff, List.forall₂_same]
    exact h

/-- A loop succeeds exactly when each of its bodies does. -/
theorem forM_eq_ok {f : α → Except ε PUnit} {xs : List α} :
    forM xs f = .ok () ↔ ∀ x ∈ xs, f x = .ok () := by
  induction xs with
  | nil => simp [pure, Except.pure]
  | cons x xs ih =>
    rw [List.forM_cons, bind_eq_ok, List.forall_mem_cons, ← ih]
    exact ⟨fun ⟨⟨⟩, h⟩ => h, fun h => ⟨(), h⟩⟩

theorem throwsOnly_forM {f : α → Except ε PUnit} {xs : List α} (h : ∀ x ∈ xs, ThrowsOnly E (f x)) :
    ThrowsOnly E (forM xs f) := by
  induction xs with
  | nil => simp
  | cons x xs ih =>
    rw [List.forall_mem_cons] at h
    simp [List.forM_cons, h.1, ih h.2]

/-- `any` stops at the first element that satisfies the test. -/
theorem throwsOnly_anyM {p : α → Except ε Bool} {xs : List α} :
    ThrowsOnly E (xs.anyM p) ↔
      EachReached (fun x => p x = .ok false) (fun x => ThrowsOnly E (p x)) xs := by
  induction xs with
  | nil => simp [List.anyM]
  | cons x xs ih => simp [List.anyM, ih]

/-- `all` stops at the first element that fails the test. -/
theorem throwsOnly_allM {p : α → Except ε Bool} {xs : List α} :
    ThrowsOnly E (xs.allM p) ↔
      EachReached (fun x => p x = .ok true) (fun x => ThrowsOnly E (p x)) xs := by
  induction xs with
  | nil => simp [List.allM]
  | cons x xs ih => simp [List.allM, ih]

theorem allM_eq_true {p : α → Except ε Bool} {xs : List α} :
    xs.allM p = .ok true ↔ ∀ x ∈ xs, p x = .ok true := by
  induction xs with
  | nil => simp [List.allM, pure, Except.pure]
  | cons x xs ih =>
    rw [List.allM, bind_eq_ok, List.forall_mem_cons, ← ih]
    constructor
    · rintro ⟨_ | _, hx, hxs⟩
      · cases hxs
      · exact ⟨hx, hxs⟩
    · rintro ⟨hx, hxs⟩
      exact ⟨true, hx, hxs⟩

/-- A fold whose accumulator decides no exception throws what a loop throws. -/
theorem throwsOnly_foldlM {f : β → α → Except ε β} {passes P : α → Prop} {xs : List α} {b : β}
    (hP : ∀ b x, ThrowsOnly E (f b x) ↔ P x) (hpasses : ∀ b x, (∃ b', f b x = .ok b') ↔ passes x) :
    ThrowsOnly E (xs.foldlM f b) ↔ EachReached passes P xs := by
  induction xs generalizing b with
  | nil => simp
  | cons x xs ih => simp [hP, ih, ← hpasses b x]

theorem throwsOnly_foldlM_of_forall {f : β → α → Except ε β} {xs : List α} {b : β}
    (h : ∀ b, ∀ x ∈ xs, ThrowsOnly E (f b x)) : ThrowsOnly E (xs.foldlM f b) := by
  induction xs generalizing b with
  | nil => exact throwsOnly_pure b
  | cons x xs ih =>
    rw [List.foldlM_cons, throwsOnly_bind]
    exact ⟨h b x List.mem_cons_self, fun b' _ => ih fun b x hx => h b x (List.mem_cons_of_mem _ hx)⟩

/-- A fold keeps the invariant its step keeps, and throws only what its step throws. -/
theorem foldlM_invariant {f : β → α → Except ε β} (I : β → Prop) {xs : List α} {b : β} (hb : I b)
    (hthrow : ∀ b, I b → ∀ x ∈ xs, ThrowsOnly E (f b x))
    (hstep : ∀ b, I b → ∀ x ∈ xs, ∀ b', f b x = .ok b' → I b') :
    ThrowsOnly E (xs.foldlM f b) ∧ ∀ b', xs.foldlM f b = .ok b' → I b' := by
  induction xs generalizing b with
  | nil => simpa [pure, Except.pure, ThrowsOnly] using hb
  | cons x xs ih =>
    simp only [List.forall_mem_cons] at hthrow hstep
    have hrest : ∀ b', f b x = .ok b' → _ := fun b' hb' =>
      ih ((hstep b hb).1 b' hb') (fun b hb => (hthrow b hb).2) (fun b hb => (hstep b hb).2)
    simp only [List.foldlM_cons, throwsOnly_bind, bind_eq_ok]
    refine ⟨⟨(hthrow b hb).1, fun b' hb' => (hrest b' hb').1⟩, ?_⟩
    rintro b'' ⟨b', hb', h⟩
    exact (hrest b' hb').2 b'' h

end Except

/-- A run that returns no value has one outcome besides raising. -/
theorem forall_unit {P : Unit → Prop} : (∀ u, P u) ↔ P () := ⟨fun h => h (), fun h _ => h⟩

theorem exists_unit {P : Unit → Prop} : (∃ u, P u) ↔ P () := ⟨fun ⟨_, h⟩ => h, fun h => ⟨(), h⟩⟩

section Run
variable {E : ε → Prop}

@[simp] theorem raisesOnly_pure (a : α) : RaisesOnly E (pure a : Run ε ω α) := nofun

@[simp] theorem raisesOnly_append (w : List ω) : RaisesOnly E (append w : Run ε ω Unit) := nofun

@[simp] theorem raisesOnly_lift {m : Except ε α} :
    RaisesOnly E (lift m : Run ε ω α) ↔ ThrowsOnly E m := by
  cases m <;> simp [RaisesOnly, lift]

@[simp] theorem raisesOnly_bind {m : Run ε ω α} {f : α → Run ε ω β} :
    RaisesOnly E (m >>= f) ↔ RaisesOnly E m ∧ ∀ a, Returns m a → RaisesOnly E (f a) := by
  cases m with
  | raised e w => simp [RaisesOnly, Returns, bind_raised]
  | returned a w =>
    rw [bind_returned]
    cases h : f a <;> simp [RaisesOnly, Returns, h]

@[simp] theorem raisesOnly_map {m : Run ε ω α} {f : α → β} :
    RaisesOnly E (f <$> m) ↔ RaisesOnly E m := by
  rw [map_eq_pure_bind, raisesOnly_bind]; simp

@[simp] theorem raisesOnly_ite {p : Prop} [Decidable p] {m n : Run ε ω α} :
    RaisesOnly E (if p then m else n) ↔ (p → RaisesOnly E m) ∧ (¬p → RaisesOnly E n) := by
  split <;> simp_all

theorem raisesOnly_forM {f : α → Run ε ω PUnit} {xs : List α}
    (h : ∀ x ∈ xs, RaisesOnly E (f x)) : RaisesOnly E (forM xs f) := by
  induction xs with
  | nil => simp
  | cons x xs ih =>
    simp only [List.forall_mem_cons] at h
    simp [List.forM_cons, h.1, ih h.2]

theorem raisesOnly_mapM {f : α → Run ε ω β} {xs : List α} (h : ∀ x ∈ xs, RaisesOnly E (f x)) :
    RaisesOnly E (xs.mapM f) := by
  induction xs with
  | nil => simp
  | cons x xs ih =>
    simp only [List.forall_mem_cons] at h
    simp [List.mapM_cons, h.1, ih h.2]

/-! ### What a run returns -/

@[simp] theorem returns_pure {a b : α} : Returns (pure a : Run ε ω α) b ↔ a = b := by
  simp [Returns, pure_eq]

@[simp] theorem returns_append {w : List ω} {u : Unit} : Returns (append w : Run ε ω Unit) u :=
  ⟨w, rfl⟩

@[simp] theorem returns_lift {m : Except ε α} {a : α} :
    Returns (lift m : Run ε ω α) a ↔ m = .ok a := by
  cases m <;> simp [Returns, lift]

@[simp] theorem returns_bind {m : Run ε ω α} {f : α → Run ε ω β} {b : β} :
    Returns (m >>= f) b ↔ ∃ a, Returns m a ∧ Returns (f a) b := by
  cases m with
  | raised e w => simp [Returns, bind_raised]
  | returned a w =>
    rw [Returns, bind_returned]
    cases h : f a <;> simp [Returns, h]

@[simp] theorem returns_map {m : Run ε ω α} {f : α → β} {b : β} :
    Returns (f <$> m) b ↔ ∃ a, Returns m a ∧ f a = b := by
  rw [map_eq_pure_bind, returns_bind]; simp

@[simp] theorem returns_ite {p : Prop} [Decidable p] {m n : Run ε ω α} {a : α} :
    Returns (if p then m else n) a ↔ (p ∧ Returns m a) ∨ (¬p ∧ Returns n a) := by
  split <;> simp_all

theorem returns_forM {f : α → Run ε ω PUnit} {xs : List α} :
    Returns (forM xs f) () ↔ ∀ x ∈ xs, Returns (f x) () := by
  induction xs with
  | nil => simp
  | cons x xs ih =>
    rw [List.forM_cons, returns_bind, List.forall_mem_cons, ← ih]
    exact ⟨fun ⟨⟨⟩, h⟩ => h, fun h => ⟨(), h⟩⟩

theorem returns_mapM {f : α → Run ε ω β} : ∀ {xs : List α} {ys : List β},
    Returns (xs.mapM f) ys ↔ List.Forall₂ (fun x y => Returns (f x) y) xs ys
  | [], ys => by cases ys <;> simp
  | x :: xs, ys => by
    rw [List.mapM_cons]
    simp only [returns_bind, returns_pure]
    constructor
    · rintro ⟨y, hy, ys', hys, rfl⟩
      exact .cons hy (returns_mapM.mp hys)
    · rintro (_ | ⟨hy, hys⟩)
      exact ⟨_, hy, _, returns_mapM.mpr hys, rfl⟩

/-- A fold raises only what its step raises. -/
theorem raisesOnly_foldlM {f : β → α → Run ε ω β} {xs : List α} {b : β}
    (h : ∀ b, ∀ x ∈ xs, RaisesOnly E (f b x)) : RaisesOnly E (xs.foldlM f b) := by
  induction xs generalizing b with
  | nil => exact raisesOnly_pure b
  | cons x xs ih =>
    rw [List.foldlM_cons, raisesOnly_bind]
    exact ⟨h b x List.mem_cons_self, fun b' _ => ih fun b x hx => h b x (List.mem_cons_of_mem _ hx)⟩

/-- A loop raises only what its bodies raise, up to the first one that raises at all. -/
theorem raisesOnly_forM_iff {f : α → Run ε ω PUnit} {xs : List α} :
    RaisesOnly E (forM xs f) ↔
      EachReached (fun x => Returns (f x) ()) (fun x => RaisesOnly E (f x)) xs := by
  induction xs with
  | nil => simp
  | cons x xs ih =>
    simp only [List.forM_cons, raisesOnly_bind, ih, eachReached_cons]
    exact and_congr_right fun _ => ⟨fun h hx => h () hx, fun h _ hx => h hx⟩

/-! ### Runs that append nothing -/

theorem Clean.returns {m : Run ε ω α} {a : α} (h : Clean m a) : Returns m a := ⟨[], h⟩

/-- A run that returns and appends nothing, as a test. -/
def isClean : Run ε ω α → Bool
  | returned _ [] => true
  | _ => false

theorem clean_of_isClean {m : Run ε ω Unit} (h : isClean m = true) : Clean m () := by
  match m with
  | returned () [] => rfl
  | returned () (_ :: _) => cases h
  | raised _ _ => cases h

theorem Clean.iff_eq {m : Run ε ω α} {a b : α} (h : Clean m a) : Clean m b ↔ b = a := by
  rw [Clean, h]
  simp [eq_comm]

@[simp] theorem clean_pure {a b : α} : Clean (pure a : Run ε ω α) b ↔ a = b := by
  simp [Clean, pure_eq]

@[simp] theorem clean_append {w : List ω} {u : Unit} : Clean (append w : Run ε ω Unit) u ↔
    w = [] := by
  simp [Clean, append]

@[simp] theorem clean_lift {m : Except ε α} {a : α} :
    Clean (lift m : Run ε ω α) a ↔ m = .ok a := by
  cases m <;> simp [Clean, lift]

@[simp] theorem clean_bind {m : Run ε ω α} {f : α → Run ε ω β} {b : β} :
    Clean (m >>= f) b ↔ ∃ a, Clean m a ∧ Clean (f a) b := by
  cases m with
  | raised e w => simp [Clean, bind_raised]
  | returned a w =>
    rw [Clean, bind_returned]
    cases h : f a <;> simp [Clean, h]
    tauto

@[simp] theorem clean_map {m : Run ε ω α} {f : α → β} {b : β} :
    Clean (f <$> m) b ↔ ∃ a, Clean m a ∧ f a = b := by
  rw [map_eq_pure_bind, clean_bind]; simp

@[simp] theorem clean_ite {p : Prop} [Decidable p] {m n : Run ε ω α} {a : α} :
    Clean (if p then m else n) a ↔ (p ∧ Clean m a) ∨ (¬p ∧ Clean n a) := by
  split <;> simp_all

theorem clean_mapM {f : α → Run ε ω β} : ∀ {xs : List α} {ys : List β},
    Clean (xs.mapM f) ys ↔ List.Forall₂ (fun x y => Clean (f x) y) xs ys
  | [], ys => by cases ys <;> simp
  | x :: xs, ys => by
    rw [List.mapM_cons]
    simp only [clean_bind, clean_pure]
    constructor
    · rintro ⟨y, hy, ys', hys, rfl⟩
      exact .cons hy (clean_mapM.mp hys)
    · rintro (_ | ⟨hy, hys⟩)
      exact ⟨_, hy, _, clean_mapM.mpr hys, rfl⟩

theorem clean_forM {f : α → Run ε ω PUnit} {xs : List α} :
    Clean (forM xs f) () ↔ ∀ x ∈ xs, Clean (f x) () := by
  induction xs with
  | nil => simp
  | cons x xs ih =>
    rw [List.forM_cons, clean_bind, List.forall_mem_cons, ← ih]
    exact ⟨fun ⟨⟨⟩, h⟩ => h, fun h => ⟨(), h⟩⟩

/-- A numbered loop, when what a body accepts does not depend on the number. -/
theorem clean_forM_zipIdx {f : α × ℕ → Run ε ω PUnit} {P : α → Prop} {xs : List α}
    (h : ∀ x i, Clean (f (x, i)) () ↔ P x) : Clean (forM xs.zipIdx f) () ↔ ∀ x ∈ xs, P x := by
  have hfst : xs.zipIdx.map Prod.fst = xs := List.zipIdx_map_fst 0 xs
  rw [clean_forM, ← hfst, List.forall_mem_map, hfst]
  exact forall₂_congr fun pair _ => h pair.1 pair.2

/-! ### What a run appends -/

section Reports
variable {entry : ω}

theorem Clean.not_reports {m : Run ε ω α} {a : α} (h : Clean m a) : ¬Reports m entry := by
  rw [Clean] at h
  simp [Reports, h, Run.log]

@[simp] theorem not_reports_pure {a : α} : ¬Reports (pure a : Run ε ω α) entry :=
  Clean.not_reports (a := a) rfl

@[simp] theorem reports_append {w : List ω} : Reports (append w : Run ε ω Unit) entry ↔ entry ∈ w :=
  Iff.rfl

@[simp] theorem not_reports_lift {m : Except ε α} : ¬Reports (lift m : Run ε ω α) entry := by
  cases m <;> simp [Reports, lift, Run.log]

@[simp] theorem reports_bind {m : Run ε ω α} {f : α → Run ε ω β} :
    Reports (m >>= f) entry ↔ Reports m entry ∨ ∃ a, Returns m a ∧ Reports (f a) entry := by
  cases m with
  | raised e w => simp [Reports, Returns, bind_raised, Run.log]
  | returned a w =>
    rw [Reports, bind_returned]
    cases h : f a <;> simp [Reports, Returns, Run.log, h]

@[simp] theorem reports_ite {p : Prop} [Decidable p] {m n : Run ε ω α} :
    Reports (if p then m else n) entry ↔ (p ∧ Reports m entry) ∨ (¬p ∧ Reports n entry) := by
  split <;> simp_all

theorem reports_of_returned {m : Run ε ω α} {a : α} {w : List ω} (h : m = returned a w) :
    Reports m entry ↔ entry ∈ w := by
  rw [h]; rfl

@[simp] theorem reports_map {m : Run ε ω α} {f : α → β} : Reports (f <$> m) entry ↔
    Reports m entry := by
  rw [map_eq_pure_bind, reports_bind]; simp

/-- What a loop appends comes from one of its bodies. -/
theorem exists_reports_of_forM {f : α → Run ε ω PUnit} {xs : List α} (h : Reports (forM xs f) entry) :
    ∃ x ∈ xs, Reports (f x) entry := by
  induction xs with
  | nil => exact absurd h not_reports_pure
  | cons x xs ih =>
    rw [List.forM_cons, reports_bind] at h
    rcases h with h | ⟨_, -, h⟩
    · exact ⟨x, List.mem_cons_self, h⟩
    · obtain ⟨y, hy, hreports⟩ := ih h
      exact ⟨y, List.mem_cons_of_mem x hy, hreports⟩

theorem exists_reports_of_mapM {f : α → Run ε ω β} {xs : List α} (h : Reports (xs.mapM f) entry) :
    ∃ x ∈ xs, Reports (f x) entry := by
  induction xs with
  | nil => exact absurd h not_reports_pure
  | cons x xs ih =>
    simp only [List.mapM_cons, reports_bind, not_reports_pure, and_false, exists_false, or_false] at h
    rcases h with h | ⟨_, -, h⟩
    · exact ⟨x, List.mem_cons_self, h⟩
    · obtain ⟨y, hy, hreports⟩ := ih h
      exact ⟨y, List.mem_cons_of_mem x hy, hreports⟩

end Reports

end Run

end IncomUdon.Lib.ErrorLog
