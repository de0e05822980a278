import IncomUdon.Lib.BigEndian

/-! Self-delimiting encodings: what an encoding wrote is read back, whatever follows it. Such
    encodings are taken off one by one, so a record of them has one reading:

        fixed width      every encoding of the same length
        length prefix    a self-delimiting size, then that many items
        end mark         any number of items, then what begins none of them

    `P` says which values the encoding is for. -/

namespace IncomUdon.Lib.SelfDelimiting
open IncomUdon.Lib.BigEndian

variable {α τ : Type} {P : α → Prop} {enc : α → List τ}

/-- Two strings that begin with an encoding are equal only when the values and the rests are. -/
def Delimits (P : α → Prop) (enc : α → List τ) : Prop :=
  ∀ ⦃a b : α⦄, P a → P b → ∀ ⦃xs ys : List τ⦄, enc a ++ xs = enc b ++ ys → a = b ∧ xs = ys

/-- With nothing after it. -/
theorem Delimits.inj (h : Delimits P enc) {a b : α} (ha : P a) (hb : P b) (heq : enc a = enc b) :
    a = b := by
  have hnil : enc a ++ [] = enc b ++ [] := by rw [heq]
  exact (h ha hb hnil).1

theorem delimits_of_length {width : ℕ} (hinj : ∀ a b, P a → P b → enc a = enc b → a = b)
    (hlength : ∀ a, P a → (enc a).length = width) : Delimits P enc := by
  intro a b ha hb xs ys heq
  obtain ⟨henc, hrest⟩ := List.append_inj heq (by rw [hlength a ha, hlength b hb])
  exact ⟨hinj a b ha hb henc, hrest⟩

/-- Items of a fixed number. -/
theorem delimits_fixed (width : ℕ) : Delimits (fun data : List τ => data.length = width) id :=
  delimits_of_length (fun _ _ _ _ heq => heq) fun _ hwidth => hwidth

/-- An integer in `width` bytes. -/
theorem delimits_toBE (width : ℕ) : Delimits (fun n => n < 256 ^ width) (toBE width) :=
  delimits_of_length (fun _ _ hm hn heq => (toBE_inj hm hn).mp heq) fun n _ => length_toBE width n

/-- The number of items, then the items. -/
theorem Delimits.lengthPrefixed {R : ℕ → Prop} {size : ℕ → List τ} (h : Delimits R size) :
    Delimits (fun data : List τ => R data.length) fun data => size data.length ++ data := by
  intro data data' hdata hdata' xs ys heq
  simp only [List.append_assoc] at heq
  obtain ⟨hlength, htail⟩ := h hdata hdata' heq
  exact List.append_inj htail hlength

/-- A given number of self-delimiting items. -/
theorem Delimits.flatMap (h : Delimits P enc) (count : ℕ) :
    Delimits (fun items : List α => items.length = count ∧ ∀ a ∈ items, P a)
      fun items => items.flatMap enc := by
  induction count with
  | zero =>
    rintro items items' ⟨hnil, -⟩ ⟨hnil', -⟩ xs ys heq
    rw [List.length_eq_zero_iff] at hnil hnil'
    subst hnil hnil'
    exact ⟨rfl, heq⟩
  | succ count ih =>
    rintro items items' ⟨hcount, hitems⟩ ⟨hcount', hitems'⟩ xs ys heq
    obtain ⟨a, items, rfl⟩ := List.exists_cons_of_length_eq_add_one hcount
    obtain ⟨a', items', rfl⟩ := List.exists_cons_of_length_eq_add_one hcount'
    rw [List.forall_mem_cons] at hitems hitems'
    rw [List.length_cons, Nat.add_right_cancel_iff] at hcount hcount'
    simp only [List.flatMap_cons, List.append_assoc] at heq
    obtain ⟨rfl, hrest⟩ := h hitems.1 hitems'.1 heq
    obtain ⟨rfl, hafter⟩ := ih ⟨hcount, hitems.2⟩ ⟨hcount', hitems'.2⟩ hrest
    exact ⟨rfl, hafter⟩

/-- Any number of self-delimiting items, and an end mark that begins none of them. -/
theorem Delimits.terminated {stop : τ} (h : Delimits P enc)
    (hstop : ∀ a, P a → ∃ t rest, enc a = t :: rest ∧ t ≠ stop) :
    Delimits (fun items : List α => ∀ a ∈ items, P a) fun items => items.flatMap enc ++ [stop] := by
  intro items items' hitems hitems' xs ys heq
  induction items generalizing items' with
  | nil =>
    cases items' with
    | nil => exact ⟨rfl, List.append_cancel_left heq⟩
    | cons b items' =>
      obtain ⟨t, rest, henc, hne⟩ := hstop b (hitems' b List.mem_cons_self)
      simp only [List.flatMap_nil, List.flatMap_cons, henc, List.nil_append, List.cons_append,
        List.cons.injEq] at heq
      exact absurd heq.1.symm hne
  | cons a items ih =>
    rw [List.forall_mem_cons] at hitems
    cases items' with
    | nil =>
      obtain ⟨t, rest, henc, hne⟩ := hstop a hitems.1
      simp only [List.flatMap_nil, List.flatMap_cons, henc, List.nil_append, List.cons_append,
        List.cons.injEq] at heq
      exact absurd heq.1 hne
    | cons b items' =>
      rw [List.forall_mem_cons] at hitems'
      simp only [List.flatMap_cons, List.append_assoc] at heq
      obtain ⟨rfl, hrest⟩ := h hitems.1 hitems'.1 heq
      obtain ⟨rfl, hafter⟩ := ih hitems.2 hitems'.2 (by simpa using hrest)
      exact ⟨rfl, hafter⟩

end IncomUdon.Lib.SelfDelimiting
