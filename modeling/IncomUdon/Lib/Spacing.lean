import Mathlib.Data.List.Chain
import Mathlib.Order.Basic
import Mathlib.Tactic.Common

/-! Taking items greedily so that they stay apart. Going through a list in order, an item is taken
    when it is far enough from the item taken last; an item that is left out moves nothing:

        last ── far ──▶ taken      becomes the last
        last ─ not far ─ left out  the last stays

    `far` holds more as the second item grows and less as the first one does. On a sorted list the
    taken items are then pairwise far apart, an item is left out only because of a taken one before
    it, and no other choice of items that are pairwise far apart has more of them. The decisions do
    not depend on the items that are left out, whatever `far` is. -/

namespace IncomUdon.Lib.Spacing

variable {α : Type} (far : α → α → Prop)

/-- Nothing was taken yet, or the item is far from what was taken last. -/
def Clear (last : Option α) (x : α) : Prop := ∀ y ∈ last, far y x

instance [DecidableRel far] (last : Option α) (x : α) : Decidable (Clear far last x) :=
  inferInstanceAs (Decidable (∀ y ∈ last, _))

/-- Each item with the decision on it. -/
def choices [DecidableRel far] : Option α → List α → List (α × Bool)
  | _, [] => []
  | last, x :: xs =>
    if Clear far last x then (x, true) :: choices (some x) xs else (x, false) :: choices last xs

/-- The items that are taken. -/
def taken (decided : List (α × Bool)) : List α := (decided.filter Prod.snd).map Prod.fst

@[simp] theorem taken_cons_true (x : α) (decided : List (α × Bool)) :
    taken ((x, true) :: decided) = x :: taken decided := rfl

@[simp] theorem taken_cons_false (x : α) (decided : List (α × Bool)) :
    taken ((x, false) :: decided) = taken decided := rfl

section Choices
variable {far} [DecidableRel far] {last : Option α} {x : α} {xs : List α}

@[simp] theorem map_fst_choices : (choices far last xs).map Prod.fst = xs := by
  induction xs generalizing last with
  | nil => rfl
  | cons x xs ih =>
    unfold choices
    split <;> rw [List.map_cons, ih]

/-- The first item is taken. -/
theorem choices_none_cons : choices far none (x :: xs) = (x, true) :: choices far (some x) xs :=
  if_pos nofun

theorem mem_of_mem_taken (h : x ∈ taken (choices far last xs)) : x ∈ xs := by
  obtain ⟨decided, hdecided, rfl⟩ := List.mem_map.mp h
  have hmem := List.mem_map_of_mem (f := Prod.fst) (List.mem_of_mem_filter hdecided)
  rwa [map_fst_choices] at hmem

/-- An item is left out because of the last one taken before it. -/
theorem not_far_of_left_out {before after : List (α × Bool)}
    (h : choices far last xs = before ++ (x, false) :: after) :
    ∃ y, ¬far y x ∧ (y ∈ last ∨ (y, true) ∈ before) := by
  induction xs generalizing last before with
  | nil => simp [choices] at h
  | cons z xs ih =>
    unfold choices at h
    split at h
    · cases before with
      | nil => simp at h
      | cons first before =>
        rw [List.cons_append, List.cons.injEq] at h
        obtain ⟨rfl, h⟩ := h
        obtain ⟨y, hfar, hy | hy⟩ := ih h
        · rw [Option.mem_some_iff] at hy
          exact ⟨y, hfar, .inr (hy ▸ List.mem_cons_self)⟩
        · exact ⟨y, hfar, .inr (List.mem_cons_of_mem _ hy)⟩
    · rename_i hclear
      cases before with
      | nil =>
        rw [List.nil_append, List.cons.injEq, Prod.mk.injEq] at h
        obtain ⟨⟨rfl, -⟩, -⟩ := h
        simp only [Clear, not_forall] at hclear
        obtain ⟨y, hy, hfar⟩ := hclear
        exact ⟨y, hfar, .inl hy⟩
      | cons first before =>
        rw [List.cons_append, List.cons.injEq] at h
        obtain ⟨y, hfar, hy⟩ := ih h.2
        exact ⟨y, hfar, hy.imp_right (List.mem_cons_of_mem _)⟩

/-- DELETION: without some of the items that are left out, the decisions on the others are the
    same. -/
theorem choices_of_sublist {kept : List (α × Bool)} (hkept : kept.Sublist (choices far last xs))
    (htaken : kept.filter Prod.snd = (choices far last xs).filter Prod.snd) :
    choices far last (kept.map Prod.fst) = kept := by
  induction xs generalizing last kept with
  | nil =>
    rw [List.sublist_nil.mp hkept]
    rfl
  | cons x xs ih =>
    unfold choices at hkept htaken
    split at hkept
    · rename_i hclear
      rw [if_pos hclear, List.filter_cons_of_pos rfl] at htaken
      cases hkept with
      | cons _ hrest =>
        -- the taken item `x` cannot be missing
        have hle := (hrest.filter Prod.snd).length_le
        rw [htaken, List.length_cons] at hle
        omega
      | cons_cons _ hrest =>
        rw [List.filter_cons_of_pos rfl, List.cons.injEq] at htaken
        rw [List.map_cons, choices, if_pos hclear, ih hrest htaken.2]
    · rename_i hclear
      rw [if_neg hclear, List.filter_cons_of_neg (by simp)] at htaken
      cases hkept with
      | cons _ hrest => exact ih hrest htaken
      | cons_cons _ hrest =>
        rw [List.filter_cons_of_neg (by simp)] at htaken
        rw [List.map_cons, choices, if_neg hclear, ih hrest htaken]

end Choices

section Sorted
variable {far} [DecidableRel far] [Preorder α] {last : Option α} {x : α} {xs : List α}

/-- What is taken after `last` is far from it. -/
theorem far_of_mem_taken (hup : ∀ a b c, far a b → b ≤ c → far a c) (hsorted : xs.Pairwise (· ≤ ·))
    (h : x ∈ taken (choices far last xs)) : Clear far last x := by
  induction xs generalizing last with
  | nil => cases h
  | cons z xs ih =>
    obtain ⟨hle, hrest⟩ := List.pairwise_cons.mp hsorted
    unfold choices at h
    split at h
    · rename_i hclear
      rw [taken_cons_true, List.mem_cons] at h
      rcases h with rfl | h
      · exact hclear
      · exact fun y hy => hup y z x (hclear y hy) (hle x (mem_of_mem_taken h))
    · exact ih hrest h

/-- APART: the taken items are pairwise far apart. -/
theorem pairwise_taken (hup : ∀ a b c, far a b → b ≤ c → far a c) (hsorted : xs.Pairwise (· ≤ ·)) :
    (taken (choices far last xs)).Pairwise far := by
  induction xs generalizing last with
  | nil => exact List.Pairwise.nil
  | cons z xs ih =>
    have hrest := (List.pairwise_cons.mp hsorted).2
    unfold choices
    split
    · exact List.Pairwise.cons (fun x hx => far_of_mem_taken hup hrest hx z rfl) (ih hrest)
    · exact ih hrest

/-- MAXIMAL: no choice of items that are pairwise far apart, and far from `last`, has more of them.
    The greedy choice takes the first item it can, and any other choice does as well with that item
    in place of its own first one. -/
theorem length_le_taken (hdown : ∀ a b c, a ≤ b → far b c → far a c) (hsorted : xs.Pairwise (· ≤ ·))
    {chosen : List α} (hchosen : chosen.Sublist xs) (hapart : chosen.Pairwise far)
    (hlast : ∀ x ∈ chosen, Clear far last x) :
    chosen.length ≤ (taken (choices far last xs)).length := by
  induction xs generalizing last chosen with
  | nil => simp [List.sublist_nil.mp hchosen]
  | cons z xs ih =>
    obtain ⟨hle, hrest⟩ := List.pairwise_cons.mp hsorted
    unfold choices
    split
    · rw [taken_cons_true, List.length_cons]
      cases chosen with
      | nil => exact Nat.zero_le _
      | cons first chosen =>
        have hfirst : z ≤ first ∧ chosen.Sublist xs := by
          cases hchosen with
          | cons _ h =>
            exact ⟨hle first (h.subset List.mem_cons_self), (List.sublist_cons_self _ _).trans h⟩
          | cons_cons _ h => exact ⟨le_rfl, h⟩
        obtain ⟨hfar, hapart⟩ := List.pairwise_cons.mp hapart
        refine Nat.succ_le_succ (ih hrest hfirst.2 hapart ?_)
        intro x hx y hy
        rw [Option.mem_some_iff] at hy
        exact hdown y first x (hy ▸ hfirst.1) (hfar x hx)
    · rename_i hclear
      rw [taken_cons_false]
      cases hchosen with
      | cons _ h => exact ih hrest h hapart hlast
      | cons_cons _ h => exact absurd (hlast z List.mem_cons_self) hclear

end Sorted

end IncomUdon.Lib.Spacing
