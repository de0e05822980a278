import Mathlib.Data.List.Chain
import Mathlib.Tactic.Common

/-! A list whose elements belong to domains, named by a key, and that should be monotone within each
    domain. Domains may alternate, so the last element of the same domain need not be the neighbour:

        a₁  a₂  b₁  b₂  a₃        a₁ ≤ a₂,  b₁ ≤ b₂,  and across the gap  a₂ ≤ a₃

    For a transitive relation it is enough to compare each element with the one its domain was left
    at. Comparing neighbours covers the domains that are never left. -/

namespace IncomUdon.Lib.KeyedOrder

variable {α κ : Type} (key : α → κ) (R : α → α → Prop)

/-- Elements of one domain are related in the order of the list. -/
def MonotoneWithin (l : List α) : Prop := l.Pairwise fun a b => key a = key b → R a b

/-- Neighbours of one domain are related. -/
def Neighbours (l : List α) : Prop := l.IsChain fun a b => key a = key b → R a b

/-- A domain that comes back after others is related to where it was left. -/
def Resumes (l : List α) : Prop :=
  ∀ before a between b after, l = before ++ a :: (between ++ b :: after) → between ≠ [] →
    (∀ c ∈ between, key c ≠ key a) → key a = key b → R a b

variable {key R} {a : α} {l : List α}

theorem Resumes.tail (h : Resumes key R (a :: l)) : Resumes key R l :=
  fun before a' between b after heq =>
    h (a :: before) a' between b after (by rw [heq, List.cons_append])

/-- The next element of a domain is related, next to it or across a gap. -/
theorem related_next (hn : Neighbours key R (a :: l)) (hr : Resumes key R (a :: l))
    {between after : List α} {b : α} (hl : l = between ++ b :: after)
    (hgap : ∀ c ∈ between, key c ≠ key a) (hkey : key a = key b) : R a b := by
  cases between with
  | nil =>
    rw [hl, List.nil_append] at hn
    exact (List.isChain_cons_cons.mp hn).1 hkey
  | cons c between =>
    exact hr [] a (c :: between) b after (by rw [hl, List.nil_append]) (List.cons_ne_nil c between)
      hgap hkey

/-- Monotone within each domain is what neighbours and gaps say together. -/
theorem monotoneWithin_iff (htrans : ∀ a b c, R a b → R b c → R a c) :
    MonotoneWithin key R l ↔ Neighbours key R l ∧ Resumes key R l := by
  constructor
  · refine fun h => ⟨h.isChain, ?_⟩
    rintro before a between b after rfl - - hkey
    have hsub : [a, b].Sublist (before ++ a :: (between ++ b :: after)) := by
      refine (List.Sublist.cons_cons a ?_).trans (List.sublist_append_right before _)
      exact (List.singleton_sublist.mpr List.mem_cons_self).trans
        (List.sublist_append_right between _)
    exact (List.pairwise_pair.mp (h.sublist hsub)) hkey
  · rintro ⟨hn, hr⟩
    induction l with
    | nil => exact List.Pairwise.nil
    | cons a l ih =>
      have hrest : MonotoneWithin key R l := ih hn.tail hr.tail
      refine List.Pairwise.cons (fun b hb hkey => ?_) hrest
      -- the next element of the domain is related to `a`, and so are the later ones
      obtain ⟨keys, keys', heq, hnew⟩ := List.eq_append_cons_of_mem
        (hkey ▸ List.mem_map_of_mem hb : key a ∈ l.map key)
      obtain ⟨between, _, rfl, rfl, htail⟩ := List.map_eq_append_iff.mp heq
      obtain ⟨c, after, rfl, hc, -⟩ := List.map_eq_cons_iff.mp htail
      have hgap : ∀ d ∈ between, key d ≠ key a := fun d hd heq =>
        hnew (heq ▸ List.mem_map_of_mem hd)
      have hnext : R a c := related_next hn hr rfl hgap hc.symm
      have hlater := (List.pairwise_append.mp hrest).2.1
      rcases List.mem_append.mp hb with hbetween | hb
      · exact absurd hkey.symm (hgap b hbetween)
      · rcases List.mem_cons.mp hb with rfl | hafter
        · exact hnext
        · exact htrans a c b hnext ((List.pairwise_cons.mp hlater).1 b hafter (hc.trans hkey))

end IncomUdon.Lib.KeyedOrder
