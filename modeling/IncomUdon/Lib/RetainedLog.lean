import IncomUdon.Lib.ExclusiveCursor
import Mathlib.Logic.Relation

/-! A log that grows at its end and loses its oldest items, and a reader that goes through what is
    retained with an exclusive cursor. The reader sees only some items:

        purged        retained
        a  b  c  │  d  e  f  g  h ◀── emit
                 ▶       ▲
             purge       cursor ──▶ the first visible item past it

    COMPLETE: as long as its cursor is retained, a reader misses nothing. What it has received, and
    the visible items past its cursor, make up all visible items past its start. -/

namespace IncomUdon.Lib.RetainedLog
open ExclusiveCursor

/-- A log, and a reader of it. -/
structure State (α : Type) where
  purged : List α
  retained : List α
  cursor : α
  received : List α

variable {α κ : Type} [LinearOrder κ]

/-- All items ever emitted. -/
def State.history (s : State α) : List α := s.purged ++ s.retained

variable (key : α → κ) (visible : α → Bool)

/-- The log gets an item or loses its oldest, or the reader reads one. -/
inductive Step (s : State α) : State α → Prop
  | emit (item : α) (hnew : ∀ x ∈ s.history, key x < key item) :
      Step s { s with retained := s.retained ++ [item] }
  | purge (first : α) (rest : List α) (hretained : s.retained = first :: rest) :
      Step s { s with purged := s.purged ++ [first], retained := rest }
  | read (item : α) (hcursor : s.cursor ∈ s.retained)
      (hnext : next key (s.retained.filter visible) (key s.cursor) = some item) :
      Step s { s with cursor := item, received := s.received ++ [item] }

/-- The visible items past a cursor. -/
def visibleAfter (s : State α) (cursor : κ) : List α := after key (s.history.filter visible) cursor

/-- What the reader has received, and what is past its cursor, make up what is past `start`. -/
structure Complete (start : α) (s : State α) : Prop where
  increasing : s.history.Pairwise fun x y => key x < key y
  begun : start ∈ s.history
  reached : s.cursor ∈ s.history
  complete : s.received ++ visibleAfter key visible s (key s.cursor) = visibleAfter key visible s (key start)

variable {key visible} {start : α} {s t : State α}

/-- A reader that has not read yet. -/
theorem Complete.refl (hincreasing : s.history.Pairwise fun x y => key x < key y)
    (hcursor : s.cursor ∈ s.history) (hfresh : s.received = []) : Complete key visible s.cursor s :=
  ⟨hincreasing, hcursor, hcursor, by rw [hfresh, List.nil_append]⟩

/-- RETAINED: what is purged does not hide anything from a reader whose cursor is retained. -/
theorem next_retained (hincreasing : s.history.Pairwise fun x y => key x < key y)
    (hcursor : s.cursor ∈ s.retained) :
    next key (s.retained.filter visible) (key s.cursor) = next key (s.history.filter visible) (key s.cursor) := by
  have hbefore : next key (s.purged.filter visible) (key s.cursor) = none := by
    rw [next, List.find?_eq_none]
    intro x hx
    have hlt := (List.pairwise_append.mp hincreasing).2.2 x (List.mem_of_mem_filter hx) s.cursor hcursor
    simpa using hlt.le
  rw [next] at hbefore ⊢
  rw [next, State.history, List.filter_append, List.find?_append, hbefore, Option.none_or]

/-- STEP: the log moves on and the reader with it, and nothing is missed. -/
theorem Complete.step (h : Complete key visible start s) (hstep : Step key visible s t) :
    Complete key visible start t := by
  cases hstep with
  | emit item hnew =>
    have hhistory : State.history { s with retained := s.retained ++ [item] } = s.history ++ [item] :=
      (List.append_assoc ..).symm
    have hsplit : ∀ x ∈ s.history, visibleAfter key visible { s with retained := s.retained ++ [item] } (key x)
        = visibleAfter key visible s (key x) ++ [item].filter visible := by
      intro x hx
      rw [visibleAfter, hhistory, List.filter_append, after, List.filter_append, visibleAfter, after]
      refine congrArg _ (List.filter_eq_self.mpr fun y hy => decide_eq_true ?_)
      rw [List.mem_singleton.mp (List.mem_of_mem_filter hy)]
      exact hnew x hx
    refine ⟨?_, ?_, ?_, ?_⟩
    · rw [hhistory, List.pairwise_append]
      exact ⟨h.increasing, List.pairwise_singleton .., fun x hx y hy =>
        List.mem_singleton.mp hy ▸ hnew x hx⟩
    · exact hhistory ▸ List.mem_append_left [item] h.begun
    · exact hhistory ▸ List.mem_append_left [item] h.reached
    · rw [hsplit start h.begun, hsplit s.cursor h.reached, ← List.append_assoc, h.complete]
  | purge first rest hretained =>
    have hhistory : State.history { s with purged := s.purged ++ [first], retained := rest } = s.history := by
      rw [State.history, State.history, hretained, List.append_assoc, List.singleton_append]
    refine ⟨hhistory ▸ h.increasing, hhistory ▸ h.begun, hhistory ▸ h.reached, ?_⟩
    have hcomplete := h.complete
    rw [visibleAfter, visibleAfter, ← hhistory] at hcomplete
    exact hcomplete
  | read item hcursor hnext =>
    rw [next_retained h.increasing hcursor] at hnext
    have hmem : item ∈ s.history := List.mem_of_mem_filter (List.mem_of_find?_eq_some hnext)
    refine ⟨h.increasing, h.begun, hmem, ?_⟩
    calc (s.received ++ [item]) ++ visibleAfter key visible s (key item)
        = s.received ++ (item :: visibleAfter key visible s (key item)) := by
          rw [List.append_assoc, List.singleton_append]
      _ = s.received ++ visibleAfter key visible s (key s.cursor) := by
          rw [visibleAfter, visibleAfter, ← after_of_next_some (h.increasing.filter visible) hnext]
      _ = visibleAfter key visible s (key start) := h.complete

/-- RUN: nothing is missed in any run. -/
theorem Complete.run (h : Complete key visible start s)
    (hrun : Relation.ReflTransGen (Step key visible) s t) :
    Complete key visible start t := by
  induction hrun with
  | refl => exact h
  | tail _ hstep ih => exact ih.step hstep

/-- CAUGHT UP: a reader that gets no next item has received everything. -/
theorem Complete.received_of_next_none (h : Complete key visible start s)
    (hcursor : s.cursor ∈ s.retained)
    (hnext : next key (s.retained.filter visible) (key s.cursor) = none) :
    s.received = visibleAfter key visible s (key start) := by
  rw [next_retained h.increasing hcursor] at hnext
  rw [← h.complete, visibleAfter, after_of_next_none hnext, List.append_nil]

end IncomUdon.Lib.RetainedLog
