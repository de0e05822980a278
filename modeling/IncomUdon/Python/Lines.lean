import Mathlib.Data.List.Basic
import Mathlib.Tactic.Common

/-! `str.splitlines()`. A line ends at any of ten characters, and at a carriage return with its line
    feed as one; what follows the last boundary is a line of its own unless it is empty:

        "v1.2.3\n" ──▶ ["v1.2.3"]      "" ──▶ []      "a\r\n\nb" ──▶ ["a", "", "b"]             -/

namespace IncomUdon.Python

/-- The characters that end a line. -/
def lineBoundaries : List Char :=
  ['\n', '\r', '\x0b', '\x0c', '\x1c', '\x1d', '\x1e', '\u0085', '\u2028', '\u2029']

/-- The lines of a text, of which `line` is read already. -/
def splitLinesFrom (line : List Char) : List Char → List (List Char)
  | [] => if line = [] then [] else [line]
  | '\r' :: '\n' :: rest => line :: splitLinesFrom [] rest
  | c :: rest =>
    if c ∈ lineBoundaries then line :: splitLinesFrom [] rest else splitLinesFrom (line ++ [c]) rest

/-- `text.splitlines()`. -/
def splitLines (text : List Char) : List (List Char) := splitLinesFrom [] text

/-- What ends a line. -/
def LineEnding (ending : List Char) : Prop :=
  ending = ['\r', '\n'] ∨ ∃ c ∈ lineBoundaries, ending = [c]

/-- The text goes on in the same line. -/
def OneLine (text : List Char) : Prop := ∀ c ∈ text, c ∉ lineBoundaries

instance (text : List Char) : Decidable (OneLine text) := List.decidableBAll _ _

/-- An ending is the whole ending: a carriage return alone has no line feed after it. -/
def Ends (ending rest : List Char) : Prop :=
  LineEnding ending ∧ (ending = ['\r'] → rest.head? ≠ some '\n')

variable {line text rest ending : List Char} {c : Char}

theorem ends_nil (h : LineEnding ending) : Ends ending [] := ⟨h, by simp⟩

theorem splitLinesFrom_cons (h : c ∉ lineBoundaries) :
    splitLinesFrom line (c :: rest) = splitLinesFrom (line ++ [c]) rest := by
  have hne : c ≠ '\r' := by
    rintro rfl
    exact h (by decide)
  rw [splitLinesFrom.eq_3 _ _ _ (by rintro _ rfl; exact absurd rfl hne), if_neg h]

theorem splitLinesFrom_oneLine (h : OneLine text) :
    splitLinesFrom line (text ++ rest) = splitLinesFrom (line ++ text) rest := by
  induction text generalizing line with
  | nil => rw [List.nil_append, List.append_nil]
  | cons c text ih =>
    rw [OneLine, List.forall_mem_cons] at h
    rw [List.cons_append, splitLinesFrom_cons h.1, ih h.2, List.append_assoc, List.singleton_append]

theorem splitLinesFrom_ends (h : Ends ending rest) :
    splitLinesFrom line (ending ++ rest) = line :: splitLines rest := by
  obtain ⟨rfl | ⟨c, hc, rfl⟩, hreturn⟩ := h
  · rfl
  · have hpair : ∀ rest', c = '\r' → rest = '\n' :: rest' → False := by
      rintro rest' rfl rfl
      exact hreturn rfl rfl
    rw [List.singleton_append, splitLinesFrom.eq_3 _ _ _ hpair, if_pos hc]
    rfl

/-- STEP: a line is read to its ending. -/
theorem splitLines_step (hline : OneLine line) (h : Ends ending rest) :
    splitLines (line ++ (ending ++ rest)) = line :: splitLines rest := by
  rw [splitLines, splitLinesFrom_oneLine hline, List.nil_append, splitLinesFrom_ends h]

theorem splitLines_oneLine (h : OneLine text) (hne : text ≠ []) : splitLines text = [text] := by
  have hfrom : splitLinesFrom [] (text ++ []) = splitLinesFrom text [] := splitLinesFrom_oneLine h
  rw [List.append_nil] at hfrom
  rw [splitLines, hfrom, splitLinesFrom, if_neg hne]

/-- A text is one line without an ending, or has a first line with one. -/
theorem exists_first_line (text : List Char) :
    OneLine text ∨ ∃ line ending rest, OneLine line ∧ Ends ending rest ∧
    text = line ++ (ending ++ rest) := by
  induction text with
  | nil => exact .inl (by simp [OneLine])
  | cons c text ih =>
    by_cases hc : c ∈ lineBoundaries
    · right
      by_cases hpair : c = '\r' ∧ text.head? = some '\n'
      · obtain ⟨rfl, hhead⟩ := hpair
        obtain ⟨rest, rfl⟩ := List.head?_eq_some_iff.mp hhead
        exact ⟨[], ['\r', '\n'], rest, by simp [OneLine], ⟨.inl rfl, by simp⟩, rfl⟩
      · refine ⟨[], [c], text, by simp [OneLine], ⟨.inr ⟨c, hc, rfl⟩, fun h hhead => hpair ⟨?_,
          hhead⟩⟩, rfl⟩
        exact List.singleton_inj.mp h
    · rcases ih with h | ⟨line, ending, rest, hline, hends, rfl⟩
      · left
        rw [OneLine, List.forall_mem_cons]
        exact ⟨hc, h⟩
      · right
        refine ⟨c :: line, ending, rest, ?_, hends, rfl⟩
        rw [OneLine, List.forall_mem_cons]
        exact ⟨hc, hline⟩

theorem splitLines_eq_nil : splitLines text = [] ↔ text = [] := by
  constructor
  · intro h
    by_contra hne
    rcases exists_first_line text with hone | ⟨line, ending, rest, hline, hends, rfl⟩
    · rw [splitLines_oneLine hone hne] at h
      exact List.cons_ne_nil _ _ h
    · rw [splitLines_step hline hends] at h
      exact List.cons_ne_nil _ _ h
  · rintro rfl
    rfl

/-- A text of exactly one line: the line, with or without an ending. -/
theorem splitLines_eq_singleton (hne : line ≠ []) : splitLines text = [line] ↔
    OneLine line ∧ (text = line ∨ ∃ ending, LineEnding ending ∧ text = line ++ ending) := by
  constructor
  · intro h
    rcases exists_first_line text with hone | ⟨first, ending, rest, hfirst, hends, rfl⟩
    · by_cases htext : text = []
      · rw [splitLines_eq_nil.mpr htext] at h
        cases h
      · rw [splitLines_oneLine hone htext] at h
        cases h
        exact ⟨hone, .inl rfl⟩
    · rw [splitLines_step hfirst hends] at h
      obtain ⟨rfl, hrest⟩ := List.cons.inj h
      obtain rfl := splitLines_eq_nil.mp hrest
      exact ⟨hfirst, .inr ⟨ending, hends.1, by rw [List.append_nil]⟩⟩
  · rintro ⟨hline, rfl | ⟨ending, hending, rfl⟩⟩
    · exact splitLines_oneLine hline hne
    · have hstep := splitLines_step hline (ends_nil hending)
      rw [List.append_nil] at hstep
      exact hstep

/-- RUN: lines that are written with a line feed after each are read again. -/
theorem splitLines_unlines {names : List (List Char)} (h : ∀ name ∈ names, OneLine name) :
    splitLines (names.flatMap fun name => name ++ ['\n']) = names := by
  induction names with
  | nil => rfl
  | cons name names ih =>
    rw [List.forall_mem_cons] at h
    have hends : Ends ['\n'] (names.flatMap fun name => name ++ ['\n']) :=
      ⟨.inr ⟨'\n', by decide, rfl⟩, by simp⟩
    rw [List.flatMap_cons, List.append_assoc, splitLines_step h.1 hends, ih h.2]

end IncomUdon.Python
