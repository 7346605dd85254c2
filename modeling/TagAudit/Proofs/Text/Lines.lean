import Mathlib.Data.List.Basic
import TagAudit.Text.Basic

/-! The lines of a text. -/

namespace TagAudit.Text

theorem linesWithEnds_eq_nil {cs : List Char} (empty : linesWithEnds cs = []) : cs = [] := by
  cases cs with
  | nil => rfl
  | cons c rest =>
      simp only [linesWithEnds] at empty
      split at empty
      · simp at empty
      · split at empty <;> simp at empty

theorem linesWithEnds_concat (cs : List Char) (b : Char) :
    linesWithEnds (cs ++ [b]) = linesWithEnds cs ++ [[b]] ∨
      ∃ above line, '\n' ∉ line ∧ linesWithEnds cs = above ++ [line] ∧
        linesWithEnds (cs ++ [b]) = above ++ [line ++ [b]] := by
  induction cs with
  | nil =>
      left
      by_cases newline : b = '\n' <;> simp [linesWithEnds, newline]
  | cons c rest induction =>
      by_cases newline : c = '\n'
      · rcases induction with apart | ⟨above, line, single, before, joined⟩
        · exact .inl (by simp [linesWithEnds, newline, apart])
        · exact .inr ⟨['\n'] :: above, line, single, by simp [linesWithEnds, newline, before],
            by simp [linesWithEnds, newline, joined]⟩
      · have other : '\n' ≠ c := Ne.symm newline
        rcases induction with apart | ⟨above, line, single, before, joined⟩
        · cases first : linesWithEnds rest with
          | nil =>
              refine .inr ⟨[], [c], by simpa using other, ?_, ?_⟩
              · simp [linesWithEnds, newline, first]
              · simp [linesWithEnds, newline, apart, first]
          | cons line more =>
              exact .inl (by simp [linesWithEnds, newline, apart, first])
        · cases above with
          | nil =>
              refine .inr ⟨[], c :: line, by simp [other, single], ?_, ?_⟩
              · simp [linesWithEnds, newline, before]
              · simp [linesWithEnds, newline, joined]
          | cons first above =>
              refine .inr ⟨(c :: first) :: above, line, single, ?_, ?_⟩
              · simp [linesWithEnds, newline, before]
              · simp [linesWithEnds, newline, joined]

theorem linesWithEnds_append_newline (a b : List Char) :
    linesWithEnds (a ++ '\n' :: b) = linesWithEnds (a ++ ['\n']) ++ linesWithEnds b := by
  induction a with
  | nil => simp [linesWithEnds]
  | cons c a induction =>
      simp only [List.cons_append, linesWithEnds, induction]
      split
      · rfl
      · cases first : linesWithEnds (a ++ ['\n']) with
        | nil => simpa using linesWithEnds_eq_nil first
        | cons line more => rfl

theorem linesWithEnds_concat_newline {line : List Char} (single : '\n' ∉ line) :
    linesWithEnds (line ++ ['\n']) = [line ++ ['\n']] := by
  induction line with
  | nil => rfl
  | cons c line induction =>
      rw [List.mem_cons, not_or] at single
      obtain ⟨other, single⟩ := single
      rw [List.cons_append, linesWithEnds, if_neg (Ne.symm other), induction single]

theorem joinLines_append {above : List (List Char)} (some : above ≠ [])
    (below : List (List Char)) :
    joinLines (above ++ below) =
      joinLines above ++ if below = [] then [] else '\n' :: joinLines below := by
  induction above with
  | nil => exact absurd rfl some
  | cons line above induction =>
      cases above with
      | nil => cases below <;> simp [joinLines, List.intercalate]
      | cons next above =>
          have step := induction (by simp)
          simp only [joinLines, List.intercalate, List.cons_append] at step ⊢
          simp [step]

theorem joinLines_concat_nil (parts : List (List Char)) :
    ∃ blanks, joinLines (parts ++ [[]]) = joinLines parts ++ blanks ∧
      ∀ c ∈ blanks, isBlank c = true := by
  by_cases some : parts = []
  · exact ⟨[], by simp [some, joinLines], by simp⟩
  · exact ⟨['\n'], joinLines_append some [[]], List.forall_mem_singleton.mpr rfl⟩

/-- Empty lines in between add their line feeds. -/
theorem joinLines_append_empties {above : List (List Char)} (some : above ≠ []) (n : Nat)
    (below : List (List Char)) :
    joinLines (above ++ (List.replicate n [] ++ below)) =
      joinLines above ++
        (List.replicate n '\n' ++ if below = [] then [] else '\n' :: joinLines below) := by
  induction n generalizing above with
  | zero => exact joinLines_append some below
  | succ n induction =>
      have longer := joinLines_append some [[]]
      have shifted := induction (show above ++ [[]] ≠ [] by simp)
      rw [longer] at shifted
      simpa [List.replicate_succ, joinLines] using shifted

def EndsLine (cs : List Char) : Prop :=
  cs = [] ∨ ∃ front, cs = front ++ ['\n']

theorem EndsLine.of_append {a b : List Char} (ends : EndsLine (a ++ b)) (shown : b ≠ []) :
    ∃ front, b = front ++ ['\n'] := by
  rcases List.eq_nil_or_concat' b with rfl | ⟨front, c, rfl⟩
  · exact absurd rfl shown
  · rcases ends with empty | ⟨other, same⟩
    · simp at empty
    · rw [← List.append_assoc] at same
      obtain ⟨-, last⟩ := List.append_inj' same rfl
      exact ⟨front, by rw [last]⟩

theorem EndsLine.right {a b : List Char} (ends : EndsLine (a ++ b)) : EndsLine b := by
  by_cases empty : b = []
  · exact .inl empty
  · exact .inr (ends.of_append empty)

theorem EndsLine.append {a b : List Char} (first : EndsLine a) (second : EndsLine b) :
    EndsLine (a ++ b) := by
  rcases second with rfl | ⟨front, rfl⟩
  · rwa [List.append_nil]
  · exact .inr ⟨a ++ front, (List.append_assoc _ _ _).symm⟩

/-- Two texts that meet between two lines, or of which one is empty. -/
def Apart (a b : List Char) : Prop :=
  EndsLine a ∨ b = [] ∨ ∃ rest, b = '\n' :: rest

theorem Apart.right {a b rest : List Char} (apart : Apart (a ++ b) rest) : Apart b rest :=
  apart.imp_left EndsLine.right

theorem linesWithEnds_cons {cs line : List Char} {more : List (List Char)}
    (split : linesWithEnds cs = line :: more) :
    ∃ below, cs = line ++ below ∧ linesWithEnds below = more ∧
      ((∃ front, line = front ++ ['\n']) ∨ below = []) := by
  induction cs generalizing line more with
  | nil => simp [linesWithEnds] at split
  | cons c rest induction =>
      by_cases newline : c = '\n'
      · simp only [linesWithEnds, newline, if_true, List.cons.injEq] at split
        exact ⟨rest, by simp [newline, ← split.1], split.2, .inl ⟨[], split.1.symm⟩⟩
      · simp only [linesWithEnds, newline, if_false] at split
        cases first : linesWithEnds rest with
        | nil =>
            simp only [first, List.cons.injEq] at split
            have empty := linesWithEnds_eq_nil first
            exact ⟨[], by simp [empty, ← split.1], by simp [linesWithEnds, split.2], .inr rfl⟩
        | cons next others =>
            simp only [first, List.cons.injEq] at split
            obtain ⟨below, whole, lines, ends⟩ := induction first
            refine ⟨below, by simp [whole, ← split.1], lines.trans split.2, ends.imp_left ?_⟩
            rintro ⟨front, rfl⟩
            exact ⟨c :: front, by simp [← split.1]⟩

end TagAudit.Text
