import Mathlib.Data.List.Basic
import TagAudit.Text.Basic

/-! Texts that are split at a character. -/

namespace TagAudit.Text

theorem splitAt?_eq_some_iff {c : Char} {cs before after : List Char} :
    splitAt? c cs = some (before, after) ↔ cs = before ++ c :: after ∧ c ∉ before := by
  induction cs generalizing before with
  | nil => simp [splitAt?]
  | cons d rest induction =>
      by_cases same : d = c
      · subst same
        cases before with
        | nil => simp [splitAt?]
        | cons e before =>
            simp only [splitAt?, if_true, Option.some.injEq, Prod.mk.injEq, List.nil_eq,
              List.cons_append, List.cons.injEq, List.mem_cons, not_or]
            grind
      · cases before with
        | nil => simp [splitAt?, same]
        | cons e before =>
            simp only [splitAt?, same, if_false, Option.map_eq_some_iff, Prod.exists,
              Prod.mk.injEq, List.cons.injEq, List.cons_append, List.mem_cons, not_or]
            grind

theorem splitAt?_eq (c : Char) (cs : List Char) :
    splitAt? c cs =
      if c ∈ cs then some (cs.takeWhile (· ≠ c), (cs.dropWhile (· ≠ c)).drop 1) else none := by
  induction cs with
  | nil => rfl
  | cons d rest induction =>
      by_cases same : d = c
      · simp [splitAt?, same]
      · rw [splitAt?, if_neg same, induction]
        by_cases later : c ∈ rest <;> simp [later, same, Ne.symm same]

theorem splitOn_ne_nil (c : Char) (cs : List Char) : splitOn c cs ≠ [] := by
  cases cs with
  | nil => simp [splitOn]
  | cons d rest =>
      rw [splitOn]
      split
      · simp
      · split <;> simp

theorem length_splitOn_le (c : Char) (cs : List Char) : (splitOn c cs).length ≤ cs.length + 1 := by
  induction cs with
  | nil => simp [splitOn]
  | cons d cs induction =>
      rw [splitOn, List.length_cons]
      split
      · simpa using induction
      · cases pieces : splitOn c cs with
        | nil => simp
        | cons first more =>
            rw [pieces] at induction
            simp only [List.length_cons] at induction ⊢
            omega

theorem splitOn_append (c : Char) (a b : List Char) :
    splitOn c (a ++ c :: b) = splitOn c a ++ splitOn c b := by
  induction a with
  | nil => simp [splitOn]
  | cons d a induction =>
      rw [List.cons_append, splitOn, splitOn, induction]
      split
      · rfl
      · cases first : splitOn c a with
        | nil => exact absurd first (splitOn_ne_nil c a)
        | cons part parts => rfl

theorem splitOn_of_not_mem {c : Char} {cs : List Char} (whole : c ∉ cs) : splitOn c cs = [cs] := by
  induction cs with
  | nil => rfl
  | cons d cs induction =>
      simp only [List.mem_cons, not_or] at whole
      rw [splitOn, if_neg (Ne.symm whole.1), induction whole.2]

theorem mem_splitOn {c : Char} {cs piece : List Char} (member : piece ∈ splitOn c cs) :
    c ∉ piece ∧ piece ⊆ cs := by
  induction cs generalizing piece with
  | nil => simp_all [splitOn]
  | cons d cs induction =>
      rw [splitOn] at member
      split at member
      next =>
        rcases List.mem_cons.mp member with rfl | later
        · simp
        · exact (induction later).imp_right fun within => List.subset_cons_of_subset d within
      next other =>
        cases pieces : splitOn c cs with
        | nil => exact absurd pieces (splitOn_ne_nil c cs)
        | cons first pieces' =>
            rw [pieces] at member
            obtain ⟨whole, within⟩ := induction (pieces ▸ List.mem_cons_self)
            rcases List.mem_cons.mp member with rfl | later
            · refine ⟨fun inside => ?_, List.cons_subset_cons d within⟩
              rcases List.mem_cons.mp inside with same | inside
              · exact other same.symm
              · exact whole inside
            · have later : piece ∈ splitOn c cs := pieces ▸ List.mem_cons_of_mem first later
              exact (induction later).imp_right fun within => List.subset_cons_of_subset d within

theorem getLast?_splitOn {c last : Char} {cs : List Char} (other : last ≠ c) :
    (splitOn c (cs ++ [last])).getLast? ≠ some [] := by
  by_cases inside : c ∈ cs
  · obtain ⟨piece, rest, same, whole⟩ := List.eq_append_cons_of_mem inside
    rw [same, List.append_assoc, List.cons_append, splitOn_append,
      List.getLast?_append_of_ne_nil _ (splitOn_ne_nil c _)]
    exact getLast?_splitOn other
  · rw [splitOn_of_not_mem (by simp [inside, other.symm])]
    simp
termination_by cs.length
decreasing_by
  rw [same, List.length_append, List.length_cons]
  omega

end TagAudit.Text
