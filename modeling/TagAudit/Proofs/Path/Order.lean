import TagAudit.Proofs.Path.Components

/-! Paths are ordered by their steps, and paths with the same steps are alike in that order. -/

namespace TagAudit

open Std

namespace Component

theorem compare_eq :
    compare = compareLex (compareOn rank) (compareOn fun step => String.ofList step.text) := by
  funext a b
  cases a <;> cases b <;> simp [compare, compareLex, compareOn, rank, text] <;> rfl

instance : TransCmp compare := by
  rw [compare_eq]
  infer_instance

instance : LawfulEqCmp compare where
  eq_of_compare {a b} same := by
    cases a <;> cases b <;> simp_all [compare, rank, String.ofList_inj]

end Component

namespace Path

theorem compareComponents_eq : compareComponents = List.compareLex Component.compare := by
  funext a b
  induction a generalizing b with
  | nil => cases b <;> rfl
  | cons step a induction =>
      cases b with
      | nil => rfl
      | cons other b => rw [compareComponents, List.compareLex_cons_cons, induction]

instance : TransCmp compareComponents := by
  rw [compareComponents_eq]
  infer_instance

instance : LawfulEqCmp compareComponents := by
  rw [compareComponents_eq]
  infer_instance

instance : TransCmp compare where
  eq_swap := by
    intro p q
    exact (inferInstance : OrientedCmp compareComponents).eq_swap
  isLE_trans := by
    intro p q r
    exact (inferInstance : TransCmp compareComponents).isLE_trans

theorem compare_eq_iff {p q : Path} : p.compare q = .eq ↔ p.components = q.components := by
  unfold compare
  exact LawfulEqCmp.compare_eq_iff_eq

theorem compareComponents_append (base a b : List Component) :
    compareComponents (base ++ a) (base ++ b) = compareComponents a b := by
  induction base with
  | nil => rfl
  | cons step base induction =>
      have same : step.compare step = .eq := ReflCmp.compare_self
      rw [List.cons_append, List.cons_append, compareComponents, same, induction]
      rfl

end Path

end TagAudit
