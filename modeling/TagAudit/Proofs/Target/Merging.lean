import TagAudit.Proofs.List.Strict
import TagAudit.Proofs.Path.Order
import TagAudit.Target.Basic

/-! Merged targets: in the order of their steps, and one for each place that is named. -/

namespace TagAudit

open Std

namespace Target

variable {targets : List Target}

instance : TransCmp fun a b : Target => a.path.compare b.path where
  eq_swap := OrientedCmp.eq_swap
  isLE_trans := TransCmp.isLE_trans

theorem compare_total (a b : Target) :
    (a.path.compare b.path).isLE || (b.path.compare a.path).isLE := by
  have swap : b.path.compare a.path = (a.path.compare b.path).swap := OrientedCmp.eq_swap
  rw [swap]
  cases a.path.compare b.path <;> rfl

theorem merge_subset (targets : List Target) : merge targets ⊆ targets := by
  intro target member
  exact List.mem_mergeSort.mp (eraseRepsBy_subset _ member)

theorem exists_mem_merge {target : Target} (member : target ∈ targets) :
    ∃ kept ∈ merge targets, kept.path.components = target.path.components := by
  obtain ⟨kept, among, like⟩ := exists_mem_eraseRepsBy
    (fun a b : Target => a.path.compare b.path) (List.mem_mergeSort.mpr member)
  exact ⟨kept, among, Path.compare_eq_iff.mp like⟩

theorem pairwise_merge (targets : List Target) :
    (merge targets).Pairwise fun a b => a.path.compare b.path = .lt := by
  refine pairwise_eraseRepsBy (fun a b : Target => a.path.compare b.path) ?_
  exact List.pairwise_mergeSort (fun _ _ _ => TransCmp.isLE_trans) compare_total targets

/-! Of the targets of one place the first is kept. -/

def isAt (steps : List Component) (target : Target) : Bool :=
  target.path.components = steps

@[simp] theorem isAt_iff {steps : List Component} {target : Target} :
    target.isAt steps ↔ target.path.components = steps :=
  decide_eq_true_iff

theorem find?_merge (steps : List Component) (targets : List Target) :
    (merge targets).find? (isAt steps) = targets.find? (isAt steps) := by
  unfold merge
  rw [find?_eraseRepsBy, find?_mergeSort (fun _ _ _ => TransCmp.isLE_trans) compare_total]
  · intro a b first second
    rw [Path.compare_eq_iff.mpr ((isAt_iff.mp first).trans (isAt_iff.mp second).symm)]
    rfl
  · intro a b same
    rw [isAt, isAt, Path.compare_eq_iff.mp (of_decide_eq_true same)]

theorem mem_merge_iff {target : Target} :
    target ∈ merge targets ↔ targets.find? (isAt target.path.components) = some target := by
  rw [← find?_merge]
  constructor
  · intro member
    obtain ⟨kept, found⟩ :
        ∃ kept, (merge targets).find? (isAt target.path.components) = some kept :=
      Option.isSome_iff_exists.mp (List.find?_isSome.mpr ⟨target, member, isAt_iff.mpr rfl⟩)
    rw [found, eq_of_mem_of_pairwise_lt (fun a b : Target => a.path.compare b.path)
      (pairwise_merge targets) (List.mem_of_find?_eq_some found) member
      (Path.compare_eq_iff.mpr (isAt_iff.mp (List.find?_some found)))]
  · exact List.mem_of_find?_eq_some

theorem merge_congr {others : List Target}
    (same : ∀ steps, targets.find? (isAt steps) = others.find? (isAt steps)) :
    merge targets = merge others := by
  refine eq_of_pairwise_lt (fun a b : Target => a.path.compare b.path) (pairwise_merge _)
    (pairwise_merge _) fun target => ?_
  rw [mem_merge_iff, mem_merge_iff, same]

end Target

end TagAudit
