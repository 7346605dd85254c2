import TagAudit.Repair
import TagAudit.Proofs.List.Strict
import TagAudit.Proofs.List.Traversal
import TagAudit.Proofs.Text.Offsets

/-! Edits in their order, and what a text becomes when they are made. -/

namespace TagAudit

open Text

namespace Edit

private theorem compare_eq :
    Edit.compare = compareLex (compareOn Edit.offset) (compareOn Edit.text) := rfl

instance : Std.TransCmp Edit.compare := by
  rw [compare_eq]
  infer_instance

instance : Std.LawfulEqCmp Edit.compare where
  eq_of_compare {a b} same := by
    obtain ⟨offset, text⟩ := a
    obtain ⟨otherOffset, otherText⟩ := b
    simp only [Edit.compare, Ordering.then_eq_eq, Std.LawfulEqCmp.compare_eq_iff_eq] at same
    rw [same.1, same.2]

theorem compare_of_offset_lt {a b : Edit} (before : a.offset < b.offset) :
    a.compare b = .lt := by
  simp [Edit.compare, Nat.compare_eq_lt.mpr before]

theorem compare_swap (a b : Edit) : b.compare a = (a.compare b).swap :=
  Std.OrientedCmp.eq_swap

theorem offset_le_of_compare {a b : Edit} (before : a.compare b = .lt) :
    a.offset ≤ b.offset := by
  by_contra beyond
  have after := compare_of_offset_lt (Nat.lt_of_not_le beyond)
  have swapped := compare_swap a b
  rw [before, after] at swapped
  exact absurd swapped (by decide)

theorem compare_or_compare {a b : Edit} (differ : a ≠ b) :
    a.compare b = .lt ∨ b.compare a = .lt := by
  cases order : a.compare b with
  | lt => exact .inl rfl
  | eq => exact absurd (Std.LawfulEqCmp.eq_of_compare order) differ
  | gt => exact .inr (by rw [compare_swap, order]; rfl)

def Ordered (edits : List Edit) : Prop :=
  edits.Pairwise fun a b => a.compare b = .lt

private theorem total (a b : Edit) : ((a.compare b).isLE || (b.compare a).isLE) = true := by
  rw [compare_swap a b]
  cases a.compare b <;> rfl

private theorem sort_eq (edits : List Edit) :
    sort edits =
      (edits.mergeSort fun a b => (a.compare b).isLE).eraseRepsBy fun a b => a.compare b = .eq := by
  have same : (fun a b : Edit => a == b) = fun a b : Edit => decide (a.compare b = .eq) := by
    funext a b
    rw [beq_eq_decide, decide_eq_decide]
    exact Std.LawfulEqCmp.compare_eq_iff_eq.symm
  rw [sort, List.eraseReps, same]

theorem ordered_sort (edits : List Edit) : Ordered (sort edits) := by
  rw [sort_eq]
  exact pairwise_eraseRepsBy Edit.compare
    (List.pairwise_mergeSort (fun _ _ _ => Std.TransCmp.isLE_trans) total edits)

theorem mem_sort {edit : Edit} {edits : List Edit} : edit ∈ sort edits ↔ edit ∈ edits := by
  rw [sort_eq]
  constructor
  · intro member
    exact List.mem_mergeSort.mp (eraseRepsBy_subset _ member)
  · intro member
    obtain ⟨kept, among, same⟩ :=
      exists_mem_eraseRepsBy Edit.compare (List.mem_mergeSort.mpr member)
    exact Std.LawfulEqCmp.eq_of_compare same ▸ among

theorem sort_congr {edits others : List Edit} (same : ∀ edit, edit ∈ edits ↔ edit ∈ others) :
    sort edits = sort others :=
  eq_of_pairwise_lt Edit.compare (ordered_sort edits) (ordered_sort others) fun edit => by
    rw [mem_sort, mem_sort, same]

theorem sort_of_perm {edits ordered : List Edit} (strict : Ordered ordered)
    (perm : edits.Perm ordered) : sort edits = ordered :=
  eq_of_pairwise_lt Edit.compare (ordered_sort edits) strict fun _ => mem_sort.trans perm.mem_iff

theorem Ordered.insert {front later : List Edit} (ordered : Ordered (front ++ later)) {edit : Edit}
    (before : ∀ other ∈ front, other.compare edit = .lt)
    (behind : ∀ other ∈ later, edit.compare other = .lt) :
    Ordered (front ++ edit :: later) := by
  rw [Ordered, List.pairwise_append] at ordered ⊢
  obtain ⟨first, second, across⟩ := ordered
  refine ⟨first, .cons behind second, fun other member => ?_⟩
  exact List.forall_mem_cons.mpr ⟨before other member, across other member⟩

/-! Making edits part by part. -/

theorem insertFrom_append {edits : List Edit} {pos : Nat} {a : List Char}
    (beyond : ∀ edit ∈ edits, pos + byteSize a ≤ edit.offset) (b : List Char) :
    insertFrom pos edits (a ++ b) = a ++ insertFrom (pos + byteSize a) edits b := by
  cases edits with
  | nil => rfl
  | cons edit later =>
      have offset := beyond edit (by simp)
      have reach : edit.offset - pos = byteSize a + (edit.offset - (pos + byteSize a)) := by
        omega
      simp only [insertFrom, reach, takeBytes_append_add, dropBytes_append_add,
        List.append_assoc]

theorem insertFrom_here (pos : Nat) (edit : Edit) (later : List Edit) (content : List Char)
    (here : edit.offset = pos) :
    insertFrom pos (edit :: later) content =
      edit.text.toList ++ insertFrom pos later content := by
  simp [insertFrom, here]

theorem length_insertFrom (pos : Nat) (edits : List Edit) (content : List Char) :
    (insertFrom pos edits content).length =
      content.length + (edits.flatMap fun edit => edit.text.toList).length := by
  induction edits generalizing pos content with
  | nil => rfl
  | cons edit later induction =>
      have whole := congrArg List.length
        (takeBytes_append_dropBytes (edit.offset - pos) content)
      rw [List.length_append] at whole
      rw [insertFrom, List.length_append, List.length_append, induction, List.flatMap_cons,
        List.length_append]
      omega

end Edit

/-! Repairing a text makes the edits of its repairs in their order. -/

namespace Repair

def edit? (path : Path) (content : List Char) (r : Repair) : Option Edit :=
  (plan path content r).toOption.join

theorem edit?_of_plan {path : Path} {content : List Char} {r : Repair} {found : Option Edit}
    (planned : plan path content r = .ok found) : edit? path content r = found := by
  simp [edit?, planned, Except.toOption]

theorem plan_close_eq_some_iff {path : Path} {content : List Char} {tag : String}
    {openOffset insertOffset : Nat} {edit : Edit} :
    plan path content (.close tag openOffset insertOffset) = .ok (some edit) ↔
      ∃ opening place, Place.find? openOffset content = some opening ∧
        (Place.find? insertOffset content).filter (·.excess = 0) = some place ∧
        edit = ⟨insertOffset, String.ofList (closingLine tag opening place)⟩ := by
  rw [plan]
  cases (Place.find? insertOffset content).filter (·.excess = 0) with
  | none => simp
  | some place =>
      cases Place.find? openOffset content with
      | none => simp
      | some opening => simp [eq_comm]

theorem text_ne_nil_of_plan {path : Path} {content : List Char} {r : Repair} {edit : Edit}
    (planned : plan path content r = .ok (some edit)) : edit.text.toList ≠ [] := by
  cases r with
  | close tag openOffset insertOffset =>
      obtain ⟨opening, place, -, -, rfl⟩ := plan_close_eq_some_iff.mp planned
      simp [closingLine]
  | insertComponent value =>
      simp only [plan, Except.ok.injEq, Option.some.injEq] at planned
      simp [← planned]

theorem mapM_plan {path : Path} {content : List Char} {repairs : List Repair}
    (planned : ∀ r ∈ repairs, ∃ found, plan path content r = .ok found) :
    repairs.mapM (plan path content) = .ok (repairs.map (edit? path content)) := by
  rw [mapM_eq_ok_iff, List.forall₂_map_right_iff, List.forall₂_same]
  intro r member
  obtain ⟨found, here⟩ := planned r member
  rw [here, edit?_of_plan here]

end Repair

open Repair

def editsOf (file : String) (content : List Char) (issues : List Issue) : List Edit :=
  Edit.sort ((issues.filterMap Issue.repair).filterMap (edit? (Path.ofString file) content))

theorem repair_eq {file content : String} {issues : List Issue}
    (planned : ∀ r ∈ issues.filterMap Issue.repair,
      ∃ found, plan (Path.ofString file) content.toList r = .ok found) :
    repair file content issues =
      .ok ⟨String.ofList (Edit.insertAll (editsOf file content.toList issues) content.toList),
        (editsOf file content.toList issues).length⟩ := by
  have found : ((issues.filterMap Issue.repair).map
      (edit? (Path.ofString file) content.toList)).filterMap id =
      (issues.filterMap Issue.repair).filterMap (edit? (Path.ofString file) content.toList) := by
    rw [List.filterMap_map]
    rfl
  rw [repair, mapM_plan planned, editsOf, ← found]
  rfl

theorem repair_of_no_repairs {issues : List Issue} (nothing : issues.filterMap Issue.repair = [])
    (file content : String) : repair file content issues = .ok ⟨content, 0⟩ := by
  rw [repair_eq (by simp [nothing])]
  simp [editsOf, nothing, Edit.sort, Edit.insertAll, Edit.insertFrom, List.eraseReps,
    List.eraseRepsBy]

theorem repair_of_single {file content : String} {issues : List Issue} {r : Repair} {edit : Edit}
    (asked : issues.filterMap Issue.repair = [r])
    (planned : plan (Path.ofString file) content.toList r = .ok (some edit)) :
    repair file content issues =
      .ok ⟨String.ofList (Edit.insertAll [edit] content.toList), 1⟩ := by
  have single : Edit.sort [edit] = [edit] :=
    Edit.sort_of_perm (List.pairwise_singleton _ _) (List.Perm.refl _)
  rw [repair_eq (by simp [asked, planned])]
  simp [editsOf, asked, edit?_of_plan planned, single]

theorem planned_of_repair {file content : String} {issues : List Issue} {repaired : Repaired}
    (done : repair file content issues = .ok repaired) :
    ∀ r ∈ issues.filterMap Issue.repair,
      ∃ found, plan (Path.ofString file) content.toList r = .ok found := by
  simp only [repair, bind, Except.bind] at done
  split at done
  next => simp at done
  next found => exact fun _ member => exists_of_mapM found member

theorem content_eq_iff {file content : String} {issues : List Issue} {repaired : Repaired}
    (done : repair file content issues = .ok repaired) :
    repaired.content = content ↔ repaired.applied = 0 := by
  have planned := planned_of_repair done
  obtain rfl := Except.ok.inj ((repair_eq planned).symm.trans done)
  simp only
  constructor
  · intro same
    have size := congrArg (fun s : String => s.toList.length) same
    simp only [String.toList_ofList, Edit.insertAll, Edit.length_insertFrom] at size
    cases edits : editsOf file content.toList issues with
    | nil => rfl
    | cons edit later =>
        exfalso
        have member : edit ∈ editsOf file content.toList issues := edits ▸ .head _
        obtain ⟨r, asked, makes⟩ := List.mem_filterMap.mp (Edit.mem_sort.mp member)
        obtain ⟨found, plans⟩ := planned r asked
        rw [edit?_of_plan plans] at makes
        have some := List.length_pos_iff.mpr (text_ne_nil_of_plan (makes ▸ plans))
        rw [edits, List.flatMap_cons, List.length_append] at size
        omega
  · intro none
    rw [List.length_eq_zero_iff.mp none, Edit.insertAll, Edit.insertFrom, String.ofList_toList]

end TagAudit
