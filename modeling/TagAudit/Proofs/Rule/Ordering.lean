import Mathlib.Order.Compare
import Mathlib.Data.String.Basic
import TagAudit.Issue

/-! The order in which the issues of a file are listed, and what sorting them keeps: leaving
issues out before or after makes no difference, and merging lists that are in order keeps
each of them in its order. -/

namespace TagAudit.Issue

/-- An issue may stand before another: by line, where an issue without a line comes first,
then by rule, then by message. -/
def Precedes (a b : Issue) : Prop :=
  a.line < b.line ∨ a.line = b.line ∧
    (a.rule < b.rule ∨ a.rule = b.rule ∧ a.message ≤ b.message)

instance : Std.TransCmp Issue.compare :=
  inferInstanceAs (Std.TransCmp (compareLex (compareOn Issue.line)
    (compareLex (compareOn Issue.rule) (compareOn Issue.message))))

def before (a b : Issue) : Bool :=
  (a.compare b).isLE

private theorem compare_line_eq_lt {m n : Option Nat} : Ord.compare m n = .lt ↔ m < n := by
  cases m <;> cases n <;> simp [Ord.compare, compareOfLessAndEq_eq_lt]

theorem before_iff {a b : Issue} : before a b = true ↔ a.Precedes b := by
  have message : (Ord.compare a.message b.message).isLE = true ↔ a.message ≤ b.message := by
    rw [Ordering.isLE_iff_ne_gt]
    exact compare_le_iff_le
  rw [before, Issue.compare, Ordering.isLE_then_iff_or, Ordering.isLE_then_iff_or, message,
    compare_line_eq_lt, Std.compare_eq_iff_eq, Std.compare_eq_iff_eq, compare_lt_iff_lt, Precedes]

theorem before_trans (a b c : Issue) (first : before a b = true) (second : before b c = true) :
    before a c = true :=
  Std.TransCmp.isLE_trans first second

theorem before_total (a b : Issue) : (before a b || before b a) = true := by
  rw [before, before, show b.compare a = (a.compare b).swap from Std.OrientedCmp.eq_swap]
  cases a.compare b <;> rfl

theorem pairwise_sort (issues : List Issue) : (sort issues).Pairwise (before · ·) :=
  List.pairwise_mergeSort before_trans before_total issues

/-! An issue parts a list that is in order: those that come before it, and those that it may
stand before. -/

theorem exists_sort_cons (issue : Issue) (issues : List Issue) :
    ∃ above below, sort (issue :: issues) = above ++ issue :: below ∧
      sort issues = above ++ below ∧ (∀ other ∈ above, before issue other = false) ∧
      ∀ other ∈ below, before issue other = true := by
  obtain ⟨above, below, sorted, rest, small⟩ :=
    List.mergeSort_cons before_trans before_total issue issues
  have order := pairwise_sort (issue :: issues)
  rw [show sort (issue :: issues) = above ++ issue :: below from sorted,
    List.pairwise_append, List.pairwise_cons] at order
  exact ⟨above, below, sorted, rest, fun other member => by simpa using small other member,
    order.2.1.1⟩

private theorem parts_eq {p : Issue → Bool} {above below above' below' : List Issue}
    (same : above ++ below = above' ++ below') (small : ∀ issue ∈ above, p issue = false)
    (large : ∀ issue ∈ below, p issue = true) (small' : ∀ issue ∈ above', p issue = false)
    (large' : ∀ issue ∈ below', p issue = true) : above = above' ∧ below = below' := by
  have kept {front back : List Issue} (small : ∀ issue ∈ front, p issue = false)
      (large : ∀ issue ∈ back, p issue = true) : (front ++ back).filter p = back := by
    rw [List.filter_append, List.filter_eq_nil_iff.mpr (by simpa using small),
      List.filter_eq_self.mpr large, List.nil_append]
  obtain rfl : below = below' := by
    rw [← kept small large, same, kept small' large']
  exact ⟨List.append_cancel_right same, rfl⟩

theorem filter_sort (p : Issue → Bool) (issues : List Issue) :
    (sort issues).filter p = sort (issues.filter p) := by
  induction issues with
  | nil => simp [sort]
  | cons issue rest induction =>
      obtain ⟨above, below, sorted, split, small, large⟩ := exists_sort_cons issue rest
      rw [split, List.filter_append] at induction
      rw [sorted, List.filter_append]
      cases kept : p issue with
      | false => simpa [kept] using induction
      | true =>
          obtain ⟨above', below', sorted', split', small', large'⟩ :=
            exists_sort_cons issue (rest.filter p)
          obtain ⟨rfl, rfl⟩ := parts_eq (induction.trans split')
            (fun other member => small other (List.mem_of_mem_filter member))
            (fun other member => large other (List.mem_of_mem_filter member)) small' large'
          simp [kept, sorted']

/-! Merging. -/

variable {xs ys xs' ys' : List Issue}

private theorem merge_append_left (apart : ∀ b ∈ ys, ∀ a ∈ xs, before a b = false) :
    xs.merge (ys ++ ys') before = ys ++ xs.merge ys' before := by
  induction ys with
  | nil => rfl
  | cons b ys induction =>
      obtain ⟨first, later⟩ := List.forall_mem_cons.mp apart
      cases xs with
      | nil => simp
      | cons a xs =>
          have behind := first a (.head _)
          rw [List.cons_append, List.cons_merge_cons_neg _ _ _ (by simp [behind]),
            induction later, List.cons_append]

private theorem merge_append_right (apart : ∀ a ∈ xs, ∀ b ∈ ys, before a b = true) :
    (xs ++ xs').merge ys before = xs ++ xs'.merge ys before := by
  induction xs with
  | nil => rfl
  | cons a xs induction =>
      obtain ⟨first, later⟩ := List.forall_mem_cons.mp apart
      cases ys with
      | nil => simp
      | cons b ys =>
          rw [List.cons_append, List.cons_merge_cons_pos _ _ _ (first b (.head _)),
            induction later, List.cons_append]

/-- Lists are merged part by part when what stands above in either comes before what stands
below in the other. -/
theorem merge_append (right : ∀ a ∈ xs, ∀ b ∈ ys', before a b = true)
    (left : ∀ b ∈ ys, ∀ a ∈ xs', before a b = false) :
    (xs ++ xs').merge (ys ++ ys') before = xs.merge ys before ++ xs'.merge ys' before := by
  fun_induction List.merge xs ys before with
  | case1 ys => exact merge_append_left left
  | case2 xs => exact merge_append_right right
  | case3 a xs b ys first induction =>
      have later : ∀ a ∈ xs, ∀ b ∈ ys', before a b = true :=
        fun a member => right a (.tail _ member)
      rw [List.cons_append, List.cons_append, List.cons_merge_cons_pos _ _ _ first,
        ← List.cons_append, induction later left, List.cons_append]
  | case4 a xs b ys first induction =>
      have later : ∀ b ∈ ys, ∀ a ∈ xs', before a b = false :=
        fun b member => left b (.tail _ member)
      rw [List.cons_append, List.cons_append, List.cons_merge_cons_neg _ _ _ first,
        ← List.cons_append, induction right later, List.cons_append]

theorem sort_append (xs ys : List Issue) : sort (xs ++ ys) = (sort xs).merge (sort ys) before := by
  induction xs with
  | nil => simp [sort]
  | cons issue xs induction =>
      obtain ⟨above, below, sorted, split, small, large⟩ := exists_sort_cons issue (xs ++ ys)
      obtain ⟨xs₁, xs₂, sortedX, splitX, smallX, largeX⟩ := exists_sort_cons issue xs
      obtain ⟨ys₁, ys₂, -, splitY, smallY, largeY⟩ := exists_sort_cons issue ys
      have right : ∀ a ∈ xs₁, ∀ b ∈ ys₂, before a b = true := by
        intro a memberA b memberB
        have first := before_total issue a
        rw [smallX a memberA, Bool.false_or] at first
        exact before_trans a issue b first (largeY b memberB)
      have left : ∀ b ∈ ys₁, ∀ a ∈ issue :: xs₂, before a b = false := by
        intro b memberB
        refine List.forall_mem_cons.mpr ⟨smallY b memberB, fun a memberA => ?_⟩
        rw [← Bool.not_eq_true]
        intro first
        simpa [smallY b memberB] using before_trans issue a b (largeX a memberA) first
      -- the new issue goes between the parts above and below it, before the merge and after it
      have merged : (issue :: xs₂).merge ys₂ before = issue :: xs₂.merge ys₂ before :=
        merge_append_right (List.forall_mem_singleton.mpr largeY)
      rw [splitX, splitY,
        merge_append right fun b member a later => left b member a (.tail _ later),
        split] at induction
      obtain ⟨rfl, rfl⟩ := parts_eq induction small large
        (fun other member => (List.mem_merge.mp member).elim (smallX other) (smallY other))
        (fun other member => (List.mem_merge.mp member).elim (largeX other) (largeY other))
      rw [List.cons_append, sorted, sortedX, splitY, merge_append right left, merged]

theorem sort_flatMap {α : Type} (keys : List α) (issues : α → List Issue) :
    sort (keys.flatMap issues) =
      (keys.map fun key => sort (issues key)).foldr (List.merge · · before) [] := by
  induction keys with
  | nil => exact List.mergeSort_nil
  | cons key keys induction =>
      rw [List.flatMap_cons, sort_append, induction, List.map_cons, List.foldr_cons]

end TagAudit.Issue
