import Mathlib.Data.List.Basic

/-! Lists in the strict order of a comparison, and what dropping repetitions makes of a sorted
list. -/

namespace TagAudit

open Std

variable {α : Type} {r : α → α → Bool}

theorem eraseRepsBy_cons_cons (r : α → α → Bool) (a b : α) (rest : List α) :
    (a :: b :: rest).eraseRepsBy r =
      if r a b then (a :: rest).eraseRepsBy r else a :: (b :: rest).eraseRepsBy r := by
  have loop (a : α) (rest kept : List α) :
      List.eraseRepsBy.loop r a rest kept = kept.reverse ++ List.eraseRepsBy.loop r a rest [] := by
    induction rest generalizing a kept with
    | nil => simp [List.eraseRepsBy.loop]
    | cons b rest induction =>
        rw [List.eraseRepsBy.loop, List.eraseRepsBy.loop]
        cases r a b with
        | true => exact induction a kept
        | false =>
            rw [induction b (a :: kept), induction b [a]]
            simp
  simp only [List.eraseRepsBy, List.eraseRepsBy.loop]
  cases r a b with
  | true => rfl
  | false => exact loop b rest [a]

theorem eraseRepsBy_subset (as : List α) : as.eraseRepsBy r ⊆ as := by
  match as with
  | [] => simp [List.eraseRepsBy]
  | [a] => simp [List.eraseRepsBy, List.eraseRepsBy.loop]
  | a :: b :: rest =>
      rw [eraseRepsBy_cons_cons]
      split
      · intro c member
        exact List.cons_subset_cons a (List.subset_cons_self b rest)
          (eraseRepsBy_subset (a :: rest) member)
      · exact List.cons_subset_cons a (eraseRepsBy_subset (b :: rest))

/-! What a search comes upon first stays where it was. -/

theorem find?_eraseRepsBy {p : α → Bool} (alike : ∀ a b, r a b → p a = p b) (as : List α) :
    (as.eraseRepsBy r).find? p = as.find? p := by
  match as with
  | [] => simp [List.eraseRepsBy]
  | [a] => simp [List.eraseRepsBy, List.eraseRepsBy.loop]
  | a :: b :: rest =>
      rw [eraseRepsBy_cons_cons]
      split
      next same =>
        rw [find?_eraseRepsBy alike (a :: rest), List.find?_cons, List.find?_cons, List.find?_cons,
          ← alike a b same]
        cases p a <;> rfl
      next => rw [List.find?_cons, find?_eraseRepsBy alike (b :: rest), ← List.find?_cons]

/-- Sorting keeps the order of members that are all alike. -/
theorem find?_mergeSort {le : α → α → Bool} (trans : ∀ a b c, le a b → le b c → le a c)
    (total : ∀ a b, le a b || le b a) {p : α → Bool} (alike : ∀ a b, p a → p b → le a b)
    (as : List α) : (as.mergeSort le).find? p = as.find? p := by
  have sorted : (as.filter p).Pairwise fun a b => le a b := by
    refine List.pairwise_of_forall_mem_list fun a member b member' => ?_
    exact alike a b (List.mem_filter.mp member).2 (List.mem_filter.mp member').2
  have within := (List.sublist_mergeSort trans total sorted List.filter_sublist).filter p
  simp only [List.filter_filter, Bool.and_self] at within
  rw [← List.head?_filter, ← List.head?_filter, within.eq_of_length]
  exact ((List.mergeSort_perm as le).filter p).length_eq.symm

theorem findSome?_filter {β : Type} {p : α → Bool} {f : α → Option β}
    (none : ∀ a, p a = false → f a = none) (as : List α) :
    (as.filter p).findSome? f = as.findSome? f := by
  induction as with
  | nil => rfl
  | cons a as induction =>
      cases kept : p a with
      | true =>
          rw [List.filter_cons_of_pos kept, List.findSome?_cons, List.findSome?_cons, induction]
      | false =>
          rw [List.filter_cons_of_neg (by simp [kept]), List.findSome?_cons, none a kept, induction]

theorem findSome?_eraseDups {β : Type} [BEq α] [LawfulBEq α] (f : α → Option β) (as : List α) :
    as.eraseDups.findSome? f = as.findSome? f := by
  match as with
  | [] => rfl
  | a :: rest =>
      rw [List.eraseDups_cons, List.findSome?_cons, List.findSome?_cons, findSome?_eraseDups]
      cases found : f a with
      | some b => rfl
      | none =>
          refine findSome?_filter (fun b repeated => ?_) rest
          rw [Bool.not_eq_false', beq_iff_eq] at repeated
          rw [repeated, found]
termination_by as.length
decreasing_by exact Nat.lt_succ_of_le (List.length_filter_le _ _)

variable (cmp : α → α → Ordering) [TransCmp cmp]

/-- What is left out has its like before it. -/
theorem exists_mem_eraseRepsBy {as : List α} {a : α} (member : a ∈ as) :
    ∃ kept ∈ as.eraseRepsBy fun a b => cmp a b = .eq, cmp kept a = .eq := by
  match as with
  | [first] =>
      rw [List.mem_singleton.mp member]
      exact ⟨first, by simp [List.eraseRepsBy, List.eraseRepsBy.loop], ReflCmp.compare_self⟩
  | first :: second :: rest =>
      rw [eraseRepsBy_cons_cons]
      split
      next same =>
        rcases List.mem_cons.mp member with rfl | later
        · exact exists_mem_eraseRepsBy List.mem_cons_self
        · rcases List.mem_cons.mp later with rfl | later
          · have member : first ∈ first :: rest := List.mem_cons_self
            obtain ⟨kept, among, like⟩ := exists_mem_eraseRepsBy member
            exact ⟨kept, among, TransCmp.eq_trans like (of_decide_eq_true same)⟩
          · exact exists_mem_eraseRepsBy (List.mem_cons_of_mem first later)
      next =>
        rcases List.mem_cons.mp member with rfl | later
        · exact ⟨a, List.mem_cons_self, ReflCmp.compare_self⟩
        · obtain ⟨kept, among, like⟩ := exists_mem_eraseRepsBy later
          exact ⟨kept, List.mem_cons_of_mem first among, like⟩

theorem pairwise_eraseRepsBy {as : List α} (sorted : as.Pairwise fun a b => (cmp a b).isLE) :
    (as.eraseRepsBy fun a b => cmp a b = .eq).Pairwise fun a b => cmp a b = .lt := by
  match as with
  | [] => simp [List.eraseRepsBy]
  | [a] => simp [List.eraseRepsBy, List.eraseRepsBy.loop]
  | a :: b :: rest =>
      have rows := List.pairwise_cons.mp sorted
      rw [eraseRepsBy_cons_cons]
      split
      · exact pairwise_eraseRepsBy
          (sorted.sublist (List.Sublist.cons_cons a (List.sublist_cons_self b rest)))
      next differ =>
        refine List.pairwise_cons.mpr ⟨fun c member => ?_, pairwise_eraseRepsBy rows.2⟩
        have first : cmp a b = .lt := by
          have below := rows.1 b List.mem_cons_self
          cases order : cmp a b <;> simp_all
        rcases List.mem_cons.mp (eraseRepsBy_subset _ member) with rfl | later
        · exact first
        · exact TransCmp.lt_of_lt_of_isLE first ((List.pairwise_cons.mp rows.2).1 c later)

theorem eq_of_mem_of_pairwise_lt {as : List α} (sorted : as.Pairwise fun a b => cmp a b = .lt)
    {a b : α} (first : a ∈ as) (second : b ∈ as) (alike : cmp a b = .eq) : a = b := by
  induction sorted with
  | nil => cases first
  | cons below _ induction =>
      have swap : cmp b a = (cmp a b).swap := OrientedCmp.eq_swap
      rw [alike] at swap
      rcases List.mem_cons.mp first with rfl | later
      · rcases List.mem_cons.mp second with rfl | behind
        · rfl
        · rw [below b behind] at alike
          cases alike
      · rcases List.mem_cons.mp second with rfl | behind
        · rw [below a later] at swap
          cases swap
        · exact induction later behind

theorem eq_of_pairwise_lt {as bs : List α} (first : as.Pairwise fun a b => cmp a b = .lt)
    (second : bs.Pairwise fun a b => cmp a b = .lt) (same : ∀ a, a ∈ as ↔ a ∈ bs) : as = bs := by
  have nodup {as : List α} (sorted : as.Pairwise fun a b => cmp a b = .lt) : as.Nodup := by
    refine sorted.imp fun {a b} less equal => ?_
    have alike : cmp a a = .eq := ReflCmp.compare_self
    rw [← equal, alike] at less
    cases less
  refine List.Perm.eq_of_pairwise ?_ first second
    ((List.perm_ext_iff_of_nodup (nodup first) (nodup second)).mpr same)
  intro a b _ _ less greater
  have swap : cmp a b = (cmp b a).swap := OrientedCmp.eq_swap
  rw [swap, greater] at less
  cases less

end TagAudit
