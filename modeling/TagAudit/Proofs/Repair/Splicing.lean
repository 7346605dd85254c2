import TagAudit.Proofs.Repair.Planning

/-! What a text becomes when its edits are made: the parts between the places of the edits, in
order, with the text of an edit at every place.  Making the edits one by one, the last one first,
comes to the same, since an edit moves only what stands behind it. -/

namespace TagAudit

open Text

namespace Edit

/-- `result` is what stands from byte `pos` on, once `edits` are made in order: up to the place of
an edit the text is kept, and there the text of the edit is added. -/
inductive Spliced : Nat → List Edit → List Char → List Char → Prop
  | rest (pos : Nat) (cs : List Char) : Spliced pos [] cs cs
  | edit {pos : Nat} {part below result : List Char} {edit : Edit} {later : List Edit}
      (reach : edit.offset = pos + byteSize part)
      (behind : Spliced edit.offset later below result) :
      Spliced pos (edit :: later) (part ++ below) (part ++ (edit.text.toList ++ result))

def insert (edit : Edit) (cs : List Char) : List Char :=
  takeBytes edit.offset cs ++ (edit.text.toList ++ dropBytes edit.offset cs)

def remove (cs : List Char) (edit : Edit) : List Char :=
  takeBytes edit.offset cs ++ dropBytes (edit.offset + byteSize edit.text.toList) cs

theorem insert_append {edit : Edit} {front : List Char} (here : edit.offset = byteSize front)
    (cs : List Char) : edit.insert (front ++ cs) = front ++ (edit.text.toList ++ cs) := by
  rw [insert, here, takeBytes_append, dropBytes_append]

theorem remove_append {edit : Edit} {front : List Char} (here : edit.offset = byteSize front)
    (cs : List Char) : remove (front ++ (edit.text.toList ++ cs)) edit = front ++ cs := by
  rw [remove, here, takeBytes_append, dropBytes_append_add, dropBytes_append]

theorem Ordered.offset_le {edits : List Edit} (ordered : Ordered edits) :
    edits.Pairwise fun a b => a.offset ≤ b.offset :=
  ordered.imp offset_le_of_compare

theorem spliced_insertFrom (front : List Char) {edits : List Edit} {cs : List Char}
    (ordered : edits.Pairwise fun a b => a.offset ≤ b.offset)
    (reached : ∀ edit ∈ edits, byteSize front ≤ edit.offset)
    (between : ∀ edit ∈ edits, IsBoundary (front ++ cs) edit.offset) :
    Spliced (byteSize front) edits cs (insertFrom (byteSize front) edits cs) := by
  induction edits generalizing front cs with
  | nil => exact .rest _ _
  | cons edit later induction =>
      obtain ⟨beyond, ordered⟩ := List.pairwise_cons.mp ordered
      obtain ⟨here, reached⟩ := List.forall_mem_cons.mp reached
      obtain ⟨boundary, between⟩ := List.forall_mem_cons.mp between
      obtain ⟨above, below, whole, offset⟩ := boundary
      obtain ⟨part, rfl, rfl⟩ := prefix_of_byteSize_le whole (offset ▸ here)
      have split : front ++ (part ++ below) = (front ++ part) ++ below :=
        (List.append_assoc _ _ _).symm
      have behind : Spliced (byteSize (front ++ part)) later below
          (insertFrom (byteSize (front ++ part)) later below) :=
        induction (front ++ part) ordered (fun other member => offset ▸ beyond other member)
          (fun other member => split ▸ between other member)
      rw [byteSize_append] at offset behind
      have reach : edit.offset - byteSize front = byteSize part := by omega
      rw [insertFrom, reach, takeBytes_append, dropBytes_append, List.append_assoc, offset]
      rw [← offset] at behind ⊢
      exact .edit offset behind

namespace Spliced

variable {pos : Nat} {edits : List Edit} {below result front : List Char}

theorem foldr_insert (spliced : Spliced pos edits below result) (size : byteSize front = pos) :
    edits.foldr insert (front ++ below) = front ++ result := by
  induction spliced generalizing front with
  | rest pos cs => rfl
  | @edit pos part below result edit later reach behind induction =>
      have here : edit.offset = byteSize (front ++ part) := by rw [reach, byteSize_append, size]
      rw [List.foldr_cons, ← List.append_assoc, induction here.symm, insert_append here,
        List.append_assoc]

/-- When its turn comes, an edit is made between two characters of what the text is by then. -/
theorem isBoundary_foldr (spliced : Spliced pos edits below result) (size : byteSize front = pos) :
    ∀ edit later, edit :: later <:+ edits →
      IsBoundary (later.foldr insert (front ++ below)) edit.offset := by
  induction spliced generalizing front with
  | rest pos cs => simp
  | @edit pos part below result edit later reach behind induction =>
      have here : edit.offset = byteSize (front ++ part) := by rw [reach, byteSize_append, size]
      intro other rest ends
      rw [← List.append_assoc]
      rcases List.suffix_cons_iff.mp ends with same | further
      · obtain ⟨rfl, rfl⟩ := List.cons.inj same
        rw [behind.foldr_insert here.symm, here]
        exact isBoundary_append _ _
      · exact induction here.symm other rest further

/-- Taking the texts of the edits out again, from the first to the last. -/
theorem foldl_remove (spliced : Spliced pos edits below result) (size : byteSize front = pos) :
    edits.foldl remove (front ++ result) = front ++ below := by
  induction spliced generalizing front with
  | rest pos cs => rfl
  | @edit pos part below result edit later reach behind induction =>
      have here : edit.offset = byteSize (front ++ part) := by rw [reach, byteSize_append, size]
      rw [List.foldl_cons, ← List.append_assoc, remove_append here, induction here.symm,
        List.append_assoc]

end Spliced

def written (edits : List Edit) : List Char :=
  edits.flatMap fun edit => edit.text.toList

/-- Where byte `offset` of a text stands once the edits are made. -/
def shifted (edits : List Edit) (offset : Nat) : Nat :=
  offset + byteSize (written (edits.filter (·.offset ≤ offset)))

theorem shifted_append {before behind : List Edit} {offset : Nat}
    (made : ∀ edit ∈ before, edit.offset ≤ offset) (later : ∀ edit ∈ behind, offset < edit.offset) :
    shifted (before ++ behind) offset = offset + byteSize (written before) := by
  rw [shifted, List.filter_append, List.filter_eq_self.mpr (by simpa using made),
    List.filter_eq_nil_iff.mpr (by simpa using later), List.append_nil]

theorem shifted_of_lt {edit : Edit} {offset : Nat} (later : offset < edit.offset) :
    shifted [edit] offset = offset :=
  by simp [shifted, written, Nat.not_le.mpr later]

theorem shifted_of_le {edit : Edit} {offset : Nat} (made : edit.offset ≤ offset) :
    shifted [edit] offset = offset + byteSize edit.text.toList := by
  simp [shifted, written, made]

end Edit

open Repair

variable {file content : String} {issues : List Issue}

theorem mem_editsOf {cs : List Char} {edit : Edit} :
    edit ∈ editsOf file cs issues ↔
      ∃ issue ∈ issues, ∃ r ∈ issue.repair, plan (Path.ofString file) cs r = .ok (some edit) := by
  have planned (r : Repair) : edit? (Path.ofString file) cs r = some edit ↔
      plan (Path.ofString file) cs r = .ok (some edit) := by
    rw [edit?]
    cases plan (Path.ofString file) cs r <;> simp [Except.toOption]
  simp only [editsOf, Edit.mem_sort, List.mem_filterMap, planned]
  constructor
  · rintro ⟨r, ⟨issue, member, asks⟩, makes⟩
    exact ⟨issue, member, r, asks, makes⟩
  · rintro ⟨issue, member, r, asks, makes⟩
    exact ⟨r, ⟨issue, member, asks⟩, makes⟩

theorem editsOf_congr {cs : List Char} {others : List Issue}
    (same : ∀ issue, issue ∈ others ↔ issue ∈ issues) :
    editsOf file cs others = editsOf file cs issues := by
  refine Edit.sort_congr fun edit => ?_
  have planned : edit ∈ editsOf file cs others ↔ edit ∈ editsOf file cs issues := by
    simp only [mem_editsOf, same]
  exact Edit.mem_sort.symm.trans (planned.trans Edit.mem_sort)

theorem repair_eq_of_placed
    (placed : ∀ issue ∈ issues, ∀ r ∈ issue.repair, ¬ r.Misplaced content.toList) :
    repair file content issues =
      .ok ⟨String.ofList (Edit.insertAll (editsOf file content.toList issues) content.toList),
        (editsOf file content.toList issues).length⟩ := by
  refine repair_eq fun r member => ?_
  obtain ⟨issue, among, asks⟩ := List.mem_filterMap.mp member
  cases made : plan (Path.ofString file) content.toList r with
  | ok found => exact ⟨found, rfl⟩
  | error e =>
      obtain ⟨-, -, -, -, misplaced, -⟩ := plan_eq_error_iff.mp made
      exact absurd misplaced (placed issue among r asks)

theorem spliced_insertAll (file : String) (cs : List Char) (issues : List Issue) :
    Edit.Spliced 0 (editsOf file cs issues) cs (Edit.insertAll (editsOf file cs issues) cs) := by
  refine Edit.spliced_insertFrom [] (Edit.ordered_sort _).offset_le (by simp) ?_
  intro edit member
  obtain ⟨issue, -, r, -, makes⟩ := mem_editsOf.mp member
  exact isBoundary_of_plan makes

/-- A repair adds the text of every edit that is planned for the issues once, in the order of
places and then of texts, and keeps all else.  No edit moves the place of one that is still to be
made, and the issues may come in any order and more than once. -/
theorem repair_splices
    (opens : ∀ issue ∈ issues, ∀ tag openOffset insertOffset,
      issue.repair = some (.close tag openOffset insertOffset) →
        IsBoundary content.toList openOffset ∨ byteSize content.toList < openOffset) :
    ∃ edits result, repair file content issues = .ok ⟨String.ofList result, edits.length⟩ ∧
      (Edit.Ordered edits ∧ ∀ edit, edit ∈ edits ↔ ∃ issue ∈ issues, ∃ r ∈ issue.repair,
        plan (Path.ofString file) content.toList r = .ok (some edit)) ∧
      (∀ tag openOffset insertOffset, ¬ IsBoundary content.toList insertOffset →
        plan (Path.ofString file) content.toList (.close tag openOffset insertOffset) = .ok none) ∧
      Edit.Spliced 0 edits content.toList result ∧
      (edits.foldr Edit.insert content.toList = result ∧
        ∀ edit later, edit :: later <:+ edits →
          IsBoundary (later.foldr Edit.insert content.toList) edit.offset) ∧
      edits.foldl Edit.remove result = content.toList ∧
      ∀ others, (∀ issue, issue ∈ others ↔ issue ∈ issues) →
        repair file content others = repair file content issues := by
  have placed : ∀ issue ∈ issues, ∀ r ∈ issue.repair, ¬ r.Misplaced content.toList := by
    intro issue member r asks misplaced
    cases r with
    | insertComponent value => exact misplaced
    | close tag openOffset insertOffset =>
        rcases opens issue member tag openOffset insertOffset asks with boundary | beyond
        · exact misplaced.2.not_isBoundary boundary
        · exact Nat.lt_asymm beyond misplaced.2.lt
  have spliced := spliced_insertAll file content.toList issues
  refine ⟨editsOf file content.toList issues, _, repair_eq_of_placed placed,
    ⟨Edit.ordered_sort _, fun edit => mem_editsOf⟩, ?unplaced, spliced,
    ⟨spliced.foldr_insert byteSize_nil, spliced.isBoundary_foldr byteSize_nil⟩,
    spliced.foldl_remove byteSize_nil, ?order⟩
  case unplaced =>
    intro tag openOffset insertOffset bad
    exact plan_close_of_not_isBoundary _ tag openOffset bad
  case order =>
    intro others same
    have placedOthers : ∀ issue ∈ others, ∀ r ∈ issue.repair, ¬ r.Misplaced content.toList :=
      fun issue member => placed issue ((same issue).mp member)
    rw [repair_eq_of_placed placedOthers, repair_eq_of_placed placed, editsOf_congr same]

theorem repair_splices_same_place :
    let close (tag : String) (openOffset insertOffset : Nat) :=
      (Issue.ofFile .error "matching-close" "x.md" "").withRepair
        (.close tag openOffset insertOffset)
    let issues := [close "b" 9 2, close "a" 0 2, close "a" 0 2, close "c" 0 1]
    ∃ edits result, repair "x.md" "éx" issues = .ok ⟨String.ofList result, edits.length⟩ ∧
      Edit.Spliced 0 edits "éx".toList result ∧
      edits.foldr Edit.insert "éx".toList = result ∧
      edits.foldl Edit.remove result = "éx".toList ∧
      repair "x.md" "éx" issues.reverse = repair "x.md" "éx" issues := by
  intro close issues
  have opens : ∀ issue ∈ issues, ∀ tag openOffset insertOffset,
      issue.repair = some (.close tag openOffset insertOffset) →
        IsBoundary "éx".toList openOffset ∨ byteSize "éx".toList < openOffset := by
    simp only [issues, List.forall_mem_cons, List.not_mem_nil, false_implies, implies_true,
      and_true]
    refine ⟨?_, ?_, ?_, ?_⟩ <;> rintro tag openOffset insertOffset ⟨⟩
    · exact .inr (by decide)
    all_goals exact .inl (isBoundary_zero _)
  obtain ⟨edits, result, done, -, -, spliced, ⟨made, -⟩, removed, order⟩ :=
    @repair_splices "x.md" "éx" issues opens
  exact ⟨edits, result, done, spliced, made, removed, order _ fun _ => List.mem_reverse⟩

end TagAudit
