import Mathlib.Algebra.BigOperators.Group.List.Lemmas
import Mathlib.Data.String.Basic
import TagAudit.Proofs.Check.Rerun
import TagAudit.Proofs.Text.Bytes
import TagAudit.TagIndex

/-! An index against the history of what was added to it: every view of the index can be read
off that history, and nothing of the history is lost. -/

namespace TagAudit.TagIndex

open Text

/-- The table of an index holds the row of each tag that occurs in a history, and no others. -/
def Holds (index : TagIndex) (history : List Occurrence) : Prop :=
  ∀ tag, index.tags[tag]? =
    match history.filter (·.tag = tag) with
    | [] => none
    | o :: more => some (o :: more)

variable {index : TagIndex} {history : List Occurrence} {tag : String}

theorem holds_empty : empty.Holds [] := by
  intro tag
  exact Std.TreeMap.getElem?_emptyc

theorem Holds.query_eq (holds : index.Holds history) (tag : String) :
    index.query tag = history.filter (·.tag = tag) := by
  unfold query
  rw [holds tag]
  cases history.filter (·.tag = tag) <;> rfl

theorem Holds.mem_iff (holds : index.Holds history) :
    tag ∈ index.tags ↔ ∃ o ∈ history, o.tag = tag := by
  rw [← Std.TreeMap.isSome_getElem?_iff_mem, holds tag]
  cases found : history.filter (·.tag = tag) with
  | nil => simpa using found
  | cons o more =>
      have occurs : o ∈ history.filter (·.tag = tag) := found ▸ List.mem_cons_self
      simpa using ⟨o, List.mem_filter.mp occurs |>.imp_right of_decide_eq_true⟩

/-! One more occurrence, a row of them, and a file. -/

theorem Holds.add (holds : index.Holds history) (o : Occurrence) :
    (index.add o).Holds (history ++ [o]) := by
  intro tag
  unfold TagIndex.add
  rw [Std.TreeMap.getElem?_insert, holds.query_eq, List.filter_append]
  by_cases same : o.tag = tag
  · subst same
    cases history.filter (·.tag = o.tag) <;> simp
  · simpa [same] using holds tag

theorem Holds.insert (holds : index.Holds history) (occurrences : List Occurrence) :
    (index.insert occurrences).Holds (history ++ occurrences) := by
  induction occurrences generalizing index history with
  | nil => simpa [TagIndex.insert] using holds
  | cons o later induction =>
      have step := induction (holds.add o)
      rwa [List.append_assoc] at step

theorem Holds.insertAll (holds : index.Holds history) (batches : List (List Occurrence)) :
    (batches.foldl TagIndex.insert index).Holds (history ++ batches.flatten) := by
  induction batches generalizing index history with
  | nil => simpa using holds
  | cons batch later induction =>
      have step := induction (holds.insert batch)
      rwa [List.append_assoc] at step

theorem Holds.addFile (holds : index.Holds history) (file : Except Issue (List Occurrence)) :
    (index.addFile file).Holds (history ++ file.toOption.getD []) := by
  cases file with
  | ok occurrences =>
      have more : ({ index with files := index.files + 1 } : TagIndex).Holds history := holds
      exact more.insert occurrences
  | error issue =>
      have same : (index.addFile (.error issue)).Holds history := holds
      simpa [Except.toOption] using same

theorem Holds.addFiles (holds : index.Holds history)
    (files : List (Except Issue (List Occurrence))) :
    (files.foldl TagIndex.addFile index).Holds
      (history ++ files.flatMap fun file => file.toOption.getD []) := by
  induction files generalizing index history with
  | nil => simpa using holds
  | cons file later induction =>
      have step := induction (holds.addFile file)
      rwa [List.append_assoc] at step

theorem files_add_warnings (index : TagIndex) (files : List (Except Issue (List Occurrence))) :
    let after := files.foldl addFile index
    after.files + after.warnings.length = index.files + index.warnings.length + files.length := by
  have keeps (index : TagIndex) (occurrences : List Occurrence) :
      (index.insert occurrences).files = index.files ∧
        (index.insert occurrences).warnings = index.warnings := by
    induction occurrences generalizing index with
    | nil => exact ⟨rfl, rfl⟩
    | cons o later induction => exact induction (index.add o)
  induction files generalizing index with
  | nil => rfl
  | cons file later induction =>
      have step := induction (index.addFile file)
      simp only [List.foldl_cons, List.length_cons] at step ⊢
      rw [step]
      cases file with
      | ok occurrences =>
          obtain ⟨files, warnings⟩ := keeps { index with files := index.files + 1 } occurrences
          rw [addFile, files, warnings]
          change index.files + 1 + index.warnings.length + later.length = _
          omega
      | error issue =>
          simp only [addFile, List.length_append, List.length_singleton]
          omega

/-! The views. -/

/-- The entries of the table are the tags with the occurrences of each. -/
theorem toList_eq (index : TagIndex) :
    index.tags.toList = index.tagNames.map fun tag => (tag, index.query tag) := by
  have entry : ∀ pair ∈ index.tags.toList, (pair.1, index.query pair.1) = pair := by
    intro pair member
    unfold query
    rw [Std.TreeMap.mem_toList_iff_getElem?_eq_some.mp member]
    rfl
  unfold tagNames
  rw [← Std.TreeMap.map_fst_toList_eq_keys, List.map_map]
  exact (List.map_id' _ ▸ List.map_congr_left entry).symm

theorem counts_eq (index : TagIndex) :
    index.counts = index.tagNames.map fun tag => (tag, (index.query tag).length) := by
  unfold counts
  rw [toList_eq, List.map_map]
  rfl

theorem tagNames_ascending (index : TagIndex) : index.tagNames.Pairwise (· < ·) := by
  apply (Std.TreeMap.ordered_keys (t := index.tags)).imp
  intro a b less
  exact compare_lt_iff_lt.mp less

theorem Holds.sum_query_length (holds : index.Holds history) :
    (index.tagNames.map fun tag => (index.query tag).length).sum = history.length := by
  have distinct : index.tagNames.Nodup := index.tagNames_ascending.imp fun less => less.ne
  have listed : index.tagNames.Perm (history.map Occurrence.tag).dedup := by
    apply (List.perm_ext_iff_of_nodup distinct (List.nodup_dedup _)).mpr
    intro tag
    unfold tagNames
    rw [Std.TreeMap.mem_keys, holds.mem_iff, List.mem_dedup, List.mem_map]
  have row (tag : String) :
      (index.query tag).length = (history.map Occurrence.tag).count tag := by
    rw [holds.query_eq, List.count_eq_countP, List.countP_map, List.countP_eq_length_filter]
    rfl
  calc
    (index.tagNames.map fun tag => (index.query tag).length).sum =
        (index.tagNames.map fun tag => (history.map Occurrence.tag).count tag).sum := by
      simp only [row]
    _ = ((history.map Occurrence.tag).dedup.map fun tag =>
          (history.map Occurrence.tag).count tag).sum := (listed.map _).sum_nat
    _ = history.length := by
      rw [List.sum_map_count_dedup_eq_length, List.length_map]

/-- What the views of an index show when they show a history: the row of every tag in the
order in which it was added, the tags in the order of their bytes, how often each occurs, and
the document with the place of every occurrence, written out field by field. -/
structure Shows (index : TagIndex) (history : List Occurrence) : Prop where
  query : ∀ tag, index.query tag = history.filter (·.tag = tag)
  ascending : index.tagNames.Pairwise fun a b => bytes a < bytes b
  names : ∀ tag, tag ∈ index.tagNames ↔ ∃ o ∈ history, o.tag = tag
  counts : index.counts = index.tagNames.map fun tag => (tag, (index.query tag).length)
  counted : ∀ entry ∈ index.counts, 1 ≤ entry.2
  document : index.toJson = .object [
    ("tags", .object (index.tagNames.map fun tag =>
      (tag, .array ((index.query tag).map fun o => .object [
        ("file", .string o.file),
        ("start_line", .number o.startLine),
        ("end_line", .number o.endLine),
        ("kind", .string (match o.kind with
          | .primary => "primary"
          | .dimension => "dimension")),
        ("closure", .string (match o.closure with
          | .closed => "closed"
          | .marker => "marker"
          | .bare => "bare"
          | .unclosed => "unclosed"))])))),
    ("summary", .object [
      ("tags", .number index.tagNames.length),
      ("occurrences", .number history.length),
      ("files", .number index.files)])]

theorem Holds.shows (holds : index.Holds history) : index.Shows history where
  query := holds.query_eq
  ascending := index.tagNames_ascending.imp bytes_lt
  names := by
    intro tag
    unfold tagNames
    rw [Std.TreeMap.mem_keys, holds.mem_iff]
  counts := index.counts_eq
  counted := by
    intro entry member
    rw [counts_eq, List.mem_map] at member
    obtain ⟨tag, listed, rfl⟩ := member
    obtain ⟨o, occurs, named⟩ := holds.mem_iff.mp (Std.TreeMap.mem_keys.mp listed)
    rw [holds.query_eq]
    apply List.length_pos_of_mem (a := o)
    exact List.mem_filter.mpr ⟨occurs, decide_eq_true named⟩
  document := by
    have occurrences : total (index.counts.map Prod.snd) = history.length := by
      rw [total_eq_sum, counts_eq, List.map_map]
      exact holds.sum_query_length
    have tags : index.counts.length = index.tagNames.length := by
      rw [counts_eq, List.length_map]
    simp only [toJson, occurrences, tags, toList_eq, List.map_map]
    rfl

def scanned (options : ScanOptions) (disk : Disk) (target : Target) :
    Except Issue (List Occurrence) :=
  match target.read disk with
  | .ok content => .ok (options.scan target.display content)
  | .error e => .error (target.unreadable e)

theorem ofTargets_eq (options : ScanOptions) (disk : Disk) (targets : List Target) :
    ofTargets options disk targets = (targets.map (scanned options disk)).foldl addFile empty :=
  rfl

def found (options : ScanOptions) (disk : Disk) (targets : List Target) : List Occurrence :=
  targets.flatMap fun target =>
    match target.read disk with
    | .ok content => options.scan target.display content
    | .error _ => []

theorem found_eq (options : ScanOptions) (disk : Disk) (targets : List Target) :
    found options disk targets =
      (targets.map (scanned options disk)).flatMap fun file => file.toOption.getD [] := by
  rw [List.flatMap_map, found]
  congr 1
  funext target
  unfold scanned
  cases target.read disk <;> rfl

/-- Whatever rows are inserted into the empty index, its views show all of them and nothing
else; and so do those of the index of some targets, each of which is read or leaves a
warning. -/
theorem index_shows_history :
    (∀ batches : List (List Occurrence),
      (batches.foldl TagIndex.insert empty).Shows batches.flatten) ∧
    ∀ (options : ScanOptions) (disk : Disk) (targets : List Target),
      (ofTargets options disk targets).Shows (found options disk targets) ∧
      (ofTargets options disk targets).files + (ofTargets options disk targets).warnings.length =
        targets.length := by
  constructor
  · intro batches
    exact (holds_empty.insertAll batches).shows
  · intro options disk targets
    rw [ofTargets_eq, found_eq]
    constructor
    · exact (holds_empty.addFiles (targets.map (scanned options disk))).shows
    · have counted := files_add_warnings empty (targets.map (scanned options disk))
      simpa [empty] using counted

end TagAudit.TagIndex
