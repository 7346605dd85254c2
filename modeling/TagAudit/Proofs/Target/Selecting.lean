import Mathlib.Data.List.Permutation
import TagAudit.Proofs.Path.Display
import TagAudit.Proofs.Target.Expanding
import TagAudit.Proofs.Target.Merging

/-! A selection takes what each of its arguments takes by itself.  Of the paths that lead to one
place in the same steps the first is kept, so the order of the arguments decides how a place
outside the repository is shown. -/

namespace TagAudit

open Std Target

namespace Target

variable {α : Type}

theorem find?_flatMap_merge (steps : List Component) (f : α → List Target) (as : List α) :
    (as.flatMap fun a => merge (f a)).find? (isAt steps) = (as.flatMap f).find? (isAt steps) := by
  simp only [List.find?_flatMap, find?_merge]

theorem merge_merge (targets : List Target) : merge (merge targets) = merge targets :=
  merge_congr fun steps => find?_merge steps targets

theorem expandOne_of_readNames {disk : Disk} {repoRoot : Path} {given : String} {file : Path}
    {names : List Wildcard} (absolute : (repoRoot.join (.ofString given)).isAbsolute)
    (read : readNames (repoRoot.join (.ofString given)) = .ok names) (more : names ≠ [])
    (bare : (repoRoot.join (.ofString given)).text.getLast? ≠ some '/')
    (found : (disk.expandFrom names .top).filter disk.isFile = [file]) :
    expandOne disk repoRoot given = [.ofPath repoRoot file] := by
  have goesOn : ¬(names.isEmpty ||
      (repoRoot.join (.ofString given)).text.getLast? = some '/') := by simp [more, bare]
  unfold expandOne
  dsimp only
  rw [filesMatching_of_readNames absolute read, if_neg goesOn, found]
  rfl

end Target

namespace Selection

variable {selection other : Selection} {disk : Disk} {repoRoot : Path} {roots : List Path}
  {filter : TargetFilter} {target : Target} {steps : List Component}

def usesRoots (selection : Selection) : Bool :=
  selection.all || (selection.files.isEmpty && selection.directories.isEmpty)

def alone (selection : Selection) (disk : Disk) (repoRoot : Path) (roots : List Path)
    (filter : TargetFilter) : List (List Target) :=
  selection.files.map (fun file => expand disk repoRoot [file]) ++
    selection.directories.map (fun directory =>
      filter.collect disk repoRoot [.ofString directory]) ++
    if selection.usesRoots then [filter.collect disk repoRoot roots] else []

theorem targets_eq_merge : selection.targets disk repoRoot roots filter =
    merge (selection.alone disk repoRoot roots filter).flatten := by
  refine merge_congr fun steps => ?_
  -- Both sides merge in parts, and a merge finds what the merged list finds, part by part.
  have files : (expand disk repoRoot selection.files).find? (isAt steps) =
      (selection.files.map fun file => expand disk repoRoot [file]).flatten.find?
        (isAt steps) := by
    simp only [expand, find?_merge, ← List.flatMap_def, List.flatMap_singleton,
      find?_flatMap_merge]
  have directories : (filter.collect disk repoRoot (selection.directories.map .ofString)).find?
        (isAt steps) =
      (selection.directories.map fun directory =>
        filter.collect disk repoRoot [.ofString directory]).flatten.find? (isAt steps) := by
    simp only [TargetFilter.collect, find?_merge, ← List.flatMap_def, List.flatMap_singleton,
      find?_flatMap_merge, List.flatMap_map]
  have searched : (filter.collect disk repoRoot (selection.searched roots)).find? (isAt steps) =
      ((filter.collect disk repoRoot (selection.directories.map .ofString)).find?
        (isAt steps)).or ((if selection.usesRoots then [filter.collect disk repoRoot roots]
        else []).flatten.find? (isAt steps)) := by
    unfold Selection.searched usesRoots
    split
    next uses =>
      rw [if_pos uses, List.flatten_singleton]
      simp only [TargetFilter.collect, find?_merge, List.flatMap_append, List.find?_append]
    next uses => rw [if_neg uses, List.flatten_nil, List.find?_nil, Option.or_none]
  rw [alone, List.find?_append, List.flatten_append, List.flatten_append, List.find?_append,
    List.find?_append, files, searched, directories, Option.or_assoc]

theorem exists_mem_targets_iff :
    (∃ target ∈ selection.targets disk repoRoot roots filter, target.path.components = steps) ↔
      ∃ own ∈ selection.alone disk repoRoot roots filter, ∃ target ∈ own,
        target.path.components = steps := by
  rw [targets_eq_merge]
  constructor
  · rintro ⟨target, member, same⟩
    obtain ⟨own, listed, among⟩ := List.mem_flatten.mp (merge_subset _ member)
    exact ⟨own, listed, target, among, same⟩
  · rintro ⟨own, listed, target, among, rfl⟩
    exact exists_mem_merge (List.mem_flatten.mpr ⟨own, listed, among⟩)

theorem eq_ofPath_of_mem (member : target ∈ selection.targets disk repoRoot roots filter) :
    target = .ofPath repoRoot target.path := by
  rcases List.mem_append.mp (merge_subset _ member) with named | found
  · obtain ⟨file, -, member⟩ := List.mem_flatMap.mp (merge_subset _ named)
    exact (mem_kept_iff.mp member).1
  · obtain ⟨root, -, member⟩ := List.mem_flatMap.mp (merge_subset _ found)
    obtain ⟨⟨path, kind⟩, -, rfl⟩ := List.mem_map.mp member
    rfl

/-- The arguments are the same, in any order and any number of times. -/
structure Rearranges (other selection : Selection) : Prop where
  files : ∀ file, file ∈ other.files ↔ file ∈ selection.files
  directories : ∀ directory, directory ∈ other.directories ↔ directory ∈ selection.directories
  all : other.all = selection.all

/-- The arguments come up in the same order when repetitions are left out. -/
structure Repeats (other selection : Selection) : Prop where
  files : other.files.eraseDups = selection.files.eraseDups
  directories : other.directories.eraseDups = selection.directories.eraseDups
  all : other.all = selection.all

theorem Repeats.rearranges (repeats : Repeats other selection) : Rearranges other selection where
  files file := by rw [← List.mem_eraseDups, repeats.files, List.mem_eraseDups]
  directories directory := by rw [← List.mem_eraseDups, repeats.directories, List.mem_eraseDups]
  all := repeats.all

theorem Rearranges.usesRoots_eq (rearranges : Rearranges other selection) :
    other.usesRoots = selection.usesRoots := by
  have isEmpty {as bs : List String} (same : ∀ a, a ∈ as ↔ a ∈ bs) : as.isEmpty = bs.isEmpty := by
    rw [Bool.eq_iff_iff, List.isEmpty_iff, List.isEmpty_iff, List.eq_nil_iff_forall_not_mem,
      List.eq_nil_iff_forall_not_mem]
    simp only [same]
  rw [usesRoots, usesRoots, rearranges.all, isEmpty rearranges.files,
    isEmpty rearranges.directories]

theorem Rearranges.mem_alone_iff (rearranges : Rearranges other selection) {own : List Target} :
    own ∈ other.alone disk repoRoot roots filter ↔
      own ∈ selection.alone disk repoRoot roots filter := by
  simp only [alone, List.mem_append, List.mem_map, rearranges.files, rearranges.directories,
    rearranges.usesRoots_eq]

theorem Rearranges.components_eq (rearranges : Rearranges other selection) :
    (other.targets disk repoRoot roots filter).map (·.path.components) =
      (selection.targets disk repoRoot roots filter).map (·.path.components) := by
  refine eq_of_pairwise_lt Path.compareComponents (List.pairwise_map.mpr (pairwise_merge _))
    (List.pairwise_map.mpr (pairwise_merge _)) fun steps => ?_
  rw [List.mem_map, List.mem_map]
  refine exists_mem_targets_iff.trans (Iff.trans ?_ exists_mem_targets_iff.symm)
  simp only [rearranges.mem_alone_iff]

theorem Repeats.targets_eq (repeats : Repeats other selection) :
    other.targets disk repoRoot roots filter = selection.targets disk repoRoot roots filter := by
  rw [targets_eq_merge, targets_eq_merge]
  refine merge_congr fun steps => ?_
  have first {as bs : List String} (same : as.eraseDups = bs.eraseDups)
      (f : String → List Target) :
      (as.flatMap f).find? (isAt steps) = (bs.flatMap f).find? (isAt steps) := by
    rw [List.find?_flatMap, List.find?_flatMap, ← findSome?_eraseDups, same, findSome?_eraseDups]
  simp only [alone, List.flatten_append, List.find?_append, ← List.flatMap_def,
    first repeats.files, first repeats.directories, repeats.rearranges.usesRoots_eq]

theorem targets_of_files {files : List String} (named : files ≠ []) :
    Selection.targets ⟨files, [], false⟩ disk repoRoot roots filter =
      merge (files.flatMap (expandOne disk repoRoot)) := by
  have nowhere : Selection.searched ⟨files, [], false⟩ roots = [] := by simp [searched, named]
  have nothing : filter.collect disk repoRoot [] = [] := by
    rw [TargetFilter.collect, List.flatMap_nil, merge, List.mergeSort_nil, List.eraseRepsBy]
  rw [targets, nowhere, nothing, List.append_nil, expand, merge_merge]

/-- A selection takes what its arguments take by themselves, in the order of the steps.  Whatever
the order of the arguments, the steps are the same, and so is what is shown for a place below an
absolute root or for a path of the same text. -/
theorem targets_union (selection : Selection) (disk : Disk) (repoRoot : Path)
    (roots : List Path) (filter : TargetFilter) :
    let targets := selection.targets disk repoRoot roots filter
    let alone := selection.alone disk repoRoot roots filter
    targets.Pairwise (fun a b => a.path.compare b.path = .lt) ∧
    (∀ steps, (∃ target ∈ targets, target.path.components = steps) ↔
      ∃ own ∈ alone, ∃ target ∈ own, target.path.components = steps) ∧
    (∀ target, target ∈ targets ↔
      alone.flatten.find? (isAt target.path.components) = some target) ∧
    (∀ other, Rearranges other selection →
      let others := other.targets disk repoRoot roots filter
      others.map (·.path.components) = targets.map (·.path.components) ∧
      ∀ a ∈ others, ∀ b ∈ targets, a.path.components = b.path.components →
        (a.path = b.path ∨ repoRoot.isAbsolute ∧
          ∃ below, b.path.components = repoRoot.components ++ below ∧ Path.Descends below) →
        a.display = b.display) ∧
    ∀ other, Repeats other selection → other.targets disk repoRoot roots filter = targets := by
  intro targets alone
  refine ⟨pairwise_merge _, fun steps => exists_mem_targets_iff, fun target => ?first,
    fun other rearranges => ⟨rearranges.components_eq, ?shown⟩,
    fun other repeats => repeats.targets_eq⟩
  case first =>
    rw [← mem_merge_iff, ← targets_eq_merge]
  case shown =>
    intro a member b member' same apart
    rw [eq_ofPath_of_mem member, eq_ofPath_of_mem member']
    rcases apart with spelled | ⟨absolute, below, place, descends⟩
    · rw [spelled]
    · exact Path.display_congr absolute same place descends

/-- The file `a.md` below the root is named in two ways. -/
theorem targets_union_renamed :
    let disk := ((Disk.empty []).put ["r"] .directory).put ["r", "a.md"] (.file "x".toUTF8)
    let repoRoot := Path.ofString "/r"
    let filter : TargetFilter := ⟨["md"], []⟩
    let selection : Selection := ⟨["a.md", "./a.md"], [], false⟩
    let swapped : Selection := ⟨["./a.md", "a.md"], [], false⟩
    let repeated : Selection := ⟨["a.md", "./a.md", "a.md"], [], false⟩
    (∃ a ∈ swapped.targets disk repoRoot [] filter,
      ∃ b ∈ selection.targets disk repoRoot [] filter, a.path ≠ b.path ∧ a.display = b.display) ∧
    repeated.targets disk repoRoot [] filter = selection.targets disk repoRoot [] filter := by
  intro disk repoRoot filter selection swapped repeated
  have bare : expandOne disk repoRoot "a.md" = [.ofPath repoRoot (.ofString "/r/a.md")] := by
    have read : readNames (repoRoot.join (.ofString "a.md")) =
        .ok [⟨"r".toList.map .literal⟩, ⟨"a.md".toList.map .literal⟩] := rfl
    exact expandOne_of_readNames rfl read (by simp) (by decide) rfl
  have dotted : expandOne disk repoRoot "./a.md" = [.ofPath repoRoot (.ofString "/r/./a.md")] := by
    have read : readNames (repoRoot.join (.ofString "./a.md")) =
        .ok [⟨"r".toList.map .literal⟩, ⟨['.'].map .literal⟩, ⟨"a.md".toList.map .literal⟩] := by
      rfl
    exact expandOne_of_readNames rfl read (by simp) (by decide) rfl
  clear_value disk
  have before : selection.targets disk repoRoot [] filter =
      [.ofPath repoRoot (.ofString "/r/a.md")] := by
    rw [targets_of_files (by simp), List.flatMap_cons, List.flatMap_singleton, bare, dotted]
    cbv
  have after : swapped.targets disk repoRoot [] filter =
      [.ofPath repoRoot (.ofString "/r/./a.md")] := by
    rw [targets_of_files (by simp), List.flatMap_cons, List.flatMap_singleton, bare, dotted]
    cbv
  obtain ⟨-, -, -, rearranged, again⟩ := targets_union selection disk repoRoot [] filter
  obtain ⟨-, shown⟩ := rearranged swapped
    ⟨by simp [swapped, selection, or_comm], by simp [swapped, selection], rfl⟩
  rw [before, after] at shown
  refine ⟨?_, again repeated ⟨by decide, rfl, rfl⟩⟩
  rw [before, after]
  refine ⟨_, List.mem_singleton_self _, _, List.mem_singleton_self _, by decide, ?_⟩
  exact shown _ (List.mem_singleton_self _) _ (List.mem_singleton_self _) (by decide)
    (.inr ⟨rfl, [.name "a.md".toList], by decide, by simp [Path.Descends]⟩)

/-- Outside the root, what is shown is the first text by which a file is named. -/
theorem renamed_shown_as_named :
    let disk := ((Disk.empty []).put ["r"] .directory).put ["a.md"] (.file "x".toUTF8)
    let repoRoot := Path.ofString "/r"
    let filter : TargetFilter := ⟨["md"], []⟩
    let selection : Selection := ⟨["/./a.md", "/a.md"], [], false⟩
    let swapped : Selection := ⟨["/a.md", "/./a.md"], [], false⟩
    Rearranges swapped selection ∧
    (selection.targets disk repoRoot [] filter).map (·.display) = ["/./a.md"] ∧
    (swapped.targets disk repoRoot [] filter).map (·.display) = ["/a.md"] := by
  intro disk repoRoot filter selection swapped
  have bare : expandOne disk repoRoot "/a.md" = [.ofPath repoRoot (.ofString "/a.md")] := by
    have read : readNames (repoRoot.join (.ofString "/a.md")) =
        .ok [⟨"a.md".toList.map .literal⟩] := rfl
    exact expandOne_of_readNames rfl read (by simp) (by decide) rfl
  have dotted : expandOne disk repoRoot "/./a.md" = [.ofPath repoRoot (.ofString "/./a.md")] := by
    have read : readNames (repoRoot.join (.ofString "/./a.md")) =
        .ok [⟨['.'].map .literal⟩, ⟨"a.md".toList.map .literal⟩] := rfl
    exact expandOne_of_readNames rfl read (by simp) (by decide) rfl
  clear_value disk
  refine ⟨⟨by simp [swapped, selection, or_comm], by simp [swapped, selection], rfl⟩, ?_, ?_⟩
  · rw [targets_of_files (by simp), List.flatMap_cons, List.flatMap_singleton, bare, dotted]
    cbv
  · rw [targets_of_files (by simp), List.flatMap_cons, List.flatMap_singleton, bare, dotted]
    cbv

end Selection

end TagAudit
