import Mathlib.Data.List.Permutation
import TagAudit.Proofs.Disk.Tree
import TagAudit.Proofs.Path.Display
import TagAudit.Proofs.Target.Merging
import TagAudit.Proofs.Wildcard.Trailing
import TagAudit.Target.Walk

/-! Which files a search finds: those that no pattern leaves out, themselves or with a
directory on the way to them. -/

namespace TagAudit

namespace Disk

variable {disk : Disk} {admits : Path → FileKind → Bool} {path child : Path}
  {directory : Location} {name : String} {names : List String} {kind : FileKind}

/-- A search goes on to every directory between a path and what names lead to from it. -/
def Passable (admits : Path → FileKind → Bool) (path : Path) (names : List String) : Prop :=
  ∀ above below, above ≠ [] → below ≠ [] → names = above ++ below →
    admits (path.into (above.map String.toList)) .directory

theorem passable_singleton : Passable admits path [name] := by
  intro above below more further same
  cases above with
  | nil => exact absurd rfl more
  | cons first above =>
      obtain ⟨-, -, rfl⟩ : name = first ∧ above = [] ∧ below = [] := by simpa using same
      exact absurd rfl further

theorem passable_cons (more : names ≠ []) :
    Passable admits path (name :: names) ↔
      admits (path.join (.ofString name)) .directory ∧
        Passable admits (path.join (.ofString name)) names := by
  constructor
  · intro passable
    refine ⟨passable [name] names (by simp) more rfl, ?_⟩
    intro above below nonempty further same
    exact passable (name :: above) below (by simp) further (by rw [same, List.cons_append])
  · intro ⟨first, passable⟩ above below nonempty further same
    cases above with
    | nil => exact absurd rfl nonempty
    | cons other above =>
        obtain ⟨rfl, rfl⟩ := List.cons.inj same
        cases above with
        | nil => exact first
        | cons next above => exact passable (next :: above) below (by simp) further rfl

theorem mem_walk_succ {depth : Nat} :
    (child, kind) ∈ disk.walk admits (depth + 1) directory path ↔
      ∃ name entry, disk.kind? (directory ++ [name]) = some entry ∧
        admits (path.join (.ofString name)) entry ∧
        ((child, kind) = (path.join (.ofString name), entry) ∨ entry = .directory ∧
          (child, kind) ∈
            disk.walk admits depth (directory ++ [name]) (path.join (.ofString name))) := by
  rw [walk, List.mem_flatMap, Prod.exists]
  refine exists_congr fun name => exists_congr fun entry => ?_
  rw [mem_children_iff]
  refine and_congr_right fun _ => ?_
  dsimp only
  cases admits (path.join (.ofString name)) entry with
  | false => simp
  | true => by_cases isDirectory : entry = .directory <;> simp [isDirectory]

/-- What names lead to is found when it is admitted, and all directories before it. -/
theorem mem_walk_iff (tree : disk.IsTree) {depth : Nat} :
    (child, kind) ∈ disk.walk admits depth directory path ↔
      ∃ names, names ≠ [] ∧ names.length ≤ depth ∧ disk.kind? (directory ++ names) = some kind ∧
        child = path.into (names.map String.toList) ∧ admits child kind ∧
        Passable admits path names := by
  induction depth generalizing directory path with
  | zero => simp [walk]
  | succ depth induction =>
      rw [mem_walk_succ]
      constructor
      · rintro ⟨name, entry, holds, admitted, same | ⟨rfl, below⟩⟩
        · cases same
          exact ⟨[name], by simp, by simp, holds, rfl, admitted, passable_singleton⟩
        · obtain ⟨names, more, short, holds, reached, last, passable⟩ := induction.mp below
          exact ⟨name :: names, by simp, Nat.succ_le_succ short, by simpa using holds, reached,
            last, (passable_cons more).mpr ⟨admitted, passable⟩⟩
      · rintro ⟨names, more, short, holds, rfl, last, passable⟩
        match names with
        | [] => exact absurd rfl more
        | [name] => exact ⟨name, kind, holds, last, .inl rfl⟩
        | name :: next :: names =>
            have holds : disk.kind? (directory ++ [name] ++ next :: names) = some kind := by
              simpa using holds
            obtain ⟨admitted, passable⟩ := (passable_cons (by simp)).mp passable
            exact ⟨name, .directory, tree.directory_of_append (by simp) holds, admitted,
              .inr ⟨rfl, induction.mpr ⟨next :: names, by simp, Nat.le_of_succ_le_succ short,
                holds, rfl, last, passable⟩⟩⟩

end Disk

namespace TargetFilter

open Disk

variable {filter : TargetFilter} {disk : Disk} {repoRoot root top : Path} {roots : List Path}
  {place : Location} {names : List String} {target : Target}

/-- A pattern matches the path of a name `_` in a directory on the way from `top` to what
names lead to. -/
def Blocks (pattern : Wildcard) (repoRoot top : Path) (names : List String) : Prop :=
  ∃ above below, above ≠ [] ∧ below ≠ [] ∧ names = above ++ below ∧
    pattern.accepts ((repoRoot.display (top.into (above.map String.toList))).toList ++ ['/', '_'])

theorem admits_iff {path : Path} {kind : FileKind} :
    filter.admits repoRoot path kind ↔
      ∀ pattern ∈ filter.exclude, ¬pattern.accepts
        ((repoRoot.display path).toList ++ if kind = .directory then ['/', '_'] else []) := by
  unfold admits excludes
  rw [Bool.not_eq_true', List.any_eq_false]
  cases kind <;> simp

theorem passable_iff :
    Passable (filter.admits repoRoot) top names ↔
      ∀ pattern ∈ filter.exclude, ¬Blocks pattern repoRoot top names := by
  constructor
  · intro passable pattern listed ⟨above, below, more, further, same, accepts⟩
    exact admits_iff.mp (passable above below more further same) pattern listed accepts
  · intro free above below more further same
    exact admits_iff.mpr fun pattern listed accepts =>
      free pattern listed ⟨above, below, more, further, same, accepts⟩

theorem mem_filesFrom_iff (tree : disk.IsTree)
    (found : disk.locate top .follow = .ok (place, .directory)) :
    target ∈ filter.filesFrom disk repoRoot top ↔
      ∃ names, names ≠ [] ∧ disk.kind? (place ++ names) = some .file ∧
        filter.wantsExtension (top.into (names.map String.toList)) ∧
        target = .ofPath repoRoot (top.into (names.map String.toList)) ∧
        ∀ pattern ∈ filter.exclude,
          ¬pattern.accepts (repoRoot.display (top.into (names.map String.toList))).toList ∧
            ¬Blocks pattern repoRoot top names := by
  unfold filesFrom entriesFrom
  rw [found, List.mem_map]
  simp only [List.mem_filter, List.mem_cons, Prod.exists, Bool.and_eq_true, beq_iff_eq]
  constructor
  · rintro ⟨path, kind, ⟨same | below, rfl, wanted⟩, rfl⟩
    · cases same
    · obtain ⟨names, more, -, held, rfl, admitted, passable⟩ := (mem_walk_iff tree).mp below
      refine ⟨names, more, held, wanted, rfl, fun pattern listed => ⟨?_, ?_⟩⟩
      · simpa using admits_iff.mp admitted pattern listed
      · exact passable_iff.mp passable pattern listed
  · rintro ⟨names, more, held, wanted, rfl, free⟩
    refine ⟨_, .file, ⟨.inr ((mem_walk_iff tree).mpr ⟨names, more, ?_, held, rfl, ?_, ?_⟩), rfl,
      wanted⟩, rfl⟩
    · exact (List.length_append ▸ Nat.le_add_left _ _).trans (length_le_height held)
    · exact admits_iff.mpr fun pattern listed => by simpa using (free pattern listed).1
    · exact passable_iff.mpr fun pattern listed => (free pattern listed).2

theorem shown_of_locate {last : Resolution.LastLink} {node : FileNode}
    (found : disk.locate top last = .ok (place, node)) : top.text ≠ [] := by
  intro empty
  simp [locate, resolve, Resolution.textFault?, empty, bind, Except.bind] at found

/-- A search that names no target for a path passes over it. -/
def Misses (filter : TargetFilter) (disk : Disk) (repoRoot : Path) (roots : List Path)
    (path : Path) : Prop :=
  ∀ target ∈ filter.collect disk repoRoot roots, target.path.components ≠ path.components

theorem misses_iff {path : Path} :
    filter.Misses disk repoRoot roots path ↔
      ∀ root ∈ roots, ∀ target ∈ filter.filesFrom disk repoRoot (repoRoot.join root),
        target.path.components ≠ path.components := by
  unfold Misses collect
  constructor
  · intro missed root listed target found same
    have among : target ∈ roots.flatMap fun root =>
        filter.filesFrom disk repoRoot (repoRoot.join root) :=
      List.mem_flatMap.mpr ⟨root, listed, found⟩
    obtain ⟨kept, among, like⟩ := Target.exists_mem_merge among
    exact missed kept among (like.trans same)
  · intro missed target among
    obtain ⟨root, listed, found⟩ := List.mem_flatMap.mp (Target.merge_subset _ among)
    exact missed root listed target found

theorem bounded_of_read {extensions exclude : List String}
    (made : read extensions exclude = .ok filter) :
    ∀ pattern ∈ filter.exclude, Wildcard.Bounded pattern.tokens := by
  simp only [read, bind, Except.bind] at made
  cases patterns : exclude.mapM readExclude with
  | error e => simp [patterns] at made
  | ok patterns' =>
      rw [patterns] at made
      cases made
      intro pattern member
      obtain ⟨text, -, made⟩ := exists_of_mem_mapM patterns member
      unfold readExclude at made
      cases result : Wildcard.read text.toList with
      | error e => simp [result, Except.mapError] at made
      | ok pattern' =>
          rw [result] at made
          cases made
          exact Wildcard.read_bounded result

/-- A pattern that ends in `**` matches what it keeps a search from. -/
theorem accepts_of_blocks {pattern : Wildcard} (bounded : Wildcard.Bounded pattern.tokens)
    (ends : pattern.tokens.getLast? = some .anyDirectories) (rootAbsolute : repoRoot.isAbsolute)
    (absolute : top.isAbsolute)
    (below : ¬∃ steps ≠ [], repoRoot.components = top.components ++ steps)
    (named : ∀ name ∈ names, IsName name.toList) (blocks : Blocks pattern repoRoot top names) :
    pattern.accepts (repoRoot.display (top.into (names.map String.toList))).toList := by
  obtain ⟨above, further, more, rest, rfl, probe⟩ := blocks
  rw [List.forall_mem_append] at named
  have shown := Path.shown_of_absolute absolute
  have off : ¬(top.into (above.map String.toList)).components <+: repoRoot.components := by
    rw [Path.components_into_names shown (List.forall_mem_map.mpr named.1)]
    intro ⟨steps, same⟩
    exact below ⟨_, by simp [more], same.symm.trans (List.append_assoc _ _ _)⟩
  obtain ⟨tail, goesOn⟩ := Path.exists_display_into rootAbsolute
    (Path.isAbsolute_into absolute _)
    (Path.into_bare shown (by simpa using more) (List.forall_mem_map.mpr named.1)) off
    (by simpa using rest) (List.forall_mem_map.mpr named.2)
  rw [List.map_append, Path.into_append, goesOn]
  exact Wildcard.accepts_subtree bounded ends probe tail

/-- A file that a search reaches and wants is missing for its own sake, or since a pattern
matches what could be in a directory on the way to it.  Patterns that end in `**` keep the search
from files that they match, unless it begins above the root of the repository. -/
theorem collect_misses {extensions exclude : List String}
    (made : read extensions exclude = .ok filter) (tree : disk.IsTree) (listed : root ∈ roots)
    (found : disk.locate (repoRoot.join root) .follow = .ok (place, .directory))
    (more : names ≠ []) (held : disk.kind? (place ++ names) = some .file)
    (wanted : filter.wantsExtension ((repoRoot.join root).into (names.map String.toList))) :
    let top := repoRoot.join root
    let file := top.into (names.map String.toList)
    let shown := (repoRoot.display file).toList
    (filter.Misses disk repoRoot roots file →
      ∃ pattern ∈ filter.exclude, pattern.accepts shown ∨ Blocks pattern repoRoot top names) ∧
    ((∃ pattern ∈ filter.exclude, pattern.accepts shown ∨ Blocks pattern repoRoot top names) →
      filter.Misses disk repoRoot [root] file) ∧
    (repoRoot.isAbsolute → (¬∃ steps ≠ [], repoRoot.components = top.components ++ steps) →
      filter.Misses disk repoRoot roots file →
      ∃ pattern ∈ filter.exclude, pattern.accepts shown ∨
        pattern.tokens.getLast? ≠ some .anyDirectories ∧ Blocks pattern repoRoot top names) := by
  intro top file shown
  have named : ∀ name ∈ names, IsName name.toList := tree.named_of_append held
  have passedOver : filter.Misses disk repoRoot roots file →
      ∃ pattern ∈ filter.exclude, pattern.accepts shown ∨ Blocks pattern repoRoot top names := by
    intro missed
    by_contra free
    push Not at free
    refine misses_iff.mp missed root listed (.ofPath repoRoot file) ?_ rfl
    exact (mem_filesFrom_iff tree found).mpr ⟨names, more, held, wanted, rfl, free⟩
  refine ⟨passedOver, ?_, ?_⟩
  · rintro ⟨pattern, excluded, left⟩
    refine misses_iff.mpr fun root' only target taken same => ?_
    obtain rfl := List.mem_singleton.mp only
    obtain ⟨others, -, holds, -, rfl, free⟩ := (mem_filesFrom_iff tree found).mp taken
    have shown := shown_of_locate found
    obtain rfl : others = names := by
      have others' : ∀ name ∈ others, IsName name.toList := tree.named_of_append holds
      change (top.into _).components = (top.into _).components at same
      rw [Path.components_into_names shown (List.forall_mem_map.mpr others'),
        Path.components_into_names shown (List.forall_mem_map.mpr named)] at same
      have inner := List.append_cancel_left same
      rw [List.map_map, List.map_map] at inner
      refine List.map_injective_iff.mpr ?_ inner
      intro a b same
      exact String.toList_inj.mp (Component.name.inj same)
    obtain ⟨matches', blocks⟩ := free pattern excluded
    exact left.elim matches' blocks
  · intro absolute inside missed
    obtain ⟨pattern, excluded, left⟩ := passedOver missed
    refine ⟨pattern, excluded, ?_⟩
    by_cases ends : pattern.tokens.getLast? = some .anyDirectories
    · exact .inl (left.elim id
        (accepts_of_blocks (bounded_of_read made pattern excluded) ends absolute
          (Path.isAbsolute_join absolute root) inside named))
    · exact left.imp_right fun blocks => ⟨ends, blocks⟩

/-- The pattern `a/?` keeps a search from `a/keep.md`, which it does not match. -/
theorem collect_misses_keep :
    let filter : TargetFilter := ⟨["md"], [⟨[.literal 'a', .literal '/', .anyChar]⟩]⟩
    let disk := (((Disk.empty []).put ["r"] .directory).put ["r", "a"] .directory).put
      ["r", "a", "keep.md"] (.file "x".toUTF8)
    let repoRoot := Path.ofString "/r"
    let file := (repoRoot.join (.ofString ".")).into ["a".toList, "keep.md".toList]
    read ["md"] ["a/?"] = .ok filter ∧ repoRoot.display file = "a/keep.md" ∧
      filter.Misses disk repoRoot [.ofString "."] file ∧
      ¬∃ pattern ∈ filter.exclude, pattern.accepts (repoRoot.display file).toList := by
  intro filter disk repoRoot file
  have made : read ["md"] ["a/?"] = .ok filter := rfl
  have shown : repoRoot.display file = "a/keep.md" := rfl
  have tree : disk.IsTree := by
    have top := (isTree_empty []).put [] (show IsName "r".toList by decide) rfl rfl .directory
    have inner := top.put ["r"] (show IsName "a".toList by decide) rfl rfl .directory
    exact inner.put ["r", "a"] (show IsName "keep.md".toList by decide) rfl rfl _
  have found : disk.locate (repoRoot.join (.ofString ".")) .follow = .ok (["r"], .directory) := rfl
  have held : disk.kind? (["r"] ++ ["a", "keep.md"]) = some .file := rfl
  have wanted : filter.wantsExtension file := rfl
  have blocks : Blocks ⟨[.literal 'a', .literal '/', .anyChar]⟩ repoRoot
      (repoRoot.join (.ofString ".")) ["a", "keep.md"] := by
    refine ⟨["a"], ["keep.md"], by simp, by simp, rfl, ?_⟩
    simp only [repoRoot]
    rfl
  have other : ¬∃ pattern ∈ filter.exclude, pattern.accepts (repoRoot.display file).toList := by
    rw [shown]
    simp only [filter, List.mem_singleton, exists_eq_left, Bool.not_eq_true]
    rfl
  clear_value disk
  refine ⟨made, shown, ?_, other⟩
  exact (collect_misses made tree (List.mem_singleton_self _) found (by simp) held wanted).2.1
    ⟨_, List.mem_cons_self, .inr blocks⟩

end TargetFilter

end TagAudit
