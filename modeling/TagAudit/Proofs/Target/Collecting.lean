import TagAudit.Proofs.Disk.Following
import TagAudit.Proofs.Target.Walking

/-! All that a search finds: each file once, in the order of the steps to it, whichever of the
roots lead there. -/

namespace TagAudit

open Resolution

/-- A path is written as the names that lead to a place, without links or steps upwards. -/
def Path.Spells (p : Path) (place : Location) : Prop :=
  p.components = Component.root :: place.map fun name => .name name.toList

namespace Disk

variable {disk : Disk} {top : Path} {place : Location} {node : FileNode}

theorem locate_of_keep (unlinked : ∀ target, node ≠ .link target)
    (found : disk.locate top .keep = .ok (place, node)) :
    disk.locate top .follow = .ok (place, node) := by
  simp only [locate, resolve, bind, Except.bind] at found ⊢
  cases fault : textFault? top with
  | some e => simp [fault] at found
  | none =>
      simp only [fault] at found ⊢
      cases made : follow disk.kind? .keep linkLimit
          (if top.isAbsolute then [] else disk.here) top.steps with
      | error e => simp [made] at found
      | ok kept =>
          rw [made] at found
          cases held : disk.node? kept with
          | none => simp [held] at found
          | some other =>
              obtain ⟨rfl, rfl⟩ : kept = place ∧ other = node := by
                simpa [held, pure, Except.pure] using found
              have kind : ∀ target, disk.kind? kept ≠ some (.link target) := by
                intro target same
                rw [kind?, held, Option.map_some, Option.some_inj] at same
                cases other with
                | link target' => exact unlinked target' rfl
                | file | directory => cases same
              rw [follow_of_keep kind made]
              simp [held, pure, Except.pure]

theorem kind?_of_locate {last : LastLink} (found : disk.locate top last = .ok (place, node)) :
    disk.kind? place = some node.kind := by
  simp only [locate, bind, Except.bind] at found
  cases made : disk.resolve top last with
  | error e => simp [made] at found
  | ok kept =>
      rw [made] at found
      cases held : disk.node? kept with
      | none => simp [held] at found
      | some other =>
          obtain ⟨rfl, rfl⟩ : kept = place ∧ other = node := by
            simpa [held, pure, Except.pure] using found
          rw [kind?, held, Option.map_some]

theorem mem_entriesFrom_of_other {admits : Path → FileKind → Bool} {path : Path} {kind : FileKind}
    (other : ¬∃ place, disk.locate top .follow = .ok (place, .directory)) :
    (path, kind) ∈ disk.entriesFrom admits top ↔
      path = top ∧ ∃ place node, disk.locate top .keep = .ok (place, node) ∧ node.kind = kind := by
  unfold entriesFrom
  split
  next place found => exact absurd ⟨place, found⟩ other
  next =>
    cases disk.locate top .keep with
    | error e => simp
    | ok result =>
        obtain ⟨place, node⟩ := result
        simp [eq_comm]

end Disk

namespace TargetFilter

open Disk

variable {filter : TargetFilter} {disk : Disk} {repoRoot top root path : Path}
  {roots : List Path} {target : Target}

/-- The extension of a path is among those to take, once the blanks around it and the dots in
front of it are gone and its letters `A` to `Z` are lowercase. -/
def Wants (filter : TargetFilter) (path : Path) : Prop :=
  ∃ extension, path.extension? = some extension ∧
    String.ofList (((Text.trim extension).dropWhile (· == '.')).map Text.asciiLower) ∈
      filter.extensions

theorem wantsExtension_iff : filter.wantsExtension path = true ↔ filter.Wants path := by
  unfold wantsExtension Wants
  cases path.extension? with
  | none => simp
  | some extension => simp [normalize, Schema.normalizeExtension]

/-- What a search takes from the root `top`: the root when it is a file, and else the files
below it that are reached through directories, none of which is left out. -/
inductive Takes (filter : TargetFilter) (disk : Disk) (repoRoot top : Path) : Path → Prop
  | itself {place : Location} {bytes : ByteArray}
      (found : disk.locate top .keep = .ok (place, .file bytes))
      (wanted : filter.Wants top) : Takes filter disk repoRoot top top
  | below {place : Location} {names : List String}
      (found : disk.locate top .follow = .ok (place, .directory)) (more : names ≠ [])
      (held : disk.kind? (place ++ names) = some .file)
      (unlinked : ∀ above below, names = above ++ below →
        ∀ target, disk.kind? (place ++ above) ≠ some (.link target))
      (passed : ∀ pattern ∈ filter.exclude, ¬Blocks pattern repoRoot top names)
      (kept : ∀ pattern ∈ filter.exclude,
        ¬pattern.accepts (repoRoot.display (top.into (names.map String.toList))).toList)
      (wanted : filter.Wants (top.into (names.map String.toList))) :
      Takes filter disk repoRoot top (top.into (names.map String.toList))

theorem mem_filesFrom_iff_takes (tree : disk.IsTree) :
    target ∈ filter.filesFrom disk repoRoot top ↔
      ∃ path, filter.Takes disk repoRoot top path ∧ target = .ofPath repoRoot path := by
  by_cases directory : ∃ place, disk.locate top .follow = .ok (place, .directory)
  · obtain ⟨place, found⟩ := directory
    simp only [mem_filesFrom_iff tree found, wantsExtension_iff]
    constructor
    · rintro ⟨names, more, held, wanted, rfl, free⟩
      -- Entries stand in directories, so there is no link on the way to one.
      have unlinked : ∀ above below, names = above ++ below →
          ∀ target, disk.kind? (place ++ above) ≠ some (.link target) := by
        rintro above below rfl target link
        rw [← List.append_assoc] at held
        cases below with
        | nil => simp [link] at held
        | cons name below =>
            have inner := tree.directory_of_append (by simp) held
            simp [link] at inner
      exact ⟨_, .below found more held unlinked (fun pattern listed => (free pattern listed).2)
        (fun pattern listed => (free pattern listed).1) wanted, rfl⟩
    · rintro ⟨path, takes, rfl⟩
      cases takes with
      | itself file wanted =>
          have other := locate_of_keep (by simp) file
          simp [found] at other
      | @below place' names found' more held unlinked passed kept wanted =>
          obtain rfl : place = place' := by simpa [found] using found'
          exact ⟨names, more, held, wanted, rfl,
            fun pattern listed => ⟨kept pattern listed, passed pattern listed⟩⟩
  · unfold filesFrom
    simp only [List.mem_map, List.mem_filter, Prod.exists, mem_entriesFrom_of_other directory,
      Bool.and_eq_true, beq_iff_eq, wantsExtension_iff]
    constructor
    · rintro ⟨path, kind, ⟨⟨rfl, place, node, found, same⟩, rfl, wanted⟩, rfl⟩
      cases node with
      | file bytes => exact ⟨path, .itself found wanted, rfl⟩
      | directory | link => cases same
    · rintro ⟨path, takes, rfl⟩
      cases takes with
      | @itself place bytes found wanted =>
          exact ⟨top, .file, ⟨⟨rfl, place, _, found, rfl⟩, rfl, wanted⟩, rfl⟩
      | below found => exact absurd ⟨_, found⟩ directory

/-- What a search takes from some roots, by the steps to it. -/
def TakesFrom (filter : TargetFilter) (disk : Disk) (repoRoot : Path) (roots : List Path)
    (steps : List Component) : Prop :=
  ∃ root ∈ roots, ∃ path, filter.Takes disk repoRoot (repoRoot.join root) path ∧
    path.components = steps

theorem takes_of_mem_collect (tree : disk.IsTree)
    (member : target ∈ filter.collect disk repoRoot roots) :
    target = .ofPath repoRoot target.path ∧
      ∃ root ∈ roots, filter.Takes disk repoRoot (repoRoot.join root) target.path := by
  obtain ⟨root, listed, found⟩ := List.mem_flatMap.mp (Target.merge_subset _ member)
  obtain ⟨path, takes, rfl⟩ := (mem_filesFrom_iff_takes tree).mp found
  exact ⟨rfl, root, listed, takes⟩

theorem takesFrom_iff (tree : disk.IsTree) {steps : List Component} :
    filter.TakesFrom disk repoRoot roots steps ↔
      ∃ target ∈ filter.collect disk repoRoot roots, target.path.components = steps := by
  constructor
  · rintro ⟨root, listed, path, takes, rfl⟩
    have among : Target.ofPath repoRoot path ∈ roots.flatMap fun root =>
        filter.filesFrom disk repoRoot (repoRoot.join root) :=
      List.mem_flatMap.mpr ⟨root, listed, (mem_filesFrom_iff_takes tree).mpr ⟨path, takes, rfl⟩⟩
    exact Target.exists_mem_merge among
  · rintro ⟨target, member, rfl⟩
    obtain ⟨-, root, listed, takes⟩ := takes_of_mem_collect tree member
    exact ⟨root, listed, target.path, takes, rfl⟩

theorem spells_of_takes (tree : disk.IsTree)
    (plain : ∀ place node, disk.locate top .follow = .ok (place, node) → top.Spells place)
    (takes : filter.Takes disk repoRoot top path) :
    ∃ place, disk.kind? place = some .file ∧ path.Spells place := by
  cases takes with
  | @itself place bytes found wanted =>
      exact ⟨place, kind?_of_locate found, plain _ _ (locate_of_keep (by simp) found)⟩
  | @below place names found more held =>
      have named : ∀ name ∈ names, IsName name.toList := tree.named_of_append held
      have begins : top.components = _ := plain _ _ found
      refine ⟨place ++ names, held, ?_⟩
      rw [Path.Spells, Path.components_into_names (shown_of_locate found)
        (List.forall_mem_map.mpr named), begins]
      simp

theorem eq_of_steps {a b : Target} (first : a ∈ filter.collect disk repoRoot roots)
    (second : b ∈ filter.collect disk repoRoot roots)
    (same : a.path.components = b.path.components) : a = b :=
  eq_of_mem_of_pairwise_lt (fun a b : Target => a.path.compare b.path) (Target.pairwise_merge _)
    first second (Path.compare_eq_iff.mpr same)

/-- A search takes what its roots lead to, in the order of the steps to it and each file once.
Roots that lead to the same files, once or more often, give the same; and when all roots are written
as the places that they lead to, no place is taken twice. -/
theorem collect_takes (filter : TargetFilter) (tree : disk.IsTree) (repoRoot : Path)
    (roots : List Path) :
    let found := filter.collect disk repoRoot roots
    found.Pairwise (fun a b => a.path.compare b.path = .lt) ∧
    (∀ steps, filter.TakesFrom disk repoRoot roots steps ↔
      ∃! target, target ∈ found ∧ target.path.components = steps) ∧
    (∀ target ∈ found, target = .ofPath repoRoot target.path ∧
      ∃ root ∈ roots, filter.Takes disk repoRoot (repoRoot.join root) target.path) ∧
    (∀ others, (∀ steps, filter.TakesFrom disk repoRoot others steps ↔
        filter.TakesFrom disk repoRoot roots steps) →
      (filter.collect disk repoRoot others).map (·.path.components) =
        found.map (·.path.components)) ∧
    ((∀ root ∈ roots, ∀ place node, disk.locate (repoRoot.join root) .follow = .ok (place, node) →
        (repoRoot.join root).Spells place) →
      ∀ target ∈ found, ∃ place, disk.kind? place = some .file ∧ target.path.Spells place ∧
        ∀ other ∈ found, other.path.Spells place → other = target) := by
  intro found
  have sorted (roots : List Path) : (filter.collect disk repoRoot roots).Pairwise
      fun a b => a.path.compare b.path = .lt := Target.pairwise_merge _
  refine ⟨sorted roots, fun steps => ?once, fun target => takes_of_mem_collect tree,
    fun others same => ?roots, fun plain target member => ?places⟩
  case once =>
    rw [takesFrom_iff tree]
    constructor
    · rintro ⟨target, member, rfl⟩
      exact ⟨target, ⟨member, rfl⟩, fun other found => eq_of_steps found.1 member found.2⟩
    · rintro ⟨target, ⟨member, rfl⟩, -⟩
      exact ⟨target, member, rfl⟩
  case roots =>
    refine eq_of_pairwise_lt Path.compareComponents (List.pairwise_map.mpr (sorted others))
      (List.pairwise_map.mpr (sorted roots)) fun steps => ?_
    rw [List.mem_map, List.mem_map, ← takesFrom_iff tree, ← takesFrom_iff tree, same]
  case places =>
    obtain ⟨-, root, listed, takes⟩ := takes_of_mem_collect tree member
    obtain ⟨place, held, spelled⟩ := spells_of_takes tree (plain root listed) takes
    refine ⟨place, held, spelled, fun other among same => ?_⟩
    exact eq_of_steps among member (same.trans spelled.symm)

/-- The file `a/keep.md` is a root and lies below another one, and is taken once. -/
theorem collect_takes_keep :
    let filter : TargetFilter := ⟨["md"], []⟩
    let disk := (((Disk.empty []).put ["r"] .directory).put ["r", "a"] .directory).put
      ["r", "a", "keep.md"] (.file "x".toUTF8)
    let repoRoot := Path.ofString "/r"
    let roots : List Path := [.ofString ".", .ofString "a/keep.md"]
    disk.IsTree ∧
    (∀ root ∈ roots, ∀ place node, disk.locate (repoRoot.join root) .follow = .ok (place, node) →
      (repoRoot.join root).Spells place) ∧
    ∃! target, target ∈ filter.collect disk repoRoot roots ∧
      target.path.Spells ["r", "a", "keep.md"] := by
  intro filter disk repoRoot roots
  have tree : disk.IsTree := by
    have top := (isTree_empty []).put [] (show IsName "r".toList by decide) rfl rfl .directory
    have inner := top.put ["r"] (show IsName "a".toList by decide) rfl rfl .directory
    exact inner.put ["r", "a"] (show IsName "keep.md".toList by decide) rfl rfl _
  have above : disk.locate (repoRoot.join (.ofString ".")) .follow = .ok (["r"], .directory) := rfl
  have here : disk.locate (repoRoot.join (.ofString "a/keep.md")) .keep =
      .ok (["r", "a", "keep.md"], .file "x".toUTF8) := rfl
  have aboveSpells : (repoRoot.join (.ofString ".")).Spells ["r"] := by
    simp only [repoRoot, Path.Spells]
    rfl
  have hereSpells : (repoRoot.join (.ofString "a/keep.md")).Spells ["r", "a", "keep.md"] := by
    simp only [repoRoot, Path.Spells]
    rfl
  have wanted : filter.Wants (repoRoot.join (.ofString "a/keep.md")) := by
    refine ⟨"md".toList, ?_, ?_⟩
    · simp only [repoRoot]
      rfl
    · exact List.mem_singleton.mpr rfl
  clear_value disk
  obtain ⟨-, once, -, -, -⟩ := collect_takes filter tree repoRoot roots
  refine ⟨tree, ?plain, (once _).mp ⟨_, by simp [roots], _, .itself here wanted, hereSpells⟩⟩
  case plain =>
    intro root listed place node found
    simp only [roots, List.mem_cons, List.not_mem_nil, or_false] at listed
    rcases listed with rfl | rfl
    · rw [above] at found
      cases found
      exact aboveSpells
    · rw [locate_of_keep (by simp) here] at found
      cases found
      exact hereSpells

end TargetFilter

end TagAudit
