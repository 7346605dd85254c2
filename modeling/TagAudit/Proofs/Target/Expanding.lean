import TagAudit.Proofs.Path.Display
import TagAudit.Proofs.Target.Merging
import TagAudit.Proofs.Target.Pieces

/-! Which files a pattern names. -/

namespace TagAudit

open Resolution

def Path.top : Path := ⟨['/']⟩

namespace Disk

variable {disk : Disk} {p : Path} {text : List Char}

theorem not_isFile_top (disk : Disk) : ¬disk.isFile .top := by
  have located : disk.locate .top .follow = .ok ([], .directory) := rfl
  rw [isFile_iff, located]
  rintro ⟨place, bytes, same⟩
  cases same

theorem isName_of_isFile_join (tree : disk.IsTree) (absolute : p.isAbsolute) (whole : '/' ∉ text)
    (isFile : disk.isFile (p.join ⟨text⟩)) : IsName text := by
  obtain ⟨found, bytes, located⟩ := isFile_iff.mp isFile
  obtain ⟨directory, left, -, here, last⟩ := locate_of_join tree absolute whole located
  obtain ⟨-, -, held⟩ := (locate_eq_ok_iff (Path.isAbsolute_join absolute ⟨text⟩)).mp located
  obtain ⟨-, -, holds⟩ := (locate_eq_ok_iff absolute).mp here
  have apart (place : Location) (kind : disk.kind? place = some .directory)
      (halted : advance disk.kind? .follow directory [Step.ofText text] = .ok (.arrived place)) :
      False := by
    rcases follow_eq_ok_iff.mp last with same | ⟨_, _, _, _, _, other, _⟩
    · rw [halted] at same
      cases same
      rw [kind?, held] at kind
      cases kind
    · rw [halted] at other
      cases other
  have inside := node?_eq_directory_iff.mp holds
  refine ⟨?_, ?_, ?_, whole⟩
  · rintro rfl
    exact apart directory inside rfl
  · rintro rfl
    exact apart directory inside rfl
  · rintro rfl
    exact apart directory.dropLast (tree.dropLast inside) rfl

end Disk

namespace Target

open Wildcard

variable {disk : Disk} {start pattern child : Path} {texts : List (List Char)}

/-- A pattern leads to a file. -/
def Finds (disk : Disk) (start pattern : Path) (texts : List (List Char)) : Prop :=
  SpelledBy pattern texts ∧ disk.isFile (start.into texts)

theorem filesMatching_of_read {names : List Wildcard} {whole : Wildcard}
    (ok : Wildcard.read pattern.text = .ok whole) (read : readNames pattern = .ok names) :
    (filesMatching disk pattern).toOption.getD [] =
      (if names.isEmpty || pattern.text.getLast? = some '/' then []
        else disk.expandFrom names (if pattern.isAbsolute then .top else ⟨['.']⟩)).filter
          disk.isFile := by
  simp only [filesMatching, ok, read, discard, Functor.discard, bind, Except.bind, pure,
    Except.pure, Except.toOption]
  rfl

theorem filesMatching_of_readNames {names : List Wildcard} (absolute : pattern.isAbsolute)
    (read : readNames pattern = .ok names) :
    (filesMatching disk pattern).toOption.getD [] =
      (if names.isEmpty || pattern.text.getLast? = some '/' then []
        else disk.expandFrom names .top).filter disk.isFile := by
  obtain ⟨whole, ok⟩ := read_of_readNames absolute read
  rw [filesMatching_of_read ok read, if_pos absolute]

theorem filesMatching_of_error {e : WildcardError} (refused : readNames pattern = .error e) :
    (filesMatching disk pattern).toOption.getD [] = [] := by
  simp only [filesMatching, discard, Functor.discard, bind, Except.bind]
  cases Wildcard.read pattern.text with
  | error e => rfl
  | ok whole =>
      rw [refused]
      rfl

theorem mem_filesMatching_iff (tree : disk.IsTree) (absolute : pattern.isAbsolute) :
    child ∈ (filesMatching disk pattern).toOption.getD [] ↔
      ∃ texts, Finds disk .top pattern texts ∧ child = Path.top.into texts := by
  have shown : pattern.text.getLast?.any (· ≠ '/') ↔ pattern.text.getLast? ≠ some '/' := by
    obtain ⟨rest, starts⟩ := isAbsolute_iff.mp absolute
    rw [starts, List.getLast?_cons]
    simp
  cases read : readNames pattern with
  | error e =>
      rw [filesMatching_of_error read]
      refine iff_of_false (by simp) ?_
      rintro ⟨texts, ⟨⟨-, names, made, -⟩, -⟩, -⟩
      rw [read] at made
      cases made
  | ok names =>
      have start : Path.top.isAbsolute := rfl
      have found (isFile : disk.isFile child) :=
        Disk.mem_expandFrom_iff tree start (whole_of_readNames read) isFile
      rw [filesMatching_of_readNames absolute read, List.mem_filter]
      constructor
      · rintro ⟨member, isFile⟩
        split at member
        next => cases member
        next goesOn =>
          rw [Bool.or_eq_true, not_or, decide_eq_true_eq] at goesOn
          obtain ⟨texts, spells, rfl⟩ := (found isFile).mp member
          exact ⟨texts, ⟨⟨shown.mpr goesOn.2, names, read, spells⟩, isFile⟩, rfl⟩
      · rintro ⟨texts, ⟨⟨ends, others, made, spells⟩, isFile⟩, rfl⟩
        rw [read] at made
        cases made
        refine ⟨?_, isFile⟩
        have more : names ≠ [] := by
          rintro rfl
          cases spells
          exact disk.not_isFile_top isFile
        rw [if_neg (by simpa [more] using shown.mp ends)]
        exact (found isFile).mpr ⟨texts, spells, rfl⟩

/-- What a pattern leads to, or the place that it names literally when it leads to no file. -/
def Selects (disk : Disk) (start pattern : Path) (literal : Prop) (steps : List Component) : Prop :=
  (∃ texts, Finds disk start pattern texts ∧ steps = (start.into texts).components) ∨
    literal ∧ (∀ texts, ¬Finds disk start pattern texts) ∧ steps = (start.join pattern).components

variable {repoRoot : Path} {given : String} {target : Target}

theorem mem_kept_iff {files : List Path} {path : Path} {literal : Prop} [Decidable literal] :
    target ∈ (if files.isEmpty && literal then [ofPath repoRoot path]
      else files.map (ofPath repoRoot)) ↔
      target = .ofPath repoRoot target.path ∧
        (target.path ∈ files ∨ literal ∧ files = [] ∧ target.path = path) := by
  have listed (paths : List Path) : target ∈ paths.map (ofPath repoRoot) ↔
      target = .ofPath repoRoot target.path ∧ target.path ∈ paths := by
    rw [List.mem_map]
    constructor
    · rintro ⟨path, member, rfl⟩
      exact ⟨rfl, member⟩
    · intro ⟨same, member⟩
      exact ⟨target.path, member, same.symm⟩
  split
  next kept =>
    rw [Bool.and_eq_true, List.isEmpty_iff, decide_eq_true_eq] at kept
    rw [← List.map_singleton, listed, List.mem_singleton]
    simp [kept]
  next other =>
    rw [Bool.and_eq_true, List.isEmpty_iff, decide_eq_true_eq] at other
    rw [listed]
    refine and_congr_right fun _ => (or_iff_left fun kept => ?_).symm
    exact other ⟨kept.2.1, kept.1⟩

theorem mem_expandOne_iff (tree : disk.IsTree) (absolute : repoRoot.isAbsolute) :
    target ∈ expandOne disk repoRoot given ↔
      target = .ofPath repoRoot target.path ∧
        ((∃ texts, Finds disk .top (repoRoot.join (.ofString given)) texts ∧
            target.path = Path.top.into texts) ∨
          Wildcard.escape given.toList = given.toList ∧
            (∀ texts, ¬Finds disk .top (repoRoot.join (.ofString given)) texts) ∧
            target.path = repoRoot.join (.ofString given)) := by
  have found {child : Path} : child ∈ _ ↔ _ :=
    mem_filesMatching_iff tree (Path.isAbsolute_join absolute (.ofString given))
  unfold expandOne
  dsimp only
  generalize
    (filesMatching disk (repoRoot.join (.ofString given))).toOption.getD [] = files at found
  have none : files = [] ↔ ∀ texts, ¬Finds disk .top (repoRoot.join (.ofString given)) texts := by
    rw [List.eq_nil_iff_forall_not_mem]
    constructor
    · intro empty texts finds
      exact empty _ (found.mpr ⟨texts, finds, rfl⟩)
    · intro lost child member
      obtain ⟨texts, finds, -⟩ := found.mp member
      exact lost texts finds
  rw [mem_kept_iff, ← none, ← found]

theorem mem_expand (tree : disk.IsTree) (absolute : repoRoot.isAbsolute)
    (member : target ∈ expand disk repoRoot [given]) :
    target = .ofPath repoRoot target.path ∧ target.path.isAbsolute ∧
      Selects disk .top (repoRoot.join (.ofString given))
        (Wildcard.escape given.toList = given.toList) target.path.components := by
  have among := merge_subset _ member
  rw [List.flatMap_singleton, mem_expandOne_iff tree absolute] at among
  obtain ⟨same, ⟨texts, finds, path⟩ | ⟨literal, lost, path⟩⟩ := among
  · exact ⟨same, by rw [path]; exact Path.isAbsolute_into rfl texts,
      .inl ⟨texts, finds, by rw [path]⟩⟩
  · have goesOn := Path.isAbsolute_join absolute (.ofString given)
    exact ⟨same, path ▸ goesOn, .inr ⟨literal, lost, by rw [path, Path.join_of_absolute goesOn]⟩⟩

theorem exists_mem_expand_iff (tree : disk.IsTree) (absolute : repoRoot.isAbsolute)
    {steps : List Component} :
    (∃ target ∈ expand disk repoRoot [given], target.path.components = steps) ↔
      Selects disk .top (repoRoot.join (.ofString given))
        (Wildcard.escape given.toList = given.toList) steps := by
  constructor
  · rintro ⟨target, member, rfl⟩
    exact (mem_expand tree absolute member).2.2
  · intro selects
    have listed {path : Path}
        (among : Target.ofPath repoRoot path ∈ expandOne disk repoRoot given) :
        ∃ target ∈ expand disk repoRoot [given], target.path.components = path.components := by
      have among : Target.ofPath repoRoot path ∈ [given].flatMap (expandOne disk repoRoot) := by
        rwa [List.flatMap_singleton]
      exact exists_mem_merge among
    rcases selects with ⟨texts, finds, rfl⟩ | ⟨literal, lost, rfl⟩
    · exact listed ((mem_expandOne_iff tree absolute).mpr ⟨rfl, .inl ⟨texts, finds, rfl⟩⟩)
    · rw [Path.join_of_absolute (Path.isAbsolute_join absolute _)]
      exact listed ((mem_expandOne_iff tree absolute).mpr ⟨rfl, .inr ⟨literal, lost, rfl⟩⟩)

end Target

end TagAudit
