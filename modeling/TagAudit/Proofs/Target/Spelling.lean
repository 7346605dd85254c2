import TagAudit.Proofs.Disk.Locating
import TagAudit.Target.Expansion

/-! Which files the names between the slashes of a pattern lead to. -/

namespace TagAudit

namespace Wildcard

/-- Whether a pattern of one name takes a text as a step.  A pattern without wildcards takes its
own text, and of `.` and `..` one that begins with a dot takes what it accepts. -/
def Takes (pattern : Wildcard) (text : List Char) : Prop :=
  match pattern.literal? with
  | some name => text = name
  | none => pattern.accepts text ∧
      (IsName text ∨
        pattern.tokens.head? = some (.literal '.') ∧ (text = ['.'] ∨ text = ['.', '.']))

inductive Spells : List Wildcard → List (List Char) → Prop
  | done : Spells [] []
  | step {pattern : Wildcard} {rest : List Wildcard} {text : List Char}
      {texts : List (List Char)} : pattern.isRecursive = false → pattern.Takes text →
      Spells rest texts → Spells (pattern :: rest) (text :: texts)
  | directories {pattern next : Wildcard} {rest : List Wildcard} {name : List Char}
      {above texts : List (List Char)} : pattern.isRecursive → next.isRecursive = false →
      (∀ name ∈ above, IsName name) → IsName name → next.accepts name → Spells rest texts →
      Spells (pattern :: next :: rest) (above ++ name :: texts)
  | again {pattern next : Wildcard} {rest : List Wildcard} {texts : List (List Char)} :
      pattern.isRecursive → next.isRecursive → Spells (next :: rest) texts →
      Spells (pattern :: next :: rest) texts

def Whole (pattern : Wildcard) : Prop :=
  ∀ name ∈ pattern.literal?, '/' ∉ name

theorem Takes.whole {pattern : Wildcard} {text : List Char} (takes : pattern.Takes text)
    (whole : pattern.Whole) : '/' ∉ text := by
  unfold Takes at takes
  unfold Whole at whole
  cases literal : pattern.literal? with
  | some name =>
      rw [literal] at takes whole
      exact takes ▸ whole name rfl
  | none =>
      rw [literal] at takes
      rcases takes.2 with isName | ⟨-, rfl | rfl⟩
      · exact isName.whole
      · decide
      · decide

theorem Spells.whole {patterns : List Wildcard} {texts : List (List Char)}
    (spells : Spells patterns texts) (whole : ∀ pattern ∈ patterns, pattern.Whole) :
    ∀ text ∈ texts, '/' ∉ text := by
  induction spells with
  | done => simp
  | step _ takes _ induction =>
      rw [List.forall_mem_cons] at whole
      exact List.forall_mem_cons.mpr ⟨takes.whole whole.1, induction whole.2⟩
  | directories _ _ named isName _ _ induction =>
      rw [List.forall_mem_cons, List.forall_mem_cons] at whole
      refine List.forall_mem_append.mpr ⟨fun name member => (named name member).whole, ?_⟩
      exact List.forall_mem_cons.mpr ⟨isName.whole, induction whole.2.2⟩
  | again _ _ _ induction => exact induction (List.forall_mem_cons.mp whole).2

end Wildcard

namespace Disk

open Wildcard

variable {disk : Disk} {path child : Path} {kind : FileKind} {name text : List Char}
  {names texts : List (List Char)} {pattern : Wildcard} {patterns : List Wildcard}

theorem not_current (absolute : path.isAbsolute) : path.components ≠ [.current] := by
  have slash : path.text.head? = some '/' := by simpa [Path.isAbsolute] using absolute
  rw [Path.components_eq, Path.lead, if_pos slash]
  simp

theorem mem_pathsIn_iff (absolute : path.isAbsolute) :
    (child, kind) ∈ disk.pathsIn path ↔
      ∃ place name, disk.locate path .follow = .ok (place, .directory) ∧
        disk.kind? (place ++ [name]) = some kind ∧ child = path.join (.ofString name) := by
  unfold pathsIn
  split
  next place located =>
    simp only [not_current absolute, if_false, List.mem_map, Prod.exists, Prod.mk.injEq]
    constructor
    · rintro ⟨name, entry, member, rfl, rfl⟩
      exact ⟨place, name, located, mem_children_iff.mp member, rfl⟩
    · rintro ⟨place', name, same, held, rfl⟩
      obtain ⟨rfl, -⟩ := Prod.mk.inj (Except.ok.inj (located.symm.trans same))
      exact ⟨name, kind, mem_children_iff.mpr held, rfl, rfl⟩
  next other =>
    refine iff_of_false (by simp) ?_
    rintro ⟨place, name, located, -⟩
    exact other place located

theorem exists_mem_pathsIn (tree : disk.IsTree) (absolute : path.isAbsolute)
    (isName : IsName name) (exists' : disk.fileExists (path.join ⟨name⟩)) :
    ∃ kind, (path.join ⟨name⟩, kind) ∈ disk.pathsIn path ∧
      (disk.isDirectory (path.join ⟨name⟩) → disk.isDirectoryEntry (path.join ⟨name⟩) kind) := by
  obtain ⟨directory, kind, here, held, file⟩ := entry_of_join tree absolute isName exists'
  refine ⟨kind, (mem_pathsIn_iff absolute).mpr ⟨directory, _, here, held, ?_⟩,
    fun isDirectory => ?_⟩
  · rw [Path.ofString, String.toList_ofList]
  · cases kind with
    | file => exact absurd isDirectory (file rfl)
    | directory => rfl
    | link target => exact isDirectory

theorem exists_name_of_mem_pathsIn (tree : disk.IsTree) (absolute : path.isAbsolute)
    (member : (child, kind) ∈ disk.pathsIn path) :
    ∃ name, IsName name ∧ child = path.join ⟨name⟩ := by
  obtain ⟨place, name, -, held, rfl⟩ := (mem_pathsIn_iff absolute).mp member
  exact ⟨name.toList, tree.named held, rfl⟩

/-! Any number of directories. -/

theorem exists_names_of_mem_pathsBelow (tree : disk.IsTree) (absolute : path.isAbsolute)
    {depth : Nat} (member : child ∈ disk.pathsBelow depth path) :
    ∃ above name, (∀ name ∈ above, IsName name) ∧ IsName name ∧
      child = (path.into above).join ⟨name⟩ := by
  induction depth generalizing path with
  | zero => simp [pathsBelow] at member
  | succ depth induction =>
      rw [pathsBelow, List.mem_flatMap] at member
      obtain ⟨⟨next, kind⟩, entry, found⟩ := member
      obtain ⟨name, isName, rfl⟩ := exists_name_of_mem_pathsIn tree absolute entry
      rcases List.mem_cons.mp found with rfl | below
      · exact ⟨[], name, by simp, isName, rfl⟩
      · split at below
        next =>
          obtain ⟨above, last, named, isName', rfl⟩ :=
            induction (Path.isAbsolute_join absolute ⟨name⟩) below
          exact ⟨name :: above, last, List.forall_mem_cons.mpr ⟨isName, named⟩, isName', rfl⟩
        next => cases below

theorem mem_pathsBelow (tree : disk.IsTree) (absolute : path.isAbsolute)
    (more : names ≠ []) (named : ∀ name ∈ names, IsName name)
    (exists' : disk.fileExists (path.into names)) {depth : Nat} (enough : names.length ≤ depth) :
    path.into names ∈ disk.pathsBelow depth path := by
  induction names generalizing path depth with
  | nil => exact absurd rfl more
  | cons name names induction =>
      cases depth with
      | zero => simp at enough
      | succ depth =>
          rw [List.forall_mem_cons] at named
          have goesOn := Path.isAbsolute_join absolute ⟨name⟩
          have next :=
            fileExists_of_into tree goesOn (fun name member => (named.2 name member).whole)
            exists'
          obtain ⟨kind, entry, further⟩ := exists_mem_pathsIn tree absolute named.1 next
          rw [pathsBelow, List.mem_flatMap]
          refine ⟨_, entry, ?_⟩
          cases names with
          | nil => exact List.mem_cons_self
          | cons second names =>
              have isDirectory : disk.isDirectory (path.join ⟨name⟩) := by
                rw [List.forall_mem_cons] at named
                refine isDirectory_of_join tree goesOn named.2.1.whole ?_
                exact fileExists_of_into tree (Path.isAbsolute_join goesOn ⟨second⟩)
                  (fun name member => (named.2.2 name member).whole) exists'
              dsimp only
              rw [if_pos (further isDirectory)]
              exact List.mem_cons_of_mem _
                (induction goesOn (by simp) named.2 exists' (Nat.le_of_succ_le_succ enough))

/-! One name. -/

theorem exists_takes_of_mem_pathsMatching (tree : disk.IsTree) (absolute : path.isAbsolute)
    (member : child ∈ disk.pathsMatching pattern path) :
    ∃ text, pattern.Takes text ∧ child = path.join ⟨text⟩ := by
  unfold pathsMatching at member
  unfold Takes
  cases literal : pattern.literal? with
  | some name =>
      rw [literal] at member
      simp only [pathOfName?, not_current absolute, if_false, Option.mem_toList,
        Option.ite_none_right_eq_some] at member
      exact ⟨name, rfl, (Option.some_inj.mp member.2).symm⟩
  | none =>
      rw [literal] at member
      rcases List.mem_append.mp member with special | entry
      · unfold specialPaths at special
        split at special
        next leads =>
          obtain ⟨text, kept, rfl⟩ := List.mem_map.mp special
          obtain ⟨dots, accepts⟩ := List.mem_filter.mp kept
          rw [Bool.and_eq_true, beq_iff_eq] at leads
          exact ⟨text, ⟨accepts, .inr ⟨leads.1, by simpa using dots⟩⟩, rfl⟩
        next => cases special
      · obtain ⟨listed, accepts⟩ := List.mem_filter.mp entry
        obtain ⟨⟨entry, kind⟩, held, rfl⟩ := List.mem_map.mp listed
        obtain ⟨name, isName, rfl⟩ := exists_name_of_mem_pathsIn tree absolute held
        rw [Path.fileName?_join (Path.shown_of_absolute absolute) isName] at accepts
        exact ⟨name, ⟨accepts, .inl isName⟩, rfl⟩

theorem mem_pathsMatching (tree : disk.IsTree) (absolute : path.isAbsolute)
    (takes : pattern.Takes text) (whole : '/' ∉ text)
    (exists' : disk.fileExists (path.join ⟨text⟩)) :
    path.join ⟨text⟩ ∈ disk.pathsMatching pattern path := by
  have isDirectory := isDirectory_of_join tree absolute whole exists'
  unfold pathsMatching
  unfold Takes at takes
  cases literal : pattern.literal? with
  | some name =>
      rw [literal] at takes
      subst takes
      have entry := entryExists_of_fileExists (Path.isAbsolute_join absolute ⟨text⟩) exists'
      simp [pathOfName?, not_current absolute, isDirectory, entry]
  | none =>
      rw [literal] at takes
      obtain ⟨accepts, isName | ⟨leads, dots⟩⟩ := takes
      · refine List.mem_append_right _ (List.mem_filter.mpr ⟨?_, ?_⟩)
        · obtain ⟨kind, member, -⟩ := exists_mem_pathsIn tree absolute isName exists'
          exact List.mem_map.mpr ⟨_, member, rfl⟩
        · rw [Path.fileName?_join (Path.shown_of_absolute absolute) isName]
          exact accepts
      · refine List.mem_append_left _ ?_
        unfold specialPaths
        rw [if_pos (by simp [leads, isDirectory])]
        exact List.mem_map.mpr ⟨text, List.mem_filter.mpr ⟨by simpa using dots, accepts⟩, rfl⟩

theorem exists_spells_of_mem_expandFrom {patterns : List Wildcard} {path : Path}
    (tree : disk.IsTree) (absolute : path.isAbsolute) (isFile : disk.isFile child)
    (member : child ∈ disk.expandFrom patterns path) :
    ∃ texts, Spells patterns texts ∧ child = path.into texts := by
  match patterns with
  | [] =>
      rw [expandFrom, List.mem_singleton] at member
      exact ⟨[], .done, member⟩
  | [pattern] =>
      rw [expandFrom] at member
      split at member
      next =>
        -- At the end of a pattern, `**` leads to directories.
        have isDirectory := (List.mem_filter.mp member).2
        unfold Disk.isFile at isFile
        simp [Disk.isDirectory, eq_of_beq isFile] at isDirectory
      next single =>
        obtain ⟨text, takes, rfl⟩ := exists_takes_of_mem_pathsMatching tree absolute member
        exact ⟨[text], .step (by simpa using single) takes .done, rfl⟩
  | pattern :: next :: rest =>
      rw [expandFrom] at member
      split at member
      next single =>
        obtain ⟨step, matching, found⟩ := List.mem_flatMap.mp member
        obtain ⟨text, takes, rfl⟩ := exists_takes_of_mem_pathsMatching tree absolute matching
        obtain ⟨texts, spells, rfl⟩ := exists_spells_of_mem_expandFrom tree
          (Path.isAbsolute_join absolute ⟨text⟩) isFile found
        exact ⟨text :: texts, .step (by simpa using single) takes spells, rfl⟩
      next recursive =>
        rw [Bool.not_eq_true', Bool.not_eq_false] at recursive
        split at member
        next again =>
          obtain ⟨texts, spells, rfl⟩ := exists_spells_of_mem_expandFrom tree absolute isFile member
          exact ⟨texts, .again recursive again spells, rfl⟩
        next single =>
          obtain ⟨step, below, found⟩ := List.mem_flatMap.mp member
          obtain ⟨above, name, named, isName, rfl⟩ :=
            exists_names_of_mem_pathsBelow tree absolute below
          have inside := Path.isAbsolute_into absolute above
          split at found
          next accepts =>
            rw [Path.fileName?_join (Path.shown_of_absolute inside) isName] at accepts
            obtain ⟨texts, spells, rfl⟩ := exists_spells_of_mem_expandFrom tree
              (Path.isAbsolute_join inside ⟨name⟩) isFile found
            refine ⟨above ++ name :: texts, .directories recursive (by simpa using single) named
              isName accepts spells, ?_⟩
            rw [Path.into_append, Path.into_cons]
          next => cases found

theorem mem_expandFrom_of_spells (tree : disk.IsTree) (absolute : path.isAbsolute)
    (whole : ∀ pattern ∈ patterns, pattern.Whole) (spells : Spells patterns texts)
    (exists' : disk.fileExists (path.into texts)) :
    path.into texts ∈ disk.expandFrom patterns path := by
  induction spells generalizing path with
  | done => simp [expandFrom]
  | @step pattern rest text texts single takes spells induction =>
      rw [List.forall_mem_cons] at whole
      have goesOn := Path.isAbsolute_join absolute ⟨text⟩
      have later := induction goesOn whole.2 exists'
      have here : path.join ⟨text⟩ ∈ disk.pathsMatching pattern path :=
        mem_pathsMatching tree absolute takes (takes.whole whole.1)
          (fileExists_of_into tree goesOn (spells.whole whole.2) exists')
      cases rest with
      | nil =>
          rw [expandFrom, List.mem_singleton] at later
          rw [expandFrom, single, Path.into_cons, later]
          exact here
      | cons next rest =>
          rw [expandFrom, single]
          exact List.mem_flatMap.mpr ⟨_, here, later⟩
  | @directories pattern next rest name above texts recursive single named isName accepts spells
      induction =>
      rw [List.forall_mem_cons, List.forall_mem_cons] at whole
      have inside := Path.isAbsolute_into absolute above
      have goesOn := Path.isAbsolute_join inside ⟨name⟩
      rw [Path.into_append, Path.into_cons] at exists' ⊢
      have later := induction goesOn whole.2.2 exists'
      have reached := fileExists_of_into tree goesOn (spells.whole whole.2.2) exists'
      have all : ∀ other ∈ above ++ [name], IsName other :=
        List.forall_mem_append.mpr ⟨named, List.forall_mem_singleton.mpr isName⟩
      have whole : path.into (above ++ [name]) = (path.into above).join ⟨name⟩ := by
        rw [Path.into_append, Path.into_cons, Path.into_nil]
      rw [← whole] at reached later
      rw [expandFrom, recursive, single]
      refine List.mem_flatMap.mpr ⟨path.into (above ++ [name]), ?_, ?_⟩
      · exact mem_pathsBelow tree absolute (by simp) all reached
          (length_le_of_fileExists tree absolute all reached)
      · rw [whole, Path.fileName?_join (Path.shown_of_absolute inside) isName, ← whole]
        exact (if_pos accepts).symm ▸ later
  | @again pattern next rest texts recursive single spells induction =>
      rw [expandFrom, recursive, single]
      exact induction absolute (List.forall_mem_cons.mp whole).2 exists'

/-- The files that names between slashes lead to are those whose paths they spell. -/
theorem mem_expandFrom_iff (tree : disk.IsTree) (absolute : path.isAbsolute)
    (whole : ∀ pattern ∈ patterns, pattern.Whole) (isFile : disk.isFile child) :
    child ∈ disk.expandFrom patterns path ↔
      ∃ texts, Spells patterns texts ∧ child = path.into texts := by
  constructor
  · exact exists_spells_of_mem_expandFrom tree absolute isFile
  · rintro ⟨texts, spells, rfl⟩
    exact mem_expandFrom_of_spells tree absolute whole spells (fileExists_of_isFile isFile)

end Disk

end TagAudit
