import TagAudit.Proofs.Disk.Following
import TagAudit.Proofs.Path.Display
import TagAudit.Proofs.Text.Offsets

/-! Where absolute paths lead, and what can be asked of the places before. -/

namespace TagAudit

open Resolution

namespace Resolution

theorem textFault?_eq_none_iff {p : Path} :
    textFault? p = none ↔
      Char.ofNat 0 ∉ p.text ∧ p.text ≠ [] ∧ Text.byteSize p.text ≤ pathLimit := by
  unfold textFault?
  split
  next nul => simpa using fun absent => absurd (by simpa using nul) absent
  next free =>
    split
    next empty => simpa using fun _ shown => absurd (by simpa using empty) shown
    next shown =>
      split
      next long => simpa using fun _ _ => long
      next short => simp_all

theorem textFault?_of_join {p q : Path} (shown : p.text ≠ []) (relative : q.isAbsolute = false)
    (sound : textFault? (p.join q) = none) : textFault? p = none := by
  rw [textFault?_eq_none_iff] at sound ⊢
  have leads : p.text <+: (p.join q).text := by
    unfold Path.join
    rw [if_neg (by simp [relative, shown])]
    split <;> exact List.prefix_append _ _
  obtain ⟨free, -, short⟩ := sound
  refine ⟨fun nul => free (leads.mem nul), shown, ?_⟩
  obtain ⟨rest, whole⟩ := leads
  rw [← whole, Text.byteSize_append] at short
  omega

end Resolution

namespace Disk

variable {disk : Disk} {p : Path} {found : Location} {node : FileNode} {text name : List Char}
  {texts names : List (List Char)}

theorem locate_eq_ok_iff (absolute : p.isAbsolute) {last : LastLink} :
    disk.locate p last = .ok (found, node) ↔
      textFault? p = none ∧ follow disk.kind? last linkLimit [] p.steps = .ok found ∧
        disk.node? found = some node := by
  simp only [locate, resolve, absolute, if_true, bind, Except.bind]
  cases textFault? p with
  | some e => simp
  | none =>
      dsimp only
      cases follow disk.kind? last linkLimit [] p.steps with
      | error e => simp
      | ok place =>
          dsimp only
          cases held : disk.node? place with
          | none =>
              refine iff_of_false (by simp) ?_
              rintro ⟨-, same, other⟩
              cases same
              simp [held] at other
          | some other =>
              simp only [pure, Except.pure, Except.ok.injEq, Prod.mk.injEq, true_and]
              exact and_congr_right fun same => by rw [← same, held, Option.some_inj]

theorem kind_eq_file_iff : node.kind = .file ↔ ∃ bytes, node = .file bytes := by
  cases node <;> simp [FileNode.kind]

theorem kind_eq_directory_iff : node.kind = .directory ↔ node = .directory := by
  cases node <;> simp [FileNode.kind]

theorem node?_eq_directory_iff : disk.node? found = some .directory ↔
    disk.kind? found = some .directory := by
  unfold kind?
  rw [Option.map_eq_some_iff]
  simp only [kind_eq_directory_iff, exists_eq_right]

theorem kindOf?_eq_some_iff {kind : FileKind} : disk.kindOf? p = some kind ↔
    ∃ place node, disk.locate p .follow = .ok (place, node) ∧ node.kind = kind := by
  unfold kindOf?
  cases disk.locate p .follow with
  | error e => simp
  | ok result =>
      obtain ⟨place, node⟩ := result
      simp

theorem isFile_iff :
    disk.isFile p ↔ ∃ place bytes, disk.locate p .follow = .ok (place, .file bytes) := by
  unfold isFile
  rw [beq_iff_eq, kindOf?_eq_some_iff]
  refine exists_congr fun place => ?_
  simp only [kind_eq_file_iff]
  constructor
  · rintro ⟨_, located, bytes, rfl⟩
    exact ⟨bytes, located⟩
  · intro ⟨bytes, located⟩
    exact ⟨_, located, bytes, rfl⟩

theorem isDirectory_iff :
    disk.isDirectory p ↔ ∃ place, disk.locate p .follow = .ok (place, .directory) := by
  unfold isDirectory
  rw [beq_iff_eq, kindOf?_eq_some_iff]
  simp only [kind_eq_directory_iff, exists_eq_right]

theorem fileExists_iff :
    disk.fileExists p ↔ ∃ place node, disk.locate p .follow = .ok (place, node) := by
  unfold fileExists
  rw [Option.isSome_iff_exists]
  simp only [kindOf?_eq_some_iff]
  constructor
  · rintro ⟨-, place, node, located, -⟩
    exact ⟨place, node, located⟩
  · intro ⟨place, node, located⟩
    exact ⟨node.kind, place, node, located, rfl⟩

theorem fileExists_of_isFile (isFile : disk.isFile p) : disk.fileExists p := by
  unfold Disk.isFile at isFile
  simp [fileExists, eq_of_beq isFile]

theorem fileExists_of_isDirectory (isDirectory : disk.isDirectory p) : disk.fileExists p := by
  unfold Disk.isDirectory at isDirectory
  simp [fileExists, eq_of_beq isDirectory]

theorem isAbsolute_of_canonical {place : Path}
    (canonical : disk.canonical p = .ok place) : place.isAbsolute := by
  unfold Disk.canonical at canonical
  cases located : disk.locate p .follow with
  | error e => simp [located, Except.map] at canonical
  | ok found =>
      rw [located] at canonical
      rw [← Except.ok.inj canonical]
      simp [Location.toPath, Path.ofString, Path.isAbsolute]

theorem locate_of_join (tree : disk.IsTree) (absolute : p.isAbsolute) (whole : '/' ∉ text)
    (located : disk.locate (p.join ⟨text⟩) .follow = .ok (found, node)) :
    ∃ directory left, left ≤ linkLimit ∧ disk.locate p .follow = .ok (directory, .directory) ∧
      follow disk.kind? .follow left directory [Step.ofText text] = .ok found := by
  have shown := Path.shown_of_absolute absolute
  obtain ⟨sound, made, -⟩ := (locate_eq_ok_iff (Path.isAbsolute_join absolute ⟨text⟩)).mp located
  rw [Path.steps_join shown whole] at made
  obtain ⟨directory, left, few, first, kind, last⟩ :=
    follow_append tree (kind?_nil disk) (by simp) made
  refine ⟨directory, left, few, (locate_eq_ok_iff absolute).mpr ⟨?_, ?_, ?_⟩, last⟩
  · exact textFault?_of_join shown (Path.isAbsolute_of_whole whole) sound
  · change follow disk.kind? .follow linkLimit [] (p.moves ++ _) = _
    split
    · exact follow_slash tree (kind?_nil disk) first kind
    · rwa [List.append_nil]
  · exact node?_eq_directory_iff.mpr kind

theorem isDirectory_of_join (tree : disk.IsTree) (absolute : p.isAbsolute) (whole : '/' ∉ text)
    (exists' : disk.fileExists (p.join ⟨text⟩)) : disk.isDirectory p := by
  obtain ⟨found, node, located⟩ := fileExists_iff.mp exists'
  obtain ⟨directory, -, -, here, -⟩ := locate_of_join tree absolute whole located
  exact isDirectory_iff.mpr ⟨directory, here⟩

theorem fileExists_of_into (tree : disk.IsTree) (absolute : p.isAbsolute)
    (whole : ∀ text ∈ texts, '/' ∉ text) (exists' : disk.fileExists (p.into texts)) :
    disk.fileExists p := by
  induction texts generalizing p with
  | nil => exact exists'
  | cons text texts induction =>
      rw [List.forall_mem_cons] at whole
      have next := induction (Path.isAbsolute_join absolute ⟨text⟩) whole.2 exists'
      exact fileExists_of_isDirectory (isDirectory_of_join tree absolute whole.1 next)

theorem entry_of_join (tree : disk.IsTree) (absolute : p.isAbsolute) (isName : IsName name)
    (exists' : disk.fileExists (p.join ⟨name⟩)) :
    ∃ directory kind, disk.locate p .follow = .ok (directory, .directory) ∧
      disk.kind? (directory ++ [String.ofList name]) = some kind ∧
      (kind = .file → ¬disk.isDirectory (p.join ⟨name⟩)) := by
  obtain ⟨found, node, located⟩ := fileExists_iff.mp exists'
  obtain ⟨directory, left, -, here, last⟩ := locate_of_join tree absolute isName.whole located
  obtain ⟨-, -, held⟩ := (locate_eq_ok_iff (Path.isAbsolute_join absolute ⟨name⟩)).mp located
  rw [Step.ofText_of_isName isName] at last
  have halts {halt : Halt} (halted : advance disk.kind? .follow directory
      ([String.ofList name].map .into) = .ok halt) := advance_names halted
  rcases follow_eq_ok_iff.mp last with halted | ⟨_, _, _, _, -, halted, -⟩
  · rcases halts halted with same | ⟨_, _, _, _, -, same, -⟩
    · cases same
      refine ⟨directory, node.kind, here, by rw [kind?, held]; rfl, fun isFile isDirectory => ?_⟩
      obtain ⟨place, same⟩ := isDirectory_iff.mp isDirectory
      rw [located] at same
      cases same
      cases isFile
    · cases same
  · rcases halts halted with same | ⟨front, _, _, target, whole, -, held⟩
    · cases same
    · obtain ⟨rfl, rfl, rfl⟩ : front = [] ∧ _ = String.ofList name ∧ _ = [] := by
        simpa [eq_comm, List.append_eq_singleton_iff] using whole
      refine ⟨directory, .link target, here, by simpa using held, by simp⟩

theorem entryExists_of_fileExists (absolute : p.isAbsolute) (exists' : disk.fileExists p) :
    disk.entryExists p := by
  obtain ⟨found, node, located⟩ := fileExists_iff.mp exists'
  obtain ⟨sound, made, held⟩ := (locate_eq_ok_iff absolute).mp located
  obtain ⟨kept, made, exists'⟩ :=
    exists_follow_keep (by rw [kind?, held]; rfl) made
  have holds : (disk.node? kept).isSome := by simpa [kind?] using exists'
  obtain ⟨node, holds⟩ := Option.isSome_iff_exists.mp holds
  rw [entryExists, (locate_eq_ok_iff absolute).mpr ⟨sound, made, holds⟩]
  rfl

/-- A path that leads anywhere continues another one with few names. -/
theorem length_le_of_fileExists (tree : disk.IsTree) (absolute : p.isAbsolute)
    (named : ∀ name ∈ names, IsName name) (exists' : disk.fileExists (p.into names)) :
    names.length ≤ (linkLimit + 1) * (disk.height + 1) := by
  by_cases more : names = []
  · simp [more]
  · obtain ⟨found, node, located⟩ := fileExists_iff.mp exists'
    obtain ⟨-, made, held⟩ := (locate_eq_ok_iff (Path.isAbsolute_into absolute names)).mp located
    have shown := Path.shown_of_absolute absolute
    have steps : (p.into names).steps = p.moves ++ (names.map String.ofList).map .into := by
      change (p.into names).moves ++ _ = _
      rw [if_neg (Path.into_bare shown more named), List.append_nil, Path.moves_into shown named,
        List.map_map]
      rfl
    rw [steps] at made
    obtain ⟨directory, left, few, -, kind, last⟩ :=
      follow_append tree (kind?_nil disk) (by simpa using more) made
    have short := length_le_of_follow tree kind last (by rw [kind?, held]; rfl)
    rw [List.length_map] at short
    exact short.trans (Nat.mul_le_mul_right _ (Nat.succ_le_succ few))

end Disk

end TagAudit
