import TagAudit.Proofs.Target.Expanding

/-! What a relative pattern names behind a root without wildcards. -/

namespace TagAudit.Target

open Wildcard TagAudit.Path

variable {disk : Disk} {root pattern : Path} {texts : List (List Char)} {below : List Component}

def base (root : Path) : Path :=
  Path.top.into (pieces root)

theorem isAbsolute_base (root : Path) : (base root).isAbsolute :=
  Path.isAbsolute_into rfl (pieces root)

theorem components_base (absolute : root.isAbsolute) :
    (base root).components = root.components := by
  rw [base, Path.components_into (by simp [Path.top]) fun piece member => (mem_pieces member).1,
    components_of_absolute absolute]
  rfl

theorem SpelledBy.whole (spelled : SpelledBy pattern texts) : ∀ text ∈ texts, '/' ∉ text := by
  obtain ⟨-, names, read, spells⟩ := spelled
  exact spells.whole (whole_of_readNames read)

theorem components_of_spelled (absolute : root.isAbsolute) (spelled : SpelledBy pattern texts) :
    ((base root).into texts).components =
      root.components ++ texts.filterMap Component.ofPiece? := by
  rw [Path.components_into (Path.shown_of_absolute (isAbsolute_base root)) spelled.whole,
    components_base absolute]

theorem finds_join_iff (absolute : root.isAbsolute) (plain : Plain root)
    (relative : pattern.isAbsolute = false) :
    Finds disk .top (root.join pattern) texts ↔
      ∃ rest, texts = pieces root ++ rest ∧ Finds disk (base root) pattern rest := by
  unfold Finds base
  rw [spelledBy_join_iff absolute plain relative]
  constructor
  · rintro ⟨⟨rest, rfl, spelled⟩, isFile⟩
    exact ⟨rest, rfl, spelled, by rwa [← Path.into_append]⟩
  · rintro ⟨rest, rfl, spelled, isFile⟩
    exact ⟨⟨rest, rfl, spelled⟩, by rwa [Path.into_append]⟩

theorem selects_join_iff (absolute : root.isAbsolute) (plain : Plain root)
    (relative : pattern.isAbsolute = false) {literal : Prop} {steps : List Component} :
    Selects disk .top (root.join pattern) literal steps ↔
      Selects disk (base root) pattern literal steps := by
  have whole : (root.join pattern).components = ((base root).join pattern).components := by
    rw [Path.components_join (Path.shown_of_absolute absolute) relative,
      Path.components_join (Path.shown_of_absolute (isAbsolute_base root)) relative,
      components_base absolute]
  have none : (∀ texts, ¬Finds disk .top (root.join pattern) texts) ↔
      ∀ texts, ¬Finds disk (base root) pattern texts := by
    simp only [finds_join_iff absolute plain relative]
    constructor
    · intro lost texts finds
      exact lost _ ⟨texts, rfl, finds⟩
    · rintro lost _ ⟨rest, -, finds⟩
      exact lost rest finds
  unfold Selects
  rw [Path.join_of_absolute (Path.isAbsolute_join absolute pattern), whole, none]
  refine or_congr_left ?_
  simp only [finds_join_iff absolute plain relative]
  constructor
  · rintro ⟨_, ⟨rest, rfl, finds⟩, rfl⟩
    exact ⟨rest, finds, by rw [Path.into_append, base]⟩
  · rintro ⟨rest, finds, rfl⟩
    exact ⟨_, ⟨rest, rfl, finds⟩, by rw [Path.into_append, base]⟩

/-- What a pattern selects, as steps from where it starts. -/
theorem selects_below_iff (absolute : root.isAbsolute) (relative : pattern.isAbsolute = false)
    {literal : Prop} {below : List Component} :
    Selects disk (base root) pattern literal (root.components ++ below) ↔
      (∃ texts, Finds disk (base root) pattern texts ∧
        below = texts.filterMap Component.ofPiece?) ∨
      literal ∧ (∀ texts, ¬Finds disk (base root) pattern texts) ∧
        below = Path.inner pattern.text := by
  unfold Selects
  rw [Path.components_join (Path.shown_of_absolute (isAbsolute_base root)) relative,
    components_base absolute, List.append_cancel_left_eq]
  refine or_congr_left (exists_congr fun texts => and_congr_right fun finds => ?_)
  rw [components_of_spelled absolute finds.1, List.append_cancel_left_eq]

theorem exists_below_of_selects (absolute : root.isAbsolute) (relative : pattern.isAbsolute = false)
    {literal : Prop} {steps : List Component}
    (selects : Selects disk (base root) pattern literal steps) :
    ∃ below, steps = root.components ++ below := by
  rcases selects with ⟨texts, finds, rfl⟩ | ⟨-, -, rfl⟩
  · exact ⟨_, components_of_spelled absolute finds.1⟩
  · rw [Path.components_join (Path.shown_of_absolute (isAbsolute_base root)) relative,
      components_base absolute]
    exact ⟨_, rfl⟩

/-! Patterns that do not lead up. -/

/-- No piece of a pattern takes `..` as a step. -/
def Stays (pattern : Path) : Prop :=
  ∀ piece ∈ pieces pattern, ∀ name, Wildcard.read piece = .ok name → ¬name.Takes ['.', '.']

theorem not_mem_of_spells {names : List Wildcard} (spells : Spells names texts)
    (stays : ∀ name ∈ names, ¬name.Takes ['.', '.']) : ['.', '.'] ∉ texts := by
  induction spells with
  | done => simp
  | step _ takes _ induction =>
      rw [List.forall_mem_cons] at stays
      intro member
      rcases List.mem_cons.mp member with rfl | later
      · exact stays.1 takes
      · exact induction stays.2 later
  | directories _ _ named isName _ _ induction =>
      rw [List.forall_mem_cons, List.forall_mem_cons] at stays
      intro member
      rcases List.mem_append.mp member with above | later
      · exact (named _ above).notParent rfl
      · rcases List.mem_cons.mp later with rfl | later
        · exact isName.notParent rfl
        · exact induction stays.2.2 later
  | again _ _ _ induction => exact induction (List.forall_mem_cons.mp stays).2

theorem SpelledBy.not_mem (spelled : SpelledBy pattern texts) (stays : Stays pattern) :
    ['.', '.'] ∉ texts := by
  obtain ⟨-, names, read, spells⟩ := spelled
  refine not_mem_of_spells spells fun name member => ?_
  obtain ⟨piece, listed, made⟩ := exists_of_mem_mapM read member
  exact stays piece listed name made

theorem parent_not_mem {pieces : List (List Char)} (absent : ['.', '.'] ∉ pieces) :
    Component.parent ∉ pieces.filterMap Component.ofPiece? := by
  intro member
  obtain ⟨piece, listed, made⟩ := List.mem_filterMap.mp member
  unfold Component.ofPiece? at made
  split at made
  next => cases made
  next =>
    split at made
    next dots => exact absent (dots ▸ listed)
    next => cases made

theorem ne_nil_of_spells {names : List Wildcard} (spells : Spells names texts)
    (more : names ≠ []) : texts ≠ [] := by
  induction spells with
  | done => exact absurd rfl more
  | step => simp
  | directories => simp
  | again _ _ _ induction => exact induction (by simp)

theorem pieces_ne_nil (relative : pattern.isAbsolute = false) (more : inner pattern.text ≠ []) :
    pieces pattern ≠ [] := by
  intro none
  rw [inner_of_relative relative, none] at more
  exact more rfl

theorem ne_nil_of_finds (tree : disk.IsTree) (more : pieces pattern ≠ [])
    (finds : Finds disk (base root) pattern texts) :
    texts.filterMap Component.ofPiece? ≠ [] := by
  obtain ⟨spelled, isFile⟩ := finds
  have whole := spelled.whole
  obtain ⟨-, names, read, spells⟩ := spelled
  have shown : names ≠ [] := by
    rintro rfl
    exact more (List.forall₂_nil_right_iff.mp ((mapM_eq_ok_iff _).mp read))
  rcases List.eq_nil_or_concat texts with rfl | ⟨above, last, rfl⟩
  · exact absurd rfl (ne_nil_of_spells spells shown)
  · rw [List.concat_eq_append] at isFile whole ⊢
    rw [into_append] at isFile
    have isName := Disk.isName_of_isFile_join tree (isAbsolute_into (isAbsolute_base root) above)
      (whole last (by simp)) isFile
    simp [isName.ofPiece?]

variable {given : String}

theorem parent_not_mem_of_selects (absolute : root.isAbsolute)
    (relative : (Path.ofString given).isAbsolute = false) (stays : Stays (.ofString given))
    (selects : Selects disk (base root) (.ofString given)
      (escape given.toList = given.toList) (root.components ++ below)) :
    .parent ∉ below := by
  rcases (selects_below_iff absolute relative).mp selects with
    ⟨texts, finds, rfl⟩ | ⟨escaped, -, rfl⟩
  · exact parent_not_mem (finds.1.not_mem stays)
  · rw [inner_of_relative relative]
    refine parent_not_mem fun member => ?_
    exact stays _ member _ (read_of_plain (by simp)) (takes_literal_iff.mpr rfl)

theorem ne_nil_of_selects (tree : disk.IsTree) (absolute : root.isAbsolute)
    (relative : pattern.isAbsolute = false) (more : inner pattern.text ≠ []) {literal : Prop}
    (selects : Selects disk (base root) pattern literal (root.components ++ below)) :
    below ≠ [] := by
  rcases (selects_below_iff absolute relative).mp selects with ⟨texts, finds, rfl⟩ | ⟨-, -, rfl⟩
  · exact ne_nil_of_finds tree (pieces_ne_nil relative more) finds
  · exact more

/-! What is shown. -/

def shownBelow (below : List Component) : String :=
  String.ofList (slashed (joinPieces (below.map Component.text)))

theorem exists_belows (tree : disk.IsTree) (absolute : root.isAbsolute) (plain : Plain root)
    (relative : (Path.ofString given).isAbsolute = false) (stays : Stays (.ofString given))
    (more : inner given.toList ≠ []) :
    ∃ belows : List (List Component),
      (belows.Pairwise fun a b => compareComponents a b = .lt) ∧
      (∀ below, below ∈ belows ↔ Selects disk (base root) (.ofString given)
        (escape given.toList = given.toList) (root.components ++ below)) ∧
      (expand disk root [given]).map Target.display = belows.map shownBelow := by
  have within : ∀ target ∈ expand disk root [given], ∃ below,
      target.path.components = root.components ++ below ∧
        target.display = shownBelow below := by
    intro target member
    obtain ⟨same, goesOn, selects⟩ := mem_expand tree absolute member
    rw [selects_join_iff absolute plain relative] at selects
    obtain ⟨below, steps⟩ := exists_below_of_selects absolute relative selects
    rw [steps] at selects
    refine ⟨below, steps, ?_⟩
    rw [same]
    refine display_of_below absolute goesOn steps ⟨?_, fun first => ?_⟩
    · exact ne_nil_of_selects tree absolute relative more selects
    · exact parent_not_mem_of_selects absolute relative stays selects (List.mem_of_mem_head? first)
  refine ⟨(expand disk root [given]).map fun target =>
    target.path.components.drop root.components.length, ?_, fun below => ?_, ?_⟩
  · refine List.pairwise_map.mpr ((pairwise_merge _).imp_of_mem fun {a b} first second less => ?_)
    obtain ⟨above, here, -⟩ := within a first
    obtain ⟨other, there, -⟩ := within b second
    rw [Path.compare, here, there, compareComponents_append] at less
    rwa [here, there, List.drop_left, List.drop_left]
  · rw [← selects_join_iff absolute plain relative, ← exists_mem_expand_iff tree absolute,
      List.mem_map]
    refine exists_congr fun target => and_congr_right fun member => ?_
    obtain ⟨found, steps, -⟩ := within target member
    rw [steps, List.drop_left, List.append_cancel_left_eq]
  · rw [List.map_map]
    refine List.map_congr_left fun target member => ?_
    obtain ⟨found, steps, shown⟩ := within target member
    rw [Function.comp_apply, steps, List.drop_left, shown]

theorem display_expand {disk' : Disk} {root' : Path} (tree : disk.IsTree) (tree' : disk'.IsTree)
    (absolute : root.isAbsolute) (absolute' : root'.isAbsolute) (plain : Plain root)
    (plain' : Plain root') (relative : (Path.ofString given).isAbsolute = false)
    (stays : Stays (.ofString given)) (more : inner given.toList ≠ [])
    (alike : ∀ texts, SpelledBy (.ofString given) texts →
      (disk.isFile ((base root).into texts) ↔ disk'.isFile ((base root').into texts))) :
    (expand disk root [given]).map Target.display =
      (expand disk' root' [given]).map Target.display := by
  obtain ⟨belows, sorted, members, shown⟩ := exists_belows tree absolute plain relative stays more
  obtain ⟨belows', sorted', members', shown'⟩ :=
    exists_belows tree' absolute' plain' relative stays more
  have finds (texts : List (List Char)) : Finds disk (base root) (.ofString given) texts ↔
      Finds disk' (base root') (.ofString given) texts := and_congr_right (alike texts)
  have same : belows = belows' := by
    refine eq_of_pairwise_lt compareComponents sorted sorted' fun below => ?_
    rw [members, members', selects_below_iff absolute relative,
      selects_below_iff absolute' relative]
    simp only [finds]
  rw [shown, shown', same]

/-- The targets of a relative pattern are what the root and the pattern lead to when both are read
as one pattern.  Behind a root without wildcards these are the files that the pattern leads to from
the root, or the place that it names.  When no piece of it takes `..` they lie below the root, and
the same is shown for another root with such files. -/
theorem expand_relative (tree : disk.IsTree) (absolute : root.isAbsolute)
    (relative : (Path.ofString given).isAbsolute = false) :
    let pattern := Path.ofString given
    let literal := escape given.toList = given.toList
    (∀ steps, (∃ target ∈ expand disk root [given], target.path.components = steps) ↔
      Selects disk .top (root.join pattern) literal steps) ∧
    (Plain root →
      (∀ steps, (∃ target ∈ expand disk root [given], target.path.components = steps) ↔
        Selects disk (base root) pattern literal steps) ∧
      (Stays pattern →
        (∀ target ∈ expand disk root [given], ∃ below,
          target.path.components = root.components ++ below ∧ .parent ∉ below) ∧
        (inner pattern.text ≠ [] → ∀ (disk' : Disk) (root' : Path), disk'.IsTree →
          root'.isAbsolute → Plain root' →
          (∀ texts, SpelledBy pattern texts →
            (disk.isFile ((base root).into texts) ↔ disk'.isFile ((base root').into texts))) →
          (expand disk root [given]).map Target.display =
            (expand disk' root' [given]).map Target.display))) := by
  intro pattern literal
  refine ⟨fun steps => exists_mem_expand_iff tree absolute, fun plain => ⟨fun steps => ?_, ?_⟩⟩
  · rw [exists_mem_expand_iff tree absolute]
    exact selects_join_iff absolute plain relative
  · intro stays
    refine ⟨fun target member => ?_, ?_⟩
    · obtain ⟨-, -, selects⟩ := mem_expand tree absolute member
      rw [selects_join_iff absolute plain relative] at selects
      obtain ⟨below, steps⟩ := exists_below_of_selects absolute relative selects
      rw [steps] at selects
      exact ⟨below, steps, parent_not_mem_of_selects absolute relative stays selects⟩
    · intro more disk' root' tree' absolute' plain' alike
      exact display_expand tree tree' absolute absolute' plain plain' relative stays more alike

/-- From the root `/r[1]`, a pattern leads to a file below `/r1`.  From `/r1` it stays there. -/
theorem expand_relative_beside :
    let disk := ((((((Disk.empty []).put ["r[1]"] .directory).put ["r[1]", "docs"] .directory).put
      ["r[1]", "docs", "a.md"] (.file "x".toUTF8)).put ["r1"] .directory).put
      ["r1", "docs"] .directory).put ["r1", "docs", "b.md"] (.file "x".toUTF8)
    let root := Path.ofString "/r[1]"
    let beside := Path.ofString "/r1"
    (∃ target ∈ expand disk root ["docs/*.md"],
      target.path.components = (Path.ofString "/r1/docs/b.md").components ∧
        ¬root.components <+: target.path.components) ∧
    ∀ target ∈ expand disk beside ["docs/*.md"], ∃ below,
      target.path.components = beside.components ++ below ∧ .parent ∉ below := by
  intro disk root beside
  have tree : disk.IsTree := by
    have top := (Disk.isTree_empty []).put [] (show IsName "r[1]".toList by decide) rfl rfl
      .directory
    have docs := top.put ["r[1]"] (show IsName "docs".toList by decide) rfl rfl .directory
    have file := docs.put ["r[1]", "docs"] (show IsName "a.md".toList by decide) rfl rfl
      (.file "x".toUTF8)
    have beside := file.put [] (show IsName "r1".toList by decide) rfl rfl .directory
    have docs := beside.put ["r1"] (show IsName "docs".toList by decide) rfl rfl
      .directory
    exact docs.put ["r1", "docs"] (show IsName "b.md".toList by decide) rfl rfl _
  have isFile : disk.isFile (Path.top.into ["r1".toList, "docs".toList, "b.md".toList]) := rfl
  let named : Wildcard := ⟨[.anyText, .literal '.', .literal 'm', .literal 'd']⟩
  have spelled : SpelledBy (root.join (.ofString "docs/*.md"))
      ["r1".toList, "docs".toList, "b.md".toList] := by
    let sibling : Wildcard := ⟨[.literal 'r', .within [⟨'1', '1'⟩]]⟩
    have read : readNames (root.join (.ofString "docs/*.md")) =
        .ok [sibling, literal "docs".toList, named] := rfl
    have first : sibling.Takes "r1".toList := ⟨by rfl, .inl (by decide)⟩
    have last : named.Takes "b.md".toList := ⟨by rfl, .inl (by decide)⟩
    refine ⟨by decide, _, read, .step rfl first ?_⟩
    exact .step (isRecursive_literal _) (takes_literal_iff.mpr rfl) (.step rfl last .done)
  have same : (Path.top.into ["r1".toList, "docs".toList, "b.md".toList]).components =
      (Path.ofString "/r1/docs/b.md").components := rfl
  have apart : ¬root.components <+: (Path.ofString "/r1/docs/b.md").components := by decide
  have stays : Stays (.ofString "docs/*.md") := by
    intro piece member name made takes
    have all : pieces (.ofString "docs/*.md") = ["docs".toList, "*.md".toList] := by decide
    rw [all, List.mem_cons, List.mem_singleton] at member
    rcases member with rfl | rfl
    · rw [read_of_plain (by simp)] at made
      cases made
      exact absurd (takes_literal_iff.mp takes) (by decide)
    · have read : Wildcard.read "*.md".toList = .ok named := rfl
      rw [read] at made
      cases made
      obtain ⟨-, isName | ⟨dotted, -⟩⟩ := takes
      · exact isName.notParent rfl
      · cases dotted
  clear_value disk
  constructor
  · obtain ⟨target, member, steps⟩ := ((expand_relative tree rfl rfl).1 _).mpr
      (.inl ⟨_, ⟨spelled, isFile⟩, same.symm⟩)
    exact ⟨target, member, steps, steps ▸ apart⟩
  · exact (((expand_relative tree rfl rfl).2 (by simp [Plain, beside, Path.ofString])).2 stays).1

end TagAudit.Target
