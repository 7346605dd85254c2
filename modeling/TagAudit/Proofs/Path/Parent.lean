import Mathlib.Data.List.DropRight
import TagAudit.Proofs.Path.Components

/-! The parent of a path, which has its steps without the last one. -/

namespace TagAudit.Path

open Text

theorem splitOn_joinPieces {pieces : List (List Char)} (some : pieces ≠ [])
    (whole : ∀ piece ∈ pieces, '/' ∉ piece) : splitOn '/' (joinPieces pieces) = pieces := by
  unfold joinPieces
  induction pieces with
  | nil => exact absurd rfl some
  | cons first pieces induction =>
      rw [List.forall_mem_cons] at whole
      cases pieces with
      | nil => simpa using splitOn_of_not_mem whole.1
      | cons second pieces =>
          rw [List.intercalate_cons_cons, List.append_assoc, List.singleton_append, splitOn_append,
            splitOn_of_not_mem whole.1, induction (by simp) whole.2, List.singleton_append]

theorem inner_joinPieces {pieces : List (List Char)} (whole : ∀ piece ∈ pieces, '/' ∉ piece) :
    inner (joinPieces pieces) = pieces.filterMap Component.ofPiece? := by
  cases pieces with
  | nil => rfl
  | cons first pieces => rw [inner, splitOn_joinPieces (by simp) whole]

theorem lead_joinPieces {first : List Char} (shown : first ≠ []) (more : List (List Char)) :
    lead (joinPieces (first :: more)) = lead first := by
  unfold joinPieces
  cases more with
  | nil => rw [List.intercalate_singleton]
  | cons second more =>
      rw [List.intercalate_cons_cons, List.append_assoc, List.singleton_append, lead_append shown]

theorem lead_of_splitOn {cs first : List Char} {rest : List (List Char)}
    (split : splitOn '/' cs = first :: rest) (shown : first ≠ []) : lead cs = lead first := by
  by_cases inside : '/' ∈ cs
  · obtain ⟨piece, more, rfl, whole⟩ := List.eq_append_cons_of_mem inside
    rw [splitOn_append, splitOn_of_not_mem whole, List.singleton_append, List.cons.injEq] at split
    rw [split.1, lead_append shown]
  · rw [splitOn_of_not_mem inside, List.cons.injEq] at split
    rw [split.1]

/-! Pieces at the end that leave no step. -/

theorem prefix_trimVoid (pieces : List (List Char)) : trimVoid pieces <+: pieces :=
  List.rdropWhile_prefix isVoid pieces

theorem filterMap_trimVoid (pieces : List (List Char)) :
    (trimVoid pieces).filterMap Component.ofPiece? = pieces.filterMap Component.ofPiece? := by
  have void : (pieces.rtakeWhile isVoid).filterMap Component.ofPiece? = [] := by
    rw [List.filterMap_eq_nil_iff]
    intro piece member
    have none : isVoid piece = true := List.mem_rtakeWhile_imp member
    exact Option.isNone_iff_eq_none.mp none
  calc (trimVoid pieces).filterMap Component.ofPiece?
      = (pieces.rdropWhile isVoid ++ pieces.rtakeWhile isVoid).filterMap Component.ofPiece? := by
        rw [List.filterMap_append, void, List.append_nil]
        rfl
    _ = pieces.filterMap Component.ofPiece? := by rw [List.rdropWhile_append_rtakeWhile]

theorem exists_step_of_trimVoid {pieces front : List (List Char)} {last : List Char}
    (kept : trimVoid pieces = front ++ [last]) : ∃ step, Component.ofPiece? last = some step := by
  have same : pieces.rdropWhile isVoid = front ++ [last] := kept
  have shown := List.rdropWhile_last_not isVoid pieces (by simp [same])
  simp only [same, List.getLast_append_singleton, isVoid, Option.isNone_iff_eq_none] at shown
  exact Option.ne_none_iff_exists'.mp shown

theorem trimVoid_ne_singleton_nil (pieces : List (List Char)) : trimVoid pieces ≠ [[]] := by
  intro kept
  obtain ⟨step, made⟩ := exists_step_of_trimVoid (show trimVoid pieces = [] ++ [[]] from kept)
  simp [Component.ofPiece?] at made

theorem components_joined {p : Path} {leads : List Component} {pieces front : List (List Char)}
    (shape : p.anatomy = (leads, pieces)) (begins : front <+: pieces) :
    (⟨leads.flatMap Component.text ++ joinPieces (trimVoid front)⟩ : Path).components =
      leads ++ front.filterMap Component.ofPiece? := by
  have kept := (prefix_trimVoid front).trans begins
  have notOpen := trimVoid_ne_singleton_nil front
  rw [← filterMap_trimVoid]
  generalize trimVoid front = front at kept notOpen
  have whole {cs : List Char} : ∀ piece ∈ splitOn '/' cs, '/' ∉ piece :=
    fun piece member => (mem_splitOn member).1
  have leading : leads = lead p.text := by rw [← anatomy_fst, shape]
  rw [components_eq]
  unfold anatomy at shape
  split at shape
  next rest text =>
    cases shape
    have joined := inner_joinPieces fun piece member => whole piece (kept.subset member)
    rw [← joined]
    rfl
  next =>
    cases shape
    obtain rfl := List.prefix_nil.mp kept
    rfl
  next rest text =>
    cases shape
    cases front with
    | nil => rfl
    | cons first more =>
        obtain ⟨rfl, further⟩ := List.cons_prefix_cons.mp kept
        cases more with
        | nil => exact absurd rfl notOpen
        | cons second more =>
            have joined := inner_joinPieces fun piece member => whole piece (further.subset member)
            have behind : joinPieces ([] :: second :: more) =
                '/' :: joinPieces (second :: more) :=
              List.intercalate_cons_cons
            rw [List.filterMap_cons_none rfl, ← joined, behind]
            exact congrArg (List.cons Component.current)
              (inner_append ['.'] (joinPieces (second :: more)))
  next notSlash notDot notDotSlash =>
    cases shape
    cases front with
    | nil => rfl
    | cons first more =>
        obtain ⟨later, split⟩ := kept
        have shown : first ≠ [] := by
          rintro rfl
          cases text : p.text with
          | nil =>
              simp only [text, splitOn, List.cons_append, List.cons.injEq, List.append_eq_nil_iff,
                true_and] at split
              exact notOpen (by rw [split.1])
          | cons c cs =>
              rw [text, splitOn, if_neg fun same => notSlash cs (by rw [text, same])] at split
              cases pieces : splitOn '/' cs <;> simp [pieces] at split
        rw [List.flatMap_nil, List.nil_append, lead_joinPieces shown,
          ← lead_of_splitOn split.symm shown, ← leading,
          inner_joinPieces fun piece member => whole piece (split ▸ List.mem_append_left _ member)]

theorem components_parent? (p : Path) :
    (p.parent?.map components).getD [] = p.components.dropLast := by
  cases shape : p.anatomy with
  | mk leads pieces =>
      have leading : leads = lead p.text := by rw [← anatomy_fst, shape]
      have steps : p.components = leads ++ (trimVoid pieces).filterMap Component.ofPiece? := by
        rw [filterMap_trimVoid, components, shape]
      rw [parent?, shape, steps]
      dsimp only
      rcases List.eq_nil_or_concat (trimVoid pieces) with none | ⟨front, last, kept⟩
      · -- A path without pieces is empty, the root or a leading `.`.
        rw [none, leading]
        unfold lead
        split_ifs <;> rfl
      · rw [List.concat_eq_append] at kept
        obtain ⟨step, made⟩ := exists_step_of_trimVoid kept
        have begins : front <+: pieces :=
          (kept ▸ List.prefix_append front [last]).trans (prefix_trimVoid pieces)
        rw [kept, List.reverse_append, List.filterMap_append, List.filterMap_cons_some made,
          List.filterMap_nil, ← List.append_assoc, List.dropLast_concat]
        simp [components_joined shape begins]

end TagAudit.Path
