import TagAudit.Proofs.Repair.CommentLine

/-! What the line of a closing marker begins with.  It takes over the indentation and the comment
marker of the opening line where nothing else stands before the tag.  Behind any other text it
takes over neither of them. -/

namespace TagAudit

open Text Marker

def indentation (line : List Char) : List Char :=
  line.takeWhile isBlank

/-- What begins with `lead` continues the line: the indentation is the same, and so is the comment
marker when there is one. -/
@[mk_iff]
structure TakesOver (line lead : List Char) : Prop where
  indented : indentation line <+: lead
  commented : ∀ marker ∈ commentMarkers, CommentLine marker line →
    indentation line ++ marker <+: lead
  plain : (∀ marker ∈ commentMarkers, ¬ CommentLine marker line) → lead = indentation line

/-! A tag on the line, and what stands before it. -/

theorem indentation_append_lt (before rest : List Char) :
    indentation (before ++ '<' :: rest) = indentation before := by
  have visible : isBlank '<' = false := by decide
  induction before with
  | nil => simp [indentation, visible]
  | cons c before induction =>
      simp only [indentation, List.cons_append, List.takeWhile_cons] at induction ⊢
      rw [induction]

theorem commentLine_append_lt {marker : List Char} (known : marker ∈ commentMarkers)
    (before rest : List Char) :
    CommentLine marker (before ++ '<' :: rest) ↔ CommentLine marker before := by
  by_cases empty : trimStart before = []
  · have blank := trimStart_eq_nil_iff.mp empty
    refine iff_of_false (not_commentLine_of_lt blank known) ?_
    rintro ⟨c, more, begins, -⟩
    simp [empty] at begins
  · have tail := trimStart_append_of_ne_nil empty ('<' :: rest)
    constructor
    · rintro ⟨c, more, begins, blank⟩
      rw [tail] at begins
      rcases List.append_eq_append_iff.mp begins with ⟨z, longer, split⟩ | ⟨z, longer, split⟩
      · cases z with
        | nil =>
            obtain ⟨rfl, -⟩ := List.cons.inj split
            exact absurd blank (by decide)
        | cons d z =>
            obtain ⟨rfl, -⟩ := List.cons.inj split
            exact absurd (by simp [longer]) (lt_not_mem_of_mem_commentMarkers marker known)
      · cases z with
        | nil =>
            obtain ⟨rfl, -⟩ := List.cons.inj split
            exact absurd blank (by decide)
        | cons d z =>
            obtain ⟨rfl, -⟩ := List.cons.inj split
            exact ⟨c, z, longer, blank⟩
    · rintro ⟨c, more, begins, blank⟩
      exact ⟨c, more ++ '<' :: rest, by simp [tail, begins], blank⟩

theorem takesOver_append_lt (before rest lead : List Char) :
    TakesOver (before ++ '<' :: rest) lead ↔ TakesOver before lead := by
  rw [takesOver_iff, takesOver_iff, indentation_append_lt]
  refine and_congr Iff.rfl (and_congr (forall₂_congr fun marker known => ?_)
    (imp_congr_left (forall₂_congr fun marker known => ?_)))
  · rw [commentLine_append_lt known]
  · rw [commentLine_append_lt known]

private theorem takeWhile_visible {word rest : List Char} (visible : ∀ c ∈ word, isBlank c = false)
    (ends : ∀ c ∈ rest.head?, isBlank c = true) :
    (word ++ rest).takeWhile (fun c => !isBlank c) = word := by
  rw [List.takeWhile_append_of_pos (by simpa using visible)]
  cases rest with
  | nil => simp
  | cons c rest => simp [ends c rfl]

/-- A comment line on which nothing but its marker stands has no other marker. -/
theorem CommentLine.eq_trim {marker before : List Char} (comment : CommentLine marker before)
    (known : marker ∈ commentMarkers) (alone : trim before ∈ commentMarkers) :
    marker = trim before := by
  obtain ⟨c, rest, begins, blank⟩ := comment
  obtain ⟨blanks, split, blankEnds⟩ := trimEnd_append_blanks (trimStart before)
  have same : trim before ++ blanks = marker ++ c :: rest := split.trans begins
  calc
    marker = (marker ++ c :: rest).takeWhile (fun c => !isBlank c) :=
      (takeWhile_visible (not_isBlank_of_mem_commentMarkers marker known)
        (by simpa using blank)).symm
    _ = (trim before ++ blanks).takeWhile (fun c => !isBlank c) := by rw [same]
    _ = trim before :=
      takeWhile_visible (not_isBlank_of_mem_commentMarkers _ alone) fun d member =>
        blankEnds d (List.mem_of_mem_head? member)

/-! What a closing line begins with, by what stands before the tag. -/

namespace Repair

theorem lineLead_of_blanks {before : List Char} (blank : ∀ c ∈ before, isBlank c = true) :
    lineLead before = indentation before := by
  simp [lineLead, isCommentLead, trim_eq_nil_iff.mpr blank, indentation]

theorem lineLead_of_marker {before : List Char} (alone : trim before ∈ commentMarkers) :
    lineLead before = indentation before ++ (trim before ++ [' ']) := by
  have shown : (trim before).isEmpty = false := by
    simp only [commentMarkers, List.mem_cons, List.not_mem_nil, or_false] at alone
    rcases alone with alone | alone | alone | alone <;> simp [alone]
  have comment : isCommentLead before = true := by simp [isCommentLead, alone]
  simp [lineLead, comment, shown, indentation]

theorem lineLead_of_text {before : List Char} (shown : Shown before)
    (other : trim before ∉ commentMarkers) : lineLead before = [] := by
  obtain ⟨c, member, visible⟩ := shown
  have some : trim before ≠ [] := fun empty =>
    absurd (trim_eq_nil_iff.mp empty c member) (by simp [visible])
  have comment : isCommentLead before = false := by
    simp [isCommentLead, some, other]
  simp [lineLead, comment]

theorem takesOver_of_blanks {before : List Char} (blank : ∀ c ∈ before, isBlank c = true) :
    TakesOver before (lineLead before) where
  indented := lineLead_of_blanks blank ▸ List.prefix_rfl
  commented := by
    rintro marker - ⟨c, rest, begins, -⟩
    simp [trimStart_eq_nil_iff.mpr blank] at begins
  plain _ := lineLead_of_blanks blank

theorem takesOver_iff_of_marker {before : List Char} (alone : trim before ∈ commentMarkers) :
    TakesOver before (lineLead before) ↔ CommentLine (trim before) before := by
  have lead := lineLead_of_marker alone
  constructor
  · intro taken
    by_contra other
    have none : ∀ marker ∈ commentMarkers, ¬ CommentLine marker before := by
      intro marker known comment
      exact other (comment.eq_trim known alone ▸ comment)
    have same := lead.symm.trans (taken.plain none)
    simp at same
  · intro comment
    constructor
    case indented => exact lead ▸ List.prefix_append _ _
    case commented =>
      intro marker known other
      rw [other.eq_trim known alone, lead, ← List.append_assoc]
      exact List.prefix_append _ _
    case plain => exact fun none => absurd comment (none _ alone)

theorem takesOver_iff_of_text {before : List Char} (shown : Shown before)
    (other : trim before ∉ commentMarkers) :
    TakesOver before (lineLead before) ↔
      indentation before = [] ∧ ∀ marker ∈ commentMarkers, ¬ CommentLine marker before := by
  rw [lineLead_of_text shown other]
  constructor
  · intro taken
    refine ⟨List.prefix_nil.mp taken.indented, fun marker known comment => ?_⟩
    have empty :=
      List.append_eq_nil_iff.mp (List.prefix_nil.mp (taken.commented marker known comment))
    exact absurd empty.2 (by rintro rfl; exact absurd known (by decide))
  · rintro ⟨flush, none⟩
    exact ⟨flush ▸ List.prefix_rfl, fun marker known comment => absurd comment (none marker known),
      fun _ => flush.symm⟩

theorem takesOver_lineLead_iff (before : List Char) :
    TakesOver before (lineLead before) ↔
      ¬ Shown before ∨
      (trim before ∈ commentMarkers ∧ CommentLine (trim before) before) ∨
      (trim before ∉ commentMarkers ∧ indentation before = [] ∧
        ∀ marker ∈ commentMarkers, ¬ CommentLine marker before) := by
  by_cases shown : Shown before
  · by_cases alone : trim before ∈ commentMarkers
    · simp [takesOver_iff_of_marker alone, shown, alone]
    · simp [takesOver_iff_of_text shown alone, shown, alone]
  · have blank : ∀ c ∈ before, isBlank c = true := by simpa [Shown] using shown
    exact iff_of_true (takesOver_of_blanks blank) (.inl shown)

end Repair

open Repair

/-- Wherever the closing marker of a tag is put, the line that is written for it takes over what
the line of the tag begins with when nothing else stands before the tag there.  Behind any other
text it takes over nothing, also from a line that is indented or commented. -/
theorem closing_line_takes_over_iff {file content : String} {token : Token}
    (found : token ∈ tokenize content.toList) {above below : List Char}
    (split : content.toList = above ++ below) {issue : Issue}
    (asked : issue.repair = some (.close token.name token.start (byteSize above))) :
    let before := lastLine (takeBytes token.start content.toList)
    let line := lineAcross (takeBytes token.start content.toList)
      (dropBytes token.start content.toList)
    ∃ lead ends, repair file content [issue] = .ok ⟨String.ofList (above ++
        ('\n' :: lead ++ (⟨token.marker.name, true⟩ : Marker).render ++ ends) ++ below), 1⟩ ∧
      (ends = [] ∨ ends = ['\n']) ∧
      (Shown before ∧ trim before ∉ commentMarkers → lead = []) ∧
      (TakesOver line lead ↔
        ¬ Shown before ∨
        (trim before ∈ commentMarkers ∧ CommentLine (trim before) before) ∨
        (trim before ∉ commentMarkers ∧ indentation before = [] ∧
          ∀ marker ∈ commentMarkers, ¬ CommentLine marker before)) := by
  intro before line
  obtain ⟨front, text, whole, written, start, -, -⟩ := sited_of_mem_tokenize found
  obtain ⟨tail, begins⟩ := written.eq_cons
  have beforeEq : before = lastLine front := by
    simp only [before, start, whole, takeBytes_append]
  have lineEq : line = before ++ '<' :: restOfLine (tail ++ token.after) := by
    have first : '<' ≠ '\n' := by decide
    simp [line, lineAcross, beforeEq, start, whole, begins, restOfLine]
  have same : front ++ (text ++ token.after) = above ++ below := whole.symm.trans split
  have planned := plan_close_append (Path.ofString file) token.name same
  rw [← start, ← whole] at planned
  have asking : [issue].filterMap Issue.repair =
      [.close token.name token.start (byteSize above)] := by
    rw [List.filterMap_cons, asked, List.filterMap_nil]
  have made := repair_of_single asking planned
  refine ⟨lineLead before, if beginsLine below then [] else ['\n'], ?_, ?_, ?_, ?_⟩
  · rw [made, split]
    simp [Edit.insertAll, Edit.insertFrom, Repair.closingLine, beforeEq, Token.name]
  · split <;> simp
  · intro behind
    exact lineLead_of_text behind.1 behind.2
  · rw [lineEq, takesOver_append_lt, takesOver_lineLead_iff]

theorem closing_line_takes_over_iff_note :
    let text := "  note <!--TAG:a--> some long content here exceeding fifty characters easily\n"
    let issue := (Issue.ofFile .error "matching-close" "x.md" "").withRepair (.close "a" 7 76)
    let above := takeBytes 76 text.toList
    .close "a" 7 76 ∈ (ScanOptions.default.scan "x.md" text).filterMap Occurrence.closing? ∧
    ∃ lead ends, repair "x.md" text [issue] = .ok ⟨String.ofList (above ++
        ('\n' :: lead ++ "<!--/TAG:a-->".toList ++ ends) ++ ['\n']), 1⟩ ∧
      ¬ TakesOver above lead := by
  intro text issue above
  let token : Token := ⟨⟨['a'], false⟩, 7, 19, 1, (text.toList.drop 19)⟩
  have found : token ∈ tokenize text.toList := by decide
  have split : text.toList = above ++ ['\n'] := by decide
  obtain ⟨lead, ends, repaired, -, -, taken⟩ :=
    closing_line_takes_over_iff found split (show issue.repair = some
      (.close token.name token.start (byteSize above)) by decide)
  have line : lineAcross (takeBytes token.start text.toList)
      (dropBytes token.start text.toList) = above := by decide
  have produced : .close "a" 7 76 ∈
      (ScanOptions.default.scan "x.md" text).filterMap Occurrence.closing? := by
    rw [ScanOptions.scan_eq]
    decide
  refine ⟨produced, lead, ends, repaired, fun continues => ?_⟩
  rw [line] at taken
  have before : lastLine (takeBytes token.start text.toList) = "  note ".toList := by decide
  rw [before] at taken
  rcases taken.mp continues with empty | ⟨alone, -⟩ | ⟨-, flush, -⟩
  · exact empty ⟨'n', by decide, by decide⟩
  · exact absurd alone (by decide)
  · exact absurd flush (by decide)

end TagAudit
