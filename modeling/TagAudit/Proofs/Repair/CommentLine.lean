import TagAudit.Proofs.Marker.Positions
import TagAudit.Proofs.Repair.Convergence

/-! What a closing line does to a line comment.  The text behind the place where the line is
written moves to a line of its own, which no comment marker begins, so the comment goes on only
where no other tag stands behind that place on its line. -/

namespace TagAudit

open Text Marker

def restOfLine (cs : List Char) : List Char :=
  cs.takeWhile (· ≠ '\n')

def lineAcross (above below : List Char) : List Char :=
  lastLine above ++ restOfLine below

/-- Behind its indentation, the line begins with this comment marker and a blank. -/
def CommentLine (marker line : List Char) : Prop :=
  ∃ c rest, trimStart line = marker ++ c :: rest ∧ isBlank c = true

def Shown (cs : List Char) : Prop :=
  ∃ c ∈ cs, isBlank c = false

theorem not_shown_of_blanks {cs : List Char} (blank : ∀ c ∈ cs, isBlank c = true) : ¬ Shown cs := by
  rintro ⟨c, member, visible⟩
  exact absurd (visible.symm.trans (blank c member)) (by decide)

theorem restOfLine_append {a : List Char} (single : '\n' ∉ a) (b : List Char) :
    restOfLine (a ++ b) = a ++ restOfLine b := by
  rw [restOfLine, List.takeWhile_append_of_pos, restOfLine]
  intro c member
  have other : c ≠ '\n' := fun same => single (same ▸ member)
  simpa using other

theorem restOfLine_append_newline (a b : List Char) :
    restOfLine (a ++ '\n' :: b) = restOfLine a := by
  induction a with
  | nil => simp [restOfLine]
  | cons c a induction =>
      simp only [restOfLine, List.cons_append, List.takeWhile_cons] at induction ⊢
      rw [induction]

theorem restOfLine_append_of_mem {a : List Char} (broken : '\n' ∈ a) (b : List Char) :
    restOfLine (a ++ b) = restOfLine a := by
  obtain ⟨line, below, rfl⟩ := List.append_of_mem broken
  rw [List.append_assoc, List.cons_append, restOfLine_append_newline, restOfLine_append_newline]

theorem not_commentLine_of_lt {blanks rest : List Char} (blank : ∀ c ∈ blanks, isBlank c = true)
    {marker : List Char} (known : marker ∈ commentMarkers) :
    ¬ CommentLine marker (blanks ++ '<' :: rest) := by
  rintro ⟨c, more, begins, -⟩
  have visible : isBlank '<' = false := by decide
  rw [trimStart_of_blanks_append blank, trimStart, List.dropWhile_cons_of_neg (by simp [visible])]
    at begins
  simp only [commentMarkers, List.mem_cons, List.not_mem_nil, or_false] at known
  rcases known with rfl | rfl | rfl | rfl <;> simp at begins

/-! What stands behind the text that a tag keeps. -/

theorem regionOf_cases (gap : List Char) :
    regionOf gap = gap ∨ ∃ above, regionOf gap = above ++ ['\n'] := by
  rcases lastLine_cases gap with ⟨whole, -⟩ | ⟨above, split⟩
  · left
    rw [regionOf, ← whole]
    simp
  · have single := newline_not_mem_lastLine gap
    generalize lastLine gap = lead at split single
    subst split
    by_cases comment : isCommentLead lead = true
    · exact .inr ⟨above, regionOf_append_newline above single comment⟩
    · exact .inl (regionOf_of_text above single comment)

theorem restOfLine_cases (cs : List Char) :
    restOfLine cs = cs ∨ ∃ below, cs = restOfLine cs ++ '\n' :: below := by
  induction cs with
  | nil => exact .inl rfl
  | cons c cs induction =>
      by_cases newline : c = '\n'
      · exact .inr ⟨cs, by simp [restOfLine, newline]⟩
      · have whole : restOfLine (c :: cs) = c :: restOfLine cs := by
          simp [restOfLine, newline]
        rw [whole]
        rcases induction with same | ⟨below, split⟩
        · exact .inl (by rw [same])
        · exact .inr ⟨below, by rw [List.cons_append, ← split]⟩

theorem newline_not_mem_restOfLine (cs : List Char) : '\n' ∉ restOfLine cs := by
  intro member
  simpa using List.mem_takeWhile_imp member

theorem kept_append_drop (gap : List Char) :
    trimEnd (regionOf gap) ++ gap.drop (trimEnd (regionOf gap)).length = gap :=
  List.prefix_iff_eq_append.mp ((prefix_trimEnd _).trans (prefix_regionOf gap))

theorem exists_blanks_behind (gap : List Char) :
    ∃ blanks rest, gap = trimEnd (regionOf gap) ++ (blanks ++ rest) ∧
      (∀ c ∈ blanks, isBlank c = true) ∧ '\n' ∉ blanks ∧
      (rest = [] ∨ ∃ below, rest = '\n' :: below) := by
  obtain ⟨behind, region, blank⟩ := trimEnd_append_blanks (regionOf gap)
  obtain ⟨lead, split⟩ := prefix_regionOf gap
  have plain : ∀ c ∈ restOfLine behind, isBlank c = true :=
    fun c member => blank c ((List.takeWhile_prefix _).subset member)
  have single := newline_not_mem_restOfLine behind
  rcases restOfLine_cases behind with whole | ⟨below, rest⟩
  · refine ⟨restOfLine behind, [], ?_, plain, single, .inl rfl⟩
    have kept : regionOf gap = gap := by
      refine (regionOf_cases gap).resolve_right ?_
      rintro ⟨above, ends⟩
      -- What is left of the region is over before its line feed.
      have feed : ∀ c ∈ ['\n'], isBlank c = true := List.forall_mem_singleton.mpr rfl
      obtain ⟨more, longer⟩ := prefix_trimEnd above
      rw [ends, trimEnd_of_append_blanks above feed] at region
      have same : trimEnd above ++ behind = trimEnd above ++ (more ++ ['\n']) := by
        rw [region, ← List.append_assoc, longer]
      rw [whole, List.append_cancel_left same] at single
      simp at single
    rw [List.append_nil, whole, region, kept]
  · refine ⟨restOfLine behind, '\n' :: below ++ lead, ?_, plain, single, .inr ⟨_, rfl⟩⟩
    rw [← List.append_assoc (restOfLine behind), ← rest, ← List.append_assoc, region, split]

/-! Tags behind a place on its line. -/

private theorem past_blanks {blanks rest z more : List Char}
    (blank : ∀ c ∈ blanks, isBlank c = true) (same : blanks ++ rest = z ++ '<' :: more) :
    ∃ y, z = blanks ++ y ∧ rest = y ++ '<' :: more := by
  rcases List.append_eq_append_iff.mp same with ⟨y, longer, split⟩ | ⟨y, longer, split⟩
  · exact ⟨y, longer, split⟩
  · cases y with
    | nil => exact ⟨[], by simpa using longer.symm, by simpa using split.symm⟩
    | cons c y =>
        obtain ⟨rfl, -⟩ := List.cons.inj split
        exact absurd (blank '<' (by simp [longer])) (by decide)

variable {above blanks : List Char}

/-- Blanks and a line end part the tags below from what stands above. -/
theorem line_ne_of_blanks (blank : ∀ c ∈ blanks, isBlank c = true) {rest : List Char}
    (ends : rest = [] ∨ ∃ below, rest = '\n' :: below) {token : Token}
    (sited : token.Sited (above ++ (blanks ++ rest))) (behind : byteSize above ≤ token.start) :
    token.line ≠ lineAt (byteSize above) (above ++ (blanks ++ rest)) := by
  obtain ⟨front, text, whole, written, start, -, line⟩ := sited
  obtain ⟨z, split, same⟩ := prefix_of_byteSize_le whole (start ▸ behind)
  obtain ⟨tail, rfl⟩ := written.eq_cons
  obtain ⟨y, rfl, shown⟩ := past_blanks blank same
  rcases ends with rfl | ⟨below, rfl⟩
  · simp at shown
  · cases y with
    | nil => simp at shown
    | cons c y =>
        obtain ⟨rfl, -⟩ := List.cons.inj shown
        rw [line, split, lineAt_byteSize]
        simp only [List.count_append, List.count_cons_self]
        omega

/-! Closing lines, with what stands above and below them. -/

theorem beginsLine_of_lt {blanks : List Char} (single : '\n' ∉ blanks) (rest : List Char) :
    Repair.beginsLine (blanks ++ '<' :: rest) = false := by
  cases blanks with
  | nil => rfl
  | cons c blanks =>
      have first : c ≠ '\n' := fun same => single (same ▸ .head _)
      cases blanks with
      | nil => simp [Repair.beginsLine, first]
      | cons d blanks =>
          have second : d ≠ '\n' := fun same => single (same ▸ .tail _ (.head _))
          simp [Repair.beginsLine, first, second]

namespace Piece

def belowClosing (piece : Piece) (later : List Piece) : List Char :=
  piece.gap.drop (trimEnd (regionOf piece.gap)).length ++ textOf later

/-- A closing line above another tag ends there, so that what stands below has its line to
itself. -/
theorem lineAcross_closingLine {piece : Piece} {later : List Piece} {blanks rest : List Char}
    (below : piece.belowClosing later = blanks ++ '<' :: rest) (single : '\n' ∉ blanks)
    (before above : List Char) :
    lineAcross (above ++ (piece.closingLine before later).text) (piece.belowClosing later) =
      restOfLine (piece.belowClosing later) := by
  have opens : Repair.beginsLine (piece.belowClosing later) = false :=
    below ▸ beginsLine_of_lt single rest
  have ends : (piece.closingLine before later).ends = ['\n'] :=
    if_neg (Bool.eq_false_iff.mp opens)
  generalize piece.closingLine before later = line at ends
  have text :
      above ++ line.text = (above ++ '\n' :: line.lead ++ line.marker.render) ++ ['\n'] := by
    simp [ClosingLine.text, ends]
  rw [lineAcross, text, lastLine_append_newline _ (by simp), List.nil_append]

end Piece

namespace Layout

variable {layout : Layout} {front later : List Piece} {piece : Piece}

def aboveClosing (layout : Layout) (front : List Piece) (piece : Piece) : List Char :=
  layout.lead ++ Piece.textOf front ++ (piece.text ++ trimEnd (regionOf piece.gap))

theorem text_eq_append (split : layout.pieces = front ++ piece :: later) :
    layout.text = layout.aboveClosing front piece ++ piece.belowClosing later := by
  rw [text, split, Piece.textOf_append, Piece.textOf_cons, aboveClosing, Piece.belowClosing]
  nth_rewrite 1 [← kept_append_drop piece.gap]
  simp only [List.append_assoc]

theorem text_close_slotsAt (split : layout.pieces = front ++ piece :: later)
    (written : Written piece.marker piece.text) :
    (layout.close (map_piece_slotsAt split) (layout.slotsAt_fit front later written)).text =
      layout.aboveClosing front piece ++
        (piece.closingLine (layout.lead ++ Piece.textOf front) later).text ++
        piece.belowClosing later := by
  simp [close, text, slotsAt, Slot.pieces_eq, Slot.opening, Slot.added, aboveClosing,
    Piece.belowClosing, ClosingLine.text, Piece.closingLine]

/-- Either another tag follows on the line behind the place of a closing line, or nothing but
blanks does. -/
theorem next_on_line_or_not (split : layout.pieces = front ++ piece :: later) :
    ((∃ blanks rest, piece.belowClosing later = blanks ++ '<' :: rest ∧
        (∀ c ∈ blanks, isBlank c = true) ∧ '\n' ∉ blanks) ∧
      ∃ token ∈ tokenize layout.text, byteSize (layout.aboveClosing front piece) ≤ token.start ∧
        token.line = lineAt (byteSize (layout.aboveClosing front piece)) layout.text) ∨
    ((∀ c ∈ restOfLine (piece.belowClosing later), isBlank c = true) ∧
      ∀ token ∈ tokenize layout.text, byteSize (layout.aboveClosing front piece) ≤ token.start →
        token.line ≠ lineAt (byteSize (layout.aboveClosing front piece)) layout.text) := by
  have whole := text_eq_append split
  obtain ⟨blanks, rest, gap, blank, single, ends⟩ := exists_blanks_behind piece.gap
  have behind : piece.belowClosing later = blanks ++ (rest ++ Piece.textOf later) := by
    rw [Piece.belowClosing, List.append_cancel_left ((kept_append_drop piece.gap).trans gap),
      List.append_assoc]
  have quiet {rest : List Char} (ends : rest = [] ∨ ∃ lines, rest = '\n' :: lines)
      (same : piece.belowClosing later = blanks ++ rest) :
      (∀ c ∈ restOfLine (piece.belowClosing later), isBlank c = true) ∧
        ∀ token ∈ tokenize layout.text, byteSize (layout.aboveClosing front piece) ≤ token.start →
          token.line ≠ lineAt (byteSize (layout.aboveClosing front piece)) layout.text := by
    constructor
    · have done : restOfLine rest = [] := by
        rcases ends with rfl | ⟨lines, rfl⟩ <;> simp [restOfLine]
      rwa [same, restOfLine_append single, done, List.append_nil]
    · rw [whole, same]
      exact fun token member => line_ne_of_blanks blank ends (sited_of_mem_tokenize member)
  rcases ends with rfl | ⟨lines, rfl⟩
  · cases later with
    | nil => exact .inr (quiet (.inl rfl) behind)
    | cons next later =>
        have nextSplit : layout.pieces = (front ++ [piece]) ++ next :: later := by simp [split]
        obtain ⟨tail, text⟩ := (nextSplit ▸ layout.laid).written.eq_cons
        have passed : layout.lead ++ Piece.textOf (front ++ [piece]) =
            layout.aboveClosing front piece ++ blanks := by
          rw [aboveClosing, Piece.textOf_append, Piece.textOf_cons]
          nth_rewrite 1 [gap]
          simp
        refine .inl ⟨⟨blanks, tail ++ (next.gap ++ Piece.textOf later), ?_, blank, single⟩,
          _, token_mem_tokenize nextSplit, ?_, ?_⟩
        · simp [behind, text]
        · rw [passed, Piece.token, byteSize_append (layout.aboveClosing front piece)]
          exact Nat.le_add_right _ _
        · rw [passed, whole, lineAt_byteSize, Piece.token, List.count_append,
            List.count_eq_zero_of_not_mem single, Nat.add_zero]
  · exact .inr (quiet (.inr ⟨lines ++ Piece.textOf later, rfl⟩) behind)

theorem comment_kept_iff (split : layout.pieces = front ++ piece :: later) {marker : List Char}
    (known : marker ∈ commentMarkers) (before : List Char) :
    (Shown (restOfLine (piece.belowClosing later)) → CommentLine marker
        (lineAcross (layout.aboveClosing front piece ++ (piece.closingLine before later).text)
          (piece.belowClosing later))) ↔
      ∀ token ∈ tokenize layout.text, byteSize (layout.aboveClosing front piece) ≤ token.start →
        token.line ≠ lineAt (byteSize (layout.aboveClosing front piece)) layout.text := by
  rcases next_on_line_or_not split with
    ⟨⟨blanks, rest, same, blank, single⟩, token, member, reach, on⟩ | ⟨blank, apart⟩
  · have moved := Piece.lineAcross_closingLine same single before (layout.aboveClosing front piece)
    have tail : restOfLine (piece.belowClosing later) = blanks ++ '<' :: restOfLine rest := by
      rw [same, restOfLine_append single]
      rfl
    rw [moved, tail]
    constructor
    · intro kept
      exact absurd (kept ⟨'<', by simp, by decide⟩) (not_commentLine_of_lt blank known)
    · intro none
      exact absurd on (none token member reach)
  · exact ⟨fun _ => apart, fun _ shown => absurd shown (not_shown_of_blanks blank)⟩

end Layout

namespace ScanOptions

/-- Behind a closing line a comment goes on exactly where no other tag stands on the line that
it is written into: such a tag and all that follows it move to a line without the comment
marker. -/
theorem closing_keeps_comment_iff (options : ScanOptions) {file content : String} {r : Repair}
    (produced : r ∈ (options.scan file content).filterMap Occurrence.closing?) {issue : Issue}
    (asked : issue.repair = some r) :
    ∃ above written below, content.toList = above ++ below ∧
      (∃ tag openOffset, r = .close tag openOffset (byteSize above)) ∧
      repair file content [issue] = .ok ⟨String.ofList (above ++ written ++ below), 1⟩ ∧
      ∀ marker ∈ commentMarkers, CommentLine marker (lineAcross above below) →
        ((Shown (restOfLine below) →
            CommentLine marker (lineAcross (above ++ written) below)) ↔
          ∀ token ∈ tokenize content.toList, byteSize above ≤ token.start →
            token.line ≠ lineAt (byteSize above) content.toList) := by
  obtain ⟨o, member, closing⟩ := List.mem_filterMap.mp produced
  obtain ⟨layout, front, piece, later, rfl, split, rfl⟩ := exists_piece_of_mem_scan member
  have written : Written piece.marker piece.text := (split ▸ layout.laid).written
  have close : r = .close piece.name (byteSize (layout.lead ++ Piece.textOf front))
      (byteSize (layout.lead ++ Piece.textOf front) + byteSize piece.text +
        byteSize (trimEnd (regionOf piece.gap))) := by
    rw [closing?_occurrence] at closing
    split at closing
    · exact (Option.some.inj closing).symm
    · cases closing
  have place : byteSize (layout.aboveClosing front piece) =
      byteSize (layout.lead ++ Piece.textOf front) + byteSize piece.text +
        byteSize (trimEnd (regionOf piece.gap)) := by
    simp [Layout.aboveClosing, Nat.add_assoc]
  have repaired := layout.repair_closeAt split written file (asked.trans (congrArg some close))
  rw [Layout.text_close_slotsAt split written] at repaired
  rw [String.toList_ofList]
  exact ⟨_, _, _, Layout.text_eq_append split, ⟨_, _, place ▸ close⟩, repaired,
    fun marker known _ => Layout.comment_kept_iff split known _⟩

theorem closing_keeps_comment_shared :
    let text :=
      "# <!--TAG:a--> some long content here exceeding fifty characters easily <!--TAG:b--> rm\n"
    let issue := (Issue.ofFile .error "matching-close" "run.sh" "").withRepair (.close "a" 2 71)
    ∃ above written below, text.toList = above ++ below ∧
      repair "run.sh" text [issue] = .ok ⟨String.ofList (above ++ written ++ below), 1⟩ ∧
      CommentLine ['#'] (lineAcross above below) ∧
      Shown (restOfLine below) ∧ ¬ CommentLine ['#'] (lineAcross (above ++ written) below) := by
  intro text issue
  have produced : Repair.close "a" 2 71 ∈
      (ScanOptions.default.scan "run.sh" text).filterMap Occurrence.closing? := by
    rw [scan_eq]
    decide
  have next : ∃ token ∈ tokenize text.toList, 71 ≤ token.start ∧
      token.line = lineAt 71 text.toList := by
    decide
  obtain ⟨above, written, below, whole, ⟨tag, openOffset, place⟩, repaired, kept⟩ :=
    ScanOptions.default.closing_keeps_comment_iff produced (rfl : issue.repair = _)
  have size : byteSize above = 71 := (Repair.close.inj place).2.2.symm
  have front : above = takeBytes 71 text.toList := by
    rw [whole, ← size, takeBytes_append]
  have back : below = dropBytes 71 text.toList := by
    rw [whole, ← size, dropBytes_append]
  have comment : CommentLine ['#'] (lineAcross above below) := by
    rw [front, back]
    exact ⟨' ', text.toList.dropLast.drop 2, by decide, by decide⟩
  have shown : Shown (restOfLine below) := by
    rw [back]
    exact ⟨'<', by decide, by decide⟩
  refine ⟨above, written, below, whole, repaired, comment, shown, fun still => ?_⟩
  obtain ⟨token, member, reach, on⟩ := next
  rw [← size] at reach on
  exact (kept ['#'] (by decide) comment).mp (fun _ => still) token member reach on

end ScanOptions

end TagAudit
