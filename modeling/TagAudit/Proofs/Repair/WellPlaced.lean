import TagAudit.Proofs.Repair.CommentLine
import TagAudit.Proofs.Repair.Splicing

/-! What stands before a tag on its line once all unclosed tags are closed.  A closing line is
written above the line of the next tag when nothing but indentation and a comment marker stand
before that tag, so the tag keeps them. -/

namespace TagAudit

open Text Marker

/-- Nothing but indentation, or indentation and one comment marker. -/
def WellPlaced (before : List Char) : Prop :=
  ∃ indent marker gap, before = indent ++ (marker ++ gap) ∧
    (∀ c ∈ indent, isBlank c = true) ∧ (∀ c ∈ gap, isBlank c = true) ∧
    (marker = [] ∨ marker ∈ commentMarkers)

theorem wellPlaced_iff {before : List Char} : WellPlaced before ↔ isCommentLead before = true := by
  have known : isCommentLead before = true ↔ trim before = [] ∨ trim before ∈ commentMarkers := by
    simp [isCommentLead]
  rw [known]
  constructor
  · rintro ⟨indent, marker, gap, rfl, blank, blankGap, marked⟩
    have shown : trim (indent ++ (marker ++ gap)) = trim marker := by
      rw [trim, trimStart_of_blanks_append blank, ← trim, trim_append_blanks _ blankGap]
    have tight : trim marker = marker := by
      simp only [commentMarkers, List.mem_cons, List.not_mem_nil, or_false] at marked
      rcases marked with rfl | rfl | rfl | rfl | rfl <;> decide
    rwa [shown, tight]
  · intro marked
    obtain ⟨gap, ends, blankGap⟩ := trimEnd_append_blanks (trimStart before)
    refine ⟨before.takeWhile isBlank, trim before, gap, ?_, fun c member => ?_, blankGap, marked⟩
    · rw [trim, ends, trimStart, List.takeWhile_append_dropWhile]
    · exact List.mem_takeWhile_imp member

theorem WellPlaced.lt_not_mem {before : List Char} (placed : WellPlaced before) : '<' ∉ before := by
  obtain ⟨indent, marker, gap, rfl, blank, blankGap, marked⟩ := placed
  have visible : isBlank '<' ≠ true := by decide
  have unmarked : '<' ∉ marker := by
    rcases marked with rfl | marked
    · simp
    · exact lt_not_mem_of_mem_commentMarkers marker marked
  simp only [List.mem_append, not_or]
  exact ⟨fun member => visible (blank _ member), unmarked,
    fun member => visible (blankGap _ member)⟩

namespace Slot

/-- The line goes in above the line of the next marker when that one is well placed on a line
of its own. -/
def KeepsLead (slot : Slot) : Prop :=
  ∀ line ∈ slot.line?, WellPlaced (lastLine slot.piece.gap) → '\n' ∈ slot.piece.gap →
    '\n' ∈ line.below

theorem keepsLead_closingLine (before : List Char) (piece : Piece) (later : List Piece) :
    KeepsLead ⟨piece, some (piece.closingLine before later)⟩ := by
  rintro line ⟨⟩ placed broken
  obtain ⟨front, split⟩ := (lastLine_cases piece.gap).resolve_left fun whole => whole.2 broken
  have region := regionOf_append_newline front (newline_not_mem_lastLine piece.gap)
    (wellPlaced_iff.mp placed)
  rw [← split] at region
  have kept : trimEnd (regionOf piece.gap) = trimEnd front := by
    rw [region, trimEnd_of_append_blanks _ (List.forall_mem_singleton.mpr rfl)]
  obtain ⟨blanks, whole, -⟩ := trimEnd_append_blanks front
  have below : trimEnd front ++ piece.gap.drop (trimEnd front).length =
      trimEnd front ++ (blanks ++ '\n' :: lastLine piece.gap) := by
    rw [← kept, kept_append_drop, kept, ← List.append_assoc, whole, ← split]
  simp [Piece.closingLine, kept, List.append_cancel_left below]

theorem lastLine_pieces {slot : Slot} (fits : slot.Fits) (keeps : slot.KeepsLead)
    (single : '\n' ∉ slot.piece.text) (marked : '<' ∈ slot.piece.text) (above above' : List Char)
    (placed : WellPlaced (lastLine (above ++ Piece.textOf [slot.piece]))) :
    lastLine (above' ++ Piece.textOf slot.pieces) =
      lastLine (above ++ Piece.textOf [slot.piece]) := by
  obtain ⟨piece, line?⟩ := slot
  have broken : '\n' ∈ piece.gap := by
    -- Otherwise the marker stands on the line of the next one.
    by_contra unbroken
    have joined := lastLine_append above (b := piece.text ++ piece.gap) (by simp [single, unbroken])
    refine placed.lt_not_mem ?_
    simp [joined, marked]
  have last (front : List Char) : lastLine (front ++ piece.gap) = lastLine piece.gap :=
    lastLine_append_of_mem front broken
  have before : lastLine (above ++ Piece.textOf [piece]) = lastLine piece.gap := by
    simp [← last (above ++ piece.text)]
  rw [before] at placed ⊢
  cases line? with
  | none => simp [pieces, ← last (above' ++ piece.text)]
  | some line =>
      have below := keeps line rfl placed broken
      have whole : above' ++ Piece.textOf (pieces ⟨piece, some line⟩) =
          (above' ++ (piece.text ++ line.above ++ line.text)) ++ line.below := by
        simp [pieces, ClosingLine.text]
      rw [whole, lastLine_append_of_mem _ below, ← (fits line rfl).split,
        lastLine_append_of_mem _ below]

/-- The lines that are written behind the pieces of a layout change nothing of the line on which
the text goes on, when that line begins well. -/
theorem lastLine_closed {slots : List Slot}
    (written : ∀ slot ∈ slots, Written slot.piece.marker slot.piece.text)
    (fits : ∀ slot ∈ slots, slot.Fits) (keeps : ∀ slot ∈ slots, slot.KeepsLead) (lead : List Char)
    (placed : WellPlaced (lastLine (lead ++ Piece.textOf (slots.map Slot.piece)))) :
    lastLine (lead ++ Piece.textOf (closed slots)) =
      lastLine (lead ++ Piece.textOf (slots.map Slot.piece)) := by
  rcases List.eq_nil_or_concat' slots with rfl | ⟨front, slot, rfl⟩
  · rfl
  · have member : slot ∈ front ++ [slot] := by simp
    obtain ⟨tail, text⟩ := (written slot member).eq_cons
    rw [List.map_append, Piece.textOf_append, ← List.append_assoc] at placed ⊢
    rw [closed_append, Piece.textOf_append, ← List.append_assoc, closed_cons, closed_nil,
      List.append_nil]
    exact lastLine_pieces (fits slot member) (keeps slot member)
      (written slot member).newline_not_mem (by simp [text]) _ _ placed

theorem byteSize_closed {slots : List Slot} (fits : ∀ slot ∈ slots, slot.Fits) (pos : Nat) :
    byteSize (Piece.textOf (closed slots)) =
      byteSize (Piece.textOf (slots.map Slot.piece)) +
        byteSize (Edit.written (edits pos slots)) := by
  induction slots generalizing pos with
  | nil => rfl
  | cons slot later induction =>
      obtain ⟨piece, line?⟩ := slot
      obtain ⟨here, fits⟩ := List.forall_mem_cons.mp fits
      have rest := induction fits (pos + byteSize piece.text + byteSize piece.gap)
      cases line? with
      | none =>
          simp only [closed_cons, pieces, Piece.textOf_append, Piece.textOf_cons, List.map_cons,
            edits_none, byteSize_append, rest, Piece.textOf_nil, byteSize_nil]
          omega
      | some line =>
          have split := congrArg byteSize (here line rfl).split
          simp only [byteSize_append] at split
          simp only [closed_cons, pieces, Piece.textOf_append, Piece.textOf_cons, List.map_cons,
            edits_some, Edit.written, List.flatMap_cons, byteSize_append, rest, Piece.textOf_nil,
            byteSize_nil, String.toList_ofList, ClosingLine.text, byteSize_cons]
          omega

end Slot

/-- What `token` of a text is in `after`, what the text becomes when `edits` are made: the same
marker at the place that it is moved to, with the same text before it on its line when it is well
placed. -/
structure Token.KeptAs (before after : List Char) (edits : List Edit) (token moved : Token) :
    Prop where
  marker : moved.marker = token.marker
  start : moved.start = Edit.shifted edits token.start
  text : slice moved.start moved.stop after = slice token.start token.stop before
  lead : WellPlaced (lastLine (takeBytes token.start before)) →
    lastLine (takeBytes moved.start after) = lastLine (takeBytes token.start before)

namespace Layout

variable {layout : Layout}

theorem shifted_edits {front later : List Slot} {slot : Slot}
    (laid : Piece.Laid ((slot :: later).map Slot.piece)) (fits : ∀ slot ∈ front, slot.Fits)
    (lead : List Char) :
    Edit.shifted (Slot.edits (byteSize lead) (front ++ slot :: later))
        (byteSize (lead ++ Piece.textOf (front.map Slot.piece))) =
      byteSize (lead ++ Piece.textOf (Slot.closed front)) := by
  rw [Slot.edits, Slot.entries_append, List.map_append, byteSize_append, byteSize_append,
    Slot.byteSize_closed fits (byteSize lead), ← Nat.add_assoc]
  exact Edit.shifted_append (Slot.offset_le fits _) (Slot.lt_offset laid _)

theorem kept_close {slots : List Slot} {same : slots.map Slot.piece = layout.pieces}
    {fits : ∀ slot ∈ slots, slot.Fits} (keeps : ∀ slot ∈ slots, slot.KeepsLead) {token : Token}
    (member : token ∈ tokenize layout.text) :
    ∃ moved ∈ tokenize (layout.close same fits).text,
      token.KeptAs layout.text (layout.close same fits).text
        (Slot.edits (byteSize layout.lead) slots) moved := by
  obtain ⟨_, _, _, split, rfl⟩ := exists_piece_of_mem_tokenize member
  obtain ⟨front, _, rfl, rfl, rest⟩ := List.map_eq_append_iff.mp (same.trans split)
  obtain ⟨slot, later, rfl, rfl, rfl⟩ := List.map_eq_cons_iff.mp rest
  have closedSplit : (layout.close same fits).pieces =
      Slot.closed front ++ slot.opening :: (slot.added ++ Slot.closed later) := by
    simp [close, Slot.pieces_eq]
  obtain ⟨passed, text⟩ := token_reads split
  obtain ⟨passedClosed, textClosed⟩ := token_reads closedSplit
  have laid : Piece.Laid (front.map Slot.piece ++ (slot :: later).map Slot.piece) :=
    split ▸ layout.laid
  have frontFits : ∀ slot ∈ front, slot.Fits := fun slot member => fits slot (by simp [member])
  refine ⟨_, token_mem_tokenize closedSplit, ?marker, ?start, ?text, ?lead⟩
  case marker => exact slot.opening_marker
  case start => exact (shifted_edits laid.of_append frontFits layout.lead).symm
  case text => rw [text, textClosed, Slot.opening_text]
  case lead =>
    rw [passed, passedClosed]
    exact Slot.lastLine_closed
      (fun slot member => laid.forall_written slot.piece
        (List.mem_append_left _ (List.mem_map_of_mem member)))
      frontFits (fun slot member => keeps slot (by simp [member])) layout.lead

end Layout

theorem ScanOptions.slots_keepLead (options : ScanOptions) (before : List Char)
    (pieces : List Piece) : ∀ slot ∈ options.slots before pieces, slot.KeepsLead := by
  induction pieces generalizing before with
  | nil => simp [slots]
  | cons piece later induction =>
      refine List.forall_mem_cons.mpr ⟨fun line chosen => ?_, induction _⟩
      have same := Option.some.inj (Option.ite_none_right_eq_some.mp chosen).2
      exact Slot.keepsLead_closingLine before piece later line (congrArg some same)

namespace Validator

variable {schema : Schema} {validator : Validator}

/-- Closing all unclosed tags keeps what stands before a tag on its line when that is only
indentation, or indentation and one comment marker.  This holds of opening and of closing
markers, wherever lines are written above them. -/
theorem closings_keep_leads (built : ofSchema schema = .ok validator) (file content : String) :
    let occurrences := schema.scanOptions.scan file content
    let issues := (validator.validate file occurrences).filter (·.rule == "matching-close")
    ∃ edits repaired, repair file content issues = .ok ⟨String.ofList repaired, edits.length⟩ ∧
      edits.length = (schema.closings occurrences).length ∧
      Edit.Spliced 0 edits content.toList repaired ∧
      ∀ token ∈ tokenize content.toList, ∃ moved ∈ tokenize repaired,
        token.KeptAs content.toList repaired edits moved := by
  intro occurrences issues
  have asked := repairs_matchingClose built file occurrences
  rw [Schema.closings] at asked ⊢
  split at asked
  next enabled =>
    obtain ⟨layout, whole⟩ := Layout.exists_layout content.toList
    obtain rfl : content = String.ofList layout.text := by rw [whole, String.ofList_toList]
    have done := layout.repair_closeUnclosed asked
    have planned := repair_eq (planned_of_repair done)
    have size := congrArg Repaired.applied (Except.ok.inj (planned.symm.trans done))
    have edits := Layout.editsOf_closeUnclosed asked
    have made :=
      layout.insertAll_edits (schema.scanOptions.map_piece_slots layout.lead layout.pieces)
      (schema.scanOptions.slots_fit layout.lead layout.laid)
    refine ⟨_, _, planned, ?size, spliced_insertAll _ _ _, ?kept⟩
    case size =>
      rw [if_pos enabled, ScanOptions.length_closings]
      exact size
    case kept =>
      rw [String.toList_ofList, edits, made]
      exact fun token => Layout.kept_close (schema.scanOptions.slots_keepLead _ _)
  next disabled =>
    have nothing := asked.eq_nil
    refine ⟨[], content.toList, ?repaired, ?size, .rest _ _, fun token member =>
      ⟨token, member, rfl, rfl, rfl, fun _ => rfl⟩⟩
    case repaired =>
      rw [repair_of_no_repairs nothing, String.ofList_toList]
      rfl
    case size => rw [if_neg disabled, List.length_nil, List.length_nil]

theorem closings_keep_leads_comment :
    let text := "<!--TAG:a-->\nsome long content here exceeding fifty characters easily\n" ++
      "  # <!--TAG:b-->\n"
    let occurrences := closingSchema.scanOptions.scan "x.py" text
    let issues := ((Validator.mk [.matchingClose]).validate "x.py" occurrences).filter
      (·.rule == "matching-close")
    .close "a" 0 69 ∈ occurrences.filterMap Occurrence.closing? ∧
    ∃ repaired, repair "x.py" text issues = .ok ⟨String.ofList repaired, 1⟩ ∧
      ∃ moved ∈ tokenize repaired, moved.marker = ⟨['b'], false⟩ ∧
        lastLine (takeBytes moved.start repaired) = "  # ".toList := by
  intro text occurrences issues
  have built : ofSchema closingSchema = .ok ⟨[.matchingClose]⟩ := rfl
  have produced : .close "a" 0 69 ∈ occurrences.filterMap Occurrence.closing? := by
    simp only [occurrences, ScanOptions.scan_eq]
    decide
  have closings : (closingSchema.closings occurrences).length = 1 := by
    simp only [occurrences, ScanOptions.scan_eq]
    decide
  obtain ⟨edits, repaired, done, size, -, kept⟩ := closings_keep_leads built "x.py" text
  rw [size, closings] at done
  let token : Token := ⟨⟨['b'], false⟩, 74, 86, 3, ['\n']⟩
  have found : token ∈ tokenize text.toList := by decide
  have before : lastLine (takeBytes token.start text.toList) = "  # ".toList := by decide
  obtain ⟨moved, member, marker, -, -, lead⟩ := kept token found
  rw [before] at lead
  have placed : WellPlaced "  # ".toList := wellPlaced_iff.mpr (by decide)
  exact ⟨produced, repaired, done, moved, member, marker, lead placed⟩

end Validator

end TagAudit
