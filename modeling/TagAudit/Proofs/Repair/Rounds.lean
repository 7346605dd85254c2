import TagAudit.Proofs.Repair.ComponentLine
import TagAudit.Proofs.Repair.Convergence

/-! What one round of repairs leaves for the next.  A round writes the closing lines of all
unclosed tags and, in a file that lacks one, the line of a component tag. -/

namespace TagAudit

open Text Marker

namespace Layout

def draft (layout : Layout) : Draft where
  lead := layout.lead
  slots := Slot.plain layout.pieces
  absent := by rw [Slot.map_piece_plain]; exact layout.absent
  laid := by rw [Slot.map_piece_plain]; exact layout.laid
  fits := Slot.fits_plain layout.pieces

variable (layout : Layout)

@[simp] theorem text_draft : layout.draft.text = layout.text := by
  simp [draft, Draft.text, text]

theorem own_draft : layout.draft.Own := by
  simp [draft, Draft.Own, Slot.plain, Slot.Own]

theorem open_draft : layout.draft.slots = [] ∨ layout.draft.Open := by
  rcases List.eq_nil_or_concat' layout.pieces with empty | ⟨front, piece, split⟩
  · exact .inl (by simp [draft, Slot.plain, empty])
  · exact .inr ⟨Slot.plain front, ⟨piece, none⟩, by simp [draft, Slot.plain, split], rfl⟩

@[simp] theorem closedBelow_draft : layout.draft.closedBelow none = layout.text := by
  simp [draft, Draft.closedBelow, text, ClosingLine.within]

@[simp] theorem entriesBelow_draft (pos : Nat) : layout.draft.entriesBelow none pos = [] := by
  have none := Slot.edits_plain (pos + byteSize layout.lead) layout.pieces
  rw [Slot.edits, List.map_eq_nil_iff] at none
  simp [draft, Draft.entriesBelow, none]

@[simp] theorem markers_draft : layout.draft.markers = layout.pieces.map Piece.marker := by
  simp [draft, Draft.markers, Slot.plain, Function.comp_def]

end Layout

/-! Closing markers and an edit that is made beside them. -/

namespace Slot

private theorem entries_add (pos n : Nat) (slots : List Slot) :
    entries (pos + n) slots =
      (entries pos slots).map fun (name, edit) =>
        (name, { edit with offset := edit.offset + n }) := by
  induction slots generalizing pos with
  | nil => rfl
  | cons slot later induction =>
      obtain ⟨piece, line?⟩ := slot
      have next : pos + n + byteSize piece.text + byteSize piece.gap =
          pos + byteSize piece.text + byteSize piece.gap + n := by
        omega
      cases line? with
      | none => rw [entries_none, entries_none, next, induction]
      | some line =>
          rw [entries_some, entries_some, next, induction, List.map_cons]
          simp only [ClosingLine.entry, List.cons.injEq, Prod.mk.injEq, Edit.mk.injEq, and_true,
            true_and]
          omega

end Slot

theorem Draft.entriesBelow_add (draft : Draft) (line? : Option ClosingLine) (pos n : Nat) :
    draft.entriesBelow line? (pos + n) =
      (draft.entriesBelow line? pos).map fun (name, edit) =>
        (name, { edit with offset := edit.offset + n }) := by
  have next : pos + n + byteSize draft.lead = pos + byteSize draft.lead + n := by omega
  rw [entriesBelow, entriesBelow, next, Slot.entries_add, List.map_append]
  cases line? with
  | none => rfl
  | some line =>
      simp only [Option.toList_some, List.map_cons, List.map_nil, ClosingLine.entry]
      congr 4
      omega

/-- Where another edit of the same text goes once `edit` is made. -/
def Edit.moved (edit other : Edit) : Nat :=
  if edit.compare other = .lt then other.offset + byteSize edit.text.toList else other.offset

def Repair.markBeside? (edit : Edit) (path : Path) (content : List Char) (r : Repair) :
    Option (Nat × String) :=
  r.mark?.bind fun mark => (r.edit? path content).map fun own => (edit.moved own, mark.2)

namespace Seam

variable {options : ScanOptions} {layout : Layout} {above below : List Char} {edit : Edit}

theorem exists_draft (seam : Seam options layout above below edit)
    (apart : Apart above edit.text.toList) (ends : ∃ front, edit.text.toList = front ++ ['\n'])
    {line : Layout} (written : line.text = edit.text.toList) :
    ∃ d : Draft, d.text = above ++ edit.text.toList ++ below ∧
      d.closedText = seam.first.closedText ++
        (edit.text.toList ++ seam.second.closedBelow seam.line?) ∧
      d.entries = seam.first.entries ++ seam.second.entriesBelow seam.line?
        (byteSize above + byteSize edit.text.toList) ∧
      d.markers = seam.first.markers ++ (line.pieces.map Piece.marker ++ seam.second.markers) := by
  obtain ⟨front, last⟩ := ends
  obtain ⟨upper, joins⟩ := Draft.exists_join seam.first line.draft none
    (by rw [seam.text_first, line.text_draft, written]; exact apart) seam.own (by simp)
  have upperText : upper.text = above ++ edit.text.toList := by
    rw [joins.text, line.text_draft, written, seam.text_first]
  have broken : upper.text = above ++ front ++ ['\n'] := by
    rw [upperText, last, List.append_assoc]
  obtain ⟨d, whole⟩ := Draft.exists_join upper seam.second seam.line? (.inl (.inr ⟨_, broken⟩))
    (joins.own rfl line.own_draft) fun line' chosen =>
      ⟨joins.opened rfl (seam.opened line' chosen) line.open_draft, ⟨_, broken⟩,
        seam.fits line' chosen⟩
  refine ⟨d, ?_, ?_, ?_, ?_⟩
  · rw [whole.text, upperText, seam.text_second]
  · rw [whole.closedText, joins.closedText, line.closedBelow_draft, written, List.append_assoc]
  · rw [whole.entries, joins.entries, line.entriesBelow_draft, upperText, List.append_nil,
      byteSize_append]
  · rw [whole.markers, joins.markers, line.markers_draft, List.append_assoc]

theorem marksBeside (seam : Seam options layout above below edit) (file : String) (path : Path) :
    ((options.scan file (String.ofList layout.text)).filterMap Occurrence.closing?).filterMap
        (Repair.markBeside? edit path layout.text) =
      (seam.first.entries ++ seam.second.entriesBelow seam.line?
        (byteSize above + byteSize edit.text.toList)).map
          fun (name, own) => (own.offset, name) := by
  have same := congrArg (List.filterMap fun entry => (entry.1 : Option (Nat × String)).bind
      fun mark => entry.2.toOption.join.map fun own => (edit.moved own, mark.2))
    (options.closings_eq file path layout.laid layout.lead (1 + layout.lead.count '\n'))
  rw [List.filterMap_map, List.filterMap_map, ← options.scan_layout, seam.entries_eq] at same
  refine same.trans ?_
  simp only [Function.comp_def, Except.toOption, Option.join_some, Option.bind_some,
    Option.map_some, List.filterMap_eq_map', List.map_append, seam.second.entriesBelow_add,
    List.map_map]
  congr 1
  · refine List.map_congr_left fun entry member => ?_
    have order := Edit.compare_swap entry.2 edit
    rw [seam.before entry member] at order
    simp [Edit.moved, order]
  · refine List.map_congr_left fun entry member => ?_
    simp [Edit.moved, seam.behind entry member]

end Seam

namespace Schema

def componentEdit (schema : Schema) (file content : String) : Edit :=
  Repair.componentEdit (Path.ofString file) content.toList (schema.suggestion file)

def withComponent (schema : Schema) (file content : String) : String :=
  String.ofList (Edit.insertAll [schema.componentEdit file content] content.toList)

def marks (schema : Schema) (file content : String) : List (Nat × String) :=
  (schema.closings (schema.scanOptions.scan file content)).filterMap
    (Repair.markBeside? (schema.componentEdit file content) (Path.ofString file) content.toList)

/-- The tags that are unclosed once the component tag is written, and that no closing marker
of the same round closes. -/
def leftOpen (schema : Schema) (file content : String) : List Occurrence :=
  if schema.rules.matchingClose.enabled then
    (schema.scanOptions.scan file (schema.withComponent file content)).filter fun o =>
      o.closure == .unclosed && !o.closedIn (schema.marks file content)
  else []

variable {schema : Schema} {file : String} {layout : Layout}

/-- The header of a text parts its closing lines. -/
theorem exists_seam (schema : Schema) (file : String) (layout : Layout) :
    ∃ above below, layout.text = above ++ below ∧
      Apart above (schema.componentEdit file (String.ofList layout.text)).text.toList ∧
      (schema.componentEdit file (String.ofList layout.text)).offset = byteSize above ∧
      Nonempty (Seam schema.scanOptions layout above below
        (schema.componentEdit file (String.ofList layout.text))) := by
  obtain ⟨above, below, whole, header, ends⟩ := Repair.headerEnd_split layout.text
  have offset : (schema.componentEdit file (String.ofList layout.text)).offset =
      byteSize above := by
    simp only [componentEdit, String.toList_ofList]
    exact header
  refine ⟨above, below, whole, ?_, offset, layout.exists_seam _ whole ends offset ?_⟩
  · simp only [componentEdit, String.toList_ofList]
    exact Repair.apart_componentEdit _ whole header _
  · intro entry member same
    obtain ⟨line, piece, fits, text⟩ :=
      Slot.exists_line_of_mem (schema.scanOptions.slots_fit layout.lead layout.laid) member
    rw [same] at text
    exact Repair.componentEdit_ne _ _ _ fits.leadPlain text

end Schema

namespace Seam

variable {options : ScanOptions} {layout : Layout} {above below : List Char} {edit : Edit}
  {file : String} {issues : List Issue} {r : Repair}

theorem edits_parted (seam : Seam options layout above below edit) (file : String) :
    ((options.scan file (String.ofList layout.text)).filterMap Occurrence.closing?).filterMap
        (Repair.edit? (Path.ofString file) layout.text) =
      seam.first.entries.map Prod.snd ++
        (seam.second.entriesBelow seam.line? (byteSize above)).map Prod.snd := by
  rw [options.scan_layout, Layout.text, options.edits_closing file _ layout.laid, Slot.edits,
    seam.entries_eq, List.map_append]

theorem ordered_edits (seam : Seam options layout above below edit) :
    Edit.Ordered (seam.first.entries.map Prod.snd ++
      edit :: (seam.second.entriesBelow seam.line? (byteSize above)).map Prod.snd) := by
  have laid : Piece.Laid ((options.slots layout.lead layout.pieces).map Slot.piece) := by
    rw [options.map_piece_slots]
    exact layout.laid
  have ordered := Slot.ordered_edits laid (options.slots_fit layout.lead layout.laid)
    (byteSize layout.lead)
  rw [Slot.edits, seam.entries_eq, List.map_append] at ordered
  exact ordered.insert (List.forall_mem_map.mpr seam.before) (List.forall_mem_map.mpr seam.behind)

theorem repair_beside (seam : Seam options layout above below edit)
    (whole : layout.text = above ++ below) (offset : edit.offset = byteSize above)
    (planned : r.plan (Path.ofString file) layout.text = .ok (some edit))
    (asked : (issues.filterMap Issue.repair).Perm
      ((options.scan file (String.ofList layout.text)).filterMap Occurrence.closing? ++ [r])) :
    repair file (String.ofList layout.text) issues =
      .ok ⟨String.ofList (seam.first.closedText ++
          (edit.text.toList ++ seam.second.closedBelow seam.line?)),
        ((options.scan file (String.ofList layout.text)).filterMap
          Occurrence.closing?).length + 1⟩ := by
  have every := options.plan_closing file (Path.ofString file) layout.laid layout.lead
    (1 + layout.lead.count '\n')
  have count := congrArg List.length (options.closings_eq file (Path.ofString file) layout.laid
    layout.lead (1 + layout.lead.count '\n'))
  rw [← options.scan_layout] at every count
  have edits : editsOf file layout.text issues = seam.first.entries.map Prod.snd ++
      edit :: (seam.second.entriesBelow seam.line? (byteSize above)).map Prod.snd := by
    refine Edit.sort_of_perm seam.ordered_edits ((asked.filterMap _).trans ?_)
    have own : [r].filterMap (Repair.edit? (Path.ofString file) layout.text) = [edit] := by
      simp [Repair.edit?_of_plan planned]
    rw [List.filterMap_append, own, seam.edits_parted]
    exact (List.perm_append_singleton _ _).trans List.perm_middle.symm
  rw [repair_eq, String.toList_ofList, edits]
  · congr 2
    · have made := Draft.insertAll_entries seam.split (offset.trans (by rw [seam.text_first]))
      rw [seam.text_first, seam.text_second, ← whole] at made
      exact congrArg String.ofList made
    · rw [List.length_map, List.length_map, seam.entries_eq] at count
      simp only [List.length_append, List.length_map, List.length_cons] at count ⊢
      omega
  · intro asking member
    rw [String.toList_ofList]
    rcases List.mem_append.mp (asked.subset member) with closing | own
    · obtain ⟨found, plan⟩ := every asking closing
      exact ⟨_, plan⟩
    · rw [List.mem_singleton.mp own]
      exact ⟨_, planned⟩

end Seam

theorem Closure.closedBy_false (closure : Closure) : closure.closedBy false = closure := by
  cases closure <;> rfl

theorem Occurrence.rescanned_nil (o : Occurrence) : Rescanned [] o o :=
  ⟨rfl, rfl, (Closure.closedBy_false o.closure).symm⟩

namespace Schema

variable {schema : Schema} {file : String} {layout : Layout}

structure Round (schema : Schema) (file content : String) (repaired : Repaired) : Prop where
  /-- Every repair makes one edit. -/
  applied : repaired.applied =
    (schema.closings (schema.scanOptions.scan file content)).length +
      (schema.components file (schema.scanOptions.scan file content)).length
  /-- Where a component tag was missing, closing markers are written beside it. -/
  beside : schema.lacksComponent file (schema.scanOptions.scan file content) = true →
    List.Forall₂ (Occurrence.Rescanned (schema.marks file content))
      (schema.scanOptions.scan file (schema.withComponent file content))
      (schema.scanOptions.scan file repaired.content)
  /-- Elsewhere all unclosed tags are closed. -/
  alone : schema.lacksComponent file (schema.scanOptions.scan file content) = false →
    if schema.rules.matchingClose.enabled then
      List.Forall₂ Occurrence.Settles (schema.scanOptions.scan file content)
        (schema.scanOptions.scan file repaired.content)
    else repaired.content = content

theorem toList_withComponent {above below : List Char} (whole : layout.text = above ++ below)
    (offset : (schema.componentEdit file (String.ofList layout.text)).offset = byteSize above) :
    (schema.withComponent file (String.ofList layout.text)).toList =
      above ++ (schema.componentEdit file (String.ofList layout.text)).text.toList ++ below := by
  rw [withComponent, String.toList_ofList, String.toList_ofList, whole, Edit.insertAll,
    Edit.insertFrom_append, Edit.insertFrom_here]
  · simp [Edit.insertFrom]
  · rw [Nat.zero_add, ← whole, offset]
  · simp [← whole, offset]

end Schema

namespace Validator

variable {schema : Schema} {validator : Validator} {file : String} {layout : Layout}

private theorem round_beside
    (enabled : schema.rules.matchingClose.enabled = true)
    (lacks : schema.lacksComponent file
      (schema.scanOptions.scan file (String.ofList layout.text)) = true) {issues : List Issue}
    (asked : (issues.filterMap Issue.repair).Perm
      (schema.closings (schema.scanOptions.scan file (String.ofList layout.text)) ++
        schema.components file (schema.scanOptions.scan file (String.ofList layout.text)))) :
    ∃ repaired, repair file (String.ofList layout.text) issues = .ok repaired ∧
      schema.Round file (String.ofList layout.text) repaired := by
  obtain ⟨above, below, whole, apart, offset, ⟨seam⟩⟩ := schema.exists_seam file layout
  obtain ⟨line, written⟩ := Layout.exists_layout
    (schema.componentEdit file (String.ofList layout.text)).text.toList
  obtain ⟨d, text, closed, entries, -⟩ := seam.exists_draft apart
    (Repair.componentEdit_ends _ _ _) written
  have planned : (Repair.insertComponent (schema.suggestion file)).plan (Path.ofString file)
      layout.text = .ok (some (schema.componentEdit file (String.ofList layout.text))) := by
    rw [Repair.plan_insertComponent, Schema.componentEdit, String.toList_ofList]
  have rescanned := d.scan_closedText schema.scanOptions file
  rw [entries, ← seam.marksBeside file (Path.ofString file), text, closed,
    ← schema.toList_withComponent whole offset, String.ofList_toList] at rescanned
  rw [Schema.closings, if_pos enabled, Schema.components, if_pos lacks] at asked
  refine ⟨_, seam.repair_beside whole offset planned asked, ?_, fun _ => ?_, fun present => ?_⟩
  · simp [Schema.closings, Schema.components, enabled, lacks]
  · rw [Schema.marks, Schema.closings, if_pos enabled, String.toList_ofList]
    exact rescanned
  · exact absurd (lacks.symm.trans present) (by decide)

theorem exists_round (built : ofSchema schema = .ok validator) (file content : String) :
    ∃ repaired, repair file content
        (validator.validate file (schema.scanOptions.scan file content)) = .ok repaired ∧
      schema.Round file content repaired := by
  obtain ⟨layout, whole⟩ := Layout.exists_layout content.toList
  obtain rfl : content = String.ofList layout.text := by rw [whole, String.ofList_toList]
  have asked := repairs_validate built file
    (schema.scanOptions.scan file (String.ofList layout.text))
  cases lacks : schema.lacksComponent file
      (schema.scanOptions.scan file (String.ofList layout.text)) with
  | false =>
      have none : schema.components file
          (schema.scanOptions.scan file (String.ofList layout.text)) = [] := by
        simp [Schema.components, lacks]
      rw [none, List.append_nil] at asked
      cases enabled : schema.rules.matchingClose.enabled with
      | false =>
          rw [Schema.closings, enabled, if_neg (by decide)] at asked
          refine ⟨_, repair_of_no_repairs asked.eq_nil _ _, ?_, ?_, ?_⟩
          · simp [none, Schema.closings, enabled]
          · simp [lacks]
          · simp [enabled]
      | true =>
          rw [Schema.closings, enabled, if_pos rfl] at asked
          refine ⟨_, layout.repair_closeUnclosed asked, ?_, ?_, ?_⟩
          · simp [none, Schema.closings, enabled, ScanOptions.length_closings]
          · simp [lacks]
          · intro _
            rw [if_pos enabled]
            exact layout.scan_closeUnclosed
  | true =>
      cases enabled : schema.rules.matchingClose.enabled with
      | false =>
          rw [Schema.closings, enabled, if_neg (by decide), List.nil_append, Schema.components,
            if_pos lacks, List.perm_singleton] at asked
          refine ⟨_, repair_of_single asked (Repair.plan_insertComponent _ _ _), ?_, ?_, ?_⟩
          · simp [Schema.closings, Schema.components, enabled, lacks]
          · intro _
            rw [Schema.marks, Schema.closings, enabled, if_neg (by decide)]
            exact List.forall₂_same.mpr fun o _ => o.rescanned_nil
          · simp [lacks]
      | true => exact round_beside enabled lacks asked

end Validator

end TagAudit
