import Mathlib.Data.List.Forall2
import TagAudit.Proofs.Repair.Unclosed

/-! Closing every unclosed tag of a text.  One pass of these repairs leaves no tag unclosed
and changes no other tag, but for a bare one above a new closing marker of its name. -/

namespace TagAudit

open Text Marker

/-- How a tag may end once all unclosed tags are closed. -/
inductive Closure.Settles : Closure → Closure → Prop
  | marker : Settles .marker .marker
  | closed : Settles .closed .closed
  | unclosed : Settles .unclosed .closed
  | bare : Settles .bare .bare
  | paired : Settles .bare .closed

/-- What is found of an occurrence once all unclosed tags are closed. -/
structure Occurrence.Settles (o o' : Occurrence) : Prop where
  tag : o'.tag = o.tag
  kind : o'.kind = o.kind
  closure : Closure.Settles o.closure o'.closure

theorem ScanOptions.length_closings (options : ScanOptions) (file content : String) :
    ((options.scan file content).filterMap Occurrence.closing?).length =
      (options.scan file content).countP (·.closure == .unclosed) := by
  rw [List.length_filterMap_eq_countP]
  exact List.countP_congr fun o member => by rw [isSome_closing? member]

theorem Occurrence.Rescanned.settles {written : List (Nat × String)} {o o' : Occurrence}
    (rescanned : Rescanned written o o')
    (met : o.closure = .unclosed → o.closedIn written = true) : Settles o o' := by
  obtain ⟨tag, kind, closure⟩ := rescanned
  refine ⟨tag, kind, ?_⟩
  cases before : o.closure with
  | closed => simpa [closure, before, Closure.closedBy] using .closed
  | marker => simpa [closure, before, Closure.closedBy] using .marker
  | unclosed => simpa [closure, before, Closure.closedBy, met before] using .unclosed
  | bare =>
      cases behind : o.closedIn written with
      | false => simpa [closure, before, Closure.closedBy, behind] using .bare
      | true => simpa [closure, before, Closure.closedBy, behind] using .paired

namespace Layout

variable (layout : Layout) (options : ScanOptions)

def closeUnclosed : Layout :=
  layout.close (options.map_piece_slots layout.lead layout.pieces)
    (options.slots_fit layout.lead layout.laid)

variable {layout options} {file : String} {issues : List Issue}

theorem editsOf_closeUnclosed
    (asked : (issues.filterMap Issue.repair).Perm
      ((options.scan file (String.ofList layout.text)).filterMap Occurrence.closing?)) :
    editsOf file layout.text issues =
      Slot.edits (byteSize layout.lead) (options.slots layout.lead layout.pieces) := by
  rw [options.scan_layout] at asked
  have laid : Piece.Laid ((options.slots layout.lead layout.pieces).map Slot.piece) := by
    rw [options.map_piece_slots]
    exact layout.laid
  refine Edit.sort_of_perm
    (Slot.ordered_edits laid (options.slots_fit layout.lead layout.laid) (byteSize layout.lead)) ?_
  rw [← options.edits_closing file (Path.ofString file) layout.laid layout.lead
    (1 + layout.lead.count '\n')]
  exact asked.filterMap _

theorem repair_closeUnclosed
    (asked : (issues.filterMap Issue.repair).Perm
      ((options.scan file (String.ofList layout.text)).filterMap Occurrence.closing?)) :
    repair file (String.ofList layout.text) issues =
      .ok ⟨String.ofList (layout.closeUnclosed options).text,
        (options.scan file (String.ofList layout.text)).countP (·.closure == .unclosed)⟩ := by
  have planned := options.plan_closing file (Path.ofString file) layout.laid layout.lead
    (1 + layout.lead.count '\n')
  have size : (Slot.edits (byteSize layout.lead) (options.slots layout.lead layout.pieces)).length =
      (options.scan file (String.ofList layout.text)).countP (·.closure == .unclosed) := by
    have closings := congrArg List.length (options.closings_eq file (Path.ofString file)
      layout.laid layout.lead (1 + layout.lead.count '\n'))
    rw [← options.scan_layout, List.length_map, List.length_map,
      options.length_closings] at closings
    rw [Slot.edits, List.length_map, closings]
  rw [repair_eq, String.toList_ofList, editsOf_closeUnclosed asked, size]
  · congr 2
    exact congrArg String.ofList
      (layout.insertAll_edits _ (options.slots_fit layout.lead layout.laid))
  · intro r member
    rw [String.toList_ofList]
    rw [options.scan_layout] at asked
    obtain ⟨edit, found⟩ := planned r (asked.subset member)
    exact ⟨_, found⟩

theorem scan_closeUnclosed :
    List.Forall₂ Occurrence.Settles (options.scan file (String.ofList layout.text))
      (options.scan file (String.ofList (layout.closeUnclosed options).text)) := by
  have again := layout.scan_close (options.map_piece_slots layout.lead layout.pieces)
    (options.slots_fit layout.lead layout.laid) options file
  rw [← options.written_slots file layout.laid layout.lead (1 + layout.lead.count '\n'),
    ← options.scan_layout] at again
  have met : ∀ o ∈ options.scan file (String.ofList layout.text), o.closure = .unclosed →
      o.closedIn (((options.scan file (String.ofList layout.text)).filterMap
        Occurrence.closing?).filterMap Repair.mark?) = true :=
    fun o member => ScanOptions.closedIn_of_unclosed member
  exact ((List.forall₂_and_left _ _).mpr ⟨met, again⟩).imp fun o o' both =>
    both.2.settles both.1

end Layout

/-! Closing one unclosed tag and no other. -/

namespace Slot

def plain (pieces : List Piece) : List Slot :=
  pieces.map fun piece => ⟨piece, none⟩

@[simp] theorem map_piece_plain (pieces : List Piece) :
    (plain pieces).map Slot.piece = pieces := by
  simp [plain, Function.comp_def]

@[simp] theorem closed_append (slots later : List Slot) :
    closed (slots ++ later) = closed slots ++ closed later := by
  simp [closed]

@[simp] theorem closed_plain (pieces : List Piece) : closed (plain pieces) = pieces := by
  induction pieces with
  | nil => rfl
  | cons piece later induction => exact congrArg (piece :: ·) induction

theorem fits_plain (pieces : List Piece) : ∀ slot ∈ plain pieces, slot.Fits := by
  simp [plain, Fits]

@[simp] theorem edits_plain (pos : Nat) (pieces : List Piece) : edits pos (plain pieces) = [] := by
  induction pieces generalizing pos with
  | nil => rfl
  | cons piece later induction => exact induction _

theorem edits_plain_append (pos : Nat) (pieces : List Piece) (later : List Slot) :
    edits pos (plain pieces ++ later) = edits (pos + byteSize (Piece.textOf pieces)) later := by
  induction pieces generalizing pos with
  | nil => rfl
  | cons piece pieces induction =>
      have rest := induction (pos + byteSize piece.text + byteSize piece.gap)
      simp only [Piece.textOf_cons, byteSize_append, ← Nat.add_assoc]
      exact rest

end Slot

namespace Layout

variable {layout : Layout} {front later : List Piece} {piece : Piece}

def slotsAt (layout : Layout) (front : List Piece) (piece : Piece) (later : List Piece) :
    List Slot :=
  let line := piece.closingLine (layout.lead ++ Piece.textOf front) later
  Slot.plain front ++ ⟨piece, some line⟩ :: Slot.plain later

theorem map_piece_slotsAt (split : layout.pieces = front ++ piece :: later) :
    (layout.slotsAt front piece later).map Slot.piece = layout.pieces := by
  simp [slotsAt, split]

theorem slotsAt_fit (layout : Layout) (front later : List Piece)
    (written : Written piece.marker piece.text) :
    ∀ slot ∈ layout.slotsAt front piece later, slot.Fits := by
  simp only [slotsAt, List.forall_mem_append, List.forall_mem_cons]
  refine ⟨Slot.fits_plain front, ?_, Slot.fits_plain later⟩
  rintro line ⟨⟩
  exact piece.closingLine_fits _ later written

theorem repair_closeAt (split : layout.pieces = front ++ piece :: later)
    (written : Written piece.marker piece.text) (file : String) {issue : Issue}
    (asked : issue.repair = some (.close piece.name
      (byteSize (layout.lead ++ Piece.textOf front))
      (byteSize (layout.lead ++ Piece.textOf front) + byteSize piece.text +
        byteSize (trimEnd (regionOf piece.gap))))) :
    repair file (String.ofList layout.text) [issue] =
      .ok ⟨String.ofList (layout.close (map_piece_slotsAt split)
        (layout.slotsAt_fit front later written)).text, 1⟩ := by
  have whole : layout.lead ++ Piece.textOf front ++
      (piece.text ++ (piece.gap ++ Piece.textOf later)) = layout.text := by
    simp [text, split]
  have planned := Repair.plan_close (Path.ofString file) (layout.lead ++ Piece.textOf front)
    later written
  rw [whole] at planned
  have edits : Slot.edits (byteSize layout.lead) (layout.slotsAt front piece later) =
      [((piece.closingLine (layout.lead ++ Piece.textOf front) later).entry
        (byteSize (layout.lead ++ Piece.textOf front) + byteSize piece.text)).2] := by
    rw [slotsAt, Slot.edits_plain_append, Slot.edits_some, Slot.edits_plain, ← byteSize_append]
    rfl
  have made := layout.insertAll_edits (map_piece_slotsAt split)
    (layout.slotsAt_fit front later written)
  rw [edits] at made
  have asking : [issue].filterMap Issue.repair = [.close piece.name
      (byteSize (layout.lead ++ Piece.textOf front))
      (byteSize (layout.lead ++ Piece.textOf front) + byteSize piece.text +
        byteSize (trimEnd (regionOf piece.gap)))] := by
    rw [List.filterMap_cons, asked, List.filterMap_nil]
  rw [← String.toList_ofList (l := layout.text)] at planned
  rw [repair_of_single asking planned, String.toList_ofList, ← made]
  rfl

end Layout

theorem ScanOptions.occurrence_closed {options : ScanOptions} {piece : Piece}
    {later : List Piece} (written : Written piece.marker piece.text)
    (unclosed : options.closureOf piece later = .unclosed) (file : String) (pos line : Nat)
    (before : List Char) :
    let slot : Slot := ⟨piece, some (piece.closingLine before later)⟩
    let o := options.occurrence file pos line piece later
    let o' := options.occurrence file pos line slot.opening (slot.added ++ later)
    o'.tag = o.tag ∧ o'.closure = .closed ∧ o'.endLine = o.endLine + 1 := by
  intro slot o o'
  have fits : slot.Fits := by
    rintro line ⟨⟩
    exact piece.closingLine_fits before later written
  have named : slot.writes piece.marker.name = true := by
    simp [slot, Slot.writes, Piece.closingLine]
  have closure : options.closureOf slot.opening (slot.added ++ later) = .closed := by
    have rescanned := options.closureOf_opening fits (Slot.plain later)
    rw [Slot.closed_plain, Slot.map_piece_plain, unclosed, List.any_cons, named] at rescanned
    exact rescanned
  have lead := List.count_eq_zero_of_not_mem
    (Repair.newline_not_mem_lineLead (newline_not_mem_lastLine before))
  refine ⟨by simp [o', o, occurrence, Piece.name, slot], by simp [o', occurrence, closure], ?_⟩
  simp only [o', o, occurrence, closure, unclosed]
  simp [slot, Slot.opening, Slot.added, Piece.textBefore?, Piece.closes, ClosingLine.marker,
    Piece.closingLine, lead, Nat.add_assoc]

theorem ScanOptions.repair_alone {options : ScanOptions} {file content : String}
    {o : Occurrence} (member : o ∈ options.scan file content) (unclosed : o.closure = .unclosed)
    {issue : Issue} (asked : issue.repair = o.closing?) :
    ∃ alone, repair file content [issue] = .ok alone ∧ alone.applied = 1 ∧
      ∃ (i : Nat) (o' : Occurrence), (options.scan file content)[i]? = some o ∧
        (options.scan file alone.content)[i]? = some o' ∧
        o'.tag = o.tag ∧ o'.closure = .closed ∧ o'.endLine = o.endLine + 1 := by
  obtain ⟨layout, whole⟩ := Layout.exists_layout content.toList
  obtain rfl : content = String.ofList layout.text := by rw [whole, String.ofList_toList]
  have single := layout.laid.newline_not_mem
  rw [options.scan_layout] at member ⊢
  obtain ⟨front, piece, later, split, opens, rfl⟩ := exists_piece_of_mem single member
  have frontSingle : ∀ piece ∈ front, '\n' ∉ piece.text := fun piece member =>
    single piece (by simp [split, member])
  have written : Written piece.marker piece.text := (split ▸ layout.laid).written
  simp only [occurrence] at unclosed
  have close : issue.repair = some (.close piece.name
      (byteSize (layout.lead ++ Piece.textOf front))
      (byteSize (layout.lead ++ Piece.textOf front) + byteSize piece.text +
        byteSize (trimEnd (regionOf piece.gap)))) := by
    simp [asked, Occurrence.closing?, occurrence, unclosed]
  have closing := layout.repair_closeAt split written file close
  let slot : Slot := ⟨piece, some (piece.closingLine (layout.lead ++ Piece.textOf front) later)⟩
  refine ⟨_, closing, rfl, front.countP (fun piece => !piece.marker.closing), _, ?_, ?_,
    occurrence_closed written unclosed file _ _ (layout.lead ++ Piece.textOf front)⟩
  · rw [split]
    exact options.getElem?_occurrences file frontSingle opens later _ _
  · have pieces : (layout.close (Layout.map_piece_slotsAt split)
        (layout.slotsAt_fit front later written)).pieces =
        front ++ slot.opening :: (slot.added ++ later) := by
      simp [Layout.close, Layout.slotsAt, Slot.pieces_eq, slot]
    have opensStill : slot.opening.marker.closing = false := by
      rw [Slot.opening_marker]
      exact opens
    rw [options.scan_layout, pieces]
    exact options.getElem?_occurrences file frontSingle opensStill (slot.added ++ later) _ _

namespace Validator

variable {schema : Schema} {validator : Validator}

theorem exists_unclosed {file content : String} {issue : Issue}
    (member : issue ∈ validator.validate file (schema.scanOptions.scan file content))
    (ruled : issue.rule = "matching-close") :
    ∃ o ∈ schema.scanOptions.scan file content, o.closure = .unclosed ∧
      issue.repair = o.closing? ∧
      issue.suggestion = some s!"Add <!--/TAG:{o.tag}--> after line {o.endLine}" := by
  obtain ⟨rule, enabled, finding⟩ := finding_of_mem_validate member
  have named := finding.rule_eq
  rw [ruled] at named
  cases finding with
  | missingClose o offset occurs closing =>
      refine ⟨o, occurs, ?_, closing.symm, rfl⟩
      simpa [closing] using (ScanOptions.isSome_closing? occurs).symm
  | _ => simp [Rule.id, Rule.key, RuleKey.id] at named

/-- Closing all unclosed tags settles every one of them and leaves no other unclosed.  A tag
that is closed alone ends on the line that the suggestion of its issue announces. -/
theorem repair_matchingClose (built : ofSchema schema = .ok validator)
    (enabled : schema.rules.matchingClose.enabled = true) (file content : String) :
    let occurrences := schema.scanOptions.scan file content
    let issues := (validator.validate file occurrences).filter (·.rule == "matching-close")
    (∃ repaired, repair file content issues = .ok repaired ∧
      List.Forall₂ Occurrence.Settles occurrences
        (schema.scanOptions.scan file repaired.content) ∧
      repaired.applied = occurrences.countP (·.closure == .unclosed)) ∧
    ∀ issue ∈ issues, ∃ o alone, o.closure = .unclosed ∧ issue.repair = o.closing? ∧
      issue.suggestion = some s!"Add <!--/TAG:{o.tag}--> after line {o.endLine}" ∧
      repair file content [issue] = .ok alone ∧ alone.applied = 1 ∧
      ∃ (i : Nat) (o' : Occurrence), occurrences[i]? = some o ∧
        (schema.scanOptions.scan file alone.content)[i]? = some o' ∧
        o'.tag = o.tag ∧ o'.closure = .closed ∧ o'.endLine = o.endLine + 1 := by
  intro occurrences issues
  constructor
  · obtain ⟨layout, whole⟩ := Layout.exists_layout content.toList
    obtain rfl : content = String.ofList layout.text := by rw [whole, String.ofList_toList]
    have asked := repairs_matchingClose built file occurrences
    rw [Schema.closings, if_pos enabled] at asked
    exact ⟨_, layout.repair_closeUnclosed asked, layout.scan_closeUnclosed, rfl⟩
  · intro issue member
    obtain ⟨reported, ruled⟩ := List.mem_filter.mp member
    obtain ⟨o, occurs, unclosed, asked, suggestion⟩ :=
      exists_unclosed reported (by simpa using ruled)
    obtain ⟨alone, closed, applied, settled⟩ := ScanOptions.repair_alone occurs unclosed asked
    exact ⟨o, alone, unclosed, asked, suggestion, closed, applied, settled⟩

def closingSchema : Schema where
  dimensions := ∅
  rules :=
    { maxTagsPerFile := ⟨false, 0⟩, matchingClose := ⟨true, 3⟩, validIdentifier := ⟨false, ""⟩,
      componentRequired := ⟨false, []⟩, noDuplicates := ⟨false, ()⟩,
      knownDimensionValue := ⟨false, ()⟩ }

theorem repair_matchingClose_one :
    let text := "<!--TAG:intro-->\ntext\n"
    let occurrences := closingSchema.scanOptions.scan "a.md" text
    ∃ repaired,
      repair "a.md" text (((Validator.mk [.matchingClose]).validate "a.md" occurrences).filter
        (·.rule == "matching-close")) = .ok repaired ∧
      List.Forall₂ Occurrence.Settles occurrences
        (closingSchema.scanOptions.scan "a.md" repaired.content) ∧
      repaired.applied = 1 := by
  have built : ofSchema closingSchema = .ok ⟨[.matchingClose]⟩ := rfl
  obtain ⟨repaired, done, settled, applied⟩ :=
    (repair_matchingClose built rfl "a.md" "<!--TAG:intro-->\ntext\n").1
  exact ⟨repaired, done, settled, applied.trans rfl⟩

end Validator

end TagAudit
