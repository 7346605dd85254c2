import TagAudit.Proofs.Marker.Occurrences
import TagAudit.Proofs.Marker.Regions
import TagAudit.Proofs.Repair.Rescan
import TagAudit.Proofs.Rule.Findings

/-! The closing lines of the unclosed tags of a text: where they go, and that planning the
repairs of these tags gives the edits that write them. -/

namespace TagAudit

open Text Marker

namespace Repair

private theorem not_mem_of_blank {cs : List Char} {c : Char} (visible : isBlank c = false)
    (blank : ∀ d ∈ cs, isBlank d = true) : c ∉ cs := fun member =>
  absurd (visible.symm.trans (blank c member)) (by decide)

theorem lt_not_mem_lineLead (before : List Char) : '<' ∉ lineLead before := by
  have indent : '<' ∉ before.takeWhile isBlank :=
    not_mem_of_blank rfl fun _ member => List.mem_takeWhile_imp member
  simp only [lineLead]
  split
  · simp
  next lead =>
    split
    · exact indent
    next visible =>
      have known : trim before ∈ commentMarkers := by
        simpa [isCommentLead, visible] using lead
      have marker := lt_not_mem_of_mem_commentMarkers _ known
      simp [indent, marker]

theorem newline_not_mem_lineLead {before : List Char} (single : '\n' ∉ before) :
    '\n' ∉ lineLead before := by
  have indent : '\n' ∉ before.takeWhile isBlank := fun member =>
    single ((List.takeWhile_prefix _).subset member)
  have marker : '\n' ∉ trim before := fun member => single ((infix_trim before).subset member)
  simp only [lineLead]
  split
  · simp
  · split
    · exact indent
    · simp [indent, marker]

theorem isCommentLead_lineLead (before : List Char) :
    isCommentLead (lineLead before) = true := by
  have indent : ∀ c ∈ before.takeWhile isBlank, isBlank c = true :=
    fun _ member => List.mem_takeWhile_imp member
  simp only [lineLead]
  split
  · rfl
  next lead =>
    split
    · simp [isCommentLead, trim_eq_nil_iff.mpr indent]
    next visible =>
      have shown : trim (before.takeWhile isBlank ++ trim before ++ [' ']) = trim before := by
        rw [trim_append_blanks _ (List.forall_mem_singleton.mpr rfl), trim,
          trimStart_of_blanks_append indent, ← trim, trim_trim]
      have comment : isCommentLead before = true := by simpa using lead
      rwa [isCommentLead, shown]

end Repair

namespace Piece

def closingLine (before : List Char) (piece : Piece) (later : List Piece) : ClosingLine :=
  let above := trimEnd (regionOf piece.gap)
  let below := piece.gap.drop above.length
  { name := piece.marker.name, above := above, lead := Repair.lineLead (lastLine before),
    ends := if Repair.beginsLine (below ++ textOf later) then [] else ['\n'], below := below }

theorem closingLine_fits (before : List Char) {piece : Piece} (later : List Piece)
    (written : Written piece.marker piece.text) :
    (piece.closingLine before later).Fits piece where
  split := List.prefix_iff_eq_append.mp ((prefix_trimEnd _).trans (prefix_regionOf piece.gap))
  leadPlain := Repair.lt_not_mem_lineLead _
  endsPlain := by
    simp only [closingLine]
    split <;> simp
  nameable := written.nameable
  tight := written.trim_name
  body := .inl rfl

end Piece

namespace ScanOptions

def slots (options : ScanOptions) (before : List Char) : List Piece → List Slot
  | [] => []
  | piece :: later =>
      let line? :=
        if piece.marker.closing = false ∧ options.closureOf piece later = .unclosed then
          some (piece.closingLine before later)
        else none
      ⟨piece, line?⟩ :: options.slots (before ++ (piece.text ++ piece.gap)) later

theorem map_piece_slots (options : ScanOptions) (before : List Char) (pieces : List Piece) :
    (options.slots before pieces).map Slot.piece = pieces := by
  induction pieces generalizing before with
  | nil => rfl
  | cons piece later induction => simp [slots, induction]

theorem slots_fit (options : ScanOptions) (before : List Char) {pieces : List Piece}
    (laid : Piece.Laid pieces) : ∀ slot ∈ options.slots before pieces, slot.Fits := by
  induction laid generalizing before with
  | nil => simp [slots]
  | @cons piece later written absent laid induction =>
      refine List.forall_mem_cons.mpr ⟨?_, induction _⟩
      intro line chosen
      have same := Option.some.inj (Option.ite_none_right_eq_some.mp chosen).2
      exact same ▸ piece.closingLine_fits before later written

end ScanOptions

/-! The repairs of unclosed tags. -/

namespace Repair

def mark? : Repair → Option (Nat × String)
  | .close tag _ insertOffset => some (insertOffset, tag)
  | .insertComponent _ => none

theorem plan_close_append (path : Path) (tag : String) {front after above below : List Char}
    (same : front ++ after = above ++ below) :
    plan path (front ++ after) (.close tag (byteSize front) (byteSize above)) =
      .ok (some ⟨byteSize above,
        String.ofList
          (closingLine tag ⟨lastLine front, after, 0⟩ ⟨lastLine above, below, 0⟩)⟩) := by
  have opening := Place.find?_append front after
  have place := same ▸ Place.find?_append above below
  simp only [plan, place, opening, Option.filter_some, decide_true, if_true]

theorem plan_close (path : Path) (before : List Char) {piece : Piece} (later : List Piece)
    (written : Written piece.marker piece.text) :
    let line := piece.closingLine before later
    let offset := byteSize before + byteSize piece.text + byteSize line.above
    plan path (before ++ (piece.text ++ (piece.gap ++ Piece.textOf later)))
        (.close piece.name (byteSize before) offset) =
      .ok (some ⟨offset, String.ofList line.text⟩) := by
  intro line offset
  have split : line.above ++ line.below = piece.gap :=
    (piece.closingLine_fits before later written).split
  have whole : before ++ (piece.text ++ (piece.gap ++ Piece.textOf later)) =
      (before ++ (piece.text ++ line.above)) ++ (line.below ++ Piece.textOf later) := by
    simp [← split]
  have size : byteSize (before ++ (piece.text ++ line.above)) = offset := by
    simp [offset, Nat.add_assoc]
  rw [← size, plan_close_append path piece.name whole]
  simp [Repair.closingLine, ClosingLine.text, ClosingLine.marker, Piece.name, line,
    Piece.closingLine]

end Repair

namespace ScanOptions

open Repair

theorem closing?_occurrence (options : ScanOptions) (file : String) (line : Nat)
    (before : List Char) (piece : Piece) (later : List Piece) :
    (options.occurrence file (byteSize before) line piece later).closing? =
      if options.closureOf piece later = .unclosed then
        some (.close piece.name (byteSize before)
          (byteSize before + byteSize piece.text +
            byteSize (piece.closingLine before later).above))
      else none := by
  simp only [Occurrence.closing?, occurrence, Piece.closingLine]
  cases options.closureOf piece later <;> rfl

theorem closings_eq (options : ScanOptions) (file : String) (path : Path)
    {pieces : List Piece} (laid : Piece.Laid pieces) (before : List Char) (line : Nat) :
    ((options.occurrences file (byteSize before) line pieces).filterMap
        Occurrence.closing?).map (fun r => (r.mark?, plan path (before ++ Piece.textOf pieces) r)) =
      (Slot.entries (byteSize before) (options.slots before pieces)).map
        fun (name, edit) => (some (edit.offset, name), .ok (some edit)) := by
  induction laid generalizing before line with
  | nil => rfl
  | @cons piece later written absent laid induction =>
      have rest := induction (before ++ (piece.text ++ piece.gap)) (line + piece.gap.count '\n')
      have planned := plan_close path before later written
      simp only [byteSize_append, ← Nat.add_assoc, List.append_assoc] at rest
      simp only [occurrences, Piece.textOf_cons, slots]
      by_cases ends : piece.marker.closing = true
      · simpa [ends] using rest
      · by_cases unclosed : options.closureOf piece later = .unclosed
        · simp only [ends, Bool.false_eq_true, if_false, List.filterMap_cons,
            closing?_occurrence, unclosed, if_true, List.map_cons, planned, rest]
          simp [mark?, ClosingLine.entry, Piece.name, Piece.closingLine]
        · simpa [ends, closing?_occurrence, unclosed] using rest

theorem plan_closing (options : ScanOptions) (file : String) (path : Path)
    {pieces : List Piece} (laid : Piece.Laid pieces) (before : List Char) (line : Nat) :
    ∀ r ∈ (options.occurrences file (byteSize before) line pieces).filterMap
        Occurrence.closing?,
      ∃ edit, plan path (before ++ Piece.textOf pieces) r = .ok (some edit) := by
  intro r member
  have found := List.mem_map_of_mem (f := fun r =>
    (r.mark?, plan path (before ++ Piece.textOf pieces) r)) member
  rw [options.closings_eq file path laid before line, List.mem_map] at found
  obtain ⟨⟨name, edit⟩, -, same⟩ := found
  exact ⟨edit, (Prod.mk.inj same).2.symm⟩

theorem edits_closing (options : ScanOptions) (file : String) (path : Path)
    {pieces : List Piece} (laid : Piece.Laid pieces) (before : List Char) (line : Nat) :
    ((options.occurrences file (byteSize before) line pieces).filterMap
        Occurrence.closing?).filterMap (edit? path (before ++ Piece.textOf pieces)) =
      Slot.edits (byteSize before) (options.slots before pieces) := by
  have same := congrArg (List.filterMap fun entry => entry.2.toOption.join)
    (options.closings_eq file path laid before line)
  rw [List.filterMap_map, List.filterMap_map] at same
  refine same.trans ?_
  simp [Slot.edits, Function.comp_def, Except.toOption]

theorem written_slots (options : ScanOptions) (file : String) {pieces : List Piece}
    (laid : Piece.Laid pieces) (before : List Char) (line : Nat) :
    ((options.occurrences file (byteSize before) line pieces).filterMap
        Occurrence.closing?).filterMap Repair.mark? =
      Slot.written (byteSize before) (options.slots before pieces) := by
  have same := congrArg (List.filterMap Prod.fst)
    (options.closings_eq file ⟨[]⟩ laid before line)
  rw [List.filterMap_map, List.filterMap_map] at same
  refine same.trans ?_
  simp [Slot.written]

theorem closing?_of_unclosed {options : ScanOptions} {file content : String} {o : Occurrence}
    (member : o ∈ options.scan file content) (unclosed : o.closure = .unclosed) :
    ∃ offset, o.openOffset < offset ∧
      o.closing? = some (.close o.tag o.openOffset offset) := by
  obtain ⟨layout, front, piece, later, -, split, rfl⟩ := exists_piece_of_mem_scan member
  have positive := byteSize_pos (split ▸ layout.laid).written.ne_nil
  refine ⟨_, ?_, (options.closing?_occurrence file _ _ piece later).trans (if_pos unclosed)⟩
  simp only [occurrence]
  omega

theorem closedIn_of_unclosed {options : ScanOptions} {file content : String} {o : Occurrence}
    (member : o ∈ options.scan file content) (unclosed : o.closure = .unclosed) :
    o.closedIn (((options.scan file content).filterMap Occurrence.closing?).filterMap
      Repair.mark?) = true := by
  obtain ⟨offset, behind, closing⟩ := closing?_of_unclosed member unclosed
  refine List.any_eq_true.mpr ⟨(offset, o.tag), ?_, by simp [behind]⟩
  exact List.mem_filterMap.mpr ⟨_, List.mem_filterMap.mpr ⟨o, member, closing⟩, rfl⟩

theorem isSome_closing? {options : ScanOptions} {file content : String} {o : Occurrence}
    (member : o ∈ options.scan file content) :
    o.closing?.isSome = (o.closure == .unclosed) := by
  by_cases unclosed : o.closure = .unclosed
  · obtain ⟨offset, -, closing⟩ := closing?_of_unclosed member unclosed
    simp [closing, unclosed]
  · cases closure : o.closure <;> simp_all [Occurrence.closing?]

end ScanOptions

end TagAudit
