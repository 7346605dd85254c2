import TagAudit.Proofs.Marker.Regions
import TagAudit.Proofs.Repair.Draft
import TagAudit.Proofs.Repair.Unclosed

/-! The lines of the unclosed tags of a text, parted at a place between two of its lines: those
that are written before an edit at this place, and those that are written behind it. -/

namespace TagAudit

open Text Marker

private theorem append_cases {a b x y : List Char} (same : a ++ b = x ++ y) :
    (∃ z, a = x ++ z ∧ y = z ++ b) ∨ ∃ c z, x = a ++ c :: z ∧ b = c :: z ++ y := by
  rcases List.append_eq_append_iff.mp same with ⟨z, longer, rest⟩ | ⟨z, longer, rest⟩
  · cases z with
    | nil => exact .inl ⟨[], by simpa using longer.symm, by simpa using rest.symm⟩
    | cons c z => exact .inr ⟨c, z, longer, rest⟩
  · exact .inl ⟨z, longer, rest⟩

/-- A place between two lines is not inside a marker, so it lies in the gap of a piece. -/
private theorem Piece.exists_cut {pieces : List Piece} (laid : Laid pieces) {c : Char}
    {above below : List Char} (whole : textOf pieces = c :: above ++ below)
    (ends : EndsLine (c :: above) ∨ below = []) :
    ∃ front piece back g h, pieces = front ++ piece :: back ∧ piece.gap = g ++ h ∧
      c :: above = textOf front ++ (piece.text ++ g) ∧ below = h ++ textOf back ∧
      ((∃ f, g = f ++ ['\n']) ∨ below = []) := by
  induction laid generalizing c above with
  | nil => simp at whole
  | @cons piece later written absent laid induction =>
      rw [textOf_cons] at whole
      rcases append_cases whole with ⟨z, inside, rest⟩ | ⟨d, z, beyond, rest⟩
      · -- No line ends inside the marker, so it stands at the end of the text.
        have last : below = [] := by
          refine ends.resolve_left fun ends => written.newline_not_mem ?_
          obtain ⟨f, same⟩ := EndsLine.of_append (a := []) ends (by simp)
          simp [inside, same]
        obtain ⟨rfl, gap, text⟩ : z = [] ∧ piece.gap = [] ∧ textOf later = [] := by
          simpa [last] using rest
        exact ⟨[], piece, later, [], [], rfl, gap, by simp [inside], by simp [last, text],
          .inr last⟩
      · rcases append_cases rest with ⟨h, inside, rest⟩ | ⟨e, z', longer, rest⟩
        · refine ⟨[], piece, later, d :: z, h, rfl, inside, by simpa using beyond, rest,
            ends.imp_left fun ends => ?_⟩
          rw [beyond] at ends
          exact ends.of_append (by simp)
        · have endsLater : EndsLine (e :: z') ∨ below = [] := by
            refine ends.imp_left fun ends => ?_
            rw [beyond, longer, ← List.append_assoc] at ends
            exact .inr (ends.of_append (by simp))
          obtain ⟨front, other, back, g, h, split, gap, first, second, endsGap⟩ :=
            induction rest endsLater
          refine ⟨piece :: front, other, back, g, h, by simp [split], gap, ?_, second, endsGap⟩
          simp [beyond, longer, first]

namespace ScanOptions

variable (options : ScanOptions)

theorem slots_append (before : List Char) (front rest : List Piece) :
    ∃ slots, slots.map Slot.piece = front ∧
      options.slots before (front ++ rest) =
        slots ++ options.slots (before ++ Piece.textOf front) rest := by
  induction front generalizing before with
  | nil => exact ⟨[], rfl, by simp⟩
  | cons piece front induction =>
      obtain ⟨slots, same, split⟩ := induction (before ++ (piece.text ++ piece.gap))
      have further : before ++ (piece.text ++ piece.gap) ++ Piece.textOf front =
          before ++ Piece.textOf (piece :: front) := by
        simp
      rw [further] at split
      exact ⟨⟨piece, _⟩ :: slots, by simp [same], by
        rw [List.cons_append, ScanOptions.slots, split]
        rfl⟩

theorem slots_own (before : List Char) (pieces : List Piece) :
    ∀ slot ∈ options.slots before pieces, slot.Own := by
  induction pieces generalizing before with
  | nil => simp [slots]
  | cons piece later induction =>
      refine List.forall_mem_cons.mpr ⟨?_, induction _⟩
      intro line chosen
      have same := Option.some.inj (Option.ite_none_right_eq_some.mp chosen).2
      exact same ▸ rfl

end ScanOptions

/-- The line of an unclosed tag, parted from what stands above a place in its gap. -/
theorem Piece.fitsBelow_closingLine (before : List Char) {piece : Piece} (later : List Piece)
    (written : Written piece.marker piece.text) {g h kept : List Char} (gap : piece.gap = g ++ h)
    (ends : (∃ f, g = f ++ ['\n']) ∨ h = [])
    (above : (piece.closingLine before later).above = g ++ kept) :
    ClosingLine.FitsBelow { piece.closingLine before later with above := kept } h := by
  have fits := piece.closingLine_fits before later written
  have split := fits.split
  rw [above, gap, List.append_assoc] at split
  rintro other ⟨front, broken⟩
  refine { fits with split := ?_, body := .inr ?_ }
  · simp [ClosingLine.behind, List.append_cancel_left split]
  · have keeps : trimEnd (regionOf (g ++ h)) = g ++ kept := gap ▸ above
    simp only [ClosingLine.behind, broken]
    exact regionBody_below keeps ends
      (Repair.newline_not_mem_lineLead (newline_not_mem_lastLine before))
      (Repair.isCommentLead_lineLead _) front

/-- The line of a slot at byte `pos`, parted at an edit between the parts `g` and `h` of the
gap of its piece: it is written above the edit or below it. -/
structure SlotSeam (slot : Slot) (pos : Nat) (g h : List Char) (edit : Edit) where
  above? : Option ClosingLine
  below? : Option ClosingLine
  fits : ∀ line ∈ above?, line.Fits { slot.piece with gap := g }
  own : ∀ line ∈ above?, line.name = slot.piece.marker.name
  free : ∀ line ∈ below?, above? = none
  split : ∀ line ∈ below?, line.above ++ line.below = h
  fitsBelow : ∀ line ∈ below?, line.FitsBelow h
  entries_eq : Slot.entries pos [slot] =
    Slot.entries pos [⟨{ slot.piece with gap := g }, above?⟩] ++
      below?.toList.map (·.entry (pos + byteSize slot.piece.text + byteSize g))
  before : ∀ entry ∈ Slot.entries pos [⟨{ slot.piece with gap := g }, above?⟩],
    entry.2.compare edit = .lt
  behind : ∀ line ∈ below?,
    edit.compare (line.entry (pos + byteSize slot.piece.text + byteSize g)).2 = .lt

namespace SlotSeam

variable {piece : Piece} {g h : List Char}

theorem of_none (piece : Piece) (pos : Nat) (g h : List Char) (edit : Edit) :
    Nonempty (SlotSeam ⟨piece, none⟩ pos g h edit) :=
  ⟨⟨none, none, by simp, by simp, by simp, by simp, by simp, by simp, by simp, by simp⟩⟩

/-- The line of an unclosed tag is parted at every edit that it differs from. -/
theorem of_closingLine (before : List Char) (later : List Piece)
    (written : Written piece.marker piece.text) (gap : piece.gap = g ++ h)
    (ends : (∃ f, g = f ++ ['\n']) ∨ h = []) {pos : Nat} {edit : Edit}
    (seam : edit.offset = pos + byteSize piece.text + byteSize g)
    (differ : ((piece.closingLine before later).entry (pos + byteSize piece.text)).2 ≠ edit) :
    Nonempty (SlotSeam ⟨piece, some (piece.closingLine before later)⟩ pos g h edit) := by
  have fits := piece.closingLine_fits before later written
  have parts := fits.split
  have named : (piece.closingLine before later).name = piece.marker.name := rfl
  have below (kept : List Char) (longer : (piece.closingLine before later).above = g ++ kept) :=
    piece.fitsBelow_closingLine before later written gap ends longer
  generalize piece.closingLine before later = line at *
  rw [gap] at parts
  rcases Edit.compare_or_compare differ with order | order
  · have reach := Edit.offset_le_of_compare order
    simp only [ClosingLine.entry] at reach
    obtain ⟨rest, inside, outside⟩ := prefix_of_byteSize_le parts (by omega)
    refine ⟨⟨some { line with below := rest }, none, ?_, ?_, by simp, by simp, by simp, ?_, ?_,
      by simp⟩⟩
    · rintro _ ⟨⟩
      exact { fits with
        split := inside.symm
        body := .inl named }
    · rintro _ ⟨⟩
      exact named
    · simp [ClosingLine.entry_below]
    · simpa [ClosingLine.entry_below] using order
  · have reach := Edit.offset_le_of_compare order
    simp only [ClosingLine.entry] at reach
    obtain ⟨kept, longer, rest⟩ := prefix_of_byteSize_le parts.symm (by omega)
    have size := congrArg byteSize longer
    rw [byteSize_append] at size
    have moved : ClosingLine.entry { line with above := kept }
        (pos + byteSize piece.text + byteSize g) = line.entry (pos + byteSize piece.text) := by
      simp [ClosingLine.entry, ClosingLine.text, ClosingLine.marker, size, Nat.add_assoc]
    refine ⟨⟨none, some { line with above := kept }, by simp, by simp, by simp, ?_, ?_, ?_,
      by simp, ?_⟩⟩
    · rintro _ ⟨⟩
      exact rest.symm
    · rintro _ ⟨⟩
      exact below kept longer
    · simp [moved]
    · rintro _ ⟨⟩
      exact moved ▸ order

/-! The lines of slots around one whose own line is parted. -/

variable {line? : Option ClosingLine} {front : List Slot} {edit : Edit} {start pos : Nat}

theorem entries_parted (here : SlotSeam ⟨piece, line?⟩ pos g h edit) (gap : piece.gap = g ++ h)
    (reach : start + byteSize (Piece.textOf (front.map Slot.piece)) = pos) (later : List Slot) :
    let seam := pos + byteSize piece.text + byteSize g
    Slot.entries start (front ++ ⟨piece, line?⟩ :: later) =
      Slot.entries start (front ++ [⟨{ piece with gap := g }, here.above?⟩]) ++
        (here.below?.toList.map (·.entry seam) ++ Slot.entries (seam + byteSize h) later) := by
  intro seam
  have next : pos + byteSize (Piece.textOf ([Slot.mk piece line?].map Slot.piece)) =
      seam + byteSize h := by
    simp [seam, gap, Nat.add_assoc]
  have apart : front ++ ⟨piece, line?⟩ :: later = front ++ ([⟨piece, line?⟩] ++ later) := rfl
  rw [apart, Slot.entries_append, Slot.entries_append, Slot.entries_append, reach, next,
    here.entries_eq]
  simp only [List.append_assoc, seam]

theorem before_parted (here : SlotSeam ⟨piece, line?⟩ pos g h edit) (shown : piece.text ≠ [])
    (fits : ∀ slot ∈ front, slot.Fits)
    (reach : start + byteSize (Piece.textOf (front.map Slot.piece)) = pos)
    (seam : edit.offset = pos + byteSize piece.text + byteSize g) :
    ∀ entry ∈ Slot.entries start (front ++ [⟨{ piece with gap := g }, here.above?⟩]),
      entry.2.compare edit = .lt := by
  have positive := byteSize_pos shown
  have ends := Slot.offset_le fits start
  rw [Slot.edits] at ends
  rw [Slot.entries_append, reach]
  refine List.forall_mem_append.mpr ⟨fun entry member => ?_, here.before⟩
  have := ends _ (List.mem_map_of_mem member)
  exact Edit.compare_of_offset_lt (by omega)

theorem behind_parted (here : SlotSeam ⟨piece, line?⟩ pos g h edit) {later : List Slot}
    (laid : Piece.Laid (later.map Slot.piece))
    (seam : edit.offset = pos + byteSize piece.text + byteSize g) :
    ∀ entry ∈ here.below?.toList.map (·.entry edit.offset) ++
        Slot.entries (edit.offset + byteSize h) later, edit.compare entry.2 = .lt := by
  have begins := Slot.lt_offset laid (edit.offset + byteSize h)
  rw [Slot.edits] at begins
  refine List.forall_mem_append.mpr ⟨fun entry member => ?_, fun entry member => ?_⟩
  · obtain ⟨line, chosen, rfl⟩ := List.mem_map.mp member
    rw [seam]
    exact here.behind line (Option.mem_toList.mp chosen)
  · have := begins _ (List.mem_map_of_mem member)
    exact Edit.compare_of_offset_lt (by omega)

end SlotSeam

/-- The closing lines of a text, parted at an edit that stands between two lines. -/
structure Seam (options : ScanOptions) (layout : Layout) (above below : List Char)
    (edit : Edit) where
  first : Draft
  second : Draft
  /-- A line that belongs to the last gap of the first draft, behind the edit. -/
  line? : Option ClosingLine
  text_first : first.text = above
  text_second : second.text = below
  own : first.Own
  opened : ∀ line ∈ line?, first.Open
  split : ∀ line ∈ line?, line.above ++ line.below = second.lead
  fits : ∀ line ∈ line?, line.FitsBelow second.lead
  entries_eq : Slot.entries (byteSize layout.lead) (options.slots layout.lead layout.pieces) =
    first.entries ++ second.entriesBelow line? (byteSize above)
  before : ∀ entry ∈ first.entries, entry.2.compare edit = .lt
  behind : ∀ entry ∈ second.entriesBelow line? (byteSize above), edit.compare entry.2 = .lt
  markers_eq : layout.pieces.map Piece.marker = first.markers ++ second.markers

namespace Layout

variable (options : ScanOptions) (layout : Layout) {above below : List Char} {edit : Edit}

private theorem seam_lead (seam : edit.offset = byteSize above) {gap : List Char}
    (lead : layout.lead = above ++ gap) (rest : below = gap ++ Piece.textOf layout.pieces) :
    Nonempty (Seam options layout above below edit) := by
  have same := options.map_piece_slots layout.lead layout.pieces
  have absent := layout.absent
  have laid := layout.laid
  rw [lead, absent_append, ← same] at absent
  rw [← same] at laid
  have beyond := Slot.lt_offset laid (byteSize layout.lead)
  rw [Slot.edits] at beyond
  refine ⟨⟨⟨above, [], absent.1.alone, .nil, by simp⟩,
    ⟨gap, options.slots layout.lead layout.pieces, absent.2, laid,
      options.slots_fit layout.lead layout.laid⟩, none, ?_, ?_, by simp [Draft.Own], by simp,
    by simp, by simp, ?_, by simp [Draft.entries], ?_, ?_⟩⟩
  · simp [Draft.text]
  · simp [Draft.text, same, rest]
  · simp [Draft.entries, Draft.entriesBelow, lead]
  · intro entry member
    have later := beyond entry.2 (List.mem_map_of_mem (by
      simpa [Draft.entriesBelow, lead] using member))
    refine Edit.compare_of_offset_lt ?_
    rw [lead, byteSize_append] at later
    omega
  · have markers := congrArg (List.map Piece.marker) same
    simpa [Draft.markers, Function.comp_def] using markers.symm

private theorem exists_first {front : List Piece} {piece : Piece} {back : List Piece}
    (split : layout.pieces = front ++ piece :: back) {g h : List Char}
    (gap : piece.gap = g ++ h) {slots : List Slot} (same : slots.map Slot.piece = front)
    (slotsFit : ∀ slot ∈ slots, slot.Fits) {line? : Option ClosingLine}
    (fits : ∀ line ∈ line?, line.Fits { piece with gap := g }) :
    ∃ first : Draft, first.lead = layout.lead ∧
      first.slots = slots ++ [Slot.mk { piece with gap := g } line?] := by
  have laid := layout.laid
  have absent := layout.absent
  rw [split] at laid absent
  have gapAbsent : Absent g [] := (absent_append.mp (gap ▸ laid.absent)).1.alone
  have pieces : (slots ++ [Slot.mk { piece with gap := g } line?]).map Slot.piece =
      front ++ { piece with gap := g } :: [] := by
    simp [same]
  refine ⟨⟨layout.lead, slots ++ [Slot.mk { piece with gap := g } line?], ?_, ?_, ?_⟩, rfl, rfl⟩
  · rw [pieces]
    exact Piece.absent_replace laid rfl absent
  · rw [pieces]
    exact laid.replace rfl rfl gapAbsent .nil
  · exact List.forall_mem_append.mpr ⟨slotsFit, by simpa [Slot.Fits] using fits⟩

private theorem exists_second {front : List Piece} {piece : Piece} {back : List Piece}
    (split : layout.pieces = front ++ piece :: back) {g h : List Char}
    (gap : piece.gap = g ++ h) {slots : List Slot} (same : slots.map Slot.piece = back)
    (slotsFit : ∀ slot ∈ slots, slot.Fits) :
    ∃ second : Draft, second.lead = h ∧ second.slots = slots := by
  have laid := layout.laid
  rw [split] at laid
  have absent := (absent_append.mp (gap ▸ laid.absent)).2
  have later := laid.later
  rw [← same] at absent later
  exact ⟨⟨h, slots, absent, later, slotsFit⟩, rfl, rfl⟩

private theorem seam_gap (seam : edit.offset = byteSize above) {front back : List Piece}
    {piece : Piece} (split : layout.pieces = front ++ piece :: back) {g h : List Char}
    (gap : piece.gap = g ++ h)
    (first : above = layout.lead ++ (Piece.textOf front ++ (piece.text ++ g)))
    (second : below = h ++ Piece.textOf back) {line? : Option ClosingLine}
    {slots later : List Slot} (same : slots.map Slot.piece = front)
    (sameLater : later.map Slot.piece = back)
    (parted : options.slots layout.lead layout.pieces = slots ++ ⟨piece, line?⟩ :: later)
    (here : SlotSeam ⟨piece, line?⟩ (byteSize layout.lead + byteSize (Piece.textOf front)) g h
      edit) :
    Nonempty (Seam options layout above below edit) := by
  have whole := options.slots_fit layout.lead layout.laid
  have wholeOwn := options.slots_own layout.lead layout.pieces
  rw [parted] at whole wholeOwn
  obtain ⟨slotsFit, laterFit⟩ := List.forall_mem_append.mp whole
  obtain ⟨slotsOwn, -⟩ := List.forall_mem_append.mp wholeOwn
  obtain ⟨-, laterFit⟩ := List.forall_mem_cons.mp laterFit
  obtain ⟨a, aLead, aSlots⟩ := layout.exists_first split gap same slotsFit here.fits
  obtain ⟨b, bLead, bSlots⟩ := layout.exists_second split gap sameLater laterFit
  have written : Written piece.marker piece.text := (split ▸ layout.laid).written
  have reach : byteSize layout.lead + byteSize (Piece.textOf (slots.map Slot.piece)) =
      byteSize layout.lead + byteSize (Piece.textOf front) := by
    rw [same]
  have size : byteSize above = byteSize layout.lead + byteSize (Piece.textOf front) +
      byteSize piece.text + byteSize g := by
    simp [first, Nat.add_assoc]
  have aEntries : a.entries = Slot.entries (byteSize layout.lead)
      (slots ++ [⟨{ piece with gap := g }, here.above?⟩]) := by
    rw [Draft.entries, aLead, aSlots]
  have bEntries : b.entriesBelow here.below? (byteSize above) =
      here.below?.toList.map (·.entry (byteSize above)) ++
        Slot.entries (byteSize above + byteSize h) later := by
    rw [Draft.entriesBelow, bLead, bSlots]
  refine ⟨⟨a, b, here.below?, ?_, ?_, ?_, ?_, bLead ▸ here.split, bLead ▸ here.fitsBelow, ?_,
    ?_, ?_, ?_⟩⟩
  · simp [Draft.text, aLead, aSlots, same, first]
  · simp [Draft.text, bLead, bSlots, sameLater, second]
  · rw [Draft.Own, aSlots]
    refine List.forall_mem_append.mpr ⟨slotsOwn, ?_⟩
    simpa [Slot.Own] using here.own
  · intro line chosen
    exact ⟨slots, _, aSlots, here.free line chosen⟩
  · rw [parted, here.entries_parted gap reach, aEntries, bEntries, size]
  · rw [aEntries]
    exact here.before_parted written.ne_nil slotsFit reach (seam.trans size)
  · rw [bEntries, ← seam]
    exact here.behind_parted (bSlots ▸ b.laid) (seam.trans size)
  · simp [Draft.markers, aSlots, bSlots, split, ← same, ← sameLater, Function.comp_def]

/-- An edit between two lines parts the lines of a text. -/
theorem exists_seam (whole : layout.text = above ++ below) (ends : EndsLine above ∨ below = [])
    (seam : edit.offset = byteSize above)
    (differ : ∀ entry ∈ Slot.entries (byteSize layout.lead)
      (options.slots layout.lead layout.pieces), entry.2 ≠ edit) :
    Nonempty (Seam options layout above below edit) := by
  rcases append_cases whole with ⟨gap, lead, rest⟩ | ⟨c, z, first, rest⟩
  · exact seam_lead options layout seam lead rest
  · have endsLater : EndsLine (c :: z) ∨ below = [] := ends.imp_left fun ends => by
      rw [first] at ends
      exact .inr (ends.of_append (by simp))
    obtain ⟨front, piece, back, g, h, split, gap, upper, second, endsGap⟩ :=
      Piece.exists_cut layout.laid rest endsLater
    rw [upper] at first
    have endsPart : (∃ f, g = f ++ ['\n']) ∨ h = [] :=
      endsGap.imp_right fun last => (List.append_eq_nil_iff.mp (second.symm.trans last)).1
    obtain ⟨slots, same, parted⟩ := options.slots_append layout.lead front (piece :: back)
    rw [← split, ScanOptions.slots] at parted
    have sameLater := options.map_piece_slots
      (layout.lead ++ Piece.textOf front ++ (piece.text ++ piece.gap)) back
    have written : Written piece.marker piece.text := (split ▸ layout.laid).written
    have here : edit.offset = byteSize layout.lead + byteSize (Piece.textOf front) +
        byteSize piece.text + byteSize g := by
      rw [seam, first]
      simp [Nat.add_assoc]
    by_cases unclosed : piece.marker.closing = false ∧ options.closureOf piece back = .unclosed
    · rw [if_pos unclosed] at parted
      rw [parted, Slot.entries_append, same] at differ
      have line := SlotSeam.of_closingLine (layout.lead ++ Piece.textOf front) back written gap
        endsPart here (differ _ (by simp [ClosingLine.entry]))
      exact line.elim fun here =>
        seam_gap options layout seam split gap first second same sameLater parted here
    · rw [if_neg unclosed] at parted
      exact (SlotSeam.of_none piece _ g h edit).elim fun here =>
        seam_gap options layout seam split gap first second same sameLater parted here

end Layout

end TagAudit
