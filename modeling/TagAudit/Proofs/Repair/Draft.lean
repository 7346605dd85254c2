import Mathlib.Data.List.Basic
import TagAudit.Proofs.Repair.Rescan

/-! Texts with lines that are to be written into them.  Two such drafts that meet between two
lines join to one, and a line that belongs at their seam comes into the last gap of the first. -/

namespace TagAudit

open Text Marker

/-- A text cut at its markers, with closing lines for some of its gaps. -/
structure Draft where
  lead : List Char
  slots : List Slot
  absent : Absent lead (Piece.textOf (slots.map Slot.piece))
  laid : Piece.Laid (slots.map Slot.piece)
  fits : ∀ slot ∈ slots, slot.Fits

namespace Slot

def Own (slot : Slot) : Prop :=
  ∀ line ∈ slot.line?, line.name = slot.piece.marker.name

end Slot

namespace ClosingLine

def behind (line : ClosingLine) (gap : List Char) : ClosingLine :=
  { line with above := gap ++ line.above }

/-- The line can be written in `lead` below any piece that ends with a line end. -/
def FitsBelow (line : ClosingLine) (lead : List Char) : Prop :=
  ∀ piece : Piece, (∃ front, piece.gap = front ++ ['\n']) →
    (line.behind piece.gap).Fits { piece with gap := piece.gap ++ lead }

def within (line? : Option ClosingLine) (lead : List Char) : List Char :=
  match line? with
  | none => lead
  | some line => line.above ++ line.text ++ line.below

end ClosingLine

namespace Draft

def text (draft : Draft) : List Char :=
  draft.lead ++ Piece.textOf (draft.slots.map Slot.piece)

def closedText (draft : Draft) : List Char :=
  draft.lead ++ Piece.textOf (Slot.closed draft.slots)

/-- The names that the lines close, with the edits that write them. -/
def entries (draft : Draft) : List (String × Edit) :=
  Slot.entries (byteSize draft.lead) draft.slots

def markers (draft : Draft) : List Marker :=
  draft.slots.map fun slot => slot.piece.marker

def Own (draft : Draft) : Prop :=
  ∀ slot ∈ draft.slots, slot.Own

def Open (draft : Draft) : Prop :=
  ∃ front slot, draft.slots = front ++ [slot] ∧ slot.line? = none

def layout (draft : Draft) : Layout :=
  ⟨draft.lead, draft.slots.map Slot.piece, draft.absent, draft.laid⟩

theorem scan_closedText (draft : Draft) (options : ScanOptions) (file : String) :
    List.Forall₂
      (Occurrence.Rescanned (draft.entries.map fun (name, edit) => (edit.offset, name)))
      (options.scan file (String.ofList draft.text))
      (options.scan file (String.ofList draft.closedText)) := by
  exact draft.layout.scan_close rfl draft.fits options file

def closedBelow (draft : Draft) (line? : Option ClosingLine) : List Char :=
  ClosingLine.within line? draft.lead ++ Piece.textOf (Slot.closed draft.slots)

def entriesBelow (draft : Draft) (line? : Option ClosingLine) (pos : Nat) :
    List (String × Edit) :=
  line?.toList.map (·.entry pos) ++ Slot.entries (pos + byteSize draft.lead) draft.slots

end Draft

namespace Slot

def extend (slot : Slot) (lead : List Char) (line? : Option ClosingLine) : Slot :=
  ⟨{ slot.piece with gap := slot.piece.gap ++ lead },
    match line? with
    | some line => some (line.behind slot.piece.gap)
    | none => slot.line?.map fun line => { line with below := line.below ++ lead }⟩

variable {slot : Slot} {line? : Option ClosingLine} {lead : List Char}

theorem fits_extend (fits : slot.Fits) (own : slot.Own)
    (free : ∀ line ∈ line?, slot.line? = none)
    (below : ∀ line ∈ line?, (∃ front, slot.piece.gap = front ++ ['\n']) ∧ line.FitsBelow lead) :
    (slot.extend lead line?).Fits := by
  obtain ⟨piece, own?⟩ := slot
  cases line? with
  | none =>
      cases own? with
      | none => nofun
      | some line =>
          rintro _ ⟨⟩
          have here := fits line rfl
          have split : line.above ++ line.below = piece.gap := here.split
          exact { here with
            split := by simp [extend, ← split]
            body := .inl (own line rfl) }
  | some line =>
      rintro _ ⟨⟩
      obtain ⟨ends, inLead⟩ := below line rfl
      exact inLead piece ends

theorem own_extend (own : slot.Own) (lead : List Char) : (slot.extend lead none).Own := by
  obtain ⟨piece, line?⟩ := slot
  cases line? with
  | none => nofun
  | some line =>
      rintro _ ⟨⟩
      exact own line rfl

theorem textOf_extend (free : ∀ line ∈ line?, slot.line? = none) (lead : List Char) :
    Piece.textOf (slot.extend lead line?).pieces =
      Piece.textOf slot.pieces ++ ClosingLine.within line? lead := by
  obtain ⟨piece, own?⟩ := slot
  cases line? with
  | none => cases own? <;> simp [extend, pieces, ClosingLine.within, ClosingLine.marker]
  | some line =>
      obtain rfl : own? = none := free line rfl
      simp [extend, pieces, ClosingLine.within, ClosingLine.behind, ClosingLine.text,
        ClosingLine.marker]

theorem entries_extend (free : ∀ line ∈ line?, slot.line? = none) (lead : List Char) (pos : Nat)
    (later : List Slot) :
    let next := pos + byteSize slot.piece.text + byteSize slot.piece.gap
    entries pos (slot.extend lead line? :: later) =
      entries pos [slot] ++
        (line?.toList.map (·.entry next) ++ entries (next + byteSize lead) later) := by
  obtain ⟨piece, own?⟩ := slot
  cases line? with
  | none => cases own? <;> simp [extend, ClosingLine.entry_below, Nat.add_assoc]
  | some line =>
      obtain rfl : own? = none := free line rfl
      simp [extend, ClosingLine.entry, ClosingLine.behind, ClosingLine.text, ClosingLine.marker,
        Nat.add_assoc]

end Slot

namespace Draft

private theorem gap_ends {front text gap : List Char} {m : Marker} (written : Written m text)
    (ends : EndsLine (front ++ (text ++ gap))) : ∃ other, gap = other ++ ['\n'] := by
  by_cases empty : gap = []
  · rw [empty, List.append_nil] at ends
    obtain ⟨other, same⟩ := ends.of_append written.ne_nil
    exact absurd (by simp [same]) written.newline_not_mem
  · rw [← List.append_assoc] at ends
    exact ends.of_append empty

/-- What one draft says and then another one, with a line in the lead of the second. -/
structure Joins (a b : Draft) (line? : Option ClosingLine) (d : Draft) : Prop where
  text : d.text = a.text ++ b.text
  markers : d.markers = a.markers ++ b.markers
  closedText : d.closedText = a.closedText ++ b.closedBelow line?
  entries : d.entries = a.entries ++ b.entriesBelow line? (byteSize a.text)
  own : line? = none → b.Own → d.Own
  opened : line? = none → a.Open → b.slots = [] ∨ b.Open → d.Open

private theorem exists_join_nil {a : Draft} (plain : a.slots = []) (b : Draft)
    (apart : Apart a.text b.text) : ∃ d, Joins a b none d := by
  obtain ⟨lead, slots, absent, laid, slotsFit⟩ := a
  obtain ⟨lead', later, absent', laid', laterFit⟩ := b
  obtain rfl : slots = [] := plain
  have begins : Apart ([] ++ lead) (lead' ++ Piece.textOf (later.map Slot.piece)) := by
    simpa [text] using apart
  refine ⟨⟨lead ++ lead', later, absent_append.mpr ⟨absent.of_apart begins, absent'⟩, laid',
    laterFit⟩, ?_, ?_, ?_, ?_, fun _ => id, fun _ ⟨front, slot, nothing, _⟩ => ?_⟩
  · simp [text]
  · simp [markers]
  · simp [closedText, closedBelow, ClosingLine.within]
  · simp [entries, entriesBelow, text]
  · simp at nothing

private theorem exists_join_concat {a : Draft} {front : List Slot} {slot : Slot}
    (last : a.slots = front ++ [slot]) (b : Draft) {line? : Option ClosingLine}
    (apart : Apart a.text b.text) (own : a.Own) (free : ∀ line ∈ line?, slot.line? = none)
    (fits : ∀ line ∈ line?, (∃ front, a.text = front ++ ['\n']) ∧ line.FitsBelow b.lead) :
    ∃ d, Joins a b line? d := by
  obtain ⟨lead, slots, absent, laid, slotsFit⟩ := a
  obtain ⟨lead', later, absent', laid', laterFit⟩ := b
  obtain rfl : slots = front ++ [slot] := last
  obtain ⟨frontFit, here⟩ := List.forall_mem_append.mp slotsFit
  obtain ⟨frontOwn, ownHere⟩ := List.forall_mem_append.mp own
  have slotFit := here slot (by simp)
  have slotOwn := ownHere slot (by simp)
  simp only [List.map_append, List.map_cons, List.map_nil] at absent laid
  have shown := laid.written
  have gapAbsent := laid.absent
  have whole : lead ++ Piece.textOf ((front ++ [slot]).map Slot.piece) =
      (lead ++ Piece.textOf (front.map Slot.piece)) ++ (slot.piece.text ++ slot.piece.gap) := by
    simp
  have extendFit : (slot.extend lead' line?).Fits := by
    refine Slot.fits_extend slotFit slotOwn free fun line chosen => ?_
    obtain ⟨ends, below⟩ := fits line chosen
    simp only [text, whole] at ends
    exact ⟨gap_ends shown (.inr ends), below⟩
  have apart' : Apart ((lead ++ Piece.textOf (front.map Slot.piece) ++ slot.piece.text) ++
      slot.piece.gap) (lead' ++ Piece.textOf (later.map Slot.piece)) := by
    simpa [text] using apart
  have extendAbsent : Absent (slot.piece.gap ++ lead') (Piece.textOf (later.map Slot.piece)) :=
    absent_append.mpr ⟨gapAbsent.of_apart apart', absent'⟩
  have pieces : (front ++ slot.extend lead' line? :: later).map Slot.piece =
      front.map Slot.piece ++ (slot.extend lead' line?).piece :: later.map Slot.piece := by
    simp
  have newLaid : Piece.Laid ((front ++ slot.extend lead' line? :: later).map Slot.piece) := by
    rw [pieces]
    exact laid.replace rfl rfl extendAbsent laid'
  have newAbsent : Absent lead
      (Piece.textOf ((front ++ slot.extend lead' line? :: later).map Slot.piece)) := by
    rw [pieces]
    exact Piece.absent_replace laid rfl absent
  have textExtend := Slot.textOf_extend free lead'
  have entriesExtend := Slot.entries_extend free lead'
  refine ⟨⟨lead, front ++ slot.extend lead' line? :: later, newAbsent, newLaid,
    List.forall_mem_append.mpr ⟨frontFit, List.forall_mem_cons.mpr ⟨extendFit, laterFit⟩⟩⟩,
    ?_, ?_, ?_, ?_, ?_, ?_⟩
  · simp [text, Slot.extend]
  · simp [markers, Slot.extend]
  · simp [closedText, closedBelow, Slot.closed, textExtend]
  · simp [entries, entriesBelow, Slot.entries_append, entriesExtend, text, Nat.add_assoc]
  · rintro rfl laterOwn
    exact List.forall_mem_append.mpr
      ⟨frontOwn, List.forall_mem_cons.mpr ⟨Slot.own_extend slotOwn lead', laterOwn⟩⟩
  · rintro rfl ⟨front', other, last, unused⟩ (rfl | ⟨more, last, rfl, unused⟩)
    · obtain ⟨-, same⟩ := List.append_inj' last rfl
      obtain rfl := (List.cons.inj same).1
      exact ⟨front, _, rfl, by simp [Slot.extend, unused]⟩
    · exact ⟨front ++ slot.extend lead' none :: more, last, by simp, unused⟩

/-- Drafts that meet between two lines join to one.  A line in the lead of the second goes
into the last gap of the first. -/
theorem exists_join (a b : Draft) (line? : Option ClosingLine) (apart : Apart a.text b.text)
    (own : a.Own)
    (fits : ∀ line ∈ line?, a.Open ∧ (∃ front, a.text = front ++ ['\n']) ∧
      line.FitsBelow b.lead) :
    ∃ d, Joins a b line? d := by
  rcases List.eq_nil_or_concat' a.slots with empty | ⟨front, slot, last⟩
  · cases line? with
    | none => exact exists_join_nil empty b apart
    | some line =>
        obtain ⟨⟨front, slot, nothing, -⟩, -⟩ := fits line rfl
        simp [empty] at nothing
  · refine exists_join_concat last b apart own (fun line chosen => ?_) fun line chosen =>
      (fits line chosen).2
    obtain ⟨⟨front', other, same, unused⟩, -⟩ := fits line chosen
    obtain ⟨-, same⟩ := List.append_inj' (last.symm.trans same) rfl
    rw [(List.cons.inj same).1, unused]

/-! Making the edits of two drafts, and another one at their seam. -/

variable {a b : Draft} {line? : Option ClosingLine}

theorem le_offset_entriesBelow (b : Draft) (line? : Option ClosingLine) (pos : Nat) :
    ∀ edit ∈ (b.entriesBelow line? pos).map Prod.snd, pos ≤ edit.offset := by
  have below := Slot.lt_offset b.laid (pos + byteSize b.lead)
  rw [entriesBelow, List.map_append, ← Slot.edits]
  refine List.forall_mem_append.mpr ⟨?_, fun edit member => ?_⟩
  · cases line? <;> simp [ClosingLine.entry]
  · have := below edit member
    omega

theorem insertFrom_entriesBelow (split : ∀ line ∈ line?, line.above ++ line.below = b.lead)
    (pos : Nat) :
    Edit.insertFrom pos ((b.entriesBelow line? pos).map Prod.snd) b.text =
      b.closedBelow line? := by
  have below := Slot.lt_offset b.laid (pos + byteSize b.lead)
  have nothing : ∀ edit ∈ ([] : List Edit), pos + byteSize b.lead +
      byteSize (Piece.textOf (b.slots.map Slot.piece)) ≤ edit.offset := by simp
  have slots := Slot.insertFrom_edits b.laid b.fits nothing []
  simp only [List.append_nil, Edit.insertFrom] at slots
  rw [entriesBelow, List.map_append, ← Slot.edits]
  cases line? with
  | none =>
      simp only [Option.toList_none, List.map_nil, List.nil_append, closedBelow, text,
        ClosingLine.within]
      rw [Edit.insertFrom_append (fun edit member => (below edit member).le), slots]
  | some line =>
      have parts := split line rfl
      have size := congrArg byteSize parts
      rw [byteSize_append] at size
      have whole : b.text =
          line.above ++ (line.below ++ Piece.textOf (b.slots.map Slot.piece)) := by
        simp [text, ← parts]
      simp only [Option.toList_some, List.map_cons, List.map_nil, List.cons_append,
        List.nil_append, closedBelow, whole, ClosingLine.entry, ClosingLine.within]
      have reach : pos + byteSize line.above + byteSize line.below = pos + byteSize b.lead := by
        omega
      rw [Edit.insertFrom_append, Edit.insertFrom_here, Edit.insertFrom_append, reach, slots]
      · simp
      · intro edit member
        have := below edit member
        omega
      · rfl
      · intro edit member
        rcases List.mem_cons.mp member with rfl | member
        · simp
        · have := below edit member
          omega

/-- The edits of two drafts and one at their seam write the lines of both and its text. -/
theorem insertAll_entries (split : ∀ line ∈ line?, line.above ++ line.below = b.lead)
    {edit : Edit} (seam : edit.offset = byteSize a.text) :
    Edit.insertAll (a.entries.map Prod.snd ++
        edit :: (b.entriesBelow line? (byteSize a.text)).map Prod.snd) (a.text ++ b.text) =
      a.closedText ++ (edit.text.toList ++ b.closedBelow line?) := by
  have size : byteSize a.text =
      byteSize a.lead + byteSize (Piece.textOf (a.slots.map Slot.piece)) := by
    rw [text, byteSize_append]
  have after : ∀ other ∈ edit :: (b.entriesBelow line? (byteSize a.text)).map Prod.snd,
      byteSize a.lead + byteSize (Piece.textOf (a.slots.map Slot.piece)) ≤ other.offset := by
    rw [← size]
    exact List.forall_mem_cons.mpr ⟨seam.ge, b.le_offset_entriesBelow line? _⟩
  have whole : a.text ++ b.text =
      a.lead ++ (Piece.textOf (a.slots.map Slot.piece) ++ b.text) := by
    rw [text, List.append_assoc]
  rw [Edit.insertAll, entries, ← Slot.edits, whole, Edit.insertFrom_append, Nat.zero_add,
    Slot.insertFrom_edits a.laid a.fits after, ← size, Edit.insertFrom_here _ _ _ _ seam,
    insertFrom_entriesBelow split, closedText, List.append_assoc]
  refine List.forall_mem_append.mpr ⟨fun other member => ?_, fun other member => ?_⟩
  · have := Slot.lt_offset a.laid _ other member
    omega
  · have := after other member
    omega

end Draft

end TagAudit
