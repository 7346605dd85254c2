import TagAudit.Marker.Scan
import TagAudit.Proofs.Marker.Layout
import TagAudit.Proofs.Repair.Edits

/-! Closing lines put into the gaps of a layout.  The text that results has a layout with
the same markers and one closing marker for each line. -/

namespace TagAudit

open Text Marker

/-- A line with the closing marker of `name`, put between the two parts of a gap. -/
structure ClosingLine where
  name : List Char
  above : List Char
  /-- What the line begins with. -/
  lead : List Char
  /-- What is written behind the marker. -/
  ends : List Char
  below : List Char

namespace ClosingLine

def marker (line : ClosingLine) : Marker :=
  ⟨line.name, true⟩

def text (line : ClosingLine) : List Char :=
  '\n' :: line.lead ++ line.marker.render ++ line.ends

def entry (line : ClosingLine) (pos : Nat) : String × Edit :=
  (String.ofList line.name, ⟨pos + byteSize line.above, String.ofList line.text⟩)

theorem entry_below (line : ClosingLine) (rest : List Char) (pos : Nat) :
    entry { line with below := rest } pos = line.entry pos := rfl

/-- The line goes into the gap of this piece and brings no other marker with it. -/
structure Fits (line : ClosingLine) (piece : Piece) : Prop where
  split : line.above ++ line.below = piece.gap
  leadPlain : '<' ∉ line.lead
  endsPlain : '<' ∉ line.ends
  nameable : Nameable line.name
  tight : trim line.name = line.name
  /-- The line closes the tag of the piece, or the text above it says what the whole gap
  said. -/
  body : line.name = piece.marker.name ∨
    regionBody (regionOf (line.above ++ '\n' :: line.lead)) = regionBody (regionOf piece.gap)

theorem Fits.above_le {line : ClosingLine} {piece : Piece} (fits : line.Fits piece) :
    byteSize line.above ≤ byteSize piece.gap := by
  rw [← fits.split, byteSize_append]
  omega

end ClosingLine

structure Slot where
  piece : Piece
  line? : Option ClosingLine

namespace Slot

def Fits (slot : Slot) : Prop :=
  ∀ line ∈ slot.line?, line.Fits slot.piece

def pieces (slot : Slot) : List Piece :=
  match slot.line? with
  | none => [slot.piece]
  | some line =>
      [{ slot.piece with gap := line.above ++ '\n' :: line.lead },
        ⟨line.marker, line.marker.render, line.ends ++ line.below⟩]

def closed (slots : List Slot) : List Piece :=
  slots.flatMap pieces

def entries (pos : Nat) : List Slot → List (String × Edit)
  | [] => []
  | slot :: later =>
      let next := entries (pos + byteSize slot.piece.text + byteSize slot.piece.gap) later
      match slot.line? with
      | none => next
      | some line => line.entry (pos + byteSize slot.piece.text) :: next

def edits (pos : Nat) (slots : List Slot) : List Edit :=
  (entries pos slots).map Prod.snd

@[simp] theorem entries_nil (pos : Nat) : entries pos [] = [] := rfl

@[simp] theorem entries_none (pos : Nat) (piece : Piece) (later : List Slot) :
    entries pos (⟨piece, none⟩ :: later) =
      entries (pos + byteSize piece.text + byteSize piece.gap) later := rfl

@[simp] theorem entries_some (pos : Nat) (piece : Piece) (line : ClosingLine)
    (later : List Slot) :
    entries pos (⟨piece, some line⟩ :: later) =
      line.entry (pos + byteSize piece.text) ::
        entries (pos + byteSize piece.text + byteSize piece.gap) later := rfl

theorem entries_append (pos : Nat) (slots later : List Slot) :
    entries pos (slots ++ later) =
      entries pos slots ++
        entries (pos + byteSize (Piece.textOf (slots.map Slot.piece))) later := by
  induction slots generalizing pos with
  | nil => rfl
  | cons slot slots induction =>
      obtain ⟨piece, line?⟩ := slot
      have rest := induction (pos + byteSize piece.text + byteSize piece.gap)
      simp only [List.cons_append, List.map_cons, Piece.textOf_cons, byteSize_append,
        ← Nat.add_assoc] at rest ⊢
      cases line? <;> simp [rest]

@[simp] theorem edits_none (pos : Nat) (piece : Piece) (later : List Slot) :
    edits pos (⟨piece, none⟩ :: later) =
      edits (pos + byteSize piece.text + byteSize piece.gap) later := rfl

@[simp] theorem edits_some (pos : Nat) (piece : Piece) (line : ClosingLine)
    (later : List Slot) :
    edits pos (⟨piece, some line⟩ :: later) =
      ⟨pos + byteSize piece.text + byteSize line.above, String.ofList line.text⟩ ::
        edits (pos + byteSize piece.text + byteSize piece.gap) later := rfl

@[simp] theorem closed_nil : closed [] = [] := rfl

@[simp] theorem closed_cons (slot : Slot) (later : List Slot) :
    closed (slot :: later) = slot.pieces ++ closed later := rfl

theorem textOf_closed_cons (slot : Slot) (later : List Slot) :
    ∃ rest, Piece.textOf (closed (slot :: later)) = slot.piece.text ++ rest := by
  obtain ⟨piece, line?⟩ := slot
  cases line? with
  | none => exact ⟨_, Piece.textOf_cons _ _⟩
  | some line => exact ⟨_, Piece.textOf_cons _ _⟩

theorem absent_closed {gap : List Char} {slots : List Slot}
    (laid : Piece.Laid (slots.map Slot.piece))
    (absent : Absent gap (Piece.textOf (slots.map Slot.piece))) :
    Absent gap (Piece.textOf (closed slots)) := by
  cases slots with
  | nil => exact absent
  | cons slot later =>
      obtain ⟨rest, begins⟩ := textOf_closed_cons slot later
      cases laid with
      | cons written _ _ =>
          rw [begins]
          rw [List.map_cons, Piece.textOf_cons] at absent
          exact absent.of_written written rest

private theorem laid_cons {piece : Piece} {line? : Option ClosingLine} {later : List Slot}
    (laid : Piece.Laid ((⟨piece, line?⟩ :: later).map Slot.piece)) :
    Written piece.marker piece.text ∧
      Absent piece.gap (Piece.textOf (later.map Slot.piece)) ∧
      Piece.Laid (later.map Slot.piece) := by
  cases laid with
  | cons written absent laid => exact ⟨written, absent, laid⟩

theorem laid_closed {slots : List Slot} (laid : Piece.Laid (slots.map Slot.piece))
    (fits : ∀ slot ∈ slots, slot.Fits) : Piece.Laid (closed slots) := by
  induction slots with
  | nil => exact .nil
  | cons slot later induction =>
      obtain ⟨piece, line?⟩ := slot
      obtain ⟨written, absent, laidLater⟩ := laid_cons laid
      obtain ⟨here, fits⟩ := List.forall_mem_cons.mp fits
      have rest := induction laidLater fits
      have gapAbsent := absent_closed laidLater absent
      cases line? with
      | none => exact .cons written gapAbsent rest
      | some line =>
          obtain ⟨split, leadPlain, endsPlain, nameable, tight, -⟩ := here line rfl
          simp only at split
          rw [← split, absent_append] at gapAbsent
          refine .cons written ?_ (.cons (written_render nameable tight) ?_ rest)
          · refine absent_append.mpr ⟨gapAbsent.1.newline _, absent_of_not_mem ?_ _⟩
            simp [leadPlain]
          · exact absent_append.mpr ⟨absent_of_not_mem endsPlain _, gapAbsent.2⟩

theorem lt_offset {slots : List Slot} (laid : Piece.Laid (slots.map Slot.piece)) (pos : Nat) :
    ∀ edit ∈ edits pos slots, pos < edit.offset := by
  induction slots generalizing pos with
  | nil => simp [edits]
  | cons slot later induction =>
      obtain ⟨piece, line?⟩ := slot
      obtain ⟨written, absent, laidLater⟩ := laid_cons laid
      have positive := byteSize_pos written.ne_nil
      have beyond := induction laidLater (pos + byteSize piece.text + byteSize piece.gap)
      intro edit member
      cases line? with
      | none =>
          have := beyond edit member
          omega
      | some line =>
          rcases List.mem_cons.mp member with rfl | member
          · simp only [ClosingLine.entry]
            omega
          · have := beyond edit member
            omega

theorem exists_line_of_mem {slots : List Slot} (fits : ∀ slot ∈ slots, slot.Fits) {pos : Nat}
    {entry : String × Edit} (member : entry ∈ entries pos slots) :
    ∃ (line : ClosingLine) (piece : Piece), line.Fits piece ∧
      entry.2.text = String.ofList line.text := by
  induction slots generalizing pos with
  | nil => simp at member
  | cons slot later induction =>
      obtain ⟨piece, line?⟩ := slot
      obtain ⟨here, laterFit⟩ := List.forall_mem_cons.mp fits
      cases line? with
      | none => exact induction laterFit member
      | some line =>
          rcases List.mem_cons.mp member with rfl | member
          · exact ⟨line, piece, here line rfl, rfl⟩
          · exact induction laterFit member

theorem offset_le {slots : List Slot} (fits : ∀ slot ∈ slots, slot.Fits) (pos : Nat) :
    ∀ edit ∈ edits pos slots,
      edit.offset ≤ pos + byteSize (Piece.textOf (slots.map Slot.piece)) := by
  induction slots generalizing pos with
  | nil => simp [edits]
  | cons slot later induction =>
      obtain ⟨piece, line?⟩ := slot
      obtain ⟨here, fits⟩ := List.forall_mem_cons.mp fits
      have rest := induction fits (pos + byteSize piece.text + byteSize piece.gap)
      simp only [List.map_cons, Piece.textOf_cons, byteSize_append]
      intro edit member
      cases line? with
      | none =>
          have := rest edit member
          omega
      | some line =>
          have above := (here line rfl).above_le
          simp only at above
          rcases List.mem_cons.mp member with rfl | member
          · simp only [ClosingLine.entry]
            omega
          · have := rest edit member
            omega

theorem ordered_edits {slots : List Slot} (laid : Piece.Laid (slots.map Slot.piece))
    (fits : ∀ slot ∈ slots, slot.Fits) (pos : Nat) : Edit.Ordered (edits pos slots) := by
  induction slots generalizing pos with
  | nil => exact .nil
  | cons slot later induction =>
      obtain ⟨piece, line?⟩ := slot
      obtain ⟨written, absent, laidLater⟩ := laid_cons laid
      obtain ⟨here, fits⟩ := List.forall_mem_cons.mp fits
      have rest := induction laidLater fits (pos + byteSize piece.text + byteSize piece.gap)
      cases line? with
      | none => exact rest
      | some line =>
          have above := (here line rfl).above_le
          refine .cons (fun edit member => Edit.compare_of_offset_lt ?_) rest
          have beyond := lt_offset laidLater (pos + byteSize piece.text + byteSize piece.gap) edit
            member
          simp only [ClosingLine.entry] at above ⊢
          omega

/-- Making the edits of slots writes their lines; edits behind the slots are made later. -/
theorem insertFrom_edits {slots : List Slot} (laid : Piece.Laid (slots.map Slot.piece))
    (fits : ∀ slot ∈ slots, slot.Fits) {pos : Nat} {later : List Edit}
    (after : ∀ edit ∈ later,
      pos + byteSize (Piece.textOf (slots.map Slot.piece)) ≤ edit.offset) (rest : List Char) :
    Edit.insertFrom pos (edits pos slots ++ later)
        (Piece.textOf (slots.map Slot.piece) ++ rest) =
      Piece.textOf (closed slots) ++
        Edit.insertFrom (pos + byteSize (Piece.textOf (slots.map Slot.piece))) later rest := by
  induction slots generalizing pos with
  | nil => rfl
  | cons slot slots induction =>
      obtain ⟨piece, line?⟩ := slot
      obtain ⟨written, absent, laidLater⟩ := laid_cons laid
      obtain ⟨here, fits⟩ := List.forall_mem_cons.mp fits
      simp only [List.map_cons, Piece.textOf_cons, byteSize_append, ← Nat.add_assoc] at after
      have next := induction laidLater fits after
      have beyond : ∀ edit ∈ edits (pos + byteSize piece.text + byteSize piece.gap) slots ++ later,
          pos + byteSize piece.text + byteSize piece.gap ≤ edit.offset := by
        refine List.forall_mem_append.mpr ⟨fun edit member => ?_, fun edit member => ?_⟩
        · exact (lt_offset laidLater _ edit member).le
        · have := after edit member
          omega
      cases line? with
      | none =>
          have whole : Piece.textOf ((⟨piece, none⟩ :: slots).map Slot.piece) ++ rest =
              (piece.text ++ piece.gap) ++ (Piece.textOf (slots.map Slot.piece) ++ rest) := by
            simp
          rw [whole, edits_none, Edit.insertFrom_append, byteSize_append, ← Nat.add_assoc, next]
          · simp [pieces, Nat.add_assoc]
          · simpa [Nat.add_assoc] using beyond
      | some line =>
          have split := (here line rfl).split
          have gapSize := congrArg byteSize split
          simp only [byteSize_append] at split gapSize
          have whole : Piece.textOf ((⟨piece, some line⟩ :: slots).map Slot.piece) ++ rest =
              (piece.text ++ line.above) ++
                (line.below ++ (Piece.textOf (slots.map Slot.piece) ++ rest)) := by
            simp [← split]
          have aboveStart : pos + byteSize (piece.text ++ line.above) =
              pos + byteSize piece.text + byteSize line.above := by
            rw [byteSize_append, Nat.add_assoc]
          have nextStart : pos + byteSize piece.text + byteSize line.above +
              byteSize line.below = pos + byteSize piece.text + byteSize piece.gap := by
            omega
          rw [whole, edits_some, List.cons_append, Edit.insertFrom_append, aboveStart,
            Edit.insertFrom_here, Edit.insertFrom_append, nextStart, next]
          · simp [pieces, ClosingLine.text, Nat.add_assoc]
          · intro edit member
            have := beyond edit member
            omega
          · rfl
          · intro edit member
            rcases List.mem_cons.mp member with rfl | member
            · exact aboveStart.le
            · have := beyond edit member
              omega

end Slot

end TagAudit
