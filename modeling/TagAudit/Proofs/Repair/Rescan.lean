import TagAudit.Proofs.Marker.Occurrences
import TagAudit.Proofs.Repair.Closing

/-! Scanning a text again once closing lines are written.  Every tag is found again, and a
tag that ended without a closing marker is closed when a line of its name stands behind it. -/

namespace TagAudit

open Text Marker

def Closure.closedBy (written : Bool) : Closure → Closure
  | .marker => .marker
  | closure => if written then .closed else closure

namespace Occurrence

/-- Whether one of the closing markers, each with the position where it is written, stands
behind the tag and has its name. -/
def closedIn (written : List (Nat × String)) (o : Occurrence) : Bool :=
  written.any fun entry => entry.2 == o.tag && decide (o.openOffset < entry.1)

structure Rescanned (written : List (Nat × String)) (o o' : Occurrence) : Prop where
  tag : o'.tag = o.tag
  kind : o'.kind = o.kind
  closure : o'.closure = o.closure.closedBy (o.closedIn written)

end Occurrence

namespace Slot

def opening (slot : Slot) : Piece :=
  match slot.line? with
  | none => slot.piece
  | some line => { slot.piece with gap := line.above ++ '\n' :: line.lead }

def added (slot : Slot) : List Piece :=
  match slot.line? with
  | none => []
  | some line => [⟨line.marker, line.marker.render, line.ends ++ line.below⟩]

theorem pieces_eq (slot : Slot) : slot.pieces = slot.opening :: slot.added := by
  simp only [pieces, opening, added]
  cases slot.line? <;> rfl

@[simp] theorem opening_marker (slot : Slot) : slot.opening.marker = slot.piece.marker := by
  simp only [opening]
  cases slot.line? <;> rfl

@[simp] theorem opening_text (slot : Slot) : slot.opening.text = slot.piece.text := by
  simp only [opening]
  cases slot.line? <;> rfl

def writes (name : List Char) (slot : Slot) : Bool :=
  slot.line?.any (·.name == name)

theorem any_closes_added (name : List Char) (slot : Slot) :
    slot.added.any (Piece.closes name) = slot.writes name := by
  simp only [added, writes]
  cases slot.line? <;> simp [Piece.closes, ClosingLine.marker]

theorem any_closes_closed (name : List Char) (slots : List Slot) :
    (closed slots).any (Piece.closes name) =
      ((slots.map Slot.piece).any (Piece.closes name) || slots.any (writes name)) := by
  induction slots with
  | nil => rfl
  | cons slot later induction =>
      simp only [closed_cons, pieces_eq, List.cons_append, List.any_cons, List.any_append,
        List.map_cons, any_closes_added, induction, Piece.closes, opening_marker]
      grind

/-- The gap that a slot keeps says what it said, unless a line of the slot closes its tag. -/
theorem writes_or_regionBody {slot : Slot} (fits : slot.Fits) :
    slot.writes slot.piece.marker.name = true ∨
      regionBody (regionOf slot.opening.gap) = regionBody (regionOf slot.piece.gap) := by
  obtain ⟨piece, line?⟩ := slot
  cases line? with
  | none => exact .inr rfl
  | some line => exact (fits line rfl).body.imp (by simp [writes, ·]) id

def written (pos : Nat) (slots : List Slot) : List (Nat × String) :=
  (entries pos slots).map fun (name, edit) => (edit.offset, name)

@[simp] theorem written_nil (pos : Nat) : written pos [] = [] := rfl

theorem written_cons {slot : Slot} (fits : slot.Fits) (pos : Nat) (later : List Slot) :
    let next := pos + byteSize slot.piece.text + byteSize slot.piece.gap
    ∃ own, written pos (slot :: later) = own ++ written next later ∧
      ∀ entry ∈ own, entry.1 ≤ next := by
  obtain ⟨piece, line?⟩ := slot
  cases line? with
  | none => exact ⟨[], rfl, by simp⟩
  | some line =>
      have above := (fits line rfl).above_le
      refine ⟨[(pos + byteSize piece.text + byteSize line.above, String.ofList line.name)], rfl, ?_⟩
      simp only [List.mem_singleton, forall_eq] at above ⊢
      omega

private theorem beq_ofList (a b : List Char) :
    (String.ofList a == String.ofList b) = (a == b) := by
  rw [Bool.eq_iff_iff, beq_iff_eq, beq_iff_eq, String.ofList_inj]

theorem any_written {slots : List Slot} (laid : Piece.Laid (slots.map Slot.piece))
    {start pos : Nat} (begun : start ≤ pos) (name : List Char) :
    ((written pos slots).any fun entry =>
        entry.2 == String.ofList name && decide (start < entry.1)) =
      slots.any (writes name) := by
  induction slots generalizing pos with
  | nil => rfl
  | cons slot later induction =>
      obtain ⟨piece, line?⟩ := slot
      cases laid with
      | cons shown absent laid =>
          have positive := byteSize_pos shown.ne_nil
          simp only at positive
          have further : start ≤ pos + byteSize piece.text + byteSize piece.gap := by omega
          have rest := induction laid further
          rw [written] at rest ⊢
          cases line? with
          | none => simpa [writes] using rest
          | some line =>
              have behind : start < pos + byteSize piece.text + byteSize line.above := by omega
              rw [entries_some, List.map_cons, List.any_cons, rest]
              simp [writes, ClosingLine.entry, behind, beq_ofList]

end Slot

namespace ScanOptions

open Slot

variable (options : ScanOptions)

/-- A closing line changes how a tag ends only when it has the name of the tag. -/
theorem closureOf_opening {slot : Slot} (fits : slot.Fits) (later : List Slot) :
    options.closureOf slot.opening (slot.added ++ closed later) =
      (options.closureOf slot.piece (later.map Slot.piece)).closedBy
        ((slot :: later).any (writes slot.piece.marker.name)) := by
  have names : slot.opening.name = slot.piece.name := by
    simp [Piece.name]
  have gap := writes_or_regionBody fits
  simp only [closureOf, names, opening_marker, List.any_append, any_closes_added,
    any_closes_closed, List.any_cons]
  grind [Closure.closedBy]

theorem occurrences_added (file : String) (pos line : Nat) (slot : Slot) (later : List Piece) :
    ∃ nextPos nextLine, options.occurrences file pos line (slot.added ++ later) =
      options.occurrences file nextPos nextLine later := by
  simp only [added]
  cases slot.line? with
  | none => exact ⟨pos, line, rfl⟩
  | some closing => exact ⟨_, _, by simp [occurrences, ClosingLine.marker]; rfl⟩

/-- Scanning pieces again once the lines of their slots are written.  Closing markers above
the pieces say nothing about them. -/
theorem occurrences_closed {slots : List Slot} (laid : Piece.Laid (slots.map Slot.piece))
    (fits : ∀ slot ∈ slots, slot.Fits) (file : String) (earlier : List (Nat × String))
    {pos : Nat} (passed : ∀ entry ∈ earlier, entry.1 ≤ pos) (pos' line line' : Nat) :
    List.Forall₂ (Occurrence.Rescanned (earlier ++ written pos slots))
      (options.occurrences file pos line (slots.map Slot.piece))
      (options.occurrences file pos' line' (closed slots)) := by
  induction slots generalizing earlier pos pos' line line' with
  | nil => exact .nil
  | cons slot later induction =>
      obtain ⟨here, fits⟩ := List.forall_mem_cons.mp fits
      obtain ⟨own, split, ownPassed⟩ := written_cons here pos later
      have nextPassed : ∀ entry ∈ earlier ++ own,
          entry.1 ≤ pos + byteSize slot.piece.text + byteSize slot.piece.gap := by
        refine List.forall_mem_append.mpr ⟨fun entry member => ?_, ownPassed⟩
        have := passed entry member
        omega
      have closure := options.closureOf_opening here later
      have behind := any_written laid (Nat.le_refl pos) slot.piece.marker.name
      have before : (earlier.any fun entry =>
          entry.2 == slot.piece.name && decide (pos < entry.1)) = false := by
        simp only [List.any_eq_false, Bool.and_eq_true, decide_eq_true_eq, not_and, Nat.not_lt]
        exact fun entry member _ => passed entry member
      cases laid with
      | cons shown absent laidLater =>
          obtain ⟨nextPos, nextLine, skipped⟩ := options.occurrences_added file
            (pos' + byteSize slot.opening.text + byteSize slot.opening.gap)
            (line' + slot.opening.gap.count '\n') slot (closed later)
          have rest := induction laidLater fits _ nextPassed nextPos
            (line + slot.piece.gap.count '\n') nextLine
          rw [List.append_assoc, ← split] at rest
          simp only [List.map_cons, closed_cons, pieces_eq, List.cons_append, occurrences,
            opening_marker, skipped]
          by_cases ends : slot.piece.marker.closing = true
          · simpa only [ends, if_true] using rest
          · simp only [ends, Bool.false_eq_true, if_false]
            refine .cons ⟨?tag, ?kind, ?closure⟩ rest
            case tag => simp [occurrence, Piece.name]
            case kind => simp [occurrence, Piece.name]
            case closure =>
              have closedIn : (options.occurrence file pos line slot.piece
                  (later.map Slot.piece)).closedIn (earlier ++ written pos (slot :: later)) =
                  (slot :: later).any (writes slot.piece.marker.name) := by
                rw [← behind, Occurrence.closedIn, List.any_append]
                exact (congrArg (· || _) before).trans (Bool.false_or _)
              rw [closedIn]
              exact closure

end ScanOptions

namespace Layout

variable (layout : Layout) {slots : List Slot} (same : slots.map Slot.piece = layout.pieces)
  (fits : ∀ slot ∈ slots, slot.Fits)

def close : Layout where
  lead := layout.lead
  pieces := Slot.closed slots
  absent := Slot.absent_closed (same ▸ layout.laid) (same ▸ layout.absent)
  laid := Slot.laid_closed (same ▸ layout.laid) fits

theorem insertAll_edits :
    Edit.insertAll (Slot.edits (byteSize layout.lead) slots) layout.text =
      (layout.close same fits).text := by
  have laid : Piece.Laid (slots.map Slot.piece) := same ▸ layout.laid
  have nothing : ∀ edit ∈ ([] : List Edit), byteSize layout.lead +
      byteSize (Piece.textOf (slots.map Slot.piece)) ≤ edit.offset := by simp
  have inserted := Slot.insertFrom_edits laid fits nothing []
  simp only [List.append_nil] at inserted
  rw [Edit.insertAll, text, Edit.insertFrom_append, Nat.zero_add, ← same, inserted]
  · simp [Edit.insertFrom, close, text]
  · intro edit member
    have := Slot.lt_offset laid _ edit member
    omega

theorem scan_close (options : ScanOptions) (file : String) :
    List.Forall₂ (Occurrence.Rescanned (Slot.written (byteSize layout.lead) slots))
      (options.scan file (String.ofList layout.text))
      (options.scan file (String.ofList (layout.close same fits).text)) := by
  rw [options.scan_layout, options.scan_layout, ← same]
  exact options.occurrences_closed (same ▸ layout.laid) fits file [] (by simp) _ _ _

end Layout

end TagAudit
