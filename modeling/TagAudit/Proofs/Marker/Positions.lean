import TagAudit.Proofs.Marker.Occurrences
import TagAudit.Proofs.Marker.Regions

/-! Where the tokens of a text stand in it: their byte positions, their lines, and the regions
behind them, all read off the whole text. -/

namespace TagAudit

open Text Marker

namespace Text

/-- The line of byte `offset`: one plus the line feeds before it. -/
def lineAt (offset : Nat) (cs : List Char) : Nat :=
  1 + (takeBytes offset cs).count '\n'

theorem lineAt_byteSize (a b : List Char) : lineAt (byteSize a) (a ++ b) = 1 + a.count '\n' := by
  rw [lineAt, takeBytes_append]

theorem slice_append (a b c : List Char) :
    slice (byteSize a) (byteSize a + byteSize b) (a ++ (b ++ c)) = b := by
  rw [slice, dropBytes_append, Nat.add_sub_cancel_left, takeBytes_append]

end Text

/-- Where the region behind a marker ends when the marker is over at byte `start` and the next
one begins at byte `next`: there, or at the start of its line when only indentation and a
comment marker stand before it on a later line. -/
def regionEnd (content : List Char) (start next : Nat) : Nat :=
  let lead := lastLine (takeBytes next content)
  if start < next - byteSize lead ∧ isCommentLead lead = true then next - byteSize lead else next

/-- The region behind a marker ends where the part of its gap that belongs to it does. -/
theorem regionEnd_append (before gap rest : List Char) :
    regionEnd (before ++ (gap ++ rest)) (byteSize before) (byteSize before + byteSize gap) =
      byteSize before + byteSize (regionOf gap) := by
  have taken : takeBytes (byteSize before + byteSize gap) (before ++ (gap ++ rest)) =
      before ++ gap := by
    rw [takeBytes_append_add, takeBytes_append]
  simp only [regionEnd, taken]
  rcases lastLine_cases gap with ⟨whole, single⟩ | ⟨above, split⟩
  · -- The line of the next marker begins no later than the gap.
    have size := congrArg byteSize (lastLine_append before single)
    rw [byteSize_append] at size
    rw [if_neg (by omega), regionOf, ← whole]
    simp
  · have shared : lastLine (before ++ gap) = lastLine gap :=
      lastLine_append_of_mem before (by rw [split]; simp)
    have single := newline_not_mem_lastLine gap
    rw [shared]
    generalize lastLine gap = lead at split single
    subst split
    have size : byteSize before + byteSize (above ++ '\n' :: lead) - byteSize lead =
        byteSize before + byteSize (above ++ ['\n']) := by
      simp only [byteSize_append, byteSize_cons, byteSize_nil]
      omega
    have positive : 0 < byteSize (above ++ ['\n']) := byteSize_pos (by simp)
    by_cases comment : isCommentLead lead = true
    · rw [size, if_pos ⟨by omega, comment⟩, regionOf_append_newline above single comment]
    · rw [if_neg fun both => comment both.2, regionOf_of_text above single comment]

theorem slice_regionEnd (before gap rest : List Char) :
    slice (byteSize before)
        (regionEnd (before ++ (gap ++ rest)) (byteSize before) (byteSize before + byteSize gap))
        (before ++ (gap ++ rest)) =
      regionOf gap := by
  obtain ⟨lead, split⟩ := prefix_regionOf gap
  have whole : gap ++ rest = regionOf gap ++ (lead ++ rest) := by
    rw [← List.append_assoc, split]
  rw [regionEnd_append, whole, slice_append]

/-! Tokens. -/

namespace Token

/-- The token stands in `content` where it says that it stands. -/
def Sited (content : List Char) (token : Token) : Prop :=
  ∃ before text, content = before ++ (text ++ token.after) ∧ Written token.marker text ∧
    token.start = byteSize before ∧ token.stop = byteSize before + byteSize text ∧
    token.line = 1 + before.count '\n'

variable {content : List Char} {token : Token}

theorem Sited.stop_eq (sited : token.Sited content) :
    token.stop + byteSize token.after = byteSize content := by
  obtain ⟨before, text, rfl, -, -, stop, -⟩ := sited
  simp only [stop, byteSize_append]
  omega

theorem Sited.start_lt (sited : token.Sited content) : token.start < byteSize content := by
  obtain ⟨before, text, rfl, written, start, -, -⟩ := sited
  have positive := byteSize_pos written.ne_nil
  simp only [start, byteSize_append]
  omega

end Token

namespace Piece

def token (passed : List Char) (piece : Piece) (later : List Piece) : Token :=
  ⟨piece.marker, byteSize passed, byteSize passed + byteSize piece.text, 1 + passed.count '\n',
    piece.gap ++ textOf later⟩

theorem behind_eq {piece : Piece} (single : '\n' ∉ piece.text) (passed : List Char) :
    byteSize passed + byteSize piece.text + byteSize piece.gap =
        byteSize (passed ++ (piece.text ++ piece.gap)) ∧
      1 + passed.count '\n' + piece.gap.count '\n' =
        1 + (passed ++ (piece.text ++ piece.gap)).count '\n' := by
  simp [List.count_eq_zero_of_not_mem single, Nat.add_assoc]

theorem token_mem_tokens {front : List Piece} (single : ∀ piece ∈ front, '\n' ∉ piece.text)
    (piece : Piece) (later : List Piece) (passed : List Char) :
    piece.token (passed ++ textOf front) later ∈
      tokens (byteSize passed) (1 + passed.count '\n') (front ++ piece :: later) := by
  induction front generalizing passed with
  | nil =>
      rw [textOf_nil, List.append_nil]
      exact .head _
  | cons first front induction =>
      obtain ⟨here, single⟩ := List.forall_mem_cons.mp single
      obtain ⟨pos, line⟩ := behind_eq here passed
      have behind := induction single (passed ++ (first.text ++ first.gap))
      rw [← pos, ← line, List.append_assoc, List.append_assoc, ← textOf_cons] at behind
      exact .tail _ behind

theorem exists_piece_of_mem_tokens {pieces : List Piece}
    (single : ∀ piece ∈ pieces, '\n' ∉ piece.text) {passed : List Char} {token : Token}
    (member : token ∈ tokens (byteSize passed) (1 + passed.count '\n') pieces) :
    ∃ front piece later, pieces = front ++ piece :: later ∧
      token = piece.token (passed ++ textOf front) later := by
  induction pieces generalizing passed with
  | nil => simp [tokens] at member
  | cons first rest induction =>
      obtain ⟨here, single⟩ := List.forall_mem_cons.mp single
      obtain ⟨pos, line⟩ := behind_eq here passed
      rw [tokens, pos, line] at member
      rcases List.mem_cons.mp member with rfl | member
      · exact ⟨[], first, rest, rfl, by simp [Piece.token]⟩
      · obtain ⟨front, piece, later, split, found⟩ := induction single member
        exact ⟨first :: front, piece, later, by simp [split], by simpa using found⟩

theorem sited_of_mem {pieces : List Piece} (laid : Laid pieces) {passed : List Char}
    {token : Token}
    (member : token ∈ tokens (byteSize passed) (1 + passed.count '\n') pieces) :
    token.Sited (passed ++ textOf pieces) := by
  obtain ⟨front, piece, later, rfl, rfl⟩ := exists_piece_of_mem_tokens laid.newline_not_mem member
  exact ⟨passed ++ textOf front, piece.text, by simp [Piece.token], laid.written, rfl, rfl, rfl⟩

end Piece

theorem sited_of_mem_tokenize {content : List Char} {token : Token}
    (member : token ∈ tokenize content) : token.Sited content := by
  obtain ⟨layout, rfl⟩ := Layout.exists_layout content
  rw [tokenize_text] at member
  exact Piece.sited_of_mem layout.laid member

/-! Tokens in a layout of their text. -/

section

variable {layout : Layout} {front later : List Piece} {piece : Piece}

theorem token_mem_tokenize (split : layout.pieces = front ++ piece :: later) :
    piece.token (layout.lead ++ Piece.textOf front) later ∈ tokenize layout.text := by
  rw [tokenize_text, Layout.tokens, split]
  exact Piece.token_mem_tokens (fun piece member =>
    layout.laid.newline_not_mem piece (by simp [split, member])) piece later layout.lead

theorem exists_piece_of_mem_tokenize {token : Token} (member : token ∈ tokenize layout.text) :
    ∃ front piece later, layout.pieces = front ++ piece :: later ∧
      token = piece.token (layout.lead ++ Piece.textOf front) later := by
  rw [tokenize_text] at member
  exact Piece.exists_piece_of_mem_tokens layout.laid.newline_not_mem member

theorem token_reads (split : layout.pieces = front ++ piece :: later) :
    let token := piece.token (layout.lead ++ Piece.textOf front) later
    takeBytes token.start layout.text = layout.lead ++ Piece.textOf front ∧
      slice token.start token.stop layout.text = piece.text := by
  have whole : layout.text =
      (layout.lead ++ Piece.textOf front) ++ (piece.text ++ (piece.gap ++ Piece.textOf later)) := by
    simp [Layout.text, split]
  rw [whole]
  exact ⟨takeBytes_append _ _, slice_append _ _ _⟩

end

end TagAudit
