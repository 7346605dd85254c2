import TagAudit.Proofs.Marker.Written
import TagAudit.Proofs.Text.Lines
import TagAudit.Proofs.Text.Offsets

/-! Texts cut at their markers.  Every text has such a layout, and its tokens are those
of any of its layouts, so an edited text is understood through a layout of its own. -/

namespace TagAudit

open Text

namespace Marker

/-- No marker begins in `gap` when `rest` follows it. -/
def Absent : List Char → List Char → Prop
  | [], _ => True
  | c :: gap, rest => read? (c :: gap ++ rest) = none ∧ Absent gap rest

theorem absent_append {a b rest : List Char} :
    Absent (a ++ b) rest ↔ Absent a (b ++ rest) ∧ Absent b rest := by
  induction a with
  | nil => simp [Absent]
  | cons c a induction =>
      simp only [List.cons_append, Absent, induction, List.append_assoc, and_assoc]

theorem read?_eq_none_of_ne {c : Char} (other : c ≠ '<') (cs : List Char) :
    read? (c :: cs) = none := by
  rw [← Option.not_isSome_iff_eq_none, Option.isSome_iff_exists]
  rintro ⟨⟨m, text, after⟩, read⟩
  obtain ⟨written, split⟩ := read?_eq_some_iff.mp read
  obtain ⟨rest, rfl⟩ := written.eq_cons
  exact other (List.cons.inj split).1

theorem absent_of_not_mem {gap : List Char} (plain : '<' ∉ gap) (rest : List Char) :
    Absent gap rest := by
  induction gap with
  | nil => trivial
  | cons c gap induction =>
      simp only [List.mem_cons, not_or] at plain
      exact ⟨read?_eq_none_of_ne (Ne.symm plain.1) _, induction plain.2⟩

private theorem prefix_of_append_newline {a t w after : List Char} (single : '\n' ∉ w)
    (same : a ++ '\n' :: t = w ++ after) : ∃ rest, a = w ++ rest := by
  rcases List.append_eq_append_iff.mp same with ⟨front, split, -⟩ | ⟨rest, split, -⟩
  · cases front with
    | nil => exact ⟨[], by simpa using split.symm⟩
    | cons c front =>
        simp_all
  · exact ⟨rest, split⟩

theorem read?_newline {a rest : List Char} (absent : read? (a ++ rest) = none)
    (other : List Char) : read? (a ++ '\n' :: other) = none := by
  rw [← Option.not_isSome_iff_eq_none, Option.isSome_iff_exists]
  rintro ⟨⟨m, text, after⟩, read⟩
  obtain ⟨written, split⟩ := read?_eq_some_iff.mp read
  obtain ⟨back, rfl⟩ := prefix_of_append_newline written.newline_not_mem split
  rw [List.append_assoc, read?_of_written written] at absent
  simp at absent

theorem Absent.newline {gap rest : List Char} (absent : Absent gap rest)
    (other : List Char) : Absent gap ('\n' :: other) := by
  induction gap with
  | nil => trivial
  | cons c gap induction =>
      exact ⟨read?_newline absent.1 other, induction absent.2⟩

/-- What follows a line feed at the end of a gap does not matter. -/
theorem Absent.of_break {gap front rest : List Char} (absent : Absent gap rest)
    (ends : gap = front ++ ['\n']) (other : List Char) : Absent gap other := by
  subst ends
  have plain : Absent ['\n'] other := absent_of_not_mem (by decide) other
  exact absent_append.mpr ⟨(absent_append.mp absent).1.newline other, plain⟩

theorem Absent.alone {gap rest : List Char} (absent : Absent gap rest) : Absent gap [] := by
  induction gap with
  | nil => trivial
  | cons c gap induction =>
      refine ⟨?_, induction absent.2⟩
      have unread := absent.1
      rw [List.append_nil]
      cases read : read? (c :: gap) with
      | none => rfl
      | some found =>
          obtain ⟨m, text, after⟩ := found
          obtain ⟨written, whole⟩ := read?_eq_some_iff.mp read
          rw [whole, List.append_assoc, read?_of_written written] at unread
          simp at unread

theorem Absent.of_apart {front gap : List Char} (absent : Absent gap []) {rest : List Char}
    (apart : Apart (front ++ gap) rest) : Absent gap rest := by
  rcases apart with ends | rfl | ⟨rest, rfl⟩
  · by_cases empty : gap = []
    · exact empty ▸ trivial
    · obtain ⟨begun, ends⟩ := ends.of_append empty
      exact absent.of_break ends rest
  · exact absent
  · exact absent.newline rest

/-- An arrow that ends before the one behind a name lies in the name. -/
private theorem arrow_infix_of_append {name z front : List Char} (later : front ≠ [])
    (same : name ++ arrow = z ++ arrow ++ front) : arrow <:+: name := by
  have backwards := congrArg List.reverse same
  simp only [List.reverse_append, arrow, List.reverse_cons, List.reverse_nil, List.nil_append,
    List.cons_append] at backwards
  rcases shape : front.reverse with _ | ⟨_, _ | ⟨_, _ | ⟨_, back⟩⟩⟩
  · exact absurd (List.reverse_eq_nil_iff.mp shape) later
  · simp [shape] at backwards
  · simp [shape] at backwards
  · simp only [shape, List.cons_append, List.cons.injEq] at backwards
    have split := congrArg List.reverse backwards.2.2.2
    exact ⟨z, back.reverse, by simpa [arrow] using split.symm⟩

/-- The lead of a marker ends before another marker begins. -/
private theorem lead_prefix {closing : Bool} {lead a rest after : List Char}
    (leads : Lead closing lead) (begun : a ≠ []) (split : lead ++ rest = a ++ '<' :: after) :
    ∃ back, a = lead ++ back ∧ rest = back ++ '<' :: after := by
  rcases List.append_eq_append_iff.mp split with ⟨back, front, tail⟩ | ⟨back, front, tail⟩
  · exact ⟨back, front, tail⟩
  · cases back with
    | nil => exact ⟨[], by simpa using front.symm, by simpa using tail.symm⟩
    | cons c back =>
        obtain ⟨inner, headed, plain⟩ := leads.eq_cons
        obtain ⟨d, a, rfl⟩ := List.exists_cons_of_ne_nil begun
        simp only [headed, List.cons_append, List.cons.injEq] at front tail
        simp [front.2, ← tail.1] at plain

private theorem front_eq_nil {a w front : List Char} {m other : Marker} (begun : a ≠ [])
    (written : Written m w) (overlapping : Written other (a ++ w ++ front)) : front = [] := by
  by_contra later
  generalize whole : a ++ w ++ front = text at overlapping
  cases overlapping with
  | intro leads nameable =>
      obtain ⟨tail, headed⟩ := written.eq_cons
      rw [headed, List.append_assoc, List.append_assoc, List.cons_append] at whole
      obtain ⟨back, -, split⟩ := lead_prefix leads begun whole.symm
      rw [← List.cons_append, ← headed] at split
      cases written with
      | @intro _ front inner _ _ =>
          rw [List.append_assoc, ← List.append_assoc, ← List.append_assoc] at split
          exact nameable.arrowless (arrow_infix_of_append later split)

theorem read?_written_append {a w rest : List Char} {m : Marker} (begun : a ≠ [])
    (written : Written m w) (absent : read? (a ++ (w ++ rest)) = none) (other : List Char) :
    read? (a ++ (w ++ other)) = none := by
  rw [← Option.not_isSome_iff_eq_none, Option.isSome_iff_exists]
  rintro ⟨⟨found, text, after⟩, read⟩
  obtain ⟨foundWritten, split⟩ := read?_eq_some_iff.mp read
  rw [← List.append_assoc] at split
  obtain ⟨back, covered⟩ : ∃ back, a ++ w = text ++ back := by
    rcases List.append_eq_append_iff.mp split with ⟨front, longer, -⟩ | ⟨back, shorter, -⟩
    · rw [longer] at foundWritten
      exact ⟨[], by simp [longer, front_eq_nil begun written foundWritten]⟩
    · exact ⟨back, shorter⟩
  rw [← List.append_assoc, covered, List.append_assoc, read?_of_written foundWritten] at absent
  simp at absent

/-- What stands behind the next marker does not matter for a gap. -/
theorem Absent.of_written {gap w rest : List Char} {m : Marker} (written : Written m w)
    (absent : Absent gap (w ++ rest)) (other : List Char) : Absent gap (w ++ other) := by
  induction gap with
  | nil => trivial
  | cons c gap induction =>
      exact ⟨read?_written_append (by simp) written absent.1 other, induction absent.2⟩

end Marker

open Marker

structure Piece where
  marker : Marker
  text : List Char
  gap : List Char
deriving DecidableEq, Repr

namespace Piece

def textOf (pieces : List Piece) : List Char :=
  pieces.flatMap fun piece => piece.text ++ piece.gap

@[simp] theorem textOf_nil : textOf [] = [] := rfl

@[simp] theorem textOf_cons (piece : Piece) (later : List Piece) :
    textOf (piece :: later) = piece.text ++ (piece.gap ++ textOf later) := by
  simp [textOf]

@[simp] theorem textOf_append (pieces later : List Piece) :
    textOf (pieces ++ later) = textOf pieces ++ textOf later := by
  simp [textOf]

inductive Laid : List Piece → Prop
  | nil : Laid []
  | cons {piece : Piece} {later : List Piece}
      (written : Written piece.marker piece.text)
      (absent : Absent piece.gap (textOf later)) (laid : Laid later) : Laid (piece :: later)

theorem absent_replace {gap : List Char} {front rest rest' : List Piece} {piece piece' : Piece}
    (laid : Laid (front ++ piece :: rest)) (text : piece'.text = piece.text)
    (absent : Absent gap (textOf (front ++ piece :: rest))) :
    Absent gap (textOf (front ++ piece' :: rest')) := by
  cases front with
  | nil =>
      cases laid with
      | cons written _ _ =>
          rw [List.nil_append, textOf_cons] at absent ⊢
          rw [text]
          exact absent.of_written written _
  | cons first front =>
      cases laid with
      | cons written _ _ =>
          rw [List.cons_append, textOf_cons] at absent ⊢
          exact absent.of_written written _

namespace Laid

theorem forall_written {pieces : List Piece} (laid : Laid pieces) :
    ∀ piece ∈ pieces, Written piece.marker piece.text := by
  induction laid with
  | nil => simp
  | cons written absent laid induction => exact List.forall_mem_cons.mpr ⟨written, induction⟩

theorem newline_not_mem {pieces : List Piece} (laid : Laid pieces) :
    ∀ piece ∈ pieces, '\n' ∉ piece.text :=
  fun piece member => (laid.forall_written piece member).newline_not_mem

theorem of_append {front rest : List Piece} (laid : Laid (front ++ rest)) : Laid rest := by
  induction front with
  | nil => exact laid
  | cons piece front induction =>
      cases laid with
      | cons written absent laid => exact induction laid

theorem written {front rest : List Piece} {piece : Piece} (laid : Laid (front ++ piece :: rest)) :
    Written piece.marker piece.text := by
  cases laid.of_append with
  | cons written _ _ => exact written

theorem absent {front rest : List Piece} {piece : Piece} (laid : Laid (front ++ piece :: rest)) :
    Absent piece.gap (textOf rest) := by
  cases laid.of_append with
  | cons _ absent _ => exact absent

theorem later {front rest : List Piece} {piece : Piece} (laid : Laid (front ++ piece :: rest)) :
    Laid rest := by
  cases laid.of_append with
  | cons _ _ laid => exact laid

theorem replace {front rest rest' : List Piece} {piece piece' : Piece}
    (laid : Laid (front ++ piece :: rest)) (marker : piece'.marker = piece.marker)
    (text : piece'.text = piece.text) (absent : Absent piece'.gap (textOf rest'))
    (laidRest : Laid rest') : Laid (front ++ piece' :: rest') := by
  induction front with
  | nil =>
      cases laid with
      | cons written _ _ => exact .cons (by rwa [marker, text]) absent laidRest
  | cons first front induction =>
      cases laid with
      | cons written gap laid =>
          exact .cons written (absent_replace laid text gap) (induction laid)

end Laid

def tokens (pos line : Nat) : List Piece → List Token
  | [] => []
  | piece :: later =>
      let stop := pos + byteSize piece.text
      ⟨piece.marker, pos, stop, line, piece.gap ++ textOf later⟩ ::
        tokens (stop + byteSize piece.gap) (line + piece.gap.count '\n') later

end Piece

structure Layout where
  lead : List Char
  pieces : List Piece
  absent : Absent lead (Piece.textOf pieces)
  laid : Piece.Laid pieces

namespace Layout

def text (layout : Layout) : List Char :=
  layout.lead ++ Piece.textOf layout.pieces

theorem exists_layout (cs : List Char) : ∃ layout : Layout, layout.text = cs := by
  match cs with
  | [] => exact ⟨⟨[], [], trivial, .nil⟩, rfl⟩
  | c :: rest =>
      cases read : read? (c :: rest) with
      | none =>
          obtain ⟨⟨lead, pieces, absent, laid⟩, whole⟩ := exists_layout rest
          have split : lead ++ Piece.textOf pieces = rest := whole
          exact ⟨⟨c :: lead, pieces, ⟨by rw [List.cons_append, split, read], absent⟩, laid⟩,
            by simp [text, split]⟩
      | some found =>
          obtain ⟨m, w, after⟩ := found
          obtain ⟨written, whole⟩ := read?_eq_some_iff.mp read
          have shorter : after.length < (c :: rest).length := by
            have nonempty := List.length_pos_iff.mpr written.ne_nil
            rw [whole, List.length_append]
            omega
          obtain ⟨⟨lead, pieces, absent, laid⟩, split⟩ := exists_layout after
          exact ⟨⟨[], ⟨m, w, lead⟩ :: pieces, trivial, .cons written absent laid⟩, by
            simp [text, whole, ← split]⟩
termination_by cs.length
decreasing_by
  · exact Nat.lt_succ_self _
  · exact shorter

def tokens (layout : Layout) : List Token :=
  Piece.tokens (byteSize layout.lead) (1 + layout.lead.count '\n') layout.pieces

end Layout

/-! Reading the tokens of a text goes along its layout. -/

namespace Token

theorem readFrom_skip (passed rest : List Char) (pos line : Nat) :
    readFrom passed.length pos line (passed ++ rest) =
      readFrom 0 (pos + byteSize passed) (line + passed.count '\n') rest := by
  induction passed generalizing pos line with
  | nil => rfl
  | cons c passed induction =>
      simp only [List.cons_append, List.length_cons, readFrom, induction, byteSize_cons]
      by_cases newline : c = '\n'
      · simp [newline, Nat.add_assoc, Nat.add_comm 1]
      · simp [newline, Nat.add_assoc]

theorem readFrom_absent {gap rest : List Char} (absent : Absent gap rest) (pos line : Nat) :
    readFrom 0 pos line (gap ++ rest) =
      readFrom 0 (pos + byteSize gap) (line + gap.count '\n') rest := by
  induction gap generalizing pos line with
  | nil => rfl
  | cons c gap induction =>
      obtain ⟨unread, absent⟩ := absent
      rw [List.cons_append] at unread
      simp only [List.cons_append, readFrom, unread, induction absent, byteSize_cons]
      by_cases newline : c = '\n'
      · simp [newline, Nat.add_assoc, Nat.add_comm 1]
      · simp [newline, Nat.add_assoc]

theorem readFrom_written {m : Marker} {text : List Char} (written : Written m text)
    (rest : List Char) (pos line : Nat) :
    readFrom 0 pos line (text ++ rest) =
      ⟨m, pos, pos + byteSize text, line, rest⟩ ::
        readFrom 0 (pos + byteSize text) line rest := by
  have read := read?_of_written written rest
  have single := List.count_eq_zero_of_not_mem written.newline_not_mem
  obtain ⟨tail, rfl⟩ := written.eq_cons
  have tailSingle : tail.count '\n' = 0 := by simpa using single
  rw [List.cons_append] at read
  simp only [List.cons_append, readFrom, read, List.length_cons, Nat.add_sub_cancel,
    readFrom_skip, tailSingle, byteSize_cons]
  simp [Nat.add_assoc]

theorem readFrom_textOf {pieces : List Piece} (laid : Piece.Laid pieces) (pos line : Nat) :
    readFrom 0 pos line (Piece.textOf pieces) = Piece.tokens pos line pieces := by
  induction laid generalizing pos line with
  | nil => rfl
  | cons written absent laid induction =>
      rw [Piece.textOf_cons, readFrom_written written, readFrom_absent absent, induction]
      rfl

end Token

theorem tokenize_text (layout : Layout) : tokenize layout.text = layout.tokens := by
  rw [tokenize, Layout.text, Token.readFrom_absent layout.absent,
    Token.readFrom_textOf layout.laid, Nat.zero_add]
  rfl

end TagAudit
