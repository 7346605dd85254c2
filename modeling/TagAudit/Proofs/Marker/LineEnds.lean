import Mathlib.Data.List.Forall2
import TagAudit.Proofs.Marker.Occurrences
import TagAudit.Proofs.Marker.Regions
import TagAudit.Proofs.Text.LineEnds

/-! Scanning a text whose lines end with a carriage return and a line feed. -/

namespace TagAudit

open Text Marker

theorem regionOf_crlf (text : List Char) : regionOf (crlf text) = crlf (regionOf text) := by
  rcases lastLine_cases text with ⟨-, single⟩ | ⟨above, split⟩
  · have short : '\n' ∉ regionOf text := fun inside =>
      single ((prefix_regionOf text).subset inside)
    rw [crlf_of_not_mem single, crlf_of_not_mem short]
  · have last := newline_not_mem_lastLine text
    generalize lastLine text = lead at split last
    subst split
    rw [crlf_append, crlf_newline, crlf_of_not_mem last, List.append_cons]
    by_cases comment : isCommentLead lead = true
    · rw [regionOf_append_newline _ last comment, regionOf_append_newline _ last comment]
      simp
    · rw [regionOf_of_text _ last comment, regionOf_of_text _ last comment, crlf_append,
        crlf_newline, crlf_of_not_mem last, ← List.append_cons]

theorem regionBody_crlf {region : List Char} (plain : '\r' ∉ region) :
    regionBody (crlf region) = regionBody region := by
  unfold regionBody
  rw [lines_crlf plain]

namespace Marker

theorem getLast?_of_written {m : Marker} {text : List Char} (written : Written m text) :
    text.getLast? = some '>' := by
  cases written
  simp [arrow]

theorem read?_crlf {cs : List Char} (unread : read? cs = none) : read? (crlf cs) = none := by
  cases read : read? (crlf cs) with
  | none => rfl
  | some found =>
      obtain ⟨m, text, after⟩ := found
      obtain ⟨written, split⟩ := read?_eq_some_iff.mp read
      obtain ⟨tail, shape, -⟩ := exists_of_crlf_eq_append split written.newline_not_mem
        (by simp [getLast?_of_written written])
      rw [shape, read?_of_written written] at unread
      simp at unread

theorem Absent.crlf {gap rest : List Char} (absent : Absent gap rest) :
    Absent (crlf gap) (crlf rest) := by
  induction gap with
  | nil => trivial
  | cons c gap induction =>
      obtain ⟨unread, below⟩ := absent
      by_cases newline : c = '\n'
      · subst newline
        rw [crlf_newline]
        exact ⟨read?_eq_none_of_ne (by decide) _, read?_eq_none_of_ne (by decide) _,
          induction below⟩
      · rw [crlf_cons newline]
        refine ⟨?_, induction below⟩
        rw [← crlf_cons newline, ← crlf_append]
        exact read?_crlf unread

end Marker

namespace Piece

def crlf (piece : Piece) : Piece :=
  { piece with gap := Text.crlf piece.gap }

theorem textOf_crlf {pieces : List Piece} (laid : Laid pieces) :
    textOf (pieces.map crlf) = Text.crlf (textOf pieces) := by
  induction laid with
  | nil => rfl
  | cons written absent laid induction =>
      rw [List.map_cons, textOf_cons, textOf_cons, induction, crlf_append, crlf_append,
        crlf_of_not_mem written.newline_not_mem]
      rfl

theorem Laid.crlf {pieces : List Piece} (laid : Laid pieces) : Laid (pieces.map crlf) := by
  induction laid with
  | nil => exact .nil
  | cons written absent laid induction =>
      refine .cons written ?_ induction
      rw [textOf_crlf laid]
      exact absent.crlf

theorem any_closes_crlf (name : List Char) (pieces : List Piece) :
    (pieces.map crlf).any (closes name) = pieces.any (closes name) := by
  rw [List.any_map]
  rfl

theorem textBefore?_crlf (name : List Char) {pieces : List Piece} (laid : Laid pieces) :
    textBefore? name (pieces.map crlf) = (textBefore? name pieces).map Text.crlf := by
  induction laid with
  | nil => rfl
  | @cons piece later written absent laid induction =>
      have closes : piece.crlf.closes name = piece.closes name := rfl
      rw [List.map_cons, textBefore?, textBefore?, closes, induction]
      split
      · rfl
      · cases textBefore? name later with
        | none => rfl
        | some text =>
            simp only [Option.map_some, crlf_append, crlf_of_not_mem written.newline_not_mem]
            rfl

end Piece

namespace Layout

def crlf (layout : Layout) : Layout where
  lead := Text.crlf layout.lead
  pieces := layout.pieces.map Piece.crlf
  absent := by
    rw [Piece.textOf_crlf layout.laid]
    exact layout.absent.crlf
  laid := layout.laid.crlf

theorem text_crlf (layout : Layout) : layout.crlf.text = Text.crlf layout.text := by
  unfold text
  rw [crlf_append, ← Piece.textOf_crlf layout.laid]
  rfl

end Layout

structure Occurrence.Returned (o o' : Occurrence) : Prop where
  tag : o'.tag = o.tag
  file : o'.file = o.file
  startLine : o'.startLine = o.startLine
  endLine : o'.endLine = o.endLine
  kind : o'.kind = o.kind
  closure : o'.closure = o.closure
  content : o'.content =
    if o.closure = .closed then String.ofList (crlf o.content.toList) else o.content
  insertOffset : o'.insertOffset.isSome = o.insertOffset.isSome

namespace ScanOptions

open Piece

variable {file : String}

theorem closureOf_crlf (options : ScanOptions) {piece : Piece} (plain : '\r' ∉ piece.gap)
    (later : List Piece) :
    options.closureOf piece.crlf (later.map Piece.crlf) = options.closureOf piece later := by
  have region : '\r' ∉ regionOf piece.gap := fun inside =>
    plain ((prefix_regionOf _).subset inside)
  unfold closureOf
  rw [any_closes_crlf]
  simp only [Piece.crlf, regionOf_crlf, regionBody_crlf region]
  rfl

theorem occurrence_crlf (options : ScanOptions) {piece : Piece} (plain : '\r' ∉ piece.gap)
    {later : List Piece}
    (laid : Laid later) (pos pos' line : Nat) :
    Occurrence.Returned (options.occurrence file pos line piece later)
      (options.occurrence file pos' line piece.crlf (later.map Piece.crlf)) := by
  have region : '\r' ∉ regionOf piece.gap := fun inside =>
    plain ((prefix_regionOf _).subset inside)
  have covered : crlf piece.gap ++
      (textBefore? piece.marker.name (later.map Piece.crlf)).getD [] =
      crlf (piece.gap ++ (textBefore? piece.marker.name later).getD []) := by
    rw [textBefore?_crlf _ laid, crlf_append]
    cases textBefore? piece.marker.name later <;> rfl
  have named : piece.crlf.name = piece.name := rfl
  have marked : piece.crlf.marker.name = piece.marker.name := rfl
  have gap : piece.crlf.gap = crlf piece.gap := rfl
  have closure := options.closureOf_crlf plain later
  constructor <;> simp only [occurrence, closure, named, marked, gap, covered, regionOf_crlf,
    regionBody_crlf region, trimEnd_crlf, trim_crlf, count_newline_crlf]
  · split <;> simp_all
  · split <;> rfl

theorem occurrences_crlf (options : ScanOptions) {pieces : List Piece} (laid : Laid pieces)
    (plain : ∀ piece ∈ pieces, '\r' ∉ piece.gap) (pos pos' line : Nat) :
    List.Forall₂ Occurrence.Returned (options.occurrences file pos line pieces)
      (options.occurrences file pos' line (pieces.map Piece.crlf)) := by
  induction laid generalizing pos pos' line with
  | nil => exact .nil
  | @cons piece later written absent laid induction =>
      obtain ⟨here, below⟩ := List.forall_mem_cons.mp plain
      have lines : piece.crlf.gap.count '\n' = piece.gap.count '\n' := count_newline_crlf _
      have next := induction below (pos + byteSize piece.text + byteSize piece.gap)
        (pos' + byteSize piece.crlf.text + byteSize piece.crlf.gap)
        (line + piece.gap.count '\n')
      have closing : piece.crlf.marker.closing = piece.marker.closing := rfl
      rw [List.map_cons, occurrences, occurrences, closing, lines]
      split
      · exact next
      · exact .cons (options.occurrence_crlf here laid pos pos' line) next

/-- A text without carriage returns says the same when every line feed gets one: the same tags
on the same lines that end in the same way.  What a closed tag wraps has the longer line ends
too, and what is said of another tag is the same. -/
theorem scan_crlf (options : ScanOptions) (file : String) {content : String}
    (plain : '\r' ∉ content.toList) :
    List.Forall₂ Occurrence.Returned (options.scan file content)
      (options.scan file (String.ofList (crlf content.toList))) := by
  obtain ⟨layout, whole⟩ := Layout.exists_layout content.toList
  have given : content = String.ofList layout.text := by rw [whole, String.ofList_toList]
  have plainGaps : ∀ piece ∈ layout.pieces, '\r' ∉ piece.gap := by
    intro piece member inside
    apply plain
    rw [← whole, Layout.text, Piece.textOf]
    apply List.mem_append_right
    exact List.mem_flatMap.mpr ⟨piece, member, List.mem_append_right _ inside⟩
  rw [← whole, ← layout.text_crlf, given, scan_layout, scan_layout]
  have leadLines : layout.crlf.lead.count '\n' = layout.lead.count '\n' := count_newline_crlf _
  rw [leadLines]
  exact options.occurrences_crlf layout.laid plainGaps _ _ _

end ScanOptions

end TagAudit
