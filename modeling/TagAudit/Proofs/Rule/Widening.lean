import TagAudit.Proofs.Marker.Readings
import TagAudit.Rule

/-! Scans with more dimensions and a larger threshold.  They find the same tags; some of these
stand alone that were to be closed, and some are bare that were unclosed. -/

namespace TagAudit

open Text Marker

namespace ScanOptions

variable {options wider : ScanOptions} {name : List Char}

/-- The category of a name is a dimension of the wider options only. -/
def Gains (options wider : ScanOptions) (name : List Char) : Prop :=
  ∃ category value, name = category ++ ':' :: value ∧ ':' ∉ category ∧ category ≠ [] ∧
    value ≠ [] ∧ String.ofList category ∈ wider.dimensions ∧
    String.ofList category ∉ options.dimensions

theorem Faceted.mono (dimensions : options.dimensions ⊆ wider.dimensions)
    (faceted : options.Faceted name) : wider.Faceted name := by
  obtain ⟨category, value, whole, first, named, valued, known⟩ := faceted
  exact ⟨category, value, whole, first, named, valued, dimensions known⟩

theorem gains_iff : Gains options wider name ↔ wider.Faceted name ∧ ¬options.Faceted name := by
  constructor
  · rintro ⟨category, value, whole, first, named, valued, known, unknown⟩
    refine ⟨⟨category, value, whole, first, named, valued, known⟩, ?_⟩
    rintro ⟨category', value', whole', first', -, -, known'⟩
    have split := splitAt?_eq_some_iff.mpr ⟨whole, first⟩
    rw [splitAt?_eq_some_iff.mpr ⟨whole', first'⟩, Option.some_inj, Prod.mk.injEq] at split
    exact unknown (split.1 ▸ known')
  · rintro ⟨⟨category, value, whole, first, named, valued, known⟩, plain⟩
    exact ⟨category, value, whole, first, named, valued, known, fun known' =>
      plain ⟨category, value, whole, first, named, valued, known'⟩⟩

end ScanOptions

/-- What becomes of an occurrence under wider options: the tag of a new dimension stands alone,
an unclosed tag that trails little text for the new threshold is bare, and all else is the
same. -/
inductive Occurrence.Widened (options wider : ScanOptions) (o : Occurrence) : Occurrence → Prop
  | marker (gains : options.Gains wider o.tag.toList) :
      Widened options wider o
        { o with endLine := o.startLine, content := "", kind := .dimension, closure := .marker,
                 insertOffset := none }
  | bare (stays : ¬options.Gains wider o.tag.toList) (unclosed : o.closure = .unclosed)
      (short : o.content.length ≤ wider.threshold) :
      Widened options wider o
        { o with endLine := o.startLine, closure := .bare, insertOffset := none }
  | same (stays : ¬options.Gains wider o.tag.toList)
      (long : o.closure = .unclosed → wider.threshold < o.content.length) :
      Widened options wider o o

namespace Occurrence.Widened

variable {options wider : ScanOptions} {o o' : Occurrence}

theorem tag_eq (widened : Widened options wider o o') : o'.tag = o.tag := by
  cases widened <;> rfl

theorem openOffset_eq (widened : Widened options wider o o') : o'.openOffset = o.openOffset := by
  cases widened <;> rfl

theorem closure_or_eq (widened : Widened options wider o o') :
    o'.closure ≠ .unclosed ∨ o' = o := by
  cases widened with
  | marker => exact .inl (by simp)
  | bare => exact .inl (by simp)
  | same => exact .inr rfl

end Occurrence.Widened

namespace ScanOptions

open Piece

variable {options wider : ScanOptions} {file : String}

theorem kindOf_eq (options : ScanOptions) (piece : Piece) (later : List Piece) :
    options.kindOf piece.name =
      if options.closureOf piece later = .marker then .dimension else .primary := by
  simp only [kindOf, closureOf]
  split_ifs <;> simp_all

/-- The options decide how a tag ends, and through that all else. -/
theorem occurrence_congr {pos line : Nat} {piece : Piece} {later : List Piece}
    (alike : wider.closureOf piece later = options.closureOf piece later) :
    wider.occurrence file pos line piece later = options.occurrence file pos line piece later := by
  simp only [occurrence, kindOf_eq _ piece later, alike]

/-- How a tag ends under wider options.  Whether a marker closes it depends on the names alone. -/
theorem closureOf_cases (dimensions : options.dimensions ⊆ wider.dimensions)
    (threshold : options.threshold ≤ wider.threshold) (piece : Piece) (later : List Piece) :
    (options.Gains wider piece.marker.name ∧ wider.closureOf piece later = .marker) ∨
    (¬options.Gains wider piece.marker.name ∧ options.closureOf piece later = .unclosed ∧
      wider.closureOf piece later = .bare ∧
      (regionBody (regionOf piece.gap)).length ≤ wider.threshold) ∨
    (¬options.Gains wider piece.marker.name ∧
      wider.closureOf piece later = options.closureOf piece later ∧
      (options.closureOf piece later = .unclosed →
        wider.threshold < (regionBody (regionOf piece.gap)).length)) := by
  have gains : options.Gains wider piece.marker.name ↔
      wider.isDimension piece.name = true ∧ ¬options.isDimension piece.name = true := by
    rw [gains_iff, Piece.name, isDimension_iff, isDimension_iff]
  have still (dimension : options.isDimension piece.name = true) :
      wider.isDimension piece.name = true := by
    rw [Piece.name, isDimension_iff] at dimension ⊢
    exact dimension.mono dimensions
  rw [gains]
  simp only [closureOf]
  grind

theorem occurrence_widened (dimensions : options.dimensions ⊆ wider.dimensions)
    (threshold : options.threshold ≤ wider.threshold) (pos line : Nat) (piece : Piece)
    (later : List Piece) :
    Occurrence.Widened options wider (options.occurrence file pos line piece later)
      (wider.occurrence file pos line piece later) := by
  have name : (options.occurrence file pos line piece later).tag.toList = piece.marker.name :=
    String.toList_ofList
  have closure : (options.occurrence file pos line piece later).closure =
      options.closureOf piece later := rfl
  have content (unclosed : options.closureOf piece later = .unclosed) :
      (options.occurrence file pos line piece later).content =
        String.ofList (regionBody (regionOf piece.gap)) := by
    simp only [occurrence, unclosed]
  rcases closureOf_cases dimensions threshold piece later with
    ⟨gains, marker⟩ | ⟨stays, unclosed, bare, short⟩ | ⟨stays, alike, long⟩
  · have alone : wider.occurrence file pos line piece later =
        { options.occurrence file pos line piece later with
          endLine := line, content := "", kind := .dimension, closure := .marker,
          insertOffset := none } := by
      simp [occurrence, kindOf_eq _ piece later, marker]
    rw [alone]
    exact .marker (name ▸ gains)
  · have spared : wider.occurrence file pos line piece later =
        { options.occurrence file pos line piece later with
          endLine := line, closure := .bare, insertOffset := none } := by
      simp [occurrence, kindOf_eq _ piece later, unclosed, bare]
    rw [spared]
    refine .bare (name ▸ stays) (closure.trans unclosed) ?_
    rwa [content unclosed, String.length_ofList]
  · rw [occurrence_congr alike]
    refine .same (name ▸ stays) fun unclosed => ?_
    rw [content (closure.symm.trans unclosed), String.length_ofList]
    exact long (closure.symm.trans unclosed)

theorem occurrences_widened (dimensions : options.dimensions ⊆ wider.dimensions)
    (threshold : options.threshold ≤ wider.threshold) (pos line : Nat) (pieces : List Piece) :
    List.Forall₂ (Occurrence.Widened options wider) (options.occurrences file pos line pieces)
      (wider.occurrences file pos line pieces) := by
  induction pieces generalizing pos line with
  | nil => exact .nil
  | cons piece later induction =>
      have next := induction (pos + byteSize piece.text + byteSize piece.gap)
        (line + piece.gap.count '\n')
      rw [occurrences, occurrences]
      split
      next => exact next
      next => exact .cons (occurrence_widened dimensions threshold pos line piece later) next

theorem forall₂_widened_scan (dimensions : options.dimensions ⊆ wider.dimensions)
    (threshold : options.threshold ≤ wider.threshold) (file content : String) :
    List.Forall₂ (Occurrence.Widened options wider) (options.scan file content)
      (wider.scan file content) := by
  obtain ⟨layout, whole⟩ := Layout.exists_layout content.toList
  obtain rfl : content = String.ofList layout.text := by rw [whole, String.ofList_toList]
  rw [scan_layout, scan_layout]
  exact occurrences_widened dimensions threshold _ _ layout.pieces

end ScanOptions

namespace Rule

theorem check_matchingClose_cons (file : String) (o : Occurrence) (later : List Occurrence) :
    matchingClose.check file (o :: later) =
      matchingClose.check file [o] ++ matchingClose.check file later := by
  simp only [check, ← List.filterMap_append, List.singleton_append]

theorem check_matchingClose_of_settled {o : Occurrence} (settled : o.closure ≠ .unclosed)
    (file : String) : matchingClose.check file [o] = [] := by
  cases closure : o.closure <;> simp_all [check]

/-- Under wider options some unclosed tags are no longer reported, and no others are. -/
theorem check_matchingClose_sublist {options wider : ScanOptions} {before after : List Occurrence}
    (widened : List.Forall₂ (Occurrence.Widened options wider) before after) (file : String) :
    (matchingClose.check file after).Sublist (matchingClose.check file before) := by
  induction widened with
  | nil => exact .refl []
  | @cons o o' before after here later induction =>
      rw [check_matchingClose_cons file o, check_matchingClose_cons file o']
      refine List.Sublist.append ?_ induction
      rcases here.closure_or_eq with settled | rfl
      · rw [check_matchingClose_of_settled settled]
        exact List.nil_sublist _
      · exact .refl _

end Rule

namespace ScanOptions

/-- More dimensions and a larger threshold change nothing but the tags that they are about, and
no tag is reported as unclosed that was not before. -/
theorem scan_widened {options wider : ScanOptions}
    (dimensions : options.dimensions ⊆ wider.dimensions)
    (threshold : options.threshold ≤ wider.threshold) (file content : String) :
    let before := options.scan file content
    let after := wider.scan file content
    after.map (fun o => (o.tag, o.openOffset)) = before.map (fun o => (o.tag, o.openOffset)) ∧
      List.Forall₂ (Occurrence.Widened options wider) before after ∧
      (Rule.matchingClose.check file after).Sublist (Rule.matchingClose.check file before) := by
  intro before after
  have widened : List.Forall₂ (Occurrence.Widened options wider) before after :=
    forall₂_widened_scan dimensions threshold file content
  refine ⟨?_, widened, Rule.check_matchingClose_sublist widened file⟩
  rw [← List.forall₂_eq_eq_eq, List.forall₂_map_left_iff, List.forall₂_map_right_iff]
  exact widened.flip.imp fun o' o here => by rw [here.tag_eq, here.openOffset_eq]

theorem scan_widened_type :
    let options : ScanOptions := ⟨["component"], 3⟩
    let wider : ScanOptions := ⟨["component", "type"], 9⟩
    let content := "<!--TAG:type:x-->\n<!--TAG:a-->some text\n<!--TAG:b-->more text here"
    let before := options.scan "a.md" content
    let after := wider.scan "a.md" content
    options.dimensions ⊆ wider.dimensions ∧ options.threshold ≤ wider.threshold ∧
      before.map (·.closure) = [.bare, .unclosed, .unclosed] ∧
      after.map (·.closure) = [.marker, .bare, .unclosed] ∧
      after.map (fun o => (o.tag, o.openOffset)) = before.map (fun o => (o.tag, o.openOffset)) ∧
      List.Forall₂ (Occurrence.Widened options wider) before after ∧
      (Rule.matchingClose.check "a.md" after).Sublist (Rule.matchingClose.check "a.md" before) := by
  intro options wider content before after
  have dimensions : options.dimensions ⊆ wider.dimensions := by decide
  have threshold : options.threshold ≤ wider.threshold := by decide
  exact ⟨dimensions, threshold, by decide +kernel, by decide +kernel,
    scan_widened dimensions threshold "a.md" content⟩

end ScanOptions

end TagAudit
