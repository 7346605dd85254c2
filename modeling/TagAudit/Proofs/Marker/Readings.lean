import Mathlib.Data.List.Forall2
import TagAudit.Proofs.Marker.Positions
import TagAudit.Proofs.Text.Splitting

/-! What an opening token says, read off the whole text by a search forward from the token.
A scan gives this reading for every opening token, in their order. -/

namespace TagAudit

open Text Marker

/-- The tokens that open a tag, each with the tokens behind it. -/
def Token.openings : List Token → List (Token × List Token)
  | [] => []
  | token :: later =>
      if token.marker.closing then openings later else (token, later) :: openings later

def Token.FirstClose (name : List Char) (later : List Token) (close : Token) : Prop :=
  ∃ front rest, later = front ++ close :: rest ∧ close.closes name = true ∧
    ∀ other ∈ front, other.closes name = false

/-- The text behind a token that belongs to it when no token closes it: up to the next token
or the end of the text. -/
def Token.trailing (content : List Char) (token : Token) (later : List Token) : List Char :=
  let next := match later with
    | next :: _ => next.start
    | [] => byteSize content
  slice token.stop (regionEnd content token.stop next) content

/-- A line without the blanks around it, and without the comment marker in front of it when a
blank or the end of the line follows the marker. -/
def lineSaid (line : List Char) : List Char :=
  match line.dropWhile isBlank with
  | '#' :: rest | ';' :: rest | '/' :: '/' :: rest | '-' :: '-' :: rest =>
      if rest.head?.all isBlank then trim rest else trim line
  | _ => trim line

def said (text : List Char) : List Char :=
  trim (['\n'].intercalate ((lines text).map lineSaid))

theorem trimEnd_stripCommentMarker_eq (line : List Char) :
    trimEnd (stripCommentMarker line) = lineSaid line := by
  unfold lineSaid stripCommentMarker trim
  rw [← trimStart]
  generalize trimStart line = text
  split
  case h_1 rest | h_2 rest | h_3 rest | h_4 rest =>
    cases rest with
    | nil => rfl
    | cons c rest => by_cases blank : isBlank c = true <;> simp [commentMarkers, dropLead?, blank]
  case h_5 hash semicolon slashes dashes =>
    have absent : ∀ marker ∈ commentMarkers, dropLead? marker text = none := by
      simp only [commentMarkers, List.forall_mem_cons, List.not_mem_nil, false_implies,
        implies_true, and_true]
      refine ⟨?_, ?_, ?_, ?_⟩ <;>
        refine Option.eq_none_iff_forall_ne_some.mpr fun rest found => ?_
      · exact hash rest (dropLead?_eq_some_iff.mp found)
      · exact slashes rest (dropLead?_eq_some_iff.mp found)
      · exact dashes rest (dropLead?_eq_some_iff.mp found)
      · exact semicolon rest (dropLead?_eq_some_iff.mp found)
    dsimp only
    rw [List.findSome?_eq_none_iff.mpr ?_, Option.getD_none]
    intro marker known
    rw [absent marker known]
    rfl

theorem regionBody_eq_said (text : List Char) : regionBody text = said text := by
  simp only [regionBody, said, joinLines, trimEnd_stripCommentMarker_eq]

namespace ScanOptions

/-- The name has the form `category:value`, split at its first colon, with a category that is
one of the dimensions. -/
def Faceted (options : ScanOptions) (name : List Char) : Prop :=
  ∃ category value, name = category ++ ':' :: value ∧ ':' ∉ category ∧ category ≠ [] ∧
    value ≠ [] ∧ String.ofList category ∈ options.dimensions

/-- What the occurrence of an opening token says, read off the whole text by a search forward
from the token. -/
structure Reads (options : ScanOptions) (file : String) (content : List Char) (token : Token)
    (later : List Token) (o : Occurrence) : Prop where
  tag : o.tag = token.name
  file : o.file = file
  openOffset : o.openOffset = token.start
  startLine : o.startLine = lineAt token.start content
  kind : o.kind = .dimension ↔ options.Faceted token.marker.name
  marker : o.closure = .marker ↔ options.Faceted token.marker.name
  closed : o.closure = .closed ↔
    ¬ options.Faceted token.marker.name ∧ ∃ t ∈ later, t.closes token.marker.name = true
  unclosed : o.closure = .unclosed ↔
    ¬ options.Faceted token.marker.name ∧ (¬ ∃ t ∈ later, t.closes token.marker.name = true) ∧
      options.threshold < (said (token.trailing content later)).length
  bare : o.closure = .bare ↔
    ¬ options.Faceted token.marker.name ∧ (¬ ∃ t ∈ later, t.closes token.marker.name = true) ∧
      (said (token.trailing content later)).length ≤ options.threshold
  ofMarker : o.closure = .marker →
    o.content = "" ∧ o.endLine = o.startLine ∧ o.insertOffset = none
  ofClosed : o.closure = .closed → ∃ close, Token.FirstClose token.marker.name later close ∧
    o.content = String.ofList (trim (slice token.stop close.start content)) ∧
    o.endLine = lineAt close.start content ∧ o.insertOffset = none
  ofUnclosed : o.closure = .unclosed →
    o.content = String.ofList (said (token.trailing content later)) ∧
    ∃ offset, o.insertOffset = some offset ∧ o.endLine = lineAt offset content ∧
      offset = token.stop + byteSize (trimEnd (token.trailing content later))
  ofBare : o.closure = .bare →
    o.content = String.ofList (said (token.trailing content later)) ∧
    o.endLine = o.startLine ∧ o.insertOffset = none

theorem isDimension_iff (options : ScanOptions) (name : List Char) :
    options.isDimension (String.ofList name) = true ↔ options.Faceted name := by
  simp only [isDimension, splitDimension, String.toList_ofList, Faceted]
  cases split : splitAt? ':' name with
  | none =>
      refine ⟨by simp, ?_⟩
      rintro ⟨category, value, rfl, first, -⟩
      rw [splitAt?_eq_some_iff.mpr ⟨rfl, first⟩] at split
      cases split
  | some parts =>
      obtain ⟨category, value⟩ := parts
      have found := splitAt?_eq_some_iff.mp split
      constructor
      · intro known
        refine ⟨category, value, found.1, found.2, ?_⟩
        cases category <;> cases value <;> simp_all
      · rintro ⟨category', value', whole, first, shown, valued, known⟩
        obtain ⟨rfl, rfl⟩ : category = category' ∧ value = value' := by
          simpa using split.symm.trans (splitAt?_eq_some_iff.mpr ⟨whole, first⟩)
        simp [shown, valued, known]

end ScanOptions

namespace Piece

theorem exists_closes_iff (name : List Char) (pos line : Nat) (pieces : List Piece) :
    (∃ t ∈ tokens pos line pieces, t.closes name = true) ↔ pieces.any (closes name) = true := by
  rw [← List.any_eq_true]
  induction pieces generalizing pos line with
  | nil => rfl
  | cons piece later induction =>
      have step := induction (pos + byteSize piece.text + byteSize piece.gap)
        (line + piece.gap.count '\n')
      simp [tokens, step, closes, Token.closes]

def tokensBehind (passed : List Char) (piece : Piece) (later : List Piece) : List Token :=
  tokens (byteSize passed + byteSize piece.text + byteSize piece.gap)
    (1 + passed.count '\n' + piece.gap.count '\n') later

variable {passed : List Char} {piece : Piece} {later : List Piece}

theorem trailing_token :
    (piece.token passed later).trailing (passed ++ textOf (piece :: later))
        (piece.tokensBehind passed later) =
      regionOf piece.gap := by
  have whole : passed ++ textOf (piece :: later) =
      (passed ++ piece.text) ++ (piece.gap ++ textOf later) := by
    simp
  have region := slice_regionEnd (passed ++ piece.text) piece.gap (textOf later)
  rw [byteSize_append] at region
  rw [whole]
  cases later with
  | nil =>
      have size : byteSize (passed ++ piece.text ++ (piece.gap ++ textOf [])) =
          byteSize passed + byteSize piece.text + byteSize piece.gap := by
        simp [Nat.add_assoc]
      simpa only [Token.trailing, tokensBehind, tokens, token, size] using region
  | cons next later => exact region

theorem firstClose_token (passed : List Char) (laid : Laid later) (single : '\n' ∉ piece.text)
    {name text : List Char} (found : textBefore? name later = some text) :
    ∃ close, Token.FirstClose name (piece.tokensBehind passed later) close ∧
      slice (piece.token passed later).stop close.start (passed ++ textOf (piece :: later)) =
        piece.gap ++ text ∧
      lineAt close.start (passed ++ textOf (piece :: later)) =
        1 + passed.count '\n' + (piece.gap ++ text).count '\n' := by
  have search := find?_tokens laid name
    (byteSize passed + byteSize piece.text + byteSize piece.gap)
    (1 + passed.count '\n' + piece.gap.count '\n')
  rw [found] at search
  obtain ⟨close, start, -, search⟩ := search
  obtain ⟨rest, split⟩ := textBefore?_prefix found
  obtain ⟨closes, front, behind, order, earlier⟩ := List.find?_eq_some_iff_append.mp search
  have whole : passed ++ textOf (piece :: later) =
      (passed ++ piece.text) ++ ((piece.gap ++ text) ++ rest) := by
    simp [← split]
  have reach : close.start = byteSize (passed ++ piece.text) + byteSize (piece.gap ++ text) := by
    simp [start, Nat.add_assoc]
  refine ⟨close, ⟨front, behind, order, closes, fun other member => ?_⟩, ?_, ?_⟩
  · simpa using earlier other member
  · have stop : (piece.token passed later).stop = byteSize (passed ++ piece.text) :=
      (byteSize_append _ _).symm
    rw [whole, reach, stop, slice_append]
  · have line := lineAt_byteSize ((passed ++ piece.text) ++ (piece.gap ++ text)) rest
    rw [byteSize_append, List.append_assoc (passed ++ piece.text) (piece.gap ++ text) rest] at line
    rw [whole, reach, line]
    simp [List.count_eq_zero_of_not_mem single, Nat.add_assoc]

theorem lineAt_kept (single : '\n' ∉ piece.text) {kept : List Char} (begins : kept <+: piece.gap) :
    lineAt (byteSize passed + byteSize piece.text + byteSize kept)
        (passed ++ textOf (piece :: later)) =
      1 + passed.count '\n' + kept.count '\n' := by
  obtain ⟨rest, split⟩ := begins
  have line := lineAt_byteSize (passed ++ (piece.text ++ kept)) (rest ++ textOf later)
  have whole : passed ++ (piece.text ++ kept) ++ (rest ++ textOf later) =
      passed ++ textOf (piece :: later) := by
    simp [← split]
  rw [whole, byteSize_append, byteSize_append, ← Nat.add_assoc] at line
  rw [line]
  simp [List.count_eq_zero_of_not_mem single, Nat.add_assoc]

end Piece

namespace ScanOptions

open Piece

variable {passed : List Char} {piece : Piece} {later : List Piece}

theorem occurrence_reads (options : ScanOptions) (file : String) (passed : List Char)
    (laid : Laid later) (single : '\n' ∉ piece.text) :
    options.Reads file (passed ++ textOf (piece :: later)) (piece.token passed later)
      (piece.tokensBehind passed later)
      (options.occurrence file (byteSize passed) (1 + passed.count '\n') piece later) := by
  have faceted : options.Faceted (piece.token passed later).marker.name ↔
      options.isDimension piece.name = true :=
    (options.isDimension_iff _).symm
  have closes : (∃ t ∈ piece.tokensBehind passed later,
      t.closes (piece.token passed later).marker.name = true) ↔
      later.any (Piece.closes piece.marker.name) = true :=
    exists_closes_iff _ _ _ _
  have line : lineAt (byteSize passed) (passed ++ textOf (piece :: later)) =
      1 + passed.count '\n' :=
    lineAt_byteSize _ _
  constructor
  case tag => rfl
  case file => rfl
  case openOffset => rfl
  case startLine => exact line.symm
  case kind =>
    rw [faceted]
    simp only [occurrence, kindOf]
    split <;> simp [*]
  case marker =>
    rw [faceted]
    simp only [occurrence, closureOf]
    split_ifs <;> simp [*]
  case closed =>
    rw [faceted, closes]
    simp only [occurrence, closureOf]
    split_ifs <;> simp [*]
  case unclosed =>
    rw [faceted, closes, trailing_token, ← regionBody_eq_said]
    simp only [occurrence, closureOf]
    split_ifs <;> simp [*]
  case bare =>
    rw [faceted, closes, trailing_token, ← regionBody_eq_said]
    simp only [occurrence, closureOf]
    split_ifs <;> simp_all
  case ofMarker =>
    intro marker
    simp only [occurrence] at marker ⊢
    simp [marker]
  case ofClosed =>
    intro closed
    simp only [occurrence] at closed ⊢
    have found : (textBefore? piece.marker.name later).isSome = true := by
      rw [textBefore?_isSome]
      simp only [closureOf] at closed
      split_ifs at closed
      assumption
    obtain ⟨text, found⟩ := Option.isSome_iff_exists.mp found
    obtain ⟨close, first, content, line⟩ := firstClose_token passed laid single found
    refine ⟨close, first, ?_, ?_, by simp [closed]⟩
    · simp only [closed, found, content, Option.getD_some]
    · simp only [closed, found, line, Option.getD_some]
  case ofUnclosed =>
    intro unclosed
    simp only [occurrence] at unclosed ⊢
    rw [trailing_token, ← regionBody_eq_said]
    have kept : trimEnd (regionOf piece.gap) <+: piece.gap :=
      (prefix_trimEnd _).trans (prefix_regionOf _)
    have endLine :
        lineAt ((piece.token passed later).stop + byteSize (trimEnd (regionOf piece.gap)))
          (passed ++ textOf (piece :: later)) = _ := lineAt_kept single kept
    simp only [unclosed, if_true]
    exact ⟨trivial, _, rfl, endLine.symm, rfl⟩
  case ofBare =>
    intro bare
    simp only [occurrence] at bare ⊢
    rw [trailing_token, ← regionBody_eq_said]
    simp [bare]

theorem occurrences_read (options : ScanOptions) (file : String) {pieces : List Piece}
    (laid : Laid pieces) (passed : List Char) :
    List.Forall₂ (fun (opening : Token × List Token) o =>
        options.Reads file (passed ++ textOf pieces) opening.1 opening.2 o)
      (Token.openings (tokens (byteSize passed) (1 + passed.count '\n') pieces))
      (options.occurrences file (byteSize passed) (1 + passed.count '\n') pieces) := by
  induction laid generalizing passed with
  | nil => exact .nil
  | @cons piece later written absent laid induction =>
      have single := written.newline_not_mem
      have here := options.occurrence_reads file passed laid single
      have next := induction (passed ++ (piece.text ++ piece.gap))
      obtain ⟨pos, line⟩ := behind_eq single passed
      rw [← pos, ← line, List.append_assoc, List.append_assoc, ← textOf_cons] at next
      simp only [tokens, occurrences, Token.openings]
      split
      next => exact next
      next => exact .cons here next

theorem forall₂_reads_scan (options : ScanOptions) (file content : String) :
    List.Forall₂ (fun (opening : Token × List Token) o =>
        options.Reads file content.toList opening.1 opening.2 o)
      (Token.openings (tokenize content.toList)) (options.scan file content) := by
  obtain ⟨layout, whole⟩ := Layout.exists_layout content.toList
  obtain rfl : content = String.ofList layout.text := by rw [whole, String.ofList_toList]
  rw [options.scan_layout, String.toList_ofList, tokenize_text]
  exact options.occurrences_read file layout.laid layout.lead

/-- A scan reads one occurrence off every opening token, in their order, as a search forward
does; for looking up the closing tokens finds what such a search finds. -/
theorem scan_reads (options : ScanOptions) (file content : String) :
    let tokens := tokenize content.toList
    List.Forall₂ (fun (opening : Token × List Token) o =>
        options.Reads file content.toList opening.1 opening.2 o)
      (Token.openings tokens) (options.scan file content) ∧
    ∀ (name : List Char) (place : Nat),
      ((Closings.ofTokens tokens).next? (String.ofList name) place).bind (fun i => tokens[i]?) =
        (tokens.drop place).find? (Token.closes name) := by
  intro tokens
  exact ⟨options.forall₂_reads_scan file content,
    fun name place => Closings.next?_ofTokens tokens name place⟩

end ScanOptions

end TagAudit
