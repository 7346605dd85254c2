import TagAudit.Proofs.Marker.Layout
import TagAudit.Proofs.Marker.Pairing

/-! The occurrences of a text, read off its layout: how a tag ends depends on the closing
markers behind it and on the gap that follows its opening marker, and on nothing else. -/

namespace TagAudit

open Text Marker

namespace Piece

def name (piece : Piece) : String :=
  String.ofList piece.marker.name

def closes (name : List Char) (piece : Piece) : Bool :=
  piece.marker.closing && piece.marker.name == name

/-- The text of pieces before the first one that closes `name`. -/
def textBefore? (name : List Char) : List Piece → Option (List Char)
  | [] => none
  | piece :: later =>
      if piece.closes name then some []
      else (textBefore? name later).map fun text => piece.text ++ (piece.gap ++ text)

theorem textBefore?_isSome (name : List Char) (pieces : List Piece) :
    (textBefore? name pieces).isSome = pieces.any (closes name) := by
  induction pieces with
  | nil => rfl
  | cons piece later induction =>
      by_cases ends : piece.closes name = true
      · simp [textBefore?, ends]
      · simp [textBefore?, ends, induction]

theorem textBefore?_prefix {name : List Char} {pieces : List Piece} {text : List Char}
    (found : textBefore? name pieces = some text) : text <+: textOf pieces := by
  induction pieces generalizing text with
  | nil => simp [textBefore?] at found
  | cons piece later induction =>
      by_cases ends : piece.closes name = true
      · simp only [textBefore?, ends, if_true, Option.some.injEq] at found
        exact found ▸ List.nil_prefix
      · simp only [textBefore?, ends, Bool.false_eq_true, if_false,
          Option.map_eq_some_iff] at found
        obtain ⟨tail, found, rfl⟩ := found
        obtain ⟨rest, split⟩ := induction found
        exact ⟨rest, by simp [← split]⟩

end Piece

namespace ScanOptions

/-- How the tag that `piece` opens ends when `later` follow. -/
def closureOf (options : ScanOptions) (piece : Piece) (later : List Piece) : Closure :=
  if options.isDimension piece.name then .marker
  else if later.any (Piece.closes piece.marker.name) then .closed
  else if (regionBody (regionOf piece.gap)).length > options.threshold then .unclosed
  else .bare

def kindOf (options : ScanOptions) (name : String) : TagKind :=
  if options.isDimension name then .dimension else .primary

def occurrence (options : ScanOptions) (file : String) (pos line : Nat) (piece : Piece)
    (later : List Piece) : Occurrence :=
  let kept := trimEnd (regionOf piece.gap)
  let body := regionBody (regionOf piece.gap)
  let closure := options.closureOf piece later
  let covered := piece.gap ++ (Piece.textBefore? piece.marker.name later).getD []
  { tag := piece.name, file := file, startLine := line,
    endLine := match closure with
      | .closed => line + covered.count '\n'
      | .unclosed => line + kept.count '\n'
      | _ => line,
    content := match closure with
      | .marker => ""
      | .closed => String.ofList (trim covered)
      | _ => String.ofList body,
    kind := options.kindOf piece.name, closure := closure, openOffset := pos,
    insertOffset :=
      if closure = .unclosed then some (pos + byteSize piece.text + byteSize kept) else none }

def occurrences (options : ScanOptions) (file : String) (pos line : Nat) :
    List Piece → List Occurrence
  | [] => []
  | piece :: later =>
      let next := options.occurrences file (pos + byteSize piece.text + byteSize piece.gap)
        (line + piece.gap.count '\n') later
      if piece.marker.closing then next
      else options.occurrence file pos line piece later :: next

end ScanOptions

namespace Piece

theorem find?_tokens {pieces : List Piece} (laid : Laid pieces) (name : List Char)
    (pos line : Nat) :
    match textBefore? name pieces with
    | none => (tokens pos line pieces).find? (Token.closes name) = none
    | some text => ∃ token, token.start = pos + byteSize text ∧
        token.line = line + text.count '\n' ∧
        (tokens pos line pieces).find? (Token.closes name) = some token := by
  induction laid generalizing pos line with
  | nil => rfl
  | @cons piece later written absent laid induction =>
      by_cases ends : (piece.marker.closing && piece.marker.name == name) = true
      · simp [textBefore?, closes, Token.closes, tokens, ends]
      · have single := List.count_eq_zero_of_not_mem written.newline_not_mem
        have step := induction (pos + byteSize piece.text + byteSize piece.gap)
          (line + piece.gap.count '\n')
        simp only [textBefore?, closes, Token.closes, ends, tokens, List.find?_cons] at step ⊢
        cases found : textBefore? name later with
        | none => simpa [found] using step
        | some text =>
            simp only [found] at step
            obtain ⟨token, start, tokenLine, step⟩ := step
            refine ⟨token, ?_, ?_, step⟩
            · simp [start, Nat.add_assoc]
            · simp [tokenLine, single, Nat.add_assoc]

end Piece

namespace ScanOptions

open Piece

theorem resolve_piece (options : ScanOptions) (file : String) (pos line : Nat) (piece : Piece)
    {later : List Piece} (laid : Laid later) :
    options.resolve file
        ⟨piece.marker, pos, pos + byteSize piece.text, line, piece.gap ++ textOf later⟩
        (tokens (pos + byteSize piece.text + byteSize piece.gap) (line + piece.gap.count '\n')
          later) =
      options.occurrence file pos line piece later := by
  have search := find?_tokens laid piece.marker.name
    (pos + byteSize piece.text + byteSize piece.gap) (line + piece.gap.count '\n')
  have closed := textBefore?_isSome piece.marker.name later
  by_cases dimension : options.isDimension (String.ofList piece.marker.name) = true
  · simp [resolve, describe, occurrence, closureOf, kindOf, Piece.name, Token.name, dimension]
  · cases found : textBefore? piece.marker.name later with
    | none =>
        simp only [found, Option.isSome_none] at search closed
        -- The text up to the next marker is the gap, also when there is no next marker.
        have between : options.resolve file
            ⟨piece.marker, pos, pos + byteSize piece.text, line, piece.gap ++ textOf later⟩
            (tokens (pos + byteSize piece.text + byteSize piece.gap)
              (line + piece.gap.count '\n') later) =
            options.resolve file ⟨piece.marker, pos, pos + byteSize piece.text, line, piece.gap⟩
              [] := by
          cases later with
          | nil => simp [resolve, describe, Token.name, dimension, tokens]
          | cons next later =>
              simp only [tokens] at search
              simp only [resolve, describe, Token.name, dimension, tokens, search]
              simp
        rw [between]
        by_cases substantial : (regionBody (regionOf piece.gap)).length > options.threshold <;>
          simp [resolve, describe, occurrence, closureOf, kindOf, Piece.name, Token.name,
            dimension, ← closed, substantial]
    | some text =>
        simp only [found, Option.isSome_some] at search closed
        obtain ⟨token, start, tokenLine, search⟩ := search
        obtain ⟨rest, split⟩ := textBefore?_prefix found
        have covered : token.start - (pos + byteSize piece.text) =
            byteSize (piece.gap ++ text) := by
          rw [start, byteSize_append]
          omega
        simp only [resolve, describe, Token.name, dimension, search, covered, ← split]
        rw [← List.append_assoc, takeBytes_append]
        simp [occurrence, closureOf, kindOf, Piece.name, dimension, ← closed, found, tokenLine,
          Nat.add_assoc]

theorem resolveAll_tokens (options : ScanOptions) (file : String) {pieces : List Piece}
    (laid : Laid pieces) (pos line : Nat) :
    options.resolveAll file (tokens pos line pieces) =
      options.occurrences file pos line pieces := by
  induction laid generalizing pos line with
  | nil => rfl
  | @cons piece later written absent laid induction =>
      have step := induction (pos + byteSize piece.text + byteSize piece.gap)
        (line + piece.gap.count '\n')
      simp only [tokens, resolveAll, occurrences, step,
        resolve_piece options file pos line piece laid]

theorem occurrences_append (options : ScanOptions) (file : String) {front : List Piece}
    (single : ∀ piece ∈ front, '\n' ∉ piece.text) (rest : List Piece) (pos line : Nat) :
    ∃ found, found.length = front.countP (fun piece => !piece.marker.closing) ∧
      options.occurrences file pos line (front ++ rest) =
        found ++ options.occurrences file (pos + byteSize (textOf front))
          (line + (textOf front).count '\n') rest := by
  induction front generalizing pos line with
  | nil => exact ⟨[], rfl, rfl⟩
  | cons piece front induction =>
      obtain ⟨here, single⟩ := List.forall_mem_cons.mp single
      have none := List.count_eq_zero_of_not_mem here
      obtain ⟨found, size, split⟩ := induction single
        (pos + byteSize piece.text + byteSize piece.gap) (line + piece.gap.count '\n')
      simp only [Nat.add_assoc] at split
      simp only [List.cons_append, occurrences, Nat.add_assoc, split, textOf_cons,
        byteSize_append, List.count_append, none, Nat.zero_add]
      by_cases ends : piece.marker.closing = true
      · exact ⟨found, by simp [ends, size], by simp [ends]⟩
      · exact ⟨options.occurrence file pos line piece (front ++ rest) :: found,
          by simp [ends, size], by simp [ends]⟩

theorem getElem?_occurrences (options : ScanOptions) (file : String) {front : List Piece}
    (single : ∀ piece ∈ front, '\n' ∉ piece.text) {piece : Piece}
    (opens : piece.marker.closing = false) (later : List Piece) (pos line : Nat) :
    (options.occurrences file pos line (front ++ piece :: later))[front.countP fun piece =>
        !piece.marker.closing]? =
      some (options.occurrence file (pos + byteSize (textOf front))
        (line + (textOf front).count '\n') piece later) := by
  obtain ⟨found, size, split⟩ := options.occurrences_append file single (piece :: later) pos line
  rw [split, ← size, List.getElem?_append_right (Nat.le_refl _)]
  simp [occurrences, opens]

theorem exists_piece_of_mem {options : ScanOptions} {file : String} {pieces : List Piece}
    (single : ∀ piece ∈ pieces, '\n' ∉ piece.text) {pos line : Nat} {o : Occurrence}
    (member : o ∈ options.occurrences file pos line pieces) :
    ∃ front piece later, pieces = front ++ piece :: later ∧ piece.marker.closing = false ∧
      o = options.occurrence file (pos + byteSize (textOf front))
        (line + (textOf front).count '\n') piece later := by
  induction pieces generalizing pos line with
  | nil => simp [occurrences] at member
  | cons first rest induction =>
      obtain ⟨here, single⟩ := List.forall_mem_cons.mp single
      have none := List.count_eq_zero_of_not_mem here
      have further (member : o ∈ options.occurrences file
          (pos + byteSize first.text + byteSize first.gap) (line + first.gap.count '\n') rest) :
          ∃ front piece later, first :: rest = front ++ piece :: later ∧
            piece.marker.closing = false ∧
            o = options.occurrence file (pos + byteSize (textOf front))
              (line + (textOf front).count '\n') piece later := by
        obtain ⟨front, piece, later, split, opens, found⟩ := induction single member
        exact ⟨first :: front, piece, later, by simp [split], opens,
          by simp [found, none, Nat.add_assoc]⟩
      by_cases ends : first.marker.closing = true
      · simp only [occurrences, ends, if_true] at member
        exact further member
      · simp only [occurrences, ends, Bool.false_eq_true, if_false, List.mem_cons] at member
        rcases member with found | member
        · exact ⟨[], first, rest, rfl, by simpa using ends, by simpa using found⟩
        · exact further member

theorem scan_layout (options : ScanOptions) (file : String) (layout : Layout) :
    options.scan file (String.ofList layout.text) =
      options.occurrences file (byteSize layout.lead) (1 + layout.lead.count '\n')
        layout.pieces := by
  rw [scan_eq, String.toList_ofList, tokenize_text]
  exact resolveAll_tokens options file layout.laid _ _

theorem exists_piece_of_mem_scan {options : ScanOptions} {file content : String} {o : Occurrence}
    (member : o ∈ options.scan file content) :
    ∃ (layout : Layout) (front : List Piece) (piece : Piece) (later : List Piece),
      content = String.ofList layout.text ∧ layout.pieces = front ++ piece :: later ∧
      o = options.occurrence file (byteSize (layout.lead ++ textOf front))
        (1 + (layout.lead ++ textOf front).count '\n') piece later := by
  obtain ⟨layout, whole⟩ := Layout.exists_layout content.toList
  obtain rfl : content = String.ofList layout.text := by rw [whole, String.ofList_toList]
  rw [options.scan_layout] at member
  obtain ⟨front, piece, later, split, -, found⟩ :=
    exists_piece_of_mem layout.laid.newline_not_mem member
  exact ⟨layout, front, piece, later, rfl, split, by simp [found, Nat.add_assoc]⟩

end ScanOptions

/-! What a tag says before anything is known of the text that follows it. -/

def Occurrence.head (o : Occurrence) : String × TagKind :=
  (o.tag, o.kind)

namespace ScanOptions

def heads (options : ScanOptions) (markers : List Marker) : List (String × TagKind) :=
  (markers.filter fun m => !m.closing).map fun m =>
    (String.ofList m.name, options.kindOf (String.ofList m.name))

@[simp] theorem heads_append (options : ScanOptions) (markers later : List Marker) :
    options.heads (markers ++ later) = options.heads markers ++ options.heads later := by
  simp [heads]

private theorem map_head_occurrences (options : ScanOptions) (file : String) (pos line : Nat)
    (pieces : List Piece) :
    (options.occurrences file pos line pieces).map Occurrence.head =
      options.heads (pieces.map Piece.marker) := by
  induction pieces generalizing pos line with
  | nil => rfl
  | cons piece later induction =>
      cases closes : piece.marker.closing with
      | true => simp [occurrences, closes, induction, heads]
      | false =>
          simp [occurrences, closes, induction, heads, Occurrence.head, occurrence, Piece.name]

theorem map_head_scan (options : ScanOptions) (file : String) (layout : Layout) :
    (options.scan file (String.ofList layout.text)).map Occurrence.head =
      options.heads (layout.pieces.map Piece.marker) := by
  rw [scan_layout, map_head_occurrences]

end ScanOptions

end TagAudit
