import Mathlib.Data.List.Forall2
import TagAudit.Proofs.Marker.Positions

/-! Texts one below the other.  What a text says does not depend on the lines above it, and
the lines below it change nothing for a tag that is closed or stands alone. -/

namespace TagAudit

open Text Marker

namespace Token

def followed (rest : List Char) (token : Token) : Token :=
  { token with after := token.after ++ rest }

def below (above : List Char) (token : Token) : Token :=
  { token with
    start := byteSize above + token.start, stop := byteSize above + token.stop,
    line := above.count '\n' + token.line }

theorem readFrom_below (above cs : List Char) (skip pos line : Nat) :
    readFrom skip (byteSize above + pos) (above.count '\n' + line) cs =
      (readFrom skip pos line cs).map (below above) := by
  induction cs generalizing skip pos line with
  | nil => rfl
  | cons c rest induction =>
      have nextLine :
          (if c = '\n' then above.count '\n' + (line + 1) else above.count '\n' + line) =
          above.count '\n' + if c = '\n' then line + 1 else line := by
        split <;> rfl
      cases skip with
      | succ skip => simp only [readFrom, Nat.add_assoc, nextLine, induction]
      | zero =>
          cases read : read? (c :: rest) with
          | none => simp only [readFrom, read, Nat.add_assoc, nextLine, induction]
          | some found =>
              simp only [readFrom, read, Nat.add_assoc, nextLine, induction, List.map_cons, below]

private theorem absent_above {gap : List Char} {later : List Piece} (laid : Piece.Laid later)
    (absent : Absent gap (Piece.textOf later)) {rest : List Char}
    (apart : Apart (gap ++ Piece.textOf later) rest) :
    Absent gap (Piece.textOf later ++ rest) := by
  cases laid with
  | nil =>
      have alone : Apart ([] ++ gap) rest := by simpa using apart
      exact absent.of_apart alone
  | cons written _ _ =>
      rw [Piece.textOf_cons] at absent ⊢
      rw [List.append_assoc]
      exact absent.of_written written _

private theorem readFrom_textOf_append {pieces : List Piece} (laid : Piece.Laid pieces)
    {rest : List Char} (apart : Apart (Piece.textOf pieces) rest) (pos line : Nat) :
    readFrom 0 pos line (Piece.textOf pieces ++ rest) =
      (Piece.tokens pos line pieces).map (followed rest) ++
        readFrom 0 (pos + byteSize (Piece.textOf pieces))
          (line + (Piece.textOf pieces).count '\n') rest := by
  induction laid generalizing pos line with
  | nil => rfl
  | @cons piece later written absent laid induction =>
      rw [Piece.textOf_cons] at apart
      have gapApart := apart.right
      have step := induction gapApart.right (pos + byteSize piece.text + byteSize piece.gap)
        (line + piece.gap.count '\n')
      have single := List.count_eq_zero_of_not_mem written.newline_not_mem
      rw [Piece.textOf_cons, List.append_assoc, readFrom_written written, List.append_assoc,
        readFrom_absent (absent_above laid absent gapApart), step]
      simp [Piece.tokens, followed, single, Nat.add_assoc]

end Token

theorem tokenize_append_of_apart {above content : List Char} (apart : Apart above content) :
    tokenize (above ++ content) =
      (tokenize above).map (Token.followed content) ++
        (tokenize content).map (Token.below above) := by
  obtain ⟨layout, rfl⟩ := Layout.exists_layout above
  have absent := Token.absent_above layout.laid layout.absent apart
  have behind := Token.readFrom_below layout.text content 0 0 1
  rw [tokenize_text, tokenize, tokenize, ← behind, Layout.text, List.append_assoc,
    Token.readFrom_absent absent, Token.readFrom_textOf_append layout.laid apart.right]
  simp [Layout.tokens, Nat.add_assoc, Nat.add_comm 1]

theorem tokenize_append {above : List Char} (ends : EndsLine above) (content : List Char) :
    tokenize (above ++ content) =
      (tokenize above).map (Token.followed content) ++
        (tokenize content).map (Token.below above) :=
  tokenize_append_of_apart (.inl ends)

theorem tokenize_written {before text : List Char} {m : Marker} (plain : '<' ∉ before)
    (written : Written m text) (rest : List Char) :
    tokenize (before ++ (text ++ rest)) =
      ⟨m, byteSize before, byteSize (before ++ text), 1 + before.count '\n', rest⟩ ::
        (tokenize rest).map (Token.below (before ++ text)) := by
  have single := List.count_eq_zero_of_not_mem written.newline_not_mem
  have behind := Token.readFrom_below (before ++ text) rest 0 0 1
  have line : (before ++ text).count '\n' + 1 = 1 + before.count '\n' := by
    rw [List.count_append, single, Nat.add_zero, Nat.add_comm]
  rw [Nat.add_zero, line] at behind
  rw [tokenize, Token.readFrom_absent (absent_of_not_mem plain _),
    Token.readFrom_written written, Nat.zero_add, ← byteSize_append, behind, tokenize]

def Occurrence.below (above : List Char) (o : Occurrence) : Occurrence :=
  { o with
    startLine := above.count '\n' + o.startLine, endLine := above.count '\n' + o.endLine,
    openOffset := byteSize above + o.openOffset,
    insertOffset := o.insertOffset.map (byteSize above + ·) }

theorem exists_right_of_mem {α β : Type} {R : α → β → Prop} {as : List α} {bs : List β}
    (related : List.Forall₂ R as bs) {a : α} (member : a ∈ as) : ∃ b ∈ bs, R a b := by
  induction related with
  | nil => cases member
  | cons here _ induction =>
      rcases List.mem_cons.mp member with rfl | member
      · exact ⟨_, .head _, here⟩
      · obtain ⟨b, found, holds⟩ := induction member
        exact ⟨b, .tail _ found, holds⟩

/-- What becomes of an occurrence when more text stands below: the same when its tag is closed
or stands alone. -/
structure Occurrence.Kept (o o' : Occurrence) : Prop where
  openOffset : o'.openOffset = o.openOffset
  settled : o.closure = .closed ∨ o.closure = .marker → o' = o

theorem Occurrence.eq_of_settled {occurrences front : List Occurrence}
    (kept : List.Forall₂ Kept occurrences front)
    (settled : ∀ o ∈ occurrences, o.closure = .closed ∨ o.closure = .marker) :
    front = occurrences := by
  induction kept with
  | nil => rfl
  | cons here _ induction =>
      obtain ⟨first, later⟩ := List.forall_mem_cons.mp settled
      rw [here.settled first, induction later]

namespace ScanOptions

variable (options : ScanOptions) (file : String)

/-! The lines above. -/

theorem describe_below (above : List Char) (token : Token) (close? next? : Option Token) :
    options.describe file (token.below above) (close?.map (Token.below above))
        (next?.map (Token.below above)) =
      (options.describe file token close? next?).below above := by
  have named : (token.below above).name = token.name := rfl
  simp only [describe, named]
  split
  next => rfl
  next =>
    cases close? with
    | some close =>
        simp [Token.below, Occurrence.below, Nat.add_sub_add_left]
    | none =>
        cases next? with
        | some next =>
            simp only [Option.map_some, Option.map_none, Token.below, Nat.add_sub_add_left]
            split <;> simp [Occurrence.below, Nat.add_assoc]
        | none =>
            simp only [Option.map_none, Token.below]
            split <;> simp [Occurrence.below, Nat.add_assoc, *]

theorem resolveAll_below (above : List Char) (tokens : List Token) :
    options.resolveAll file (tokens.map (Token.below above)) =
      (options.resolveAll file tokens).map (Occurrence.below above) := by
  induction tokens with
  | nil => rfl
  | cons token later induction =>
      have closes : (later.map (Token.below above)).find? (Token.closes token.marker.name) =
          (later.find? (Token.closes token.marker.name)).map (Token.below above) :=
        List.find?_map
      have marker : (token.below above).marker = token.marker := rfl
      rw [List.map_cons, resolveAll, resolveAll, marker, induction]
      split
      next => rfl
      next =>
        rw [resolve, marker, closes, List.head?_map, describe_below]
        rfl

/-! The lines below. -/

theorem describe_openOffset (token : Token) (close? next? : Option Token) :
    (options.describe file token close? next?).openOffset = token.start := by
  simp only [describe]
  split
  next => rfl
  next =>
    cases close? with
    | some close => rfl
    | none => cases next? <;> simp only <;> split <;> rfl

theorem describe_unclosed {token : Token} (primary : ¬ options.isDimension token.name = true)
    (next? : Option Token) :
    (options.describe file token none next?).closure = .unclosed ∨
      (options.describe file token none next?).closure = .bare := by
  cases next? <;> simp only [describe, if_neg primary] <;> split <;> simp

/-- The text up to the token that closes is the same whatever stands below. -/
theorem describe_followed (rest : List Char) {token : Token} {close? close?' : Option Token}
    (inside : ∀ close ∈ close?, close.start ≤ token.stop + byteSize token.after)
    (found : ∀ close ∈ close?, close.followed rest ∈ close?') (next? next?' : Option Token) :
    Occurrence.Kept (options.describe file token close? next?)
      (options.describe file (token.followed rest) close?' next?') where
  openOffset := by
    rw [describe_openOffset, describe_openOffset]
    rfl
  settled settled := by
    have named : (token.followed rest).name = token.name := rfl
    by_cases dimension : options.isDimension token.name = true
    · simp only [describe, named, if_pos dimension]
      rfl
    · cases close? with
      | some close =>
          obtain rfl : close?' = some (close.followed rest) := found close rfl
          have reach : close.start - token.stop ≤ byteSize token.after := by
            have := inside close rfl
            omega
          simp only [describe, named, if_neg dimension]
          simp [Token.followed, takeBytes_append_of_le reach]
      | none =>
          rcases options.describe_unclosed file dimension next? with open_ | open_ <;>
            simp [open_] at settled

theorem resolve_followed (rest : List Char) {token : Token} {later : List Token}
    (inside : ∀ close ∈ later, close.start ≤ token.stop + byteSize token.after)
    (more : List Token) :
    Occurrence.Kept (options.resolve file token later)
      (options.resolve file (token.followed rest) (later.map (Token.followed rest) ++ more)) := by
  refine options.describe_followed file rest (fun close found => ?_) (fun close found => ?_) _ _
  · exact inside close (List.mem_of_find?_eq_some found)
  · have same : Token.closes token.marker.name ∘ Token.followed rest =
        Token.closes token.marker.name := rfl
    simp [Token.followed, same, Option.mem_def.mp found, List.find?_append, List.find?_map]

theorem resolveAll_followed (rest : List Char) {above : List Char} {tokens : List Token}
    (sited : ∀ token ∈ tokens, token.Sited above) (more : List Token) :
    ∃ front, List.Forall₂ Occurrence.Kept (options.resolveAll file tokens) front ∧
      options.resolveAll file (tokens.map (Token.followed rest) ++ more) =
        front ++ options.resolveAll file more := by
  induction tokens with
  | nil => exact ⟨[], .nil, rfl⟩
  | cons token later induction =>
      obtain ⟨here, behind⟩ := List.forall_mem_cons.mp sited
      obtain ⟨front, kept, split⟩ := induction behind
      have marker : (token.followed rest).marker = token.marker := rfl
      rw [List.map_cons, List.cons_append, resolveAll, resolveAll, marker, split]
      by_cases closing : token.marker.closing = true
      · rw [if_pos closing, if_pos closing]
        exact ⟨front, kept, rfl⟩
      · rw [if_neg closing, if_neg closing]
        have inside : ∀ close ∈ later, close.start ≤ token.stop + byteSize token.after := by
          intro close member
          rw [here.stop_eq]
          exact Nat.le_of_lt (behind close member).start_lt
        exact ⟨_, .cons (options.resolve_followed file rest inside more) kept, rfl⟩

theorem exists_token_of_mem {tokens : List Token} {o : Occurrence}
    (member : o ∈ options.resolveAll file tokens) :
    ∃ token ∈ tokens, o.openOffset = token.start := by
  induction tokens with
  | nil => simp [resolveAll] at member
  | cons token later induction =>
      rw [resolveAll] at member
      split at member
      next =>
        obtain ⟨found, behind, offset⟩ := induction member
        exact ⟨found, .tail _ behind, offset⟩
      next =>
        rcases List.mem_cons.mp member with rfl | member
        · exact ⟨token, .head _, options.describe_openOffset file _ _ _⟩
        · obtain ⟨found, behind, offset⟩ := induction member
          exact ⟨found, .tail _ behind, offset⟩

variable {above : List Char}

theorem exists_resolveAll_append (ends : EndsLine above) (content : List Char) :
    ∃ front, List.Forall₂ Occurrence.Kept (options.resolveAll file (tokenize above)) front ∧
      options.resolveAll file (tokenize (above ++ content)) =
        front ++ (options.resolveAll file (tokenize content)).map (Occurrence.below above) := by
  have sited : ∀ token ∈ tokenize above, token.Sited above :=
    fun token => sited_of_mem_tokenize
  obtain ⟨front, kept, split⟩ := options.resolveAll_followed file content sited
    ((tokenize content).map (Token.below above))
  exact ⟨front, kept, by rw [tokenize_append ends, split, resolveAll_below]⟩

theorem resolveAll_append_of_settled (ends : EndsLine above)
    (settled : ∀ o ∈ options.resolveAll file (tokenize above),
      o.closure = .closed ∨ o.closure = .marker) (content : List Char) :
    options.resolveAll file (tokenize (above ++ content)) =
      options.resolveAll file (tokenize above) ++
        (options.resolveAll file (tokenize content)).map (Occurrence.below above) := by
  obtain ⟨front, kept, split⟩ := options.exists_resolveAll_append file ends content
  rw [split, Occurrence.eq_of_settled kept settled]

/-- Whatever stands above a text, opening tags, stray closing ones or unfinished markers, its
occurrences are the same, so much further down; and those above that are closed or stand alone
stay as they were. -/
theorem scan_append {above : String} (ends : EndsLine above.toList) (content : String) :
    (options.scan file (above ++ content)).filter
        (fun o => byteSize above.toList ≤ o.openOffset) =
      (options.scan file content).map (Occurrence.below above.toList) ∧
    ∀ o ∈ options.scan file above, o.closure = .closed ∨ o.closure = .marker →
      o ∈ options.scan file (above ++ content) := by
  obtain ⟨front, kept, split⟩ := options.exists_resolveAll_append file ends content.toList
  rw [scan_eq, scan_eq, scan_eq, String.toList_append, split]
  constructor
  · have ahead : ∀ o ∈ front, ¬ byteSize above.toList ≤ o.openOffset := by
      intro o member
      obtain ⟨origin, found, kept⟩ := exists_right_of_mem kept.flip member
      obtain ⟨token, member, offset⟩ := options.exists_token_of_mem file found
      rw [kept.openOffset, offset, Nat.not_le]
      exact (sited_of_mem_tokenize member).start_lt
    rw [List.filter_append, List.filter_eq_nil_iff.mpr (by simpa using ahead), List.nil_append,
      List.filter_eq_self]
    simp [Occurrence.below]
  · intro o member settled
    obtain ⟨o', found, kept⟩ := exists_right_of_mem kept member
    exact List.mem_append_left _ (kept.settled settled ▸ found)

theorem scan_append_unfinished :
    let above := "<!--TAG:a-->\n<!--/TAG:b-->\n# <!--TAG:type:x-->\n<!--TAG:b\n"
    let content := "text <!--TAG:b--> more <!--/TAG:a-->"
    EndsLine above.toList ∧
    (ScanOptions.default.scan "a.md" (above ++ content)).filter
        (fun o => byteSize above.toList ≤ o.openOffset) =
      (ScanOptions.default.scan "a.md" content).map (Occurrence.below above.toList) ∧
    ∀ o ∈ ScanOptions.default.scan "a.md" above, o.closure = .closed ∨ o.closure = .marker →
      o ∈ ScanOptions.default.scan "a.md" (above ++ content) := by
  intro above content
  have ends : EndsLine above.toList :=
    .inr ⟨"<!--TAG:a-->\n<!--/TAG:b-->\n# <!--TAG:type:x-->\n<!--TAG:b".toList, by decide⟩
  exact ⟨ends, ScanOptions.default.scan_append "a.md" ends content⟩

end ScanOptions

end TagAudit
