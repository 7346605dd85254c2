import TagAudit.Proofs.Marker.Readings

/-! Lines that say nothing, put between two lines of the region behind a tag.  They add nothing
to what the region says but their line feeds, and these only where the region says something on
both sides of them. -/

namespace TagAudit

open Text Marker

/-- A line with nothing but indentation and a comment marker, or nothing but blanks. -/
structure TrivialLine (line : List Char) : Prop where
  single : '\n' ∉ line
  parts : ∃ indent marker ends, line = indent ++ (marker ++ ends) ∧
    (marker = [] ∨ marker ∈ commentMarkers) ∧
    (∀ c ∈ indent, isBlank c = true) ∧ ∀ c ∈ ends, isBlank c = true

def linesText (lines : List (List Char)) : List Char :=
  lines.flatMap fun line => line ++ ['\n']

def spoken (region : List Char) : List (List Char) :=
  (lines region).map fun line => trimEnd (stripCommentMarker line)

theorem regionBody_eq (region : List Char) : regionBody region = trim (joinLines (spoken region)) :=
  rfl

theorem spoken_append_newline (a b : List Char) :
    spoken (a ++ '\n' :: b) = spoken (a ++ ['\n']) ++ spoken b := by
  simp only [spoken, lines, linesWithEnds_append_newline a b, List.map_append]

theorem spoken_newline_ne_nil (a : List Char) : spoken (a ++ ['\n']) ≠ [] := by
  intro empty
  simp only [spoken, lines, List.map_eq_nil_iff] at empty
  simpa using linesWithEnds_eq_nil empty

namespace TrivialLine

theorem stripped {line : List Char} (nothing : TrivialLine line) :
    trimEnd (stripCommentMarker line) = [] := by
  obtain ⟨indent, marker, ends, rfl, known, indentBlank, endsBlank⟩ := nothing.parts
  have bare : trimEnd (stripCommentMarker marker) = [] := by
    simp only [commentMarkers, List.mem_cons, List.not_mem_nil, or_false] at known
    rcases known with rfl | rfl | rfl | rfl | rfl <;> rfl
  rw [stripCommentMarker, trimStart_of_blanks_append indentBlank, ← stripCommentMarker,
    trimEnd_stripCommentMarker marker endsBlank, bare]

theorem spoken_newline {line : List Char} (nothing : TrivialLine line) :
    spoken (line ++ ['\n']) = [[]] := by
  rw [spoken, lines, linesWithEnds_concat_newline nothing.single, List.map_singleton,
    List.map_singleton,
    chomp_concat line nothing.single '\n' rfl, chomp_of_newline_not_mem nothing.single,
    nothing.stripped]

theorem lt_not_mem {line : List Char} (nothing : TrivialLine line) : '<' ∉ line := by
  obtain ⟨indent, marker, ends, rfl, known, indentBlank, endsBlank⟩ := nothing.parts
  have visible {blanks : List Char} (blank : ∀ c ∈ blanks, isBlank c = true) : '<' ∉ blanks :=
    fun member => absurd (blank '<' member) (by decide)
  have plain : '<' ∉ marker := by
    rcases known with rfl | known
    · simp
    · exact lt_not_mem_of_mem_commentMarkers marker known
  simp only [List.mem_append, not_or]
  exact ⟨visible indentBlank, plain, visible endsBlank⟩

end TrivialLine

theorem spoken_linesText {inserted : List (List Char)}
    (nothing : ∀ line ∈ inserted, TrivialLine line) (below : List Char) :
    spoken (linesText inserted ++ below) = List.replicate inserted.length [] ++ spoken below := by
  induction inserted with
  | nil => rfl
  | cons line more induction =>
      obtain ⟨here, nothing⟩ := List.forall_mem_cons.mp nothing
      have split :
          linesText (line :: more) ++ below = line ++ '\n' :: (linesText more ++ below) := by
        simp [linesText]
      rw [split, spoken_append_newline, here.spoken_newline, induction nothing, List.length_cons,
        List.replicate_succ, List.cons_append, List.cons_append, List.nil_append]

variable {inserted : List (List Char)}

/-- The lines that say nothing are counted where the region says something above and below
them, by their line feeds. -/
theorem length_regionBody_linesText (nothing : ∀ line ∈ inserted, TrivialLine line)
    (above below : List Char) :
    (regionBody (above ++ '\n' :: (linesText inserted ++ below))).length =
      (regionBody (above ++ '\n' :: below)).length +
        if regionBody above ≠ [] ∧ regionBody below ≠ [] then inserted.length else 0 := by
  let head := joinLines (spoken (above ++ ['\n']))
  let tail := if spoken below = [] then [] else '\n' :: joinLines (spoken below)
  have newlines (n : Nat) : ∀ c ∈ List.replicate n '\n', isBlank c = true := fun c member =>
    List.eq_of_mem_replicate member ▸ rfl
  have whole {lines : List (List Char)} (nothing : ∀ line ∈ lines, TrivialLine line) :
      regionBody (above ++ '\n' :: (linesText lines ++ below)) =
        trim (head ++ (List.replicate lines.length '\n' ++ tail)) := by
    rw [regionBody_eq, spoken_append_newline, spoken_linesText nothing,
      joinLines_append_empties (spoken_newline_ne_nil above)]
  have plain : regionBody (above ++ '\n' :: below) =
      trim (head ++ (List.replicate 0 '\n' ++ tail)) := by
    have none := whole (List.forall_mem_nil TrivialLine)
    rwa [linesText, List.flatMap_nil, List.nil_append] at none
  have headBody : trim head = regionBody above :=
    regionBody_append_blanks above (List.forall_mem_singleton.mpr rfl)
  have tailBody : trim tail = regionBody below := by
    rw [regionBody_eq]
    by_cases empty : spoken below = []
    · simp [tail, empty, joinLines]
    · simp only [tail, if_neg empty]
      exact congrArg trimEnd (trimStart_of_blanks_append (List.forall_mem_singleton.mpr rfl) _)
  rw [whole nothing, plain, trim_append_blanks_append _ _ (newlines _),
    trim_append_blanks_append _ _ (newlines _), headBody, tailBody]
  by_cases aboveSays : regionBody above = []
  · simp [aboveSays]
  · by_cases belowSays : regionBody below = []
    · simp [aboveSays, belowSays]
    · simp [aboveSays, belowSays]
      omega

theorem endsLine_linesText (lines : List (List Char)) : EndsLine (linesText lines) := by
  induction lines with
  | nil => exact .inl rfl
  | cons line more induction =>
      have whole : linesText (line :: more) = (line ++ ['\n']) ++ linesText more := rfl
      exact whole ▸ .append (.inr ⟨line, rfl⟩) induction

theorem lt_not_mem_linesText (nothing : ∀ line ∈ inserted, TrivialLine line) :
    '<' ∉ linesText inserted := by
  intro member
  obtain ⟨line, inside, member⟩ := List.mem_flatMap.mp member
  rcases List.mem_append.mp member with member | member
  · exact (nothing line inside).lt_not_mem member
  · simp at member

/-- Lines without markers can be put into a gap wherever a line of it ends. -/
theorem Marker.Absent.insert {above below rest : List Char}
    (absent : Absent (above ++ '\n' :: below) rest) {more : List Char} (plain : '<' ∉ more) :
    Absent (above ++ '\n' :: (more ++ below)) rest := by
  obtain ⟨head, tail⟩ := absent_append.mp absent
  rw [absent_append, ← List.singleton_append, absent_append, absent_append]
  exact ⟨head.newline _, absent_of_not_mem (by decide) _, absent_of_not_mem plain _, tail.2⟩

theorem regionOf_insert {gap above below rest : List Char}
    (whole : gap = (above ++ '\n' :: below) ++ rest)
    (region : regionOf gap = above ++ '\n' :: below)
    {more : List Char} (ends : EndsLine more) :
    regionOf ((above ++ '\n' :: (more ++ below)) ++ rest) = above ++ '\n' :: (more ++ below) := by
  obtain ⟨kept, regions⟩ := exists_regionOf_append (below ++ rest)
  have first := regions above
  have split : gap = above ++ ['\n'] ++ (below ++ rest) := by simp [whole]
  rw [← split, region, List.append_assoc] at first
  obtain rfl : below = kept := by simpa using first
  rcases ends with rfl | ⟨front, rfl⟩
  · rw [List.nil_append, ← whole, region]
  · simpa using regions (above ++ '\n' :: front)

namespace Piece

theorem exists_piece_of_mem_openings {pieces : List Piece}
    (single : ∀ piece ∈ pieces, '\n' ∉ piece.text) {passed : List Char} {token : Token}
    {later : List Token}
    (member : (token, later) ∈
      Token.openings (tokens (byteSize passed) (1 + passed.count '\n') pieces)) :
    ∃ front piece behind, pieces = front ++ piece :: behind ∧ piece.marker.closing = false ∧
      token = piece.token (passed ++ textOf front) behind ∧
      later = piece.tokensBehind (passed ++ textOf front) behind := by
  induction pieces generalizing passed with
  | nil => simp [tokens, Token.openings] at member
  | cons first rest induction =>
      obtain ⟨here, single⟩ := List.forall_mem_cons.mp single
      obtain ⟨pos, line⟩ := behind_eq here passed
      have further (member : (token, later) ∈ Token.openings (tokens
          (byteSize passed + byteSize first.text + byteSize first.gap)
          (1 + passed.count '\n' + first.gap.count '\n') rest)) :
          ∃ front piece behind, first :: rest = front ++ piece :: behind ∧
            piece.marker.closing = false ∧
            token = piece.token (passed ++ textOf front) behind ∧
            later = piece.tokensBehind (passed ++ textOf front) behind := by
        rw [pos, line] at member
        obtain ⟨front, piece, behind, split, opens, found⟩ := induction single member
        exact ⟨first :: front, piece, behind, by simp [split], opens, by simpa using found⟩
      rw [tokens, Token.openings] at member
      split at member
      next => exact further member
      next opens =>
        rcases List.mem_cons.mp member with same | member
        · obtain ⟨rfl, rfl⟩ := Prod.mk.inj same
          exact ⟨[], first, rest, rfl, by simpa using opens, by simp [token], by
            simp [tokensBehind]⟩
        · exact further member

end Piece

theorem Layout.exists_opening {content front region rest : List Char} {token : Token}
    {later : List Token} (opens : (token, later) ∈ Token.openings (tokenize content))
    (split : content = front ++ (region ++ rest)) (begins : byteSize front = token.stop)
    (trailing : token.trailing content later = region) :
    ∃ (layout : Layout) (ahead : List Piece) (piece : Piece) (behind : List Piece)
        (lead : List Char),
      layout.text = content ∧ layout.pieces = ahead ++ piece :: behind ∧
      piece.marker.closing = false ∧
      token = piece.token (layout.lead ++ Piece.textOf ahead) behind ∧
      later = piece.tokensBehind (layout.lead ++ Piece.textOf ahead) behind ∧
      front = layout.lead ++ Piece.textOf ahead ++ piece.text ∧
      piece.gap = region ++ lead ∧ rest = lead ++ Piece.textOf behind ∧
      regionOf piece.gap = region := by
  obtain ⟨layout, rfl⟩ := Layout.exists_layout content
  rw [tokenize_text] at opens
  obtain ⟨ahead, piece, behind, pieces, opening, rfl, rfl⟩ :=
    Piece.exists_piece_of_mem_openings layout.laid.newline_not_mem opens
  have text :
      layout.text = (layout.lead ++ Piece.textOf ahead) ++ Piece.textOf (piece :: behind) := by
    simp [Layout.text, pieces]
  have cut : (layout.lead ++ Piece.textOf ahead ++ piece.text) ++
      (piece.gap ++ Piece.textOf behind) = front ++ (region ++ rest) := by
    rw [← split, text]
    simp
  obtain ⟨rfl, gapRest⟩ :=
    append_inj_of_byteSize cut (by rw [begins, byteSize_append]; rfl)
  rw [text, Piece.trailing_token] at trailing
  obtain ⟨lead, gap⟩ := prefix_regionOf piece.gap
  rw [trailing] at gap
  rw [← gap, List.append_assoc, List.append_cancel_left_eq] at gapRest
  exact ⟨layout, ahead, piece, behind, lead, rfl, pieces, opening, rfl, rfl, rfl, gap.symm,
    gapRest.symm, trailing⟩

theorem Layout.exists_regap (layout : Layout) {front later : List Piece} {piece : Piece}
    (split : layout.pieces = front ++ piece :: later) {gap : List Char}
    (absent : Absent gap (Piece.textOf later)) :
    ∃ longer : Layout, longer.lead = layout.lead ∧
      longer.pieces = front ++ { piece with gap := gap } :: later := by
  have laid := layout.laid
  have lead := layout.absent
  rw [split] at laid lead
  let other : Piece := { piece with gap := gap }
  exact ⟨⟨layout.lead, front ++ other :: later, Piece.absent_replace laid rfl lead,
    laid.replace rfl rfl absent laid.later⟩, rfl, rfl⟩

namespace ScanOptions

open Piece

theorem exists_open_of_layout (options : ScanOptions) (file : String) {layout : Layout}
    {front : List Piece} {piece : Piece} {later : List Piece}
    (split : layout.pieces = front ++ piece :: later) (opens : piece.marker.closing = false)
    (primary : ¬ options.isDimension piece.name = true)
    (unclosed : ¬ later.any (closes piece.marker.name) = true) :
    ∃ o ∈ options.scan file (String.ofList layout.text),
      o.openOffset = byteSize (layout.lead ++ textOf front) ∧
      o.content.length = (regionBody (regionOf piece.gap)).length ∧
      o.closure = if options.threshold < o.content.length then .unclosed else .bare := by
  have single : ∀ piece ∈ front, '\n' ∉ piece.text := fun piece member =>
    layout.laid.newline_not_mem piece (by simp [split, member])
  have found := options.getElem?_occurrences file single opens later (byteSize layout.lead)
    (1 + layout.lead.count '\n')
  rw [← split, ← options.scan_layout] at found
  have content : (options.occurrence file (byteSize layout.lead + byteSize (textOf front))
      (1 + layout.lead.count '\n' + (textOf front).count '\n') piece later).content =
      String.ofList (regionBody (regionOf piece.gap)) := by
    simp only [occurrence, closureOf, if_neg primary, if_neg unclosed]
    by_cases substantial : (regionBody (regionOf piece.gap)).length > options.threshold <;>
      simp [substantial]
  refine ⟨_, List.mem_of_getElem? found, (byteSize_append _ _).symm, ?_, ?_⟩
  · rw [content, String.length_ofList]
  · rw [content, String.length_ofList]
    simp only [occurrence, closureOf, if_neg primary, if_neg unclosed, gt_iff_lt]

/-- Lines that say nothing are not counted before the first and behind the last line that says
something.  Between them each one still counts as its line feed, and that is the only way in
which such lines make an unclosed tag of a bare one. -/
theorem trivial_lines_keep_closure_iff (options : ScanOptions) (file : String) {content : String}
    {token : Token} {later : List Token}
    (opens : (token, later) ∈ Token.openings (tokenize content.toList))
    (primary : ¬ options.Faceted token.marker.name)
    (unclosed : ¬ ∃ t ∈ later, t.closes token.marker.name = true)
    {front above below rest : List Char}
    (split : content.toList = front ++ ((above ++ '\n' :: below) ++ rest))
    (begins : byteSize front = token.stop)
    (trailing : token.trailing content.toList later = above ++ '\n' :: below)
    {inserted : List (List Char)} (nothing : ∀ line ∈ inserted, TrivialLine line) :
    let longer := front ++ ((above ++ '\n' :: (linesText inserted ++ below)) ++ rest)
    ∃ o ∈ options.scan file content, ∃ o' ∈ options.scan file (String.ofList longer),
      o.openOffset = token.start ∧ o'.openOffset = token.start ∧
      (o.closure = .bare ∨ o.closure = .unclosed) ∧
      o'.content.length = o.content.length +
        (if regionBody above ≠ [] ∧ regionBody below ≠ [] then inserted.length else 0) ∧
      (o'.closure = o.closure ↔ ¬ (regionBody above ≠ [] ∧ regionBody below ≠ [] ∧
        o.content.length ≤ options.threshold ∧
        options.threshold < o.content.length + inserted.length)) := by
  intro longer
  obtain ⟨layout, ahead, piece, behind, lead, whole, pieces, opening, rfl, rfl, rfl, gap, rfl,
    region⟩ := Layout.exists_opening opens split begins trailing
  obtain rfl : content = String.ofList layout.text := by rw [whole, String.ofList_toList]
  have absent := (pieces ▸ layout.laid).absent
  rw [gap, List.append_assoc, List.cons_append] at absent
  replace absent := absent.insert (lt_not_mem_linesText nothing)
  -- The lines bring no marker with them, so the longer text has the same pieces but for this gap.
  obtain ⟨other, leads, otherPieces⟩ := layout.exists_regap pieces absent
  have otherText : other.text = longer := by
    simp [Layout.text, leads, otherPieces, longer]
  have otherRegion := regionOf_insert gap region (endsLine_linesText inserted)
  rw [List.append_assoc, List.cons_append, List.append_assoc] at otherRegion
  replace primary : ¬ options.isDimension piece.name = true :=
    primary ∘ (options.isDimension_iff _).mp
  replace unclosed : ¬ behind.any (closes piece.marker.name) = true :=
    unclosed ∘ (exists_closes_iff _ _ _ _).mpr
  obtain ⟨o, member, offset, said, closure⟩ :=
    options.exists_open_of_layout file pieces opening primary unclosed
  obtain ⟨o', member', offset', said', closure'⟩ :=
    options.exists_open_of_layout file otherPieces opening primary unclosed
  have longerBody := length_regionBody_linesText nothing above below
  rw [region] at said
  rw [otherRegion, longerBody, ← said] at said'
  rw [leads] at offset'
  rw [otherText] at member'
  refine ⟨o, member, o', member', offset, offset', ?_, said', ?_⟩
  · rw [closure]
    split <;> simp
  · rw [closure, closure', said']
    by_cases both : regionBody above ≠ [] ∧ regionBody below ≠ []
    · rw [if_pos both]
      split_ifs <;> simp_all
      omega
    · rw [if_neg both, Nat.add_zero]
      exact iff_of_true rfl fun counted => both ⟨counted.1, counted.2.1⟩

theorem trivial_lines_keep_closure_iff_hash :
    let options : ScanOptions := ⟨[], 3⟩
    let content := "<!--TAG:a-->\nx\ny\n"
    let token : Token := ⟨⟨['a'], false⟩, 0, 12, 1, "\nx\ny\n".toList⟩
    let front := "<!--TAG:a-->".toList
    let above := "\nx".toList
    let below := "y\n".toList
    let inserted := [['#']]
    let longer := front ++ ((above ++ '\n' :: (linesText inserted ++ below)) ++ [])
    (token, []) ∈ Token.openings (tokenize content.toList) ∧
    ¬ options.Faceted token.marker.name ∧
    (¬ ∃ t ∈ ([] : List Token), t.closes token.marker.name = true) ∧
    content.toList = front ++ ((above ++ '\n' :: below) ++ []) ∧
    byteSize front = token.stop ∧
    token.trailing content.toList [] = above ++ '\n' :: below ∧
    (∀ line ∈ inserted, TrivialLine line) ∧
    ∃ o ∈ options.scan "x.md" content, ∃ o' ∈ options.scan "x.md" (String.ofList longer),
      o.openOffset = token.start ∧ o'.openOffset = token.start ∧
      (o.closure = .bare ∨ o.closure = .unclosed) ∧
      o'.content.length = o.content.length +
        (if regionBody above ≠ [] ∧ regionBody below ≠ [] then inserted.length else 0) ∧
      (o'.closure = o.closure ↔ ¬ (regionBody above ≠ [] ∧ regionBody below ≠ [] ∧
        o.content.length ≤ options.threshold ∧
        options.threshold < o.content.length + inserted.length)) := by
  intro options content token front above below inserted longer
  have opens : (token, []) ∈ Token.openings (tokenize content.toList) := by decide
  have primary : ¬ options.Faceted token.marker.name :=
    (options.isDimension_iff ['a']).not.mp (by decide)
  have unclosed : ¬ ∃ t ∈ ([] : List Token), t.closes token.marker.name = true := by simp
  have nothing : ∀ line ∈ inserted, TrivialLine line :=
    List.forall_mem_singleton.mpr
      ⟨by decide, [], ['#'], [], rfl, .inr (by decide), by simp, by simp⟩
  exact ⟨opens, primary, unclosed, by decide, by decide, by decide, nothing,
    options.trivial_lines_keep_closure_iff "x.md" opens primary unclosed (by decide) (by decide)
      (by decide) nothing⟩

end ScanOptions

end TagAudit
