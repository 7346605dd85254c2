import TagAudit.Proofs.Marker.Readings
import TagAudit.Proofs.Marker.Appending
import TagAudit.Proofs.Text.Boundaries

/-! The positions that a scan reports can be used: they lie between characters, in order, and
where they are said to lie, and so does every part of the text that a scan cuts out. -/

namespace TagAudit

open Text Marker

namespace Text

variable {cs : List Char} {m n : Nat}

theorem takeBytes_prefix_takeBytes (le : m ≤ n) (cs : List Char) :
    takeBytes m cs <+: takeBytes n cs := by
  induction cs generalizing m n with
  | nil => exact List.prefix_rfl
  | cons c cs induction =>
      by_cases none : m = 0
      · simp [none]
      · simp only [takeBytes, if_neg none, if_neg (show n ≠ 0 by omega)]
        exact List.cons_prefix_cons.mpr ⟨rfl, induction (Nat.sub_le_sub_right le _)⟩

theorem lineAt_mono (le : m ≤ n) (cs : List Char) : lineAt m cs ≤ lineAt n cs :=
  Nat.add_le_add_left ((takeBytes_prefix_takeBytes le cs).sublist.count_le '\n') 1

theorem lineAt_le (n : Nat) (cs : List Char) : lineAt n cs ≤ 1 + cs.count '\n' := by
  have begins : takeBytes n cs <+: cs := ⟨dropBytes n cs, takeBytes_append_dropBytes n cs⟩
  exact Nat.add_le_add_left (begins.sublist.count_le '\n') 1

theorem exists_trimEnd_concat (shown : trimEnd cs ≠ []) :
    ∃ front c, trimEnd cs = front ++ [c] ∧ isBlank c = false := by
  have last : ¬ isBlank ((trimEnd cs).getLast shown) = true :=
    List.rdropWhile_last_not isBlank cs shown
  exact ⟨_, _, (List.dropLast_append_getLast shown).symm, by simpa using last⟩

end Text

theorem regionBody_eq_nil {region : List Char} (blank : ∀ c ∈ region, isBlank c = true) :
    regionBody region = [] :=
  regionBody_append_blanks [] blank

/-! Tokens in their order. -/

namespace Piece

theorem pairwise_tokens (pos line : Nat) (pieces : List Piece) :
    (∀ token ∈ tokens pos line pieces, pos ≤ token.start) ∧
      (tokens pos line pieces).Pairwise fun a b => a.stop ≤ b.start := by
  induction pieces generalizing pos line with
  | nil => exact ⟨by simp [tokens], .nil⟩
  | cons piece later induction =>
      obtain ⟨behind, apart⟩ := induction (pos + byteSize piece.text + byteSize piece.gap)
        (line + piece.gap.count '\n')
      constructor
      · refine List.forall_mem_cons.mpr ⟨Nat.le_refl _, fun token member => ?_⟩
        have := behind token member
        omega
      · refine .cons (fun token member => ?_) apart
        have := behind token member
        dsimp only
        omega

end Piece

theorem pairwise_tokenize (content : List Char) :
    (tokenize content).Pairwise fun a b => a.stop ≤ b.start := by
  obtain ⟨layout, rfl⟩ := Layout.exists_layout content
  rw [tokenize_text]
  exact (Piece.pairwise_tokens _ _ _).2

namespace Token

variable {content : List Char} {token : Token} {later tokens : List Token}

theorem Sited.start_lt_stop (sited : token.Sited content) : token.start < token.stop := by
  obtain ⟨before, text, -, written, start, stop, -⟩ := sited
  have positive := byteSize_pos written.ne_nil
  omega

theorem Sited.sliceable (sited : token.Sited content) :
    Sliceable content token.start token.stop := by
  have before := sited.start_lt_stop
  obtain ⟨front, text, rfl, -, start, stop, -⟩ := sited
  refine ⟨⟨_, _, rfl, start⟩, ⟨front ++ text, _, (List.append_assoc _ _ _).symm, ?_⟩, before.le⟩
  rw [stop, byteSize_append]

theorem openings_cases {opening : Token × List Token} (member : opening ∈ openings tokens) :
    ∃ front, tokens = front ++ opening.1 :: opening.2 ∧ opening.1.marker.closing = false := by
  induction tokens with
  | nil => cases member
  | cons first rest induction =>
      rw [openings] at member
      by_cases closes : first.marker.closing = true
      · rw [if_pos closes] at member
        obtain ⟨front, split, opens⟩ := induction member
        exact ⟨first :: front, by rw [split, List.cons_append], opens⟩
      · rw [if_neg closes] at member
        cases member with
        | head => exact ⟨[], rfl, by simpa using closes⟩
        | tail _ member =>
            obtain ⟨front, split, opens⟩ := induction member
            exact ⟨first :: front, by rw [split, List.cons_append], opens⟩

theorem pairwise_openings (tokens : List Token) :
    (openings tokens).Pairwise fun a b => b.1 ∈ a.2 := by
  induction tokens with
  | nil => exact .nil
  | cons first rest induction =>
      rw [openings]
      split
      · exact induction
      · refine .cons (fun opening member => ?_) induction
        obtain ⟨front, split, -⟩ := openings_cases member
        simp [split]

/-- Where the text behind a token ends at the latest: at the next token or the end of the text. -/
def limit (content : List Char) : List Token → Nat
  | next :: _ => next.start
  | [] => byteSize content

theorem trailing_eq (content : List Char) (token : Token) (later : List Token) :
    token.trailing content later =
      slice token.stop (regionEnd content token.stop (limit content later)) content := by
  cases later <;> rfl

theorem start_lt_stop (member : token ∈ tokenize content) : token.start < token.stop :=
  (sited_of_mem_tokenize member).start_lt_stop

variable {front : List Token} {other : Token}

theorem stop_le_start (split : tokenize content = front ++ token :: later)
    (behind : other ∈ later) : token.stop ≤ other.start := by
  have order := pairwise_tokenize content
  rw [split, List.pairwise_append, List.pairwise_cons] at order
  exact order.2.1.1 other behind

theorem limit_le (split : tokenize content = front ++ token :: later) (behind : other ∈ later) :
    limit content later ≤ other.start := by
  obtain ⟨passed, rest, rfl⟩ := List.append_of_mem behind
  cases passed with
  | nil => exact Nat.le_refl _
  | cons next passed =>
      have inside : next ∈ tokenize content := by simp [split]
      have nextSplit :
          tokenize content = (front ++ [token]) ++ next :: (passed ++ other :: rest) := by
        simp [split]
      have apart : next.stop ≤ other.start := stop_le_start nextSplit (by simp)
      exact (start_lt_stop inside).le.trans apart

theorem beside_of_mem (split : tokenize content = front ++ token :: later)
    (member : other ∈ tokenize content) :
    other.stop ≤ token.stop ∨ limit content later ≤ other.start := by
  have here : token ∈ tokenize content := by simp [split]
  have order := pairwise_tokenize content
  rw [split] at member order
  rcases List.mem_append.mp member with before | same | ⟨_, behind⟩
  · have apart := (List.pairwise_append.mp order).2.2 other before token (.head _)
    exact .inl (apart.trans (start_lt_stop here).le)
  · exact .inl (Nat.le_refl _)
  · exact .inr (limit_le split behind)

theorem exists_gap (split : tokenize content = front ++ token :: later) :
    ∃ before gap rest, content = before ++ (gap ++ rest) ∧ token.stop = byteSize before ∧
      limit content later = byteSize before + byteSize gap := by
  obtain ⟨before, text, whole, -, -, stop, -⟩ :=
    sited_of_mem_tokenize (show token ∈ tokenize content by simp [split])
  have passed : token.stop = byteSize (before ++ text) := by rw [stop, byteSize_append]
  cases later with
  | nil =>
      refine ⟨before ++ text, token.after, [], ?_, passed, ?_⟩
      · rw [List.append_nil, List.append_assoc, ← whole]
      · have size := congrArg byteSize whole
        simp only [byteSize_append] at size ⊢
        rw [limit, size, Nat.add_assoc]
  | cons next later =>
      obtain ⟨passedNext, textNext, wholeNext, -, start, -⟩ :=
        sited_of_mem_tokenize (show next ∈ tokenize content by simp [split])
      have apart : token.stop ≤ next.start := stop_le_start split (.head _)
      rw [passed, start] at apart
      rw [← List.append_assoc] at whole
      obtain ⟨gap, rfl, -⟩ := prefix_of_byteSize_le (whole.symm.trans wholeNext) apart
      exact ⟨before ++ text, gap, textNext ++ next.after, by rw [wholeNext, List.append_assoc],
        passed, by rw [limit, start, byteSize_append]⟩

end Token

/-- What an occurrence reports of its token can be used, and so can the parts of the text that
it is read from. -/
structure Usable (content : List Char) (token : Token) (later : List Token) (o : Occurrence) :
    Prop where
  openOffset : o.openOffset = token.start
  opens : token ∈ tokenize content ∧ token.marker.closing = false
  written : Sliceable content token.start token.stop ∧
    Written token.marker (slice token.start token.stop content)
  lines : 1 ≤ o.startLine ∧ o.startLine ≤ o.endLine ∧ o.endLine ≤ 1 + content.count '\n'
  inserts : o.insertOffset.isSome = true ↔ o.closure = .unclosed
  insertion : ∀ offset, o.insertOffset = some offset →
    token.stop < offset ∧ offset ≤ Token.limit content later ∧
      lineAt offset content = o.endLine ∧
      ∃ above c below, content = above ++ c :: below ∧ isBlank c = false ∧
        offset = byteSize (above ++ [c])
  covered : o.closure = .closed → ∃ close ∈ later, Sliceable content token.stop close.start ∧
    o.content = String.ofList (trim (slice token.stop close.start content))
  region : o.closure = .unclosed ∨ o.closure = .bare →
    let next := Token.limit content later
    let stop := regionEnd content token.stop next
    Sliceable content 0 next ∧
      Sliceable content (next - byteSize (lastLine (takeBytes next content))) next ∧
      Sliceable content token.stop stop ∧ stop ≤ next ∧
      o.content = String.ofList (regionBody (slice token.stop stop content))

namespace ScanOptions.Reads

variable {options : ScanOptions} {file : String} {content : List Char} {token : Token}
  {later : List Token} {o : Occurrence}

theorem isSome_insertOffset (reads : options.Reads file content token later o) :
    o.insertOffset.isSome = true ↔ o.closure = .unclosed := by
  cases closure : o.closure with
  | marker => simp [(reads.ofMarker closure).2.2]
  | bare => simp [(reads.ofBare closure).2.2]
  | closed =>
      obtain ⟨close, -, -, -, none⟩ := reads.ofClosed closure
      simp [none]
  | unclosed =>
      obtain ⟨-, offset, found, -⟩ := reads.ofUnclosed closure
      simp [found]

variable {front : List Token}

/-- What the closing line is put behind: text between the token and its limit that ends
visibly. -/
theorem insertion (reads : options.Reads file content token later o)
    (split : tokenize content = front ++ token :: later) {offset : Nat}
    (inserts : o.insertOffset = some offset) :
    token.stop < offset ∧ offset ≤ Token.limit content later ∧ lineAt offset content = o.endLine ∧
      ∃ above c below, content = above ++ c :: below ∧ isBlank c = false ∧
        offset = byteSize (above ++ [c]) := by
  have unclosed := reads.isSome_insertOffset.mp (by simp [inserts])
  obtain ⟨-, place, found, line, offset_eq⟩ := reads.ofUnclosed unclosed
  obtain rfl : offset = place := Option.some.inj (inserts.symm.trans found)
  obtain ⟨-, -, substantial⟩ := reads.unclosed.mp unclosed
  obtain ⟨before, gap, rest, whole, stop, limit⟩ := Token.exists_gap split
  rw [Token.trailing_eq, stop, limit, whole, slice_regionEnd] at substantial offset_eq
  have shown : trimEnd (regionOf gap) ≠ [] := by
    intro none
    rw [← regionBody_eq_said, regionBody_eq_nil (trimEnd_eq_nil_iff.mp none)] at substantial
    simp at substantial
  obtain ⟨above, c, kept, visible⟩ := exists_trimEnd_concat shown
  obtain ⟨behind, split⟩ := (prefix_trimEnd (regionOf gap)).trans (prefix_regionOf gap)
  have positive := byteSize_pos shown
  have size := congrArg byteSize split
  rw [byteSize_append] at size
  refine ⟨by omega, by omega, line.symm, before ++ above, c, behind ++ rest, ?_, visible, ?_⟩
  · rw [whole, ← split, kept]
    simp
  · rw [offset_eq, kept, List.append_assoc, byteSize_append before]

theorem line_bounds (reads : options.Reads file content token later o)
    (split : tokenize content = front ++ token :: later) :
    1 ≤ o.startLine ∧ o.startLine ≤ o.endLine ∧ o.endLine ≤ 1 + content.count '\n' := by
  have here : token ∈ tokenize content := by simp [split]
  have begins := Token.start_lt_stop here
  rw [reads.startLine]
  have least : 1 ≤ lineAt token.start content := Nat.le_add_right 1 _
  have most := lineAt_le token.start content
  cases closure : o.closure with
  | marker => exact ⟨least, by rw [(reads.ofMarker closure).2.1, reads.startLine], by
      rwa [(reads.ofMarker closure).2.1, reads.startLine]⟩
  | bare => exact ⟨least, by rw [(reads.ofBare closure).2.1, reads.startLine], by
      rwa [(reads.ofBare closure).2.1, reads.startLine]⟩
  | closed =>
      obtain ⟨close, ⟨passed, rest, found, -, -⟩, -, line, -⟩ := reads.ofClosed closure
      have apart : token.stop ≤ close.start := Token.stop_le_start split (by simp [found])
      rw [line]
      exact ⟨least, lineAt_mono (by omega) content, lineAt_le _ content⟩
  | unclosed =>
      obtain ⟨offset, inserts⟩ := Option.isSome_iff_exists.mp
        (reads.isSome_insertOffset.mpr closure)
      obtain ⟨apart, -, line, -⟩ := reads.insertion split inserts
      rw [← line]
      exact ⟨least, lineAt_mono (by omega) content, lineAt_le _ content⟩

theorem region_of_open (reads : options.Reads file content token later o)
    (split : tokenize content = front ++ token :: later)
    (unclosed : o.closure = .unclosed ∨ o.closure = .bare) :
    let next := Token.limit content later
    let stop := regionEnd content token.stop next
    Sliceable content 0 next ∧
      Sliceable content (next - byteSize (lastLine (takeBytes next content))) next ∧
      Sliceable content token.stop stop ∧ stop ≤ next ∧
      o.content = String.ofList (regionBody (slice token.stop stop content)) := by
  intro next stop
  have said : o.content = String.ofList (said (token.trailing content later)) :=
    unclosed.elim (fun closure => (reads.ofUnclosed closure).1) fun closure =>
      (reads.ofBare closure).1
  rw [← regionBody_eq_said, Token.trailing_eq] at said
  obtain ⟨before, gap, rest, whole, begins, limit⟩ := Token.exists_gap split
  obtain ⟨lead, region⟩ := prefix_regionOf gap
  have ends : stop = byteSize (before ++ regionOf gap) := by
    simp only [stop, next, begins, limit, whole, regionEnd_append, byteSize_append]
  replace limit : next = byteSize (before ++ gap) := limit.trans (byteSize_append _ _).symm
  have taken : content = (before ++ gap) ++ rest := by rw [whole, List.append_assoc]
  have kept : content = (before ++ regionOf gap) ++ (lead ++ rest) :=
    calc
      content = before ++ ((regionOf gap ++ lead) ++ rest) := by rw [region, whole]
      _ = (before ++ regionOf gap) ++ (lead ++ rest) := by simp only [List.append_assoc]
  have nextBoundary : IsBoundary content next := ⟨_, _, taken, limit⟩
  have size := congrArg byteSize region
  simp only [byteSize_append] at size limit ends
  refine ⟨⟨isBoundary_zero _, nextBoundary, Nat.zero_le _⟩, ⟨?_, nextBoundary, Nat.sub_le _ _⟩,
    ⟨⟨_, _, whole, begins⟩, ⟨_, _, kept, by rw [ends, byteSize_append]⟩, by omega⟩, by omega, said⟩
  · obtain ⟨above, line⟩ := lastLine_suffix (before ++ gap)
    have lineSize := congrArg byteSize line
    simp only [byteSize_append] at lineSize
    refine ⟨above, lastLine (before ++ gap) ++ rest, ?_, ?_⟩
    · rw [taken, ← List.append_assoc, line]
    · rw [limit, ← byteSize_append, taken, takeBytes_append, byteSize_append]
      omega

theorem usable (reads : options.Reads file content token later o)
    (split : tokenize content = front ++ token :: later) (opens : token.marker.closing = false) :
    Usable content token later o where
  openOffset := reads.openOffset
  opens := ⟨by simp [split], opens⟩
  written := by
    have sited : token.Sited content := sited_of_mem_tokenize (by simp [split])
    refine ⟨sited.sliceable, ?_⟩
    obtain ⟨before, text, whole, written, start, stop, -⟩ := sited
    rwa [start, stop, whole, slice_append]
  lines := reads.line_bounds split
  inserts := reads.isSome_insertOffset
  insertion _ inserts := reads.insertion split inserts
  covered closed := by
    obtain ⟨close, ⟨passed, rest, found, -, -⟩, said, -, -⟩ := reads.ofClosed closed
    have member : close ∈ later := by simp [found]
    have sited : token.Sited content := sited_of_mem_tokenize (by simp [split])
    have closeSited : close.Sited content := sited_of_mem_tokenize (by simp [split, member])
    exact ⟨close, member,
      ⟨sited.sliceable.ends, closeSited.sliceable.begins,
        Token.stop_le_start split member⟩, said⟩
  region := reads.region_of_open split

end ScanOptions.Reads

theorem pairwise_of_forall₂ {α β : Type} {R : α → β → Prop} {S : α → α → Prop} {T : β → β → Prop}
    {as : List α} {bs : List β} (related : List.Forall₂ R as bs) (ordered : as.Pairwise S)
    (carry : ∀ a b x y, R a x → R b y → S a b → T x y) : bs.Pairwise T := by
  induction related with
  | nil => exact .nil
  | @cons a x as bs here later induction =>
      rw [List.pairwise_cons] at ordered
      obtain ⟨first, ordered⟩ := ordered
      refine .cons ?_ (induction ordered)
      clear induction ordered
      induction later with
      | nil => nofun
      | cons next later induction =>
          obtain ⟨second, first⟩ := List.forall_mem_cons.mp first
          exact List.forall_mem_cons.mpr ⟨carry _ _ _ _ here next second, induction first⟩

namespace ScanOptions

theorem forall₂_usable_scan (options : ScanOptions) (file content : String) :
    List.Forall₂ (fun (opening : Token × List Token) o =>
        Usable content.toList opening.1 opening.2 o)
      (Token.openings (tokenize content.toList)) (options.scan file content) := by
  have opens : ∀ opening ∈ Token.openings (tokenize content.toList), ∃ front,
      tokenize content.toList = front ++ opening.1 :: opening.2 ∧
        opening.1.marker.closing = false := fun _ => Token.openings_cases
  refine ((List.forall₂_and_left _ _).mpr ⟨opens, options.forall₂_reads_scan file content⟩).imp ?_
  rintro ⟨token, later⟩ o ⟨⟨front, split, opens⟩, reads⟩
  exact reads.usable split opens

/-- Every position that a scan reports can be used.  Tags are listed as they stand in the text,
closing lines go to different places in the same order and into no token, and whatever a scan
cuts out of the text begins and ends between characters. -/
theorem scan_usable (options : ScanOptions) (file content : String) :
    let tokens := tokenize content.toList
    let occurrences := options.scan file content
    List.Forall₂ (fun (opening : Token × List Token) o =>
        Usable content.toList opening.1 opening.2 o) (Token.openings tokens) occurrences ∧
      (occurrences.map (·.openOffset)).Pairwise (· < ·) ∧
      (occurrences.filterMap (·.insertOffset)).Pairwise (· < ·) ∧
      ∀ o ∈ occurrences, ∀ offset, o.insertOffset = some offset →
        ∀ token ∈ tokens, offset ≤ token.start ∨ token.stop ≤ offset := by
  intro tokens occurrences
  have usable := options.forall₂_usable_scan file content
  have opens : ∀ opening ∈ Token.openings tokens, ∃ front,
      tokens = front ++ opening.1 :: opening.2 ∧ opening.1.marker.closing = false :=
    fun _ => Token.openings_cases
  have placed := (List.forall₂_and_left _ _).mpr ⟨opens, usable⟩
  have order := Token.pairwise_openings tokens
  refine ⟨usable, ?_, ?_, ?_⟩
  · rw [List.pairwise_map]
    refine pairwise_of_forall₂ placed order ?_
    intro a b o o' first second behind
    obtain ⟨⟨front, split, -⟩, here⟩ := first
    rw [here.openOffset, second.2.openOffset]
    exact (Token.start_lt_stop here.opens.1).trans_le (Token.stop_le_start split behind)
  · rw [List.pairwise_filterMap]
    refine pairwise_of_forall₂ placed order ?_
    intro a b o o' first second behind offset inserts offset' inserts'
    obtain ⟨⟨front, split, -⟩, here⟩ := first
    have limit := (here.insertion offset inserts).2.1
    have next := Token.limit_le split behind
    have within := Token.start_lt_stop second.2.opens.1
    have beyond := (second.2.insertion offset' inserts').1
    omega
  · intro o member offset inserts token inside
    obtain ⟨opening, -, ⟨front, split, -⟩, here⟩ := exists_right_of_mem placed.flip member
    obtain ⟨beyond, limit, -⟩ := here.insertion offset inserts
    have beside := Token.beside_of_mem split inside
    omega

end ScanOptions

end TagAudit
