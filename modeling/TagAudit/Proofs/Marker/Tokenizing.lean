import TagAudit.Proofs.Marker.Appending

/-! What the tokens of a text are, said without a reader: the markers that are met from left to
right, each from the first place where one begins up to the first arrow behind its lead.  No
marker reaches over the end of a line. -/

namespace TagAudit

open Text

namespace Marker

variable {cs name rest gap : List Char}

/-- The first arrow of a text stands behind `name`, on its first line. -/
structure FirstArrow (cs name rest : List Char) : Prop where
  split : cs = name ++ arrow ++ rest
  single : '\n' ∉ name
  first (front back : List Char) : cs = front ++ arrow ++ back → name.length ≤ front.length

def Begins (cs : List Char) : Prop :=
  ∃ closing lead name rest, Lead closing lead ∧ cs = lead ++ (name ++ arrow ++ rest) ∧ '\n' ∉ name

/-- No marker begins at any place in `gap` when `rest` follows it. -/
def Free (gap rest : List Char) : Prop :=
  ∀ front back, gap = front ++ back → back ≠ [] → ¬Begins (back ++ rest)

theorem FirstArrow.unique {name' rest' : List Char} (ends : FirstArrow cs name rest)
    (also : FirstArrow cs name' rest') : name = name' ∧ rest = rest' := by
  have sizes : name.length = name'.length :=
    Nat.le_antisymm (ends.first _ _ also.split) (also.first _ _ ends.split)
  have same := ends.split.symm.trans also.split
  rw [List.append_assoc, List.append_assoc] at same
  obtain ⟨names, behind⟩ := List.append_inj same sizes
  exact ⟨names, List.append_cancel_left behind⟩

theorem exists_untilArrow? (single : '\n' ∉ name) (rest : List Char) :
    ∃ found, untilArrow? (name ++ arrow ++ rest) = some found := by
  induction name with
  | nil => exact ⟨_, rfl⟩
  | cons c name induction =>
      simp only [List.mem_cons, not_or] at single
      obtain ⟨found, read⟩ := induction single.2
      rw [List.cons_append, List.cons_append]
      -- An arrow may already begin in the name.
      unfold untilArrow?
      split
      next same => cases same
      next => exact ⟨_, rfl⟩
      next same =>
        cases same
        rw [if_neg (Ne.symm single.1), read]
        exact ⟨_, rfl⟩

theorem firstArrow_of_untilArrow? (read : untilArrow? cs = some (name, rest)) :
    FirstArrow cs name rest := by
  obtain ⟨nameable, split⟩ := nameable_of_untilArrow? read
  refine ⟨split, nameable.single, fun front back also => ?_⟩
  clear nameable split
  fun_induction untilArrow? cs generalizing name front with
  | case1 => cases read
  | case2 rest =>
      cases read
      exact Nat.zero_le _
  | case3 => cases read
  | case4 c cs begins other induction =>
      rw [Option.map_eq_some_iff] at read
      obtain ⟨⟨shorter, behind⟩, read, same⟩ := read
      cases same
      cases front with
      | nil =>
          cases also
          exact absurd rfl (begins back rfl)
      | cons d front =>
          rw [List.cons_append, List.cons_append, List.cons.injEq] at also
          exact Nat.succ_le_succ (induction read front also.2)

theorem untilArrow?_eq_some_iff :
    untilArrow? cs = some (name, rest) ↔ FirstArrow cs name rest := by
  constructor
  · exact firstArrow_of_untilArrow?
  · intro ends
    obtain ⟨⟨name', rest'⟩, read⟩ := exists_untilArrow? ends.single rest
    rw [← ends.split] at read
    obtain ⟨rfl, rfl⟩ := ends.unique (firstArrow_of_untilArrow? read)
    exact read

theorem read?_eq_none_iff : read? cs = none ↔ ¬Begins cs := by
  rw [← Option.not_isSome_iff_eq_none, not_iff_not, Option.isSome_iff_exists]
  constructor
  · rintro ⟨⟨m, text, after⟩, read⟩
    obtain ⟨⟨leads, nameable⟩, rfl⟩ := read?_eq_some_iff.mp read
    exact ⟨_, _, _, after, leads, by simp, nameable.single⟩
  · rintro ⟨closing, lead, name, rest, leads, rfl, single⟩
    obtain ⟨found, ends⟩ := exists_untilArrow? single rest
    have begun := readLead?_of_lead leads (name ++ arrow ++ rest)
    simp only [read?, begun, ends, Option.bind_eq_bind, Option.bind_some]
    exact ⟨_, rfl⟩

theorem absent_iff_free : Absent gap rest ↔ Free gap rest := by
  induction gap with
  | nil => simp [Absent, Free]
  | cons c gap induction =>
      rw [Absent, induction, read?_eq_none_iff]
      constructor
      · rintro ⟨here, free⟩ front back split shown
        cases front with
        | nil =>
            rw [List.nil_append] at split
            exact split ▸ here
        | cons d front => exact free front back (List.cons.inj split).2 shown
      · intro free
        refine ⟨free [] _ rfl (by simp), fun front back split => ?_⟩
        exact free (c :: front) back (by rw [split, List.cons_append])

end Marker

open Marker

namespace Token

/-- The tokens of `cs` from left to right when `passed` stands before it.  Each begins at the
first place where a marker does and is over behind the first arrow; the search goes on from
there. -/
inductive Found : List Char → List Char → List Token → Prop
  | done {passed cs : List Char} (free : Free cs []) : Found passed cs []
  | next {passed skip lead inner name rest : List Char} {closing : Bool} {tokens : List Token}
      (free : Free skip (lead ++ inner)) (leads : Lead closing lead)
      (ends : FirstArrow inner name rest)
      (further : Found (passed ++ skip ++ lead ++ name ++ arrow) rest tokens) :
      Found passed (skip ++ (lead ++ inner))
        ({ marker := ⟨trim name, closing⟩
           start := byteSize (passed ++ skip)
           stop := byteSize (passed ++ skip ++ lead ++ name ++ arrow)
           line := 1 + (passed ++ skip).count '\n'
           after := rest } :: tokens)

variable {passed cs : List Char} {tokens : List Token}

theorem readFrom_of_found (found : Found passed cs tokens) :
    readFrom 0 (byteSize passed) (1 + passed.count '\n') cs = tokens := by
  induction found with
  | @done passed cs free =>
      have passes := readFrom_absent (absent_iff_free.mpr free) (byteSize passed)
        (1 + passed.count '\n')
      rw [List.append_nil] at passes
      exact passes
  | @next passed skip lead inner name rest closing tokens free leads ends further induction =>
      have read := untilArrow?_eq_some_iff.mpr ends
      obtain ⟨nameable, rfl⟩ := nameable_of_untilArrow? read
      have written := Written.intro leads nameable
      have single := List.count_eq_zero_of_not_mem written.newline_not_mem
      rw [readFrom_absent (absent_iff_free.mpr free), ← List.append_assoc, ← List.append_assoc,
        readFrom_written written]
      simp only [List.append_assoc, List.count_append, byteSize_append, Nat.add_assoc]
        at induction single ⊢
      rw [single, Nat.add_zero] at induction
      rw [induction]

theorem exists_found_textOf {pieces : List Piece} (laid : Piece.Laid pieces) {gap : List Char}
    (absent : Absent gap (Piece.textOf pieces)) (passed : List Char) :
    ∃ tokens, Found passed (gap ++ Piece.textOf pieces) tokens := by
  induction laid generalizing gap passed with
  | nil =>
      rw [Piece.textOf_nil, List.append_nil]
      exact ⟨[], .done (absent_iff_free.mp absent)⟩
  | @cons piece later written behind laid induction =>
      rw [Piece.textOf_cons] at absent ⊢
      generalize piece.marker = m, piece.text = text at written absent ⊢
      cases written with
      | @intro closing lead name leads nameable =>
          obtain ⟨tokens, further⟩ := induction behind (passed ++ gap ++ lead ++ name ++ arrow)
          have ends := untilArrow?_eq_some_iff.mp
            (untilArrow?_of_nameable nameable (piece.gap ++ Piece.textOf later))
          rw [List.append_assoc lead, List.append_assoc lead] at absent ⊢
          exact ⟨_, .next (absent_iff_free.mp absent) leads ends further⟩

theorem exists_found (passed cs : List Char) : ∃ tokens, Found passed cs tokens := by
  obtain ⟨layout, rfl⟩ := Layout.exists_layout cs
  exact exists_found_textOf layout.laid layout.absent passed

end Token

theorem tokenize_eq_iff_found {cs : List Char} {tokens : List Token} :
    tokenize cs = tokens ↔ Token.Found [] cs tokens := by
  have reads {tokens : List Token} (found : Token.Found [] cs tokens) : tokenize cs = tokens :=
    Token.readFrom_of_found found
  constructor
  · rintro rfl
    obtain ⟨tokens, found⟩ := Token.exists_found [] cs
    rwa [reads found]
  · exact reads

theorem tokenize_newline (above content : List Char) :
    tokenize (above ++ '\n' :: content) =
      (tokenize above).map (Token.followed ('\n' :: content)) ++
        (tokenize content).map (Token.below (above ++ ['\n'])) := by
  have ends : EndsLine ['\n'] := .inr ⟨[], rfl⟩
  have feed : tokenize ('\n' :: content) = (tokenize content).map (Token.below ['\n']) :=
    tokenize_append ends content
  rw [tokenize_append_of_apart (.inr (.inr ⟨content, rfl⟩)), feed, List.map_map]
  congr 2
  funext token
  simp [Token.below, Nat.add_assoc]

/-- Each line is read alone: what stands below changes nothing but the text that follows, and what
stands above shifts the positions.  On a line the tokens are those of the search from the left. -/
theorem tokenize_leftmost :
    (∀ above content : List Char,
      tokenize (above ++ '\n' :: content) =
        (tokenize above).map
            (fun token => { token with after := token.after ++ '\n' :: content }) ++
          (tokenize content).map fun token =>
            { token with
              start := byteSize above + 1 + token.start
              stop := byteSize above + 1 + token.stop
              line := above.count '\n' + 1 + token.line }) ∧
    ∀ (line : List Char) (tokens : List Token),
      tokenize line = tokens ↔ Token.Found [] line tokens := by
  refine ⟨fun above content => ?_, fun line tokens => tokenize_eq_iff_found⟩
  have size : byteSize (above ++ ['\n']) = byteSize above + 1 := byteSize_append above ['\n']
  have feeds : (above ++ ['\n']).count '\n' = above.count '\n' + 1 := by simp
  rw [tokenize_newline]
  refine congrArg (_ ++ ·) (List.map_congr_left fun token _ => ?_)
  rw [Token.below, size, feeds]

example :
    (tokenize "<!--TAG:a <!--TAG:b ---> <!-- / TAG:c-->".toList).map
        (fun token => (token.marker, token.start, token.stop)) =
      [(⟨"a <!--TAG:b -".toList, false⟩, 0, 24), (⟨"c".toList, true⟩, 25, 40)] := by
  decide

end TagAudit
