import TagAudit.Proofs.Marker.Tokenizing
import TagAudit.Proofs.Repair.Splicing

/-! What a repair writes is read again.  The name of a marker, however malformed, is on one line,
has no arrow in it and no blank at its ends, and each text like that is the name of some marker.
So it can stand in the plain form of a marker, and what a closing line begins with is never taken
for a part of that marker. -/

namespace TagAudit

open Text Marker

variable {content text : List Char} {token : Token} {edit : Edit} {path : Path}
variable {openOffset insertOffset : Nat}

theorem exists_token_iff {m : Marker} :
    (∃ content, ∃ token ∈ tokenize content, token.marker = m) ↔
      Nameable m.name ∧ trim m.name = m.name := by
  constructor
  · intro ⟨content, token, found, same⟩
    obtain ⟨before, written, -, here, -⟩ := sited_of_mem_tokenize found
    rw [same] at here
    exact ⟨here.nameable, here.trim_name⟩
  · intro ⟨nameable, tight⟩
    have alone := tokenize_written List.not_mem_nil (written_render nameable tight) []
    exact ⟨_, _, alone ▸ List.mem_cons_self, rfl⟩

theorem written_render_of_mem (found : token ∈ tokenize content) (closing : Bool) :
    Written ⟨token.marker.name, closing⟩ (Marker.render ⟨token.marker.name, closing⟩) := by
  obtain ⟨nameable, tight⟩ := exists_token_iff.mp ⟨content, token, found, rfl⟩
  exact written_render nameable tight

theorem tokenize_render {lead : List Char} {m : Marker} (plain : '<' ∉ lead) (single : '\n' ∉ lead)
    (written : Written m m.render) :
    tokenize (lead ++ m.render) = [⟨m, byteSize lead, byteSize (lead ++ m.render), 1, []⟩] := by
  have read := tokenize_written plain written []
  rw [List.append_nil, List.count_eq_zero_of_not_mem single] at read
  exact read

/-! The closing line in the text that it is written into. -/

theorem map_marker_followed (rest : List Char) (tokens : List Token) :
    (tokens.map (Token.followed rest)).map Token.marker = tokens.map Token.marker := by
  rw [List.map_map]
  rfl

theorem map_marker_below (above : List Char) (tokens : List Token) :
    (tokens.map (Token.below above)).map Token.marker = tokens.map Token.marker := by
  rw [List.map_map]
  rfl

theorem map_marker_newline (above below : List Char) :
    (tokenize (above ++ '\n' :: below)).map Token.marker =
      (tokenize above).map Token.marker ++ (tokenize below).map Token.marker := by
  rw [tokenize_newline, List.map_append, map_marker_followed, map_marker_below]

/-- A marker on a line of its own is read between what is read above it and below it, also where
the line cuts a marker of the text. -/
theorem map_marker_line {lead ends : List Char} {m : Marker} (plain : '<' ∉ lead)
    (written : Written m m.render) (feed : ends = [] ∨ ends = ['\n']) (above below : List Char) :
    (tokenize (above ++ '\n' :: (lead ++ m.render) ++ (ends ++ below))).map Token.marker =
      (tokenize above).map Token.marker ++ m :: (tokenize below).map Token.marker := by
  have behind : (tokenize (ends ++ below)).map Token.marker =
      (tokenize below).map Token.marker := by
    rcases feed with rfl | rfl
    · rfl
    · exact map_marker_newline [] below
  rw [List.append_assoc, List.cons_append, List.append_assoc, map_marker_newline,
    tokenize_written plain written, List.map_cons, map_marker_below, behind]

namespace Repair

theorem exists_line_of_plan_close {tag : String}
    (planned : plan path text (.close tag openOffset insertOffset) = .ok (some edit)) :
    let lead := lineLead (lastLine (takeBytes openOffset text))
    ∃ above below ends, text = above ++ below ∧ insertOffset = byteSize above ∧
      edit.insert text =
        above ++ '\n' :: (lead ++ Marker.render ⟨tag.toList, true⟩) ++ (ends ++ below) ∧
      (ends = [] ∧ beginsLine below = true ∨ ends = ['\n']) := by
  intro lead
  obtain ⟨above, below, rfl, place, rfl⟩ := exists_cut_of_plan_close planned
  refine ⟨above, below, if beginsLine below then [] else ['\n'], rfl, place, ?_, ?_⟩
  · rw [Edit.insert_append rfl, String.toList_ofList]
    simp [lead]
  · split <;> simp [*]

end Repair

open Repair

/-- Whatever name a text gives to one of its markers can be written again: the plain form of a
marker with that name, alone or behind what a closing line begins with, is read as this one marker,
up to the end of the line.  A repair writes such a line on its own, so the text that it makes has
this marker besides those above the line and those below it. -/
theorem closing_line_reads_back (found : token ∈ tokenize content) (text : List Char)
    (openOffset : Nat) :
    let name := token.marker.name
    let lead := lineLead (lastLine (takeBytes openOffset text))
    let closes := "<!--/TAG:".toList ++ name ++ "-->".toList
    let opens := "<!--TAG:".toList ++ name ++ "-->".toList
    '\n' ∉ lead ++ closes ∧
    tokenize (lead ++ closes) =
      [⟨⟨name, true⟩, byteSize lead, byteSize (lead ++ closes), 1, []⟩] ∧
    tokenize (lead ++ opens) =
      [⟨⟨name, false⟩, byteSize lead, byteSize (lead ++ opens), 1, []⟩] ∧
    tokenize opens = [⟨⟨name, false⟩, 0, byteSize opens, 1, []⟩] ∧
    ∀ path insertOffset edit,
      plan path text (.close token.name openOffset insertOffset) = .ok (some edit) →
        ∃ above below ends, text = above ++ below ∧ insertOffset = byteSize above ∧
          edit.insert text = above ++ '\n' :: (lead ++ closes) ++ (ends ++ below) ∧
          (ends = [] ∧ beginsLine below = true ∨ ends = ['\n']) ∧
          (tokenize (edit.insert text)).map Token.marker =
            (tokenize above).map Token.marker ++
              ⟨name, true⟩ :: (tokenize below).map Token.marker := by
  intro name lead closes opens
  have plain : '<' ∉ lead := lt_not_mem_lineLead _
  have single : '\n' ∉ lead := newline_not_mem_lineLead (newline_not_mem_lastLine _)
  have closing := written_render_of_mem found true
  have opening := written_render_of_mem found false
  have closesEq : closes = Marker.render ⟨name, true⟩ := rfl
  have opensEq : opens = Marker.render ⟨name, false⟩ := rfl
  rw [closesEq, opensEq]
  refine ⟨?line, tokenize_render plain single closing, tokenize_render plain single opening,
    tokenize_render List.not_mem_nil List.not_mem_nil opening, ?planned⟩
  case line =>
    rw [List.mem_append, not_or]
    exact ⟨single, closing.newline_not_mem⟩
  case planned =>
    intro path insertOffset edit planned
    obtain ⟨above, below, ends, split, place, made, feed⟩ := exists_line_of_plan_close planned
    rw [Token.name, String.toList_ofList] at made
    refine ⟨above, below, ends, split, place, made, feed, ?_⟩
    rw [made]
    exact map_marker_line plain closing (feed.imp_left And.left) above below

theorem closing_line_reads_back_nested :
    let content := "<!-- TAG: a> <!--TAG:b ---> x".toList
    let token : Token := ⟨⟨"a> <!--TAG:b -".toList, false⟩, 0, 27, 1, " x".toList⟩
    let text := "x\n\t// <!--TAG:z-->".toList
    let line := "\t// <!--/TAG:a> <!--TAG:b --->".toList
    let opens := "<!--TAG:a> <!--TAG:b --->".toList
    token ∈ tokenize content ∧
    tokenize line = [⟨⟨token.marker.name, true⟩, 4, 30, 1, []⟩] ∧
    tokenize opens = [⟨⟨token.marker.name, false⟩, 0, 25, 1, []⟩] ∧
    ∃ edit, plan (Path.ofString "x.rs") text (.close token.name 6 18) = .ok (some edit) ∧
      ∃ above below ends, text = above ++ below ∧ byteSize above = 18 ∧
        edit.insert text = above ++ '\n' :: line ++ (ends ++ below) ∧
        (tokenize (edit.insert text)).map Token.marker =
          (tokenize above).map Token.marker ++
            ⟨token.marker.name, true⟩ :: (tokenize below).map Token.marker := by
  intro content token text line opens
  have found : token ∈ tokenize content := by decide
  have lead : lineLead (lastLine (takeBytes 6 text)) = "\t// ".toList := by decide
  obtain ⟨-, closing, -, opening, written⟩ := closing_line_reads_back found text 6
  rw [lead] at closing written
  have planned := plan_close_append (Path.ofString "x.rs") token.name
    (show "x\n\t// ".toList ++ "<!--TAG:z-->".toList = text ++ [] by decide)
  refine ⟨found, closing, opening, _, planned, ?_⟩
  obtain ⟨above, below, ends, split, place, made, -, markers⟩ := written _ _ _ planned
  exact ⟨above, below, ends, split, place.symm, made, markers⟩

end TagAudit
