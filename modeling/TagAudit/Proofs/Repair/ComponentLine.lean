import TagAudit.Proofs.Repair.Seam

/-! The line of a missing component tag.  It goes between two lines, below those that must
stay on top of the file. -/

namespace TagAudit

open Text Marker

namespace Repair

theorem headerEnd_split (content : List Char) :
    ∃ above below, content = above ++ below ∧ headerEnd content = byteSize above ∧
      (EndsLine above ∨ below = []) := by
  simp only [headerEnd]
  cases whole : linesWithEnds content with
  | nil => exact ⟨[], content, rfl, rfl, .inl (.inl rfl)⟩
  | cons first rest =>
      obtain ⟨below, split, lines, ends⟩ := linesWithEnds_cons whole
      by_cases stays : isShebang first || declaresEncoding first
      · simp only [stays, if_true]
        cases rest with
        | nil => exact ⟨first, below, split, rfl, ends.imp_left .inr⟩
        | cons second more =>
            obtain ⟨last, splitLast, -, endsLast⟩ := linesWithEnds_cons lines
            by_cases declared : declaresEncoding second = true
            · simp only [declared, if_true]
              refine ⟨first ++ second, last, by rw [split, splitLast, List.append_assoc], by simp,
                endsLast.imp_left fun ends => ?_⟩
              obtain ⟨front, same⟩ := ends
              exact .inr ⟨first ++ front, by simp [same]⟩
            · simp only [declared, Bool.false_eq_true, if_false]
              exact ⟨first, below, split, rfl, ends.imp_left .inr⟩
      · simp only [stays, Bool.false_eq_true, if_false]
        exact ⟨[], content, rfl, rfl, .inl (.inl rfl)⟩

def componentEdit (path : Path) (content : List Char) (value : String) : Edit :=
  let above := takeBytes (headerEnd content) content
  let start := if above.isEmpty || above.getLast? == some '\n' then [] else ['\n']
  let marker : Marker := ⟨"component:".toList ++ value.toList, false⟩
  ⟨headerEnd content,
    String.ofList (start ++ (commentOpeningOf path).toList ++ marker.render ++ ['\n'])⟩

theorem plan_insertComponent (path : Path) (content : List Char) (value : String) :
    plan path content (.insertComponent value) = .ok (some (componentEdit path content value)) :=
  rfl

theorem plain_commentOpeningOf (path : Path) :
    '<' ∉ (commentOpeningOf path).toList ∧ '\n' ∉ (commentOpeningOf path).toList := by
  simp only [commentOpeningOf, commentOpening]
  repeat' split
  all_goals exact ⟨by decide, by decide⟩

theorem componentEdit_ends (path : Path) (content : List Char) (value : String) :
    ∃ front, (componentEdit path content value).text.toList = front ++ ['\n'] :=
  ⟨_, by rw [componentEdit, String.toList_ofList]⟩

theorem apart_componentEdit (path : Path) {content above below : List Char}
    (whole : content = above ++ below) (header : headerEnd content = byteSize above)
    (value : String) : Apart above (componentEdit path content value).text.toList := by
  have first : takeBytes (headerEnd content) content = above := by
    rw [header, whole, takeBytes_append]
  simp only [componentEdit, first, String.toList_ofList]
  split
  next ends =>
    refine .inl ?_
    rcases List.eq_nil_or_concat' above with rfl | ⟨front, c, rfl⟩
    · exact .inl rfl
    · simp at ends
      exact .inr ⟨front, by rw [ends]⟩
  next => exact .inr (.inr ⟨_, rfl⟩)

private theorem dropWhile_append_lt {a : List Char} (plain : '<' ∉ a) (b : List Char) :
    (a ++ '<' :: b).dropWhile (· ≠ '<') = '<' :: b := by
  rw [List.dropWhile_append_of_pos]
  · rfl
  · intro c member
    simpa using fun same : c = '<' => plain (same ▸ member)

theorem componentEdit_ne (path : Path) (content : List Char) (value : String)
    {line : ClosingLine} (plain : '<' ∉ line.lead) :
    (componentEdit path content value).text ≠ String.ofList line.text := by
  intro same
  have opening := (plain_commentOpeningOf path).1
  have closingPlain : '<' ∉ '\n' :: line.lead := by simpa using plain
  simp only [componentEdit, String.ofList_inj, ClosingLine.text, render, opener, keyword,
    ClosingLine.marker, Bool.false_eq_true, if_false, if_true, List.append_assoc,
    List.cons_append, List.nil_append] at same
  have dropped := congrArg (List.dropWhile (· ≠ '<')) same
  rw [← List.append_assoc, dropWhile_append_lt (by split <;> simpa using opening)] at dropped
  have clash := dropped.trans (dropWhile_append_lt closingPlain _)
  simp at clash

end Repair

end TagAudit
