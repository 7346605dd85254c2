import TagAudit.Proofs.Repair.CommentLine
import TagAudit.Proofs.Repair.Splicing

/-! The header of a file, and the component tag below it.  A shebang or an encoding declaration on
the first line stays there, and a declaration on the second line stays there behind such a first
line.  Any other first line gets the tag above it, and the declaration moves down with it. -/

namespace TagAudit

open Text Unicode Marker

namespace Repair

/-! What makes a line a header stands on that line. -/

private theorem newline_not_word : isWord '\n' = false := by decide

theorem namesEncoding_append_newline (line below : List Char) :
    namesEncoding (line ++ '\n' :: below) = namesEncoding line := by
  have apart : ∀ c ∈ ('\n' :: below).head?, c ∉ ['c', 'o', 'd', 'i', 'n', 'g'] := by
    rintro c ⟨⟩
    decide
  simp only [namesEncoding, dropLead?_append apart]
  cases dropLead? ['c', 'o', 'd', 'i', 'n', 'g'] line with
  | none => rfl
  | some rest =>
      cases rest with
      | nil => rfl
      | cons sign rest =>
          have gap : isGap '\n' = false := by decide
          simp only [Option.map_some, List.cons_append, List.dropWhile_append]
          cases rest.dropWhile isGap with
          | nil => simp [gap, newline_not_word]
          | cons c named => simp

theorem mentionsEncoding_append_newline (line below : List Char) :
    mentionsEncoding (line ++ '\n' :: below) = mentionsEncoding line := by
  induction line with
  | nil => simp [mentionsEncoding]
  | cons c line induction =>
      have named := namesEncoding_append_newline (c :: line) below
      rw [List.cons_append] at named
      rw [List.cons_append, mentionsEncoding, mentionsEncoding, named, induction]

theorem declaresEncoding_append_newline (line below : List Char) :
    declaresEncoding (line ++ '\n' :: below) = declaresEncoding line := by
  simp only [declaresEncoding, List.dropWhile_append]
  cases line.dropWhile fun c => isGap c || c == '\x0c' with
  | nil => simp [show isGap '\n' = false by decide]
  | cons c rest =>
      by_cases comment : c = '#'
      · simp [comment, mentionsEncoding_append_newline]
      · simp [comment]

theorem isShebang_append_newline (line below : List Char) :
    isShebang (line ++ '\n' :: below) = isShebang line := by
  rcases line with _ | ⟨c, _ | ⟨d, line⟩⟩
  · simp [isShebang]
  · simp [isShebang]
  · by_cases first : c = '#' <;> by_cases second : d = '!' <;> simp [isShebang, first, second]

def opensHeader (line : List Char) : Bool :=
  isShebang line || declaresEncoding line

theorem opensHeader_append_newline (line below : List Char) :
    opensHeader (line ++ '\n' :: below) = opensHeader line := by
  rw [opensHeader, isShebang_append_newline, declaresEncoding_append_newline, opensHeader]

private theorem apply_restOfLine {f : List Char → Bool}
    (read : ∀ line below, f (line ++ '\n' :: below) = f line) (cs : List Char) :
    f (restOfLine cs) = f cs := by
  rcases restOfLine_cases cs with whole | ⟨below, split⟩
  · rw [whole]
  · exact (read _ below).symm.trans (congrArg f split.symm)

theorem declaresEncoding_restOfLine (cs : List Char) :
    declaresEncoding (restOfLine cs) = declaresEncoding cs :=
  apply_restOfLine declaresEncoding_append_newline cs

theorem opensHeader_restOfLine (cs : List Char) : opensHeader (restOfLine cs) = opensHeader cs :=
  apply_restOfLine opensHeader_append_newline cs

theorem restOfLine_of_linesWithEnds {cs line : List Char} {more : List (List Char)}
    (split : linesWithEnds cs = line :: more) : restOfLine line = restOfLine cs := by
  obtain ⟨below, rfl, -, ⟨front, rfl⟩ | rfl⟩ := linesWithEnds_cons split
  · rw [List.append_assoc, List.singleton_append, restOfLine_append_newline,
      restOfLine_append_newline]
  · rw [List.append_nil]

/-! How far the header of a file goes. -/

theorem byteSize_pos_of_opensHeader {line : List Char} (opens : opensHeader line = true) :
    0 < byteSize line :=
  byteSize_pos (by rintro rfl; cases opens)

theorem headerEnd_eq_zero_iff {cs : List Char} :
    headerEnd cs = 0 ↔ opensHeader (restOfLine cs) = false := by
  cases lines : linesWithEnds cs with
  | nil =>
      obtain rfl := linesWithEnds_eq_nil lines
      exact iff_of_true rfl rfl
  | cons first rest =>
      have same : opensHeader (restOfLine cs) = opensHeader first := by
        rw [← restOfLine_of_linesWithEnds lines, opensHeader_restOfLine]
      rw [same]
      by_cases opens : opensHeader first = true
      · have positive := byteSize_pos_of_opensHeader opens
        have reached : byteSize first ≤ headerEnd cs := by
          simp only [headerEnd, lines]
          rw [opensHeader] at opens
          rw [if_pos opens]
          cases rest <;> simp
        exact iff_of_false (by omega) (by simp [opens])
      · rw [opensHeader] at opens ⊢
        simp [headerEnd, lines, opens]

/-- A declaration on the second line belongs to the header that the first line opens. -/
theorem lt_headerEnd {first below : List Char} (single : '\n' ∉ first)
    (opens : opensHeader first = true) (declares : declaresEncoding (restOfLine below) = true) :
    byteSize (first ++ ['\n']) < headerEnd (first ++ '\n' :: below) := by
  have lines : linesWithEnds (first ++ '\n' :: below) =
      (first ++ ['\n']) :: linesWithEnds below := by
    rw [linesWithEnds_append_newline, linesWithEnds_concat_newline single, List.singleton_append]
  have stays : (isShebang (first ++ ['\n']) || declaresEncoding (first ++ ['\n'])) = true :=
    (opensHeader_append_newline first []).trans opens
  cases more : linesWithEnds below with
  | nil =>
      rw [linesWithEnds_eq_nil more] at declares
      cases declares
  | cons second more' =>
      rw [← restOfLine_of_linesWithEnds more, declaresEncoding_restOfLine] at declares
      have header : opensHeader second = true := by rw [opensHeader, declares, Bool.or_true]
      have positive := byteSize_pos_of_opensHeader header
      simp only [headerEnd, lines, more, stays, declares, if_true]
      omega

/-! The text with the tag in it. -/

/-- A text that is put between two lines changes no line above it. -/
theorem restOfLine_of_apart (front : List Char) {line text below : List Char}
    (apart : Apart (front ++ line) text)
    (ends : EndsLine (front ++ line) ∨ below = []) (shown : line ≠ []) :
    restOfLine (line ++ (text ++ below)) = restOfLine (line ++ below) := by
  have crosses (ends : EndsLine (front ++ line)) (other : List Char) :
      restOfLine (line ++ other) = restOfLine line := by
    obtain ⟨kept, rfl⟩ := ends.of_append shown
    exact restOfLine_append_of_mem (by simp) other
  rcases ends with ends | rfl
  · rw [crosses ends, crosses ends]
  · rcases apart with ends | rfl | ⟨rest, rfl⟩
    · rw [crosses ends, crosses ends]
    · rfl
    · rw [List.cons_append, restOfLine_append_newline, List.append_nil]

theorem line_below_first {first : List Char} (single : '\n' ∉ first) (front below : List Char) :
    let start := byteSize front + (byteSize first + 1)
    restOfLine (dropBytes start (front ++ (first ++ '\n' :: below))) = restOfLine below ∧
      lineAt start (front ++ (first ++ '\n' :: below)) = 2 + front.count '\n' := by
  intro start
  have size : start = byteSize (front ++ (first ++ ['\n'])) := by
    rw [byteSize_append, byteSize_append]
    rfl
  have whole : front ++ (first ++ '\n' :: below) = (front ++ (first ++ ['\n'])) ++ below := by simp
  rw [size, whole, dropBytes_append, lineAt_byteSize]
  refine ⟨rfl, ?_⟩
  simp only [List.count_append, List.count_eq_zero_of_not_mem single, List.count_singleton_self]
  omega

theorem second_line_stays {edit : Edit} {first below above rest : List Char} (single : '\n' ∉ first)
    (cut : first ++ '\n' :: below = above ++ rest) (here : edit.offset = byteSize above)
    (beyond : byteSize first + 1 < edit.offset) (apart : Apart above edit.text.toList)
    (ends : EndsLine above ∨ rest = []) :
    let start := Edit.shifted [edit] (byteSize first + 1)
    restOfLine (dropBytes start (edit.insert (first ++ '\n' :: below))) = restOfLine below ∧
      lineAt start (edit.insert (first ++ '\n' :: below)) = 2 := by
  intro start
  have size : byteSize (first ++ ['\n']) = byteSize first + 1 := byteSize_append _ _
  have lines : (first ++ ['\n']) ++ below = above ++ rest := by
    rw [← cut, List.append_assoc, List.singleton_append]
  obtain ⟨line, rfl, rfl⟩ := prefix_of_byteSize_le lines (by omega)
  have shown : line ≠ [] := by
    rintro rfl
    simp [here, size] at beyond
  have place : start = byteSize ([] : List Char) + (byteSize first + 1) :=
    (Edit.shifted_of_lt beyond).trans (Nat.zero_add _).symm
  obtain ⟨kept, second⟩ := line_below_first single [] (line ++ (edit.text.toList ++ rest))
  rw [restOfLine_of_apart _ apart ends shown] at kept
  rw [place, cut, Edit.insert_append here]
  simpa using And.intro kept second

/-- An edit that is made above the first line moves the second one down. -/
theorem second_line_moves {edit : Edit} {first : List Char} (single : '\n' ∉ first)
    (below : List Char) (here : edit.offset = 0) :
    let start := Edit.shifted [edit] (byteSize first + 1)
    restOfLine (dropBytes start (edit.insert (first ++ '\n' :: below))) = restOfLine below ∧
      lineAt start (edit.insert (first ++ '\n' :: below)) = 2 + edit.text.toList.count '\n' := by
  intro start
  have place : start = byteSize edit.text.toList + (byteSize first + 1) :=
    (Edit.shifted_of_le (by simp [here])).trans (Nat.add_comm _ _)
  have pushed := Edit.insert_append (here.trans byteSize_nil.symm) (first ++ '\n' :: below)
  rw [List.nil_append, List.nil_append] at pushed
  rw [place, pushed]
  exact line_below_first single edit.text.toList below

theorem count_newline_componentEdit (path : Path) {content : List Char}
    (header : headerEnd content = 0) (value : String) :
    (componentEdit path content value).text.toList.count '\n' = 1 + value.toList.count '\n' := by
  have opening : (commentOpeningOf path).toList.count '\n' = 0 :=
    List.count_eq_zero_of_not_mem (plain_commentOpeningOf path).2
  simp [componentEdit, header, opening, render, opener, keyword, arrow, Nat.add_comm]

end Repair

open Repair

/-- The line of a component tag leaves a header on the first line there.  A declaration on the
second line stays there when the first line opens the header, and else it moves below the second
line, by all the lines that are written. -/
theorem component_below_header {issue : Issue} {value : String}
    (asks : issue.repair = some (.insertComponent value)) (file content : String) :
    ∃ edit edited, repair file content [issue] = .ok ⟨String.ofList edited, 1⟩ ∧
      plan (Path.ofString file) content.toList (.insertComponent value) = .ok (some edit) ∧
      edited = edit.insert content.toList ∧
      (opensHeader (restOfLine content.toList) = true →
        restOfLine edited = restOfLine content.toList) ∧
      ∀ first below, content.toList = first ++ '\n' :: below → '\n' ∉ first →
        declaresEncoding (restOfLine below) = true →
        let start := Edit.shifted [edit] (byteSize first + 1)
        restOfLine (dropBytes start edited) = restOfLine below ∧
        lineAt start edited =
          if opensHeader first = true then 2 else 3 + value.toList.count '\n' := by
  have asked : [issue].filterMap Issue.repair = [.insertComponent value] := by
    rw [List.filterMap_cons, asks, List.filterMap_nil]
  have planned := plan_insertComponent (Path.ofString file) content.toList value
  have repaired := repair_of_single asked planned
  have lines (header : headerEnd content.toList = 0) :=
    count_newline_componentEdit (Path.ofString file) header value
  obtain ⟨above, rest, whole, header, ends⟩ := headerEnd_split content.toList
  have apart := apart_componentEdit (Path.ofString file) whole header value
  have here : (componentEdit (Path.ofString file) content.toList value).offset = byteSize above :=
    header
  generalize componentEdit (Path.ofString file) content.toList value = edit at *
  have made : edit.insert content.toList = above ++ (edit.text.toList ++ rest) := by
    rw [whole, Edit.insert_append here]
  refine ⟨edit, _, ?repaired, planned, rfl, ?first, ?second⟩
  case repaired =>
    rw [repaired]
    simp [Edit.insertAll, Edit.insertFrom, Edit.insert]
  case first =>
    intro opens
    have shown : above ≠ [] := by
      rintro rfl
      have closed := headerEnd_eq_zero_iff.mp header
      simp [opens] at closed
    rw [made, whole]
    exact restOfLine_of_apart [] apart ends shown
  case second =>
    intro first below split single declares start
    rw [split] at whole header ⊢
    by_cases opens : opensHeader first = true
    · have beyond : byteSize first + 1 < edit.offset := by
        have size : byteSize (first ++ ['\n']) = byteSize first + 1 := byteSize_append _ _
        rw [here, ← header, ← size]
        exact lt_headerEnd single opens declares
      rw [if_pos opens]
      exact second_line_stays single whole here beyond apart ends
    · have none : headerEnd (first ++ '\n' :: below) = 0 := by
        rw [headerEnd_eq_zero_iff, restOfLine_append_newline, opensHeader_restOfLine]
        simpa using opens
      obtain ⟨moved, lower⟩ := second_line_moves single below
        (here.trans (header.symm.trans none))
      rw [if_neg opens]
      refine ⟨moved, lower.trans ?_⟩
      rw [lines (split ▸ none)]
      omega

theorem component_below_header_note :
    let text := "# note\n# coding: utf-8\nimport os\n"
    let issue := (Issue.ofFile .warning "component-required" "x.py" "").withRepair
      (.insertComponent "misc")
    ∃ edit edited, repair "x.py" text [issue] = .ok ⟨String.ofList edited, 1⟩ ∧
      edited = edit.insert text.toList ∧
      let start := Edit.shifted [edit] 7
      restOfLine (dropBytes start edited) = "# coding: utf-8".toList ∧ lineAt start edited = 3 := by
  intro text issue
  obtain ⟨edit, edited, repaired, -, made, -, moved⟩ :=
    component_below_header (rfl : issue.repair = some (.insertComponent "misc")) "x.py" text
  have declares : declaresEncoding (restOfLine "# coding: utf-8\nimport os\n".toList) = true := by
    decide
  have second := moved "# note".toList _ (by decide) (by decide) declares
  exact ⟨edit, edited, repaired, made, second⟩

end TagAudit
