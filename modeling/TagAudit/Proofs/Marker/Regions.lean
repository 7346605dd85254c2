import TagAudit.Marker.Scan
import TagAudit.Proofs.Text.Lines
import TagAudit.Proofs.Text.Offsets
import TagAudit.Proofs.Text.Trimming

/-! The region of a tag and what it says.  Blank characters at the end of a region and an
indented comment marker below it say nothing. -/

namespace TagAudit

open Text

theorem not_isBlank_of_mem_commentMarkers :
    ∀ marker ∈ commentMarkers, ∀ c ∈ marker, isBlank c = false := by
  simp only [commentMarkers, List.forall_mem_cons, List.not_mem_nil, false_implies, implies_true,
    and_true]
  decide

theorem lt_not_mem_of_mem_commentMarkers : ∀ marker ∈ commentMarkers, '<' ∉ marker := by
  decide

private def uncommented? (line marker : List Char) : Option (List Char) := do
  let rest ← dropLead? marker line
  match rest with
  | [] => some []
  | c :: _ => if isBlank c then some (trimStart rest) else none

private theorem stripCommentMarker_eq (line : List Char) :
    stripCommentMarker line =
      (commentMarkers.findSome? (uncommented? (trimStart line))).getD (trimStart line) := rfl

theorem dropLead?_append {lead cs rest : List Char} (apart : ∀ c ∈ rest.head?, c ∉ lead) :
    dropLead? lead (cs ++ rest) = (dropLead? lead cs).map (· ++ rest) := by
  induction lead generalizing cs with
  | nil => rfl
  | cons l lead induction =>
      have step := fun cs => @induction cs fun c first member => apart c first (.tail _ member)
      cases cs with
      | nil =>
          cases rest with
          | nil => rfl
          | cons r rest =>
              have differ : l ≠ r := fun same => apart r rfl (same ▸ .head _)
              simp [dropLead?, differ]
      | cons c cs =>
          by_cases same : l = c
          · simp [dropLead?, same, step]
          · simp [dropLead?, same]

private theorem uncommented?_blanks (line : List Char) {marker blanks : List Char}
    (visible : ∀ c ∈ marker, isBlank c = false) (blank : ∀ c ∈ blanks, isBlank c = true) :
    (uncommented? (line ++ blanks) marker).map trimEnd =
      (uncommented? line marker).map trimEnd := by
  have apart : ∀ c ∈ blanks.head?, c ∉ marker := fun c first member =>
    absurd ((visible c member).symm.trans (blank c (List.mem_of_mem_head? first))) (by decide)
  simp only [uncommented?, dropLead?_append apart]
  cases dropLead? marker line with
  | none => rfl
  | some rest =>
      cases rest with
      | nil =>
          cases blanks with
          | nil => rfl
          | cons b blanks =>
              have all : trimStart (b :: blanks) = [] := trimStart_eq_nil_iff.mpr blank
              simp [blank b (by simp), all]
      | cons c rest =>
          have same := trim_append_blanks (c :: rest) blank
          simp only [trim, List.cons_append] at same
          by_cases first : isBlank c = true <;> simp [first, same]

private theorem findSome?_blanks (line : List Char) {markers : List (List Char)}
    {blanks : List Char}
    (visible : ∀ marker ∈ markers, ∀ c ∈ marker, isBlank c = false)
    (blank : ∀ c ∈ blanks, isBlank c = true) :
    (markers.findSome? (uncommented? (line ++ blanks))).map trimEnd =
      (markers.findSome? (uncommented? line)).map trimEnd := by
  rw [List.map_findSome?, List.map_findSome?]
  induction markers with
  | nil => rfl
  | cons marker markers induction =>
      obtain ⟨here, visible⟩ := List.forall_mem_cons.mp visible
      have same := uncommented?_blanks line here blank
      simp only [List.findSome?_cons, Function.comp_apply, same, induction visible]

theorem trimEnd_stripCommentMarker (line : List Char) {blanks : List Char}
    (blank : ∀ c ∈ blanks, isBlank c = true) :
    trimEnd (stripCommentMarker (line ++ blanks)) = trimEnd (stripCommentMarker line) := by
  rw [stripCommentMarker_eq, stripCommentMarker_eq]
  by_cases empty : trimStart line = []
  · have all := List.forall_mem_append.mpr ⟨trimStart_eq_nil_iff.mp empty, blank⟩
    rw [trimStart_eq_nil_iff.mpr all, empty]
  · have found := findSome?_blanks (trimStart line) not_isBlank_of_mem_commentMarkers blank
    rw [trimStart_append_of_ne_nil empty]
    generalize commentMarkers.findSome? (uncommented? (trimStart line ++ blanks)) = long at found
    generalize commentMarkers.findSome? (uncommented? (trimStart line)) = short at found
    cases long <;> cases short <;> simp_all [trimEnd_of_append_blanks]

theorem chomp_of_newline_not_mem {line : List Char} (single : '\n' ∉ line) : chomp line = line := by
  have first : ∀ rest, line.reverse ≠ '\n' :: rest := fun rest same =>
    single (by rw [← List.mem_reverse, same]; simp)
  unfold chomp
  split
  next same => exact absurd same (first _)
  next same => exact absurd same (first _)
  next => rfl

theorem chomp_concat (line : List Char) (single : '\n' ∉ line) (b : Char)
    (blank : isBlank b = true) :
    trimEnd (stripCommentMarker (chomp (line ++ [b]))) =
      trimEnd (stripCommentMarker (chomp line)) := by
  rw [chomp_of_newline_not_mem single]
  unfold chomp
  rw [List.reverse_concat]
  split
  next rest same =>
    obtain ⟨-, same⟩ := List.cons.inj same
    have split : line = rest.reverse ++ ['\r'] := by simpa using congrArg List.reverse same
    rw [split, trimEnd_stripCommentMarker _ (List.forall_mem_singleton.mpr rfl)]
  next rest _ same =>
    rw [← (List.cons.inj same).2, List.reverse_reverse]
  next => exact trimEnd_stripCommentMarker _ (by simpa using blank)

private theorem chomp_blank (b : Char) (blank : isBlank b = true) :
    trimEnd (stripCommentMarker (chomp [b])) = [] :=
  chomp_concat [] (by simp) b blank

theorem regionBody_append_blanks (region : List Char) {blanks : List Char}
    (blank : ∀ c ∈ blanks, isBlank c = true) :
    regionBody (region ++ blanks) = regionBody region := by
  induction blanks using List.reverseRecOn with
  | nil => simp
  | append_singleton blanks b induction =>
      obtain ⟨blank, last⟩ := List.forall_mem_append.mp blank
      have lastBlank := last b (by simp)
      rw [← induction blank, ← List.append_assoc]
      generalize region ++ blanks = region
      simp only [regionBody, lines, List.map_map]
      rcases linesWithEnds_concat region b with apart | ⟨above, line, single, before, joined⟩
      · rw [apart, List.map_append, List.map_singleton, Function.comp_apply,
          chomp_blank b lastBlank]
        obtain ⟨more, split, blanks⟩ := joinLines_concat_nil
          ((linesWithEnds region).map ((fun line => trimEnd (stripCommentMarker line)) ∘ chomp))
        rw [split, trim_append_blanks _ blanks]
      · simp only [before, joined, List.map_append, List.map_singleton, Function.comp_apply,
          chomp_concat line single b lastBlank]

theorem prefix_regionOf (text : List Char) : regionOf text <+: text := by
  simp only [regionOf]
  split
  · exact List.take_prefix _ _
  · exact List.prefix_rfl

/-- A line with nothing but a comment marker belongs to what stands below. -/
theorem regionOf_append_newline (text : List Char) {lead : List Char} (single : '\n' ∉ lead)
    (comment : isCommentLead lead = true) : regionOf (text ++ '\n' :: lead) = text ++ ['\n'] := by
  have size : (text ++ '\n' :: lead).length - lead.length = (text ++ ['\n']).length := by
    simp only [List.length_append, List.length_cons, List.length_nil]
    omega
  have whole : text ++ '\n' :: lead = (text ++ ['\n']) ++ lead := by simp
  rw [regionOf, lastLine_append_newline _ single, comment, size, if_pos, whole,
    List.take_left]
  simp only [List.length_append, List.length_cons, Bool.and_true, decide_eq_true_eq]
  omega

theorem regionOf_of_text (text : List Char) {lead : List Char} (single : '\n' ∉ lead)
    (shown : ¬ isCommentLead lead = true) :
    regionOf (text ++ '\n' :: lead) = text ++ '\n' :: lead := by
  rw [regionOf, lastLine_append_newline text single, if_neg (by simp [shown])]

/-- How much of a text belongs to the region does not depend on the lines above it. -/
theorem exists_regionOf_append (gap : List Char) :
    ∃ kept, ∀ front, regionOf ((front ++ ['\n']) ++ gap) = (front ++ ['\n']) ++ kept := by
  have last (front : List Char) : lastLine ((front ++ ['\n']) ++ gap) = lastLine gap := by
    by_cases broken : '\n' ∈ gap
    · exact lastLine_append_of_mem _ broken
    · rw [List.append_assoc, List.singleton_append, lastLine_append_newline _ broken,
        lastLine_of_newline_not_mem broken]
  obtain ⟨above, split⟩ := lastLine_suffix gap
  by_cases comment : isCommentLead (lastLine gap) = true
  · refine ⟨above, fun front => ?_⟩
    have whole : (front ++ ['\n']) ++ gap = ((front ++ ['\n']) ++ above) ++ lastLine gap := by
      rw [List.append_assoc, List.append_assoc, List.append_assoc, split]
    have shorter : (lastLine gap).length < ((front ++ ['\n']) ++ gap).length := by
      rw [whole]
      simp only [List.length_append, List.length_cons]
      omega
    rw [regionOf, last, comment, Bool.and_true, if_pos (decide_eq_true shorter), whole,
      List.length_append, Nat.add_sub_cancel, List.take_left, List.append_assoc]
  · refine ⟨gap, fun front => ?_⟩
    rw [regionOf, last, if_neg (by simp [comment])]

/-- A line below the text that a region keeps cuts off nothing that the region says, also
when other lines stand above that text. -/
theorem regionBody_below {g h kept : List Char}
    (keeps : trimEnd (regionOf (g ++ h)) = g ++ kept)
    (ends : (∃ f, g = f ++ ['\n']) ∨ h = []) {lead : List Char} (single : '\n' ∉ lead)
    (comment : isCommentLead lead = true) (front : List Char) :
    regionBody (regionOf ((front ++ ['\n'] ++ kept) ++ '\n' :: lead)) =
      regionBody (regionOf (front ++ ['\n'] ++ h)) := by
  rw [regionOf_append_newline _ single comment,
    regionBody_append_blanks _ (List.forall_mem_singleton.mpr rfl)]
  rcases ends with ⟨f, rfl⟩ | rfl
  · obtain ⟨region, regions⟩ := exists_regionOf_append h
    obtain ⟨blanks, split, blank⟩ := trimEnd_append_blanks (regionOf (f ++ ['\n'] ++ h))
    rw [keeps, regions, List.append_assoc] at split
    rw [regions, ← List.append_cancel_left split, ← List.append_assoc,
      regionBody_append_blanks _ blank]
  · have shorter := ((prefix_trimEnd _).trans (prefix_regionOf g)).length_le
    rw [List.append_nil] at keeps
    rw [keeps, List.length_append] at shorter
    have empty : kept = [] := List.length_eq_zero_iff.mp (by omega)
    rw [empty, List.append_nil, regionOf_append_newline front (by simp) rfl]

end TagAudit
