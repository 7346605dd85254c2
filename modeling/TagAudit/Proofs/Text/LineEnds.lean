import TagAudit.Proofs.Text.Lines
import TagAudit.Proofs.Text.Offsets
import TagAudit.Proofs.Text.Trimming

/-! Texts whose lines end with a carriage return and a line feed. -/

namespace TagAudit.Text

def crlf (cs : List Char) : List Char :=
  cs.flatMap fun c => if c = '\n' then ['\r', '\n'] else [c]

@[simp] theorem crlf_nil : crlf [] = [] := rfl

@[simp] theorem crlf_append (a b : List Char) : crlf (a ++ b) = crlf a ++ crlf b := by
  simp [crlf]

@[simp] theorem crlf_newline (cs : List Char) : crlf ('\n' :: cs) = '\r' :: '\n' :: crlf cs := rfl

theorem crlf_cons {c : Char} (other : c ≠ '\n') (cs : List Char) :
    crlf (c :: cs) = c :: crlf cs := by
  simp [crlf, other]

theorem crlf_of_not_mem {cs : List Char} (single : '\n' ∉ cs) : crlf cs = cs := by
  induction cs with
  | nil => rfl
  | cons c cs induction =>
      simp only [List.mem_cons, not_or] at single
      rw [crlf_cons (Ne.symm single.1), induction single.2]

theorem count_newline_crlf (cs : List Char) : (crlf cs).count '\n' = cs.count '\n' := by
  induction cs with
  | nil => rfl
  | cons c cs induction =>
      by_cases newline : c = '\n'
      · subst newline
        simp [induction]
      · rw [crlf_cons newline, List.count_cons, List.count_cons, induction]

/-- A front of the longer text that keeps to one line and does not cut a line end in two is a
front of the shorter text. -/
theorem exists_of_crlf_eq_append {cs front rest : List Char} (same : crlf cs = front ++ rest)
    (single : '\n' ∉ front) (whole : front.getLast? ≠ some '\r') :
    ∃ tail, cs = front ++ tail ∧ rest = crlf tail := by
  induction front generalizing cs with
  | nil => exact ⟨cs, rfl, same.symm⟩
  | cons c front induction =>
      simp only [List.mem_cons, not_or] at single
      cases cs with
      | nil => simp at same
      | cons d cs =>
          by_cases newline : d = '\n'
          · subst newline
            rw [crlf_newline, List.cons_append, List.cons.injEq] at same
            obtain ⟨rfl, same⟩ := same
            cases front with
            | nil => exact absurd rfl whole
            | cons e front => simp_all
          · rw [crlf_cons newline, List.cons_append, List.cons.injEq] at same
            obtain ⟨rfl, same⟩ := same
            have wholeTail : front.getLast? ≠ some '\r' := by
              cases front with
              | nil => simp
              | cons e front => rwa [List.getLast?_cons_cons] at whole
            obtain ⟨tail, split, rest⟩ := induction same single.2 wholeTail
            exact ⟨tail, by rw [split, List.cons_append], rest⟩

/-! Blank characters at the ends. -/

private theorem trimStart_cons (c : Char) (cs : List Char) :
    trimStart (c :: cs) = if isBlank c then trimStart cs else c :: cs := by
  unfold trimStart
  rw [List.dropWhile_cons]

theorem trimStart_crlf (cs : List Char) : trimStart (crlf cs) = crlf (trimStart cs) := by
  induction cs with
  | nil => rfl
  | cons c cs induction =>
      by_cases newline : c = '\n'
      · subst newline
        exact induction
      · rw [crlf_cons newline, trimStart_cons, trimStart_cons]
        cases isBlank c with
        | false => exact (crlf_cons newline cs).symm
        | true => exact induction

private theorem trimEnd_concat (cs : List Char) (c : Char) :
    trimEnd (cs ++ [c]) = if isBlank c then trimEnd cs else cs ++ [c] := by
  unfold trimEnd
  rw [List.reverse_concat, List.dropWhile_cons]
  cases isBlank c <;> simp

theorem trimEnd_crlf (cs : List Char) : trimEnd (crlf cs) = crlf (trimEnd cs) := by
  induction cs using List.reverseRecOn with
  | nil => rfl
  | append_singleton cs c induction =>
      by_cases newline : c = '\n'
      · subst newline
        have returned : crlf (cs ++ ['\n']) = crlf cs ++ ['\r'] ++ ['\n'] := by simp
        rw [returned, trimEnd_concat, trimEnd_concat, trimEnd_concat]
        exact induction
      · rw [crlf_append, crlf_cons newline, crlf_nil, trimEnd_concat, trimEnd_concat]
        cases isBlank c with
        | false => simp [crlf_cons newline]
        | true => exact induction

theorem trim_crlf (cs : List Char) : trim (crlf cs) = crlf (trim cs) := by
  unfold trim
  rw [trimStart_crlf, trimEnd_crlf]

/-! Lines. -/

theorem linesWithEnds_crlf (cs : List Char) :
    linesWithEnds (crlf cs) = (linesWithEnds cs).map crlf := by
  induction cs with
  | nil => rfl
  | cons c cs induction =>
      by_cases newline : c = '\n'
      · subst newline
        simp [linesWithEnds, induction]
      · rw [crlf_cons newline, linesWithEnds, linesWithEnds, if_neg newline, if_neg newline,
          induction]
        cases linesWithEnds cs with
        | nil => simp [crlf_cons newline]
        | cons line more => simp [crlf_cons newline]

theorem line_cases {cs line : List Char} (member : line ∈ linesWithEnds cs) :
    ∃ text, '\n' ∉ text ∧ (line = text ∨ line = text ++ ['\n']) := by
  induction cs generalizing line with
  | nil => simp [linesWithEnds] at member
  | cons c cs induction =>
      rw [linesWithEnds] at member
      split at member
      next newline =>
        rcases List.mem_cons.mp member with rfl | member
        · exact ⟨[], by simp, .inr rfl⟩
        · exact induction member
      next other =>
        cases below : linesWithEnds cs with
        | nil =>
            rw [below, List.mem_singleton] at member
            exact ⟨[c], by simpa using Ne.symm other, .inl member⟩
        | cons first more =>
            rw [below] at member induction
            rcases List.mem_cons.mp member with rfl | member
            · obtain ⟨text, single, shape⟩ := induction List.mem_cons_self
              refine ⟨c :: text, by simp [single, Ne.symm other], ?_⟩
              exact shape.imp (congrArg (c :: ·)) (congrArg (c :: ·))
            · exact induction (List.mem_cons_of_mem _ member)

theorem flatten_linesWithEnds (cs : List Char) : (linesWithEnds cs).flatten = cs := by
  induction cs with
  | nil => rfl
  | cons c cs induction =>
      rw [linesWithEnds]
      split
      next newline => simp [newline, induction]
      next => cases below : linesWithEnds cs <;> simp_all

private theorem chomp_newline {text : List Char} (plain : '\r' ∉ text) :
    chomp (text ++ ['\n']) = text := by
  unfold chomp
  rw [List.reverse_concat]
  split
  next rest same =>
    obtain ⟨-, same⟩ := List.cons.inj same
    exact absurd (List.mem_reverse.mp (same ▸ List.mem_cons_self)) plain
  next rest _ same => rw [← (List.cons.inj same).2, List.reverse_reverse]
  next shape => exact absurd rfl (shape text.reverse)

private theorem chomp_return (text : List Char) : chomp (text ++ ['\r', '\n']) = text := by
  simp [chomp]

/-- The lines of a text without carriage returns do not show how they end. -/
theorem lines_crlf {cs : List Char} (plain : '\r' ∉ cs) : lines (crlf cs) = lines cs := by
  unfold lines
  rw [linesWithEnds_crlf, List.map_map]
  apply List.map_congr_left
  intro line member
  have plainLine : '\r' ∉ line := by
    intro inside
    rw [← flatten_linesWithEnds cs] at plain
    exact plain (List.mem_flatten_of_mem member inside)
  obtain ⟨text, single, rfl | rfl⟩ := line_cases member
  · rw [Function.comp_apply, crlf_of_not_mem single]
  · have plainText : '\r' ∉ text := fun inside => plainLine (List.mem_append_left _ inside)
    rw [Function.comp_apply, crlf_append, crlf_of_not_mem single, crlf_newline, crlf_nil,
      chomp_return, chomp_newline plainText]

end TagAudit.Text
