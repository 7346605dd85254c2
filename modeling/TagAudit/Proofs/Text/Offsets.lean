import Mathlib.Data.List.TakeWhile
import TagAudit.Text.Basic

/-! Byte positions in a text that is put together from parts: the position where a
part ends leads back to the parts. -/

namespace TagAudit.Text

@[simp] theorem byteSize_nil : byteSize [] = 0 := rfl

private theorem foldl_utf8Size (cs : List Char) (n : Nat) :
    cs.foldl (fun n c => n + c.utf8Size) n = n + byteSize cs := by
  induction cs generalizing n with
  | nil => rfl
  | cons c cs induction =>
      simp only [byteSize, List.foldl_cons] at induction ⊢
      rw [induction, induction (0 + c.utf8Size)]
      omega

@[simp] theorem byteSize_cons (c : Char) (cs : List Char) :
    byteSize (c :: cs) = c.utf8Size + byteSize cs := by
  rw [byteSize, List.foldl_cons, foldl_utf8Size]
  omega

@[simp] theorem byteSize_append (a b : List Char) :
    byteSize (a ++ b) = byteSize a + byteSize b := by
  rw [byteSize, List.foldl_append, foldl_utf8Size, foldl_utf8Size]
  omega

theorem byteSize_pos {cs : List Char} (nonempty : cs ≠ []) : 0 < byteSize cs := by
  cases cs with
  | nil => exact absurd rfl nonempty
  | cons c cs =>
      have positive := c.utf8Size_pos
      simp only [byteSize_cons]
      omega

theorem byteSize_eq_zero {cs : List Char} : byteSize cs = 0 ↔ cs = [] := by
  constructor
  · intro size
    by_cases empty : cs = []
    · exact empty
    · have positive := byteSize_pos empty
      omega
  · rintro rfl
    rfl

theorem prefix_of_byteSize_le {a b x y : List Char} (same : a ++ b = x ++ y)
    (size : byteSize a ≤ byteSize x) : ∃ z, x = a ++ z ∧ b = z ++ y := by
  rcases List.append_eq_append_iff.mp same with ⟨z, longer, rest⟩ | ⟨z, longer, rest⟩
  · exact ⟨z, longer, rest⟩
  · have sizes := congrArg byteSize longer
    rw [byteSize_append] at sizes
    obtain rfl := byteSize_eq_zero.mp (by omega : byteSize z = 0)
    exact ⟨[], by simpa using longer.symm, by simpa using rest.symm⟩

theorem append_inj_of_byteSize {a b x y : List Char} (same : a ++ b = x ++ y)
    (size : byteSize a = byteSize x) : a = x ∧ b = y := by
  obtain ⟨z, longer, rest⟩ := prefix_of_byteSize_le same size.le
  rw [longer, byteSize_append] at size
  obtain rfl := byteSize_eq_zero.mp (by omega : byteSize z = 0)
  exact ⟨by rw [longer, List.append_nil], rest⟩

@[simp] theorem takeBytes_zero (cs : List Char) : takeBytes 0 cs = [] := by
  cases cs <;> rfl

@[simp] theorem dropBytes_zero (cs : List Char) : dropBytes 0 cs = cs := by
  cases cs <;> rfl

theorem takeBytes_append_add (a b : List Char) (n : Nat) :
    takeBytes (byteSize a + n) (a ++ b) = a ++ takeBytes n b := by
  induction a with
  | nil => simp
  | cons c a induction =>
      have positive := c.utf8Size_pos
      have rest : c.utf8Size + byteSize a + n - c.utf8Size = byteSize a + n := by omega
      simp only [byteSize_cons, List.cons_append, takeBytes, rest, induction]
      rw [if_neg (by omega)]

theorem dropBytes_append_add (a b : List Char) (n : Nat) :
    dropBytes (byteSize a + n) (a ++ b) = dropBytes n b := by
  induction a with
  | nil => simp
  | cons c a induction =>
      have positive := c.utf8Size_pos
      have rest : c.utf8Size + byteSize a + n - c.utf8Size = byteSize a + n := by omega
      simp only [byteSize_cons, List.cons_append, dropBytes, rest, induction]
      rw [if_neg (by omega)]

@[simp] theorem takeBytes_append (a b : List Char) :
    takeBytes (byteSize a) (a ++ b) = a := by
  simpa using takeBytes_append_add a b 0

@[simp] theorem dropBytes_append (a b : List Char) :
    dropBytes (byteSize a) (a ++ b) = b := by
  simpa using dropBytes_append_add a b 0

theorem takeBytes_append_of_le {a : List Char} {n : Nat} (inside : n ≤ byteSize a)
    (b : List Char) : takeBytes n (a ++ b) = takeBytes n a := by
  induction a generalizing n with
  | nil =>
      obtain rfl : n = 0 := by simpa using inside
      simp
  | cons c a induction =>
      rw [byteSize_cons] at inside
      have positive := c.utf8Size_pos
      simp only [List.cons_append, takeBytes]
      split
      · rfl
      · rw [induction (by omega)]

theorem takeBytes_append_dropBytes (n : Nat) (cs : List Char) :
    takeBytes n cs ++ dropBytes n cs = cs := by
  induction cs generalizing n with
  | nil => rfl
  | cons c cs induction =>
      by_cases here : n = 0
      · simp [here]
      · simp [takeBytes, dropBytes, here, induction]

/-! The last line of a text. -/

@[simp] theorem lastLine_nil : lastLine [] = [] := rfl

theorem newline_not_mem_lastLine (cs : List Char) : '\n' ∉ lastLine cs := by
  intro member
  simp only [lastLine, List.mem_reverse] at member
  simpa using List.mem_takeWhile_imp member

private theorem ne_newline {cs : List Char} (single : '\n' ∉ cs) :
    ∀ c ∈ cs.reverse, decide (c ≠ '\n') = true := by
  intro c member
  have other : c ≠ '\n' := by
    rintro rfl
    exact single (List.mem_reverse.mp member)
  simpa using other

theorem lastLine_of_newline_not_mem {cs : List Char} (single : '\n' ∉ cs) :
    lastLine cs = cs := by
  rw [lastLine, List.takeWhile_eq_self_iff.mpr (ne_newline single), List.reverse_reverse]

theorem lastLine_append_newline (a : List Char) {b : List Char} (single : '\n' ∉ b) :
    lastLine (a ++ '\n' :: b) = b := by
  rw [lastLine, List.reverse_append, List.reverse_cons, List.append_assoc,
    List.takeWhile_append_of_pos (ne_newline single)]
  simp

/-- Every text is its last line alone, or ends in a line feed and that line. -/
theorem lastLine_cases (cs : List Char) :
    (cs = lastLine cs ∧ '\n' ∉ cs) ∨ ∃ above, cs = above ++ '\n' :: lastLine cs := by
  induction cs with
  | nil => exact .inl ⟨rfl, by simp⟩
  | cons c cs induction =>
      rcases induction with ⟨whole, single⟩ | ⟨above, split⟩
      · by_cases newline : c = '\n'
        · subst newline
          have last : lastLine ('\n' :: cs) = cs := lastLine_append_newline [] single
          exact .inr ⟨[], by simp [last]⟩
        · have none : '\n' ∉ c :: cs := by
            simp only [List.mem_cons, not_or]
            exact ⟨fun same => newline same.symm, single⟩
          exact .inl ⟨(lastLine_of_newline_not_mem none).symm, none⟩
      · have last : lastLine (c :: cs) = lastLine cs := by
          have ends := lastLine_append_newline (c :: above) (newline_not_mem_lastLine cs)
          rwa [List.cons_append, ← split] at ends
        exact .inr ⟨c :: above, by rw [last, List.cons_append, ← split]⟩

theorem lastLine_suffix (cs : List Char) : lastLine cs <:+ cs := by
  rcases lastLine_cases cs with ⟨whole, -⟩ | ⟨above, split⟩
  · exact whole ▸ List.suffix_rfl
  · exact ⟨above ++ ['\n'], by simp [← split]⟩

theorem lastLine_append_of_mem (a : List Char) {b : List Char} (broken : '\n' ∈ b) :
    lastLine (a ++ b) = lastLine b := by
  rcases lastLine_cases b with ⟨-, single⟩ | ⟨above, split⟩
  · exact absurd broken single
  · rw [split, ← List.append_assoc, lastLine_append_newline _ (newline_not_mem_lastLine b),
      lastLine_append_newline _ (newline_not_mem_lastLine b)]

theorem lastLine_cons_newline (cs : List Char) : lastLine ('\n' :: cs) = lastLine cs := by
  by_cases broken : '\n' ∈ cs
  · exact lastLine_append_of_mem ['\n'] broken
  · rw [lastLine_of_newline_not_mem broken]
    exact lastLine_append_newline [] broken

theorem lastLine_append (a : List Char) {b : List Char} (single : '\n' ∉ b) :
    lastLine (a ++ b) = lastLine a ++ b := by
  rcases lastLine_cases a with ⟨whole, none⟩ | ⟨above, split⟩
  · rw [← whole, lastLine_of_newline_not_mem]
    simp [none, single]
  · have tail : '\n' ∉ lastLine a ++ b := by
      simp [newline_not_mem_lastLine, single]
    have ends := lastLine_append_newline above tail
    rwa [← List.cons_append, ← List.append_assoc, ← split] at ends

/-! Places in a text. -/

namespace Place

/-- The search passes the characters before a place and keeps the line that they end with. -/
private theorem findFrom_append_add (line a b : List Char) (n : Nat) (single : '\n' ∉ line) :
    findFrom (byteSize a + n) (line ++ a ++ b) line.length (a ++ b) =
      findFrom n (lastLine (line ++ a) ++ b) (lastLine (line ++ a)).length b := by
  induction a generalizing line with
  | nil => simp [lastLine_of_newline_not_mem single]
  | cons c a induction =>
      have positive := c.utf8Size_pos
      have rest : c.utf8Size + byteSize a + n - c.utf8Size = byteSize a + n := by omega
      simp only [byteSize_cons, List.cons_append, findFrom, rest]
      rw [if_neg (by omega), if_neg (by omega)]
      by_cases newline : c = '\n'
      · subst newline
        have step := induction [] (by simp)
        simp only [List.nil_append, List.length_nil] at step
        have last : lastLine (line ++ '\n' :: a) = lastLine a := by
          rw [lastLine_append_of_mem line (by simp)]
          exact lastLine_cons_newline a
        rw [if_pos rfl, step, last]
      · have extended : '\n' ∉ line ++ [c] := by
          simp only [List.mem_append, List.mem_singleton, not_or]
          exact ⟨single, fun same => newline same.symm⟩
        have step := induction (line ++ [c]) extended
        rw [if_neg newline]
        simpa using step

theorem find?_append_add (a b : List Char) (n : Nat) :
    find? (byteSize a + n) (a ++ b) =
      findFrom n (lastLine a ++ b) (lastLine a).length b := by
  simpa [find?] using findFrom_append_add [] a b n (by simp)

theorem find?_append (a b : List Char) :
    find? (byteSize a) (a ++ b) = some ⟨lastLine a, b, 0⟩ := by
  rw [← Nat.add_zero (byteSize a), find?_append_add]
  cases b <;> simp [findFrom]

theorem find?_inside (a b : List Char) {c : Char} {n : Nat} (begun : 0 < n)
    (within : n < c.utf8Size) : find? (byteSize a + n) (a ++ c :: b) = none := by
  rw [find?_append_add, findFrom, if_neg begun.ne', if_pos within]

theorem find?_beyond (cs : List Char) (n : Nat) :
    find? (byteSize cs + n) cs = some ⟨lastLine cs, [], n⟩ := by
  have passed := find?_append_add cs [] n
  simpa [findFrom] using passed

end Place

end TagAudit.Text
