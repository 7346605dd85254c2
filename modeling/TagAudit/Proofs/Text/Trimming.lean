import Mathlib.Data.List.DropRight
import TagAudit.Text.Basic

/-! Blank characters at the ends of a text. -/

namespace TagAudit.Text

private theorem trimEnd_eq (cs : List Char) : trimEnd cs = cs.rdropWhile isBlank := rfl

theorem trimStart_suffix (cs : List Char) : trimStart cs <:+ cs :=
  List.dropWhile_suffix isBlank

theorem prefix_trimEnd (cs : List Char) : trimEnd cs <+: cs :=
  List.rdropWhile_prefix isBlank cs

theorem infix_trim (cs : List Char) : trim cs <:+: cs :=
  (prefix_trimEnd _).isInfix.trans (trimStart_suffix cs).isInfix

theorem trimEnd_append_blanks (cs : List Char) :
    ∃ blanks, trimEnd cs ++ blanks = cs ∧ ∀ c ∈ blanks, isBlank c = true :=
  ⟨cs.rtakeWhile isBlank, List.rdropWhile_append_rtakeWhile,
    fun _ member => List.mem_rtakeWhile_imp member⟩

theorem trimStart_of_blanks_append {blanks : List Char}
    (blank : ∀ c ∈ blanks, isBlank c = true) (cs : List Char) :
    trimStart (blanks ++ cs) = trimStart cs :=
  List.dropWhile_append_of_pos blank

theorem trimEnd_of_append_blanks (cs : List Char) {blanks : List Char}
    (blank : ∀ c ∈ blanks, isBlank c = true) :
    trimEnd (cs ++ blanks) = trimEnd cs := by
  induction blanks using List.reverseRecOn with
  | nil => simp
  | append_singleton blanks c induction =>
      rw [← List.append_assoc, trimEnd_eq, List.rdropWhile_concat_pos _ _ _ (blank c (by simp))]
      exact induction fun d member => blank d (by simp [member])

@[simp] theorem trimStart_trimStart (cs : List Char) :
    trimStart (trimStart cs) = trimStart cs :=
  List.dropWhile_idempotent isBlank cs

@[simp] theorem trimEnd_trimEnd (cs : List Char) : trimEnd (trimEnd cs) = trimEnd cs :=
  List.rdropWhile_idempotent isBlank cs

theorem trimStart_eq_nil_iff {cs : List Char} :
    trimStart cs = [] ↔ ∀ c ∈ cs, isBlank c = true :=
  List.dropWhile_eq_nil_iff

theorem trimEnd_eq_nil_iff {cs : List Char} :
    trimEnd cs = [] ↔ ∀ c ∈ cs, isBlank c = true :=
  List.rdropWhile_eq_nil_iff

theorem trimStart_trimEnd {cs : List Char} (tight : trimStart cs = cs) :
    trimStart (trimEnd cs) = trimEnd cs := by
  cases cs with
  | nil => rfl
  | cons c cs =>
      have visible : isBlank c = false := by
        by_cases blank : isBlank c = true
        · rw [trimStart, List.dropWhile_cons_of_pos blank] at tight
          have shorter := (List.dropWhile_suffix (l := cs) isBlank).length_le
          rw [tight, List.length_cons] at shorter
          omega
        · simpa using blank
      obtain ⟨rest, split⟩ := prefix_trimEnd (c :: cs)
      cases kept : trimEnd (c :: cs) with
      | nil =>
          have blank := trimEnd_eq_nil_iff.mp kept c (by simp)
          simp [visible] at blank
      | cons d front =>
          rw [kept, List.cons_append, List.cons.injEq] at split
          rw [trimStart, List.dropWhile_cons_of_neg (by simp [split.1, visible])]

@[simp] theorem trim_trim (cs : List Char) : trim (trim cs) = trim cs := by
  rw [trim, trim, trimStart_trimEnd (trimStart_trimStart cs), trimEnd_trimEnd]

theorem trim_eq_nil_iff {cs : List Char} : trim cs = [] ↔ ∀ c ∈ cs, isBlank c = true := by
  rw [trim, trimEnd_eq_nil_iff]
  constructor
  · intro blank
    by_contra visible
    push Not at visible
    obtain ⟨c, member, visible⟩ := visible
    have kept : trimStart cs ≠ [] := fun empty =>
      visible (trimStart_eq_nil_iff.mp empty c member)
    have first := List.head_dropWhile_not isBlank kept
    exact absurd ((blank _ (List.head_mem kept)).symm.trans first) (by decide)
  · exact fun blank c member => blank c ((trimStart_suffix cs).subset member)

theorem trim_of_visible {cs : List Char} (visible : ∀ c ∈ cs, isBlank c = false) :
    trim cs = cs := by
  have start : trimStart cs = cs :=
    List.dropWhile_eq_self_iff.mpr fun some => by simp [visible _ (List.getElem_mem some)]
  have finish : trimEnd cs = cs :=
    List.rdropWhile_eq_self_iff.mpr fun some => by simp [visible _ (List.getLast_mem some)]
  rw [trim, start, finish]

theorem exists_trim (cs : List Char) :
    ∃ before after, cs = before ++ (trim cs ++ after) ∧ ∀ c ∈ before ++ after, isBlank c := by
  obtain ⟨after, ends, blank⟩ := trimEnd_append_blanks (trimStart cs)
  refine ⟨cs.takeWhile isBlank, after, ?_, List.forall_mem_append.mpr ⟨?_, blank⟩⟩
  · rw [trim, ends]
    exact List.takeWhile_append_dropWhile.symm
  · exact fun c member => List.mem_takeWhile_imp member

theorem trimStart_append_of_ne_nil {cs : List Char} (shown : trimStart cs ≠ [])
    (more : List Char) : trimStart (cs ++ more) = trimStart cs ++ more := by
  rw [trimStart, List.dropWhile_append, if_neg (by simpa [trimStart] using shown)]
  rfl

theorem trim_append_blanks (cs : List Char) {blanks : List Char}
    (blank : ∀ c ∈ blanks, isBlank c = true) : trim (cs ++ blanks) = trim cs := by
  by_cases empty : trimStart cs = []
  · have all := trimStart_eq_nil_iff.mp empty
    rw [trim_eq_nil_iff.mpr all, trim_eq_nil_iff]
    exact List.forall_mem_append.mpr ⟨all, blank⟩
  · rw [trim, trimStart_append_of_ne_nil empty, trimEnd_of_append_blanks _ blank, trim]

theorem trimEnd_append_of_ne_nil {cs : List Char} (shown : trimEnd cs ≠ [])
    (before : List Char) : trimEnd (before ++ cs) = before ++ trimEnd cs := by
  have kept : cs.reverse.dropWhile isBlank ≠ [] := by simpa [trimEnd] using shown
  rw [trimEnd, List.reverse_append, List.dropWhile_append, if_neg (by simpa using kept),
    List.reverse_append, List.reverse_reverse]
  rfl

/-- Blanks between two texts are kept when both say something, and trimmed away otherwise. -/
theorem trim_append_blanks_append (a b : List Char) {blanks : List Char}
    (blank : ∀ c ∈ blanks, isBlank c = true) :
    trim (a ++ (blanks ++ b)) =
      if trim a = [] then trim b
      else if trim b = [] then trim a
      else trimStart a ++ (blanks ++ trimEnd b) := by
  split
  next none =>
    have all := List.forall_mem_append.mpr ⟨trim_eq_nil_iff.mp none, blank⟩
    rw [← List.append_assoc, trim, trimStart_of_blanks_append all, ← trim]
  next some =>
    split
    next none =>
      exact trim_append_blanks a (List.forall_mem_append.mpr ⟨blank, trim_eq_nil_iff.mp none⟩)
    next shown =>
      have begins : trimStart a ≠ [] := fun empty =>
        some (trim_eq_nil_iff.mpr (trimStart_eq_nil_iff.mp empty))
      have ends : trimEnd b ≠ [] := fun empty =>
        shown (trim_eq_nil_iff.mpr (trimEnd_eq_nil_iff.mp empty))
      rw [trim, trimStart_append_of_ne_nil begins, ← List.append_assoc,
        trimEnd_append_of_ne_nil ends, List.append_assoc]

end TagAudit.Text
