import Mathlib.Data.Char
import TagAudit.Proofs.Wildcard.Reading

/-! An escaped text is a pattern, and matches the text and nothing else. -/

namespace TagAudit.Wildcard

variable {text t : List Char} {c : Char}

theorem escape_cons (c : Char) (text : List Char) :
    escape (c :: text) = (if isSpecial c then ['[', c, ']'] else [c]) ++ escape text := rfl

theorem length_escape_cons (c : Char) (text : List Char) :
    (escape (c :: text)).length = (escape text).length + if isSpecial c then 3 else 1 := by
  rw [escape_cons, List.length_append, Nat.add_comm]
  split <;> rfl

theorem length_le_length_escape (text : List Char) : text.length ≤ (escape text).length := by
  induction text with
  | nil => exact Nat.le_refl 0
  | cons c text induction =>
      rw [length_escape_cons, List.length_cons]
      split <;> omega

theorem escape_eq_self_iff : escape text = text ↔ ∀ c ∈ text, isSpecial c = false := by
  induction text with
  | nil => simp [escape]
  | cons c text induction =>
      rw [escape_cons, List.forall_mem_cons]
      by_cases special : isSpecial c = true
      · refine iff_of_false (fun same => ?_) (by simp [special])
        have size := congrArg List.length same
        have more := length_le_length_escape text
        simp [special] at size
        omega
      · simp [special, induction]

def exactly (c : Char) : WildcardToken :=
  if isSpecial c then .within [⟨c, c⟩] else .literal c

theorem isSingle_exactly (c : Char) : (exactly c).isSingle := by
  unfold exactly
  split <;> rfl

theorem fits_exactly_iff {d : Char} : (exactly c).fits d ↔ d = c := by
  unfold exactly
  split
  next =>
    simp only [WildcardToken.fits, inRanges, List.any_cons, List.any_nil, Bool.or_false,
      Bool.and_eq_true, decide_eq_true_eq]
    rw [and_comm]
    exact le_antisymm_iff.symm
  next => simp [WildcardToken.fits]

theorem begins_exactly (before : Option Char) (c : Char) (rest : List Char) :
    ∃ last, Begins before ((if isSpecial c then ['[', c, ']'] else [c]) ++ rest) (exactly c) last
      rest := by
  unfold exactly
  split
  next special =>
    have bracket : readBracket? (c :: ']' :: rest) = some (.within [⟨c, c⟩], rest) := by
      rw [readBracket?]
      · rfl
      · rintro rest same
        rw [(List.cons.inj same).1] at special
        cases special
    exact ⟨']', .set bracket⟩
  next other =>
    refine ⟨c, .literal fun member => other ?_⟩
    simp only [List.mem_cons, List.not_mem_nil, or_false] at member
    rcases member with rfl | rfl | rfl <;> rfl

theorem read_escape (text : List Char) :
    Wildcard.read (escape text) = .ok ⟨text.map exactly⟩ :=
  read_flatMap isSingle_exactly fun c _ before rest => begins_exactly before c rest

theorem matches_map_iff {token : Char → WildcardToken} (single : ∀ c, (token c).isSingle)
    (only : ∀ {c d}, (token c).fits d ↔ d = c) : Matches (text.map token) t ↔ t = text := by
  induction text generalizing t with
  | nil =>
      constructor
      · intro all
        cases all
        rfl
      · rintro rfl
        exact .done
  | cons c text induction =>
      rw [List.map_cons]
      cases t with
      | nil => exact iff_of_false (not_matches_single_nil (single c)) (by simp)
      | cons d t => rw [matches_single_cons (single c), only, induction, List.cons.injEq]

theorem accepts_of_read_escape {pattern : Wildcard}
    (ok : Wildcard.read (escape text) = .ok pattern) :
    pattern.accepts t ↔ t = text := by
  rw [accepts_iff (read_bounded ok)]
  rw [read_escape] at ok
  cases ok
  exact matches_map_iff isSingle_exactly fits_exactly_iff

end TagAudit.Wildcard
