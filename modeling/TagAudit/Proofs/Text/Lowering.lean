import Mathlib.Data.List.Basic
import TagAudit.Text.Lowercase

/-! Lowercase text has no ASCII capital in it, and small ASCII text is its own lowercase form. -/

namespace TagAudit.Text

def isAsciiCapital (c : Char) : Bool :=
  'A' ≤ c && c ≤ 'Z'

theorem isAsciiCapital_iff {c : Char} :
    isAsciiCapital c = true ↔ 0x41 ≤ c.toNat ∧ c.toNat ≤ 0x5A := by
  rw [isAsciiCapital, Bool.and_eq_true, decide_eq_true_eq, decide_eq_true_eq, Char.le_def,
    Char.le_def, UInt32.le_iff_toNat_le, UInt32.le_iff_toNat_le]
  rfl

private theorem asciiLower_eq (c : Char) :
    asciiLower c = if isAsciiCapital c = true then Char.ofNat (c.toNat + 32) else c := rfl

theorem asciiLower_of_small {c : Char} (small : isAsciiCapital c = false) : asciiLower c = c := by
  rw [asciiLower_eq, if_neg (by simp [small])]

theorem small_ofNat {n : Nat} (apart : n < 0x41 ∨ 0x5A < n) :
    isAsciiCapital (Char.ofNat n) = false := by
  rw [Bool.eq_false_iff, ne_eq, isAsciiCapital_iff]
  by_cases valid : n.isValidChar
  · have same : (Char.ofNat n).toNat = n := by
      rw [Char.ofNat, dif_pos valid]
      rfl
    omega
  · rw [Char.ofNat, dif_neg valid]
    decide

theorem small_asciiLower (c : Char) : isAsciiCapital (asciiLower c) = false := by
  by_cases capital : isAsciiCapital c = true
  · have range := isAsciiCapital_iff.mp capital
    rw [asciiLower_eq, if_pos capital]
    exact small_ofNat (by omega)
  · rw [Bool.not_eq_true] at capital
    rw [asciiLower_of_small capital, capital]

/-- No run of capitals above ASCII has its lowercase forms among the ASCII capitals. -/
private theorem lowercaseRuns_small :
    ∀ run ∈ lowercaseRuns, 0x5A < (run.1 : Int) + run.2.2.2 := by
  decide +kernel

theorem small_of_mem_lowercaseChar {c d : Char} (member : d ∈ lowercaseChar c) :
    isAsciiCapital d = false := by
  unfold lowercaseChar at member
  dsimp only at member
  split at member
  next => rw [List.mem_singleton.mp member, small_asciiLower]
  next above =>
    split at member
    next =>
      rcases List.mem_cons.mp member with rfl | last
      · decide
      · rw [List.mem_singleton.mp last]
        decide
    next =>
      split at member
      next found =>
        obtain rfl := List.mem_singleton.mp member
        have shifted := lowercaseRuns_small _ (List.mem_of_find?_eq_some found)
        dsimp only at shifted
        have within := List.find?_some found
        simp only [Bool.and_eq_true, decide_eq_true_eq] at within
        exact small_ofNat (by omega)
      next =>
        rw [List.mem_singleton.mp member, Bool.eq_false_iff, ne_eq, isAsciiCapital_iff]
        omega

private theorem small_of_mem_lowercaseAfter {before cs : List Char} {d : Char}
    (member : d ∈ lowercaseAfter before cs) : isAsciiCapital d = false := by
  induction cs generalizing before with
  | nil => cases member
  | cons c rest induction =>
      rw [lowercaseAfter] at member
      rcases List.mem_append.mp member with here | later
      · split at here
        next =>
          -- A sigma has two lowercase forms.
          split at here
          all_goals
            rw [List.mem_singleton.mp here]
            decide
        next => exact small_of_mem_lowercaseChar here
      · exact induction later

theorem small_of_mem_lowercase {cs : List Char} {d : Char} (member : d ∈ lowercase cs) :
    isAsciiCapital d = false :=
  small_of_mem_lowercaseAfter member

def isSmallAscii (c : Char) : Bool :=
  decide (c.toNat < 0x80) && !isAsciiCapital c

private theorem lowercaseAfter_of_small (before : List Char) {cs : List Char}
    (small : ∀ c ∈ cs, isSmallAscii c = true) : lowercaseAfter before cs = cs := by
  induction cs generalizing before with
  | nil => rfl
  | cons c rest induction =>
      rw [List.forall_mem_cons] at small
      have here := small.1
      simp only [isSmallAscii, Bool.and_eq_true, decide_eq_true_eq, Bool.not_eq_true'] at here
      have other : ¬c.toNat = 0x3A3 := by omega
      rw [lowercaseAfter, if_neg other, lowercaseChar, if_pos here.1, asciiLower_of_small here.2,
        induction _ small.2, List.singleton_append]

theorem lowercase_of_small {cs : List Char} (small : ∀ c ∈ cs, isSmallAscii c = true) :
    lowercase cs = cs :=
  lowercaseAfter_of_small [] small

end TagAudit.Text
