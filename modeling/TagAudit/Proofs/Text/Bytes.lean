import Mathlib.Tactic.SplitIfs

/-! The order of texts is the order of the bytes of their UTF-8 forms. -/

namespace TagAudit.Text

def bytes (s : String) : List UInt8 :=
  s.toByteArray.data.toList

theorem bytes_eq (s : String) : bytes s = s.toList.flatMap String.utf8EncodeChar := by
  unfold bytes
  rw [← String.utf8Encode_toList]
  simp [List.utf8Encode]

/-- Two characters differ in a byte that neither lacks, whatever follows them. -/
theorem utf8EncodeChar_lt {c d : Char} (less : c < d) (u v : List UInt8) :
    String.utf8EncodeChar c ++ u < String.utf8EncodeChar d ++ v := by
  have codes : c.val.toNat < d.val.toNat := less
  have highest : d.val.toNat < 0x110000 := by
    rcases d.valid with low | high
    · exact Nat.lt_trans low (by decide)
    · exact high.2
  simp only [String.utf8EncodeChar]
  generalize c.val.toNat = m at codes ⊢
  generalize d.val.toNat = n at codes highest ⊢
  split_ifs <;>
    simp only [List.cons_append, List.nil_append, List.cons_lt_cons_iff, UInt8.lt_iff_toNat_lt,
      ← UInt8.toNat_inj, UInt8.toNat_ofNat', Nat.reducePow] <;>
    simp (disch := omega) only [Nat.mod_eq_of_lt] <;>
    omega

private theorem append_lt_append {a b : List UInt8} (less : a < b) (front : List UInt8) :
    front ++ a < front ++ b := by
  induction front with
  | nil => exact less
  | cons byte front induction =>
      apply List.cons_lt_cons_iff.mpr
      exact .inr ⟨rfl, induction⟩

private theorem flatMap_lt {cs ds : List Char} (less : cs < ds) :
    cs.flatMap String.utf8EncodeChar < ds.flatMap String.utf8EncodeChar := by
  induction less with
  | @nil d ds =>
      obtain ⟨byte, more, shape⟩ : ∃ byte more, String.utf8EncodeChar d = byte :: more := by
        apply List.exists_cons_of_ne_nil
        apply List.ne_nil_of_length_pos
        rw [String.length_utf8EncodeChar]
        exact d.utf8Size_pos
      rw [List.flatMap_nil, List.flatMap_cons, shape]
      exact .nil
  | rel first => exact utf8EncodeChar_lt first _ _
  | cons _ induction => exact append_lt_append induction _

theorem bytes_lt {s t : String} (less : s < t) : bytes s < bytes t := by
  rw [bytes_eq, bytes_eq]
  exact flatMap_lt less

theorem bytes_lt_iff {s t : String} : bytes s < bytes t ↔ s < t := by
  refine ⟨fun less => Decidable.byContradiction fun other => ?_, bytes_lt⟩
  rcases Std.le_iff_lt_or_eq.mp (String.not_lt.mp other) with greater | same
  · exact List.lt_asymm less (bytes_lt greater)
  · exact List.lt_irrefl (bytes s) (same ▸ less)

end TagAudit.Text
