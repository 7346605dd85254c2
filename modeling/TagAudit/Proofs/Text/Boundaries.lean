import TagAudit.Proofs.Text.Offsets

/-! Byte positions between two characters of a text, inside a character, and past its end. -/

namespace TagAudit.Text

/-- A byte position between two characters of a text, or at one of its ends. -/
def IsBoundary (cs : List Char) (n : Nat) : Prop :=
  ∃ a b, cs = a ++ b ∧ n = byteSize a

/-- The bytes from `first` up to `last` make up a part of the text. -/
structure Sliceable (cs : List Char) (first last : Nat) : Prop where
  begins : IsBoundary cs first
  ends : IsBoundary cs last
  le : first ≤ last

def InsideCharacter (cs : List Char) (n : Nat) : Prop :=
  ∃ a c b, cs = a ++ c :: b ∧ byteSize a < n ∧ n < byteSize a + c.utf8Size

variable {cs : List Char} {n : Nat}

theorem isBoundary_append (a b : List Char) : IsBoundary (a ++ b) (byteSize a) :=
  ⟨a, b, rfl, rfl⟩

theorem isBoundary_zero (cs : List Char) : IsBoundary cs 0 :=
  isBoundary_append [] cs

theorem isBoundary_byteSize (cs : List Char) : IsBoundary cs (byteSize cs) :=
  ⟨cs, [], (List.append_nil cs).symm, rfl⟩

theorem IsBoundary.le (boundary : IsBoundary cs n) : n ≤ byteSize cs := by
  obtain ⟨a, b, rfl, rfl⟩ := boundary
  rw [byteSize_append]
  exact Nat.le_add_right _ _

theorem InsideCharacter.lt (inside : InsideCharacter cs n) : n < byteSize cs := by
  obtain ⟨a, c, b, rfl, -, within⟩ := inside
  simp only [byteSize_append, byteSize_cons]
  omega

theorem InsideCharacter.not_isBoundary (inside : InsideCharacter cs n) : ¬ IsBoundary cs n := by
  obtain ⟨a, c, b, whole, begun, within⟩ := inside
  rintro ⟨x, y, split, rfl⟩
  obtain ⟨z, longer, rest⟩ := prefix_of_byteSize_le (whole.symm.trans split) begun.le
  rw [longer, byteSize_append] at begun within
  cases z with
  | nil => simp at begun
  | cons d z =>
      obtain ⟨rfl, -⟩ := List.cons.inj rest
      rw [byteSize_cons] at within
      omega

theorem boundary_cases (cs : List Char) (n : Nat) :
    IsBoundary cs n ∨ InsideCharacter cs n ∨ byteSize cs < n := by
  induction cs generalizing n with
  | nil =>
      rcases Nat.eq_zero_or_pos n with rfl | beyond
      · exact .inl (isBoundary_zero [])
      · exact .inr (.inr beyond)
  | cons c cs induction =>
      rcases Nat.eq_zero_or_pos n with rfl | begun
      · exact .inl (isBoundary_zero _)
      · rcases Nat.lt_or_ge n c.utf8Size with within | past
        · exact .inr (.inl ⟨[], c, cs, rfl, by simpa using begun, by simpa using within⟩)
        · obtain ⟨m, rfl⟩ := Nat.exists_eq_add_of_le past
          rcases induction m with ⟨a, b, rfl, rfl⟩ | ⟨a, d, b, rfl, begun, within⟩ | beyond
          · exact .inl ⟨c :: a, b, rfl, by simp⟩
          · refine .inr (.inl ⟨c :: a, d, b, rfl, ?_, ?_⟩) <;> rw [byteSize_cons] <;> omega
          · exact .inr (.inr (by rw [byteSize_cons]; omega))

theorem isBoundary_min_iff :
    IsBoundary cs (min n (byteSize cs)) ↔ ¬ InsideCharacter cs n := by
  rcases Nat.le_total n (byteSize cs) with le | le
  · rw [Nat.min_eq_left le]
    refine ⟨fun boundary inside => inside.not_isBoundary boundary, fun outside => ?_⟩
    rcases boundary_cases cs n with boundary | inside | beyond
    · exact boundary
    · exact absurd inside outside
    · omega
  · rw [Nat.min_eq_right le]
    exact iff_of_true (isBoundary_byteSize cs) fun inside => absurd inside.lt (by omega)

theorem IsBoundary.sliceable_lastLine (boundary : IsBoundary cs n) :
    Sliceable cs (n - byteSize (lastLine (takeBytes n cs))) n := by
  obtain ⟨a, b, rfl, rfl⟩ := boundary
  obtain ⟨above, split⟩ := lastLine_suffix a
  have size := congrArg byteSize split
  rw [byteSize_append] at size
  have start : byteSize a - byteSize (lastLine a) = byteSize above := by omega
  rw [takeBytes_append, start]
  refine ⟨⟨above, lastLine a ++ b, ?_, rfl⟩, isBoundary_append a b, by omega⟩
  rw [← List.append_assoc, split]

/-! Looking for a position. -/

namespace Place

theorem find?_of_inside (inside : InsideCharacter cs n) :
    find? n cs = none := by
  obtain ⟨a, c, b, rfl, begun, within⟩ := inside
  obtain ⟨m, rfl⟩ := Nat.exists_eq_add_of_le begun.le
  exact find?_inside a b (by omega) (by omega)

theorem exists_find? (outside : ¬ InsideCharacter cs n) :
    ∃ place, find? n cs = some place := by
  rcases boundary_cases cs n with ⟨a, b, rfl, rfl⟩ | inside | beyond
  · exact ⟨_, find?_append a b⟩
  · exact absurd inside outside
  · obtain ⟨m, rfl⟩ := Nat.exists_eq_add_of_le beyond.le
    exact ⟨_, find?_beyond cs m⟩

theorem before_of_find? {place : Place} (found : find? n cs = some place) :
    place.before = lastLine (takeBytes n cs) := by
  rcases boundary_cases cs n with ⟨a, b, rfl, rfl⟩ | inside | beyond
  · rw [find?_append] at found
    rw [takeBytes_append, ← Option.some.inj found]
  · rw [find?_of_inside inside] at found
    cases found
  · obtain ⟨m, rfl⟩ := Nat.exists_eq_add_of_le beyond.le
    have whole := takeBytes_append_add cs [] m
    rw [List.append_nil, takeBytes, List.append_nil] at whole
    rw [find?_beyond] at found
    rw [whole, ← Option.some.inj found]

end Place

end TagAudit.Text
