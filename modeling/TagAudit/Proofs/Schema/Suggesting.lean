import TagAudit.Proofs.Path.Parent
import TagAudit.Proofs.Text.Lowering
import TagAudit.Schema.Suggestion

/-! The component that is suggested for a file.  The segments of its path are compared with the
allowed values in lowercase, so that an allowed value with a capital in it is never found. -/

namespace TagAudit

open Text

def Component.name? : Component → Option (List Char)
  | .name text => some text
  | _ => none

theorem Path.fileName?_eq (p : Path) :
    p.fileName? = p.components.getLast?.bind Component.name? := by
  unfold fileName?
  cases last : p.components.getLast? with
  | none => rfl
  | some step => cases step <;> rfl

def Path.directory? (p : Path) : Option (List Char) :=
  p.components.dropLast.getLast?.bind Component.name?

theorem Path.parent?_bind_fileName? (p : Path) : p.parent?.bind fileName? = p.directory? := by
  rw [directory?, ← components_parent?]
  cases p.parent? with
  | none => rfl
  | some parent => exact fileName?_eq parent

namespace Schema

/-- The segments of a path as they are written: the names on the way, and the name of the file
without its extension. -/
def written (p : Path) : List String :=
  (p.components.dropLast.filterMap Component.name? ++ p.stem?.toList).map String.ofList

def lower (segment : String) : String :=
  String.ofList (lowercase segment.toList)

theorem segments_eq (p : Path) : segments p = (written p).map lower := by
  have named : segments p = (((p.parent?.map Path.components).getD []).filterMap
      Component.name? ++ p.stem?.toList).map fun name => String.ofList (lowercase name) := by
    unfold segments
    dsimp only
    congr 2
  rw [named, Path.components_parent?, written, List.map_map]
  refine List.map_congr_left fun name _ => ?_
  rw [Function.comp_apply, lower, String.toList_ofList]

/-- The last of some segments that has a property. -/
def Deepest (holds : String → Prop) (segments : List String) (segment : String) : Prop :=
  ∃ above below, segments = above ++ segment :: below ∧ holds segment ∧ ∀ s ∈ below, ¬holds s

theorem find?_reverse_map_lower {segments allowed : List String} {found : String} :
    (segments.map lower).reverse.find? allowed.contains = some found ↔
      ∃ s, Deepest (lower · ∈ allowed) segments s ∧ lower s = found := by
  rw [← List.map_reverse, List.find?_map, Option.map_eq_some_iff]
  refine exists_congr fun s => and_congr_left fun _ => ?_
  rw [List.find?_eq_some_iff_append, Deepest]
  simp only [Function.comp_apply, List.contains_iff_mem, Bool.not_eq_true', Bool.eq_false_iff,
    ne_eq,
    List.reverse_eq_append_iff, List.reverse_cons, List.append_assoc, List.singleton_append]
  constructor
  · rintro ⟨holds, behind, front, whole, none⟩
    exact ⟨front.reverse, behind.reverse, whole, holds, by simpa using none⟩
  · rintro ⟨above, below, whole, holds, none⟩
    exact ⟨holds, below.reverse, above.reverse, by simpa using whole, by simpa using none⟩

/-! Slugs. -/

/-- Small letters, digits and underscores, the first of them a letter and the last no underscore. -/
structure IsSlug (cs : List Char) : Prop where
  first : ∃ c ∈ cs.head?, 'a' ≤ c ∧ c ≤ 'z'
  among : ∀ c ∈ cs, ('a' ≤ c ∧ c ≤ 'z') ∨ ('0' ≤ c ∧ c ≤ '9') ∨ c = '_'
  last : cs.getLast? ≠ some '_'

theorem small_of_isAsciiLetter {c : Char} (letter : isAsciiLetter c = true)
    (small : isAsciiCapital c = false) : 'a' ≤ c ∧ c ≤ 'z' := by
  unfold isAsciiCapital at small
  rw [isAsciiLetter, small, Bool.or_false] at letter
  simpa using letter

theorem among_slug {name : List Char} {c : Char} (member : c ∈ slug name) :
    ('a' ≤ c ∧ c ≤ 'z') ∨ ('0' ≤ c ∧ c ≤ '9') ∨ c = '_' := by
  have kept := (List.dropWhile_suffix _).subset ((List.rdropWhile_prefix _ _).subset member)
  obtain ⟨d, lowered, rfl⟩ := List.mem_map.mp kept
  split
  next plain =>
    rcases Bool.or_eq_true_iff.mp plain with letter | digit
    · exact .inl (small_of_isAsciiLetter letter (small_of_mem_lowercase lowered))
    · exact .inr (.inl (by simpa [isAsciiDigit] using digit))
  next => exact .inr (.inr rfl)

theorem getLast?_slug (name : List Char) : (slug name).getLast? ≠ some '_' := by
  intro ends
  have shown : slug name ≠ [] := by
    intro empty
    simp [empty] at ends
  have other := List.rdropWhile_last_not (· == '_') _ shown
  rw [List.getLast?_eq_some_getLast shown, Option.some_inj] at ends
  exact other (beq_iff_eq.mpr ends)

theorem isSmallAscii_of_mem_slug {name : List Char} {c : Char} (member : c ∈ slug name) :
    isSmallAscii c = true := by
  rw [isSmallAscii, Bool.and_eq_true, decide_eq_true_eq, Bool.not_eq_true', Bool.eq_false_iff,
    ne_eq,
    isAsciiCapital_iff]
  rcases among_slug member with ⟨first, last⟩ | ⟨first, last⟩ | rfl
  · have least : 0x61 ≤ c.toNat := first
    have most : c.toNat ≤ 0x7A := last
    omega
  · have least : 0x30 ≤ c.toNat := first
    have most : c.toNat ≤ 0x39 := last
    omega
  · decide

theorem lower_slug (name : List Char) :
    lower (String.ofList (slug name)) = String.ofList (slug name) := by
  rw [lower, String.toList_ofList, lowercase_of_small fun _ => isSmallAscii_of_mem_slug]

theorem isSlug_slug_iff {name : List Char} :
    IsSlug (slug name) ↔ ∃ c ∈ (slug name).head?, isAsciiLetter c = true := by
  constructor
  · rintro ⟨⟨c, first, small⟩, -, -⟩
    exact ⟨c, first, by simp [isAsciiLetter, small]⟩
  · rintro ⟨c, first, letter⟩
    have small := isSmallAscii_of_mem_slug (List.mem_of_mem_head? first)
    rw [isSmallAscii, Bool.and_eq_true, Bool.not_eq_true'] at small
    exact ⟨⟨c, first, small_of_isAsciiLetter letter small.2⟩, fun _ => among_slug,
      getLast?_slug name⟩

/-! Suggestions. -/

variable {path : String} {allowed : List String}

theorem suggestComponent_of_none
    (none : (segments (.ofString path)).reverse.find? allowed.contains = none) :
    (∃ name ∈ (Path.ofString path).directory?, IsSlug (slug name) ∧
      suggestComponent path allowed = String.ofList (slug name)) ∨
    suggestComponent path allowed = "misc" ∧
      ∀ name ∈ (Path.ofString path).directory?, ¬IsSlug (slug name) := by
  unfold suggestComponent
  simp only [none, Path.parent?_bind_fileName?]
  cases (Path.ofString path).directory? with
  | none => exact .inr ⟨rfl, by simp⟩
  | some name =>
      simp only [Option.map_some, Option.getD_some, Option.mem_def, Option.some_inj,
        exists_eq_left', forall_eq', isSlug_slug_iff]
      cases slug name with
      | nil => simp
      | cons c rest => by_cases letter : isAsciiLetter c = true <;> simp [letter]

theorem suggestComponent_of_deepest {segment : String}
    (deepest : Deepest (lower · ∈ allowed) (written (.ofString path)) segment) :
    suggestComponent path allowed = lower segment := by
  have found := find?_reverse_map_lower.mpr ⟨segment, deepest, rfl⟩
  rw [← segments_eq] at found
  unfold suggestComponent
  simp only [found]

theorem lower_suggestComponent
    (none : (segments (.ofString path)).reverse.find? allowed.contains = none) :
    lower (suggestComponent path allowed) = suggestComponent path allowed := by
  rcases suggestComponent_of_none none with ⟨name, -, -, same⟩ | ⟨same, -⟩
  · rw [same, lower_slug]
  · rw [same]
    decide

theorem Deepest.mem {holds : String → Prop} {segments : List String} {segment : String}
    (deepest : Deepest holds segments segment) : segment ∈ segments := by
  obtain ⟨above, below, rfl, -, -⟩ := deepest
  simp

theorem Deepest.congr {holds other : String → Prop} {segments : List String} {segment : String}
    (deepest : Deepest holds segments segment) (same : ∀ s ∈ segments, holds s ↔ other s) :
    Deepest other segments segment := by
  have member := deepest.mem
  obtain ⟨above, below, rfl, here, none⟩ := deepest
  refine ⟨above, below, rfl, (same _ member).mp here, fun s later => ?_⟩
  exact fun holds => none s later ((same s (by simp [later])).mpr holds)

/-- The deepest segment of a path whose lowercase form is allowed is suggested, in lowercase.
Without one, the slug of the directory is suggested if it begins with a letter, and else `misc`.
So the deepest segment that is itself allowed is suggested if and only if it is the lowercase
form of the segment that is found, as it always is on a path in lowercase. -/
theorem suggestComponent_deepest (path : String) (allowed : List String) :
    (∀ s, Deepest (lower · ∈ allowed) (written (Path.ofString path)) s →
      suggestComponent path allowed = lower s ∧ lower s ∈ allowed) ∧
    (∀ s, Deepest (· ∈ allowed) (written (Path.ofString path)) s →
      (suggestComponent path allowed = s ↔
        ∃ t, Deepest (lower · ∈ allowed) (written (Path.ofString path)) t ∧ lower t = s) ∧
      ((∀ t ∈ written (Path.ofString path), lower t = t) → suggestComponent path allowed = s)) ∧
    ((∀ s ∈ written (Path.ofString path), lower s ∉ allowed) →
      (∃ name ∈ (Path.ofString path).directory?, IsSlug (slug name) ∧
        suggestComponent path allowed = String.ofList (slug name)) ∨
      suggestComponent path allowed = "misc" ∧
        ∀ name ∈ (Path.ofString path).directory?, ¬IsSlug (slug name)) := by
  refine ⟨fun s deepest => ?found, fun s deepest => ⟨⟨fun same => ?exact, ?_⟩, ?lowercase⟩,
    fun free => ?none⟩
  case found =>
    have same := suggestComponent_of_deepest deepest
    obtain ⟨-, -, -, holds, -⟩ := deepest
    exact ⟨same, holds⟩
  case exact =>
    cases found : (segments (Path.ofString path)).reverse.find? allowed.contains with
    | some segment =>
        rw [segments_eq] at found
        obtain ⟨t, lowered, -⟩ := find?_reverse_map_lower.mp found
        exact ⟨t, lowered, (suggestComponent_of_deepest lowered).symm.trans same⟩
    | none =>
        -- The slug and `misc` are in lowercase, so the segment would have been found.
        have fixed : lower s = s := same ▸ lower_suggestComponent found
        have member := deepest.mem
        obtain ⟨-, -, -, holds, -⟩ := deepest
        rw [segments_eq, List.find?_eq_none] at found
        have listed : s ∈ ((written (Path.ofString path)).map lower).reverse :=
          List.mem_reverse.mpr (List.mem_map.mpr ⟨s, member, fixed⟩)
        exact absurd (List.contains_iff_mem.mpr holds) (found s listed)
  · rintro ⟨t, found, rfl⟩
    exact suggestComponent_of_deepest found
  case lowercase =>
    intro fixed
    have same := suggestComponent_of_deepest
      (deepest.congr fun t member => by rw [fixed t member])
    exact same.trans (fixed s deepest.mem)
  case none =>
    refine suggestComponent_of_none ?_
    rw [segments_eq, List.find?_eq_none]
    simpa using free

/-- The allowed value `Docs` is not suggested for a file in the directory `Docs`. -/
theorem suggestComponent_deepest_capital :
    let p := Path.ofString "Docs/x.py"
    Deepest (· ∈ ["Docs"]) (written p) "Docs" ∧ (∀ s ∈ written p, lower s ∉ ["Docs"]) ∧
      suggestComponent "Docs/x.py" ["Docs"] ≠ "Docs" := by
  intro p
  have segments : written p = ["Docs", "x"] := by
    simp only [p]
    cbv
  have free : ∀ s ∈ written p, lower s ∉ ["Docs"] := by
    rw [segments]
    decide
  have deepest : Deepest (· ∈ ["Docs"]) (written p) "Docs" :=
    ⟨[], ["x"], segments, by decide, by decide⟩
  refine ⟨deepest, free, fun same => ?_⟩
  obtain ⟨t, found, -⟩ :=
    ((suggestComponent_deepest "Docs/x.py" ["Docs"]).2.1 "Docs" deepest).1.mp same
  have member := found.mem
  obtain ⟨-, -, -, holds, -⟩ := found
  exact free t member holds

end Schema

end TagAudit
