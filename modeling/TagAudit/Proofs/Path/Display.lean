import TagAudit.Proofs.Path.Components

/-! The shown path of a place, by whether it lies below the root of the repository. -/

namespace TagAudit.Path

variable {root p : Path} {extra : List Component}

theorem dropBase?_eq_some_iff {base steps extra : List Component} :
    dropBase? base steps = some extra ↔ steps = base ++ extra := by
  induction base generalizing steps with
  | nil => exact Option.some_inj
  | cons step base induction =>
      cases steps with
      | nil => simp [dropBase?]
      | cons other steps =>
          rw [dropBase?, List.cons_append, List.cons.injEq, eq_comm (a := other)]
          split
          next same => rw [induction, and_iff_right same]
          next differ => simp [differ]

def slashed (text : List Char) : List Char :=
  text.map fun c => if c = '\\' then '/' else c

theorem slashed_append (a b : List Char) :
    slashed (a ++ '/' :: b) = slashed a ++ '/' :: slashed b := by
  simp [slashed]

def Descends (extra : List Component) : Prop :=
  extra ≠ [] ∧ extra.head? ≠ some .parent

theorem Descends.concat (descends : Descends extra) (step : Component) :
    Descends (extra ++ [step]) := by
  cases extra with
  | nil => exact absurd rfl descends.1
  | cons first extra => exact ⟨by simp, descends.2⟩

theorem display_of_below (rootAbsolute : root.isAbsolute) (absolute : p.isAbsolute)
    (below : p.components = root.components ++ extra) (descends : Descends extra) :
    root.display p = String.ofList (slashed (joinPieces (extra.map Component.text))) := by
  unfold display
  rw [dropBase?_eq_some_iff.mpr below]
  split
  next shown => cases shown
  next shown => exact absurd (Option.some_inj.mp shown) descends.1
  next rest shown =>
    refine absurd ?_ descends.2
    rw [Option.some_inj.mp shown, List.head?_cons]
  next shown =>
    cases shown
    simp [absolute, rootAbsolute, slashed]

theorem isAbsolute_iff_head? : p.isAbsolute ↔ p.components.head? = some .root := by
  rw [components_eq, lead, isAbsolute, beq_iff_eq]
  split
  next slash => simp [slash]
  next bare =>
    refine iff_of_false bare fun top => ?_
    have among : Component.root ∈ inner p.text := by
      split at top
      next => cases top
      next => exact List.mem_of_mem_head? top
    obtain ⟨piece, -, made⟩ := List.mem_filterMap.mp among
    unfold Component.ofPiece? at made
    split at made
    next => cases made
    next => split at made <;> cases made

theorem isAbsolute_of_below (rootAbsolute : root.isAbsolute)
    (below : p.components = root.components ++ extra) : p.isAbsolute := by
  rw [isAbsolute_iff_head?] at rootAbsolute ⊢
  obtain ⟨steps, top⟩ := List.head?_eq_some_iff.mp rootAbsolute
  rw [below, top]
  rfl

/-- What is shown below the root does not depend on how the path is spelled. -/
theorem display_congr {q : Path} (rootAbsolute : root.isAbsolute)
    (same : q.components = p.components) (below : p.components = root.components ++ extra)
    (descends : Descends extra) : root.display q = root.display p := by
  rw [display_of_below rootAbsolute (isAbsolute_of_below rootAbsolute below) below descends,
    display_of_below rootAbsolute (isAbsolute_of_below rootAbsolute (same.trans below))
      (same.trans below) descends]

theorem display_of_apart
    (apart : ∀ extra, p.components = root.components ++ extra → ¬Descends extra) :
    root.display p = String.ofList (slashed p.text) := by
  unfold display
  split
  next => rfl
  next => rfl
  next => rfl
  next extra notNil notParent shown =>
    refine absurd ⟨notNil, fun isFirst => ?_⟩ (apart extra (dropBase?_eq_some_iff.mp shown))
    obtain ⟨rest, starts⟩ := List.head?_eq_some_iff.mp isFirst
    exact notParent rest starts

theorem joinPieces_concat {pieces : List (List Char)} (some : pieces ≠ []) (piece : List Char) :
    joinPieces (pieces ++ [piece]) = joinPieces pieces ++ '/' :: piece := by
  unfold joinPieces
  induction pieces with
  | nil => exact absurd rfl some
  | cons first pieces induction =>
      cases pieces with
      | nil => simp
      | cons second pieces =>
          rw [List.cons_append, List.intercalate_cons_of_ne_nil (by simp), induction (by simp),
            List.intercalate_cons_cons, List.append_assoc _ _ ('/' :: piece), List.append_assoc]

theorem display_join (rootAbsolute : root.isAbsolute) (absolute : p.isAbsolute)
    (bare : p.text.getLast? ≠ some '/') (off : ¬p.components <+: root.components)
    {name : List Char} (isName : IsName name) :
    (root.display (p.join ⟨name⟩)).toList = (root.display p).toList ++ '/' :: slashed name := by
  have shown := shown_of_absolute absolute
  have relative : (⟨name⟩ : Path).isAbsolute = false := isAbsolute_of_whole isName.whole
  have goesOn := components_join_name shown isName
  by_cases below : ∃ extra, p.components = root.components ++ extra ∧ Descends extra
  · obtain ⟨extra, below, descends⟩ := below
    rw [display_of_below rootAbsolute absolute below descends,
      display_of_below rootAbsolute (isAbsolute_join absolute _)
        (by rw [goesOn, below, List.append_assoc]) (descends.concat _),
      List.map_append, List.map_singleton, joinPieces_concat (by simpa using descends.1)]
    rw [String.toList_ofList, String.toList_ofList]
    exact slashed_append _ _
  · rw [display_of_apart fun extra same descends => below ⟨extra, same, descends⟩, display_of_apart]
    · unfold join
      rw [if_neg (by simp [relative, shown]), if_neg bare]
      rw [String.toList_ofList, String.toList_ofList]
      exact slashed_append _ _
    · intro extra same descends
      rw [goesOn] at same
      rcases List.eq_nil_or_concat extra with empty | ⟨front, last, rfl⟩
      · exact descends.1 empty
      · rw [List.concat_eq_append, ← List.append_assoc] at same
        obtain ⟨same, -⟩ := List.append_inj' same rfl
        cases front with
        | nil => exact off ⟨[], by simpa using same⟩
        | cons first front => exact below ⟨first :: front, same, by simp, descends.2⟩

theorem join_bare (shown : p.text ≠ []) {name : List Char} (isName : IsName name) :
    (p.join ⟨name⟩).text.getLast? ≠ some '/' := by
  obtain ⟨front, joined, -⟩ := exists_join_text shown (isAbsolute_of_whole isName.whole)
  intro slash
  rw [joined] at slash
  obtain ⟨above, ends⟩ := List.getLast?_eq_some_iff.mp slash
  rcases List.eq_nil_or_concat name with empty | ⟨start, last, rfl⟩
  · exact isName.shown empty
  · rw [List.concat_eq_append, ← List.cons_append, ← List.append_assoc] at ends
    obtain ⟨-, same⟩ := List.append_inj' ends rfl
    exact isName.whole (by simp [List.cons.inj same])

theorem into_bare (shown : p.text ≠ []) {names : List (List Char)} (more : names ≠ [])
    (named : ∀ name ∈ names, IsName name) : (p.into names).text.getLast? ≠ some '/' := by
  induction names generalizing p with
  | nil => exact absurd rfl more
  | cons name names induction =>
      rw [List.forall_mem_cons] at named
      cases names with
      | nil => exact join_bare shown named.1
      | cons next names =>
          exact induction (join_text_ne_nil shown named.1.whole) (by simp) named.2

theorem exists_display_into (rootAbsolute : root.isAbsolute) (absolute : p.isAbsolute)
    (bare : p.text.getLast? ≠ some '/') (off : ¬p.components <+: root.components)
    {names : List (List Char)} (more : names ≠ []) (named : ∀ name ∈ names, IsName name) :
    ∃ rest, (root.display (p.into names)).toList = (root.display p).toList ++ '/' :: rest := by
  induction names generalizing p with
  | nil => exact absurd rfl more
  | cons name names induction =>
      rw [List.forall_mem_cons] at named
      have here := display_join rootAbsolute absolute bare off named.1
      cases names with
      | nil => exact ⟨_, here⟩
      | cons next names =>
          have shown := shown_of_absolute absolute
          have away : ¬(p.join ⟨name⟩).components <+: root.components := by
            rw [components_join_name shown named.1]
            exact fun leads => off ((List.prefix_append _ _).trans leads)
          obtain ⟨rest, goesOn⟩ := induction (isAbsolute_join absolute ⟨name⟩)
            (join_bare shown named.1) away (by simp) named.2
          refine ⟨slashed name ++ '/' :: rest, ?_⟩
          rw [into_cons, goesOn, here, List.append_assoc, List.cons_append]

end TagAudit.Path
