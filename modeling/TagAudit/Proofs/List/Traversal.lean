import Mathlib.Data.List.Forall2

/-! Going through a list with a function that may fail: what the results are when it fails
nowhere, and where it fails first. -/

namespace TagAudit

theorem mapM_eq_ok_iff {α β ε : Type} (f : α → Except ε β) {items : List α} {results : List β} :
    items.mapM f = .ok results ↔
      List.Forall₂ (fun item result => f item = .ok result) items results := by
  induction items generalizing results with
  | nil => cases results <;> simp [pure, Except.pure]
  | cons item items induction =>
      rw [List.mapM_cons]
      cases first : f item with
      | error e =>
          simp only [bind, Except.bind]
          refine iff_of_false (by simp) fun all => ?_
          cases all with
          | cons same => simp [first] at same
      | ok result =>
          cases rest : items.mapM f with
          | error e =>
              simp only [bind, Except.bind]
              refine iff_of_false (by simp) fun all => ?_
              cases all with
              | cons same all => simp [induction.mpr all] at rest
          | ok made =>
              simp only [bind, Except.bind, pure, Except.pure, Except.ok.injEq]
              constructor
              · rintro rfl
                exact .cons first (induction.mp rest)
              · intro all
                cases all with
                | cons same all =>
                    rw [Except.ok.inj (first.symm.trans same),
                      Except.ok.inj (rest.symm.trans (induction.mpr all))]

theorem exists_of_mem_mapM {α β ε : Type} {f : α → Except ε β} {items : List α}
    {results : List β} (made : items.mapM f = .ok results) {result : β}
    (member : result ∈ results) : ∃ item ∈ items, f item = .ok result := by
  have all := (mapM_eq_ok_iff f).mp made
  clear made
  induction all with
  | nil => cases member
  | @cons item _ items _ same _ induction =>
      rcases List.mem_cons.mp member with rfl | later
      · exact ⟨item, List.mem_cons_self, same⟩
      · obtain ⟨other, listed, same⟩ := induction later
        exact ⟨other, List.mem_cons_of_mem item listed, same⟩

theorem exists_of_mapM {α β ε : Type} {f : α → Except ε β} {items : List α}
    {results : List β} (made : items.mapM f = .ok results) {item : α} (member : item ∈ items) :
    ∃ result, f item = .ok result := by
  have all := (mapM_eq_ok_iff f).mp made
  clear made
  induction all with
  | nil => cases member
  | @cons _ result _ _ same _ induction =>
      rcases List.mem_cons.mp member with rfl | later
      · exact ⟨result, same⟩
      · exact induction later

theorem mapM_eq_error_iff {α β ε : Type} (f : α → Except ε β) {items : List α} {e : ε} :
    items.mapM f = .error e ↔
      ∃ good item rest, items = good ++ item :: rest ∧
        (∀ other ∈ good, (f other).isOk = true) ∧ f item = .error e := by
  induction items with
  | nil => simp [pure, Except.pure]
  | cons first later induction =>
      cases tried : f first with
      | error cause =>
          have failed : (first :: later).mapM f = .error cause := by
            simp [List.mapM_cons, tried, bind, Except.bind]
          rw [failed, Except.error.injEq]
          constructor
          · rintro rfl
            exact ⟨[], first, later, rfl, nofun, tried⟩
          · rintro ⟨good, item, rest, listed, accepted, refused⟩
            cases good with
            | nil =>
                obtain ⟨rfl, -⟩ := List.cons.inj listed
                exact Except.error.inj (tried.symm.trans refused)
            | cons other good =>
                obtain ⟨rfl, -⟩ := List.cons.inj listed
                simpa [tried, Except.isOk, Except.toBool] using accepted first (.head _)
      | ok value =>
          have same : (first :: later).mapM f = .error e ↔ later.mapM f = .error e := by
            simp only [List.mapM_cons, tried, bind, Except.bind]
            cases later.mapM f <;> simp [pure, Except.pure]
          rw [same, induction]
          constructor
          · rintro ⟨good, item, rest, rfl, accepted, refused⟩
            exact ⟨first :: good, item, rest, rfl,
              List.forall_mem_cons.mpr ⟨by rw [tried]; rfl, accepted⟩, refused⟩
          · rintro ⟨good, item, rest, listed, accepted, refused⟩
            cases good with
            | nil =>
                obtain ⟨rfl, -⟩ := List.cons.inj listed
                simp [tried] at refused
            | cons other good =>
                obtain ⟨rfl, rfl⟩ := List.cons.inj listed
                exact ⟨good, item, rest, rfl, (List.forall_mem_cons.mp accepted).2, refused⟩

end TagAudit
