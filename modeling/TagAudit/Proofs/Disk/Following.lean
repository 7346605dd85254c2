import TagAudit.Proofs.Disk.Tree

/-! Following a path that continues another one: the other one leads to a directory, from which
the rest is followed. -/

namespace TagAudit

/-! The steps of joined paths. -/

/-- The step that is made for what a path is joined with. -/
def Step.ofText (text : List Char) : Step :=
  (Step.ofPiece? text).getD .slash

theorem Step.ofText_of_isName {name : List Char} (isName : IsName name) :
    Step.ofText name = .into (String.ofList name) := by
  simp [ofText, ofPiece?, isName.shown, isName.notCurrent, isName.notParent]

theorem Step.ofPiece?_eq_some {text : List Char} (shown : text ≠ []) :
    Step.ofPiece? text = some (Step.ofText text) := by
  unfold ofText ofPiece?
  rw [List.isEmpty_eq_false_iff.mpr shown]
  simp only [Bool.false_eq_true, if_false]
  split
  · rfl
  · split <;> rfl

namespace Path

open Text

def moves (p : Path) : List Step :=
  (splitOn '/' p.text).filterMap Step.ofPiece?

theorem moves_join {p q : Path} (shown : p.text ≠ []) (relative : q.isAbsolute = false) :
    (p.join q).moves = p.moves ++ q.moves := by
  obtain ⟨front, joined, whole | whole⟩ := exists_join_text shown relative
  · rw [moves, joined, moves, whole, splitOn_append, List.filterMap_append]
    rfl
  · rw [moves, joined, moves, whole, splitOn_append, splitOn_append, List.filterMap_append,
      List.filterMap_append]
    simp [moves, splitOn, Step.ofPiece?]

theorem moves_of_whole {text : List Char} (whole : '/' ∉ text) :
    (⟨text⟩ : Path).moves = (Step.ofPiece? text).toList := by
  rw [moves, splitOn_of_not_mem whole]
  cases made : Step.ofPiece? text <;> simp [made]

theorem steps_join {p : Path} (shown : p.text ≠ []) {text : List Char} (whole : '/' ∉ text) :
    (p.join ⟨text⟩).steps = p.moves ++ [Step.ofText text] := by
  have relative := isAbsolute_of_whole whole
  obtain ⟨front, joined, -⟩ := exists_join_text shown relative
  change (p.join ⟨text⟩).moves ++ _ = _
  rw [moves_join shown relative, moves_of_whole whole, joined, List.append_assoc]
  congr 1
  by_cases empty : text = []
  · subst empty
    simp [Step.ofPiece?, Step.ofText]
  · have bare : (front ++ '/' :: text).getLast? ≠ some '/' := by
      rw [List.getLast?_append_of_ne_nil front (by simp), List.getLast?_cons_of_ne_nil empty]
      exact fun slash => whole (List.mem_of_getLast? slash)
    rw [if_neg bare, Step.ofPiece?_eq_some empty]
    rfl

theorem moves_into {p : Path} (shown : p.text ≠ []) {names : List (List Char)}
    (named : ∀ name ∈ names, IsName name) :
    (p.into names).moves = p.moves ++ names.map fun name => .into (String.ofList name) := by
  induction names generalizing p with
  | nil => simp
  | cons name names induction =>
      rw [List.forall_mem_cons] at named
      have whole := named.1.whole
      rw [into_cons, induction (join_text_ne_nil shown whole) named.2,
        moves_join shown (isAbsolute_of_whole whole), moves_of_whole whole,
        Step.ofPiece?_eq_some named.1.shown, Step.ofText_of_isName named.1, List.append_assoc]
      rfl

end Path

namespace Disk

open Resolution

variable {disk : Disk} {place directory found : Location} {steps more : List Step} {links : Nat}

theorem IsTree.dropLast (tree : disk.IsTree) (inside : disk.kind? place = some .directory) :
    disk.kind? place.dropLast = some .directory := by
  rcases List.eq_nil_or_concat place with rfl | ⟨above, name, rfl⟩
  · rfl
  · rw [List.concat_eq_append] at inside ⊢
    rw [List.dropLast_concat]
    exact tree.standsIn inside

theorem advance_into {kind? : Location → Option FileKind} {name : String} :
    advance kind? .follow place (.into name :: steps) =
      if nameLimit < name.utf8ByteSize then .error .nameTooLong
      else
        match kind? (place ++ [name]) with
        | none => if steps.isEmpty then .ok (.arrived (place ++ [name])) else .error .notFound
        | some .file =>
            if steps.isEmpty then .ok (.arrived (place ++ [name])) else .error .notADirectory
        | some .directory => advance kind? .follow (place ++ [name]) steps
        | some (.link target) => .ok (.link place target steps) := by
  have noCreate : (LastLink.follow == LastLink.create) = false := rfl
  have noKeep : (LastLink.follow == LastLink.keep) = false := rfl
  rw [advance]
  cases kind? (place ++ [name]) with
  | none => simp [noCreate]
  | some kind => cases kind <;> simp [noCreate, noKeep]

theorem advance_append (tree : disk.IsTree) (inside : disk.kind? place = some .directory)
    (goesOn : more ≠ []) :
    advance disk.kind? .follow place (steps ++ more) =
      match advance disk.kind? .follow place steps with
      | .error e => .error e
      | .ok (.link directory target rest) => .ok (.link directory target (rest ++ more))
      | .ok (.arrived found) =>
          match disk.kind? found with
          | some .directory => advance disk.kind? .follow found more
          | some _ => .error .notADirectory
          | none => .error .notFound := by
  induction steps generalizing place with
  | nil => simp [advance, inside]
  | cons step steps induction =>
      cases step with
      | stay | slash => exact induction inside
      | up => exact induction (tree.dropLast inside)
      | into name =>
          have later : (steps ++ more).isEmpty = false := by simp [goesOn]
          rw [List.cons_append, advance_into, advance_into, later]
          split
          next => rfl
          next =>
            cases held : disk.kind? (place ++ [name]) with
            | none => cases empty : steps.isEmpty <;> simp [held]
            | some kind =>
                cases kind with
                | file => cases empty : steps.isEmpty <;> simp [held]
                | directory => exact induction held
                | link target => rfl

theorem directory_of_link (tree : disk.IsTree) (inside : disk.kind? place = some .directory)
    {target : Path} {rest : List Step}
    (halted : advance disk.kind? .follow place steps = .ok (.link directory target rest)) :
    disk.kind? directory = some .directory := by
  induction steps generalizing place with
  | nil => simp [advance] at halted
  | cons step steps induction =>
      cases step with
      | stay | slash => exact induction inside halted
      | up => exact induction (tree.dropLast inside) halted
      | into name =>
          rw [advance_into] at halted
          split at halted
          next => cases halted
          next =>
            cases held : disk.kind? (place ++ [name]) with
            | none =>
                rw [held] at halted
                dsimp only at halted
                split at halted <;> cases halted
            | some kind =>
                cases kind with
                | file =>
                    rw [held] at halted
                    dsimp only at halted
                    split at halted <;> cases halted
                | directory =>
                    rw [held] at halted
                    exact induction held halted
                | link target =>
                    rw [held] at halted
                    cases halted
                    exact inside

theorem directory_of_target (inside : disk.kind? directory = some .directory) (target : Path) :
    disk.kind? (if target.isAbsolute then [] else directory) = some .directory := by
  split
  · rfl
  · exact inside

theorem follow_eq_ok_iff {kind? : Location → Option FileKind} {last : LastLink} :
    follow kind? last links place steps = .ok found ↔
      advance kind? last place steps = .ok (.arrived found) ∨
        ∃ left directory target rest, links = left + 1 ∧
          advance kind? last place steps = .ok (.link directory target rest) ∧
          follow kind? last left (if target.isAbsolute then [] else directory)
            (target.steps ++ rest) = .ok found := by
  rw [follow.eq_def]
  cases halted : advance kind? last place steps with
  | error e => simp [halted]
  | ok halt =>
      cases halt with
      | arrived place => simp [halted]
      | link directory target rest =>
          cases links with
          | zero => simp [halted]
          | succ links =>
              simp only [halted, Except.ok.injEq, reduceCtorEq, false_or, Halt.link.injEq,
                Nat.add_right_cancel_iff]
              constructor
              · intro made
                exact ⟨_, _, _, _, rfl, ⟨rfl, rfl, rfl⟩, made⟩
              · rintro ⟨_, _, _, _, rfl, ⟨rfl, rfl, rfl⟩, made⟩
                exact made

/-- What leads anywhere by way of some steps leads there from a directory, to which these steps
lead. -/
theorem follow_append (tree : disk.IsTree) (inside : disk.kind? place = some .directory)
    (goesOn : more ≠ [])
    (made : follow disk.kind? .follow links place (steps ++ more) = .ok found) :
    ∃ directory left, left ≤ links ∧ follow disk.kind? .follow links place steps = .ok directory ∧
      disk.kind? directory = some .directory ∧
      follow disk.kind? .follow left directory more = .ok found := by
  induction links using Nat.strongRecOn generalizing place steps with
  | ind links induction =>
      have whole : advance disk.kind? .follow place (steps ++ more) = _ :=
        advance_append tree inside goesOn
      cases halted : advance disk.kind? .follow place steps with
      | error e =>
          rw [halted] at whole
          rw [follow_eq_ok_iff, whole] at made
          simp at made
      | ok halt =>
          rw [halted] at whole
          cases halt with
          | link directory target rest =>
              rw [follow_eq_ok_iff, whole] at made
              rcases made with arrived | ⟨left, _, _, _, rfl, same, made⟩
              · cases arrived
              · cases same
                rw [← List.append_assoc] at made
                obtain ⟨last, rest', short, first, kind, later⟩ :=
                  induction left (Nat.lt_succ_self left)
                  (directory_of_target (directory_of_link tree inside halted) target) made
                exact ⟨last, rest', short.trans (Nat.le_succ left),
                  follow_eq_ok_iff.mpr (.inr ⟨_, _, _, _, rfl, halted, first⟩), kind, later⟩
          | arrived directory =>
              have first : follow disk.kind? .follow links place steps = .ok directory :=
                follow_eq_ok_iff.mpr (.inl halted)
              dsimp only at whole
              cases kind : disk.kind? directory with
              | none =>
                  rw [kind] at whole
                  rw [follow_eq_ok_iff, whole] at made
                  simp at made
              | some held =>
                  rw [kind] at whole
                  cases held with
                  | directory =>
                      refine ⟨directory, links, le_rfl, first, kind, ?_⟩
                      rw [follow_eq_ok_iff] at made ⊢
                      rwa [whole] at made
                  | file | link =>
                      rw [follow_eq_ok_iff, whole] at made
                      simp at made

theorem follow_slash (tree : disk.IsTree) (inside : disk.kind? place = some .directory)
    (made : follow disk.kind? .follow links place steps = .ok found)
    (kind : disk.kind? found = some .directory) :
    follow disk.kind? .follow links place (steps ++ [.slash]) = .ok found := by
  induction links using Nat.strongRecOn generalizing place steps with
  | ind links induction =>
      have whole : advance disk.kind? .follow place (steps ++ [.slash]) = _ :=
        advance_append tree inside (by simp)
      rcases follow_eq_ok_iff.mp made with halted | ⟨left, _, _, _, rfl, halted, later⟩
      · rw [halted] at whole
        dsimp only at whole
        rw [kind] at whole
        exact follow_eq_ok_iff.mpr (.inl whole)
      · rw [halted] at whole
        have last := induction left (Nat.lt_succ_self left)
          (directory_of_target (directory_of_link tree inside halted) _) later
        rw [List.append_assoc] at last
        exact follow_eq_ok_iff.mpr (.inr ⟨_, _, _, _, rfl, whole, last⟩)

/-! A link at the end of a path may be kept. -/

theorem advance_keep {kind? : Location → Option FileKind} :
    advance kind? .keep place steps = advance kind? .follow place steps ∨
      ∃ found target, advance kind? .keep place steps = .ok (.arrived found) ∧
        kind? found = some (.link target) := by
  induction steps generalizing place with
  | nil => exact .inl rfl
  | cons step steps induction =>
      cases step with
      | stay | slash | up => exact induction
      | into name =>
          rw [advance_into, advance]
          simp only [show (LastLink.keep == LastLink.create) = false from rfl, Bool.false_and,
            Bool.false_eq_true, if_false]
          split
          next => exact .inl rfl
          next =>
            cases held : kind? (place ++ [name]) with
            | none => exact .inl rfl
            | some kind =>
                cases kind with
                | file => exact .inl rfl
                | directory => exact induction
                | link target =>
                    dsimp only
                    split
                    next => exact .inr ⟨_, target, rfl, held⟩
                    next => exact .inl rfl

theorem exists_follow_keep {kind? : Location → Option FileKind} (exists' : (kind? found).isSome)
    (made : follow kind? .follow links place steps = .ok found) :
    ∃ kept, follow kind? .keep links place steps = .ok kept ∧ (kind? kept).isSome := by
  induction links using Nat.strongRecOn generalizing place steps with
  | ind links induction =>
      rcases advance_keep with same | ⟨kept, target, halted, held⟩
      · rcases follow_eq_ok_iff.mp made with halted | ⟨left, _, _, _, rfl, halted, later⟩
        · exact ⟨found, follow_eq_ok_iff.mpr (.inl (same.trans halted)), exists'⟩
        · obtain ⟨kept, last, held⟩ := induction left (Nat.lt_succ_self left) later
          exact ⟨kept, follow_eq_ok_iff.mpr (.inr ⟨_, _, _, _, rfl, same.trans halted, last⟩), held⟩
      · exact ⟨kept, follow_eq_ok_iff.mpr (.inl halted), by rw [held]; rfl⟩

theorem follow_of_keep {kind? : Location → Option FileKind}
    (unlinked : ∀ target, kind? found ≠ some (.link target))
    (made : follow kind? .keep links place steps = .ok found) :
    follow kind? .follow links place steps = .ok found := by
  induction links using Nat.strongRecOn generalizing place steps with
  | ind links induction =>
      rcases advance_keep with same | ⟨kept, target, halted, held⟩
      · rw [follow_eq_ok_iff, same] at made
        rcases made with halted | ⟨left, directory, target, rest, rfl, halted, later⟩
        · exact follow_eq_ok_iff.mpr (.inl halted)
        · exact follow_eq_ok_iff.mpr (.inr ⟨left, directory, target, rest, rfl, halted,
            induction left (Nat.lt_succ_self left) later⟩)
      · rw [follow_eq_ok_iff, halted] at made
        rcases made with same | ⟨_, _, _, _, -, other, -⟩
        · cases same
          exact absurd held (unlinked target)
        · cases other

/-! How many names can be followed. -/

theorem advance_names {kind? : Location → Option FileKind} {names : List String} {halt : Halt}
    (halted : advance kind? .follow place (names.map .into) = .ok halt) :
    halt = .arrived (place ++ names) ∨
      ∃ front name after target, names = front ++ name :: after ∧
        halt = .link (place ++ front) target (after.map .into) ∧
        kind? (place ++ front ++ [name]) = some (.link target) := by
  induction names generalizing place with
  | nil =>
      cases halted
      exact .inl (by simp)
  | cons name names induction =>
      rw [List.map_cons, advance_into] at halted
      split at halted
      next => cases halted
      next =>
        have last {e : FileError} (halted : (if (names.map Step.into).isEmpty then
            Except.ok (.arrived (place ++ [name])) else .error e) = .ok halt) :
            halt = .arrived (place ++ name :: names) := by
          split at halted
          next empty =>
            cases halted
            rw [List.isEmpty_iff, List.map_eq_nil_iff] at empty
            rw [empty]
          next => cases halted
        cases held : kind? (place ++ [name]) with
        | none =>
            rw [held] at halted
            exact .inl (last halted)
        | some kind =>
            rw [held] at halted
            cases kind with
            | file => exact .inl (last halted)
            | directory =>
                rcases induction halted with rfl | ⟨front, next, after, target, rfl, rfl, held⟩
                · exact .inl (by simp)
                · exact .inr ⟨name :: front, next, after, target, rfl, by simp, by simpa using held⟩
            | link target =>
                cases halted
                exact .inr ⟨[], name, names, target, rfl, by simp, by simpa using held⟩

/-- Before the first link and behind each, there are no more names than the disk is high. -/
theorem length_le_of_follow (tree : disk.IsTree) (inside : disk.kind? place = some .directory)
    {names : List String}
    (made : follow disk.kind? .follow links place (names.map .into) = .ok found)
    (held : (disk.kind? found).isSome) : names.length ≤ (links + 1) * (disk.height + 1) := by
  induction links using Nat.strongRecOn generalizing place names with
  | ind links induction =>
      have bound {place : Location} {kind : FileKind} {names : List String}
          (held : disk.kind? (place ++ names) = some kind) : names.length ≤ disk.height := by
        have whole := length_le_height held
        rw [List.length_append] at whole
        omega
      rcases follow_eq_ok_iff.mp made with halted | ⟨left, _, _, _, rfl, halted, later⟩
      · rcases advance_names halted with same | ⟨_, _, _, _, _, other, _⟩
        · cases same
          obtain ⟨kind, held⟩ := Option.isSome_iff_exists.mp held
          exact (bound held).trans ((Nat.le_succ _).trans
            (Nat.le_mul_of_pos_left _ (Nat.succ_pos links)))
        · cases other
      · rcases advance_names halted with other | ⟨front, name, after, target, rfl, same, link⟩
        · cases other
        · cases same
          rw [List.append_assoc] at link
          have short := bound link
          rw [List.length_append, List.length_singleton] at short
          have inner := directory_of_link tree inside halted
          have rest : after.length ≤ (left + 1) * (disk.height + 1) := by
            cases after with
            | nil => simp
            | cons next after =>
                obtain ⟨directory, less, few, -, kind, last⟩ :=
                  follow_append tree (directory_of_target inner _) (by simp) later
                exact (induction less (Nat.lt_succ_of_le few) kind last).trans
                  (Nat.mul_le_mul_right _ (Nat.succ_le_succ few))
          rw [List.length_append, List.length_cons, Nat.succ_mul]
          omega

end Disk

end TagAudit
