import Mathlib.Data.List.Infix
import TagAudit.Proofs.Path.Display
import TagAudit.Proofs.Path.Parent

/-! The way up from an absolute path, which drops one step after the other. -/

namespace TagAudit.Path

open Text

variable {p parent : Path} {way : List Path}

/-- The way up from a path, from one parent to the next until there is none. -/
inductive Upward : Path → List Path → Prop
  | top {p : Path} (last : p.parent? = none) : Upward p [p]
  | step {p parent : Path} {way : List Path} (up : p.parent? = some parent)
      (further : Upward parent way) : Upward p (p :: way)

theorem exists_anatomy_of_absolute (absolute : p.isAbsolute) :
    ∃ rest, p.text = '/' :: rest ∧ p.anatomy = ([.root], splitOn '/' rest) := by
  rw [isAbsolute, beq_iff_eq, List.head?_eq_some_iff] at absolute
  obtain ⟨rest, text⟩ := absolute
  exact ⟨rest, text, by simp [anatomy, text]⟩

theorem parent?_eq_none_iff (absolute : p.isAbsolute) :
    p.parent? = none ↔ p.components = [.root] := by
  constructor
  · intro last
    have none := components_parent? p
    rw [last] at none
    obtain ⟨steps, top⟩ := List.head?_eq_some_iff.mp (isAbsolute_iff_head?.mp absolute)
    rw [top] at none ⊢
    cases steps with
    | nil => rfl
    | cons step steps => cases none
  · -- Without a step behind the root all pieces are void, and the root itself has no parent.
    intro top
    obtain ⟨rest, -, shape⟩ := exists_anatomy_of_absolute absolute
    have void : (splitOn '/' rest).filterMap Component.ofPiece? = [] := by
      rw [components, shape] at top
      exact (List.cons.inj top).2
    rw [← filterMap_trimVoid] at void
    rcases List.eq_nil_or_concat (trimVoid (splitOn '/' rest)) with none | ⟨front, last, kept⟩
    · rw [parent?, shape]
      dsimp only
      rw [none]
      rfl
    · rw [List.concat_eq_append] at kept
      obtain ⟨step, made⟩ := exists_step_of_trimVoid kept
      rw [kept, List.filterMap_append, List.filterMap_cons_some made] at void
      simp at void

theorem components_of_parent? (up : p.parent? = some parent) :
    parent.components = p.components.dropLast := by
  have steps := components_parent? p
  rw [up] at steps
  exact steps

theorem isAbsolute_of_parent? (absolute : p.isAbsolute) (up : p.parent? = some parent) :
    parent.isAbsolute := by
  obtain ⟨steps, top⟩ := List.head?_eq_some_iff.mp (isAbsolute_iff_head?.mp absolute)
  rw [isAbsolute_iff_head?, components_of_parent? up, top]
  cases steps with
  | nil =>
      rw [(parent?_eq_none_iff absolute).mpr top] at up
      cases up
  | cons step steps => rfl

theorem exists_upward (absolute : p.isAbsolute) :
    ∃ way, Upward p way ∧ way.map components = p.components.inits.tail.reverse := by
  -- Each parent has the steps without the last one.
  induction steps : p.components using List.reverseRecOn generalizing p with
  | nil =>
      rw [isAbsolute_iff_head?, steps] at absolute
      cases absolute
  | append_singleton above last induction =>
      cases up : p.parent? with
      | none =>
          have top := steps.symm.trans ((parent?_eq_none_iff absolute).mp up)
          refine ⟨[p], .top up, ?_⟩
          rw [List.map_singleton, steps, top]
          rfl
      | some parent =>
          have fewer : parent.components = above := by
            rw [components_of_parent? up, steps, List.dropLast_concat]
          obtain ⟨way, further, dropped⟩ := induction (isAbsolute_of_parent? absolute up) fewer
          refine ⟨p :: way, .step up further, ?_⟩
          rw [List.map_cons, dropped, steps]
          cases above with
          | nil => rfl
          | cons first above => simp [List.inits_append]

namespace Upward

theorem unique {other : List Path} (upward : Upward p way) (also : Upward p other) :
    way = other := by
  induction upward generalizing other with
  | top last =>
      cases also with
      | top => rfl
      | step up => simp [last] at up
  | step up further induction =>
      cases also with
      | top last => simp [last] at up
      | step up' further' =>
          obtain rfl := Option.some_inj.mp (up.symm.trans up')
          rw [induction further']

theorem isAbsolute (upward : Upward p way) (absolute : p.isAbsolute) :
    ∀ q ∈ way, q.isAbsolute := by
  induction upward with
  | top => simpa using absolute
  | step up further induction =>
      rw [List.forall_mem_cons]
      exact ⟨absolute, induction (isAbsolute_of_parent? absolute up)⟩

end Upward

theorem length_components_le (absolute : p.isAbsolute) :
    p.components.length ≤ p.text.length + 1 := by
  obtain ⟨rest, text, shape⟩ := exists_anatomy_of_absolute absolute
  have steps : p.components = .root :: (splitOn '/' rest).filterMap Component.ofPiece? := by
    rw [components, shape]
    rfl
  have few := List.length_filterMap_le Component.ofPiece? (splitOn '/' rest)
  have pieces := length_splitOn_le '/' rest
  rw [steps, text, List.length_cons, List.length_cons]
  omega

end TagAudit.Path
