import TagAudit.Disk.Access

/-! Writing over files.  A file that is written over changes neither where paths lead nor
what any other place holds. -/

namespace TagAudit

namespace Resolution

variable {kind? : Location → Option FileKind} {place : Location} {steps : List Step}

/-- A file is created only where following the path leads as well. -/
theorem advance_of_create {halt : Halt} (made : advance kind? .create place steps = .ok halt) :
    advance kind? .follow place steps = .ok halt := by
  induction steps generalizing place with
  | nil => exact made
  | cons step rest induction =>
      cases step with
      | stay | slash | up => exact induction made
      | into name =>
          simp only [advance] at made ⊢
          rw [if_neg (by simp)]
          split at made
          next => simp at made
          next =>
            split at made
            next => simp at made
            next short =>
              rw [if_neg short]
              cases held : kind? (place ++ [name]) with
              | none => simpa [held] using made
              | some kind =>
                  cases kind with
                  | file => simpa [held] using made
                  | directory =>
                      simp only [held] at made
                      exact induction made
                  | link target => simpa [held] using made

theorem follow_of_create {links : Nat} {found : Location}
    (made : follow kind? .create links place steps = .ok found) :
    follow kind? .follow links place steps = .ok found := by
  induction links generalizing place steps with
  | zero =>
      rw [follow] at made ⊢
      cases halted : advance kind? .create place steps with
      | error e => simp [halted] at made
      | ok halt =>
          rw [halted] at made
          rw [advance_of_create halted]
          exact made
  | succ links induction =>
      rw [follow] at made ⊢
      cases halted : advance kind? .create place steps with
      | error e => simp [halted] at made
      | ok halt =>
          rw [halted] at made
          rw [advance_of_create halted]
          cases halt with
          | arrived place => exact made
          | link directory target rest => exact induction made

end Resolution

namespace Disk

open Resolution

variable {disk : Disk} {p : Path} {place : Location}

theorem resolve_of_create (made : disk.resolve p .create = .ok place) :
    disk.resolve p .follow = .ok place := by
  rw [resolve] at made ⊢
  cases fault : textFault? p with
  | some e => simp [fault] at made
  | none =>
      simp only [fault] at made ⊢
      exact follow_of_create made

theorem ne_nil_of_file (held : disk.kind? place = some .file) : place ≠ [] := by
  rintro rfl
  cases held

theorem node?_put (below : place ≠ []) (node : FileNode) (other : Location) :
    (disk.put place node).node? other = if other = place then some node else disk.node? other := by
  by_cases same : other = place
  · simp [node?, put, same, below]
  · have apart : compare place other ≠ .eq :=
      fun equal => same (Std.LawfulEqCmp.eq_of_compare equal).symm
    simp [node?, put, same, Std.TreeMap.getElem?_insert, apart]

theorem kind?_put_file (held : disk.kind? place = some .file) (bytes : ByteArray) :
    (disk.put place (.file bytes)).kind? = disk.kind? := by
  funext other
  rw [kind?, node?_put (ne_nil_of_file held)]
  split
  next same => rw [same, held]; rfl
  next => rfl

structure Rewritten (places : Location → Prop) (before after : Disk) : Prop where
  here : after.here = before.here
  kind : after.kind? = before.kind?
  refusal : after.refusal? = before.refusal?
  node : ∀ place, ¬ places place → after.node? place = before.node? place

namespace Rewritten

variable {places : Location → Prop} {before after : Disk}

theorem refl (disk : Disk) : Rewritten places disk disk :=
  ⟨rfl, rfl, rfl, fun _ _ => rfl⟩

theorem trans {last : Disk} (first : Rewritten places before after)
    (second : Rewritten places after last) : Rewritten places before last where
  here := second.here.trans first.here
  kind := second.kind.trans first.kind
  refusal := second.refusal.trans first.refusal
  node place beside := (second.node place beside).trans (first.node place beside)

theorem mono {places' : Location → Prop} (rewritten : Rewritten places before after)
    (more : ∀ place, places place → places' place) : Rewritten places' before after where
  here := rewritten.here
  kind := rewritten.kind
  refusal := rewritten.refusal
  node place beside := rewritten.node place fun changed => beside (more place changed)

theorem resolve_eq (rewritten : Rewritten places before after) (p : Path) (last : LastLink) :
    after.resolve p last = before.resolve p last := by
  simp only [resolve, rewritten.here, rewritten.kind]

theorem readText_eq (rewritten : Rewritten places before after)
    (beside : ∀ place, before.resolve p .follow = .ok place → ¬ places place) :
    after.readText p = before.readText p := by
  simp only [readText, readBytes, locate, rewritten.resolve_eq]
  cases found : before.resolve p .follow with
  | error e => rfl
  | ok place => simp only [bind, Except.bind, rewritten.node place (beside place found)]

theorem put (held : before.kind? place = some .file) (bytes : ByteArray) :
    Rewritten (· = place) before (before.put place (.file bytes)) where
  here := rfl
  kind := kind?_put_file held bytes
  refusal := rfl
  node other beside := by
    rw [node?_put (ne_nil_of_file held), if_neg beside]

end Rewritten

theorem readText_of_node? {text : String} (found : disk.resolve p .follow = .ok place)
    (holds : disk.node? place = some (.file text.toUTF8)) : disk.readText p = .ok text := by
  have decoded : String.fromUTF8? text.toUTF8 = some text := dif_pos text.isValidUTF8
  simp only [readText, readBytes, locate, found, holds, bind, Except.bind, pure, Except.pure,
    decoded]

theorem exists_file_of_readText {text : String} (read : disk.readText p = .ok text) :
    ∃ place, disk.resolve p .follow = .ok place ∧ disk.kind? place = some .file := by
  simp only [readText, readBytes, locate, bind, Except.bind] at read
  cases found : disk.resolve p .follow with
  | error e => simp [found] at read
  | ok place =>
      refine ⟨place, rfl, ?_⟩
      simp only [found] at read
      cases holds : disk.node? place with
      | none => simp [holds] at read
      | some node =>
          cases node with
          | file bytes => simp [kind?, holds, FileNode.kind]
          | directory => simp [holds, pure, Except.pure] at read
          | link target => simp [holds, pure, Except.pure] at read

theorem writeText_of_file {text : String} (made : disk.resolve p .create = .ok place)
    (held : disk.kind? place = some .file) :
    disk.writeText p text =
      match disk.refusal? place with
      | some e => .error e
      | none => .ok (disk.put place (.file text.toUTF8)) := by
  simp only [writeText, write, made, held, bind, Except.bind, pure, Except.pure]
  cases disk.refusal? place <;> rfl

theorem writeText_of_readText {old text : String} {disk' : Disk} (read : disk.readText p = .ok old)
    (written : disk.writeText p text = .ok disk') :
    ∃ place, disk.resolve p .follow = .ok place ∧ disk.kind? place = some .file ∧
      Rewritten (· = place) disk disk' ∧ disk'.readText p = .ok text := by
  obtain ⟨place, found, held⟩ := exists_file_of_readText read
  cases made : disk.resolve p .create with
  | error e => simp [writeText, write, made, bind, Except.bind] at written
  | ok place' =>
      obtain rfl : place' = place :=
        Except.ok.inj ((resolve_of_create made).symm.trans found)
      rw [writeText_of_file made held] at written
      split at written
      next => simp at written
      next =>
        obtain rfl := Except.ok.inj written
        have rewritten := Rewritten.put held text.toUTF8
        refine ⟨place', found, held, rewritten, ?_⟩
        refine readText_of_node? ((rewritten.resolve_eq p .follow).trans found) ?_
        rw [node?_put (ne_nil_of_file held), if_pos rfl]

end Disk

end TagAudit
