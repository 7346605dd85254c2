import TagAudit.Proofs.Repair.ComponentLine
import TagAudit.Proofs.Text.Boundaries

/-! Which repairs can be planned.  The position where a closing marker belongs is looked up before
it is used, so a bad one makes no edit.  The position of its opening marker is only held below the
end of the text: one that lies inside a character stops the whole repair. -/

namespace TagAudit

open Text

namespace Repair

variable {path : Path} {content : List Char} {tag : String} {openOffset insertOffset : Nat}

theorem insertPlace_of_isBoundary (boundary : IsBoundary content insertOffset) :
    ∃ place, (Place.find? insertOffset content).filter (·.excess = 0) = some place := by
  obtain ⟨a, b, rfl, rfl⟩ := boundary
  exact ⟨_, by rw [Place.find?_append, Option.filter_some, if_pos (by simp)]⟩

theorem insertPlace_of_not_isBoundary (bad : ¬ IsBoundary content insertOffset) :
    (Place.find? insertOffset content).filter (·.excess = 0) = none := by
  rcases boundary_cases content insertOffset with boundary | inside | beyond
  · exact absurd boundary bad
  · rw [Place.find?_of_inside inside, Option.filter_none]
  · obtain ⟨m, rfl⟩ := Nat.exists_eq_add_of_le beyond.le
    have past : m ≠ 0 := by omega
    simp [Place.find?_beyond, past]

theorem plan_close_of_not_isBoundary (path : Path) (tag : String) (openOffset : Nat)
    (bad : ¬ IsBoundary content insertOffset) :
    plan path content (.close tag openOffset insertOffset) = .ok none := by
  simp only [plan, insertPlace_of_not_isBoundary bad]

theorem plan_close_of_inside (path : Path) (tag : String)
    (boundary : IsBoundary content insertOffset) (inside : InsideCharacter content openOffset) :
    plan path content (.close tag openOffset insertOffset) =
      .error (.insideCharacter openOffset) := by
  obtain ⟨place, found⟩ := insertPlace_of_isBoundary boundary
  simp only [plan, found, Place.find?_of_inside inside]

theorem plan_close_of_outside (path : Path) (tag : String)
    (boundary : IsBoundary content insertOffset)
    (outside : ¬ InsideCharacter content openOffset) :
    ∃ text, plan path content (.close tag openOffset insertOffset) =
      .ok (some ⟨insertOffset, text⟩) := by
  obtain ⟨place, found⟩ := insertPlace_of_isBoundary boundary
  obtain ⟨opening, opens⟩ := Place.exists_find? outside
  exact ⟨_, by simp only [plan, found, opens]; rfl⟩

/-- The text of a closing line, and the cut that it goes into. -/
theorem exists_cut_of_plan_close {edit : Edit}
    (planned : plan path content (.close tag openOffset insertOffset) = .ok (some edit)) :
    ∃ above below, content = above ++ below ∧ insertOffset = byteSize above ∧
      edit = ⟨byteSize above, String.ofList
        ('\n' :: lineLead (lastLine (takeBytes openOffset content)) ++
          (⟨tag.toList, true⟩ : Marker).render ++ if beginsLine below then [] else ['\n'])⟩ := by
  obtain ⟨opening, place, opens, placed, rfl⟩ := plan_close_eq_some_iff.mp planned
  have before := Place.before_of_find? opens
  by_cases boundary : IsBoundary content insertOffset
  · obtain ⟨above, below, rfl, rfl⟩ := boundary
    rw [Place.find?_append, Option.filter_some, if_pos (by simp)] at placed
    obtain rfl := Option.some.inj placed
    exact ⟨above, below, rfl, rfl, by rw [closingLine, before]⟩
  · rw [insertPlace_of_not_isBoundary boundary] at placed
    cases placed

/-- The closing marker can be written, but its opening marker is said to begin inside a
character. -/
def Misplaced (content : List Char) : Repair → Prop
  | .close _ openOffset insertOffset =>
      IsBoundary content insertOffset ∧ InsideCharacter content openOffset
  | .insertComponent _ => False

theorem plan_eq_error_iff {r : Repair} {e : RepairError} :
    plan path content r = .error e ↔
      ∃ tag openOffset insertOffset, r = .close tag openOffset insertOffset ∧
        r.Misplaced content ∧ e = .insideCharacter openOffset := by
  cases r with
  | insertComponent value => simp [plan_insertComponent]
  | close tag openOffset insertOffset =>
      simp only [Repair.close.injEq, Misplaced]
      by_cases boundary : IsBoundary content insertOffset
      · by_cases inside : InsideCharacter content openOffset
        · simp [plan_close_of_inside path tag boundary inside, boundary, inside, eq_comm]
        · obtain ⟨text, planned⟩ := plan_close_of_outside path tag boundary inside
          simp [planned, inside]
      · simp [plan_close_of_not_isBoundary path tag openOffset boundary, boundary]

theorem isOk_plan_iff {r : Repair} :
    (plan path content r).isOk = true ↔ ¬ r.Misplaced content := by
  cases planned : plan path content r with
  | error e =>
      obtain ⟨tag, openOffset, insertOffset, -, misplaced, -⟩ := plan_eq_error_iff.mp planned
      simp [Except.isOk, Except.toBool, misplaced]
  | ok found =>
      refine iff_of_true rfl fun misplaced => ?_
      cases r with
      | insertComponent value => exact misplaced
      | close tag openOffset insertOffset =>
          rw [plan_close_of_inside path tag misplaced.1 misplaced.2] at planned
          cases planned

theorem isBoundary_of_plan {r : Repair} {edit : Edit}
    (planned : plan path content r = .ok (some edit)) : IsBoundary content edit.offset := by
  cases r with
  | insertComponent value =>
      obtain ⟨above, below, whole, header, -⟩ := headerEnd_split content
      rw [plan_insertComponent, Except.ok.injEq, Option.some.injEq] at planned
      exact planned ▸ ⟨above, below, whole, header⟩
  | close tag openOffset insertOffset =>
      obtain ⟨above, below, whole, -, rfl⟩ := exists_cut_of_plan_close planned
      exact ⟨above, below, whole, rfl⟩

end Repair

open Repair

variable {file content : String} {issues : List Issue}

theorem repair_eq_error_iff_mapM {e : RepairError} :
    repair file content issues = .error e ↔
      (issues.filterMap Issue.repair).mapM (plan (Path.ofString file) content.toList) =
        .error e := by
  simp only [repair, bind, Except.bind]
  cases (issues.filterMap Issue.repair).mapM (plan (Path.ofString file) content.toList) with
  | error cause => simp
  | ok planned => simp [pure, Except.pure]

theorem repair_eq_error_iff {e : RepairError} :
    repair file content issues = .error e ↔
      ∃ front issue later tag openOffset insertOffset, issues = front ++ issue :: later ∧
        issue.repair = some (.close tag openOffset insertOffset) ∧
        (Repair.close tag openOffset insertOffset).Misplaced content.toList ∧
        (∀ other ∈ front, ∀ r ∈ other.repair, ¬ r.Misplaced content.toList) ∧
        e = .insideCharacter openOffset := by
  rw [repair_eq_error_iff_mapM, mapM_eq_error_iff]
  simp only [isOk_plan_iff, plan_eq_error_iff]
  constructor
  · rintro ⟨good, r, rest, asked, placed, tag, openOffset, insertOffset, rfl, misplaced, rfl⟩
    obtain ⟨front, others, rfl, goods, asked⟩ := List.filterMap_eq_append_iff.mp asked
    obtain ⟨idle, issue, later, rfl, quiet, close, -⟩ := List.filterMap_eq_cons_iff.mp asked
    refine ⟨front ++ idle, issue, later, tag, openOffset, insertOffset,
      (List.append_assoc _ _ _).symm, close, misplaced, ?_, rfl⟩
    refine List.forall_mem_append.mpr ⟨fun other member r asks => ?_, fun other member r asks => ?_⟩
    · exact placed r (goods ▸ List.mem_filterMap.mpr ⟨other, member, asks⟩)
    · rw [quiet other member] at asks
      cases asks
  · rintro ⟨front, issue, later, tag, openOffset, insertOffset, rfl, close, misplaced, placed, rfl⟩
    refine ⟨front.filterMap Issue.repair, _, later.filterMap Issue.repair, ?_, ?_, tag, openOffset,
      insertOffset, rfl, misplaced, rfl⟩
    · rw [List.filterMap_append, List.filterMap_cons, close]
    · intro r member
      obtain ⟨other, among, asks⟩ := List.mem_filterMap.mp member
      exact placed other among r asks

theorem exists_repaired_iff :
    (∃ repaired, repair file content issues = .ok repaired) ↔
      ∀ issue ∈ issues, ∀ r ∈ issue.repair, ¬ r.Misplaced content.toList := by
  constructor
  · rintro ⟨repaired, done⟩ issue member r asks
    cases all : (issues.filterMap Issue.repair).mapM
        (plan (Path.ofString file) content.toList) with
    | error e =>
        rw [repair_eq_error_iff_mapM.mpr all] at done
        cases done
    | ok found =>
        obtain ⟨edit?, made⟩ := exists_of_mapM all (List.mem_filterMap.mpr ⟨issue, member, asks⟩)
        exact isOk_plan_iff.mp (by rw [made]; rfl)
  · intro placed
    cases done : repair file content issues with
    | ok repaired => exact ⟨repaired, rfl⟩
    | error e =>
        obtain ⟨front, issue, later, tag, openOffset, insertOffset, rfl, close, misplaced, -⟩ :=
          repair_eq_error_iff.mp done
        exact absurd misplaced (placed issue (by simp) _ close)

/-- A repair of a text comes to its end exactly when the text can be cut at every opening position
that a closing marker is planned with, held below the end of the text; otherwise the first of them
that lies inside a character stops it.  Every other cut is made between two characters: where an
edit goes, and where the line of a boundary begins. -/
theorem repair_stops_iff (file content : String) (issues : List Issue) :
    let cs := content.toList
    ((∃ repaired, repair file content issues = .ok repaired) ↔
      ∀ issue ∈ issues, ∀ tag openOffset insertOffset,
        issue.repair = some (.close tag openOffset insertOffset) → IsBoundary cs insertOffset →
          Sliceable cs 0 (min openOffset (byteSize cs))) ∧
    (∀ e, repair file content issues = .error e ↔
      ∃ front issue later tag openOffset insertOffset, issues = front ++ issue :: later ∧
        issue.repair = some (.close tag openOffset insertOffset) ∧
        (IsBoundary cs insertOffset ∧ InsideCharacter cs openOffset) ∧
        (∀ other ∈ front, ∀ r ∈ other.repair, ¬ r.Misplaced cs) ∧
        e = .insideCharacter openOffset) ∧
    (∀ r edit, plan (Path.ofString file) cs r = .ok (some edit) →
      Sliceable cs 0 edit.offset ∧ Sliceable cs edit.offset (byteSize cs)) ∧
    ∀ n, IsBoundary cs n → Sliceable cs (n - byteSize (lastLine (takeBytes n cs))) n := by
  intro cs
  refine ⟨?returns, fun e => repair_eq_error_iff, ?edits, fun n => IsBoundary.sliceable_lastLine⟩
  case returns =>
    have cut {n : Nat} : Sliceable cs 0 (min n (byteSize cs)) ↔ ¬ InsideCharacter cs n := by
      rw [← isBoundary_min_iff]
      exact ⟨Sliceable.ends, fun boundary => ⟨isBoundary_zero cs, boundary, Nat.zero_le _⟩⟩
    rw [exists_repaired_iff]
    refine forall₂_congr fun issue _ => ?_
    constructor
    · intro placed tag openOffset insertOffset asks boundary
      exact cut.mpr fun inside => placed _ asks ⟨boundary, inside⟩
    · intro cuts r asks misplaced
      cases r with
      | insertComponent value => exact misplaced
      | close tag openOffset insertOffset =>
          exact cut.mp (cuts tag openOffset insertOffset asks misplaced.1) misplaced.2
  case edits =>
    intro r edit planned
    have boundary := isBoundary_of_plan planned
    exact ⟨⟨isBoundary_zero cs, boundary, Nat.zero_le _⟩,
      ⟨boundary, isBoundary_byteSize cs, boundary.le⟩⟩

theorem repair_stops_iff_accent :
    let issue := (Issue.ofFile .error "matching-close" "x.md" "").withRepair (.close "a" 1 2)
    repair "x.md" "é" [issue] = .error (.insideCharacter 1) ∧
      ¬ ∃ repaired, repair "x.md" "é" [issue] = .ok repaired := by
  intro issue
  have boundary : IsBoundary "é".toList 2 := ⟨['é'], [], by decide, by decide⟩
  have inside : InsideCharacter "é".toList 1 := ⟨[], 'é', [], by decide, by decide, by decide⟩
  obtain ⟨returns, stops, -⟩ := repair_stops_iff "x.md" "é" [issue]
  refine ⟨(stops _).mpr ⟨[], issue, [], "a", 1, 2, rfl, rfl, ⟨boundary, inside⟩, nofun, rfl⟩, ?_⟩
  intro done
  have cut := returns.mp done issue (by simp) "a" 1 2 rfl boundary
  exact isBoundary_min_iff.mp cut.ends inside

end TagAudit
