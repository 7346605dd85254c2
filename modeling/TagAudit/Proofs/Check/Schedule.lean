import Mathlib.Data.List.Nodup
import Mathlib.Logic.Relation
import TagAudit.Proofs.Check.Listing
import TagAudit.Proofs.Check.Rerun

/-! Checking files at the same time.  Every file is read in one step and settled in a later
one, and the steps of different files may come in any order.  As long as the targets name
different files, what becomes of each is what becomes of it alone on the disk at the start. -/

namespace TagAudit

open Disk

/-! Storing a text on a device that may be kept from writing some paths. -/

namespace Disk

def store (locked : Path → Option FileError) (disk : Disk) (p : Path) (text : String) :
    Except FileError Disk :=
  match locked p with
  | some e => .error e
  | none => disk.writeText p text

def overwrite (disk : Disk) : Option (Location × ByteArray) → Disk
  | none => disk
  | some (place, bytes) => disk.put place (.file bytes)

variable {disk now : Disk} {places : Location → Prop} {p : Path}

theorem store_of_readText {old : String} (locked : Path → Option FileError)
    (rewritten : Rewritten places disk now) (read : disk.readText p = .ok old) (text : String) :
    (∃ e, disk.store locked p text = .error e ∧ now.store locked p text = .error e) ∨
      ∃ place, disk.resolve p .follow = .ok place ∧ disk.kind? place = some .file ∧
        disk.store locked p text = .ok (disk.put place (.file text.toUTF8)) ∧
        now.store locked p text = .ok (now.put place (.file text.toUTF8)) := by
  simp only [store]
  cases locked p with
  | some e => exact .inl ⟨e, rfl, rfl⟩
  | none =>
      obtain ⟨place, found, held⟩ := exists_file_of_readText read
      have madeNow := rewritten.resolve_eq p .create
      cases made : disk.resolve p .create with
      | error e =>
          refine .inl ⟨e, ?_, ?_⟩ <;>
            simp [writeText, write, madeNow, made, bind, Except.bind]
      | ok place' =>
          obtain rfl : place' = place :=
            Except.ok.inj ((resolve_of_create made).symm.trans found)
          simp only [writeText_of_file made held, writeText_of_file (madeNow.trans made)
            ((congrFun rewritten.kind place').trans held), rewritten.refusal]
          cases disk.refusal? place' with
          | some e => exact .inl ⟨e, rfl, rfl⟩
          | none => exact .inr ⟨place', found, held, rfl, rfl⟩

theorem Rewritten.overwrite {change : Option (Location × ByteArray)}
    (files : ∀ place bytes, change = some (place, bytes) → disk.kind? place = some .file) :
    Rewritten (fun place => ∃ bytes, change = some (place, bytes)) disk
      (disk.overwrite change) := by
  cases change with
  | none => exact .refl disk
  | some change =>
      obtain ⟨place, bytes⟩ := change
      exact (Rewritten.put (files place bytes rfl) bytes).mono fun other same =>
        ⟨bytes, by rw [same]⟩

theorem node?_overwrite_congr {change : Option (Location × ByteArray)} {place : Location}
    (files : ∀ place bytes, change = some (place, bytes) → disk.kind? place = some .file)
    (same : now.node? place = disk.node? place) :
    (now.overwrite change).node? place = (disk.overwrite change).node? place := by
  cases change with
  | none => exact same
  | some change =>
      obtain ⟨changed, bytes⟩ := change
      have below := ne_nil_of_file (files changed bytes rfl)
      rw [overwrite, overwrite, node?_put below, node?_put below, same]

end Disk

namespace Checker

/-- Settles a target whose text is read: its repaired text is stored when there is one, and
the report is made. -/
def settle (checker : Checker) (fix : Bool) (locked : Path → Option FileError) (disk : Disk)
    (target : Target) (content : Except FileError String) : FileReport × Disk :=
  match content.toOption.bind (checker.revision? fix target) with
  | none => (checker.report fix target content (.ok ()), disk)
  | some revised =>
      let stored := disk.store locked target.path revised.content
      (checker.report fix target content (stored.map fun _ => ()), stored.toOption.getD disk)

def alone (checker : Checker) (fix : Bool) (locked : Path → Option FileError) (disk : Disk)
    (target : Target) : FileReport × Disk :=
  checker.settle fix locked disk target (target.read disk)

theorem alone_eq_checkFile (checker : Checker) (fix : Bool) (disk : Disk) (target : Target) :
    checker.alone fix (fun _ => none) disk target = checker.checkFile fix disk target := by
  rw [alone, settle, checkFile]
  cases (target.read disk).toOption.bind (checker.revision? fix target) <;> rfl

variable {checker : Checker} {fix : Bool} {locked : Path → Option FileError} {disk now : Disk}
  {target : Target} {places : Location → Prop}

theorem target_settle (content : Except FileError String) :
    (checker.settle fix locked disk target content).1.target = target := by
  rw [settle]
  split <;> exact target_report content _

/-- Settling a target overwrites its own file at most, and files that were written over before
make no difference to what is written and reported. -/
theorem settle_eq (checker : Checker) (fix : Bool) (locked : Path → Option FileError)
    (target : Target) (rewritten : Rewritten places disk now) :
    ∃ change : Option (Location × ByteArray),
      (∀ place bytes, change = some (place, bytes) → target.place? disk = some place) ∧
      checker.alone fix locked disk target =
        ((checker.alone fix locked disk target).1, disk.overwrite change) ∧
      checker.settle fix locked now target (target.read disk) =
        ((checker.alone fix locked disk target).1, now.overwrite change) := by
  rw [alone, settle, settle]
  cases read : target.read disk with
  | error e => exact ⟨none, nofun, rfl, rfl⟩
  | ok content =>
      cases wanted : checker.revision? fix target content with
      | none => exact ⟨none, nofun, by simp [Except.toOption, wanted, overwrite],
          by simp [Except.toOption, wanted, overwrite]⟩
      | some revised =>
          simp only [Except.toOption, Option.bind_some, wanted]
          rcases store_of_readText locked rewritten read revised.content with
            ⟨e, refused, refusedNow⟩ | ⟨place, found, held, stored, storedNow⟩
          · rw [refused, refusedNow]
            exact ⟨none, nofun, rfl, rfl⟩
          · rw [stored, storedNow]
            refine ⟨some (place, revised.content.toUTF8), ?_, rfl, rfl⟩
            rintro _ _ ⟨⟩
            exact Target.place?_eq_some.mpr ⟨found, held⟩

end Checker

/-! Runs. -/

/-- How far the check of a target has come. -/
inductive Progress where
  | waiting
  | read (content : Except FileError String)
  | settled (report : FileReport)

structure Run where
  disk : Disk
  tasks : List (Target × Progress)

namespace Run

def start (disk : Disk) (targets : List Target) : Run :=
  ⟨disk, targets.map fun target => (target, .waiting)⟩

def reports (run : Run) : List FileReport :=
  run.tasks.filterMap fun task =>
    match task.2 with
    | .settled report => some report
    | _ => none

def Complete (run : Run) : Prop :=
  ∀ task ∈ run.tasks, ∃ report, task.2 = .settled report

/-- Any one target takes its next step: it is read, or it is settled. -/
inductive Step (checker : Checker) (fix : Bool) (locked : Path → Option FileError) :
    Run → Run → Prop
  | read (disk : Disk) (above below : List (Target × Progress)) (target : Target) :
      Step checker fix locked ⟨disk, above ++ (target, .waiting) :: below⟩
        ⟨disk, above ++ (target, .read (target.read disk)) :: below⟩
  | settle (disk : Disk) (above below : List (Target × Progress)) (target : Target)
      (content : Except FileError String) {report : FileReport} {disk' : Disk}
      (settled : checker.settle fix locked disk target content = (report, disk')) :
      Step checker fix locked ⟨disk, above ++ (target, .read content) :: below⟩
        ⟨disk', above ++ (target, .settled report) :: below⟩

abbrev Steps (checker : Checker) (fix : Bool) (locked : Path → Option FileError) :
    Run → Run → Prop :=
  Relation.ReflTransGen (Step checker fix locked)

variable {checker : Checker} {fix : Bool} {locked : Path → Option FileError} {disk : Disk}
  {targets : List Target} {run next : Run}

/-! No run gets stuck, and none goes on for ever. -/

def remaining (run : Run) : Nat :=
  (run.tasks.map fun task =>
    match task.2 with
    | .waiting => 2
    | .read _ => 1
    | .settled _ => 0).sum

theorem remaining_of_step (step : Step checker fix locked run next) :
    run.remaining = next.remaining + 1 := by
  cases step <;> simp [remaining] <;> omega

theorem exists_step (checker : Checker) (fix : Bool) (locked : Path → Option FileError)
    (incomplete : ¬ run.Complete) : ∃ next, Step checker fix locked run next := by
  obtain ⟨disk, tasks⟩ := run
  simp only [Complete, not_forall] at incomplete
  obtain ⟨⟨target, progress⟩, member, unsettled⟩ := incomplete
  obtain ⟨above, below, rfl⟩ := List.append_of_mem member
  cases progress with
  | waiting => exact ⟨_, .read disk above below target⟩
  | read content => exact ⟨_, .settle disk above below target content rfl⟩
  | settled report => exact absurd ⟨report, rfl⟩ unsettled

theorem exists_complete (checker : Checker) (fix : Bool) (locked : Path → Option FileError)
    (run : Run) :
    ∃ last, Steps checker fix locked run last ∧ last.Complete := by
  by_cases complete : run.Complete
  · exact ⟨run, .refl, complete⟩
  · obtain ⟨next, step⟩ := exists_step checker fix locked complete
    have fewer := remaining_of_step step
    obtain ⟨last, steps, complete⟩ := exists_complete checker fix locked next
    exact ⟨last, .head step steps, complete⟩
termination_by run.remaining

/-! What has been done agrees with what becomes of each target alone. -/

/-- What is known of a target agrees with what becomes of it alone on the disk at the start,
and so does its file when it is settled. -/
def Agrees (checker : Checker) (fix : Bool) (locked : Path → Option FileError) (disk now : Disk)
    (target : Target) : Progress → Prop
  | .waiting => True
  | .read content => content = target.read disk
  | .settled report =>
      report = (checker.alone fix locked disk target).1 ∧
        ∀ place, target.place? disk = some place →
          now.node? place = (checker.alone fix locked disk target).2.node? place

def SettledAt (disk : Disk) (tasks : List (Target × Progress)) (place : Location) : Prop :=
  ∃ target report, (target, .settled report) ∈ tasks ∧ target.place? disk = some place

structure Faithful (checker : Checker) (fix : Bool) (locked : Path → Option FileError)
    (disk : Disk) (targets : List Target) (run : Run) : Prop where
  targets : run.tasks.map Prod.fst = targets
  rewritten : Rewritten (SettledAt disk run.tasks) disk run.disk
  agrees : ∀ task ∈ run.tasks, Agrees checker fix locked disk run.disk task.1 task.2

theorem faithful_start (disk : Disk) (targets : List Target) :
    Faithful checker fix locked disk targets (start disk targets) where
  targets := by simp [start, Function.comp_def]
  rewritten := .refl disk
  agrees := by
    intro task member
    obtain ⟨target, -, rfl⟩ := List.mem_map.mp member
    trivial

theorem beside_settled {above below : List (Target × Progress)} {target : Target}
    {progress : Progress}
    (different : (((above ++ (target, progress) :: below).map Prod.fst).filterMap
      (·.place? disk)).Nodup)
    (unsettled : ∀ report, progress ≠ .settled report) {place : Location}
    (found : target.place? disk = some place) :
    ¬ SettledAt disk (above ++ (target, progress) :: below) place := by
  rintro ⟨other, report, member, same⟩
  have apart := List.pairwise_filterMap.mp different
  rw [List.map_append, List.map_cons, List.pairwise_append, List.pairwise_cons] at apart
  obtain ⟨-, ⟨later, -⟩, earlier⟩ := apart
  rw [List.mem_append, List.mem_cons] at member
  rcases member with member | equal | member
  · exact earlier other (List.mem_map_of_mem member) target (.head _) place same place found rfl
  · exact unsettled report (Prod.mk.inj equal).2.symm
  · exact later other (List.mem_map_of_mem member) place found place same rfl

theorem SettledAt.advance {above below : List (Target × Progress)} {target : Target}
    {before after : Progress} {place : Location} (unsettled : ∀ report, before ≠ .settled report)
    (settled : SettledAt disk (above ++ (target, before) :: below) place) :
    SettledAt disk (above ++ (target, after) :: below) place := by
  obtain ⟨other, report, member, found⟩ := settled
  refine ⟨other, report, ?_, found⟩
  rw [List.mem_append, List.mem_cons] at member ⊢
  refine member.imp_right (Or.imp_left fun equal => ?_)
  exact absurd (Prod.mk.inj equal).2.symm (unsettled report)

theorem Agrees.congr {now after : Disk} {target : Target} {progress : Progress}
    (agrees : Agrees checker fix locked disk now target progress)
    (same : ∀ report, progress = .settled report → ∀ place, target.place? disk = some place →
      after.node? place = now.node? place) :
    Agrees checker fix locked disk after target progress := by
  cases progress with
  | waiting => trivial
  | read content => exact agrees
  | settled report =>
      exact ⟨agrees.1, fun place found =>
        (same report rfl place found).trans (agrees.2 place found)⟩

theorem Faithful.step (different : (targets.filterMap (·.place? disk)).Nodup)
    (faithful : Faithful checker fix locked disk targets run)
    (step : Step checker fix locked run next) :
    Faithful checker fix locked disk targets next := by
  obtain ⟨names, rewritten, agrees⟩ := faithful
  rw [← names] at different
  -- in either step the target at hand is not settled before, so its own file is untouched
  cases step with
  | read now above below target =>
      have beside (place : Location) (found : target.place? disk = some place) :=
        beside_settled different nofun found
      have unread : target.read now = target.read disk := by
        refine Target.read_eq rewritten ?_ beside
        rintro place ⟨other, report, -, found⟩
        exact (Target.place?_eq_some.mp found).2
      refine ⟨by simpa using names, rewritten.mono fun place => SettledAt.advance nofun, ?_⟩
      rw [List.forall_mem_append, List.forall_mem_cons] at agrees ⊢
      exact ⟨agrees.1, unread, agrees.2.2⟩
  | settle now above below target content settled =>
      have beside (place : Location) (found : target.place? disk = some place) :=
        beside_settled different nofun found
      rw [List.forall_mem_append, List.forall_mem_cons] at agrees
      obtain ⟨earlier, unread, later⟩ := agrees
      obtain rfl : content = target.read disk := unread
      obtain ⟨change, own, alone, changed⟩ := checker.settle_eq fix locked target rewritten
      obtain ⟨rfl, rfl⟩ := Prod.mk.inj (settled.symm.trans changed)
      have files (place : Location) (bytes : ByteArray) (written : change = some (place, bytes)) :
          disk.kind? place = some .file :=
        (Target.place?_eq_some.mp (own place bytes written)).2
      have write : Rewritten (fun place => ∃ bytes, change = some (place, bytes)) now
          (now.overwrite change) := .overwrite (by rwa [rewritten.kind])
      have frame (other : Target) (report : FileReport)
          (member : (other, Progress.settled report) ∈
            above ++ (target, .read (target.read disk)) :: below)
          (place : Location) (found : other.place? disk = some place) :
          (now.overwrite change).node? place = now.node? place := by
        refine write.node place ?_
        rintro ⟨bytes, written⟩
        exact beside place (own place bytes written) ⟨other, report, member, found⟩
      refine ⟨by simpa using names, ?_, ?_⟩
      · refine (rewritten.mono fun place => SettledAt.advance nofun).trans (write.mono ?_)
        rintro place ⟨bytes, written⟩
        exact ⟨target, _, List.mem_append_right _ (.head _), own place bytes written⟩
      · rw [List.forall_mem_append, List.forall_mem_cons]
        refine ⟨fun task member => (earlier task member).congr ?_, ⟨rfl, fun place found => ?_⟩,
          fun task member => (later task member).congr ?_⟩
        · rintro report same
          exact frame task.1 report (by simp [← same, member])
        · rw [alone]
          exact node?_overwrite_congr files (rewritten.node place (beside place found))
        · rintro report same
          exact frame task.1 report (by simp [← same, member])

theorem Faithful.steps (different : (targets.filterMap (·.place? disk)).Nodup)
    (reached : Steps checker fix locked (start disk targets) run) :
    Faithful checker fix locked disk targets run := by
  induction reached with
  | refl => exact faithful_start disk targets
  | tail _ step induction => exact induction.step different step

/-! Complete runs. -/

/-- A complete run reports on each target what is reported on it alone. -/
theorem Faithful.reports_eq (faithful : Faithful checker fix locked disk targets run)
    (complete : run.Complete) :
    run.reports = targets.map fun target => (checker.alone fix locked disk target).1 := by
  rw [reports, ← faithful.targets, List.map_map, ← List.filterMap_eq_map]
  refine List.filterMap_congr fun task member => ?_
  obtain ⟨report, settled⟩ := complete task member
  have agrees := faithful.agrees task member
  rw [settled] at agrees ⊢
  exact congrArg some agrees.1

/-- A complete run leaves the file of each target as it is left by that target alone. -/
theorem Faithful.node?_of_mem (faithful : Faithful checker fix locked disk targets run)
    (complete : run.Complete) {target : Target} (member : target ∈ targets) {place : Location}
    (found : target.place? disk = some place) :
    run.disk.node? place = (checker.alone fix locked disk target).2.node? place := by
  rw [← faithful.targets] at member
  obtain ⟨task, among, rfl⟩ := List.mem_map.mp member
  obtain ⟨report, settled⟩ := complete task among
  have agrees := faithful.agrees task among
  rw [settled] at agrees
  exact agrees.2 place found

theorem Faithful.node?_beside (faithful : Faithful checker fix locked disk targets run)
    {place : Location} (beside : ∀ target ∈ targets, target.place? disk ≠ some place) :
    run.disk.node? place = disk.node? place := by
  refine faithful.rewritten.node place ?_
  rintro ⟨target, report, member, found⟩
  exact beside target (faithful.targets ▸ List.mem_map_of_mem member) found

theorem Faithful.node?_eq {targets' : List Target} {run' : Run}
    (faithful : Faithful checker fix locked disk targets run) (complete : run.Complete)
    (faithful' : Faithful checker fix locked disk targets' run') (complete' : run'.Complete)
    (permuted : targets'.Perm targets) : run'.disk.node? = run.disk.node? := by
  funext place
  by_cases held : ∃ target ∈ targets, target.place? disk = some place
  · obtain ⟨target, member, found⟩ := held
    rw [faithful.node?_of_mem complete member found,
      faithful'.node?_of_mem complete' (permuted.mem_iff.mpr member) found]
  · push Not at held
    rw [faithful.node?_beside held,
      faithful'.node?_beside fun target member => held target (permuted.mem_iff.mp member)]

/-! One file after the other. -/

theorem steps_alone (checker : Checker) (fix : Bool) (locked : Path → Option FileError)
    (disk : Disk) (above below : List (Target × Progress)) (target : Target) :
    Steps checker fix locked ⟨disk, above ++ (target, .waiting) :: below⟩
      ⟨(checker.alone fix locked disk target).2,
        above ++ (target, .settled (checker.alone fix locked disk target).1) :: below⟩ :=
  .head (.read disk above below target)
    (.single (.settle disk above below target (target.read disk) rfl))

/-- To check files one after the other is one of the runs. -/
theorem steps_checkFiles (checker : Checker) (fix : Bool) (disk : Disk)
    (above : List (Target × Progress)) (targets : List Target) :
    Steps checker fix (fun _ => none)
      ⟨disk, above ++ targets.map fun target => (target, .waiting)⟩
      ⟨(checker.checkFiles fix disk targets).2,
        above ++ (checker.checkFiles fix disk targets).1.map fun report =>
          (report.target, .settled report)⟩ := by
  induction targets generalizing disk above with
  | nil => exact .refl
  | cons target rest induction =>
      have first := steps_alone checker fix (fun _ => none) disk above
        (rest.map fun target => (target, .waiting)) target
      rw [Checker.alone_eq_checkFile] at first
      have about : (checker.checkFile fix disk target).1.target = target := by
        rw [← Checker.alone_eq_checkFile]
        exact Checker.target_settle _
      refine Relation.ReflTransGen.trans first ?_
      have later := induction (checker.checkFile fix disk target).2
        (above ++ [(target, .settled (checker.checkFile fix disk target).1)])
      simpa [Checker.checkFiles, about] using later

end Run

theorem Report.ofFiles_perm {reports reports' : List FileReport} (permuted : reports'.Perm reports)
    (shown : (reports.map (·.target.display)).Nodup) : ofFiles reports' = ofFiles reports := by
  have same : (reports'.mergeSort fun a b => decide (a.target.display ≤ b.target.display)) =
      reports.mergeSort fun a b => decide (a.target.display ≤ b.target.display) := by
    refine List.Perm.eq_of_pairwise ?_ (pairwise_display reports') (pairwise_display reports)
      (((List.mergeSort_perm _ _).trans permuted).trans (List.mergeSort_perm _ _).symm)
    intro a b memberA memberB first second
    refine List.inj_on_of_nodup_map shown ?_ ?_ (le_antisymm first second)
    · exact permuted.mem_iff.mp (List.mem_mergeSort.mp memberA)
    · exact List.mem_mergeSort.mp memberB
  rw [ofFiles, ofFiles, same]

namespace Run

/-- Files that are shown by different names and are different files can be checked in any order
and at the same time.  No run gets stuck, and all runs that come to an end leave the same files
and give the same report, which is that of checking one file after the other. -/
theorem complete_agree (checker : Checker) (fix : Bool) (locked : Path → Option FileError)
    (disk : Disk) (targets : List Target) (shown : (targets.map Target.display).Nodup)
    (different : (targets.filterMap (·.place? disk)).Nodup) :
    ∃ (contents : Location → Option FileNode) (report : Report),
      (∀ targets', targets'.Perm targets → ∀ run,
        Steps checker fix locked (start disk targets') run →
          (∃ last, Steps checker fix locked run last ∧ last.Complete) ∧
          (run.Complete → run.disk.node? = contents ∧ run.disk.here = disk.here ∧
            Report.ofFiles run.reports = report)) ∧
      ((∀ p, locked p = none) →
        (checker.checkFiles fix disk targets).2.node? = contents ∧
          Report.ofFiles (checker.checkFiles fix disk targets).1 = report) := by
  obtain ⟨last, reached, complete⟩ := exists_complete checker fix locked (start disk targets)
  have faithful := Faithful.steps different reached
  have agree (targets' : List Target) (permuted : targets'.Perm targets) (run : Run)
      (reached' : Steps checker fix locked (start disk targets') run) (complete' : run.Complete) :
      run.disk.node? = last.disk.node? ∧ run.disk.here = disk.here ∧
        Report.ofFiles run.reports = Report.ofFiles last.reports := by
    have faithful' := Faithful.steps ((permuted.filterMap _).nodup_iff.mpr different) reached'
    refine ⟨faithful.node?_eq complete faithful' complete' permuted, faithful'.rewritten.here, ?_⟩
    rw [faithful.reports_eq complete, faithful'.reports_eq complete']
    refine Report.ofFiles_perm (permuted.map _) ?_
    simpa [Function.comp_def, Checker.alone, Checker.target_settle] using shown
  refine ⟨last.disk.node?, Report.ofFiles last.reports, fun targets' permuted run reached' =>
    ⟨exists_complete checker fix locked run, agree targets' permuted run reached'⟩,
    fun unlocked => ?_⟩
  obtain rfl : locked = fun _ => none := funext unlocked
  have sequential := steps_checkFiles checker fix disk [] targets
  obtain ⟨nodes, -, report⟩ := agree targets (.refl _) _ sequential (by
    intro task member
    obtain ⟨report, -, rfl⟩ := List.mem_map.mp member
    exact ⟨report, rfl⟩)
  refine ⟨nodes, ?_⟩
  rw [← report, reports]
  simp [List.filterMap_map]

/-- Two files with a tag to be closed in each, taken the other way round. -/
theorem complete_agree_two :
    let checker : Checker := ⟨Validator.closingSchema.scanOptions, ⟨[.matchingClose]⟩⟩
    let text := "<!--TAG:a-->text".toUTF8
    let disk := ((Disk.empty []).put ["a.md"] (.file text)).put ["b.md"] (.file text)
    let a : Target := ⟨.ofString "a.md", "a.md"⟩
    let b : Target := ⟨.ofString "b.md", "b.md"⟩
    ∃ run, Steps checker true (fun _ => none) (start disk [b, a]) run ∧ run.Complete ∧
      run.disk.node? = (checker.checkFiles true disk [a, b]).2.node? ∧
      Report.ofFiles run.reports = Report.ofFiles (checker.checkFiles true disk [a, b]).1 ∧
      (Report.ofFiles run.reports).fixesApplied = 2 := by
  intro checker text disk a b
  have rules : Validator.ofSchema Validator.closingSchema = .ok checker.validator := rfl
  have done (file : String) : ∃ repaired, repair file "<!--TAG:a-->text"
      (checker.issues file "<!--TAG:a-->text") = .ok repaired ∧ repaired.applied = 1 := by
    obtain ⟨repaired, done, round⟩ := Validator.exists_round rules file "<!--TAG:a-->text"
    exact ⟨repaired, done, round.applied.trans rfl⟩
  obtain ⟨atA, doneA, onceA⟩ := done "a.md"
  obtain ⟨atB, doneB, onceB⟩ := done "b.md"
  let half := disk.put ["a.md"] (.file atA.content.toUTF8)
  have readA : a.read disk = .ok "<!--TAG:a-->text" :=
    Disk.readText_of_node? (show disk.resolve a.path .follow = .ok ["a.md"] from rfl) rfl
  have readB : b.read half = .ok "<!--TAG:a-->text" :=
    Disk.readText_of_node? (show half.resolve b.path .follow = .ok ["b.md"] from rfl) rfl
  have writtenA : disk.writeText a.path atA.content = .ok half := rfl
  have writtenB : half.writeText b.path atB.content =
    .ok (half.put ["b.md"] (.file atB.content.toUTF8)) := rfl
  have checkedA := Checker.checkFile_of_edited readA doneA (by rw [onceA]; decide)
  have checkedB := Checker.checkFile_of_edited readB doneB (by rw [onceB]; decide)
  have fixes : (Report.ofFiles (checker.checkFiles true disk [a, b]).1).fixesApplied = 2 := by
    simp only [Report.fixesApplied_ofFiles, Checker.checkFiles, checkedA, writtenA, checkedB,
      writtenB, List.map_cons, List.map_nil, FileReport.fixes, onceA, onceB]
    rfl
  have shown : ([a, b].map Target.display).Nodup := by decide
  have different : ([a, b].filterMap (·.place? disk)).Nodup := by
    have places : [a, b].filterMap (·.place? disk) = [["a.md"], ["b.md"]] := rfl
    rw [places]
    decide
  clear_value disk
  obtain ⟨contents, report, agree, sequential⟩ :=
    complete_agree checker true (fun _ => none) disk [a, b] shown different
  obtain ⟨⟨run, reached, complete⟩, -⟩ := agree [b, a] (.swap a b []) _ .refl
  obtain ⟨-, outcome⟩ := agree [b, a] (.swap a b []) run reached
  obtain ⟨files, issues⟩ := sequential fun _ => rfl
  obtain ⟨nodes, -, reports⟩ := outcome complete
  exact ⟨run, reached, complete, nodes.trans files.symm, reports.trans issues.symm,
    by rw [reports, ← issues, fixes]⟩

end Run

end TagAudit
