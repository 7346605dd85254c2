import Mathlib.Algebra.GroupWithZero.Nat
import TagAudit.Proofs.Disk.Rewriting
import TagAudit.Proofs.Repair.Outcome

/-! Checking files again.  What a run with repairs reports is what a run without them reports
of the disk it leaves. -/

namespace TagAudit

open Disk

namespace Target

def place? (target : Target) (disk : Disk) : Option Location :=
  match disk.resolve target.path .follow with
  | .ok place => if disk.kind? place = some .file then some place else none
  | .error _ => none

variable {target : Target} {disk disk' : Disk} {places : Location → Prop} {place : Location}

theorem place?_eq_some : target.place? disk = some place ↔
    disk.resolve target.path .follow = .ok place ∧ disk.kind? place = some .file := by
  rw [place?]
  cases disk.resolve target.path .follow with
  | error e => simp
  | ok found =>
      simp only [Option.ite_none_right_eq_some, Option.some.injEq, Except.ok.injEq]
      constructor
      · rintro ⟨held, rfl⟩
        exact ⟨rfl, held⟩
      · rintro ⟨rfl, held⟩
        exact ⟨held, rfl⟩

theorem place?_eq (rewritten : Rewritten places disk disk') :
    target.place? disk' = target.place? disk := by
  simp only [place?, rewritten.resolve_eq, rewritten.kind]

theorem read_eq (rewritten : Rewritten places disk disk')
    (files : ∀ place, places place → disk.kind? place = some .file)
    (beside : ∀ place, target.place? disk = some place → ¬ places place) :
    target.read disk' = target.read disk :=
  rewritten.readText_eq fun place found changed =>
    beside place (place?_eq_some.mpr ⟨found, files place changed⟩) changed

end Target

namespace Checker

def asks (checker : Checker) (disk : Disk) (target : Target) : Bool :=
  match target.read disk with
  | .ok content => (checker.issues target.display content).any (·.fixable)
  | .error _ => false

def edits (checker : Checker) (disk : Disk) (target : Target) : Nat :=
  match target.read disk with
  | .ok content =>
      ((repair target.display content (checker.issues target.display content)).map
        Repaired.applied).toOption.getD 0
  | .error _ => 0

/-- A report agrees with the disk that the repairs leave. -/
structure Agrees (checker : Checker) (before after : Disk) (target : Target)
    (report : FileReport) : Prop where
  about : report.target = target
  issues : report.issues = (checker.report false target (target.read after) (.ok ())).issues
  count : report.count = (checker.report false target (target.read after) (.ok ())).count
  fixes : report.fixes = if checker.asks before target then checker.edits before target else 0
  text : ∀ content, target.read before = .ok content → ∃ repaired,
    repair target.display content (checker.issues target.display content) = .ok repaired ∧
      target.read after = .ok repaired.content

namespace Agrees

variable {checker : Checker} {before before' after after' : Disk} {target : Target}
  {report : FileReport}

theorem congr (agrees : checker.Agrees before after target report)
    (first : target.read before' = target.read before)
    (last : target.read after' = target.read after) :
    checker.Agrees before' after' target report where
  about := agrees.about
  issues := by rw [last, agrees.issues]
  count := by rw [last, agrees.count]
  fixes := by rw [agrees.fixes, asks, asks, edits, edits, first]
  text := by rw [first, last]; exact agrees.text

end Agrees

variable {schema : Schema} {checker : Checker} {disk : Disk}

theorem checkFile_false (checker : Checker) (disk : Disk) (target : Target) :
    checker.checkFile false disk target =
      (checker.report false target (target.read disk) (.ok ()), disk) := by
  have unwanted : (target.read disk).toOption.bind (checker.revision? false target) = none := by
    cases target.read disk <;> rfl
  simp only [checkFile, unwanted, Option.map_none]

theorem checkFiles_false (checker : Checker) (disk : Disk) (targets : List Target) :
    checker.checkFiles false disk targets =
      (targets.map fun target => checker.report false target (target.read disk) (.ok ()),
        disk) := by
  induction targets with
  | nil => rfl
  | cons target rest induction =>
      simp only [checkFiles, checkFile_false, induction, List.map_cons]

theorem exists_repaired (built : ofSchema schema = .ok checker) (file content : String) :
    ∃ repaired, repair file content (checker.issues file content) = .ok repaired := by
  obtain ⟨validator, rules, rfl⟩ := ofSchema_cases built
  obtain ⟨repaired, done, -⟩ := Validator.exists_round rules file content
  exact ⟨repaired, done⟩

theorem any_fixable {file content : String} {repaired : Repaired}
    (done : repair file content (checker.issues file content) = .ok repaired)
    (edited : repaired.applied ≠ 0) :
    (checker.issues file content).any (·.fixable) = true := by
  cases asked : (checker.issues file content).any (·.fixable) with
  | true => rfl
  | false =>
      have none := (Validator.repairs_eq_nil_iff (checker.options.scan file content)).mpr
        fun issue member => by simpa using List.any_eq_false.mp asked issue member
      rw [show checker.issues file content = checker.validator.validate file _ from rfl,
        repair_of_no_repairs none] at done
      exact absurd (congrArg Repaired.applied (Except.ok.inj done)).symm edited

theorem revision?_eq {target : Target} {content : String} {repaired : Repaired}
    (done : repair target.display content (checker.issues target.display content) =
      .ok repaired) :
    checker.revision? true target content =
      if repaired.applied = 0 then none else some repaired := by
  rw [revision?, if_pos rfl, repaired?, done]
  by_cases none : repaired.applied = 0
  · simp [Except.toOption, none]
  · simp [any_fixable done none, Except.toOption, Option.filter, content_eq_iff done, none]

/-! What becomes of one file: it cannot be read, no edit is made to its text, or the repaired
text is written back. -/

variable {target : Target} {content : String} {repaired : Repaired}

theorem checkFile_of_unreadable {e : FileError} (read : target.read disk = .error e) (fix : Bool) :
    checker.checkFile fix disk target =
      (⟨target, .unreadable e, [target.unreadable e]⟩, disk) := by
  simp [checkFile, report, read, Except.toOption]

theorem checkFile_of_idle (read : target.read disk = .ok content)
    (done : repair target.display content (checker.issues target.display content) =
      .ok repaired) (idle : repaired.applied = 0) :
    checker.checkFile true disk target =
      (⟨target, .checked, checker.issues target.display content⟩, disk) := by
  have kept := revision?_eq done
  rw [if_pos idle] at kept
  simp [checkFile, report, read, Except.toOption, kept]

theorem checkFile_of_edited (read : target.read disk = .ok content)
    (done : repair target.display content (checker.issues target.display content) =
      .ok repaired) (edited : repaired.applied ≠ 0) :
    checker.checkFile true disk target =
      match disk.writeText target.path repaired.content with
      | .error e =>
          (⟨target, .unwritable e,
            checker.issues target.display content ++ [target.unwritable e]⟩, disk)
      | .ok disk' =>
          (⟨target, .repaired repaired.applied,
            checker.issues target.display repaired.content⟩, disk') := by
  have revised := revision?_eq done
  rw [if_neg edited] at revised
  cases written : disk.writeText target.path repaired.content <;>
    simp [checkFile, report, read, Except.toOption, Except.map, revised, written]

theorem checkFile_true (built : ofSchema schema = .ok checker) (disk : Disk) (target : Target)
    (writable : ∀ e, (checker.checkFile true disk target).1.outcome ≠ .unwritable e) :
    Rewritten (fun place => target.place? disk = some place ∧ checker.asks disk target = true)
        disk (checker.checkFile true disk target).2 ∧
      checker.Agrees disk (checker.checkFile true disk target).2 target
        (checker.checkFile true disk target).1 := by
  cases read : target.read disk with
  | error e =>
      rw [checkFile_of_unreadable read]
      refine ⟨.refl disk, rfl, by rw [read]; rfl, by rw [read]; rfl, ?_, ?_⟩
      · simp [asks, read, FileReport.fixes]
      · simp [read]
  | ok content =>
      obtain ⟨repaired, done⟩ := exists_repaired built target.display content
      have made : checker.edits disk target = repaired.applied := by
        simp [edits, read, done, Except.map, Except.toOption]
      by_cases idle : repaired.applied = 0
      · rw [checkFile_of_idle read done idle]
        refine ⟨.refl disk, rfl, by rw [read]; rfl, by rw [read]; rfl, ?_, ?_⟩
        · simp [made, idle, FileReport.fixes]
        · rw [read]
          rintro _ ⟨⟩
          exact ⟨repaired, done, by rw [(content_eq_iff done).mpr idle]⟩
      · have asked : checker.asks disk target = true := by
          rw [asks, read]
          exact any_fixable done idle
        rw [checkFile_of_edited read done idle] at writable ⊢
        cases written : disk.writeText target.path repaired.content with
        | error e =>
            simp only [written] at writable
            exact absurd rfl (writable e)
        | ok disk' =>
            obtain ⟨place, found, held, rewritten, again⟩ := writeText_of_readText read written
            have reread : target.read disk' = .ok repaired.content := again
            refine ⟨rewritten.mono ?_, rfl, by rw [reread]; rfl, by rw [reread]; rfl, ?_, ?_⟩
            · rintro _ rfl
              exact ⟨Target.place?_eq_some.mpr ⟨found, held⟩, asked⟩
            · simp [asked, made, FileReport.fixes]
            · rw [read, reread]
              rintro _ ⟨⟩
              exact ⟨repaired, done, rfl⟩

/-- The places whose files a run writes over. -/
def WritesTo (checker : Checker) (disk : Disk) (targets : List Target) (place : Location) : Prop :=
  ∃ target ∈ targets, target.place? disk = some place ∧ checker.asks disk target = true

theorem checkFiles_true (built : ofSchema schema = .ok checker) {targets : List Target}
    (different : targets.Pairwise fun a b =>
      ∀ place, a.place? disk = some place → b.place? disk ≠ some place)
    (writable : ∀ report ∈ (checker.checkFiles true disk targets).1,
      ∀ e, report.outcome ≠ .unwritable e) :
    Rewritten (checker.WritesTo disk targets) disk (checker.checkFiles true disk targets).2 ∧
      List.Forall₂ (checker.Agrees disk (checker.checkFiles true disk targets).2) targets
        (checker.checkFiles true disk targets).1 := by
  induction targets generalizing disk with
  | nil => exact ⟨.refl disk, .nil⟩
  | cons target rest induction =>
      obtain ⟨apart, different⟩ := List.pairwise_cons.mp different
      simp only [checkFiles, List.forall_mem_cons] at writable ⊢
      obtain ⟨rewritten, agrees⟩ := checkFile_true built disk target writable.1
      generalize checker.checkFile true disk target = first at *
      obtain ⟨report, disk'⟩ := first
      simp only at writable rewritten agrees ⊢
      have files (place : Location) (changed : target.place? disk = some place ∧
          checker.asks disk target = true) : disk.kind? place = some .file :=
        (Target.place?_eq_some.mp changed.1).2
      have places (other : Target) : other.place? disk' = other.place? disk :=
        Target.place?_eq rewritten
      have reads : ∀ other ∈ rest, other.read disk' = other.read disk :=
        fun other member => Target.read_eq rewritten files fun place found changed =>
          apart other member place changed.1 found
      obtain ⟨later, agree⟩ := induction (by simpa only [places] using different) writable.2
      have repairs (place : Location) (changed : checker.WritesTo disk' rest place) :
          checker.WritesTo disk rest place := by
        obtain ⟨other, member, found, asked⟩ := changed
        refine ⟨other, member, (places other).symm.trans found, ?_⟩
        rwa [asks, reads other member, ← asks] at asked
      constructor
      · refine (rewritten.mono ?_).trans (later.mono ?_)
        · rintro place ⟨found, asked⟩
          exact ⟨target, .head _, found, asked⟩
        · rintro place changed
          obtain ⟨other, member, found⟩ := repairs place changed
          exact ⟨other, .tail _ member, found⟩
      · refine .cons (agrees.congr rfl ?_) ?_
        · refine Target.read_eq later ?_ ?_
          · rintro place ⟨other, member, found, -⟩
            exact (Target.place?_eq_some.mp found).2
          · intro place found changed
            obtain ⟨other, member, same, -⟩ := repairs place changed
            exact apart other member place ((places target).symm.trans found) same
        · exact ((List.forall₂_and_left _ _).mpr ⟨reads, agree⟩).imp
            fun other report both => both.2.congr both.1.symm rfl

end Checker

/-! Reports on several files. -/

theorem total_eq_sum (counts : List Nat) : total counts = counts.sum := by
  rw [List.sum_eq_foldl]
  rfl

namespace Report

private def shown (report : FileReport) : Target × List Issue × Nat :=
  (report.target, report.issues, report.count)

private theorem ofFiles_congr {reports reports' : List FileReport}
    (same : reports.map shown = reports'.map shown) :
    (ofFiles reports').issues = (ofFiles reports).issues ∧
      (ofFiles reports').summary = (ofFiles reports).summary := by
  let order (a b : FileReport) : Bool := decide (a.target.display ≤ b.target.display)
  let shownOrder (a b : Target × List Issue × Nat) : Bool :=
    decide (a.1.display ≤ b.1.display)
  have sorted (l : List FileReport) :
      (l.mergeSort order).map shown = (l.map shown).mergeSort shownOrder :=
    List.map_mergeSort fun _ _ _ _ => rfl
  have issues (l : List FileReport) :
      l.flatMap FileReport.issues = (l.map shown).flatMap fun entry => entry.2.1 := by
    rw [List.flatMap_map]
    rfl
  have counts (l : List FileReport) :
      l.map FileReport.count = (l.map shown).map fun entry => entry.2.2 := by
    rw [List.map_map]
    rfl
  have issuesSame : (ofFiles reports').issues = (ofFiles reports).issues := by
    rw [ofFiles, ofFiles, issues, issues, sorted, sorted, same]
  refine ⟨issuesSame, ?_⟩
  rw [ofFiles, ofFiles] at issuesSame ⊢
  simp only at issuesSame ⊢
  rw [issuesSame, counts, counts, sorted, sorted, same]

theorem fixesApplied_ofFiles (reports : List FileReport) :
    (ofFiles reports).fixesApplied = (reports.map FileReport.fixes).sum := by
  simp only [ofFiles, total_eq_sum]
  exact ((List.mergeSort_perm _ _).map _).sum_nat

end Report

namespace Checker

variable {schema : Schema} {checker : Checker} {disk : Disk}

private theorem sum_fixes {after : Disk} {targets : List Target} {reports : List FileReport}
    (agree : List.Forall₂ (checker.Agrees disk after) targets reports) :
    (reports.map FileReport.fixes).sum =
      ((targets.filter (checker.asks disk)).map (checker.edits disk)).sum := by
  induction agree with
  | nil => rfl
  | @cons target report _ _ agrees _ induction =>
      rw [List.map_cons, List.sum_cons, agrees.fixes, induction, List.filter_cons]
      cases checker.asks disk target <;> simp

private theorem map_shown {before after : Disk} {targets : List Target}
    {reports : List FileReport}
    (agree : List.Forall₂ (checker.Agrees before after) targets reports) :
    reports.map Report.shown = (checker.checkFiles false after targets).1.map Report.shown := by
  rw [checkFiles_false, List.map_map]
  induction agree with
  | nil => rfl
  | @cons target report _ _ agrees _ induction =>
      have about : (checker.report false target (target.read after) (.ok ())).target = target := by
        cases target.read after <;> rfl
      rw [List.map_cons, List.map_cons, induction, Function.comp, Report.shown, Report.shown,
        agrees.about, agrees.issues, agrees.count, about]

private theorem exists_text {before after : Disk} {targets : List Target}
    {reports : List FileReport}
    (agree : List.Forall₂ (checker.Agrees before after) targets reports) :
    ∀ target ∈ targets, ∀ content, target.read before = .ok content → ∃ repaired,
      repair target.display content (checker.issues target.display content) = .ok repaired ∧
        target.read after = .ok repaired.content := by
  induction agree with
  | nil => nofun
  | cons agrees _ induction => exact List.forall_mem_cons.mpr ⟨agrees.text, induction⟩

/-- The report on repaired files describes the disk that the run leaves: checked again
without repairs, the files give the same issues and counts.  Files without an issue to be
repaired are as they were, the others hold their repaired text, and every edit is counted. -/
theorem report_after_repairs (built : ofSchema schema = .ok checker) (disk : Disk)
    (targets : List Target) (different : (targets.filterMap (·.place? disk)).Nodup)
    (writable : ∀ report ∈ (checker.checkFiles true disk targets).1,
      ∀ e, report.outcome ≠ .unwritable e) :
    let after := (checker.checkFiles true disk targets).2
    let report := Report.ofFiles (checker.checkFiles true disk targets).1
    let again := Report.ofFiles (checker.checkFiles false after targets).1
    again.issues = report.issues ∧ again.summary = report.summary ∧
      (∀ place, (∀ target ∈ targets, target.place? disk = some place →
          checker.asks disk target = false) → after.node? place = disk.node? place) ∧
      (∀ target ∈ targets, ∀ content, target.read disk = .ok content → ∃ repaired,
        repair target.display content (checker.issues target.display content) = .ok repaired ∧
          target.read after = .ok repaired.content) ∧
      report.fixesApplied =
        ((targets.filter (checker.asks disk)).map (checker.edits disk)).sum ∧
      (checker.checkFiles false disk targets).2 = disk := by
  intro after report again
  have apart : targets.Pairwise fun a b =>
      ∀ place, a.place? disk = some place → b.place? disk ≠ some place := by
    refine (List.pairwise_filterMap.mp different).imp fun differ place found same => ?_
    exact differ place found place same rfl
  obtain ⟨rewritten, agree⟩ := checkFiles_true built apart writable
  obtain ⟨issues, summary⟩ := Report.ofFiles_congr (map_shown agree)
  refine ⟨issues, summary, fun place quiet => ?_, fun target member content read => ?_, ?_, ?_⟩
  · refine rewritten.node place ?_
    rintro ⟨target, member, found, asked⟩
    rw [quiet target member found] at asked
    cases asked
  · exact exists_text agree target member content read
  · exact (Report.fixesApplied_ofFiles _).trans (sum_fixes agree)
  · rw [checkFiles_false]

theorem report_after_repairs_one :
    let checker : Checker := ⟨Validator.closingSchema.scanOptions, ⟨[.matchingClose]⟩⟩
    let disk := (Disk.empty []).put ["a.md"] (.file "<!--TAG:intro-->\ntext\n".toUTF8)
    let target : Target := ⟨.ofString "a.md", "a.md"⟩
    let run := checker.checkFiles true disk [target]
    run.1.map FileReport.outcome = [.repaired 1] ∧
      (Report.ofFiles (checker.checkFiles false run.2 [target]).1).issues =
        (Report.ofFiles run.1).issues := by
  intro checker disk target run
  have built : ofSchema Validator.closingSchema = .ok checker := rfl
  have read : target.read disk = .ok "<!--TAG:intro-->\ntext\n" :=
    Disk.readText_of_node? (show disk.resolve target.path .follow = .ok ["a.md"] from rfl) rfl
  have rules : Validator.ofSchema Validator.closingSchema = .ok checker.validator := rfl
  obtain ⟨repaired, done, round⟩ :=
    Validator.exists_round rules "a.md" "<!--TAG:intro-->\ntext\n"
  have applied : repaired.applied = 1 := round.applied.trans rfl
  have written : disk.writeText target.path repaired.content =
    .ok (disk.put ["a.md"] (.file repaired.content.toUTF8)) := rfl
  have checked := checkFile_of_edited read done (by rw [applied]; decide)
  have outcome : run.1.map FileReport.outcome = [.repaired 1] := by
    simp only [run, checkFiles, checked, written, applied, List.map_cons, List.map_nil]
  have writable : ∀ report ∈ run.1, ∀ e, report.outcome ≠ .unwritable e := by
    intro report member e failed
    have among := List.mem_map_of_mem (f := FileReport.outcome) member
    rw [failed, outcome] at among
    simp at among
  have single : ([target].filterMap (·.place? disk)).Nodup := by
    rw [List.filterMap_cons]
    split <;> simp
  clear_value disk target
  obtain ⟨issues, -⟩ := report_after_repairs built disk [target] single writable
  exact ⟨outcome, issues⟩

end Checker

end TagAudit
