import Mathlib.Data.String.Basic
import TagAudit.Proofs.Check.Rerun
import TagAudit.Proofs.Rule.Findings
import TagAudit.Proofs.Rule.Ordering

/-! The order in which a report lists its issues.  The issues of a file that could not be
written stand in the order of the rules, and that it could not be written comes last, also
behind issues that have a line. -/

namespace TagAudit

namespace Issue

/-- An issue may be listed before another: by the file that is shown, then as within one. -/
def Listed (a b : Issue) : Prop :=
  a.file < b.file ∨ a.file = b.file ∧ a.Precedes b

theorem listed_iff_of_file_eq {a b : Issue} (same : a.file = b.file) :
    a.Listed b ↔ a.Precedes b := by
  simp [Listed, same]

end Issue

namespace Rule.Finding

variable {file : String} {occurrences : List Occurrence} {rule : Rule} {issue : Issue}

theorem file_eq (finding : Finding file occurrences rule issue) : issue.file = file := by
  cases finding <;> rfl

theorem precedes_unwritable_iff (finding : Finding file occurrences rule issue) (target : Target)
    (e : FileError) : issue.Precedes (target.unwritable e) ↔ issue.line = none := by
  have tooMany : "max-tags-per-file" < Target.readRule := by decide
  have component : "component-required" < Target.readRule := by decide
  cases finding with
  | tooManyTags count most => exact iff_of_true (.inr ⟨rfl, .inl tooMany⟩) rfl
  | missingComponent extensions components => exact iff_of_true (.inr ⟨rfl, .inl component⟩) rfl
  | missingClose | badIdentifier | duplicateTag | unknownValue =>
      simp [Issue.Precedes, Target.unwritable, Issue.ofFile, Rule.missingClose,
        Rule.badIdentifier, Rule.duplicateTag, Rule.unknownValue, Issue.withRepair]

end Rule.Finding

namespace Checker

variable {checker : Checker} {fix : Bool} {target : Target}

theorem exists_finding_of_mem_issues {display content : String} {issue : Issue}
    (member : issue ∈ checker.issues display content) :
    ∃ rule occurrences, Rule.Finding display occurrences rule issue := by
  obtain ⟨rule, -, finding⟩ := Validator.finding_of_mem_validate member
  exact ⟨rule, _, finding⟩

theorem pairwise_issues (checker : Checker) (display content : String) :
    (checker.issues display content).Pairwise Issue.Precedes :=
  (Issue.pairwise_sort _).imp Issue.before_iff.mp

/-- The issues of one file are in order, but for a file that could not be written with an issue
that has a line. -/
theorem pairwise_report_iff (checker : Checker) (fix : Bool) (target : Target)
    (content : Except FileError String) (written : Except FileError Unit) :
    (checker.report fix target content written).issues.Pairwise Issue.Precedes ↔
      ∀ e, (checker.report fix target content written).outcome = .unwritable e →
        ∀ issue ∈ (checker.report fix target content written).issues, issue.line = none := by
  cases content with
  | error e => simp [report]
  | ok content =>
      have sorted := checker.pairwise_issues target.display
      cases wanted : checker.revision? fix target content with
      | none => simp [report, wanted, sorted]
      | some revised =>
          cases written with
          | ok => simp [report, wanted, sorted]
          | error e =>
              have apart : (∀ issue ∈ checker.issues target.display content,
                  issue.Precedes (target.unwritable e)) ↔
                  ∀ issue ∈ checker.issues target.display content, issue.line = none := by
                refine forall₂_congr fun issue member => ?_
                obtain ⟨rule, occurrences, finding⟩ := exists_finding_of_mem_issues member
                exact finding.precedes_unwritable_iff target e
              have whole : (target.unwritable e).line = none := rfl
              simp [report, wanted, List.pairwise_append, sorted, apart, or_imp, forall_and, whole]

theorem file_of_mem_report {content : Except FileError String} {written : Except FileError Unit}
    {issue : Issue} (member : issue ∈ (checker.report fix target content written).issues) :
    issue.file = target.display := by
  cases content with
  | error e => exact congrArg Issue.file (List.mem_singleton.mp member)
  | ok content =>
      have found {content : String} (member : issue ∈ checker.issues target.display content) :
          issue.file = target.display := by
        obtain ⟨rule, occurrences, finding⟩ := exists_finding_of_mem_issues member
        exact finding.file_eq
      simp only [report] at member
      split at member
      next => exact found member
      next =>
        rcases List.mem_append.mp member with reported | added
        · exact found reported
        · exact congrArg Issue.file (List.mem_singleton.mp added)
      next => exact found member

theorem target_report (content : Except FileError String) (written : Except FileError Unit) :
    (checker.report fix target content written).target = target := by
  cases content with
  | error e => rfl
  | ok content =>
      simp only [report]
      cases checker.revision? fix target content <;> cases written <;> rfl

/-- The reports that a run may make on some targets, whatever comes of reading and of writing
each of them. -/
def Outcomes (checker : Checker) (fix : Bool) : List Target → List FileReport → Prop :=
  List.Forall₂ fun target report =>
    ∃ content written, report = checker.report fix target content written

namespace Outcomes

variable {targets : List Target} {reports : List FileReport}

theorem map_target (outcomes : checker.Outcomes fix targets reports) :
    reports.map FileReport.target = targets := by
  induction outcomes with
  | nil => rfl
  | cons made later induction =>
      obtain ⟨content, written, rfl⟩ := made
      rw [List.map_cons, target_report, induction]

theorem of_mem (outcomes : checker.Outcomes fix targets reports) {report : FileReport}
    (member : report ∈ reports) :
    ∃ content written, report = checker.report fix report.target content written := by
  induction outcomes with
  | nil => cases member
  | cons made later induction =>
      cases member with
      | head =>
          obtain ⟨content, written, rfl⟩ := made
          exact ⟨content, written, by rw [target_report]⟩
      | tail _ member => exact induction member

end Outcomes

theorem outcome_checkFile (checker : Checker) (fix : Bool) (disk : Disk) (target : Target) :
    ∃ content written,
      (checker.checkFile fix disk target).1 = checker.report fix target content written := by
  rw [checkFile]
  split <;> exact ⟨_, _, rfl⟩

theorem outcomes_checkFiles (checker : Checker) (fix : Bool) (disk : Disk)
    (targets : List Target) :
    checker.Outcomes fix targets (checker.checkFiles fix disk targets).1 := by
  induction targets generalizing disk with
  | nil => exact .nil
  | cons target rest induction =>
      exact .cons (checker.outcome_checkFile fix disk target) (induction _)

end Checker

namespace Report

theorem pairwise_display (reports : List FileReport) :
    (reports.mergeSort fun a b => decide (a.target.display ≤ b.target.display)).Pairwise
      fun a b => a.target.display ≤ b.target.display := by
  refine (List.pairwise_mergeSort ?_ ?_ reports).imp of_decide_eq_true
  · intro a b c first second
    exact decide_eq_true (le_trans (of_decide_eq_true first) (of_decide_eq_true second))
  · intro a b
    simpa using le_total a.target.display b.target.display

variable {reports : List FileReport}

/-- Issues of different files are always in order, so all are when those of each file are. -/
theorem listed_iff (shown : (reports.map (·.target.display)).Nodup)
    (about : ∀ report ∈ reports, ∀ issue ∈ report.issues, issue.file = report.target.display) :
    ((ofFiles reports).issues.map Issue.file).Pairwise (· ≤ ·) ∧
      ((ofFiles reports).issues.Pairwise Issue.Listed ↔
        ∀ report ∈ reports, report.issues.Pairwise Issue.Precedes) := by
  have permuted := List.mergeSort_perm reports
    fun a b => decide (a.target.display ≤ b.target.display)
  have ordered := pairwise_display reports
  rw [ofFiles]
  generalize reports.mergeSort (fun a b => decide (a.target.display ≤ b.target.display)) = sorted
    at permuted ordered
  have known : ∀ report ∈ sorted, ∀ issue ∈ report.issues, issue.file = report.target.display :=
    fun report member => about report (permuted.mem_iff.mp member)
  have apart : sorted.Pairwise fun a b => a.target.display < b.target.display := by
    have different := (permuted.map (·.target.display)).nodup_iff.mpr shown
    exact (ordered.and (List.pairwise_map.mp different)).imp fun both =>
      lt_of_le_of_ne both.1 both.2
  have between : sorted.Pairwise fun a b =>
      ∀ first ∈ a.issues, ∀ second ∈ b.issues, first.file < second.file := by
    refine apart.imp_of_mem fun memberA memberB before first firstIn second secondIn => ?_
    rwa [known _ memberA first firstIn, known _ memberB second secondIn]
  have within : ∀ report ∈ sorted, (report.issues.Pairwise Issue.Listed ↔
      report.issues.Pairwise Issue.Precedes) := by
    intro report member
    refine List.Pairwise.iff_of_mem fun firstIn secondIn => Issue.listed_iff_of_file_eq ?_
    rw [known report member _ firstIn, known report member _ secondIn]
  constructor
  · rw [List.pairwise_map, List.pairwise_flatMap]
    refine ⟨fun report member => ?_, between.imp fun apart first firstIn second secondIn =>
      (apart first firstIn second secondIn).le⟩
    refine List.pairwise_of_forall_mem_list fun first firstIn second secondIn => ?_
    rw [known report member first firstIn, known report member second secondIn]
  · rw [List.pairwise_flatMap]
    constructor
    · intro listed report member
      have among := permuted.mem_iff.mpr member
      exact (within report among).mp (listed.1 report among)
    · intro each
      refine ⟨fun report member => ?_, between.imp fun apart first firstIn second secondIn =>
        .inl (apart first firstIn second secondIn)⟩
      exact (within report member).mpr (each report (permuted.mem_iff.mp member))

end Report

namespace Checker

/-- A report lists its issues by the file that is shown, whatever comes of reading and of writing
the files.  Within a file they are in order too, unless the file could not be written and an
issue of it has a line: the note that it could not be written stands behind that issue. -/
theorem report_listed_iff (checker : Checker) (fix : Bool) (targets : List Target)
    (shown : (targets.map Target.display).Nodup) :
    (∀ disk, checker.Outcomes fix targets (checker.checkFiles fix disk targets).1) ∧
      ∀ reports, checker.Outcomes fix targets reports →
        ((Report.ofFiles reports).issues.map Issue.file).Pairwise (· ≤ ·) ∧
          ((Report.ofFiles reports).issues.Pairwise Issue.Listed ↔
            ∀ report ∈ reports, ∀ e, report.outcome = .unwritable e →
              ∀ issue ∈ report.issues, issue.line = none) := by
  refine ⟨fun disk => checker.outcomes_checkFiles fix disk targets, fun reports outcomes => ?_⟩
  have displays : (reports.map (·.target.display)).Nodup := by
    rw [← outcomes.map_target, List.map_map] at shown
    exact shown
  have listed := Report.listed_iff displays fun report member issue reported => by
    obtain ⟨content, written, made⟩ := outcomes.of_mem member
    rw [made] at reported
    exact file_of_mem_report reported
  refine listed.imp_right fun each => each.trans ?_
  refine forall₂_congr fun report member => ?_
  obtain ⟨content, written, made⟩ := outcomes.of_mem member
  rw [made]
  exact checker.pairwise_report_iff fix report.target content written

/-- A file whose text is the command line of the process, which can be read and not written. -/
theorem report_listed_iff_refused :
    let checker : Checker := ⟨⟨[], 3⟩, ⟨[.matchingClose]⟩⟩
    let disk := ((Disk.empty []).put ["a.md"]
      (.link (.ofString "/proc/self/cmdline"))).withCommandLine ["tagscope", "<!--TAG:a-->text"]
    let target : Target := ⟨.ofString "a.md", "a.md"⟩
    let reports := (checker.checkFiles true disk [target]).1
    (Report.ofFiles reports).issues.map (fun issue => (issue.line, issue.rule)) =
        [(some 1, "matching-close"), (none, "read-file")] ∧
      ¬ (Report.ofFiles reports).issues.Pairwise Issue.Listed := by
  intro checker disk target reports
  have words : String.join (["tagscope", "<!--TAG:a-->text"].map fun word =>
      word.push (Char.ofNat 0)) = "tagscope\x00<!--TAG:a-->text\x00" := by decide
  have read : target.read disk = .ok "tagscope\x00<!--TAG:a-->text\x00" := by
    refine Disk.readText_of_node?
      (show disk.resolve target.path .follow = .ok ["proc", "self", "cmdline"] from rfl) ?_
    rw [← words]
    rfl
  have rules : Validator.ofSchema Validator.closingSchema = .ok checker.validator := rfl
  obtain ⟨repaired, done, round⟩ :=
    Validator.exists_round rules "a.md" "tagscope\x00<!--TAG:a-->text\x00"
  have applied : repaired.applied = 1 := round.applied.trans rfl
  have refused : disk.writeText target.path repaired.content = .error .permissionDenied := rfl
  have checked := checkFile_of_edited read done (by rw [applied]; decide)
  have made : reports = [⟨target, .unwritable .permissionDenied,
      checker.issues "a.md" "tagscope\x00<!--TAG:a-->text\x00" ++
        [target.unwritable .permissionDenied]⟩] := by
    simp only [reports, checkFiles, checked, refused, target]
  have found : checker.issues "a.md" "tagscope\x00<!--TAG:a-->text\x00" =
      [Rule.missingClose "a.md"
        ⟨"a", "a.md", 1, 1, "text\x00", .primary, .unclosed, 9, some 26⟩ 26] :=
    List.mergeSort_singleton _
  obtain ⟨outcomes, ordered⟩ := report_listed_iff checker true [target] (by simp)
  obtain ⟨-, listed⟩ := ordered reports (outcomes disk)
  rw [made, found] at listed ⊢
  refine ⟨?_, fun inOrder => ?_⟩
  · rw [Report.ofFiles, List.mergeSort_singleton]
    rfl
  · cases listed.mp inOrder _ (List.mem_singleton_self _) _ rfl _ (List.mem_cons_self ..)

end Checker

end TagAudit
