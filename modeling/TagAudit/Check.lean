import TagAudit.Repair
import TagAudit.Rule
import TagAudit.Target.Reading

/-! Checking files against a schema.  Each file is read, scanned and validated on its own;
when repairs are wanted the repaired text is written back and validated once more. -/

namespace TagAudit

inductive FileOutcome where
  | unreadable (cause : FileError)
  /-- Nothing was to be written. -/
  | checked
  | unwritable (cause : FileError)
  /-- The text was written back with this many edits. -/
  | repaired (edits : Nat)
deriving DecidableEq, Repr

structure FileReport where
  target : Target
  outcome : FileOutcome
  issues : List Issue
deriving DecidableEq, Repr

namespace FileReport

/-- Files count when they were read. -/
def count (report : FileReport) : Nat :=
  match report.outcome with
  | .unreadable _ => 0
  | _ => 1

def fixes (report : FileReport) : Nat :=
  match report.outcome with
  | .repaired edits => edits
  | _ => 0

def event? (report : FileReport) : Option Log.Event :=
  let file := ("file", report.target.display)
  match report.outcome with
  | .unreadable e => some (report.target.unreadableEvent .check e)
  | .checked => none
  | .unwritable e =>
      some ⟨.warn, .check, "failed to write fixes", [file, ("error", e.message)]⟩
  | .repaired edits =>
      some ⟨.info, .check, "applied fixes", [file, ("fixes", toString edits)]⟩

end FileReport

structure Checker where
  options : ScanOptions
  validator : Validator

namespace Checker

def ofSchema (schema : Schema) : Except Pattern.PatternError Checker :=
  (Validator.ofSchema schema).map (Checker.mk schema.scanOptions)

def issues (checker : Checker) (display content : String) : List Issue :=
  checker.validator.validate display (checker.options.scan display content)

/-- The repaired text, if some issue can be repaired and the text changes. -/
def repaired? (display content : String) (issues : List Issue) : Option Repaired :=
  if issues.any (·.fixable) then
    (repair display content issues).toOption.filter fun r =>
      r.applied ≠ 0 && r.content ≠ content
  else none

/-- The repaired text of a target, if repairs are wanted and there is one. -/
def revision? (checker : Checker) (fix : Bool) (target : Target) (content : String) :
    Option Repaired :=
  if fix then repaired? target.display content (checker.issues target.display content)
  else none

def report (checker : Checker) (fix : Bool) (target : Target)
    (content : Except FileError String) (written : Except FileError Unit) : FileReport :=
  match content with
  | .error e => ⟨target, .unreadable e, [target.unreadable e]⟩
  | .ok content =>
      let issues := checker.issues target.display content
      match checker.revision? fix target content, written with
      | none, _ => ⟨target, .checked, issues⟩
      | some _, .error e => ⟨target, .unwritable e, issues ++ [target.unwritable e]⟩
      | some r, .ok () =>
          ⟨target, .repaired r.applied, checker.issues target.display r.content⟩

def checkFile (checker : Checker) (fix : Bool) (disk : Disk) (target : Target) :
    FileReport × Disk :=
  let content := target.read disk
  let revised := content.toOption.bind (checker.revision? fix target)
  let written := revised.map fun r => disk.writeText target.path r.content
  match written with
  | none => (checker.report fix target content (.ok ()), disk)
  | some result =>
      (checker.report fix target content (result.map fun _ => ()), result.toOption.getD disk)

def checkFiles (checker : Checker) (fix : Bool) : Disk → List Target →
    List FileReport × Disk
  | disk, [] => ([], disk)
  | disk, target :: rest =>
      let (report, disk) := checker.checkFile fix disk target
      let (reports, disk) := checkFiles checker fix disk rest
      (report :: reports, disk)

end Checker

/-- The report on some files, in the order of their displayed paths. -/
def Report.ofFiles (reports : List FileReport) : Report :=
  let sorted := reports.mergeSort fun a b => decide (a.target.display ≤ b.target.display)
  let issues := sorted.flatMap FileReport.issues
  { issues := issues,
    summary := .ofIssues issues (total (sorted.map FileReport.count)),
    fixesApplied := total (sorted.map FileReport.fixes) }

end TagAudit
