import TagAudit.Marker.Occurrence

/-! What the rules report about a file, and the counts of a report. -/

namespace TagAudit

/-- Only errors make a run fail. -/
inductive Severity where
  | error
  | warning
  | info
deriving DecidableEq, Repr

namespace Severity

def name : Severity → String
  | error => "error"
  | warning => "warning"
  | info => "info"

def ofName? : String → Option Severity
  | "error" => some error
  | "warning" => some warning
  | "info" => some info
  | _ => none

end Severity

inductive Repair where
  /-- Write the closing marker of `tag` at byte `insertOffset`; its opening marker
  begins at byte `openOffset`. -/
  | close (tag : String) (openOffset insertOffset : Nat)
  /-- Write a `component:value` tag at the top of the file. -/
  | insertComponent (value : String)
deriving DecidableEq, Repr

structure Issue where
  severity : Severity
  rule : String
  message : String
  file : String
  line : Option Nat
  suggestion : Option String
  fixable : Bool
  repair : Option Repair
deriving DecidableEq, Repr

namespace Issue

def ofFile (severity : Severity) (rule file message : String) : Issue :=
  { severity := severity, rule := rule, message := message, file := file,
    line := none, suggestion := none, fixable := false, repair := none }

def withRepair (issue : Issue) (repair : Repair) : Issue :=
  { issue with fixable := true, repair := some repair }

/-- Order within one file: by line, where an issue of the whole file comes first,
then by rule, then by message. -/
def compare (a b : Issue) : Ordering :=
  (Ord.compare a.line b.line).then
    ((Ord.compare a.rule b.rule).then (Ord.compare a.message b.message))

/-- The issues in the order of `Issue.compare`; ties keep their places. -/
def sort (issues : List Issue) : List Issue :=
  issues.mergeSort fun a b => (a.compare b).isLE

end Issue

def total (counts : List Nat) : Nat :=
  counts.foldl Nat.add 0

structure Summary where
  errors : Nat
  warnings : Nat
  infos : Nat
  files : Nat
deriving DecidableEq, Repr

def Summary.ofIssues (issues : List Issue) (files : Nat) : Summary :=
  { errors := issues.countP (·.severity == .error),
    warnings := issues.countP (·.severity == .warning),
    infos := issues.countP (·.severity == .info),
    files := files }

structure Report where
  issues : List Issue
  summary : Summary
  /-- Edits written to disk. -/
  fixesApplied : Nat
deriving DecidableEq, Repr

/-- A run fails when errors are to be enforced and there is one. -/
def Report.exitCode (report : Report) (enforced : Bool) : Nat :=
  if enforced && report.summary.errors > 0 then 1 else 0

end TagAudit
