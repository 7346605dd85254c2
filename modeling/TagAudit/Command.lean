import TagAudit.Check
import TagAudit.CommandLine.Basic
import TagAudit.Config.Settings
import TagAudit.Log.Filter
import TagAudit.Report
import TagAudit.Schema.Loading
import TagAudit.Target.Expansion

/-! Running a command: what it prints, what it says besides, and what it leaves on the
disk. -/

namespace TagAudit

structure Environment where
  disk : Disk
  /-- Whether the user wants no colors anywhere. -/
  noColor : Bool

/-- What is said besides the output: a line, or an event that may be logged. -/
inductive Notice where
  | line (text : String)
  | event (e : Log.Event)
deriving DecidableEq, Repr

def Notice.shown? (filter : Log.Filter) : Notice → Option String
  | line text => some text
  | event e => if filter.shows e then some e.render else none

structure Outcome where
  exitCode : Nat
  /-- The lines of the output. -/
  output : List String
  notices : List Notice
  disk : Disk

namespace Outcome

def linesOf (lines : List String) : String :=
  String.join (lines.map fun line => line ++ "\n")

def outputText (outcome : Outcome) : String :=
  linesOf outcome.output

def noticesText (outcome : Outcome) (filter : Log.Filter) : String :=
  linesOf (outcome.notices.filterMap (Notice.shown? filter))

end Outcome

namespace Command

def lead (env : Environment) (style : Style) (word : String) : String :=
  Style.bold.apply (!env.noColor) (style.apply (!env.noColor) word)

def fail (env : Environment) (output : List String) (notices : List Notice)
    (message : String) : Outcome :=
  let word := lead env .red "error:"
  ⟨2, output, notices ++ [.line s!"{word} {message}"], env.disk⟩

/-- Human output has colors unless the user wants none. -/
def colors (env : Environment) (output : OutputMode) : Colors :=
  output == .human && !env.noColor

def overrides (targets : TargetOptions) (ci : Bool) : Overrides :=
  ⟨targets.repoRoot, targets.schema, targets.json, ci⟩

def selection (targets : TargetOptions) : Selection :=
  ⟨targets.files, targets.directories, targets.all⟩

/-- The note of a run without configuration file. -/
def missingConfig (env : Environment) (targets : TargetOptions) (settings : Settings) :
    List Notice :=
  if settings.hasConfig || targets.json then []
  else
    let word := lead env .cyan "note:"
    [.line s!"{word} No tagscope.toml found; using defaults."]

def selected (disk : Disk) (settings : Settings) (targets : TargetOptions) : List Target :=
  (selection targets).targets disk settings.repoRoot settings.roots settings.filter

def preamble (env : Environment) (settings : Settings) (targets : TargetOptions)
    (files : List Target) : List Notice :=
  let empty : List Log.Event :=
    if files.isEmpty then [⟨.warn, .command, "no files matched the given targets", []⟩] else []
  let scanning : Log.Event :=
    ⟨.info, .command, "scanning",
      [("files", toString files.length), ("root", settings.repoRoot.toString)]⟩
  let events :=
    Schema.loadOrDefaultEvents env.disk settings.schema ++
      (selection targets).events env.disk settings.repoRoot settings.roots ++ empty ++
      [scanning]
  missingConfig env targets settings ++ events.map .event

def withSettings (env : Environment) (targets : TargetOptions) (ci : Bool)
    (run : Settings → Outcome) : Outcome :=
  match Settings.resolve env.disk (overrides targets ci) with
  | .error e => fail env [] [] e.message
  | .ok settings => run settings

def reportLines (env : Environment) (settings : Settings) (report : Report) : List String :=
  match settings.output with
  | .json => [report.toJson.render]
  | .human => report.render (colors env .human)

def validate (env : Environment) (targets : TargetOptions) (fix ci : Bool) : Outcome :=
  withSettings env targets ci fun settings =>
    let schema := Schema.loadOrDefault env.disk settings.schema
    match Checker.ofSchema schema with
    | .error _ =>
        fail env [] (missingConfig env targets settings)
          s!"invalid identifier pattern '{schema.rules.validIdentifier.value}': not a pattern"
    | .ok checker =>
        let files := selected env.disk settings targets
        let (reports, disk) := checker.checkFiles fix env.disk files
        let report := Report.ofFiles reports
        let events := reports.filterMap FileReport.event?
        ⟨report.exitCode settings.ci, reportLines env settings report,
          preamble env settings targets files ++ events.map .event, disk⟩

def buildIndex (disk : Disk) (settings : Settings) (files : List Target) : TagIndex :=
  .ofTargets (Schema.loadOrDefault disk settings.schema).scanOptions disk files

def indexNotices (env : Environment) (settings : Settings) (targets : TargetOptions)
    (files : List Target) (index : TagIndex) : List Notice :=
  let events := TagIndex.unreadableEvents env.disk files
  let warnings := index.warnings.map fun issue =>
    Notice.line (issue.render (colors env settings.output))
  preamble env settings targets files ++ events.map .event ++ warnings

def tagLines (env : Environment) (settings : Settings) (index : TagIndex) : List String :=
  match settings.output with
  | .json => [(JsonValue.array (index.tagNames.map .string)).render]
  | .human => index.renderTags (colors env .human)

def matchLines (env : Environment) (settings : Settings) (text : String)
    (found : List Occurrence) (showContext : Bool) : List String :=
  match settings.output with
  | .json => [(JsonValue.array (found.map Occurrence.toJson)).render]
  | .human =>
      renderMatches text found (colors env .human)
        (if showContext then some settings.contextLines else none)

def search (env : Environment) (targets : TargetOptions) (tag : Option String)
    (listTags showContext : Bool) : Outcome :=
  if tag.isNone && !listTags then fail env [] [] "pass --tag <name> or --list-tags"
  else
    withSettings env targets false fun settings =>
      let files := selected env.disk settings targets
      let index := buildIndex env.disk settings files
      let notices := indexNotices env settings targets files index
      let listed := if listTags then tagLines env settings index else []
      match tag with
      | none => ⟨0, listed, notices, env.disk⟩
      | some text =>
          match index.search text with
          | .ok found =>
              ⟨0, listed ++ matchLines env settings text found showContext, notices, env.disk⟩
          | .error e =>
              fail env listed notices s!"invalid tag pattern '{text}': {e.message}"

def index (env : Environment) (targets : TargetOptions) (out : Option String) : Outcome :=
  withSettings env targets false fun settings =>
    let files := selected env.disk settings targets
    let index := buildIndex env.disk settings files
    let notices := indexNotices env settings targets files index
    let document := index.toJson.render
    match out with
    | none => ⟨0, [document], notices, env.disk⟩
    | some path =>
        match env.disk.writeText (.ofString path) (document ++ "\n") with
        | .error e => fail env [] notices s!"failed to write {path}: {e.message}"
        | .ok disk =>
            let line :=
              s!"wrote {index.tagNames.length} tag(s) from {index.files} file(s) to {path}"
            ⟨0, [line], notices, disk⟩

def version : String := "0.1.0"

def run (env : Environment) : Subcommand → Outcome
  | .version => ⟨0, [version], [], env.disk⟩
  | .validate targets fix ci => validate env targets fix ci
  | .search targets tag listTags showContext => search env targets tag listTags showContext
  | .index targets out => index env targets out

end Command

end TagAudit
