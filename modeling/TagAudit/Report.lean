import TagAudit.Json
import TagAudit.Issue
import TagAudit.TagIndex

/-! How issues, matches and tags are shown to people and as JSON. -/

namespace TagAudit

inductive Style where
  | red
  | yellow
  | blue
  | cyan
  | brightBlack
  | bold
deriving DecidableEq, Repr

namespace Style

def code (opening : String) : String := "\x1b[" ++ opening ++ "m"

def codes : Style → String × String
  | red => (code "31", code "39")
  | yellow => (code "33", code "39")
  | blue => (code "34", code "39")
  | cyan => (code "36", code "39")
  | brightBlack => (code "90", code "39")
  | bold => (code "1", code "0")

end Style

/-- Whether output is styled. -/
abbrev Colors := Bool

/-- A text in a style, or plain. -/
def Style.apply (style : Style) (colors : Colors) (text : String) : String :=
  if colors then style.codes.1 ++ text ++ style.codes.2 else text

namespace Severity

def icon : Severity → String
  | error => "✖"
  | warning => "▲"
  | info => "◆"

def label : Severity → String
  | error => "⟦error⟧"
  | warning => "⟦warn⟧"
  | info => "⟦info⟧"

def style : Severity → Style
  | error => .red
  | warning => .yellow
  | info => .blue

end Severity

namespace Issue

def location (issue : Issue) : String :=
  match issue.line with
  | some line => s!"{issue.file}:{line}"
  | none => issue.file

def render (issue : Issue) (colors : Colors) : String :=
  let style := issue.severity.style
  let icon := style.apply colors issue.severity.icon
  let label := Style.bold.apply colors (style.apply colors issue.severity.label)
  let location := Style.bold.apply colors issue.location
  let fixable := Style.brightBlack.apply colors (if issue.fixable then " (fixable)" else "")
  s!"{icon} {label} {location} ❲{issue.rule}❳ — {issue.message}{fixable}"

def renderWithHelp (issue : Issue) (colors : Colors) : List String :=
  let help := Style.cyan.apply colors "help:"
  issue.render colors :: (issue.suggestion.map fun text => s!"    {help} {text}").toList

def toJson (issue : Issue) : JsonValue :=
  .object [
    ("severity", .string issue.severity.name), ("rule", .string issue.rule),
    ("message", .string issue.message), ("file", .string issue.file),
    ("line", (issue.line.map JsonValue.number).getD .null),
    ("suggestion", (issue.suggestion.map JsonValue.string).getD .null),
    ("fixable", .bool issue.fixable)]

end Issue

namespace Report

def summaryLine (report : Report) (colors : Colors) : String :=
  let s := report.summary
  let fixed := if report.fixesApplied > 0 then s!" fixed={report.fixesApplied}" else ""
  Style.bold.apply colors
    s!"— Summary — errors={s.errors} warnings={s.warnings} infos={s.infos} files={s.files}{fixed}"

def render (report : Report) (colors : Colors) : List String :=
  report.issues.flatMap (·.renderWithHelp colors) ++ [report.summaryLine colors]

def toJson (report : Report) : JsonValue :=
  .array (report.issues.map Issue.toJson)

end Report

/-- The first `most` lines of a text behind a rule, and how many more there are. -/
def excerpt (content : String) (most : Nat) : String :=
  let lines := Text.lines content.toList
  let shown := (lines.take most).map fun line => "    │ " ++ String.ofList line
  let more := lines.length - most
  let rest := if more > 0 then [s!"    │ … ({more} more line(s))"] else []
  "\n".intercalate (shown ++ rest)

namespace Occurrence

def location (o : Occurrence) : String :=
  if o.startLine = o.endLine then s!"{o.file}:{o.startLine}"
  else s!"{o.file}:{o.startLine}-{o.endLine}"

/-- The line of a match, and an excerpt of at most `context` lines where one is asked for. -/
def render (o : Occurrence) (colors : Colors) (context : Option Nat) : List String :=
  let icon := Style.blue.apply colors "◆"
  let tag := Style.bold.apply colors o.tag
  let shown := context.filter fun _ => !o.content.isEmpty
  s!"{icon} {tag} {o.location}" :: (shown.map (excerpt o.content)).toList

def toJson (o : Occurrence) : JsonValue :=
  .object [
    ("tag", .string o.tag), ("file", .string o.file), ("start_line", .number o.startLine),
    ("end_line", .number o.endLine), ("content", .string o.content),
    ("kind", .string o.kind.name), ("closure", .string o.closure.name)]

end Occurrence

def renderMatches (text : String) (found : List Occurrence) (colors : Colors)
    (context : Option Nat) : List String :=
  let files := ((found.map Occurrence.file).eraseDups).length
  found.flatMap (·.render colors context) ++
    [Style.bold.apply colors
      s!"— {found.length} match(es) for '{text}' in {files} file(s)"]

namespace TagIndex

def renderTags (index : TagIndex) (colors : Colors) : List String :=
  let lines := index.counts.map fun (tag, count) =>
    let tag := Style.bold.apply colors tag
    let count := Style.brightBlack.apply colors s!"({count})"
    s!"{tag} {count}"
  lines ++ [s!"— {index.counts.length} tag(s) across {index.files} file(s)"]

end TagIndex

end TagAudit
