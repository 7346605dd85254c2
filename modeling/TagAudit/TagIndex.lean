import TagAudit.Json
import TagAudit.Target.Reading

/-! The index of a set of files: for every tag the places where it occurs. -/

namespace TagAudit

structure TagIndex where
  /-- The occurrences of each tag in the order in which they were added. -/
  tags : Std.TreeMap String (List Occurrence)
  /-- Number of files that were read. -/
  files : Nat
  /-- One issue for each file that could not be read. -/
  warnings : List Issue

namespace TagIndex

def empty : TagIndex := ⟨∅, 0, []⟩

def query (index : TagIndex) (tag : String) : List Occurrence :=
  (index.tags[tag]?).getD []

def add (index : TagIndex) (o : Occurrence) : TagIndex :=
  { index with tags := index.tags.insert o.tag (index.query o.tag ++ [o]) }

def insert (index : TagIndex) (occurrences : List Occurrence) : TagIndex :=
  occurrences.foldl add index

/-- Adds the occurrences of a file, or the issue that says why it could not be read. -/
def addFile (index : TagIndex) : Except Issue (List Occurrence) → TagIndex
  | .ok occurrences => { index with files := index.files + 1 }.insert occurrences
  | .error issue => { index with warnings := index.warnings ++ [issue] }

def ofFiles (files : List (Except Issue (List Occurrence))) : TagIndex :=
  files.foldl addFile empty

/-- The index of some targets; each that cannot be read leaves a warning. -/
def ofTargets (options : ScanOptions) (disk : Disk) (targets : List Target) : TagIndex :=
  ofFiles (targets.map fun target =>
    match target.read disk with
    | .ok content => .ok (options.scan target.display content)
    | .error e => .error (target.unreadable e))

def unreadableEvents (disk : Disk) (targets : List Target) : List Log.Event :=
  targets.filterMap fun target =>
    match target.read disk with
    | .ok _ => none
    | .error e => some (target.unreadableEvent .index e)

def tagNames (index : TagIndex) : List String :=
  index.tags.keys

def queryPattern (index : TagIndex) (pattern : String) :
    Except WildcardError (List Occurrence) :=
  (Wildcard.read pattern.toList).map fun pattern =>
    (index.tags.toList.filter fun entry => pattern.accepts entry.1.toList).flatMap Prod.snd

/-- The occurrences of a tag, or of the tags that match when `text` has wildcards. -/
def search (index : TagIndex) (text : String) : Except WildcardError (List Occurrence) :=
  if Wildcard.escape text.toList = text.toList then .ok (index.query text)
  else index.queryPattern text

def counts (index : TagIndex) : List (String × Nat) :=
  index.tags.toList.map fun (tag, occurrences) => (tag, occurrences.length)

def location (o : Occurrence) : JsonValue :=
  .object [("file", .string o.file), ("start_line", .number o.startLine),
    ("end_line", .number o.endLine), ("kind", .string o.kind.name),
    ("closure", .string o.closure.name)]

/-- The index as a document: the places of each tag, and a summary. -/
def toJson (index : TagIndex) : JsonValue :=
  let counts := index.counts
  .object [
    ("tags", .object (index.tags.toList.map fun (tag, occurrences) =>
      (tag, .array (occurrences.map location)))),
    ("summary", .object [
      ("tags", .number counts.length),
      ("occurrences", .number (total (counts.map Prod.snd))),
      ("files", .number index.files)])]

end TagIndex

end TagAudit
