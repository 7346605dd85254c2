import TagAudit.Disk.Access
import TagAudit.Log.Event
import TagAudit.Schema.Document

/-! Loading the schema from a file.  When there is none to be had the built-in schema
stands in for it. -/

namespace TagAudit

inductive SchemaFileError where
  | unreadable (path : Path) (cause : FileError)
  | invalid (path : Path) (cause : SchemaError)
deriving DecidableEq, Repr

def SchemaFileError.message : SchemaFileError → String
  | unreadable path cause => s!"failed to read schema {path.toString}: {cause.message}"
  | invalid _ (.badPattern pattern _) => s!"invalid identifier pattern '{pattern}': not a pattern"
  | invalid path _ => s!"schema {path.toString} is not valid YAML: not a schema"

namespace Schema

def unknownRule (path : Path) (key : String) : Log.Event :=
  ⟨.warn, .schema, "ignoring unknown tag rule",
    [("rule", Log.quoted key), ("schema", Log.quoted path.toString)]⟩

def load (disk : Disk) (path : Path) : Except SchemaFileError Schema :=
  match disk.readText path with
  | .error e => .error (.unreadable path e)
  | .ok text => (Schema.read text).mapError (.invalid path)

def loadEvents (disk : Disk) (path : Path) : List Log.Event :=
  match (disk.readText path).toOption.bind fun text => (SchemaDocument.read text).toOption with
  | some document => document.unknownRules.map (unknownRule path)
  | none => []

def loadOrDefault (disk : Disk) (path : Option Path) : Schema :=
  match path with
  | none => .default
  | some path => (load disk path).toOption.getD .default

def loadOrDefaultEvents (disk : Disk) (path : Option Path) : List Log.Event :=
  match path with
  | none => [⟨.debug, .config, "no schema file configured; using built-in schema", []⟩]
  | some path =>
      let outcome : Log.Event :=
        match load disk path with
        | .ok _ => ⟨.debug, .config, "loaded schema", [("schema", path.toString)]⟩
        | .error e => ⟨.warn, .config, "falling back to built-in schema", [("error", e.message)]⟩
      loadEvents disk path ++ [outcome]

end Schema

end TagAudit
