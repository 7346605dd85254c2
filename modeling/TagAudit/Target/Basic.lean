import TagAudit.Schema.Basic
import TagAudit.Path
import TagAudit.Wildcard.Basic

/-! The files that a run looks at, and which files and directories a search for them
passes over. -/

namespace TagAudit

structure Target where
  path : Path
  display : String
deriving DecidableEq, Repr

namespace Target

def ofPath (repoRoot path : Path) : Target :=
  ⟨path, Path.display repoRoot path⟩

/-- The targets in the order of their paths' components.  Of those with the same
components the first is kept. -/
def merge (targets : List Target) : List Target :=
  (targets.mergeSort fun a b => (a.path.compare b.path).isLE).eraseRepsBy
    fun a b => a.path.compare b.path = .eq

end Target

structure ExcludeError where
  pattern : String
  cause : WildcardError
deriving DecidableEq, Repr

def ExcludeError.message (e : ExcludeError) : String :=
  s!"invalid exclude pattern '{e.pattern}': {e.cause.message}"

structure TargetFilter where
  /-- The extensions of the files to take, in their normal form. -/
  extensions : List String
  /-- Patterns of the displayed paths to leave out. -/
  exclude : List Wildcard
deriving DecidableEq, Repr

namespace TargetFilter

def defaultExtensions : List String := [
  "py", "md", "markdown", "yaml", "yml", "txt", "rst", "toml", "json", "rs", "sh", "js", "ts",
  "html"]

def defaultExclude : List String := [
  "**/.git/**", "**/target/**", "**/node_modules/**", "**/__pycache__/**", "**/.venv/**"]

def normalize (extension : List Char) : String :=
  String.ofList (Schema.normalizeExtension extension)

def readExclude (pattern : String) : Except ExcludeError Wildcard :=
  (Wildcard.read pattern.toList).mapError fun cause => ⟨pattern, cause⟩

/-- The filter of some extensions and patterns; the first text that is no pattern is the
error. -/
def read (extensions exclude : List String) : Except ExcludeError TargetFilter := do
  return ⟨extensions.map fun extension => normalize extension.toList,
    ← exclude.mapM readExclude⟩

def wantsExtension (filter : TargetFilter) (path : Path) : Bool :=
  (path.extension?.map normalize).any filter.extensions.contains

/-- Whether a displayed path is left out.  Below a directory some name is assumed, since
patterns speak of what is in it. -/
def excludes (filter : TargetFilter) (display : String) (isDirectory : Bool) : Bool :=
  let probe := if isDirectory then display ++ "/_" else display
  filter.exclude.any (·.accepts probe.toList)

end TargetFilter

end TagAudit
