import TagAudit.Config.Basic
import TagAudit.Disk.Access
import TagAudit.Target.Basic

/-! The settings of a run.  The root of the repository is the nearest directory that is
marked as one; what the command line says wins over the configuration file there, and
that over the defaults. -/

namespace TagAudit

inductive ConfigError where
  | unreadable (path : Path) (cause : FileError)
  | badToml (path : Path) (cause : Toml.ConfigFault)
  | badYaml (path : Path) (cause : Yaml.ConfigFault)
  | badExclude (cause : ExcludeError)
deriving DecidableEq, Repr

def ConfigError.message : ConfigError → String
  | unreadable path cause => s!"failed to read config {path.toString}: {cause.message}"
  | badToml path _ => s!"config {path.toString} is not valid TOML: not a configuration"
  | badYaml path _ => s!"config {path.toString} is not valid YAML: not a configuration"
  | badExclude cause => cause.message

namespace Config

/-- The names of configuration files; the first that exists is read. -/
def fileNames : List String := ["tagscope.toml", "tagscope.yaml", "tagscope.yml"]

def isRoot (disk : Disk) (directory : Path) : Bool :=
  (fileNames ++ [".git"]).any fun name => disk.fileExists (directory.join (.ofString name))

def ancestors : Nat → Path → List Path
  | 0, path => [path]
  | fuel + 1, path =>
      path :: match path.parent? with
        | some parent => ancestors fuel parent
        | none => []

/-- The nearest marked directory at `start` or above it, or `start` itself. -/
def detectRoot (disk : Disk) (start : Path) : Path :=
  ((ancestors start.text.length start).find? (isRoot disk)).getD start

def readFile (path : Path) (name text : String) : Except ConfigError Config :=
  if ".toml".toList.isSuffixOf name.toList then
    (Toml.readConfig text).mapError (.badToml path)
  else (Yaml.readConfig text).mapError (.badYaml path)

def load (disk : Disk) (root : Path) : Except ConfigError (Option Config) :=
  match fileNames.find? fun name => disk.fileExists (root.join (.ofString name)) with
  | none => .ok none
  | some name =>
      let path := root.join (.ofString name)
      match disk.readText path with
      | .error e => .error (.unreadable path e)
      | .ok text => (readFile path name text).map some

end Config

structure Overrides where
  repoRoot : Option String
  schema : Option String
  json : Bool
  ci : Bool
deriving DecidableEq, Repr

structure Settings where
  repoRoot : Path
  /-- Whether there is a configuration file. -/
  hasConfig : Bool
  roots : List Path
  /-- The schema file; without one the built-in schema is used. -/
  schema : Option Path
  output : OutputMode
  ci : Bool
  filter : TargetFilter
  contextLines : Nat
deriving DecidableEq, Repr

namespace Settings

def defaultContextLines : Nat := 5

def defaultSchemaName : String := "tag_schema.yaml"

/-- The schema file that is named, or the one of the usual name where there is one. -/
def schemaPath (disk : Disk) (root : Path) (named : Option String) : Option Path :=
  match named with
  | some name => some (root.join (.ofString name))
  | none =>
      let path := root.join (.ofString defaultSchemaName)
      if disk.fileExists path then some path else none

def merge (disk : Disk) (overrides : Overrides) (root : Path) (loaded : Option Config) :
    Except ConfigError Settings := do
  let config := loaded.getD .empty
  let filter ← (TargetFilter.read (config.extensions.getD TargetFilter.defaultExtensions)
    (config.exclude.getD TargetFilter.defaultExclude)).mapError .badExclude
  return {
    repoRoot := root,
    hasConfig := loaded.isSome,
    roots := (config.roots.getD ["."]).map Path.ofString,
    schema := schemaPath disk root (overrides.schema.orElse fun _ => config.schema),
    output := if overrides.json then .json else config.output.getD .human,
    ci := overrides.ci || config.ci.getD false,
    filter := filter,
    contextLines := (config.search.bind SearchConfig.contextLines).getD defaultContextLines }

def rootOf (disk : Disk) (overrides : Overrides) : Path :=
  let start := Path.ofString (overrides.repoRoot.getD ".")
  Config.detectRoot disk ((disk.canonical start).toOption.getD start)

def resolve (disk : Disk) (overrides : Overrides) : Except ConfigError Settings := do
  let root := rootOf disk overrides
  merge disk overrides root (← Config.load disk root)

end Settings

end TagAudit
