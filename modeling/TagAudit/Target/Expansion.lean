import TagAudit.Target.Walk

/-! The files that a path with wildcards names.  The wildcards between two slashes match
one name, and `**` any number of directories. -/

namespace TagAudit

namespace Disk

def isDirectoryEntry (disk : Disk) (path : Path) (kind : FileKind) : Bool :=
  match kind with
  | .directory => true
  | .file => false
  | .link _ => disk.isDirectory path

/-- The entries of a directory as paths.  Those of `.` are not led by it. -/
def pathsIn (disk : Disk) (path : Path) : List (Path × FileKind) :=
  match disk.locate path .follow with
  | .ok (place, .directory) =>
      (disk.children place).map fun (name, kind) =>
        let name := Path.ofString name
        (if path.components = [.current] then name else path.join name, kind)
  | _ => []

/-- The entries below a directory, at most `depth` names deep.  Links to directories are
followed. -/
def pathsBelow (disk : Disk) : Nat → Path → List Path
  | 0, _ => []
  | depth + 1, path =>
      (disk.pathsIn path).flatMap fun (child, kind) =>
        child :: if disk.isDirectoryEntry child kind then pathsBelow disk depth child else []

/-- No path that can be followed has more names: at most `height` before the first link,
and after each. -/
def reach (disk : Disk) : Nat :=
  (Resolution.linkLimit + 1) * (disk.height + 1)

/-- What the name `name` leads to from `path`; `.` and `..` lead on from directories only. -/
def pathOfName? (disk : Disk) (path : Path) (name : List Char) : Option Path :=
  let next := if path.components = [.current] then ⟨name⟩ else path.join ⟨name⟩
  let leads :=
    if name = ['.'] || name = ['.', '.'] then disk.isDirectory path else disk.entryExists next
  if leads then some next else none

/-- The paths `.` and `..` from a directory, if a pattern that begins with a dot matches
them. -/
def specialPaths (disk : Disk) (path : Path) (pattern : Wildcard) : List Path :=
  if pattern.tokens.head? == some (.literal '.') && disk.isDirectory path then
    (([['.'], ['.', '.']] : List (List Char)).filter pattern.accepts).map fun name =>
      path.join ⟨name⟩
  else []

def pathsMatching (disk : Disk) (pattern : Wildcard) (path : Path) : List Path :=
  match pattern.literal? with
  | some name => (disk.pathOfName? path name).toList
  | none =>
      disk.specialPaths path pattern ++
        ((disk.pathsIn path).map Prod.fst).filter fun child =>
          pattern.accepts (child.fileName?.getD [])

def expandFrom (disk : Disk) : List Wildcard → Path → List Path
  | [], path => [path]
  | [pattern], path =>
      if pattern.isRecursive then (disk.pathsBelow disk.reach path).filter disk.isDirectory
      else disk.pathsMatching pattern path
  | pattern :: next :: rest, path =>
      if !pattern.isRecursive then
        (disk.pathsMatching pattern path).flatMap (disk.expandFrom (next :: rest))
      else if next.isRecursive then disk.expandFrom (next :: rest) path
      else
        (disk.pathsBelow disk.reach path).flatMap fun child =>
          if next.accepts (child.fileName?.getD []) then disk.expandFrom rest child else []

end Disk

namespace Target

def readNames (pattern : Path) : Except WildcardError (List Wildcard) :=
  let text := if pattern.isAbsolute then pattern.text.tail else pattern.text
  let pieces := Text.splitOn '/' text
  let names := if pieces.getLast? = some [] then pieces.dropLast else pieces
  names.mapM Wildcard.read

def filesMatching (disk : Disk) (pattern : Path) : Except WildcardError (List Path) := do
  discard (Wildcard.read pattern.text)
  let names ← readNames pattern
  let start : Path := if pattern.isAbsolute then ⟨['/']⟩ else ⟨['.']⟩
  let endsInSlash := pattern.text.getLast? = some '/'
  let found := if names.isEmpty || endsInSlash then [] else disk.expandFrom names start
  return found.filter disk.isFile

/-- A pattern without wildcards is kept when it matches nothing, so that the missing file
can be reported. -/
def expandOne (disk : Disk) (repoRoot : Path) (pattern : String) : List Target :=
  let path := repoRoot.join (.ofString pattern)
  let found := (filesMatching disk path).toOption.getD []
  if found.isEmpty && Wildcard.escape pattern.toList = pattern.toList then
    [.ofPath repoRoot path]
  else found.map (.ofPath repoRoot)

def expand (disk : Disk) (repoRoot : Path) (patterns : List String) : List Target :=
  merge (patterns.flatMap (expandOne disk repoRoot))

def badPatterns (disk : Disk) (repoRoot : Path) (patterns : List String) : List Log.Event :=
  patterns.filterMap fun pattern =>
    match filesMatching disk (repoRoot.join (.ofString pattern)) with
    | .ok _ => none
    | .error e =>
        some ⟨.warn, .walk, "invalid file pattern", [("pattern", pattern), ("error", e.message)]⟩

end Target

/-- What is to be looked at: the files that patterns name, the files below directories,
and the files below the roots when all are wanted or nothing else is named. -/
structure Selection where
  files : List String
  directories : List String
  all : Bool
deriving DecidableEq, Repr

namespace Selection

def searched (selection : Selection) (roots : List Path) : List Path :=
  let named := selection.directories.map Path.ofString
  let usesRoots :=
    selection.all || (selection.files.isEmpty && selection.directories.isEmpty)
  if usesRoots then named ++ roots else named

/-- The selected files.  A file that is named as well as found keeps the path by which it
is named. -/
def targets (selection : Selection) (disk : Disk) (repoRoot : Path) (roots : List Path)
    (filter : TargetFilter) : List Target :=
  Target.merge (Target.expand disk repoRoot selection.files ++
    filter.collect disk repoRoot (selection.searched roots))

def events (selection : Selection) (disk : Disk) (repoRoot : Path) (roots : List Path) :
    List Log.Event :=
  Target.badPatterns disk repoRoot selection.files ++
    TargetFilter.missingRoots disk repoRoot (selection.searched roots)

end Selection

end TagAudit
