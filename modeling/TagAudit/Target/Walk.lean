import TagAudit.Disk.Access
import TagAudit.Log.Event
import TagAudit.Target.Basic

/-! The files below some directories. -/

namespace TagAudit

namespace Disk

/-- The entries below a directory, with the paths that continue `path`.  An entry that is
not admitted is left out with all below it, and links are not followed. -/
def walk (disk : Disk) (admits : Path → FileKind → Bool) :
    Nat → Location → Path → List (Path × FileKind)
  | 0, _, _ => []
  | depth + 1, directory, path =>
      (disk.children directory).flatMap fun (name, kind) =>
        let child := path.join (.ofString name)
        if !admits child kind then []
        else if kind == .directory then
          (child, kind) :: walk disk admits depth (directory ++ [name]) child
        else [(child, kind)]

/-- A path and the entries below it.  A link to a directory counts as the directory. -/
def entriesFrom (disk : Disk) (admits : Path → FileKind → Bool) (path : Path) :
    List (Path × FileKind) :=
  match disk.locate path .follow with
  | .ok (place, .directory) =>
      (path, .directory) :: disk.walk admits disk.height place path
  | _ =>
      match disk.locate path .keep with
      | .ok (_, node) => [(path, node.kind)]
      | .error _ => []

end Disk

namespace TargetFilter

def admits (filter : TargetFilter) (repoRoot path : Path) (kind : FileKind) : Bool :=
  !filter.excludes (Path.display repoRoot path) (kind == .directory)

def filesFrom (filter : TargetFilter) (disk : Disk) (repoRoot path : Path) : List Target :=
  let entries := disk.entriesFrom (filter.admits repoRoot) path
  (entries.filter fun (path, kind) => kind == .file && filter.wantsExtension path).map
    fun (path, _) => .ofPath repoRoot path

def collect (filter : TargetFilter) (disk : Disk) (repoRoot : Path) (roots : List Path) :
    List Target :=
  Target.merge (roots.flatMap fun root => filter.filesFrom disk repoRoot (repoRoot.join root))

def missingRoots (disk : Disk) (repoRoot : Path) (roots : List Path) : List Log.Event :=
  ((roots.map repoRoot.join).filter (!disk.fileExists ·)).map fun root =>
    ⟨.warn, .walk, "scan root does not exist", [("root", root.toString)]⟩

end TargetFilter

end TagAudit
