import Std.Data.TreeMap
import TagAudit.Path

/-! The files, directories and symbolic links of a disk, by the place where they are.
A place is the list of names that lead to it from the top without passing a link. -/

namespace TagAudit

/-- The names that lead from the top directory to a place. -/
abbrev Location := List String

inductive FileKind where
  | file
  | directory
  | link (target : Path)
deriving DecidableEq, Repr

inductive FileNode where
  | file (bytes : ByteArray)
  | directory
  | link (target : Path)

def FileNode.kind : FileNode → FileKind
  | file _ => .file
  | directory => .directory
  | link target => .link target

inductive FileError where
  | notFound
  | permissionDenied
  | notADirectory
  | isADirectory
  | nameTooLong
  | tooManyLinks
  /-- The path holds the character U+0000. -/
  | nulInPath
  /-- The bytes of the file are not UTF-8. -/
  | notText
deriving DecidableEq, Repr

def FileError.message : FileError → String
  | notFound => "No such file or directory (os error 2)"
  | permissionDenied => "Permission denied (os error 13)"
  | notADirectory => "Not a directory (os error 20)"
  | isADirectory => "Is a directory (os error 21)"
  | nameTooLong => "File name too long (os error 36)"
  | tooManyLinks => "Too many levels of symbolic links (os error 40)"
  | nulInPath => "file name contained an unexpected NUL byte"
  | notText => "stream did not contain valid UTF-8"

structure Disk where
  nodes : Std.TreeMap Location FileNode
  /-- The directory that relative paths start from. -/
  here : Location
  /-- Why the file at a place takes no bytes, if it takes none. -/
  refusal? : Location → Option FileError

namespace Disk

def empty (here : Location) : Disk := ⟨∅, here, fun _ => none⟩

/-- What is at a place.  The top is always a directory. -/
def node? (disk : Disk) (place : Location) : Option FileNode :=
  if place.isEmpty then some .directory else disk.nodes[place]?

def kind? (disk : Disk) (place : Location) : Option FileKind :=
  (disk.node? place).map FileNode.kind

def put (disk : Disk) (place : Location) (node : FileNode) : Disk :=
  { disk with nodes := disk.nodes.insert place node }

def erase (disk : Disk) (place : Location) : Disk :=
  { disk with nodes := disk.nodes.filter fun other _ => !place.isPrefixOf other }

def children (disk : Disk) (directory : Location) : List (String × FileKind) :=
  disk.nodes.toList.filterMap fun (place, node) =>
    place.getLast?.bind fun name =>
      if place.dropLast = directory then some (name, node.kind) else none

/-- The number of names that lead to the deepest place. -/
def height (disk : Disk) : Nat :=
  disk.nodes.foldl (fun height place _ => max height place.length) 0

end Disk

def Location.toPath (place : Location) : Path :=
  .ofString ("/" ++ "/".intercalate place)

end TagAudit
