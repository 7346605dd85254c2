import TagAudit.Disk.Resolve

/-! What a process asks of its disk. -/

namespace TagAudit.Disk

open Resolution

def kindOf? (disk : Disk) (p : Path) : Option FileKind :=
  match disk.locate p .follow with
  | .ok (_, node) => some node.kind
  | .error _ => none

def fileExists (disk : Disk) (p : Path) : Bool :=
  (disk.kindOf? p).isSome

def isFile (disk : Disk) (p : Path) : Bool :=
  disk.kindOf? p == some .file

def isDirectory (disk : Disk) (p : Path) : Bool :=
  disk.kindOf? p == some .directory

/-- Whether a path names anything, a link to nothing included. -/
def entryExists (disk : Disk) (p : Path) : Bool :=
  (disk.locate p .keep).isOk

def canonical (disk : Disk) (p : Path) : Except FileError Path :=
  (disk.locate p .follow).map fun (place, _) => place.toPath

def readBytes (disk : Disk) (p : Path) : Except FileError ByteArray := do
  match ← disk.locate p .follow with
  | (_, .file bytes) => return bytes
  | _ => .error .isADirectory

def readText (disk : Disk) (p : Path) : Except FileError String := do
  match String.fromUTF8? (← disk.readBytes p) with
  | some text => return text
  | none => .error .notText

/-- Writes a file, which is created where nothing is. -/
def write (disk : Disk) (p : Path) (bytes : ByteArray) : Except FileError Disk := do
  let place ← disk.resolve p .create
  match disk.kind? place, disk.refusal? place with
  | some .directory, _ => .error .isADirectory
  | _, some e => .error e
  | _, none => return disk.put place (.file bytes)

def writeText (disk : Disk) (p : Path) (text : String) : Except FileError Disk :=
  disk.write p text.toUTF8

def makeDirectories (disk : Disk) (p : Path) : Disk :=
  let start := if p.isAbsolute then [] else disk.here
  (p.steps.foldl (fun (disk, place) step =>
    match step with
    | .stay | .slash => (disk, place)
    | .up => (disk, place.dropLast)
    | .into name =>
        let next := place ++ [name]
        match disk.kind? next with
        | none => (disk.put next .directory, next)
        | some .directory => (disk, next)
        | some _ =>
            let target := follow disk.kind? .follow linkLimit place [step]
            (disk, target.toOption.getD next))
    (disk, start)).1

/-- The words that the process was started with, each with U+0000 behind it, stand in a file
that it may read but not write. -/
def withCommandLine (disk : Disk) (words : List String) : Disk :=
  let text := String.join (words.map fun word => word.push (Char.ofNat 0))
  let disk := ((disk.put ["proc"] .directory).put ["proc", "self"] .directory).put
    ["proc", "self", "cmdline"] (.file text.toUTF8)
  { disk with
    refusal? := fun
      | ["proc", _, "cmdline"] => some .permissionDenied
      | place => disk.refusal? place }

/-- Removes what a path names; a link is removed and not what it leads to. -/
def remove (disk : Disk) (p : Path) : Except FileError Disk :=
  (disk.locate p .keep).map fun (place, _) => disk.erase place

end TagAudit.Disk
