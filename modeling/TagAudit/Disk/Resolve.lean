import TagAudit.Disk.Basic

/-! Where a path leads.  Names are followed one by one from a directory; a symbolic link
is replaced by its target, at most forty times. -/

namespace TagAudit

inductive Step where
  | stay
  | up
  | into (name : String)
  /-- The slash at the end of a path, which asks for a directory. -/
  | slash
deriving DecidableEq, Repr

def Step.ofPiece? (piece : List Char) : Option Step :=
  if piece.isEmpty then none
  else if piece = ['.'] then some stay
  else if piece = ['.', '.'] then some up
  else some (into (String.ofList piece))

def Path.steps (p : Path) : List Step :=
  let last := if p.text.getLast? = some '/' then [Step.slash] else []
  (Text.splitOn '/' p.text).filterMap Step.ofPiece? ++ last

namespace Resolution

/-- How far a path can be followed without replacing a link. -/
inductive Halt where
  /-- All steps are made.  The last may lead to a place that holds nothing. -/
  | arrived (place : Location)
  /-- A link in `directory` is to be replaced, and `rest` to be followed after it. -/
  | link (directory : Location) (target : Path) (rest : List Step)
deriving DecidableEq, Repr

inductive LastLink where
  | keep
  | follow
  /-- It is followed to a file, which is created where nothing is. -/
  | create
deriving DecidableEq, Repr

def nameLimit : Nat := 255

def pathLimit : Nat := 4095

/-- Follows steps from the directory `place` up to the first link.  No file is created
before a slash. -/
def advance (kind? : Location → Option FileKind) (last : LastLink) :
    Location → List Step → Except FileError Halt
  | place, [] => .ok (.arrived place)
  | place, .stay :: rest | place, .slash :: rest => advance kind? last place rest
  | place, .up :: rest => advance kind? last place.dropLast rest
  | place, .into name :: rest =>
      let next := place ++ [name]
      if last == .create && rest == [.slash] then .error .isADirectory
      else if nameLimit < name.utf8ByteSize then .error .nameTooLong
      else
        match kind? next with
        | none => if rest.isEmpty then .ok (.arrived next) else .error .notFound
        | some .file => if rest.isEmpty then .ok (.arrived next) else .error .notADirectory
        | some .directory => advance kind? last next rest
        | some (.link target) =>
            if rest.isEmpty && last == .keep then .ok (.arrived next)
            else .ok (.link place target rest)

/-- Follows steps and replaces links, of which `links` may still be met. -/
def follow (kind? : Location → Option FileKind) (last : LastLink) :
    Nat → Location → List Step → Except FileError Location
  | links, place, steps =>
      match advance kind? last place steps with
      | .error e => .error e
      | .ok (.arrived place) => .ok place
      | .ok (.link directory target rest) =>
          match links with
          | 0 => .error .tooManyLinks
          | links + 1 =>
              follow kind? last links (if target.isAbsolute then [] else directory)
                (target.steps ++ rest)

def linkLimit : Nat := 40

def textFault? (p : Path) : Option FileError :=
  if p.text.contains (Char.ofNat 0) then some .nulInPath
  else if p.text.isEmpty then some .notFound
  else if Text.byteSize p.text > pathLimit then some .nameTooLong
  else none

end Resolution

namespace Disk

open Resolution

/-- The place that a path leads to.  It may hold nothing. -/
def resolve (disk : Disk) (p : Path) (last : LastLink) : Except FileError Location :=
  match textFault? p with
  | some e => .error e
  | none => follow disk.kind? last linkLimit (if p.isAbsolute then [] else disk.here) p.steps

def locate (disk : Disk) (p : Path) (last : LastLink) :
    Except FileError (Location × FileNode) := do
  let place ← disk.resolve p last
  match disk.node? place with
  | some node => return (place, node)
  | none => .error .notFound

end Disk

end TagAudit
