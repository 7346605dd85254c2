import TagAudit.Path
import TagAudit.Text.Lowercase

/-! The component that a file most likely belongs to, judged by its path. -/

namespace TagAudit.Schema

open Text

/-- The lowercase names on the way to a file, and last its name without extension. -/
def segments (path : Path) : List String :=
  let directories := (path.parent?.map Path.components).getD []
  let names := directories.filterMap fun
    | .name text => some text
    | _ => none
  (names ++ path.stem?.toList).map fun name => String.ofList (lowercase name)

def trimUnderscores (cs : List Char) : List Char :=
  ((cs.dropWhile (· == '_')).reverse.dropWhile (· == '_')).reverse

/-- A lowercase name with underscores for all but ASCII letters and digits. -/
def slug (name : List Char) : List Char :=
  trimUnderscores ((lowercase name).map fun c =>
    if isAsciiLetter c || isAsciiDigit c then c else '_')

/-- The deepest segment of `path` that is an allowed component; else the slug of
the directory of the file, when it begins with a letter; else `misc`. -/
def suggestComponent (path : String) (allowed : List String) : String :=
  let p := Path.ofString path
  match (segments p).reverse.find? allowed.contains with
  | some segment => segment
  | none =>
      let directory := ((p.parent?.bind Path.fileName?).map slug).getD []
      match directory with
      | c :: _ => if isAsciiLetter c then String.ofList directory else "misc"
      | [] => "misc"

end TagAudit.Schema
