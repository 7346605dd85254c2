import TagAudit.Text.Basic

/-! Slash-separated paths.  A path keeps the text it was given; two paths
name the same place in the same way when their components agree. -/

namespace TagAudit

open Text

inductive Component where
  | root
  /-- A leading `.`; any other `.` is no component. -/
  | current
  | parent
  | name (text : List Char)
deriving DecidableEq, Repr

namespace Component

def text : Component → List Char
  | root => ['/']
  | current => ['.']
  | parent => ['.', '.']
  | name text => text

def rank : Component → Nat
  | root => 0
  | current => 1
  | parent => 2
  | name _ => 3

def ofPiece? (piece : List Char) : Option Component :=
  if piece = [] || piece = ['.'] then none
  else if piece = ['.', '.'] then some parent
  else some (name piece)

def compare (a b : Component) : Ordering :=
  match a, b with
  | name s, name t => Ord.compare (String.ofList s) (String.ofList t)
  | _, _ => Ord.compare a.rank b.rank

end Component

structure Path where
  text : List Char
deriving DecidableEq, Repr

namespace Path

def ofString (s : String) : Path := ⟨s.toList⟩

def toString (p : Path) : String := String.ofList p.text

def isAbsolute (p : Path) : Bool :=
  p.text.head? == some '/'

/-- The root or leading `.` of a path, and the pieces between its slashes. -/
def anatomy (p : Path) : List Component × List (List Char) :=
  match p.text with
  | '/' :: rest => ([.root], splitOn '/' rest)
  | ['.'] => ([.current], [])
  | '.' :: '/' :: rest => ([.current], [] :: splitOn '/' rest)
  | cs => ([], splitOn '/' cs)

/-- The steps of a path; repeated slashes and inner `.` leave none. -/
def components (p : Path) : List Component :=
  let (lead, pieces) := p.anatomy
  lead ++ pieces.filterMap Component.ofPiece?

/-- Order by components: a path precedes those that it leads to. -/
def compareComponents : List Component → List Component → Ordering
  | [], [] => .eq
  | [], _ :: _ => .lt
  | _ :: _, [] => .gt
  | a :: as, b :: bs => (a.compare b).then (compareComponents as bs)

def compare (p q : Path) : Ordering :=
  compareComponents p.components q.components

def isVoid (piece : List Char) : Bool :=
  (Component.ofPiece? piece).isNone

def trimVoid (pieces : List (List Char)) : List (List Char) :=
  (pieces.reverse.dropWhile isVoid).reverse

def joinPieces (pieces : List (List Char)) : List Char :=
  ['/'].intercalate pieces

/-- The path without its last component; the root has no parent. -/
def parent? (p : Path) : Option Path :=
  let (lead, pieces) := p.anatomy
  let leadText := lead.flatMap Component.text
  match (trimVoid pieces).reverse with
  | _ :: rest => some ⟨leadText ++ joinPieces (trimVoid rest.reverse)⟩
  | [] =>
      match lead with
      | [.current] => some ⟨[]⟩
      | _ => none

def fileName? (p : Path) : Option (List Char) :=
  match p.components.getLast? with
  | some (.name name) => some name
  | _ => none

/-- The parts of a file name before and after its last dot; a dot at the start
of the name begins no extension. -/
def splitName (name : List Char) : List Char × Option (List Char) :=
  match splitAt? '.' name.reverse with
  | none => (name, none)
  | some (_, []) => (name, none)
  | some (after, before) => (before.reverse, some after.reverse)

def stem? (p : Path) : Option (List Char) :=
  p.fileName?.map fun name => (splitName name).1

def extension? (p : Path) : Option (List Char) :=
  p.fileName?.bind fun name => (splitName name).2

/-- The place that `q` names when seen from `p`. -/
def join (p q : Path) : Path :=
  if q.isAbsolute || p.text = [] then q
  else if p.text.getLast? = some '/' then ⟨p.text ++ q.text⟩
  else ⟨p.text ++ '/' :: q.text⟩

def dropBase? : List Component → List Component → Option (List Component)
  | [], components => some components
  | _ :: _, [] => none
  | b :: base, c :: components => if b = c then dropBase? base components else none

def textAfter (count : Nat) (p : Path) : List Char :=
  let (lead, pieces) := p.anatomy
  if count = 0 then lead.flatMap Component.text ++ joinPieces (trimVoid pieces)
  else
    let rec dropPieces : Nat → List (List Char) → List (List Char)
      | _, [] => []
      | count, piece :: rest =>
          if isVoid piece then dropPieces count rest
          else
            match count with
            | 0 => piece :: rest
            | count + 1 => dropPieces count rest
    joinPieces (trimVoid (dropPieces (count - lead.length) pieces))

/-- The path shown to users: relative to `root` when it lies strictly below it
and does not continue with `..`; with slashes for backslashes. -/
def display (root p : Path) : String :=
  let shown : Option (List Char) :=
    match dropBase? root.components p.components with
    | none | some [] | some (.parent :: _) => none
    | some extra =>
        if p.isAbsolute && root.isAbsolute then
          some (joinPieces (extra.map Component.text))
        else some (p.textAfter root.components.length)
  String.ofList ((shown.getD p.text).map fun c => if c = '\\' then '/' else c)

end Path

end TagAudit
