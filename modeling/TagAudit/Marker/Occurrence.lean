import TagAudit.Marker.Token

/-! What a text says about one opening marker: the tag it opens, how the tag
ends and which part of the text it covers. -/

namespace TagAudit

inductive TagKind where
  /-- Wraps a part of the text and expects a closing marker. -/
  | primary
  /-- Names a `category:value` facet and stands alone. -/
  | dimension
deriving DecidableEq, Repr

def TagKind.name : TagKind → String
  | .primary => "primary"
  | .dimension => "dimension"

inductive Closure where
  /-- A later closing marker has the same name. -/
  | closed
  /-- A dimension tag, which is never closed. -/
  | marker
  /-- No closing marker, and little text follows. -/
  | bare
  /-- No closing marker, although substantial text follows. -/
  | unclosed
deriving DecidableEq, Repr

def Closure.name : Closure → String
  | .closed => "closed"
  | .marker => "marker"
  | .bare => "bare"
  | .unclosed => "unclosed"

structure Occurrence where
  tag : String
  file : String
  startLine : Nat
  endLine : Nat
  content : String
  kind : TagKind
  closure : Closure
  /-- Byte position of the opening marker. -/
  openOffset : Nat
  /-- Byte position where the missing closing marker belongs. -/
  insertOffset : Option Nat
deriving DecidableEq, Repr

/-- The parts of `category:value` at its first colon; neither may be empty. -/
def splitDimension (name : String) : Option (String × String) := do
  let (category, value) ← Text.splitAt? ':' name.toList
  if category.isEmpty || value.isEmpty then none
  else some (String.ofList category, String.ofList value)

namespace Occurrence

def dimension (o : Occurrence) : Option (String × String) :=
  match o.kind with
  | .dimension => splitDimension o.tag
  | .primary => none

def isPrimary (o : Occurrence) : Bool :=
  o.kind == .primary

end Occurrence

end TagAudit
