import TagAudit.Issue
import TagAudit.Path
import TagAudit.Marker.Scan
import TagAudit.Unicode.Word

/-! Repairs of a text.  A missing closing marker goes on a line of its own after
the unclosed region, behind the comment marker of the opening line.  A component
tag goes at the top of the file, below a shebang and an encoding declaration. -/

namespace TagAudit

open Text Unicode

structure Edit where
  offset : Nat
  text : String
deriving DecidableEq, Repr

inductive RepairError where
  /-- The opening marker is said to begin inside a character. -/
  | insideCharacter (openOffset : Nat)
deriving DecidableEq, Repr

namespace Edit

def compare (a b : Edit) : Ordering :=
  (Ord.compare a.offset b.offset).then (Ord.compare a.text b.text)

/-- The edits by offset and text, each once. -/
def sort (edits : List Edit) : List Edit :=
  (edits.mergeSort fun a b => (a.compare b).isLE).eraseReps

/-- Inserts edits, of which none comes before an earlier one, into a text that begins
at byte `pos`. -/
def insertFrom (pos : Nat) : List Edit → List Char → List Char
  | [], content => content
  | edit :: later, content =>
      takeBytes (edit.offset - pos) content ++ edit.text.toList ++
        insertFrom edit.offset later (dropBytes (edit.offset - pos) content)

def insertAll (edits : List Edit) (content : List Char) : List Char :=
  insertFrom 0 edits content

end Edit

namespace Repair

/-- What a line inserted for a marker begins with, where `before` is the text before that
marker on its line: its indentation and comment marker, or nothing when other text
stands there. -/
def lineLead (before : List Char) : List Char :=
  let indent := before.takeWhile isBlank
  let marker := trim before
  if !isCommentLead before then []
  else if marker.isEmpty then indent
  else indent ++ marker ++ [' ']

def commentOpening (extension : String) : String :=
  if ["py", "yaml", "yml", "sh", "toml", "rb", "txt"].contains extension then "# "
  else if ["rs", "js", "ts", "go", "c", "h", "cpp", "java"].contains extension then "// "
  else if ["sql", "lua"].contains extension then "-- "
  else if extension == "rst" then ".. "
  else ""

def commentOpeningOf (path : Path) : String :=
  commentOpening (String.ofList ((path.extension?.getD []).map asciiLower))

def namesEncoding (cs : List Char) : Bool :=
  match dropLead? ['c', 'o', 'd', 'i', 'n', 'g'] cs with
  | some (sign :: rest) =>
      (sign == ':' || sign == '=') &&
        match rest.dropWhile Marker.isGap with
        | c :: _ => c == '-' || c == '.' || isWord c
        | [] => false
  | _ => false

def mentionsEncoding : List Char → Bool
  | [] => false
  | c :: rest => c ≠ '\n' && (namesEncoding (c :: rest) || mentionsEncoding rest)

def declaresEncoding (line : List Char) : Bool :=
  match line.dropWhile fun c => Marker.isGap c || c == '\x0c' with
  | '#' :: rest => mentionsEncoding rest
  | _ => false

def isShebang : List Char → Bool
  | '#' :: '!' :: _ => true
  | _ => false

/-- Byte position below the lines that must stay on top: a shebang on the first
line and an encoding declaration on the first or the second. -/
def headerEnd (content : List Char) : Nat :=
  match linesWithEnds content with
  | [] => 0
  | first :: rest =>
      if isShebang first || declaresEncoding first then
        match rest with
        | second :: _ =>
            byteSize first + if declaresEncoding second then byteSize second else 0
        | [] => byteSize first
      else 0

def beginsLine : List Char → Bool
  | [] => true
  | '\n' :: _ => true
  | '\r' :: '\n' :: _ => true
  | _ => false

/-- The line of a missing closing marker and what goes around it, between `opening`, where
the opening marker begins, and what follows at `place`. -/
def closingLine (tag : String) (opening place : Place) : List Char :=
  let marker : Marker := ⟨tag.toList, true⟩
  '\n' :: lineLead opening.before ++ marker.render ++
    if beginsLine place.after then [] else ['\n']

/-- The edit that a repair of the file `path` makes.  A closing marker that belongs
past the end of the text or inside a character makes none. -/
def plan (path : Path) (content : List Char) : Repair → Except RepairError (Option Edit)
  | .close tag openOffset insertOffset =>
      match (Place.find? insertOffset content).filter (·.excess = 0) with
      | none => .ok none
      | some place =>
          match Place.find? openOffset content with
          | none => .error (.insideCharacter openOffset)
          | some opening =>
              .ok (some ⟨insertOffset, String.ofList (closingLine tag opening place)⟩)
  | .insertComponent value =>
      let offset := headerEnd content
      let above := takeBytes offset content
      let start := if above.isEmpty || above.getLast? == some '\n' then [] else ['\n']
      let marker : Marker := ⟨"component:".toList ++ value.toList, false⟩
      .ok (some ⟨offset,
        String.ofList (start ++ (commentOpeningOf path).toList ++ marker.render ++ ['\n'])⟩)

end Repair

structure Repaired where
  content : String
  applied : Nat
deriving DecidableEq, Repr

/-- Applies the repairs of the issues to the text of a file.  Equal edits are made
once, and neither order nor repetition of the issues matters. -/
def repair (file content : String) (issues : List Issue) : Except RepairError Repaired := do
  let planned ← (issues.filterMap Issue.repair).mapM
    (Repair.plan (Path.ofString file) content.toList)
  let edits := Edit.sort (planned.filterMap id)
  return ⟨String.ofList (Edit.insertAll edits content.toList), edits.length⟩

end TagAudit
