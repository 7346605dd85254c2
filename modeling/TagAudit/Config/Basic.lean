import TagAudit.Toml.Document
import TagAudit.Yaml.Value

/-! Configuration files: what their entries say, whether they are written in TOML or in
YAML.  Entries of other names are passed over. -/

namespace TagAudit

inductive OutputMode where
  | human
  | json
deriving DecidableEq, Repr

namespace OutputMode

def name : OutputMode → String
  | human => "human"
  | json => "json"

def ofName? : String → Option OutputMode
  | "human" => some human
  | "json" => some json
  | _ => none

end OutputMode

structure SearchConfig where
  contextLines : Option Nat
deriving DecidableEq, Repr

structure Config where
  roots : Option (List String)
  schema : Option String
  output : Option OutputMode
  ci : Option Bool
  extensions : Option (List String)
  exclude : Option (List String)
  search : Option SearchConfig
deriving DecidableEq, Repr

def Config.empty : Config := ⟨none, none, none, none, none, none, none⟩

/-- The numbers of lines and the like that can be given. -/
def Config.fits (n : Int) : Bool :=
  0 ≤ n && n < Int.ofNat (Text.bitLimit 64)

namespace Toml

inductive ConfigFault where
  | notToml (cause : TomlError)
  /-- The entry `name` has a value that it cannot have. -/
  | badEntry (name : String)
deriving DecidableEq, Repr

namespace Item

def text? : Item → Option String
  | text s => some s
  | _ => none

def texts? : Item → Option (List String)
  | array items => items.mapM text?
  | _ => none

def bool? : Item → Option Bool
  | bool b => some b
  | _ => none

def natural? : Item → Option Nat
  | integer n => if Config.fits n then some n.toNat else none
  | _ => none

def isEmpty : Item → Bool
  | array [] => true
  | table _ [] => true
  | _ => false

/-- An output mode by its name, or as the one key of a table that holds nothing. -/
def outputMode? : Item → Option OutputMode
  | text s => OutputMode.ofName? s
  | table _ [(name, item)] => if item.isEmpty then OutputMode.ofName? name else none
  | _ => none

def field? (entries : Entries) (name : String) (read : Item → Option α) :
    Except ConfigFault (Option α) :=
  match entries.lookup name with
  | none => .ok none
  | some item =>
      match read item with
      | some value => .ok (some value)
      | none => .error (.badEntry name)

/-- The search part, as a table or as a list of its values.  A date or a time is a
table of other entries. -/
def search? : Item → Option SearchConfig
  | table _ entries => ((field? entries "context_lines" natural?).toOption).map SearchConfig.mk
  | array (first :: _) => (first.natural?).map fun n => ⟨some n⟩
  | moment => some ⟨none⟩
  | _ => none

end Item

open Item in
def configOf (entries : Entries) : Except ConfigFault Config := do
  return {
    roots := ← field? entries "roots" texts?,
    schema := ← field? entries "schema" text?,
    output := ← field? entries "output" outputMode?,
    ci := ← field? entries "ci" bool?,
    extensions := ← field? entries "extensions" texts?,
    exclude := ← field? entries "exclude" texts?,
    search := ← field? entries "search" search? }

def readConfig (text : String) : Except ConfigFault Config :=
  match read text with
  | .error cause => .error (.notToml cause)
  | .ok entries => configOf entries

end Toml

namespace Yaml

inductive ConfigFault where
  | notYaml (cause : YamlError)
  | badShape (cause : ShapeError)
deriving DecidableEq, Repr

namespace Document

def optionalField (doc : Document) (fields : List (String × Node)) (name : String)
    (read : Node → Except ShapeError α) : Except ShapeError (Option α) := do
  match ← field name fields with
  | none => return none
  | some node => if ← doc.isNull node then return none else return some (← read node)

def textsOf (doc : Document) (node : Node) : Except ShapeError (List String) := do
  (← doc.items node).mapM doc.scalarText

/-- The name of an output mode, as text or as the tag of a node that is left out. -/
def modeName (doc : Document) (node : Node) : Except ShapeError String :=
  match doc.resolve node with
  | .scalar (some tag) style text =>
      if !Scalar.isLocalTag tag then .ok text
      else if style = .plain && (text.isEmpty || Scalar.isNull text) then
        .ok (String.ofList (tag.toList.drop 1))
      else .error .unexpectedType
  | _ => doc.scalarText node

def outputModeOf (doc : Document) (node : Node) : Except ShapeError OutputMode := do
  match OutputMode.ofName? (← doc.modeName node) with
  | some mode => return mode
  | none => .error .unexpectedType

def searchOf (doc : Document) (node : Node) : Except ShapeError SearchConfig := do
  return ⟨← doc.optionalField (← doc.entries node) "context_lines" doc.naturalOf⟩

def config (doc : Document) : Except ShapeError Config := do
  match doc.node with
  | none => return .empty
  | some node =>
      let fields ← doc.entries node
      return {
        roots := ← doc.optionalField fields "roots" doc.textsOf,
        schema := ← doc.optionalField fields "schema" doc.scalarText,
        output := ← doc.optionalField fields "output" doc.outputModeOf,
        ci := ← doc.optionalField fields "ci" doc.boolOf,
        extensions := ← doc.optionalField fields "extensions" doc.textsOf,
        exclude := ← doc.optionalField fields "exclude" doc.textsOf,
        search := ← doc.optionalField fields "search" doc.searchOf }

end Document

def readConfig (text : String) : Except ConfigFault Config :=
  match Document.read text with
  | .error cause => .error (.notYaml cause)
  | .ok doc => doc.config.mapError .badShape

end Yaml

end TagAudit
