import TagAudit.Unicode.Latest

/-! Log events and the lines that show them. -/

namespace TagAudit.Log

inductive Level where
  | warn
  | info
  | debug
deriving DecidableEq, Repr

namespace Level

/-- Events of a higher rank matter less; rank 1 is left to errors. -/
def rank : Level → Nat
  | warn => 2
  | info => 3
  | debug => 4

def label : Level → String
  | warn => " WARN"
  | info => " INFO"
  | debug => "DEBUG"

end Level

/-- The part of the program that an event comes from. -/
inductive Area where
  | command
  | config
  | schema
  | walk
  | check
  | index
deriving DecidableEq, Repr

def Area.target : Area → String
  | command => "tagscope"
  | config => "tagscope::config"
  | schema => "tagscope::models::schema"
  | walk => "tagscope::walk"
  | check => "tagscope::validate"
  | index => "tagscope::index"

structure Event where
  level : Level
  area : Area
  message : String
  fields : List (String × String)
deriving DecidableEq, Repr

namespace Event

/-- The message is a field as well. -/
def hasField (event : Event) (name : String) : Bool :=
  name == "message" || event.fields.any (·.1 == name)

def render (event : Event) : String :=
  let fields := event.fields.map fun (name, value) => s!" {name}={value}"
  s!"{event.level.label} {event.message}" ++ "".intercalate fields

end Event

def numbered (c : Char) : String :=
  "\\u\x7b" ++ String.ofList (Nat.toDigits 16 c.toNat) ++ "\x7d"

def quotedChar (c : Char) : String :=
  match c with
  | '"' => "\\\""
  | '\\' => "\\\\"
  | '\n' => "\\n"
  | '\r' => "\\r"
  | '\t' => "\\t"
  | '\x00' => "\\0"
  | c =>
      if Unicode.extendsGrapheme c || !Unicode.isPrintable c then numbered c else c.toString

def quoted (text : String) : String :=
  "\"" ++ "".intercalate (text.toList.map quotedChar) ++ "\""

end TagAudit.Log
