import TagAudit.Text.Basic
import TagAudit.Unicode.Age
import TagAudit.Unicode.Boundary
import TagAudit.Unicode.ScriptExtension

/-! Classes of characters by the names of Unicode properties and their values. -/

namespace TagAudit.Unicode

open Text

/-- Names are compared without case, blanks, hyphens, underscores and a leading `is`. -/
def looseName (name : List Char) : String :=
  let (stripped, name) := match name with
    | i :: s :: rest => if asciiLower i == 'i' && asciiLower s == 's' then (true, rest)
        else (false, name)
    | _ => (false, name)
  let kept := name.filter fun c => !(c == ' ' || c == '_' || c == '-') && c.toNat < 0x80
  let loose := String.ofList (kept.map asciiLower)
  if stripped && loose == "c" then "isc" else loose

def namedClass? (name : List Char) : Option CharSet :=
  let name := looseName name
  (property? name).or ((category? name).or (script? name))

def valuedClass? (property value : List Char) : Option CharSet :=
  let value := looseName value
  match looseName property with
  | "gc" | "generalcategory" => category? value
  | "sc" | "script" => script? value
  | "scx" | "scriptextensions" => scriptExtension? value
  | "age" => age? value
  | "gcb" | "graphemeclusterbreak" => graphemeBreak? value
  | "sb" | "sentencebreak" => sentenceBreak? value
  | "wb" | "wordbreak" => wordBreak? value
  | _ => none

def asciiClass? : String → Option CharSet
  | "alnum" => some (.ofTable "30-39 41-5A 61-7A")
  | "alpha" => some (.ofTable "41-5A 61-7A")
  | "ascii" => some (.range 0 0x7F)
  | "blank" => some (.ofTable "9 20")
  | "cntrl" => some (.ofTable "0-1F 7F")
  | "digit" => some (.range 0x30 0x39)
  | "graph" => some (.range 0x21 0x7E)
  | "lower" => some (.range 0x61 0x7A)
  | "print" => some (.range 0x20 0x7E)
  | "punct" => some (.ofTable "21-2F 3A-40 5B-60 7B-7E")
  | "space" => some (.ofTable "9-D 20")
  | "upper" => some (.range 0x41 0x5A)
  | "word" => some (.ofTable "30-39 41-5A 5F 61-7A")
  | "xdigit" => some (.ofTable "30-39 41-46 61-66")
  | _ => none

end TagAudit.Unicode
