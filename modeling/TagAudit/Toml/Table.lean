import TagAudit.Text.Basic

/-! Tables of a TOML document while it is read.  A table that a header names may be named
once; one that only leads to others may still be named; one made by dotted keys takes
more dotted keys; and one written between braces is complete. -/

namespace TagAudit.Toml

inductive TomlError where
  /-- A line, key or value is not written as it must be. -/
  | malformed
  /-- A key or table is given again, or what it leads through is no table. -/
  | conflict
  | tooDeep
deriving DecidableEq, Repr

inductive TableOrigin where
  | header
  | implied
  | dotted
  | inline
deriving DecidableEq, Repr

inductive Item where
  | text (s : String)
  | integer (n : Int)
  | float
  | bool (b : Bool)
  /-- A date, a time or both. -/
  | moment
  | array (items : List Item)
  | table (origin : TableOrigin) (entries : List (String × Item))
  /-- The tables of headers in double brackets, the last of which is being written. -/
  | tables (list : List (List (String × Item)))
deriving Repr

abbrev Entries := List (String × Item)

namespace Entries

def replace (entries : Entries) (key : String) (item : Item) : Entries :=
  entries.map fun entry => if entry.1 == key then (key, item) else entry

def changeLast (change : Entries → Except TomlError Entries) (list : List Entries) :
    Except TomlError (List Entries) :=
  match list.reverse with
  | [] => .error .conflict
  | last :: before => (change last).map fun last => (last :: before).reverse

/-- Changes the table that the keys of a header lead to.  Tables that are not there yet
are implied. -/
def changeAt (change : Entries → Except TomlError Entries) :
    List String → Entries → Except TomlError Entries
  | [], entries => change entries
  | key :: path, entries =>
      match entries.lookup key with
      | none => do return entries ++ [(key, .table .implied (← changeAt change path []))]
      | some (.table .inline _) => .error .conflict
      | some (.table origin inner) => do
          return entries.replace key (.table origin (← changeAt change path inner))
      | some (.tables list) => do
          return entries.replace key (.tables (← changeLast (changeAt change path) list))
      | some _ => .error .conflict

def openTable (key : String) (entries : Entries) : Except TomlError Entries :=
  match entries.lookup key with
  | none => .ok (entries ++ [(key, .table .header [])])
  | some (.table .implied inner) => .ok (entries.replace key (.table .header inner))
  | some _ => .error .conflict

def openElement (key : String) (entries : Entries) : Except TomlError Entries :=
  match entries.lookup key with
  | none => .ok (entries ++ [(key, .tables [[]])])
  | some (.tables list) => .ok (entries.replace key (.tables (list ++ [[]])))
  | some _ => .error .conflict

/-- Adds an item under a dotted key.  Only the table whose lines are being read, and those
made by dotted keys, are `open` for new items. -/
def insertDotted (item : Item) : Bool → List String → Entries → Except TomlError Entries
  | _, [], _ => .error .malformed
  | isOpen, [key], entries =>
      if isOpen && (entries.lookup key).isNone then .ok (entries ++ [(key, item)])
      else .error .conflict
  | _, key :: next :: path, entries =>
      match entries.lookup key with
      | none => do
          return entries ++ [(key, .table .dotted (← insertDotted item true (next :: path) []))]
      | some (.table .dotted inner) => do
          return entries.replace key
            (.table .dotted (← insertDotted item true (next :: path) inner))
      | some (.table .implied inner) => do
          return entries.replace key
            (.table .implied (← insertDotted item false (next :: path) inner))
      | some (.tables list) => do
          return entries.replace key
            (.tables (← changeLast (insertDotted item false (next :: path)) list))
      | some _ => .error .conflict

end Entries

end TagAudit.Toml
