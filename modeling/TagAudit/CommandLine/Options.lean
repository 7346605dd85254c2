import TagAudit.Text.Basic

/-! Reading the words of a command line as options.  An option takes the next word as
its value unless that word looks like an option itself.  It is noted when the next
option begins or the words end; only then do a missing value and a repetition show. -/

namespace TagAudit

open Text

inductive UsageError where
  | helpWanted
  | versionWanted
  /-- There are no arguments at all. -/
  | nothingGiven
  | missingSubcommand
  | unknownSubcommand
  | unknownArgument
  /-- An option that may be given once is given again. -/
  | givenTwice
  | missingValue
  /-- A value is attached to an option that takes none. -/
  | unexpectedValue
deriving DecidableEq, Repr

/-- Asking for help or the version is no failure. -/
def UsageError.exitCode : UsageError → Nat
  | helpWanted | versionWanted => 0
  | _ => 2

inductive OptionKind where
  | flag
  | single
  | many
  | count
  | help
  | version
deriving DecidableEq, Repr

def OptionKind.takesValue (kind : OptionKind) : Bool :=
  kind == .single || kind == .many

structure OptionSpec where
  name : String
  short : Option Char
  kind : OptionKind
deriving DecidableEq, Repr

/-- The options that were noted, in order, and the one that still waits for its value or
for being noted. -/
structure GivenOptions where
  noted : List (String × String)
  pending : Option (OptionSpec × Option String)
deriving DecidableEq, Repr

namespace GivenOptions

def empty : GivenOptions := ⟨[], none⟩

def has (given : GivenOptions) (name : String) : Bool :=
  given.noted.any (·.1 == name)

def values (given : GivenOptions) (name : String) : List String :=
  (given.noted.filter (·.1 == name)).map Prod.snd

def value? (given : GivenOptions) (name : String) : Option String :=
  (given.values name).head?

/-- How often a counted option was given; the count stops at 255. -/
def count (given : GivenOptions) (name : String) : Nat :=
  min (given.values name).length 255

def note (given : GivenOptions) (option : OptionSpec) (value : String) :
    Except UsageError GivenOptions :=
  let added := { given with noted := given.noted ++ [(option.name, value)] }
  match option.kind with
  | .flag | .single => if given.has option.name then .error .givenTwice else .ok added
  | .many | .count => .ok added
  | .help => .error .helpWanted
  | .version => .error .versionWanted

def settle (given : GivenOptions) : Except UsageError GivenOptions :=
  match given.pending with
  | none => .ok given
  | some (_, none) => .error .missingValue
  | some (option, some value) => { given with pending := none }.note option value

def take (given : GivenOptions) (option : OptionSpec) (attached : Option String) :
    Except UsageError GivenOptions :=
  match option.kind.takesValue, attached with
  | true, some value => do (← given.settle).note option value
  | true, none => do return { ← given.settle with pending := some (option, none) }
  | false, some _ => .error .unexpectedValue
  | false, none => do (← given.settle).note option ""

def takeShort (options : List OptionSpec) : GivenOptions → List Char →
    Except UsageError GivenOptions
  | given, [] => .ok given
  | given, c :: rest => do
      match options.find? (·.short == some c) with
      | some option => takeShort options (← given.take option none) rest
      | none => .error .unknownArgument

def takeLong (options : List OptionSpec) (given : GivenOptions) (text : List Char) :
    Except UsageError GivenOptions :=
  let (name, attached) := match splitAt? '=' text with
    | some (name, value) => (name, some (String.ofList value))
    | none => (text, none)
  match options.find? (·.name == String.ofList name) with
  | some option => given.take option attached
  | none => .error .unknownArgument

end GivenOptions

inductive Word where
  /-- The word `--`, after which no word is an option. -/
  | dashes
  | long (text : List Char)
  | short (letters : List Char)
  | plain (text : String)
deriving DecidableEq, Repr

def Word.ofString (text : String) : Word :=
  match text.toList with
  | ['-', '-'] => .dashes
  | '-' :: '-' :: rest => .long rest
  | '-' :: c :: rest => .short (c :: rest)
  | _ => .plain text

def readOptions (options : List OptionSpec) : GivenOptions → List String →
    Except UsageError GivenOptions
  | given, [] => given.settle
  | given, word :: rest =>
      match Word.ofString word with
      | .dashes => if rest.isEmpty then given.settle else .error .unknownArgument
      | .long text => do readOptions options (← given.takeLong options text) rest
      | .short letters => do readOptions options (← given.takeShort options letters) rest
      | .plain value =>
          match given.pending with
          | some (option, none) =>
              readOptions options { given with pending := some (option, some value) } rest
          | _ => .error .unknownArgument

end TagAudit
