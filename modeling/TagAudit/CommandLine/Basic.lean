import TagAudit.CommandLine.Options

/-! The command line: a subcommand with its options, and how verbose the log is. -/

namespace TagAudit

structure TargetOptions where
  repoRoot : Option String
  files : List String
  directories : List String
  all : Bool
  schema : Option String
  json : Bool
deriving DecidableEq, Repr

inductive Subcommand where
  | version
  | validate (targets : TargetOptions) (fix ci : Bool)
  | search (targets : TargetOptions) (tag : Option String) (listTags showContext : Bool)
  | index (targets : TargetOptions) (out : Option String)
deriving DecidableEq, Repr

structure CommandLine where
  verbose : Nat
  command : Subcommand
deriving DecidableEq, Repr

namespace CommandLine

def verboseOption : OptionSpec := ⟨"verbose", some 'v', .count⟩

def helpOption : OptionSpec := ⟨"help", some 'h', .help⟩

def versionOption : OptionSpec := ⟨"version", some 'V', .version⟩

def targetOptions : List OptionSpec := [
  ⟨"repo-root", none, .single⟩, ⟨"file", none, .many⟩, ⟨"directory", none, .many⟩,
  ⟨"all", none, .flag⟩, ⟨"schema", none, .single⟩, ⟨"json", none, .flag⟩]

def targets (given : GivenOptions) : TargetOptions :=
  { repoRoot := given.value? "repo-root", files := given.values "file",
    directories := given.values "directory", all := given.has "all",
    schema := given.value? "schema", json := given.has "json" }

/-- The options of a subcommand, and the subcommand that they make. -/
structure SubcommandSpec where
  options : List OptionSpec
  make : GivenOptions → Subcommand

def subcommand? (name : String) : Option SubcommandSpec :=
  match name with
  | "version" => some ⟨[], fun _ => .version⟩
  | "validate" =>
      some ⟨targetOptions ++ [⟨"fix", none, .flag⟩, ⟨"ci", none, .flag⟩],
        fun given => .validate (targets given) (given.has "fix") (given.has "ci")⟩
  | "search" =>
      some ⟨targetOptions ++ [⟨"tag", none, .single⟩, ⟨"list-tags", none, .flag⟩,
          ⟨"show-context", none, .flag⟩],
        fun given => .search (targets given) (given.value? "tag") (given.has "list-tags")
          (given.has "show-context")⟩
  | "index" =>
      some ⟨targetOptions ++ [⟨"out", none, .single⟩],
        fun given => .index (targets given) (given.value? "out")⟩
  | _ => none

def readHelp : List String → UsageError
  | [] | ["help"] => .helpWanted
  | [name] => if (subcommand? name).isSome then .helpWanted else .unknownSubcommand
  | _ => .unknownSubcommand

def withoutSubcommand (given : GivenOptions) : UsageError :=
  if given.noted.isEmpty then .nothingGiven else .missingSubcommand

/-- Reads a subcommand.  Its own `-v` flags win over those before it. -/
def readSubcommand (spec : SubcommandSpec) (before : GivenOptions) (words : List String) :
    Except UsageError CommandLine := do
  let given ← readOptions (verboseOption :: helpOption :: spec.options) .empty words
  let verbose := if given.has "verbose" then given.count "verbose" else before.count "verbose"
  return ⟨verbose, spec.make given⟩

def readFrom (given : GivenOptions) : List String → Except UsageError CommandLine
  | [] => .error (withoutSubcommand given)
  | word :: rest =>
      let options := [verboseOption, helpOption, versionOption]
      match Word.ofString word with
      | .dashes =>
          match rest with
          | [] => .error (withoutSubcommand given)
          | name :: _ =>
              if (subcommand? name).isSome || name == "help" then .error .unknownArgument
              else .error .unknownSubcommand
      | .long text => do readFrom (← given.takeLong options text) rest
      | .short letters => do readFrom (← given.takeShort options letters) rest
      | .plain name =>
          if name == "help" then .error (readHelp rest)
          else
            match subcommand? name with
            | some spec => readSubcommand spec given rest
            | none => .error .unknownSubcommand

def read (arguments : List String) : Except UsageError CommandLine :=
  readFrom .empty arguments

end CommandLine

end TagAudit
