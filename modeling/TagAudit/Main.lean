import TagAudit.Command

/-! The command line on the real file system.  What a run can look at is copied into a
disk, the run is made there, and the files that it leaves changed are written. -/

namespace TagAudit

namespace Snapshot

def locationOf (path : String) : Location :=
  (Path.ofString path).steps.filterMap fun
    | .into name => some name
    | _ => none

def textOf (place : Location) : String :=
  place.toPath.toString

def way (place : Location) : List Location :=
  (List.range (place.length + 1)).map fun count => place.take count

/-- Copies the bytes of a file, or none where only its name matters. -/
def copyBytes (place : Location) (withBytes : Bool) : IO ByteArray :=
  if withBytes then IO.FS.readBinFile (textOf place) else return .empty

def copyNode (disk : Disk) (place : Location) (withBytes : Bool) : IO Disk := do
  try
    let entry := (← IO.currentDir) / textOf place
    match (← entry.symlinkMetadata).type with
    | .dir => return disk.put place .directory
    | .file => return disk.put place (.file (← copyBytes place withBytes))
    | .symlink =>
        let target ← try pure (← IO.FS.realPath entry).toString catch _ => pure "/dev/null/none"
        return disk.put place (.link (.ofString target))
    | .other => return disk
  catch _ => return disk

/-- Copies what the names on the way to a place lead to. -/
def copyWay (disk : Disk) (place : Location) : IO Disk :=
  (way place).foldlM (fun disk place => copyNode disk place false) disk

/-- Copies what is below a place; of files only the configurations with their bytes. -/
partial def copyBelow (disk : Disk) (place : Location) : IO Disk := do
  let name := place.getLastD ""
  let disk ← copyNode disk place (Config.fileNames.contains name)
  match disk.kind? place with
  | some .directory =>
      try
        let entries ← ((← IO.currentDir) / textOf place).readDir
        entries.foldlM (fun disk entry => copyBelow disk (place ++ [entry.fileName])) disk
      catch _ => return disk
  | _ => return disk

/-- Copies the files that mark a directory and those above it as roots. -/
def copyMarks (disk : Disk) (place : Location) : IO Disk := do
  let disk ← copyWay disk place
  let names := Config.fileNames ++ [".git", Settings.defaultSchemaName]
  (way place).foldlM (fun disk place =>
    names.foldlM (fun disk name =>
      copyNode disk (place ++ [name]) (Config.fileNames.contains name)) disk) disk

def copyPath (disk : Disk) (path : Path) : IO Disk := do
  let disk ← copyWay disk (disk.here ++ locationOf path.toString)
  try
    let real := (← IO.FS.realPath ((← IO.currentDir) / path.toString)).toString
    copyBelow (← copyWay disk (locationOf path.toString)) (locationOf real)
  catch _ => return disk

def copyFile (disk : Disk) (path : Path) : IO Disk := do
  match disk.locate path .follow with
  | .ok (place, .file _) => copyNode disk place true
  | _ => return disk

def take (targets : TargetOptions) : IO Disk := do
  let here := locationOf (← IO.currentDir).toString
  let disk ← copyMarks (.empty here) here
  let start := Path.ofString (targets.repoRoot.getD ".")
  let disk ← copyPath disk start
  let disk ←
    match disk.canonical start with
    | .ok path => copyMarks disk (locationOf path.toString)
    | .error _ => pure disk
  let disk ← copyPath disk (Settings.rootOf disk (Command.overrides targets false))
  match Settings.resolve disk (Command.overrides targets false) with
  | .error _ => return disk
  | .ok settings =>
      let named := (targets.directories ++ targets.files).map Path.ofString ++ settings.roots
      let paths := settings.schema.toList ++ named.map settings.repoRoot.join
      let disk ← paths.foldlM copyPath disk
      let files := settings.schema.toList ++
        (Command.selected disk settings targets).map Target.path
      files.foldlM copyFile disk

def store (before after : Disk) : IO Unit := do
  for (place, node) in after.nodes do
    match node with
    | .file bytes =>
        let isOld := match before.node? place with
          | some (.file old) => old.data == bytes.data
          | _ => false
        if !isOld then IO.FS.writeBinFile (textOf place) bytes
    | _ => pure ()

end Snapshot

def UsageError.message : UsageError → String
  | .helpWanted | .nothingGiven | .missingSubcommand =>
      "usage: tagscope [-v] <version|validate|search|index> [options]"
  | .versionWanted => s!"tagscope {Command.version}"
  | .unknownSubcommand => "error: unrecognized subcommand"
  | .unknownArgument => "error: unexpected argument"
  | .givenTwice => "error: an argument is given more than once"
  | .missingValue => "error: an argument lacks its value"
  | .unexpectedValue => "error: an argument takes no value"

def Subcommand.targets? : Subcommand → Option TargetOptions
  | .version => none
  | .validate targets _ _ | .search targets _ _ _ | .index targets _ => some targets

def Subcommand.snapshot (command : Subcommand) : IO Disk := do
  match command.targets? with
  | none => return .empty []
  | some targets =>
      let disk ← Snapshot.take targets
      match command with
      | .index _ (some out) =>
          match (Path.ofString out).parent? with
          | some parent => Snapshot.copyPath disk parent
          | none => return disk
      | _ => return disk

end TagAudit

open TagAudit in
def main (arguments : List String) : IO UInt32 := do
  match CommandLine.read arguments with
  | .error e =>
      if e.exitCode = 0 then IO.println e.message else IO.eprintln e.message
      return e.exitCode.toUInt32
  | .ok line =>
      let disk := (← line.command.snapshot).withCommandLine ("tagscope" :: arguments)
      let noColor := (← IO.getEnv "NO_COLOR").isSome
      let filter := Log.Filter.ofSettings (← IO.getEnv "TAGSCOPE_LOG") line.verbose
      let outcome := Command.run ⟨disk, noColor⟩ line.command
      Snapshot.store disk outcome.disk
      IO.print outcome.outputText
      IO.eprint (outcome.noticesText filter)
      return outcome.exitCode.toUInt32
