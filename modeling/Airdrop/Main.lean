import Airdrop.Command.Program

/-!
# Main — the program in its surroundings

Reads what the program may need from the disk and the environment, runs it, and prints what it has
to say.
-/

namespace Airdrop.Main

/-- The number of an error, which some calls give with a minus sign. -/
def errorNumber (code : UInt32) : UInt32 := min code (0 - code)

/-- Why a file could not be read. -/
def faultOf : IO.Error → FileFault
  | .inappropriateType _ code _ => if errorNumber code = 20 then .notDirectory else .isDirectory
  | .invalidArgument _ code _ => if errorNumber code = 36 then .nameTooLong else .notFound
  | .permissionDenied .. => .denied
  | _ => .notFound

/-- A file of the disk. -/
def readFile (path : String) : IO (Except FileFault (List UInt8)) := do
  try
    return .ok (← IO.FS.readBinFile path).toList
  catch e => return .error (faultOf e)

/-- A directory of the disk, with its files. -/
def readDirectory (path : String) : IO (Except FileFault Directory) := do
  try
    let mut entries := #[]
    for found in ← (System.mkFilePath [path]).readDir do
      if ← found.path.isDir then entries := entries.push (found.fileName, Entry.folder)
      else
        match ← readFile (joinPath path found.fileName) with
        | .ok content => entries := entries.push (found.fileName, Entry.file content)
        | .error fault => return .error fault
    return .ok entries.toList
  catch e => return .error (faultOf e)

/-- The files that an invocation reads. -/
def filesOf (i : Invocation) : List String :=
  i.keypairPath.toList ++ match i.command with
    | .allDistributorsStats path => [path]
    | .claimStatuses _ (.listed path) => [path]
    | .verify _ table _ _ => [table]
    | _ => []

/-- The directories that an invocation reads. -/
def directoriesOf (i : Invocation) : List String :=
  match i.command with
  | .verify _ _ _ trees => trees.toList
  | _ => []

/-- The file system with what has been read. -/
def fileSystem (files : List (String × Except FileFault (List UInt8)))
    (directories : List (String × Except FileFault Directory)) : FileSystem where
  readFile path := (files.lookup path).getD (.error .notFound)
  readDirectory path := (directories.lookup path).getD (.error .notFound)

/-- The names of variables that options or a file of variables could ask for. -/
def variableNames (file : Except FileFault (List UInt8)) : List String :=
  let options := Invocation.ownOptions ++ Invocation.forms.flatMap (·.options)
  let text := Text.Utf8.decodeLossy (file.toOption.getD [])
  let pieces := fun isNameChar : Char → Bool => (text.splitOnP (!isNameChar ·)).map String.ofList
  let names := pieces Variables.isKeyChar ++ pieces Text.isAlphanumeric
  options.map (variableName ·.name) ++ names.filter (· ≠ "")

/-- The variables of the environment. -/
def readVariables (names : List String) : IO Variables := do
  let values ← names.mapM fun name => return (← IO.getEnv name).map (name, ·)
  return values.filterMap id

end Airdrop.Main

open Airdrop in
/-- **Run the program on its arguments.** -/
def main (words : List String) : IO UInt32 := do
  let file ← Main.readFile World.variablesFile
  let environment ← Main.readVariables (Main.variableNames file)
  let noted := [(World.variablesFile, file)]
  let known := (World.alone (Main.fileSystem noted [])).allVariables environment
  let (files, directories) := match known.toOption.map (Invocation.ofWords · words) with
    | some (.ok invocation) => (Main.filesOf invocation, Main.directoriesOf invocation)
    | _ => ([], [])
  let files ← files.mapM fun path => return (path, ← Main.readFile path)
  let directories ← directories.mapM fun path => return (path, ← Main.readDirectory path)
  let ending :=
    (World.alone (Main.fileSystem (noted ++ files) directories)).program environment words
  IO.print ending.output
  IO.eprint ending.complaint
  return ending.code
