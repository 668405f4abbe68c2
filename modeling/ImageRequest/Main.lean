import ImageRequest.CommandLine
import Std.Time.DateTime.Timestamp

/-!
# The program

Reads the files, the variables and the clock that a command needs, runs it, and prints what it says.
-/

namespace ImageRequest

/-- Why a file could not be read. -/
def fileErrorOf : IO.Error → FileError
  | .noFileOrDirectory .. => .notFound
  | .inappropriateType _ 21 _ => .isDirectory
  | .inappropriateType .. => .notDirectory
  | .invalidArgument .. => .nameTooLong
  | .permissionDenied .. => .permissionDenied
  | error => .other (toString error)

/-- Read a file. -/
def readText (path : String) : IO (Except FileError String) := do
  if path.toList.contains Files.endOfPath then return .error .zeroInName
  try
    let bytes ← IO.FS.readBinFile path
    return match String.fromUTF8? bytes with
      | some text => .ok text
      | none => .error .notText
  catch error => return .error (fileErrorOf error)

/-- The files with some paths. -/
def readFiles (paths : List String) : IO Files := do
  let contents ← paths.mapM fun path => do return (path, ← readText path)
  return fun path => (contents.lookup path).getD (.error .notFound)

/-- The values of some variables. -/
def readEnvironment (names : List String) : IO Environment := do
  let values ← names.mapM fun name => do return (name, ← IO.getEnv name)
  return fun name => (values.lookup name).join

/-- The variables that the configuration of a command refers to. -/
def variablesOf (files : Files) (command : Command) : List String :=
  match command.configPath?.map files with
  | some (.ok text) => (Template.ofText text).names
  | _ => []

/-- The presets file that the configuration of a command names. -/
def presetsPathOf? (files : Files) (environment : Environment) (command : Command) :
    Option String :=
  (command.config files environment).toOption.bind fun config => config.processing.presetsPath?

/-- Run a command with the files and variables that it needs. -/
def runCommand (now : Int) (command : Command) : IO Output := do
  let configPaths := command.configPath?.toList
  let configFiles ← readFiles configPaths
  let environment ← readEnvironment (variablesOf configFiles command)
  let presetsPaths := (presetsPathOf? configFiles environment command).toList
  let files ← readFiles (configPaths ++ presetsPaths)
  return command.run files environment now

/-- Run the program with some arguments, and give the code that it ends with. -/
def perform (arguments : List String) : IO UInt32 := do
  let now := (← Std.Time.Timestamp.now).toSecondsSinceUnixEpoch.val
  let output ← match Command.ofArguments arguments with
    | .error halt => pure halt.toOutput
    | .ok command => runCommand now command
  (← IO.getStdout).putStr output.output
  (← IO.getStderr).putStr output.errors
  return output.code.toUInt32

end ImageRequest

/-- The program. -/
def main (arguments : List String) : IO UInt32 :=
  ImageRequest.perform arguments
