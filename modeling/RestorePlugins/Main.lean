import RestorePlugins.CommandLine.Run
import RestorePlugins.Files.Listening
import RestorePlugins.Files.Store
import RestorePlugins.Plugin.Builtin
import Std.Time.Date.PlainDate
import Std.Time.DateTime.Timestamp

/-!
# The client as a program

The program reads the files that a command names, runs the command with a host of the built-in
plugins in the same process, prints what the command prints and writes the files that it makes.
The catalogues of that host live as long as the process.
-/

namespace RestorePlugins.CommandLine

open Files (FileSystem)

/-! ### Files -/

/-- The files that a command reads. -/
def Command.documents : Command → List String
  | .execute _ item itemFromBackup restore => item :: itemFromBackup.toList ++ restore.toList
  | .volumeId _ pv => [pv]
  | .setVolumeId _ pv _ => [pv]
  | _ => []

/-- Adds what is at a path. -/
def loadPath (fs : FileSystem) (path : String) : IO FileSystem := do
  match ← (IO.FS.readBinFile path).toBaseIO with
  | .ok content =>
    let fs := (Files.makeParents fs path).2
    return (fs.create path content.toList).toOption.getD fs
  | .error (.inappropriateType ..) => return (fs.makeDirectories path).2
  | .error _ => return fs

/-- Writes the files of a directory. -/
def storeDirectory (fs : FileSystem) (directory : String) : IO Unit := do
  IO.FS.createDirAll directory
  for name in fs.list directory do
    let path := Files.join directory name
    if let .ok content := fs.read path then
      IO.FS.writeBinFile path (ByteArray.mk content.toArray)

/-- Writes the files that a command made. -/
def storeResults (fs : FileSystem) : Command → IO Unit
  | .completions directory _ => storeDirectory fs directory
  | .manual directory => storeDirectory fs directory
  | _ => pure ()

/-- The commands, one a line. -/
def commandLines : Bytes :=
  utf8 (String.join (clientProgram.grammar.names.reverse.map fun words =>
    " ".intercalate (clientName :: words) ++ "\n"))

/-- Scripts and pages that list the commands. -/
def listings : Documentation := ⟨fun _ => commandLines, fun _ => commandLines⟩

/-! ### Chance and time -/

/-- A number in at least two digits. -/
def twoDigits (n : Nat) : String := if n < 10 then "0" ++ toString n else toString n

/-- The present second. -/
def presentTime : IO String := do
  let seconds := (← Std.Time.Timestamp.now).toSecondsSinceUnixEpoch.val
  let date := Std.Time.PlainDate.ofEpochDay ⟨seconds / 86400⟩
  let rest := (seconds % 86400).toNat
  return toString date.year.toInt ++ "-" ++ twoDigits date.month.val.toNat ++ "-"
    ++ twoDigits date.day.val.toNat ++ "T" ++ twoDigits (rest / 3600) ++ ":"
    ++ twoDigits (rest / 60 % 60) ++ ":" ++ twoDigits (rest % 60) ++ "+00:00"

/-- A random number of sixty-four bits. -/
def randomDraw : IO UInt64 := do
  let bytes ← IO.getRandomBytes 8
  return bytes.toList.foldl (fun n b => n * 256 + b.toUInt64) 0

/-! ### The program -/

/-- Runs a command; answers the exit code. -/
def Invocation.perform (i : Invocation) : IO UInt32 := do
  let fs ← (Settings.settingsPath :: i.command.documents).foldlM loadPath {}
  let settings := (fs.read Settings.settingsPath).toOption.bind utf8Text?
  let plugins := (settings.bind Settings.PluginSettings.parse).getD {}
  let listening := (Files.listen fs (i.socketPath.getD Settings.defaultSocketPath)).2
  let around : Catalogue.Surroundings := {
    attempt := fun path _ => Files.storeAttempt listening path
    fault := fun _ => none
    draw := ← randomDraw
    time := ← presentTime }
  let host : Service.Host Catalogue.Site := ⟨registryOf plugins, clientName ++ "-rpc", "0"⟩
  match i.run listings listening host ⟨around, {}⟩ with
  | (.ok printed, fs, _) =>
    storeResults fs i.command
    IO.print printed.answers
    IO.eprint printed.remarks
    return 0
  | (.error e, _, _) =>
    IO.eprintln ("Error: " ++ e.message)
    return 1

/-- What is said of a line that stands for no command. -/
def UsageError.message : UsageError → String
  | .help | .nothingGiven => "The commands:"
  | .version => clientName ++ " 0.1.0"
  | .missingCommand => "error: a command is missing"
  | .unknownCommand => "error: there is no such command"
  | .unknownArgument => "error: there is no such argument"
  | .missingArgument => "error: a required argument is missing"
  | .repeatedArgument => "error: an argument was given twice"
  | .wrongValue => "error: a value is missing or is not allowed"
  | .unreadableValue => "error: a value cannot be read"
  | .needlessValue => "error: an argument takes no value"

end RestorePlugins.CommandLine

open RestorePlugins.CommandLine in
/-- Reads the command line and runs its command. -/
def main (words : List String) : IO UInt32 := do
  match Invocation.read (clientName :: words) with
  | .ok invocation => invocation.perform
  | .error .version =>
    IO.println UsageError.version.message
    return 0
  | .error e =>
    IO.eprintln e.message
    (← IO.getStderr).write (ByteArray.mk commandLines.toArray)
    return if e = .help then 0 else 2
