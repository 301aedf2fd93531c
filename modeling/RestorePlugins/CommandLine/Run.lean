import RestorePlugins.CommandLine.Command
import RestorePlugins.CommandLine.Tables
import RestorePlugins.Service.Client

namespace RestorePlugins.CommandLine

/-!
# Running a command of the client

* `CommandError` — why a command fails, `Printed` — what it prints.
* `callHost` — the commands that call a plugin or list the plugins.
* `generate` — the commands that write files.
* `Invocation.run` — any command; the way to the host is found before documents are read.
-/

/-- Why a command fails. -/
inductive CommandError where
  | client (error : Service.ClientError)
  | unreadable (path : String) (error : Files.FileError)
  | notJson (path : String) (error : Json.Error)
  | files (error : Files.FileError)
  deriving DecidableEq, Repr

/-- The wording of an error. -/
def CommandError.message : CommandError → String
  | client e => e.message
  | unreadable path e => "unable to read " ++ path ++ ": " ++ e.message
  | notJson path e => path ++ " is not valid JSON: " ++ e.message
  | files e => e.message

/-! ### Printing -/

/-- What a command prints: answers and remarks. -/
structure Printed where
  answers : String := ""
  remarks : String := ""
  deriving DecidableEq, Repr

namespace Printed

/-- A line of the answer. -/
def line (s : String) : Printed := { answers := s ++ "\n" }

/-- A line beside the answer. -/
def remark (s : String) : Printed := { remarks := s ++ "\n" }

/-- A table and a blank line. -/
def table (t : Table) : Printed := { answers := t.render ++ "\n\n" }

/-- A document over several lines. -/
def document (doc : Json) : Printed := line ((utf8Text? doc.pretty).getD "")

/-- One after the other. -/
def append (a b : Printed) : Printed := ⟨a.answers ++ b.answers, a.remarks ++ b.remarks⟩

instance : Append Printed := ⟨append⟩

end Printed

/-! ### Calling a host -/

open Files (FileSystem)
open Service (Connection Host)

variable {W : Type}

/-- The document in a file. -/
def readDocument (fs : FileSystem) (path : String) : Except CommandError Json := do
  let content ← (fs.read path).mapError (.unreadable path)
  (Json.parse content).mapError (.notJson path)

/-- The documents of an execution: a backup that is not named is the item itself, and a restore
that is not named is empty. -/
def readInput (fs : FileSystem) (item : String) (itemFromBackup restore : Option String) :
    Except CommandError ExecuteInput := do
  let item ← readDocument fs item
  let itemFromBackup ← match itemFromBackup with
    | some path => readDocument fs path
    | none => pure item
  let restore ← match restore with
    | some path => readDocument fs path
    | none => pure (.obj [])
  return ⟨item, itemFromBackup, restore⟩

/-- Makes a call and prints its answer. -/
def printAnswer {α : Type} (call : Service.Client.Answer W α) (print : α → Printed) (world : W) :
    Except CommandError Printed × W :=
  let (answer, world) := call world
  ((answer.mapError .client).map print, world)

/-- Reads from files what a call needs, and makes the call. -/
def withDocuments {α : Type} (documents : Except CommandError α)
    (call : α → W → Except CommandError Printed × W) (world : W) :
    Except CommandError Printed × W :=
  match documents with
  | .error e => (.error e, world)
  | .ok a => call a world

/-- What an execution prints. -/
def printOutput (plugin : String) (output : ExecuteOutput) : Printed :=
  .table (executeTable plugin output) ++ (output.updatedItem.map .document).getD {}

/-- What is printed of the id of a volume. -/
def printVolumeId (plugin id : String) : Printed :=
  if id = "" then .remark (plugin ++ " does not handle this volume") else .line id

/-- The commands that call a host; the others print nothing. -/
def callHost (fs : FileSystem) (send : Connection W) :
    Command → W → Except CommandError Printed × W
  | .list => printAnswer (Service.Client.listPlugins send) fun plugins => .table (listTable plugins)
  | .appliesTo plugin =>
    printAnswer (Service.Client.appliesTo send plugin) fun s => .table (selectorTable plugin s)
  | .execute plugin item itemFromBackup restore =>
    withDocuments (readInput fs item itemFromBackup restore) fun input =>
      printAnswer (Service.Client.execute send plugin input) (printOutput plugin)
  | .init plugin config =>
    printAnswer (Service.Client.init send plugin (dictOf config)) fun () => {}
  | .createSnapshot plugin volumeId volumeAz tags =>
    printAnswer (Service.Client.createSnapshot send plugin ⟨volumeId, volumeAz, dictOf tags⟩) .line
  | .deleteSnapshot plugin snapshotId =>
    printAnswer (Service.Client.deleteSnapshot send plugin snapshotId) fun () => {}
  | .createVolume plugin snapshotId volumeType volumeAz iops =>
    printAnswer
      (Service.Client.createVolume send plugin ⟨snapshotId, volumeType, volumeAz, iops⟩) .line
  | .volumeInfo plugin volumeId volumeAz =>
    printAnswer (Service.Client.volumeInfo send plugin volumeId volumeAz) fun info =>
      .table (volumeTable volumeId info)
  | .volumeId plugin pv =>
    withDocuments (readDocument fs pv) fun pv =>
      printAnswer (Service.Client.volumeId send plugin pv) (printVolumeId plugin)
  | .setVolumeId plugin pv volumeId =>
    withDocuments (readDocument fs pv) fun pv =>
      printAnswer (Service.Client.setVolumeId send plugin pv volumeId) .document
  | .completions _ _ => fun world => (.ok {}, world)
  | .manual _ => fun world => (.ok {}, world)

/-! ### Writing files -/

/-- The name of the client, of which the names of files are made. -/
def clientName : String := "bkplug"

/-- The texts of the files that are written. -/
structure Documentation where
  /-- The script that completes command lines in a shell. -/
  script : Shell → Bytes
  /-- The page about the command that some words name. -/
  page : List String → Bytes

/-- The name of the script for a shell. -/
def scriptName : Shell → String
  | .bash => clientName ++ ".bash"
  | .elvish => clientName ++ ".elv"
  | .fish => clientName ++ ".fish"
  | .powerShell => "_" ++ clientName ++ ".ps1"
  | .zsh => "_" ++ clientName

/-- The name of the page about a command. -/
def pageName (words : List String) : String :=
  "-".intercalate (clientName :: words) ++ ".1.gz"

/-- Writes files into a directory; stops at the first that cannot be written. -/
def writeFiles (directory : String) :
    List (String × Bytes) → FileSystem → Except Files.FileError Unit × FileSystem
  | [], fs => (.ok (), fs)
  | (name, content) :: rest, fs =>
    match fs.create (Files.join directory name) content with
    | .error e => (.error e, fs)
    | .ok fs => writeFiles directory rest fs

/-- Makes a directory, writes files into it and says so. -/
def generate (directory : String) (files : List (String × Bytes)) (remark : String)
    (fs : FileSystem) : Except CommandError Printed × FileSystem :=
  match fs.makeDirectories directory with
  | (.error e, fs) => (.error (.files e), fs)
  | (.ok (), fs) =>
    match writeFiles directory files fs with
    | (.error e, fs) => (.error (.files e), fs)
    | (.ok (), fs) => (.ok (.remark (remark ++ quotedPath directory)), fs)

/-- The scripts for a shell, or for all. -/
def scripts (docs : Documentation) (shell : Option Shell) : List (String × Bytes) :=
  ((shell.map ([·])).getD Shell.all).map fun shell => (scriptName shell, docs.script shell)

/-- The pages about the client and all of its commands. -/
def pages (docs : Documentation) : List (String × Bytes) :=
  ([] :: clientProgram.grammar.names).map fun words => (pageName words, docs.page words)

/-! ### All commands -/

/-- The way to the host: through the named socket, else through the first usable endpoint of the
settings. -/
def connection (fs : FileSystem) (host : Host W) (socketPath : Option String) :
    Except CommandError (Connection W) :=
  (match socketPath with
    | some path => Service.connect fs host path
    | none =>
      Service.connectFirst fs host (Settings.endpointsOf (fs.read Settings.settingsPath).toOption)
    ).mapError .client

/-- Runs a command on a file system, with a host behind its sockets. -/
def Invocation.run (docs : Documentation) (fs : FileSystem) (host : Host W) (i : Invocation)
    (world : W) : Except CommandError Printed × FileSystem × W :=
  match i.command with
  | .completions directory shell =>
    let (answer, fs) :=
      generate directory (scripts docs shell) "completion scripts generated in " fs
    (answer, fs, world)
  | .manual directory =>
    let (answer, fs) := generate directory (pages docs) "man pages generated in " fs
    (answer, fs, world)
  | command =>
    match connection fs host i.socketPath with
    | .error e => (.error e, fs, world)
    | .ok send =>
      let (answer, world) := callHost fs send command world
      (answer, fs, world)

end RestorePlugins.CommandLine
