import RestorePlugins.CommandLine.Grammar
import RestorePlugins.Entries

namespace RestorePlugins.CommandLine

/-!
# The commands of the client and of the host

* `Shell` — the shells that there are completion scripts for.
* `Command` — what the client is asked for, `Invocation` — with the socket of the host.
* `clientProgram`, `Invocation.read` — the client's command line.
* `HostOptions.read` — the host's command line.
-/

/-! ### Commands -/

/-- A shell that completes command lines. -/
inductive Shell where
  | bash
  | elvish
  | fish
  | powerShell
  | zsh
  deriving DecidableEq, Repr

namespace Shell

/-- All shells, by name. -/
def all : List Shell := [bash, elvish, fish, powerShell, zsh]

/-- The name of a shell. -/
def name : Shell → String
  | bash => "bash"
  | elvish => "elvish"
  | fish => "fish"
  | powerShell => "powershell"
  | zsh => "zsh"

/-- The shell that a name stands for. -/
def ofName? (s : String) : Option Shell := all.find? fun shell => shell.name = s

end Shell

/-- Keys and values in the order in which they were given. -/
abbrev Pairs := List (String × String)

/-- What the client is asked for.  Documents are named by their paths. -/
inductive Command where
  | list
  | appliesTo (plugin : String)
  | execute (plugin item : String) (itemFromBackup restore : Option String)
  | init (plugin : String) (config : Option Pairs)
  | createSnapshot (plugin volumeId volumeAz : String) (tags : Option Pairs)
  | deleteSnapshot (plugin snapshotId : String)
  | createVolume (plugin snapshotId volumeType volumeAz : String) (iops : Option Int64)
  | volumeInfo (plugin volumeId volumeAz : String)
  | volumeId (plugin persistentVolume : String)
  | setVolumeId (plugin persistentVolume volumeId : String)
  | completions (directory : String) (shell : Option Shell)
  | manual (directory : String)
  deriving DecidableEq, Repr

/-- The last value of each key. -/
def dictOf (pairs : Option Pairs) : Dict String := .ofPairs (pairs.getD [])

/-- A command, and the socket of the host if it is given. -/
structure Invocation where
  socketPath : Option String
  command : Command
  deriving DecidableEq, Repr

/-! ### The client's arguments -/

/-- The plugin that a command calls. -/
def pluginArgument : Argument := { name := "plugin", short := some 'p', required := true }

/-- A text that has to be given. -/
def requiredText (name : String) : Argument := { name := name, required := true }

/-- A text that may be left out. -/
def optionalText (name : String) : Argument := { name := name }

/-- The path of a document that has to be given. -/
def requiredPath (name : String) (short : Option Char) : Argument :=
  { name := name, kind := .path, short := short, required := true }

/-- The path of a document that may be left out. -/
def optionalPath (name : String) (short : Option Char) : Argument :=
  { name := name, kind := .path, short := short }

/-- Pairs that may be left out. -/
def pairsArgument (name : String) (short : Char) : Argument :=
  { name := name, kind := .pair, short := some short, many := true }

/-- The operations a second of a new volume: a signed integer of sixty-four bits. -/
def iopsArgument : Argument :=
  { name := "iops", kind := .integer (-0x8000000000000000) 0x7fffffffffffffff }

/-- The directory that files are written to. -/
def directoryArgument : Argument :=
  { name := "out-dir", kind := .path, byPlace := true, required := true }

/-- The shell to write a script for. -/
def shellArgument : Argument :=
  { name := "shell", kind := .choice (Shell.all.map Shell.name), short := some 's' }

/-- The socket of the host, which every command takes. -/
def socketPathName : String := "socket-path"

/-! ### The client's commands -/

/-- The commands for restore item actions. -/
def actionCommands : List (String × Grammar Command) := [
  ("applies-to", .leaf [pluginArgument] fun g =>
    return .appliesTo (← g.text? "plugin")),
  ("execute", .leaf
    [pluginArgument, requiredPath "item" 'i', optionalPath "item-from-backup" none,
      optionalPath "restore" 'r'] fun g =>
    return .execute (← g.text? "plugin") (← g.text? "item") (g.text? "item-from-backup")
      (g.text? "restore"))]

/-- The commands for volume snapshotters. -/
def snapshotterCommands : List (String × Grammar Command) := [
  ("init", .leaf [pluginArgument, pairsArgument "config" 'c'] fun g =>
    return .init (← g.text? "plugin") (g.pairs? "config")),
  ("create-snapshot", .leaf
    [pluginArgument, requiredText "volume-id", optionalText "volume-az",
      pairsArgument "tags" 't'] fun g =>
    return .createSnapshot (← g.text? "plugin") (← g.text? "volume-id")
      ((g.text? "volume-az").getD "") (g.pairs? "tags")),
  ("delete-snapshot", .leaf [pluginArgument, requiredText "snapshot-id"] fun g =>
    return .deleteSnapshot (← g.text? "plugin") (← g.text? "snapshot-id")),
  ("create-volume", .leaf
    [pluginArgument, requiredText "snapshot-id", optionalText "volume-type",
      optionalText "volume-az", iopsArgument] fun g =>
    return .createVolume (← g.text? "plugin") (← g.text? "snapshot-id")
      ((g.text? "volume-type").getD "") ((g.text? "volume-az").getD "")
      ((g.integer? "iops").map Int64.ofInt)),
  ("volume-info", .leaf
    [pluginArgument, requiredText "volume-id", optionalText "volume-az"] fun g =>
    return .volumeInfo (← g.text? "plugin") (← g.text? "volume-id")
      ((g.text? "volume-az").getD "")),
  ("get-volume-id", .leaf [pluginArgument, requiredPath "persistent-volume" none] fun g =>
    return .volumeId (← g.text? "plugin") (← g.text? "persistent-volume")),
  ("set-volume-id", .leaf
    [pluginArgument, requiredPath "persistent-volume" none, requiredText "volume-id"] fun g =>
    return .setVolumeId (← g.text? "plugin") (← g.text? "persistent-volume")
      (← g.text? "volume-id"))]

/-- The commands for generated files. -/
def fileCommands : List (String × Grammar Command) := [
  ("completions", .leaf [directoryArgument, shellArgument] fun g =>
    return .completions (← g.text? "out-dir") ((g.text? "shell").bind Shell.ofName?)),
  ("manpage", .leaf [directoryArgument] fun g =>
    return .manual (← g.text? "out-dir"))]

/-- The client. -/
def clientProgram : Program Command where
  grammar := .group ([
    ("list", .leaf [] fun _ => some .list),
    ("restore-action", .group actionCommands),
    ("snapshotter", .group snapshotterCommands)] ++ fileCommands)
  shared := [optionalText socketPathName]

/-- Reads the client's command line: its name and its words. -/
def Invocation.read (line : List String) : Except UsageError Invocation := do
  let (given, command) ← clientProgram.read line.tail
  return ⟨given.text? socketPathName, command⟩

/-! ### The host -/

/-- How the host is started. -/
structure HostOptions where
  /-- The seconds after which the host ends, or zero. -/
  timeout : UInt64
  socketPath : Option String
  deriving DecidableEq, Repr

/-- The host. -/
def hostProgram : Program HostOptions where
  grammar := .leaf
    [{ name := "timeout", kind := .integer 0 0xffffffffffffffff }, optionalPath socketPathName none]
    fun g => some ⟨UInt64.ofNat ((g.integer? "timeout").getD 0).toNat, g.text? socketPathName⟩

/-- Reads the host's command line: its name and its words. -/
def HostOptions.read (line : List String) : Except UsageError HostOptions := do
  let (_, options) ← hostProgram.read line.tail
  return options

end RestorePlugins.CommandLine
