import RestorePlugins.Files.FileSystem

namespace RestorePlugins.Files

/-!
# Setting up listeners

* `listen` — makes one socket: takes away what is at its path, makes the directories above it,
  and opens the socket to its owner and group.
* `listenAll` — makes a socket for each path that allows it.
-/

/-- The permission bits of a socket that is listened on. -/
def socketMode : Nat := 0o660

/-- Takes away what is at a path, if the path leads anywhere. -/
def clear (fs : FileSystem) (path : String) : Except FileError FileSystem :=
  if fs.pathExists path then fs.unlink path else .ok fs

/-- Makes the directories above a path. -/
def makeParents (fs : FileSystem) (path : String) : Except FileError Unit × FileSystem :=
  match (Location.ofPath path).parent? with
  | some parent => fs.makeDirectories parent.text
  | none => (.ok (), fs)

/-- Makes the socket at a path. -/
def listen (fs : FileSystem) (path : String) : Except FileError Unit × FileSystem :=
  match clear fs path with
  | .error e => (.error e, fs)
  | .ok fs =>
    match makeParents fs path with
    | (.error e, fs) => (.error e, fs)
    | (.ok (), fs) =>
      match fs.bind path with
      | .error e => (.error e, fs)
      | .ok fs => (.ok (), fs.setMode path socketMode)

/-- Makes a socket for each path in turn; says which paths allowed it. -/
def listenAll (fs : FileSystem) : List String → List Bool × FileSystem
  | [] => ([], fs)
  | path :: rest =>
    let (answer, fs) := listen fs path
    let (answers, fs) := listenAll fs rest
    (answer.toBool :: answers, fs)

/-- What is said when no path allowed a socket. -/
def noListenerMessage : String := "no unix endpoint to listen on"

/-- The file system with a socket for each path that allows it; at least one has to. -/
def serve (fs : FileSystem) (paths : List String) : Except String FileSystem :=
  let (answers, fs) := listenAll fs paths
  if answers.any id then .ok fs else .error noListenerMessage

end RestorePlugins.Files
