import RestorePlugins.Catalogue.Opening
import RestorePlugins.Files.FileSystem

namespace RestorePlugins.Files

/-!
# Where a database lies

A database is a directory with a directory for large values, a file of settings and a file of
data.

* `openStore` — makes what is missing of a database and answers its directory, as a text that is
  the same for all paths that lead there.
-/

/-- The text of a location. -/
def namesText (names : Names) : String := "/" ++ "/".intercalate names

/-- The wording of a refusal by the database. -/
def storeMessage (e : FileError) : String := "IO error: " ++ e.message

/-- Makes a file unless it is there. -/
def ensureFile (fs : FileSystem) (path : String) : Except FileError FileSystem :=
  match fs.read path with
  | .ok _ => .ok fs
  | .error .notFound => fs.create path []
  | .error e => .error e

/-- Makes what is missing of the database at a path. -/
def openStore (fs : FileSystem) (path : String) : Except FileError String × FileSystem :=
  let large := join path "blobs"
  let (made, fs) := if fs.pathExists large then (.ok (), fs) else fs.makeDirectories large
  let opened : Except FileError (String × FileSystem) := do
    made
    let fs ← ensureFile fs (join path "conf")
    let fs ← ensureFile fs (join path "db")
    match ← fs.place true (join path "db") with
    | .existing names _ => .ok (namesText names.dropLast, fs)
    | .vacant _ _ => .error .notFound
  match opened with
  | .ok (directory, fs) => (.ok directory, fs)
  | .error e => (.error e, fs)

/-- How the attempts to open a path end while nobody else holds the lock. -/
def storeAttempt (fs : FileSystem) (path : String) : Catalogue.Attempt String :=
  match (openStore fs path).1 with
  | .ok directory => .opened directory
  | .error e => .failed (storeMessage e)

end RestorePlugins.Files
