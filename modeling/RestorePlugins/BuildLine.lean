import RestorePlugins.Text.WhiteSpace
import RestorePlugins.Text.Utf8

namespace RestorePlugins

/-!
# What a build says of itself

A build prints directives for the tool that runs it, one a line; the last of them names the
version, the state of the sources, the time and the compiler.

* `BuildPlace` — what a build finds: the tools, the time that is set, and the clock.
* `buildInfo` — the text about the build.
* `buildDirectives`, `buildOutput` — the directives, and all that is printed.
-/

/-- How the run of a tool ended. -/
structure ToolRun where
  exitCode : Nat
  output : Bytes
  deriving DecidableEq, Repr

/-- What a build finds around it. -/
structure BuildPlace where
  /-- The run of a tool with some arguments; none if there is no such tool. -/
  run : String → List String → Option ToolRun
  /-- The time that is set for the build. -/
  timestamp : Option String
  /-- The time by the clock. -/
  clock : String

/-! ### The tools -/

/-- The text that a tool answers, if it answers any. -/
def BuildPlace.answer? (place : BuildPlace) (tool : String) (arguments : List String) :
    Option String := do
  let run ← place.run tool arguments
  if run.exitCode ≠ 0 then none
  let text ← utf8Text? run.output
  let text := trim text
  if text = "" then none else some text

/-- The commit of the sources, and whether they differ from it. -/
def BuildPlace.commit? (place : BuildPlace) : Option String := do
  let hash ← place.answer? "git" ["rev-parse", "--short=10", "HEAD"]
  return if (place.answer? "git" ["status", "--porcelain"]).isSome then hash ++ "-dirty" else hash

/-- The state of the sources: by their tags, else by their commit. -/
def BuildPlace.sources? (place : BuildPlace) : Option String :=
  (place.answer? "git" ["describe", "--tags", "--always", "--dirty"]).or place.commit?

/-- The version of the compiler. -/
def BuildPlace.compiler? (place : BuildPlace) : Option String :=
  place.answer? "rustc" ["--version"]

/-- The time of the build: the one that is set, unless it is blank. -/
def BuildPlace.time (place : BuildPlace) : String :=
  match place.timestamp with
  | some s => if trim s = "" then place.clock else s
  | none => place.clock

/-! ### The text -/

/-- The version, and in parentheses what is known of sources and time, and the compiler. -/
def infoText (version : String) (sources : Option String) (time : String)
    (compiler : Option String) : String :=
  let details := match sources with
    | some s => s ++ " " ++ time
    | none => time
  version ++ " (" ++ details ++ ")" ++ (compiler.map (" " ++ ·)).getD ""

/-- The text about a build. -/
def buildInfo (version : String) (place : BuildPlace) : String :=
  infoText version place.sources? place.time place.compiler?

/-- The version that is built. -/
def currentVersion : String := "0.1.0"

/-- The variable in which the time of a build is set. -/
def timestampVariable : String := "BKPLUG_BUILD_TIMESTAMP"

/-- What has to change for the build to run again. -/
def rerunDirectives : List String := [
  "cargo:rerun-if-changed=src",
  "cargo:rerun-if-changed=build.rs",
  "cargo:rerun-if-changed=Cargo.toml",
  "cargo:rerun-if-env-changed=" ++ timestampVariable]

/-- The directives of a build. -/
def buildDirectives (place : BuildPlace) : List String :=
  rerunDirectives ++ ["cargo:rustc-env=BKPLUG_BUILD_INFO=" ++ buildInfo currentVersion place]

/-- All that a build prints: each directive with a line end after it. -/
def buildOutput (place : BuildPlace) : String :=
  String.join ((buildDirectives place).map (· ++ "\n"))

end RestorePlugins
