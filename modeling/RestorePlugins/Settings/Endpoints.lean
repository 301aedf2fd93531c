import RestorePlugins.Settings.Plugins

namespace RestorePlugins.Settings

/-!
# Settings of the endpoints

* `Endpoint` — a socket that a host listens on and a client connects to, unless it is off.
* `parseEndpoints` — reads the endpoints from a TOML document.
* `select` — the first endpoint that is on and whose address is allowed; those that are on and
  whose address is not allowed are switched off on the way.
-/

/-- Where the socket is without a setting. -/
def defaultSocketPath : String := "/run/bkplug/bkplug.sock"

/-- An endpoint. -/
structure Endpoint where
  path : String := defaultSocketPath
  enabled : Bool := true
  deriving DecidableEq, Repr, Inhabited

/-! ### Reading -/

/-- The sort of endpoints that there is. -/
def endpointType : String := "unix"

/-- Whether a value names the sort of endpoints. -/
def namesType (value : Toml.Value) : Bool := readText value == some endpointType

/-- A value, if it is there, read by a reader. -/
def readOr {α : Type} (read : Toml.Value → Option α) (default : α) :
    Option Toml.Value → Option α
  | none => some default
  | some value => read value

/-- An endpoint of the right sort from the values of its fields. -/
def readEndpointValues (path enabled : Option Toml.Value) : Option Endpoint := do
  let path ← readOr readText defaultSocketPath path
  let enabled ← readOr readTruth true enabled
  some ⟨path, enabled⟩

/-- An endpoint: a table that names its sort, or an array of the sort and at most two values. -/
def readEndpoint (value : Toml.Value) : Option Endpoint :=
  match readItems value with
  | some (sort :: values) =>
    if namesType sort && decide (values.length ≤ 2) then
      readEndpointValues values[0]? values[1]?
    else none
  | some [] => none
  | none => do
    let fields ← readTable value
    let sort ← Entries.find? "type" fields
    if namesType sort then
      readEndpointValues (Entries.find? "path" fields) (Entries.find? "enabled" fields)
    else none

/-- A list of endpoints. -/
def readEndpoints (value : Toml.Value) : Option (List Endpoint) := do
  let items ← readItems value
  items.mapM readEndpoint

/-- The endpoints of the section for sockets: a table, or an array that begins with the list. -/
def readSection (value : Toml.Value) : Option (List Endpoint) :=
  match readItems value with
  | some (endpoints :: _) => readEndpoints endpoints
  | some [] => some []
  | none => do
    let fields ← readTable value
    let endpoints ← readOptional readEndpoints "endpoints" fields
    some (endpoints.getD [])

/-- The endpoints that a document sets; without the section, there is one. -/
def parseEndpoints (text : String) : Option (List Endpoint) := do
  let fields ← Toml.parse text
  let endpoints ← readOptional readSection "grpc" fields
  some (endpoints.getD [{}])

/-- Where the settings are. -/
def settingsPath : String := "/etc/bkplug/bkplug.toml"

/-- The endpoints that the content of a file sets; without a readable file there is one. -/
def endpointsOf (content : Option Bytes) : List Endpoint :=
  ((content.bind utf8Text?).bind parseEndpoints).getD [{}]

/-! ### Choosing -/

/-- The paths of the endpoints that are on. -/
def enabledPaths (endpoints : List Endpoint) : List String :=
  (endpoints.filter (·.enabled)).map (·.path)

/-- The first endpoint that is on and usable, and the endpoints afterwards: those that are on and
stand before it are switched off. -/
def select (usable : String → Bool) : List Endpoint → Option Endpoint × List Endpoint
  | [] => (none, [])
  | endpoint :: rest =>
    if endpoint.enabled && usable endpoint.path then (some endpoint, endpoint :: rest)
    else
      let (chosen, rest) := select usable rest
      (chosen, { endpoint with enabled := false } :: rest)

end RestorePlugins.Settings
