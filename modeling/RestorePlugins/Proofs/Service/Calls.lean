import RestorePlugins.Proofs.Service.Routing

namespace RestorePlugins

/-!
# The calls that plugins receive

* `Registry.noted`, `Host.noted` — the plugins note each call that they receive, with its arguments
  and under the kind and the name where they are registered.
* `Host.serve` — answers requests one after the other; `Host.calls` — what the plugins note then.
* `Host.serve_noted` — notes change neither the answers nor the world.
* `Host.calls_eq` — the calls are those that the requests ask for, in order and once each.
-/

/-! ### Dictionaries -/

namespace Dict

variable {α β : Type}

/-- Changes each value, with its key in sight. -/
def mapKeyed (f : String → α → β) (d : Dict α) : Dict β where
  entries := d.entries.map fun entry => (entry.1, f entry.1 entry.2)
  ascending := by
    have hascending : d.entries.Pairwise fun a b => a.1 < b.1 := d.ascending
    exact List.pairwise_map.2 hascending

theorem get?_mapKeyed (f : String → α → β) (d : Dict α) (key : String) :
    (d.mapKeyed f).get? key = (d.get? key).map (f key) := by
  show Entries.find? key (d.entries.map fun entry => (entry.1, f entry.1 entry.2)) =
    (Entries.find? key d.entries).map (f key)
  generalize d.entries = entries
  induction entries with
  | nil => rfl
  | cons entry rest ih =>
    by_cases h : entry.1 = key
    · subst h
      simp [Entries.find?]
    · simpa [Entries.find?, h] using ih

@[simp] theorem keys_mapKeyed (f : String → α → β) (d : Dict α) : (d.mapKeyed f).keys = d.keys := by
  simp [keys, mapKeyed]

end Dict

namespace Service

variable {W : Type}

/-! ### Notes -/

/-- A call that is noted behind the calls before it. -/
def noteCall {α : Type} (request : Request) (call : Call W α) : Call (W × List Request) α :=
  fun world => ((call world.1).1, (call world.1).2, world.2 ++ [request])

/-- An action that notes its calls under a name. -/
def noteAction (name : String) (action : RestoreAction W) :
    RestoreAction (W × List Request) where
  appliesTo := noteCall (.appliesTo name) action.appliesTo
  execute input := noteCall (.execute name input) (action.execute input)

/-- A snapshotter that notes its calls under a name. -/
def noteSnapshotter (name : String) (snapshotter : Snapshotter W) :
    Snapshotter (W × List Request) where
  init config := noteCall (.init name config) (snapshotter.init config)
  createVolume request := noteCall (.createVolume name request) (snapshotter.createVolume request)
  volumeInfo id zone := noteCall (.volumeInfo name id zone) (snapshotter.volumeInfo id zone)
  createSnapshot request :=
    noteCall (.createSnapshot name request) (snapshotter.createSnapshot request)
  deleteSnapshot id := noteCall (.deleteSnapshot name id) (snapshotter.deleteSnapshot id)
  volumeId pv := noteCall (.volumeId name pv) (snapshotter.volumeId pv)
  setVolumeId pv id := noteCall (.setVolumeId name pv id) (snapshotter.setVolumeId pv id)

end Service

namespace Registry

open Service

variable {W : Type}

/-- The plugins of a registry, each noting its calls under its own name. -/
def noted (r : Registry W) : Registry (W × List Request) where
  actions := r.actions.mapKeyed noteAction
  snapshotters := r.snapshotters.mapKeyed noteSnapshotter

theorem action_noted (name : String) (r : Registry W) :
    r.noted.action name = (r.action name).map (noteAction name) := by
  simp only [action, noted, Dict.get?_mapKeyed]
  cases r.actions.get? name <;> rfl

theorem snapshotter_noted (name : String) (r : Registry W) :
    r.noted.snapshotter name = (r.snapshotter name).map (noteSnapshotter name) := by
  simp only [snapshotter, noted, Dict.get?_mapKeyed]
  cases r.snapshotters.get? name <;> rfl

theorem isSome_find?_noted (kind : PluginKind) (name : String) (r : Registry W) :
    (r.noted.find? kind name).isSome = (r.find? kind name).isSome := by
  cases kind <;> simp [find?, noted, Dict.get?_mapKeyed]

theorem list_noted (command : String) (r : Registry W) : r.noted.list command = r.list command := by
  simp [list, noted]

end Registry

namespace Service

variable {W : Type}

/-- The host whose plugins note their calls. -/
def Host.noted (host : Host W) : Host (W × List Request) :=
  ⟨host.registry.noted, host.command, host.task⟩

/-- A call of a plugin that is found is noted. -/
theorem ask_noted {P Q α : Type} {found : Except PluginError P} {note : P → Q}
    {call : P → Call W α} {called : Q → Call (W × List Request) α} {raw : α → Answer}
    {request : Request} (hfound : ∃ plugin, found = .ok plugin)
    (hcall : ∀ plugin, called (note plugin) = noteCall request (call plugin)) :
    Request.ask (found.map note) called raw = noteCall request (Request.ask found call raw) := by
  obtain ⟨plugin, rfl⟩ := hfound
  funext world
  simp only [Request.ask, Except.map, hcall]
  rfl

/-- A call that names a registered plugin is noted as it is. -/
theorem direct_noted {host : Host W} {request : Request} {kind : PluginKind} {name : String}
    (htarget : request.target? = some (kind, name))
    (hfound : (host.registry.find? kind name).isSome = true) :
    request.direct host.noted = noteCall request (request.direct host) := by
  cases request with
  | listPlugins => cases htarget
  | appliesTo =>
    cases htarget
    simp only [Request.direct, Host.noted, Registry.action_noted]
    exact ask_noted ((host.registry.finds_action _).exists_plugin hfound) fun _ => rfl
  | execute =>
    cases htarget
    simp only [Request.direct, Host.noted, Registry.action_noted]
    exact ask_noted ((host.registry.finds_action _).exists_plugin hfound) fun _ => rfl
  | _ =>
    cases htarget
    simp only [Request.direct, Host.noted, Registry.snapshotter_noted]
    exact ask_noted ((host.registry.finds_snapshotter _).exists_plugin hfound) fun _ => rfl

/-! ### One request -/

theorem admitted_noted (host : Host W) (ask : Ask) :
    ask.admitted host.noted = ask.admitted host := by
  simp only [Ask.admitted, Host.noted, Registry.isSome_find?_noted]

/-- A call is admitted if the request names a registered plugin and its documents can be read. -/
theorem admitted_eq_ok_iff {host : Host W} {ask : Ask} {request : Request} :
    ask.admitted host = .ok request ↔ ask.name ≠ "" ∧
      (host.registry.find? ask.kind ask.name).isSome = true ∧ ask.call = .ok request := by
  unfold Ask.admitted
  split
  · next hempty => simp [hempty]
  · next hname =>
    split
    · next hfound => simp [hname, hfound]
    · next hfound => simp [hfound]

/-- The call that a host makes for a request, if it makes one. -/
def Host.call? (host : Host W) (arrival : Arrival) : Option Request :=
  arrival.ask?.bind fun ask => (ask.admitted host).toOption

/-- A method refuses a message that cannot be read. -/
theorem onBytes_of_unread {α β : Type} [Wire.Message α] [Wire.Message β] {body : Bytes}
    {fault : Wire.WireFault} (hdecode : Wire.decode α body = .error fault)
    (onMethod : α → W → Except PluginError β × W) (world : W) :
    Host.onBytes onMethod body world = (.error ⟨.internal, fault.message⟩, world) := by
  simp only [Host.onBytes, hdecode]

/-- A request that asks for no plugin leaves the world as it is, and the plugins cannot tell that
it was made. -/
theorem Host.handle_of_no_ask {arrival : Arrival} (h : arrival.ask? = none) (host : Host W) :
    ∃ answer, (∀ world, host.handle arrival.path arrival.body world = (answer, world)) ∧
      ∀ world, host.noted.handle arrival.path arrival.body world = (answer, world) := by
  cases hmethod : Method.ofPath? arrival.path with
  | none =>
    simp only [Host.handle, hmethod]
    exact ⟨_, fun _ => rfl, fun _ => rfl⟩
  | some method =>
    have hask : method.ask? arrival.body = none := by
      simpa [arrival.ask?_eq, hmethod] using h
    simp only [Host.handle, hmethod]
    cases method with
    | listPlugins =>
      cases hdecode : Wire.decode Empty arrival.body with
      | error fault =>
        exact ⟨_, onBytes_of_unread hdecode host.listPlugins,
          onBytes_of_unread hdecode host.noted.listPlugins⟩
      | ok message =>
        simp only [Host.answer, Host.onBytes, hdecode, Host.listPlugins, Host.noted,
          Registry.list_noted]
        exact ⟨_, fun _ => rfl, fun _ => rfl⟩
    | _ =>
      obtain ⟨fault, hdecode⟩ := exists_fault_of_askWith hask
      exact ⟨_, onBytes_of_unread hdecode _, onBytes_of_unread hdecode _⟩

/-- Notes change neither the answer to a request nor the world, and they grow by its call. -/
theorem Host.handle_noted (host : Host W) (arrival : Arrival) (world : W) (log : List Request) :
    host.noted.handle arrival.path arrival.body (world, log) =
      ((host.handle arrival.path arrival.body world).1,
        (host.handle arrival.path arrival.body world).2, log ++ (host.call? arrival).toList) := by
  unfold Host.call?
  cases hask : arrival.ask? with
  | none =>
    obtain ⟨answer, hplain, hnoted⟩ := host.handle_of_no_ask hask
    rw [hplain, hnoted]
    simp
  | some ask =>
    rw [host.handle_of_ask hask, host.noted.handle_of_ask hask]
    simp only [Ask.answered, admitted_noted, Option.bind_some]
    cases hadmitted : ask.admitted host with
    | error e => simp [Except.toOption]
    | ok request =>
      -- The plugin is registered, so it is called, and its call is what is noted.
      obtain ⟨-, hfound, hcall⟩ := admitted_eq_ok_iff.1 hadmitted
      have hnoted := direct_noted ((Arrival.sound_ask hask).target hcall) hfound
      simp only [hnoted]
      rfl

/-! ### Runs -/

/-- Answers requests one after the other; each answer stands with its request. -/
def Host.serve (host : Host W) : List Arrival → W → List (Arrival × Except Status Bytes) × W
  | [], world => ([], world)
  | arrival :: rest, world =>
    let served := host.handle arrival.path arrival.body world
    let others := host.serve rest served.2
    ((arrival, served.1) :: others.1, others.2)

/-- The calls that the plugins receive while the host answers requests. -/
def Host.calls (host : Host W) (arrivals : List Arrival) (world : W) : List Request :=
  (host.noted.serve arrivals (world, [])).2.2

/-- Notes change neither the answers nor the world, and they grow by the calls in order. -/
theorem Host.serve_noted (host : Host W) (arrivals : List Arrival) (world : W)
    (log : List Request) :
    host.noted.serve arrivals (world, log) =
      ((host.serve arrivals world).1, (host.serve arrivals world).2,
        log ++ arrivals.filterMap host.call?) := by
  induction arrivals generalizing world log with
  | nil => simp [Host.serve]
  | cons arrival rest ih =>
    simp only [Host.serve, host.handle_noted, ih]
    cases hcall : host.call? arrival with
    | none => simp [hcall]
    | some request => simp [hcall]

/-- **Calls.** The plugins receive the calls that the requests ask for, in order and once each. -/
theorem Host.calls_eq (host : Host W) (arrivals : List Arrival) (world : W) :
    host.calls arrivals world = arrivals.filterMap host.call? := by
  rw [Host.calls, host.serve_noted, List.nil_append]

end Service

end RestorePlugins
