import RestorePlugins.Proofs.Service.Calls

namespace RestorePlugins

/-!
# Plugins that share no state do not disturb each other

* `Registry.WellNamed` — plugins stand under valid names; registering keeps this.
* `Call.Within` — a call that reads and changes one part of the world.
* `Registry.Separate` — each plugin has its own part of the world.
* `Arrival.isFor`, `Arrival.callTo?` — the requests that name a plugin, and the calls of it that
  they ask for.
* `requests_reach_named_plugin` — a plugin receives the calls that requests ask of it by name, and
  other requests change neither its answers nor its part of the world.
-/

/-! ### Names of registered plugins -/

namespace Registry

variable {W : Type}

/-- All plugins stand under valid names. -/
def WellNamed (r : Registry W) : Prop :=
  ∀ kind name, (r.find? kind name).isSome = true → checkPluginName name = .ok ()

theorem wellNamed_empty : (empty : Registry W).WellNamed := by
  intro kind name h
  cases kind <;> cases h

theorem wellNamed_register {r registered : Registry W} {name : String} {plugin : Plugin W}
    (hr : r.WellNamed) (h : r.register name plugin = .ok registered) : registered.WellNamed := by
  unfold register at h
  cases hvalid : checkPluginName name with
  | error e =>
    rw [hvalid] at h
    cases h
  | ok _ =>
    rw [hvalid] at h
    have hput : registered = r.put name plugin := by
      by_cases hused : (r.find? plugin.kind name).isSome = true
      · simp [hused, bind, Except.bind] at h
      · simpa [hused, bind, Except.bind] using h.symm
    intro kind other hfound
    by_cases hname : name = other
    · rw [← hname, hvalid]
    · refine hr kind other ?_
      rw [hput] at hfound
      cases plugin <;> cases kind <;>
        simpa [put, find?, Dict.get?_insert, hname] using hfound

theorem wellNamed_registerAll {r : Registry W} (plugins : List (String × Plugin W))
    (hr : r.WellNamed) : (registerAll plugins r).2.WellNamed := by
  induction plugins generalizing r with
  | nil => exact hr
  | cons entry rest ih =>
    obtain ⟨name, plugin⟩ := entry
    cases hone : r.register name plugin with
    | error e => simpa [registerAll, hone] using hr
    | ok registered => simpa [registerAll, hone] using ih (wellNamed_register hr hone)

/-- No plugin stands under the empty name. -/
theorem WellNamed.ne_empty {r : Registry W} (hr : r.WellNamed) {kind : PluginKind} {name : String}
    (h : (r.find? kind name).isSome = true) : name ≠ "" := by
  rintro rfl
  have hvalid := hr kind "" h
  have hinvalid : checkPluginName "" = .error (.invalidName "" slashRule) := rfl
  rw [hinvalid] at hvalid
  cases hvalid

end Registry

/-! ### Parts of the world -/

section Parts

variable {W : Type} {State : PluginKind → String → Type}

/-- A step reads and changes the part of one plugin: its answer and the part after it are told by
the part before it, and all other parts stay as they are. -/
structure Within {α : Type} (part : ∀ kind name, W → State kind name) (kind : PluginKind)
    (name : String) (step : W → α × W) : Prop where
  answers : ∀ {world other : W}, part kind name world = part kind name other →
    (step world).1 = (step other).1
  moves : ∀ {world other : W}, part kind name world = part kind name other →
    part kind name (step world).2 = part kind name (step other).2
  keeps : ∀ {elseKind : PluginKind} {elseName : String} (world : W),
    (elseKind, elseName) ≠ (kind, name) →
    part elseKind elseName (step world).2 = part elseKind elseName world

variable {part : ∀ kind name, W → State kind name} {kind : PluginKind} {name : String}

theorem within_return {α : Type} (answer : α) :
    Within part kind name fun world => (answer, world) where
  answers _ := rfl
  moves h := h
  keeps _ _ := rfl

theorem Within.map {α β : Type} {step : W → α × W} (h : Within part kind name step) (f : α → β) :
    Within part kind name fun world => (f (step world).1, (step world).2) where
  answers hsame := congrArg f (h.answers hsame)
  moves := h.moves
  keeps := h.keeps

/-- The calls of an action stay within its part. -/
structure RestoreAction.StaysWithin (part : ∀ kind name, W → State kind name) (name : String)
    (action : RestoreAction W) : Prop where
  appliesTo : Within part .restoreItemAction name action.appliesTo
  execute : ∀ input, Within part .restoreItemAction name (action.execute input)

/-- The calls of a snapshotter stay within its part. -/
structure Snapshotter.StaysWithin (part : ∀ kind name, W → State kind name) (name : String)
    (snapshotter : Snapshotter W) : Prop where
  init : ∀ config, Within part .volumeSnapshotter name (snapshotter.init config)
  createVolume : ∀ request, Within part .volumeSnapshotter name (snapshotter.createVolume request)
  volumeInfo : ∀ id zone, Within part .volumeSnapshotter name (snapshotter.volumeInfo id zone)
  createSnapshot : ∀ request,
    Within part .volumeSnapshotter name (snapshotter.createSnapshot request)
  deleteSnapshot : ∀ id, Within part .volumeSnapshotter name (snapshotter.deleteSnapshot id)
  volumeId : ∀ pv, Within part .volumeSnapshotter name (snapshotter.volumeId pv)
  setVolumeId : ∀ pv id, Within part .volumeSnapshotter name (snapshotter.setVolumeId pv id)

/-- The plugins share no state: each has its own part of the world. -/
structure Registry.Separate (part : ∀ kind name, W → State kind name) (r : Registry W) : Prop where
  actions : ∀ {name : String} {action : RestoreAction W},
    r.action name = .ok action → action.StaysWithin part name
  snapshotters : ∀ {name : String} {snapshotter : Snapshotter W},
    r.snapshotter name = .ok snapshotter → snapshotter.StaysWithin part name

end Parts

namespace Service

variable {W : Type} {State : PluginKind → String → Type}
  {part : ∀ kind name, W → State kind name} {kind : PluginKind} {name : String} {host : Host W}

theorem within_ask {P α : Type} {found : Except PluginError P} {call : P → Call W α}
    {raw : α → Answer} (h : ∀ plugin, found = .ok plugin → Within part kind name (call plugin)) :
    Within part kind name (Request.ask found call raw) := by
  cases found with
  | error e => exact within_return _
  | ok plugin => exact (h plugin rfl).map (·.map raw)

/-- A call of the library stays within the part of the plugin that it names. -/
theorem within_direct (hseparate : host.registry.Separate part) {request : Request}
    (htarget : request.target? = some (kind, name)) :
    Within part kind name (request.direct host) := by
  cases request with
  | listPlugins => cases htarget
  | appliesTo =>
    cases htarget
    exact within_ask fun _ hfound => (hseparate.actions hfound).appliesTo
  | execute _ input =>
    cases htarget
    exact within_ask fun _ hfound => (hseparate.actions hfound).execute input
  | init _ config =>
    cases htarget
    exact within_ask fun _ hfound => (hseparate.snapshotters hfound).init config
  | createVolume _ request =>
    cases htarget
    exact within_ask fun _ hfound => (hseparate.snapshotters hfound).createVolume request
  | volumeInfo _ id zone =>
    cases htarget
    exact within_ask fun _ hfound => (hseparate.snapshotters hfound).volumeInfo id zone
  | createSnapshot _ request =>
    cases htarget
    exact within_ask fun _ hfound => (hseparate.snapshotters hfound).createSnapshot request
  | deleteSnapshot _ id =>
    cases htarget
    exact within_ask fun _ hfound => (hseparate.snapshotters hfound).deleteSnapshot id
  | volumeId _ pv =>
    cases htarget
    exact within_ask fun _ hfound => (hseparate.snapshotters hfound).volumeId pv
  | setVolumeId _ pv id =>
    cases htarget
    exact within_ask fun _ hfound => (hseparate.snapshotters hfound).setVolumeId pv id

/-- A request stays within the part of the plugin that it names. -/
theorem Host.within_handle (hseparate : host.registry.Separate part) {arrival : Arrival}
    {ask : Ask} (hask : arrival.ask? = some ask) :
    Within part ask.kind ask.name (host.handle arrival.path arrival.body) := by
  have hhandle : host.handle arrival.path arrival.body = ask.answered host arrival.fill :=
    funext fun world => host.handle_of_ask hask world
  rw [hhandle]
  unfold Ask.answered
  cases hadmitted : ask.admitted host with
  | error e => exact within_return _
  | ok request =>
    obtain ⟨-, -, hcall⟩ := admitted_eq_ok_iff.1 hadmitted
    exact (within_direct hseparate ((Arrival.sound_ask hask).target hcall)).map fun answer =>
      ((Host.contain host.task answer).map arrival.fill).mapError Status.ofError

/-! ### The requests of one plugin -/

/-- Whether a request names the plugin. -/
def Arrival.isFor (kind : PluginKind) (name : String) (arrival : Arrival) : Bool :=
  arrival.ask?.any fun ask => ask.kind == kind && ask.name == name

/-- The call of the plugin that a request asks for: it names the plugin, and its documents can all
be read. -/
def Arrival.callTo? (kind : PluginKind) (name : String) (arrival : Arrival) : Option Request :=
  if arrival.isFor kind name then arrival.ask?.bind fun ask => ask.call.toOption else none

theorem Arrival.isFor_iff {arrival : Arrival} :
    arrival.isFor kind name = true ↔
      ∃ ask, arrival.ask? = some ask ∧ ask.kind = kind ∧ ask.name = name := by
  simp [Arrival.isFor, Option.any_eq_true]

/-- A request for another plugin, or for none, leaves the part of a plugin alone. -/
theorem Host.part_handle_of_not_isFor (hseparate : host.registry.Separate part)
    {arrival : Arrival} (h : arrival.isFor kind name = false) (world : W) :
    part kind name (host.handle arrival.path arrival.body world).2 = part kind name world := by
  cases hask : arrival.ask? with
  | none =>
    obtain ⟨answer, hplain, -⟩ := host.handle_of_no_ask hask
    rw [hplain]
  | some ask =>
    refine (host.within_handle hseparate hask).keeps world fun hsame => ?_
    have hfor : arrival.isFor kind name = true :=
      Arrival.isFor_iff.2 ⟨ask, hask, (congrArg Prod.fst hsame).symm,
        (congrArg Prod.snd hsame).symm⟩
    rw [h] at hfor
    cases hfor

/-- The answers to the requests of a plugin, and its part at the end, are those of a run of these
requests alone. -/
theorem Host.serve_filter_isFor (hseparate : host.registry.Separate part)
    (arrivals : List Arrival) {world other : W} (h : part kind name world = part kind name other) :
    ((host.serve arrivals world).1.filter fun served => served.1.isFor kind name) =
        (host.serve (arrivals.filter (Arrival.isFor kind name)) other).1 ∧
      part kind name (host.serve arrivals world).2 =
        part kind name (host.serve (arrivals.filter (Arrival.isFor kind name)) other).2 := by
  induction arrivals generalizing world other with
  | nil => exact ⟨rfl, h⟩
  | cons arrival rest ih =>
    cases hfor : arrival.isFor kind name with
    | true =>
      -- Both runs make this request, in worlds with the same part.
      obtain ⟨ask, hask, rfl, rfl⟩ := Arrival.isFor_iff.1 hfor
      have hwithin := host.within_handle hseparate hask
      obtain ⟨hanswers, hpart⟩ := ih (hwithin.moves h)
      simp only [Host.serve, List.filter_cons_of_pos hfor, List.filter_cons, hfor, if_true]
      rw [hanswers, hwithin.answers h]
      exact ⟨rfl, hpart⟩
    | false =>
      -- Only the first run makes it, and the part stays as it is.
      have hkept := host.part_handle_of_not_isFor hseparate hfor world
      obtain ⟨hanswers, hpart⟩ := ih (hkept.trans h)
      simp only [Host.serve, List.filter_cons, hfor]
      exact ⟨hanswers, hpart⟩

/-! ### Refusals -/

/-- A request is answered by a status, and no plugin is called for it. -/
def Host.Refuses (host : Host W) (arrival : Arrival) (status : Status) : Prop :=
  ∀ world, host.handle arrival.path arrival.body world = (.error status, world) ∧
    host.calls [arrival] world = []

theorem Host.refuses_of_admitted {arrival : Arrival} {ask : Ask} {e : PluginError}
    (hask : arrival.ask? = some ask) (hadmitted : ask.admitted host = .error e) :
    host.Refuses arrival (.ofError e) := by
  intro world
  refine ⟨?_, ?_⟩
  · rw [host.handle_of_ask hask, Ask.answered, hadmitted]
  · simp [host.calls_eq, Host.call?, hask, hadmitted, Except.toOption]

/-! ### Routing -/

/-- Of the calls that a host makes for a request, those of one plugin. -/
theorem Host.call?_filter (hnamed : host.registry.WellNamed)
    (hfound : (host.registry.find? kind name).isSome = true) (arrival : Arrival) :
    (host.call? arrival).filter (fun call => call.target? = some (kind, name)) =
      arrival.callTo? kind name := by
  cases hask : arrival.ask? with
  | none => simp [Host.call?, Arrival.callTo?, hask]
  | some ask =>
    have hcalls : host.call? arrival = (ask.admitted host).toOption := by
      rw [Host.call?, hask, Option.bind_some]
    by_cases hthis : ask.kind = kind ∧ ask.name = name
    · obtain ⟨rfl, rfl⟩ := hthis
      have hadmitted : ask.admitted host = ask.call := by
        simp only [Ask.admitted, hnamed.ne_empty hfound, hfound, if_false, if_true]
      have hfor : arrival.isFor ask.kind ask.name = true :=
        Arrival.isFor_iff.2 ⟨ask, hask, rfl, rfl⟩
      rw [hcalls, hadmitted, Arrival.callTo?, if_pos hfor, hask, Option.bind_some]
      cases hcall : ask.call with
      | error e => rfl
      | ok request => simp [Except.toOption, (Arrival.sound_ask hask).target hcall]
    · have hfor : ¬ arrival.isFor kind name = true := by
        intro hfor
        obtain ⟨found, hsome, hkind, hname⟩ := Arrival.isFor_iff.1 hfor
        obtain rfl : ask = found := Option.some.inj (hask.symm.trans hsome)
        exact hthis ⟨hkind, hname⟩
      rw [hcalls, Arrival.callTo?, if_neg hfor]
      cases hadmitted : ask.admitted host with
      | error e => rfl
      | ok request =>
        have htarget := (Arrival.sound_ask hask).target (admitted_eq_ok_iff.1 hadmitted).2.2
        simp [Except.toOption, htarget, hthis]

/-- The calls that a plugin receives in a run. -/
theorem Host.calls_filter (hnamed : host.registry.WellNamed)
    (hfound : (host.registry.find? kind name).isSome = true) (arrivals : List Arrival) (world : W) :
    (host.calls arrivals world).filter (fun call => call.target? = some (kind, name)) =
      arrivals.filterMap (Arrival.callTo? kind name) := by
  rw [host.calls_eq, List.filter_filterMap]
  exact congrArg (arrivals.filterMap ·) (funext fun arrival => call?_filter hnamed hfound arrival)

/-- **Requests reach the plugin that they name, and no other.** In a host whose plugins have valid
names and share no state:

* each plugin receives the calls that requests ask for under its kind and its name, with the
  arguments of these requests, in order and once each;
* a request without a name, for a plugin that is not registered, or with a document that cannot be
  read, checked in this order, calls no plugin and is answered so;
* the answers to the requests of a plugin, and its part of the world at the end, depend on these
  requests and on its part at the beginning only, whatever stands between them. -/
theorem requests_reach_named_plugin (host : Host W) (hnamed : host.registry.WellNamed)
    (hseparate : host.registry.Separate part) :
    (∀ kind name, (host.registry.find? kind name).isSome = true → ∀ arrivals world,
      (host.calls arrivals world).filter (fun call => call.target? = some (kind, name)) =
        arrivals.filterMap (Arrival.callTo? kind name)) ∧
    (∀ arrival ask, arrival.ask? = some ask →
      (ask.name = "" →
        host.Refuses arrival ⟨.invalidArgument, PluginError.missingName.message⟩) ∧
      (ask.name ≠ "" → host.registry.find? ask.kind ask.name = none →
        host.Refuses arrival ⟨.notFound, (PluginError.notFound ask.kind ask.name).message⟩) ∧
      ∀ e, (host.registry.find? ask.kind ask.name).isSome = true → ask.call = .error e →
        host.Refuses arrival ⟨.invalidArgument, e.message⟩) ∧
    ∀ kind name arrivals others world other,
      arrivals.filter (Arrival.isFor kind name) = others.filter (Arrival.isFor kind name) →
      part kind name world = part kind name other →
      ((host.serve arrivals world).1.filter fun served => served.1.isFor kind name) =
          ((host.serve others other).1.filter fun served => served.1.isFor kind name) ∧
        part kind name (host.serve arrivals world).2 =
          part kind name (host.serve others other).2 := by
  refine ⟨fun kind name hfound arrivals world => Host.calls_filter hnamed hfound arrivals world,
    fun arrival ask hask => ⟨fun hempty => ?_, fun hname hnone => ?_, fun e hfound hcall => ?_⟩,
    fun kind name arrivals others world other hsame hpart => ?_⟩
  · have hadmitted : ask.admitted host = .error .missingName := if_pos hempty
    exact Host.refuses_of_admitted hask hadmitted
  · have hadmitted : ask.admitted host = .error (.notFound ask.kind ask.name) := by
      simp [Ask.admitted, hname, hnone]
    exact Host.refuses_of_admitted hask hadmitted
  · have hadmitted : ask.admitted host = .error e := by
      simp only [Ask.admitted, hnamed.ne_empty hfound, hfound, if_false, if_true, hcall]
    obtain ⟨text, rfl⟩ := (Arrival.sound_ask hask).failure hcall
    exact Host.refuses_of_admitted hask hadmitted
  · -- Both runs are compared with the run of these requests alone.
    obtain ⟨hanswers, hleft⟩ := host.serve_filter_isFor hseparate arrivals hpart
    obtain ⟨hothers, hright⟩ :=
      host.serve_filter_isFor hseparate others (rfl : part kind name other = part kind name other)
    rw [hanswers, hleft, hsame, hothers, hright]
    exact ⟨rfl, rfl⟩

/-! ### Two plugins of one name -/

/-- A call that adds one to the number of a kind. -/
def countCall {α : Type} (kind : PluginKind) (answer : Nat → α) : Call (PluginKind → Nat) α :=
  fun world => (.ok (answer (world kind)), fun other =>
    if other = kind then world other + 1 else world other)

/-- An action that counts its calls, and leaves out all items but the first. -/
def countingAction : RestoreAction (PluginKind → Nat) where
  appliesTo := countCall .restoreItemAction fun _ => {}
  execute _ := countCall .restoreItemAction fun count =>
    if count = 0 then ExecuteOutput.unchanged else ExecuteOutput.skip

/-- A snapshotter that counts its calls, and makes its ids of them. -/
def countingSnapshotter : Snapshotter (PluginKind → Nat) where
  init _ := countCall .volumeSnapshotter fun _ => ()
  createVolume _ := countCall .volumeSnapshotter toString
  volumeInfo _ _ := countCall .volumeSnapshotter fun count => ⟨toString count, none⟩
  createSnapshot _ := countCall .volumeSnapshotter toString
  deleteSnapshot _ := countCall .volumeSnapshotter fun _ => ()
  volumeId _ := countCall .volumeSnapshotter toString
  setVolumeId pv _ := countCall .volumeSnapshotter fun _ => pv

/-- Both count under one name. -/
def countingRegistry : Registry (PluginKind → Nat) :=
  (Registry.registerAll [("a.io/count", .action countingAction),
    ("a.io/count", .snapshotter countingSnapshotter)] .empty).2

/-- The number of the plugin of a kind. -/
def countOf (kind : PluginKind) (name : String) (world : PluginKind → Nat) : Nat :=
  if name = "a.io/count" then world kind else 0

theorem within_countCall {α : Type} (kind : PluginKind) (answer : Nat → α) :
    Within countOf kind "a.io/count" (countCall kind answer) where
  answers {world other} h := by
    have hcount : world kind = other kind := h
    simp only [countCall, hcount]
  moves {world other} h := by
    have hcount : world kind = other kind := h
    simp only [countOf, countCall, if_true, hcount]
  keeps {elseKind elseName} world hne := by
    by_cases hname : elseName = "a.io/count"
    · have hkind : elseKind ≠ kind := fun hkind => hne (by rw [hkind, hname])
      simp only [countOf, countCall, hkind, if_false]
    · simp only [countOf, hname, if_false]

/-- The two plugins share no state. -/
theorem separate_countingRegistry : countingRegistry.Separate countOf := by
  have hregistry : countingRegistry =
      (Registry.empty.put "a.io/count" (.action countingAction)).put "a.io/count"
        (.snapshotter countingSnapshotter) := rfl
  constructor
  · intro name action hfound
    by_cases hname : "a.io/count" = name
    · subst hname
      obtain rfl : countingAction = action := Except.ok.inj hfound
      constructor <;> intros <;> simp only [countingAction, within_countCall]
    · have hnone : (Registry.empty : Registry (PluginKind → Nat)).actions.get? name = none := rfl
      simp [hregistry, Registry.put, Registry.action, Dict.get?_insert, hname, hnone] at hfound
  · intro name snapshotter hfound
    by_cases hname : "a.io/count" = name
    · subst hname
      obtain rfl : countingSnapshotter = snapshotter := Except.ok.inj hfound
      constructor <;> intros <;> simp only [countingSnapshotter, within_countCall]
    · have hnone : (Registry.empty : Registry (PluginKind → Nat)).snapshotters.get? name = none :=
        rfl
      simp [hregistry, Registry.put, Registry.snapshotter, Dict.get?_insert, hname, hnone] at hfound

/-- A snapshotter receives its own two calls only, and what an action of the same name is asked in
between changes neither the ids that it gives nor its count.  For a volume that cannot be read it is
not called. -/
theorem requests_reach_named_plugin_same_name :
    let host : Host (PluginKind → Nat) := ⟨countingRegistry, "rpc", "7"⟩
    let snapshot : Arrival := ⟨Method.path .createSnapshot,
      Wire.encode ({ plugin := "a.io/count" } : CreateSnapshotRequest)⟩
    let resources : Arrival := ⟨Method.path .appliesTo,
      Wire.encode ({ plugin := "a.io/count" } : AppliesToRequest)⟩
    let unread : Arrival := ⟨Method.path .volumeId,
      Wire.encode ({ plugin := "a.io/count", persistentVolume := [0x7b] } : GetVolumeIdRequest)⟩
    let mixed := host.serve [resources, snapshot, resources, snapshot] fun _ => 3
    let alone := host.serve [snapshot, snapshot] fun _ => 3
    host.registry.WellNamed ∧ host.registry.Separate countOf ∧
      ((host.calls [resources, snapshot, resources, unread, snapshot] fun _ => 3).filter fun call =>
        call.target? = some (.volumeSnapshotter, "a.io/count")).length = 2 ∧
      (∃ text, host.Refuses unread ⟨.invalidArgument, text⟩) ∧
      (mixed.1.filter fun served => served.1.isFor .volumeSnapshotter "a.io/count") =
        (alone.1.filter fun served => served.1.isFor .volumeSnapshotter "a.io/count") ∧
      countOf .volumeSnapshotter "a.io/count" mixed.2 =
        countOf .volumeSnapshotter "a.io/count" alone.2 := by
  intro host snapshot resources unread mixed alone
  have hnamed : host.registry.WellNamed :=
    Registry.wellNamed_registerAll _ Registry.wellNamed_empty
  have hsame : [resources, snapshot, resources, snapshot].filter
      (Arrival.isFor .volumeSnapshotter "a.io/count") =
      [snapshot, snapshot].filter (Arrival.isFor .volumeSnapshotter "a.io/count") := by
    decide +kernel
  -- The object is not closed, so the request names the plugin and asks for no call of it.
  have hunread : (unread.ask?.any fun ask => ask.kind == .volumeSnapshotter &&
      ask.name == "a.io/count" && ask.call.toOption.isNone) = true := by decide +kernel
  obtain ⟨ask, hask, hfor⟩ := Option.any_eq_true _ _ |>.1 hunread
  simp only [Bool.and_eq_true, beq_iff_eq] at hfor
  obtain ⟨⟨hkind, hname⟩, hcall⟩ := hfor
  obtain ⟨hcalls, hrefused, hisolated⟩ :=
    requests_reach_named_plugin host hnamed separate_countingRegistry
  refine ⟨hnamed, separate_countingRegistry, ?_, ?_, hisolated .volumeSnapshotter "a.io/count" _ _
    (fun _ => 3) (fun _ => 3) hsame rfl⟩
  · rw [hcalls .volumeSnapshotter "a.io/count" rfl]
    decide +kernel
  · cases hfailed : ask.call with
    | ok call =>
      rw [hfailed] at hcall
      cases hcall
    | error e =>
      exact ⟨_, (hrefused unread ask hask).2.2 e (by rw [hkind, hname]; rfl) hfailed⟩

end Service

end RestorePlugins
