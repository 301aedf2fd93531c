import RestorePlugins.Plugin.Builtin
import RestorePlugins.Proofs.Json.RoundTrip
import RestorePlugins.Proofs.Service.Transport

namespace RestorePlugins.Service

/-!
# A client of a host refines the library

A client call goes through the conversions of the client, the messages on the wire, the methods of
the host and its plugins.  A call of the library looks the plugin up and calls it.

* `Request`, `Answer` — the calls that a client makes, and what they answer.
* `Request.through` — the call through a connection; `Request.direct` — the call of the library.
* `Request.sent`, `Request.received` — what the way through a host changes of a call and of its
  answer: zero operations a second are unset, and an item like the one that was given is no update.
* `Request.Carried` — a call that fits through the connection.
* `run_through_handle` — a run of calls through a host is the run of the calls of the library, with
  just these changes.
-/

variable {W : Type}

/-! ### Calls and answers -/

/-- The calls of a client; all but the listing name a plugin. -/
inductive Request where
  | listPlugins
  | appliesTo (plugin : String)
  | execute (plugin : String) (input : ExecuteInput)
  | init (plugin : String) (config : Dict String)
  | createVolume (plugin : String) (request : VolumeRequest)
  | volumeInfo (plugin volumeId volumeAz : String)
  | createSnapshot (plugin : String) (request : SnapshotRequest)
  | deleteSnapshot (plugin snapshotId : String)
  | volumeId (plugin : String) (persistentVolume : Json)
  | setVolumeId (plugin : String) (persistentVolume : Json) (volumeId : String)

/-- What the calls answer. -/
inductive Answer where
  | plugins (plugins : List PluginIdentifier)
  | selector (selector : ResourceSelector)
  | output (output : ExecuteOutput)
  | done
  | id (id : String)
  | info (info : VolumeInfo)
  | document (document : Json)

namespace Client

/-- The answer of a call as one of the answers. -/
def Answer.as {α : Type} (call : Client.Answer W α) (answer : α → Service.Answer) :
    Client.Answer W Service.Answer := fun world =>
  ((call world).1.map answer, (call world).2)

end Client

namespace Request

/-- The plugin that a call names. -/
def plugin? : Request → Option String
  | listPlugins => none
  | appliesTo plugin => some plugin
  | execute plugin _ => some plugin
  | init plugin _ => some plugin
  | createVolume plugin _ => some plugin
  | volumeInfo plugin _ _ => some plugin
  | createSnapshot plugin _ => some plugin
  | deleteSnapshot plugin _ => some plugin
  | volumeId plugin _ => some plugin
  | setVolumeId plugin _ _ => some plugin

/-! ### Through a connection -/

/-- The call of a client through a connection. -/
def through (send : Connection W) : Request → Client.Answer W Answer
  | listPlugins => (Client.listPlugins send).as .plugins
  | appliesTo plugin => (Client.appliesTo send plugin).as .selector
  | execute plugin input => (Client.execute send plugin input).as .output
  | init plugin config => (Client.init send plugin config).as fun () => .done
  | createVolume plugin request => (Client.createVolume send plugin request).as .id
  | volumeInfo plugin id zone => (Client.volumeInfo send plugin id zone).as .info
  | createSnapshot plugin request => (Client.createSnapshot send plugin request).as .id
  | deleteSnapshot plugin id => (Client.deleteSnapshot send plugin id).as fun () => .done
  | volumeId plugin pv => (Client.volumeId send plugin pv).as .id
  | setVolumeId plugin pv id => (Client.setVolumeId send plugin pv id).as .document

/-- The path and the bytes of a call, as a connection sees them. -/
def wire (request : Request) : String × Bytes :=
  (request.through (fun path body _ => (.error ⟨.unavailable, ""⟩, path, body)) ("", [])).2

/-! ### In the library -/

/-- A call of a plugin that has to be found. -/
def ask {P α : Type} (found : Except PluginError P) (call : P → Call W α) (answer : α → Answer) :
    Call W Answer := fun world =>
  match found with
  | .error e => (.error (.error e), world)
  | .ok plugin => ((call plugin world).1.map answer, (call plugin world).2)

/-- The call of the library that holds the plugins of a host. -/
def direct (host : Host W) : Request → Call W Answer
  | listPlugins => fun world => (.ok (.plugins (host.registry.list host.command)), world)
  | appliesTo plugin => ask (host.registry.action plugin) (·.appliesTo) .selector
  | execute plugin input => ask (host.registry.action plugin) (·.execute input) .output
  | init plugin config => ask (host.registry.snapshotter plugin) (·.init config) fun () => .done
  | createVolume plugin request =>
    ask (host.registry.snapshotter plugin) (·.createVolume request) .id
  | volumeInfo plugin id zone =>
    ask (host.registry.snapshotter plugin) (·.volumeInfo id zone) .info
  | createSnapshot plugin request =>
    ask (host.registry.snapshotter plugin) (·.createSnapshot request) .id
  | deleteSnapshot plugin id =>
    ask (host.registry.snapshotter plugin) (·.deleteSnapshot id) fun () => .done
  | volumeId plugin pv => ask (host.registry.snapshotter plugin) (·.volumeId pv) .id
  | setVolumeId plugin pv id =>
    ask (host.registry.snapshotter plugin) (·.setVolumeId pv id) .document

/-! ### What the way changes -/

/-- Zero operations a second are unset. -/
def unsetZero (iops : Option Int64) : Option Int64 := if iops = some 0 then none else iops

/-- A call as the plugin sees it. -/
def sent : Request → Request
  | createVolume plugin request =>
    createVolume plugin { request with iops := unsetZero request.iops }
  | request => request

open Classical in
/-- The item that was given is no update. -/
noncomputable def dropEcho (item : Json) (output : ExecuteOutput) : ExecuteOutput :=
  { output with updatedItem := if output.updatedItem = some item then none else output.updatedItem }

/-- An answer as the client sees it. -/
noncomputable def received : Request → Answer → Answer
  | execute _ input, .output output => .output (dropEcho input.item output)
  | volumeInfo _ _ _, .info info => .info { info with iops := unsetZero info.iops }
  | _, answer => answer

/-- What a client has of a call of the library. -/
noncomputable def library (host : Host W) (request : Request) : Client.Answer W Answer :=
  fun world =>
    let (answer, world) := request.sent.direct host world
    ((answer.map request.received).mapError (ClientError.ofFailure host.task), world)

/-! ### What can be carried -/

/-- The documents of a call. -/
def documents : Request → List Json
  | execute _ input => [input.item, input.itemFromBackup, input.restore]
  | volumeId _ pv => [pv]
  | setVolumeId _ pv _ => [pv]
  | _ => []

end Request

/-- The documents of an answer. -/
def Answer.documents : Answer → List Json
  | .output decision => decision.updatedItem.toList
  | .document doc => [doc]
  | _ => []

/-- The documents of what a call gives; a failure has none. -/
def answeredDocuments : Except Failure Answer → List Json
  | .ok answer => answer.documents
  | .error _ => []

/-- A call that a host can be given in some world: it names a plugin, its documents and those of
its answer can be written without a loss, and the lengths of the messages can be told.  A connection
as it is set up by default takes messages of at most four megabytes; this limit is not part of the
messages and not modelled, and what is below it is short in this sense. -/
structure Request.Carried (host : Host W) (world : W) (request : Request) : Prop where
  named : request.plugin? ≠ some ""
  sendsPortable : ∀ document ∈ request.documents, document.Portable
  repliesPortable : ∀ document ∈ answeredDocuments (request.sent.direct host world).1,
    document.Portable
  shortRequest : request.wire.2.length < UInt64.size
  shortReply : replyLength (host.handle request.wire.1 request.wire.2 world).1 < UInt64.size

/-- A call whose answer has no documents. -/
theorem Request.Carried.of_isEmpty {host : Host W} {world : W} {request : Request}
    (hnamed : request.plugin? ≠ some "") (hsends : ∀ doc ∈ request.documents, doc.Portable)
    (hreplies : (answeredDocuments (request.sent.direct host world).1).isEmpty = true)
    (hrequest : request.wire.2.length < UInt64.size)
    (hreply : replyLength (host.handle request.wire.1 request.wire.2 world).1 < UInt64.size) :
    request.Carried host world where
  named := hnamed
  sendsPortable := hsends
  repliesPortable doc hdoc := by
    rw [List.isEmpty_iff.1 hreplies] at hdoc
    exact absurd hdoc List.not_mem_nil
  shortRequest := hrequest
  shortReply := hreply

/-! ### One call -/

/-- A named plugin is looked up in the registry. -/
theorem Host.action_of_ne_empty (host : Host W) {name : String} (h : some name ≠ some "") :
    host.action name = host.registry.action name := by
  have hne : name ≠ "" := fun heq => h (congrArg some heq)
  simp [Host.action, Host.requirePlugin, hne, bind, Except.bind]

theorem Host.snapshotter_of_ne_empty (host : Host W) {name : String} (h : some name ≠ some "") :
    host.snapshotter name = host.registry.snapshotter name := by
  have hne : name ≠ "" := fun heq => h (congrArg some heq)
  simp [Host.snapshotter, Host.requirePlugin, hne, bind, Except.bind]

/-- A portable document in a request is read. -/
theorem Host.document_compact {doc : Json} (h : doc.Portable) (what : String) :
    Host.document what doc.compact = .ok doc := by
  rw [Host.document, Json.parse_compact h]
  rfl

/-- A portable document in a reply is read. -/
theorem Client.document_compact {doc : Json} (h : doc.Portable) :
    Client.document doc.compact = .ok doc := by
  rw [Client.document, Json.parse_compact h]
  rfl

theorem iopsFromWire_iopsToWire (iops : Option Int64) :
    iopsFromWire (iopsToWire iops) = Request.unsetZero iops := by
  by_cases h : iops = some 0
  · rw [h]
    rfl
  · rw [iopsFromWire_toWire iops h, Request.unsetZero, if_neg h]

/-- The plugins of a listing are read back. -/
theorem mapM_plugin_ofPlugin (ids : List PluginIdentifier) :
    (ids.map PluginLine.ofPlugin).mapM Client.plugin = .ok ids := by
  induction ids with
  | nil => rfl
  | cons id rest ih =>
    have hid : Client.plugin (PluginLine.ofPlugin id) = .ok id := by
      rw [Client.plugin, PluginLine.toPlugin_ofPlugin]
      rfl
    simp [hid, ih, bind, Except.bind, pure, Except.pure]

/-- What is named in a reply is read back. -/
theorem map_toIdentifier_ofIdentifier (ids : List ResourceIdentifier) :
    (ids.map IdentifierMessage.ofIdentifier).map IdentifierMessage.toIdentifier = ids := by
  simp [Function.comp_def]

/-- The reply to an execution is read as the output, without an update that changes nothing. -/
theorem Client.executeOutput_executeReply {item : Json} {message : ExecuteRequest}
    {output : ExecuteOutput} (hitem : item.Portable) (hmessage : message.item = item.compact)
    (hupdated : ∀ updated ∈ output.updatedItem.toList, updated.Portable) :
    Client.executeOutput item (Host.executeReply message output) =
      .ok (Request.dropEcho item output) := by
  have hids := map_toIdentifier_ofIdentifier output.additionalItems
  cases hcase : output.updatedItem with
  | none =>
    -- The reply holds the item as it was sent, which the client takes for no update.
    have hself : (item == item) = true := Json.beq_self_of_exact hitem.exact
    simp only [Client.executeOutput, Host.executeReply, hcase, hmessage,
      Client.document_compact hitem, hself, hids, Request.dropEcho, bind, Except.bind]
    rfl
  | some updated =>
    have hportable := hupdated updated (by simp [hcase])
    have hdocument := Client.document_compact hportable
    -- The client compares values, which is equality on documents that can be written.
    have hsame : (updated == item) = true ↔ updated = item :=
      Json.beq_iff_eq_of_exact hportable.exact
    simp only [Client.executeOutput, Host.executeReply, Request.dropEcho, hcase, hdocument, hids,
      bind, Except.bind]
    classical
    congr 2
    rw [hcase]
    exact if_congr (hsame.trans Option.some_inj.symm) rfl rfl

/-- A call that is made by a message is the call of the library, when the host performs the latter
and the client makes of each reply what becomes of the answer. -/
theorem Request.through_eq_library {P α β γ δ : Type} [Wire.Message α] [Wire.Message β] [Sound α]
    [Sound β] {host : Host W} {world : W} {request : Request} (h : request.Carried host world)
    {method : Method} (message : α) {read : β → Except ClientError γ} {answer : γ → Answer}
    (hthrough : ∀ {V : Type} (send : Connection V),
      request.through send = (Client.call send method message read).as answer)
    {onMethod : α → W → Except PluginError β × W}
    (hmethod : host.answer method = Host.onBytes onMethod)
    {found : Except PluginError P} {call : P → Call W δ} {raw : δ → Answer}
    (hdirect : request.sent.direct host = ask found call raw)
    {reply : δ → β} (hperform : onMethod message = host.perform (found.map call) reply)
    (become : δ → γ) (hreceived : ∀ a, request.received (raw a) = answer (become a))
    (hread : ∀ a, (request.sent.direct host world).1 = .ok (raw a) →
      read (reply a) = .ok (become a)) :
    request.through host.handle world = request.library host world := by
  have hwire : request.wire = (method.path, Wire.encode message) := by
    simp only [wire, hthrough, Client.Answer.as, Client.call]
  have hshort := h.shortRequest
  have hreply := h.shortReply
  rw [hwire] at hshort hreply
  rw [hthrough, Client.Answer.as, library, hdirect]
  rw [hdirect] at hread
  rw [Client.call_perform hmethod hperform become ?_ hshort hreply]
  · unfold ask Client.asked
    cases found with
    | error e => rfl
    | ok plugin =>
      cases hanswer : (call plugin world).1 with
      | error failure =>
        simp only [hanswer]
        rfl
      | ok a =>
        simp only [hanswer, Except.map, hreceived]
        rfl
  · rintro plugin a rfl hanswer
    exact hread a (by simp [ask, hanswer, Except.map])

/-- A listing has no plugin to be found, and is what the registry lists. -/
theorem Request.through_listPlugins {host : Host W} {world : W}
    (h : Request.listPlugins.Carried host world) :
    Request.listPlugins.through host.handle world = Request.listPlugins.library host world := by
  have hmethod : host.answer .listPlugins = Host.onBytes host.listPlugins := rfl
  have hcall := Client.call_handle hmethod {} (fun reply => reply.plugins.mapM Client.plugin)
    h.shortRequest h.shortReply
  have hlines := mapM_plugin_ofPlugin (host.registry.list host.command)
  simp only [through, Client.Answer.as, Client.listPlugins, hcall, Host.listPlugins, library]
  show (((Except.bind (.ok _) _).map .plugins, world) : Except ClientError Answer × W) = _
  rw [Except.bind, hlines]
  rfl

/-- **One call.** A call through a host is the call of the library, as a client has it. -/
theorem Request.through_handle {host : Host W} {world : W} {request : Request}
    (h : request.Carried host world) :
    request.through host.handle world = request.library host world := by
  have hnamed := h.named
  cases request with
  | listPlugins => exact through_listPlugins h
  | appliesTo plugin =>
    have hperform : host.appliesTo ⟨plugin⟩ =
        host.perform ((host.registry.action plugin).map (·.appliesTo)) fun selector =>
          ⟨some (.ofSelector selector)⟩ := by
      simp only [Host.appliesTo, host.action_of_ne_empty hnamed]
    exact through_eq_library h (⟨plugin⟩ : AppliesToRequest) (fun _ => rfl) rfl rfl hperform
      (fun a => a) (fun _ => rfl) (fun _ _ => rfl)
  | execute plugin input =>
    have hitem := h.sendsPortable input.item (by simp [documents])
    have hbackup := h.sendsPortable input.itemFromBackup (by simp [documents])
    have hrestore := h.sendsPortable input.restore (by simp [documents])
    let message : ExecuteRequest :=
      ⟨plugin, input.item.compact, input.restore.compact, input.itemFromBackup.compact⟩
    have hperform : host.execute message =
        host.perform ((host.registry.action plugin).map (·.execute input))
          (Host.executeReply message) := by
      simp only [Host.execute, message, host.action_of_ne_empty hnamed,
        Host.document_compact hitem, Host.document_compact hbackup, Host.document_compact hrestore]
      cases host.registry.action plugin <;> rfl
    refine through_eq_library h message (fun _ => rfl) rfl rfl hperform (dropEcho input.item)
      (fun _ => rfl) fun output houtput => ?_
    refine Client.executeOutput_executeReply hitem rfl fun updated hupdated => ?_
    apply h.repliesPortable
    rw [houtput]
    simpa [answeredDocuments, Answer.documents] using hupdated
  | init plugin config =>
    have hperform : host.init ⟨plugin, config⟩ =
        host.perform ((host.registry.snapshotter plugin).map (·.init config)) fun () => {} := by
      simp only [Host.init, host.snapshotter_of_ne_empty hnamed]
    exact through_eq_library h (⟨plugin, config⟩ : InitRequest) (fun _ => rfl) rfl rfl hperform
      (fun a => a) (fun _ => rfl) (fun _ _ => rfl)
  | createVolume plugin request =>
    let message : CreateVolumeRequest := ⟨plugin, request.snapshotId, request.volumeType,
      request.volumeAz, iopsToWire request.iops⟩
    have hperform : host.createVolume message = host.perform
        ((host.registry.snapshotter plugin).map
          (·.createVolume { request with iops := unsetZero request.iops })) fun id => ⟨id⟩ := by
      simp only [Host.createVolume, message, host.snapshotter_of_ne_empty hnamed,
        iopsFromWire_iopsToWire]
    exact through_eq_library h message (fun _ => rfl) rfl rfl hperform (fun a => a) (fun _ => rfl)
      (fun _ _ => rfl)
  | volumeInfo plugin id zone =>
    have hperform : host.volumeInfo ⟨plugin, id, zone⟩ =
        host.perform ((host.registry.snapshotter plugin).map (·.volumeInfo id zone))
          fun info => ⟨info.volumeType, iopsToWire info.iops⟩ := by
      simp only [Host.volumeInfo, host.snapshotter_of_ne_empty hnamed]
    refine through_eq_library h (⟨plugin, id, zone⟩ : GetVolumeInfoRequest) (fun _ => rfl) rfl rfl
      hperform (fun info => { info with iops := unsetZero info.iops }) (fun _ => rfl)
      fun info _ => ?_
    simp only [iopsFromWire_iopsToWire]
  | createSnapshot plugin request =>
    have hperform : host.createSnapshot ⟨plugin, request.volumeId, request.volumeAz, request.tags⟩ =
        host.perform ((host.registry.snapshotter plugin).map (·.createSnapshot request))
          fun id => ⟨id⟩ := by
      simp only [Host.createSnapshot, host.snapshotter_of_ne_empty hnamed]
    exact through_eq_library h
      (⟨plugin, request.volumeId, request.volumeAz, request.tags⟩ : CreateSnapshotRequest)
      (fun _ => rfl) rfl rfl hperform (fun a => a) (fun _ => rfl) (fun _ _ => rfl)
  | deleteSnapshot plugin id =>
    have hperform : host.deleteSnapshot ⟨plugin, id⟩ =
        host.perform ((host.registry.snapshotter plugin).map (·.deleteSnapshot id))
          fun () => {} := by
      simp only [Host.deleteSnapshot, host.snapshotter_of_ne_empty hnamed]
    exact through_eq_library h (⟨plugin, id⟩ : DeleteSnapshotRequest) (fun _ => rfl) rfl rfl
      hperform (fun a => a) (fun _ => rfl) (fun _ _ => rfl)
  | volumeId plugin pv =>
    have hpv := h.sendsPortable pv (by simp [documents])
    have hperform : host.volumeId ⟨plugin, pv.compact⟩ =
        host.perform ((host.registry.snapshotter plugin).map (·.volumeId pv)) fun id => ⟨id⟩ := by
      simp only [Host.volumeId, host.snapshotter_of_ne_empty hnamed, Host.document_compact hpv]
      cases host.registry.snapshotter plugin <;> rfl
    exact through_eq_library h (⟨plugin, pv.compact⟩ : GetVolumeIdRequest) (fun _ => rfl) rfl rfl
      hperform (fun a => a) (fun _ => rfl) (fun _ _ => rfl)
  | setVolumeId plugin pv id =>
    have hpv := h.sendsPortable pv (by simp [documents])
    have hperform : host.setVolumeId ⟨plugin, pv.compact, id⟩ =
        host.perform ((host.registry.snapshotter plugin).map (·.setVolumeId pv id))
          fun pv => ⟨pv.compact⟩ := by
      simp only [Host.setVolumeId, host.snapshotter_of_ne_empty hnamed, Host.document_compact hpv]
      cases host.registry.snapshotter plugin <;> rfl
    refine through_eq_library h (⟨plugin, pv.compact, id⟩ : SetVolumeIdRequest) (fun _ => rfl) rfl
      rfl hperform (fun a => a) (fun _ => rfl) fun replied hreplied => ?_
    exact Client.document_compact (h.repliesPortable replied (by
      rw [hreplied]
      simp [answeredDocuments, Answer.documents]))

/-! ### Runs -/

/-- The answers of a run of calls, and the world at its end. -/
def run (call : Request → Client.Answer W Answer) : List Request → W →
    List (Except ClientError Answer) × W
  | [], world => ([], world)
  | request :: rest, world =>
    let (answer, world) := call request world
    let (answers, world) := run call rest world
    (answer :: answers, world)

/-- The calls of a run can be carried, each in the world in which the library would get it. -/
def Carried (host : Host W) : List Request → W → Prop
  | [], _ => True
  | request :: rest, world =>
    request.Carried host world ∧ Carried host rest (request.library host world).2

/-- **A client of a host refines the library.** A run of calls through a host answers the same,
call by call, and leaves the same world as the run of the calls of the library: only zero
operations a second become unset, an item like the one that was given becomes no update, and an
error becomes the status for it. -/
theorem run_through_handle (host : Host W) (requests : List Request) (world : W)
    (h : Carried host requests world) :
    run (fun request => request.through host.handle) requests world =
      run (fun request => request.library host) requests world := by
  induction requests generalizing world with
  | nil => rfl
  | cons request rest ih =>
    obtain ⟨hfirst, hrest⟩ := h
    have hone := Request.through_handle hfirst
    have hmore := ih _ hrest
    simp only [run, hone, hmore]

/-- The built-in plugins: a volume before any settings, which fails with the status for that, and a
claim. -/
theorem run_through_handle_builtins :
    let host : Host Catalogue.Site := ⟨registryOf {}, "rpc", "7"⟩
    let site : Catalogue.Site := ⟨⟨fun path _ => .opened path, fun _ => none, 7, "now"⟩, {}⟩
    let claim : Json := .obj [("spec", .obj [("volumeName", .str "pv-1")])]
    let requests : List Request :=
      [.createVolume Catalogue.pluginName ⟨"snap-1", "ssd", "", some 0⟩,
        .execute ClaimedVolume.pluginName ⟨claim, claim, claim⟩]
    Carried host requests site ∧
      run (fun request => request.through host.handle) requests site =
        run (fun request => request.library host) requests site ∧
      (run (fun request => request.through host.handle) requests site).1[0]? =
        some (.error (.status ⟨.failedPrecondition, "bkplug.io/local has not been initialized"⟩)) := by
  intro host site claim requests
  have hclaim : claim.Portable :=
    ⟨by simp [claim, Json.Exact, Json.ExactFields, Entries.Ascending], by decide⟩
  have hcarried : Carried host requests site :=
    ⟨.of_isEmpty (by decide) (by simp [Request.documents]) (by decide +kernel) (by decide +kernel)
        (by decide +kernel),
      .of_isEmpty (by decide) (by simp [Request.documents, hclaim]) (by decide +kernel)
        (by decide +kernel) (by decide +kernel),
      trivial⟩
  have hrun := run_through_handle host requests site hcarried
  refine ⟨hcarried, hrun, ?_⟩
  rw [hrun]
  rfl

end RestorePlugins.Service
