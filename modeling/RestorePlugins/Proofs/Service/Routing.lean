import RestorePlugins.Proofs.Service.Refinement
import RestorePlugins.Proofs.Text.Separators

namespace RestorePlugins

/-!
# Where a host takes its requests

A request names a plugin, and its message holds the arguments of one call.

* `Arrival`, `Ask` — a request as it arrives, and what it asks for: a plugin by kind and name, and
  a call of it, unless a document in the message cannot be read.
* `Method.isAskedBy`, `documentIn`, `Arrival.ask?` — what path asks for which method, what document
  a field spells, and with both what a request asks for.
* `Ask.Sound` — the call names that plugin, and only a document can stand in its way.
* `Ask.admitted` — the call that a host makes for it, or why it makes none: no name, no such plugin,
  or a document that cannot be read.
* `prepared` — the order of these checks in the methods of a host.
* `Host.handle_of_ask` — a request is answered by that call of the library, or by its refusal.
-/

/-! ### Look-ups -/

namespace Registry

variable {W : Type}

/-- A look-up gives a plugin that is registered under the kind and the name, or the error that there
is none. -/
def Finds {P : Type} (r : Registry W) (kind : PluginKind) (name : String)
    (found : Except PluginError P) : Prop :=
  (∃ plugin, found = .ok plugin ∧ (r.find? kind name).isSome = true) ∨
    (found = .error (.notFound kind name) ∧ r.find? kind name = none)

theorem finds_action (r : Registry W) (name : String) :
    r.Finds .restoreItemAction name (r.action name) := by
  cases hfound : r.actions.get? name with
  | none => exact .inr (by simp [Registry.action, find?, hfound])
  | some action => exact .inl ⟨action, by simp [Registry.action, find?, hfound]⟩

theorem finds_snapshotter (r : Registry W) (name : String) :
    r.Finds .volumeSnapshotter name (r.snapshotter name) := by
  cases hfound : r.snapshotters.get? name with
  | none => exact .inr (by simp [Registry.snapshotter, find?, hfound])
  | some snapshotter => exact .inl ⟨snapshotter, by simp [Registry.snapshotter, find?, hfound]⟩

/-- A look-up of a registered plugin succeeds. -/
theorem Finds.exists_plugin {P : Type} {r : Registry W} {kind : PluginKind} {name : String}
    {found : Except PluginError P} (h : r.Finds kind name found)
    (hregistered : (r.find? kind name).isSome = true) : ∃ plugin, found = .ok plugin := by
  rcases h with ⟨plugin, hfound, -⟩ | ⟨-, hnone⟩
  · exact ⟨plugin, hfound⟩
  · rw [hnone] at hregistered
    cases hregistered

end Registry

namespace Service

variable {W : Type}

/-! ### What requests ask for -/

/-- The plugin that a call names, by kind and name. -/
def Request.target? : Request → Option (PluginKind × String)
  | listPlugins => none
  | appliesTo plugin => some (.restoreItemAction, plugin)
  | execute plugin _ => some (.restoreItemAction, plugin)
  | init plugin _ => some (.volumeSnapshotter, plugin)
  | createVolume plugin _ => some (.volumeSnapshotter, plugin)
  | volumeInfo plugin _ _ => some (.volumeSnapshotter, plugin)
  | createSnapshot plugin _ => some (.volumeSnapshotter, plugin)
  | deleteSnapshot plugin _ => some (.volumeSnapshotter, plugin)
  | volumeId plugin _ => some (.volumeSnapshotter, plugin)
  | setVolumeId plugin _ _ => some (.volumeSnapshotter, plugin)

/-- A request as it arrives at a host. -/
structure Arrival where
  path : String
  body : Bytes
  deriving DecidableEq

/-- What a request asks for: a plugin, and a call of it.  In place of the call stands the error of
the first document that cannot be read. -/
structure Ask where
  kind : PluginKind
  name : String
  call : Except PluginError Request

/-- Whether a path asks for a method: nothing, or a query, stands behind the path of the method. -/
def Method.isAskedBy (path : String) (method : Method) : Bool :=
  method.path.toList.isPrefixOf path.toList &&
    (path.toList.drop method.path.toList.length).head?.all fun c => c == '?' || c == '#'

/-- The document in a field of a message, or the error that tells the field and what is wrong. -/
def documentIn (field : String) (bytes : Bytes) : Except PluginError Json :=
  match Json.parse bytes with
  | .ok document => .ok document
  | .error fault => .error (.invalidDocument (field ++ ": " ++ fault.message))

/-- What a message asks for, if it can be read. -/
def askWith {α : Type} [Wire.Message α] (body : Bytes) (ask : α → Ask) : Option Ask :=
  (Wire.decode α body).toOption.map ask

/-- The documents of an execution, each read from its own field. -/
def executeInput? (m : ExecuteRequest) : Except PluginError ExecuteInput := do
  let item ← documentIn "item" m.item
  let itemFromBackup ← documentIn "item from backup" m.itemFromBackup
  let restore ← documentIn "restore" m.restore
  .ok ⟨item, itemFromBackup, restore⟩

/-- What a request for a method asks for; a listing asks for no plugin, and zero operations a second
are none. -/
def Method.ask? (body : Bytes) : Method → Option Ask
  | listPlugins => none
  | appliesTo => askWith body fun (m : AppliesToRequest) =>
    ⟨.restoreItemAction, m.plugin, .ok (.appliesTo m.plugin)⟩
  | execute => askWith body fun (m : ExecuteRequest) =>
    ⟨.restoreItemAction, m.plugin, (executeInput? m).map (.execute m.plugin)⟩
  | init => askWith body fun (m : InitRequest) =>
    ⟨.volumeSnapshotter, m.plugin, .ok (.init m.plugin m.config)⟩
  | createVolume => askWith body fun (m : CreateVolumeRequest) =>
    ⟨.volumeSnapshotter, m.plugin, .ok (.createVolume m.plugin
      ⟨m.snapshotId, m.volumeType, m.volumeAz, if m.iops = 0 then none else some m.iops⟩)⟩
  | volumeInfo => askWith body fun (m : GetVolumeInfoRequest) =>
    ⟨.volumeSnapshotter, m.plugin, .ok (.volumeInfo m.plugin m.volumeId m.volumeAz)⟩
  | createSnapshot => askWith body fun (m : CreateSnapshotRequest) =>
    ⟨.volumeSnapshotter, m.plugin, .ok (.createSnapshot m.plugin ⟨m.volumeId, m.volumeAz, m.tags⟩)⟩
  | deleteSnapshot => askWith body fun (m : DeleteSnapshotRequest) =>
    ⟨.volumeSnapshotter, m.plugin, .ok (.deleteSnapshot m.plugin m.snapshotId)⟩
  | volumeId => askWith body fun (m : GetVolumeIdRequest) =>
    ⟨.volumeSnapshotter, m.plugin,
      (documentIn "persistent volume" m.persistentVolume).map (.volumeId m.plugin)⟩
  | setVolumeId => askWith body fun (m : SetVolumeIdRequest) =>
    ⟨.volumeSnapshotter, m.plugin, (documentIn "persistent volume" m.persistentVolume).map
      (.setVolumeId m.plugin · m.volumeId)⟩

/-- What a request asks for, if it is one for a method and can be read. -/
def Arrival.ask? (arrival : Arrival) : Option Ask :=
  (Method.all.find? (Method.isAskedBy arrival.path)).bind (Method.ask? arrival.body)

/-- A host takes a path for the method that it asks for. -/
theorem Method.ofPath?_eq_find? (path : String) :
    ofPath? path = all.find? (isAskedBy path) := by
  unfold ofPath?
  congr 1
  funext method
  -- No method has a character in its path at which a path ends, so of the two ways to look at the
  -- beginning of a path it does not matter which is taken.
  have hplain : ∀ c ∈ method.path.toList, (decide (c ≠ '?') && decide (c ≠ '#')) = true := by
    refine List.all_eq_true.1 ?_
    cases method <;> decide
  have hquery (c : Char) :
      (decide (c ≠ '?') && decide (c ≠ '#')) = false ↔ (c == '?' || c == '#') = true := by
    simp [← or_iff_not_imp_left]
  rw [Bool.eq_iff_iff, beq_iff_eq, withoutQuery, eq_comm, takeWhile_eq_iff, isAskedBy,
    Bool.and_eq_true, List.isPrefixOf_iff_prefix]
  refine and_congr_right fun _ => (and_iff_right hplain).trans ?_
  cases (path.toList.drop method.path.toList.length).head? with
  | none => simp
  | some c => simpa using hquery c

/-- What a request asks for is what it asks the method for that its path is taken for. -/
theorem Arrival.ask?_eq (arrival : Arrival) :
    arrival.ask? = (Method.ofPath? arrival.path).bind (Method.ask? arrival.body) := by
  rw [ask?, Method.ofPath?_eq_find?]

/-- A host reads the documents of its requests. -/
theorem Host.document_eq_documentIn (field : String) (bytes : Bytes) :
    Host.document field bytes = documentIn field bytes := by
  unfold Host.document documentIn
  cases Json.parse bytes <;> rfl

/-- What a message asks for. -/
theorem exists_message_of_askWith {α : Type} [Wire.Message α] {body : Bytes} {f : α → Ask}
    {ask : Ask} (h : askWith body f = some ask) :
    ∃ message, Wire.decode α body = .ok message ∧ ask = f message := by
  obtain ⟨message, hmessage, rfl⟩ := Option.map_eq_some_iff.1 h
  cases hdecode : Wire.decode α body with
  | error fault =>
    rw [hdecode] at hmessage
    cases hmessage
  | ok decoded =>
    rw [hdecode] at hmessage
    cases hmessage
    exact ⟨message, rfl, rfl⟩

/-- A message that asks for nothing cannot be read. -/
theorem exists_fault_of_askWith {α : Type} [Wire.Message α] {body : Bytes} {f : α → Ask}
    (h : askWith body f = none) : ∃ fault, Wire.decode α body = .error fault := by
  cases hdecode : Wire.decode α body with
  | error fault => exact ⟨fault, rfl⟩
  | ok message =>
    rw [askWith, hdecode] at h
    cases h

/-! ### Documents -/

/-- A call names the plugin that is asked for, and in place of a call stands the error of a
document. -/
structure Ask.Sound (ask : Ask) : Prop where
  target : ∀ {request : Request}, ask.call = .ok request →
    request.target? = some (ask.kind, ask.name)
  failure : ∀ {e : PluginError}, ask.call = .error e → ∃ text, e = .invalidDocument text

section

variable {kind : PluginKind} {name : String}

/-- A call without documents. -/
theorem Ask.sound_of_call {request : Request} (htarget : request.target? = some (kind, name)) :
    Ask.Sound ⟨kind, name, .ok request⟩ where
  target hcall := Except.ok.inj hcall ▸ htarget
  failure hcall := nomatch hcall

/-- A call that is made of documents. -/
theorem Ask.sound_of_documents {ε : Type} {documents : Except PluginError ε} {call : ε → Request}
    (htarget : ∀ arguments, (call arguments).target? = some (kind, name))
    (hdocuments : ∀ e, documents = .error e → ∃ text, e = .invalidDocument text) :
    Ask.Sound ⟨kind, name, documents.map call⟩ := by
  cases documents with
  | ok arguments => exact sound_of_call (htarget arguments)
  | error failure =>
    constructor
    · intro request hcall
      cases hcall
    · intro e hcall
      cases hcall
      exact hdocuments failure rfl

end

theorem exists_invalidDocument {field : String} {bytes : Bytes} {e : PluginError}
    (h : documentIn field bytes = .error e) : ∃ text, e = .invalidDocument text := by
  unfold documentIn at h
  cases hparse : Json.parse bytes with
  | ok document =>
    rw [hparse] at h
    cases h
  | error fault =>
    rw [hparse] at h
    exact ⟨_, (Except.error.inj h).symm⟩

/-- What fails in two parts fails in the first or, after it, in the second. -/
theorem error_of_bind {ε α β : Type} {first : Except ε α} {second : α → Except ε β} {e : ε}
    (h : (first >>= second) = .error e) :
    first = .error e ∨ ∃ a, first = .ok a ∧ second a = .error e := by
  cases first with
  | error failure =>
    cases h
    exact .inl rfl
  | ok a => exact .inr ⟨a, rfl, h⟩

/-- The documents of an execution fail where the first of them cannot be read. -/
theorem exists_invalidDocument_of_executeInput {message : ExecuteRequest} {e : PluginError}
    (h : executeInput? message = .error e) : ∃ text, e = .invalidDocument text := by
  rcases error_of_bind h with hitem | ⟨item, -, h⟩
  · exact exists_invalidDocument hitem
  rcases error_of_bind h with hbackup | ⟨itemFromBackup, -, h⟩
  · exact exists_invalidDocument hbackup
  rcases error_of_bind h with hrestore | ⟨restore, -, h⟩
  · exact exists_invalidDocument hrestore
  cases h

/-- What a request asks for is sound. -/
theorem Arrival.sound_ask {arrival : Arrival} {ask : Ask} (h : arrival.ask? = some ask) :
    ask.Sound := by
  obtain ⟨method, -, hask⟩ := Option.bind_eq_some_iff.1 h
  cases method with
  | listPlugins => cases hask
  | execute =>
    obtain ⟨message, -, rfl⟩ := exists_message_of_askWith hask
    exact Ask.sound_of_documents (fun _ => rfl) fun _ => exists_invalidDocument_of_executeInput
  | volumeId =>
    obtain ⟨message, -, rfl⟩ := exists_message_of_askWith hask
    exact Ask.sound_of_documents (fun _ => rfl) fun _ => exists_invalidDocument
  | setVolumeId =>
    obtain ⟨message, -, rfl⟩ := exists_message_of_askWith hask
    exact Ask.sound_of_documents (fun _ => rfl) fun _ => exists_invalidDocument
  | _ =>
    obtain ⟨message, -, rfl⟩ := exists_message_of_askWith hask
    exact Ask.sound_of_call rfl

/-! ### Answers -/

/-- The call that a host makes for what a request asks for, or why it makes none, in the order of
the checks. -/
def Ask.admitted (host : Host W) (ask : Ask) : Except PluginError Request :=
  if ask.name = "" then .error .missingName
  else if (host.registry.find? ask.kind ask.name).isSome then ask.call
  else .error (.notFound ask.kind ask.name)

/-- The answer of a host: the refusal, or the reply that is made of the answer of the library. -/
def Ask.answered (host : Host W) (reply : Answer → Bytes) (ask : Ask) (world : W) :
    Except Status Bytes × W :=
  match ask.admitted host with
  | .error e => (.error (.ofError e), world)
  | .ok request =>
    (((Host.contain host.task (request.direct host world).1).map reply).mapError .ofError,
      (request.direct host world).2)

/-- The reply that a method makes of an answer of the library. -/
def Method.fill (body : Bytes) : Method → Answer → Bytes
  | appliesTo, .selector selector => Wire.encode (⟨some (.ofSelector selector)⟩ : AppliesToResponse)
  | execute, .output output =>
    match Wire.decode ExecuteRequest body with
    | .ok message => Wire.encode (Host.executeReply message output)
    | .error _ => []
  | init, .done => Wire.encode ({} : Empty)
  | createVolume, .id id => Wire.encode (⟨id⟩ : CreateVolumeResponse)
  | volumeInfo, .info info =>
    Wire.encode (⟨info.volumeType, iopsToWire info.iops⟩ : GetVolumeInfoResponse)
  | createSnapshot, .id id => Wire.encode (⟨id⟩ : CreateSnapshotResponse)
  | deleteSnapshot, .done => Wire.encode ({} : Empty)
  | volumeId, .id id => Wire.encode (⟨id⟩ : GetVolumeIdResponse)
  | setVolumeId, .document pv => Wire.encode (⟨pv.compact⟩ : SetVolumeIdResponse)
  | _, _ => []

/-- What an answer becomes in the reply to a request. -/
def Arrival.fill (arrival : Arrival) (answer : Answer) : Bytes :=
  match Method.ofPath? arrival.path with
  | some method => method.fill arrival.body answer
  | none => []

/-! ### Methods -/

/-- A call that is prepared in the order of the checks: the name, the plugin, the documents. -/
def prepared {P ε δ : Type} (name : String) (found : Except PluginError P)
    (documents : Except PluginError ε) (call : P → ε → Call W δ) :
    Except PluginError (Call W δ) := do
  Host.requirePlugin name
  let plugin ← found
  let arguments ← documents
  .ok (call plugin arguments)

section

variable {P α β δ : Type} [Wire.Message α] [Wire.Message β] {host : Host W} {kind : PluginKind}
  {name : String} {found : Except PluginError P} {reply : δ → β} {fill : Answer → Bytes}
  {body : Bytes} {message : α} {onMethod : α → W → Except PluginError β × W} {world : W}

/-- A method that prepares a call in that order answers as it is asked. -/
theorem onBytes_eq_answered {ε : Type} {call : P → ε → Call W δ}
    (documents : Except PluginError ε) (request : ε → Request) (raw : δ → Answer)
    (hdecode : Wire.decode α body = .ok message)
    (hfound : host.registry.Finds kind name found)
    (hmethod : onMethod message = host.perform (prepared name found documents call) reply)
    (hdirect : ∀ arguments,
      (request arguments).direct host = Request.ask found (call · arguments) raw)
    (hfill : ∀ answer, fill (raw answer) = Wire.encode (reply answer)) :
    Host.onBytes onMethod body world =
      Ask.answered host fill ⟨kind, name, documents.map request⟩ world := by
  simp only [Host.onBytes, hdecode, hmethod, prepared]
  by_cases hname : name = ""
  · have hadmitted : Ask.admitted host ⟨kind, name, documents.map request⟩ =
        .error .missingName := if_pos hname
    rw [Ask.answered, hadmitted, Host.requirePlugin, if_pos hname]
    rfl
  · have hrequired : Host.requirePlugin name = .ok () := if_neg hname
    rw [Ask.answered, hrequired]
    rcases hfound with ⟨plugin, rfl, hpresent⟩ | ⟨rfl, habsent⟩
    · have hadmitted : Ask.admitted host ⟨kind, name, documents.map request⟩ =
          documents.map request := by
        simp only [Ask.admitted, hname, hpresent, if_false, if_true]
      rw [hadmitted]
      cases documents with
      | error e => rfl
      | ok arguments =>
        simp only [Except.map, hdirect, Request.ask]
        show (((Host.contain host.task (call plugin arguments world).1).map reply).mapError
          Status.ofError |>.map Wire.encode, _) = _
        cases (call plugin arguments world).1 with
        | ok answer =>
          show (Except.ok (Wire.encode (reply answer)), _) = (Except.ok (fill (raw answer)), _)
          rw [hfill]
          rfl
        | error failure =>
          -- A panic has become an error on both sides before the reply is made.
          cases failure <;> rfl
    · have hadmitted : Ask.admitted host ⟨kind, name, documents.map request⟩ =
          .error (.notFound kind name) := by
        simp [Ask.admitted, hname, habsent]
      rw [hadmitted]
      rfl

/-- A method without documents. -/
theorem onBytes_eq_answered_of_map {call : P → Call W δ} {request : Request} (raw : δ → Answer)
    (hdecode : Wire.decode α body = .ok message)
    (hfound : host.registry.Finds kind name found)
    (hmethod : onMethod message =
      host.perform ((Host.requirePlugin name >>= fun _ => found).map call) reply)
    (hdirect : request.direct host = Request.ask found call raw)
    (hfill : ∀ answer, fill (raw answer) = Wire.encode (reply answer)) :
    Host.onBytes onMethod body world = Ask.answered host fill ⟨kind, name, .ok request⟩ world := by
  have hprepared : (Host.requirePlugin name >>= fun _ => found).map call =
      prepared name found (.ok ()) fun plugin _ => call plugin := by
    unfold prepared
    cases Host.requirePlugin name with
    | error e => rfl
    | ok _ => cases found <;> rfl
  rw [hprepared] at hmethod
  exact onBytes_eq_answered (.ok ()) (fun _ => request) raw hdecode hfound hmethod
    (fun _ => hdirect) hfill

/-- A method that goes on with documents after it has found a plugin. -/
theorem bind_eq_prepared {ε : Type} {call : P → ε → Call W δ} (name : String)
    (found : Except PluginError P) (documents : Except PluginError ε) :
    ((Host.requirePlugin name >>= fun _ => found) >>= fun plugin =>
      documents >>= fun arguments => .ok (call plugin arguments)) =
      prepared name found documents call := by
  unfold prepared
  cases Host.requirePlugin name with
  | error e => rfl
  | ok _ => cases found <;> rfl

end

/-- An execution reads its documents after it has found the action. -/
theorem Host.execute_eq_perform (host : Host W) (message : ExecuteRequest) :
    host.execute message = host.perform (prepared message.plugin
      (host.registry.action message.plugin) (executeInput? message) RestoreAction.execute)
      (Host.executeReply message) := by
  refine congrArg (host.perform · (Host.executeReply message)) ?_
  rw [← bind_eq_prepared]
  -- Both look the action up first; what is left is that the three documents are read in a row.
  show (host.action message.plugin >>= fun action => _) =
    (host.action message.plugin >>= fun action => _)
  congr 1
  funext action
  simp only [Host.document_eq_documentIn]
  unfold executeInput?
  cases documentIn "item" message.item with
  | error e => rfl
  | ok item =>
    cases documentIn "item from backup" message.itemFromBackup with
    | error e => rfl
    | ok itemFromBackup => cases documentIn "restore" message.restore <;> rfl

/-- The id of a persistent volume is asked for after the snapshotter is found and the volume is
read. -/
theorem Host.volumeId_eq_perform (host : Host W) (message : GetVolumeIdRequest) :
    host.volumeId message = host.perform (prepared message.plugin
      (host.registry.snapshotter message.plugin)
      (documentIn "persistent volume" message.persistentVolume) Snapshotter.volumeId)
      fun id => ⟨id⟩ := by
  simp only [Host.volumeId, Host.document_eq_documentIn]
  exact congrArg (host.perform · _) (bind_eq_prepared ..)

/-- Another id is set after the snapshotter is found and the volume read. -/
theorem Host.setVolumeId_eq_perform (host : Host W) (message : SetVolumeIdRequest) :
    host.setVolumeId message = host.perform (prepared message.plugin
      (host.registry.snapshotter message.plugin)
      (documentIn "persistent volume" message.persistentVolume)
      fun snapshotter pv => snapshotter.setVolumeId pv message.volumeId)
      fun pv => ⟨pv.compact⟩ := by
  simp only [Host.setVolumeId, Host.document_eq_documentIn]
  exact congrArg (host.perform · _) (bind_eq_prepared ..)

/-! ### Requests -/

/-- **Routing.** A request that asks for a plugin is answered by the call of the library that it
asks for, or by the refusal of that. -/
theorem Host.handle_of_ask {arrival : Arrival} {ask : Ask} (h : arrival.ask? = some ask)
    (host : Host W) (world : W) :
    host.handle arrival.path arrival.body world = ask.answered host arrival.fill world := by
  rw [arrival.ask?_eq] at h
  obtain ⟨method, hmethod, hask⟩ := Option.bind_eq_some_iff.1 h
  have hfill : arrival.fill = method.fill arrival.body := by
    funext answer
    simp only [Arrival.fill, hmethod]
  have hactions := host.registry.finds_action
  have hsnapshotters := host.registry.finds_snapshotter
  simp only [Host.handle, hmethod, hfill]
  cases method with
  | listPlugins => cases hask
  | appliesTo =>
    obtain ⟨message, hdecode, rfl⟩ := exists_message_of_askWith hask
    show Host.onBytes host.appliesTo arrival.body world = _
    exact onBytes_eq_answered_of_map .selector hdecode (hactions _) rfl rfl (fun _ => rfl)
  | execute =>
    obtain ⟨message, hdecode, rfl⟩ := exists_message_of_askWith hask
    show Host.onBytes host.execute arrival.body world = _
    -- The reply shows the item of the message where the action did not change it.
    have hreply : ∀ output, Method.fill arrival.body .execute (.output output) =
        Wire.encode (Host.executeReply message output) := by
      intro output
      simp only [Method.fill, hdecode]
    exact onBytes_eq_answered _ (.execute message.plugin) .output hdecode (hactions _)
      (host.execute_eq_perform message) (fun _ => rfl) hreply
  | init =>
    obtain ⟨message, hdecode, rfl⟩ := exists_message_of_askWith hask
    show Host.onBytes host.init arrival.body world = _
    exact onBytes_eq_answered_of_map (fun () => .done) hdecode (hsnapshotters _) rfl rfl
      (fun _ => rfl)
  | createVolume =>
    obtain ⟨message, hdecode, rfl⟩ := exists_message_of_askWith hask
    show Host.onBytes host.createVolume arrival.body world = _
    exact onBytes_eq_answered_of_map .id hdecode (hsnapshotters _) rfl rfl (fun _ => rfl)
  | volumeInfo =>
    obtain ⟨message, hdecode, rfl⟩ := exists_message_of_askWith hask
    show Host.onBytes host.volumeInfo arrival.body world = _
    exact onBytes_eq_answered_of_map .info hdecode (hsnapshotters _) rfl rfl (fun _ => rfl)
  | createSnapshot =>
    obtain ⟨message, hdecode, rfl⟩ := exists_message_of_askWith hask
    show Host.onBytes host.createSnapshot arrival.body world = _
    exact onBytes_eq_answered_of_map .id hdecode (hsnapshotters _) rfl rfl (fun _ => rfl)
  | deleteSnapshot =>
    obtain ⟨message, hdecode, rfl⟩ := exists_message_of_askWith hask
    show Host.onBytes host.deleteSnapshot arrival.body world = _
    exact onBytes_eq_answered_of_map (fun () => .done) hdecode (hsnapshotters _) rfl rfl
      (fun _ => rfl)
  | volumeId =>
    obtain ⟨message, hdecode, rfl⟩ := exists_message_of_askWith hask
    show Host.onBytes host.volumeId arrival.body world = _
    exact onBytes_eq_answered _ (.volumeId message.plugin) .id hdecode (hsnapshotters _)
      (host.volumeId_eq_perform message) (fun _ => rfl) (fun _ => rfl)
  | setVolumeId =>
    obtain ⟨message, hdecode, rfl⟩ := exists_message_of_askWith hask
    show Host.onBytes host.setVolumeId arrival.body world = _
    exact onBytes_eq_answered _ (.setVolumeId message.plugin · message.volumeId) .document hdecode
      (hsnapshotters _) (host.setVolumeId_eq_perform message) (fun _ => rfl) (fun _ => rfl)

end Service

end RestorePlugins
