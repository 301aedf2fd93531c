import RestorePlugins.Proofs.Wire.Kinds
import RestorePlugins.Service.Client

namespace RestorePlugins.Service

open Wire

/-!
# Calls over the wire

* `Sound` — the types of messages that are what their bytes spell: all of them.
* `ClientError.codeOf`, `ClientError.ofFailure` — what a client is told when a plugin fails.
* `Client.call_handle` — a call through a host is the method of the host, on messages.
* `Client.call_perform` — it is the call of a plugin, when the host performs one.
-/

variable {W : Type}

/-! ### Messages -/

/-- A type of messages that are what their bytes spell. -/
class Sound (α : Type) [Message α] where
  /-- The spellings of the fields: those of cells or of parts. -/
  {spellings : FieldSpellings (Message.Kind α)}
  readable : (Message.layout : Layout (Message.Kind α)).Readable

attribute [reducible, instance] Sound.spellings

/-- A message whose length can be told is read back. -/
theorem Sound.decode_encode {α : Type} [Message α] [Sound α] {a : α}
    (h : (encode a).length < UInt64.size) : decode α (encode a) = .ok a :=
  decode_of_spells Sound.readable (spells_encode a) h

instance : Sound Empty := ⟨readable_cells (by decide : emptyLayout.Numbered)⟩

instance : Sound StackFrame := ⟨readable_cells (by decide : stackFrameLayout.Numbered)⟩

instance : Sound IdentifierMessage :=
  ⟨readable_cells (by decide : resourceIdentifierLayout.Numbered)⟩

instance : Sound SelectorMessage :=
  ⟨readable_cells (by decide : resourceSelectorLayout.Numbered)⟩

instance : Sound Stack := ⟨readable_parts (by decide : stackLayout.Numbered) (by decide)⟩

instance : Sound AppliesToRequest :=
  ⟨readable_cells (by decide : appliesToRequestLayout.Numbered)⟩

instance : Sound AppliesToResponse :=
  ⟨readable_parts (by decide : appliesToResponseLayout.Numbered) (by decide)⟩

instance : Sound ExecuteRequest := ⟨readable_cells (by decide : executeRequestLayout.Numbered)⟩

instance : Sound ExecuteResponse :=
  ⟨readable_parts (by decide : executeResponseLayout.Numbered) (by decide)⟩

instance : Sound InitRequest := ⟨readable_cells (by decide : initRequestLayout.Numbered)⟩

instance : Sound CreateVolumeRequest :=
  ⟨readable_cells (by decide : createVolumeRequestLayout.Numbered)⟩

instance : Sound CreateVolumeResponse :=
  ⟨readable_cells (by decide : createVolumeResponseLayout.Numbered)⟩

instance : Sound GetVolumeInfoRequest :=
  ⟨readable_cells (by decide : getVolumeInfoRequestLayout.Numbered)⟩

instance : Sound GetVolumeInfoResponse :=
  ⟨readable_cells (by decide : getVolumeInfoResponseLayout.Numbered)⟩

instance : Sound CreateSnapshotRequest :=
  ⟨readable_cells (by decide : createSnapshotRequestLayout.Numbered)⟩

instance : Sound CreateSnapshotResponse :=
  ⟨readable_cells (by decide : createSnapshotResponseLayout.Numbered)⟩

instance : Sound DeleteSnapshotRequest :=
  ⟨readable_cells (by decide : deleteSnapshotRequestLayout.Numbered)⟩

instance : Sound GetVolumeIdRequest :=
  ⟨readable_cells (by decide : getVolumeIdRequestLayout.Numbered)⟩

instance : Sound GetVolumeIdResponse :=
  ⟨readable_cells (by decide : getVolumeIdResponseLayout.Numbered)⟩

instance : Sound SetVolumeIdRequest :=
  ⟨readable_cells (by decide : setVolumeIdRequestLayout.Numbered)⟩

instance : Sound SetVolumeIdResponse :=
  ⟨readable_cells (by decide : setVolumeIdResponseLayout.Numbered)⟩

instance : Sound PluginLine := ⟨readable_cells (by decide : pluginLineLayout.Numbered)⟩

instance : Sound ListPluginsResponse :=
  ⟨readable_parts (by decide : listPluginsResponseLayout.Numbered) (by decide)⟩

/-! ### Failures -/

namespace ClientError

/-- The code that a client is told an error with: something is missing, the request is wrong, the
plugin has no settings yet, or anything else. -/
def codeOf : PluginError → Code
  | .notFound _ _ | .snapshotNotFound _ => .notFound
  | .missingName | .invalidName _ _ | .invalidDocument _ | .invalidConfigKey _ _ | .badJson _ =>
    .invalidArgument
  | .notInitialized _ => .failedPrecondition
  | .alreadyRegistered _ _ | .database _ _ | .databaseLocked | .internal _ => .unknown

/-- What a client is told when a plugin fails: the code and the wording of the error.  A panic is an
internal error of the task in which the plugin was called. -/
def ofFailure (task : String) : Failure → ClientError
  | .error e => .status ⟨codeOf e, e.message⟩
  | .panic message =>
    let text := "task " ++ task ++ " panicked with message " ++ quoted message
    .status ⟨.unknown, (PluginError.internal text).message⟩

end ClientError

/-- The status of a host for an error has that code and that wording. -/
theorem Status.ofError_eq (e : PluginError) :
    Status.ofError e = ⟨ClientError.codeOf e, e.message⟩ := by
  cases e <;> rfl

/-! ### Calls -/

/-- The path of a method asks for that method. -/
theorem Method.ofPath?_path (method : Method) : Method.ofPath? method.path = some method := by
  cases method <;> decide

/-- What a client has of a call of a plugin that a host has to find first. -/
def Client.asked {P γ δ : Type} (task : String) (found : Except PluginError P)
    (call : P → Call W δ) (become : δ → γ) : Client.Answer W γ := fun world =>
  match found with
  | .error e => (.error (.ofFailure task (.error e)), world)
  | .ok plugin =>
    let (answer, world) := call plugin world
    ((answer.map become).mapError (ClientError.ofFailure task), world)

/-- The length of a reply; a failure has none. -/
def replyLength : Except Status Bytes → Nat
  | .ok reply => reply.length
  | .error _ => 0

/-- The method of a host on messages is what a client calls, as long as the lengths of the request
and of the reply can be told. -/
theorem Client.call_handle {α β γ : Type} [Message α] [Message β] [Sound α] [Sound β]
    {host : Host W} {method : Method} {onMethod : α → W → Except PluginError β × W}
    (hmethod : host.answer method = Host.onBytes onMethod) (request : α)
    (read : β → Except ClientError γ) {world : W} (hrequest : (encode request).length < UInt64.size)
    (hreply : replyLength (host.handle method.path (encode request) world).1 < UInt64.size) :
    Client.call host.handle method request read world =
      (((onMethod request world).1.mapError fun e => .ofFailure host.task (.error e)).bind read,
        (onMethod request world).2) := by
  have hdecode := Sound.decode_encode hrequest
  have hhandle : host.handle method.path (encode request) world =
      (((onMethod request world).1.mapError Status.ofError).map encode,
        (onMethod request world).2) := by
    simp only [Host.handle, Method.ofPath?_path, hmethod, Host.onBytes, hdecode]
  -- The request has arrived; what is left is the way back.
  simp only [hhandle] at hreply
  simp only [Client.call, hhandle]
  cases hanswer : (onMethod request world).1 with
  | error e =>
    show ((.error (.status (.ofError e)), _) : Except ClientError γ × W) = _
    rw [Status.ofError_eq]
    rfl
  | ok reply =>
    rw [hanswer] at hreply
    have hback := Sound.decode_encode hreply
    show (Except.bind ((decode β (encode reply)).mapError fun fault =>
      .status ⟨.internal, fault.message⟩) read, _) = _
    rw [hback]
    rfl

/-- **Calls.** When a host performs a call of a plugin that it finds, and the client makes of each
reply what becomes of the answer, the client has what becomes of the answer of the plugin. -/
theorem Client.call_perform {P α β γ δ : Type} [Message α] [Message β] [Sound α] [Sound β]
    {host : Host W} {method : Method} {onMethod : α → W → Except PluginError β × W}
    (hmethod : host.answer method = Host.onBytes onMethod) {request : α}
    {found : Except PluginError P} {call : P → Call W δ} {reply : δ → β}
    (hperform : onMethod request = host.perform (found.map call) reply)
    {read : β → Except ClientError γ} (become : δ → γ) {world : W}
    (hread : ∀ plugin a, found = .ok plugin → (call plugin world).1 = .ok a →
      read (reply a) = .ok (become a))
    (hrequest : (encode request).length < UInt64.size)
    (hreply : replyLength (host.handle method.path (encode request) world).1 < UInt64.size) :
    Client.call host.handle method request read world =
      Client.asked host.task found call become world := by
  rw [Client.call_handle hmethod request read hrequest hreply, hperform]
  cases found with
  | error e => rfl
  | ok plugin =>
    simp only [Host.perform, Client.asked, Except.map]
    cases hanswer : (call plugin world).1 with
    | error failure => cases failure <;> rfl
    | ok a => exact congrArg (·, _) (hread plugin a rfl hanswer)

end RestorePlugins.Service
