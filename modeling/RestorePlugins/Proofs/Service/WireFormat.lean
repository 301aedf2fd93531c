import RestorePlugins.Proofs.Service.Transport

namespace RestorePlugins.Service

open Wire

/-!
# The wire format

* `MessageType`, `messageTypes` — the types of messages: those of all layouts.
* `resend` — a value made a message, written, read and made of the message again.
* `wire_round_trip` — every message of every type is what each of its spellings is read as, and a
  resource, a selector or a plugin arrives as it was sent.
-/

/-- A type of messages. -/
structure MessageType where
  /-- The messages. -/
  Value : Type
  [message : Message Value]
  [sound : Sound Value]

attribute [instance] MessageType.message MessageType.sound

/-- The name of the messages of a type. -/
def MessageType.name (type : MessageType) : String :=
  (Message.layout : Layout (Message.Kind type.Value)).name

/-- The types of all messages. -/
def messageTypes : List MessageType :=
  [⟨Empty⟩, ⟨StackFrame⟩, ⟨IdentifierMessage⟩, ⟨SelectorMessage⟩, ⟨Stack⟩, ⟨AppliesToRequest⟩,
    ⟨AppliesToResponse⟩, ⟨ExecuteRequest⟩, ⟨ExecuteResponse⟩, ⟨InitRequest⟩, ⟨CreateVolumeRequest⟩,
    ⟨CreateVolumeResponse⟩, ⟨GetVolumeInfoRequest⟩, ⟨GetVolumeInfoResponse⟩,
    ⟨CreateSnapshotRequest⟩, ⟨CreateSnapshotResponse⟩, ⟨DeleteSnapshotRequest⟩,
    ⟨GetVolumeIdRequest⟩, ⟨GetVolumeIdResponse⟩, ⟨SetVolumeIdRequest⟩, ⟨SetVolumeIdResponse⟩,
    ⟨PluginLine⟩, ⟨ListPluginsResponse⟩]

/-- What becomes of a value that is sent: a message is made of it, written and read, and the value is
made of that. -/
def resend {α β γ : Type} [Message β] (toMessage : α → β) (ofMessage : β → γ) (a : α) :
    Except WireFault γ :=
  (decode β (encode (toMessage a))).map ofMessage

theorem resend_eq {α β γ : Type} [Message β] [Sound β] {toMessage : α → β} {ofMessage : β → γ}
    {a : α} (h : (encode (toMessage a)).length < UInt64.size) :
    resend toMessage ofMessage a = .ok (ofMessage (toMessage a)) := by
  rw [resend, Sound.decode_encode h]
  rfl

/-- **Round trips.** A message of any type is what each of its spellings is read as, one of which is
how it is written, and these are the types of all layouts.  A resource, a selector or a plugin that
is sent is the same when it arrives. -/
theorem wire_round_trip :
    messageTypes.map MessageType.name = layouts.map Layout.name ∧
    (∀ type ∈ messageTypes, ∀ a : type.Value, Spells a (encode a) ∧
      ∀ bs, Spells a bs → bs.length < UInt64.size → decode type.Value bs = .ok a) ∧
    (∀ id : ResourceIdentifier,
      (encode (IdentifierMessage.ofIdentifier id)).length < UInt64.size →
      resend IdentifierMessage.ofIdentifier IdentifierMessage.toIdentifier id = .ok id) ∧
    (∀ selector : ResourceSelector,
      (encode (SelectorMessage.ofSelector selector)).length < UInt64.size →
      resend SelectorMessage.ofSelector SelectorMessage.toSelector selector = .ok selector) ∧
    (∀ id : PluginIdentifier, (encode (PluginLine.ofPlugin id)).length < UInt64.size →
      resend PluginLine.ofPlugin PluginLine.toPlugin id = .ok (.ok id)) := by
  refine ⟨rfl, fun type _ a => ⟨spells_encode a, fun bs hspells hlength => ?_⟩, fun id h => ?_,
    fun selector h => ?_, fun id h => ?_⟩
  · exact decode_of_spells Sound.readable hspells hlength
  · rw [resend_eq h, IdentifierMessage.toIdentifier_ofIdentifier]
  · rw [resend_eq h, SelectorMessage.toSelector_ofSelector]
  · rw [resend_eq h, PluginLine.toPlugin_ofPlugin]

/-- The tags of a request in another order than they are written in, one of them with an empty key and
an empty value; and a volume without group and namespace that is sent. -/
theorem wire_round_trip_reordered_tags :
    let request : CreateSnapshotRequest :=
      { volumeId := "v", tags := Dict.ofPairs [("", ""), ("k", "")] }
    let bytes : Bytes := [0x12, 0x01, 0x76, 0x22, 0x03, 0x0a, 0x01, 0x6b, 0x22, 0x00]
    let volume : ResourceIdentifier := { resource := "persistentvolumes", name := "größe" }
    encode request ≠ bytes ∧ decode CreateSnapshotRequest bytes = .ok request ∧
      resend IdentifierMessage.ofIdentifier IdentifierMessage.toIdentifier volume = .ok volume := by
  intro request bytes volume
  have hentries : [("k", ""), ("", "")].Perm (Dict.ofPairs [("", ""), ("k", "")]).entries := by
    decide +kernel
  have hunset : ∀ number, ([] : Bytes) = Cell.write .text number "" := fun _ => rfl
  have hvolume : ([0x12, 0x01, 0x76] : Bytes) = Cell.write .text 2 "v" := by decide +kernel
  have hspells : Spells request bytes :=
    ⟨[], bytes, rfl, hunset 1, [0x12, 0x01, 0x76], _, rfl, hvolume, [], _, rfl, hunset 3, _, [],
      (List.append_nil _).symm, ⟨_, hentries, by decide +kernel⟩, rfl⟩
  obtain ⟨-, hmessages, hidentifiers, -⟩ := wire_round_trip
  exact ⟨by decide +kernel,
    (hmessages ⟨CreateSnapshotRequest⟩ (by simp [messageTypes]) request).2 bytes hspells (by decide),
    hidentifiers volume (by decide +kernel)⟩

end RestorePlugins.Service
