import RestorePlugins.Proofs.Json.RoundTrip
import RestorePlugins.Proofs.Service.Routing

namespace RestorePlugins.Service

/-!
# Documents pass by value

A host reads the documents of a request and hands them to a plugin, and writes the document that comes
back.  What the plugin sees, and what becomes of it, depends on the documents and not on how they are
spelled.

* `SameDocument` — two texts are read as one document.
* `SameReply` — two answers to an execution differ in the spelling of the item only.
* `Host.execute_of_read`, `Host.setVolumeId_of_read` — a method on documents that can be read.
* `documents_by_value` — documents go through a host by value, both ways.
-/

variable {W : Type}

/-! ### Single requests -/

theorem Host.document_of_read {what : String} {bytes : Bytes} {doc : Json}
    (h : Json.parse bytes = .ok doc) : Host.document what bytes = .ok doc := by
  rw [Host.document, h]
  rfl

/-- An execution is the call of the action on the documents. -/
theorem Host.execute_of_read {host : Host W} {r : ExecuteRequest} {action : RestoreAction W}
    {input : ExecuteInput} (haction : host.action r.plugin = .ok action)
    (hitem : Json.parse r.item = .ok input.item)
    (hbackup : Json.parse r.itemFromBackup = .ok input.itemFromBackup)
    (hrestore : Json.parse r.restore = .ok input.restore) :
    host.execute r = host.perform (.ok (action.execute input)) (Host.executeReply r) := by
  simp only [Host.execute, haction, Host.document_of_read hitem, Host.document_of_read hbackup,
    Host.document_of_read hrestore, bind, Except.bind]

/-- Another id is set by the call of the snapshotter on the document. -/
theorem Host.setVolumeId_of_read {host : Host W} {r : SetVolumeIdRequest}
    {snapshotter : Snapshotter W} {pv : Json} (hfound : host.snapshotter r.plugin = .ok snapshotter)
    (hpv : Json.parse r.persistentVolume = .ok pv) :
    host.setVolumeId r =
      host.perform (.ok (snapshotter.setVolumeId pv r.volumeId)) fun pv => ⟨pv.compact⟩ := by
  simp only [Host.setVolumeId, hfound, Host.document_of_read hpv, bind, Except.bind]

/-- The item of a reply is the item of the request, or a text of the document that it was changed
to. -/
theorem Host.item_executeReply (r : ExecuteRequest) (output : ExecuteOutput) :
    (output.updatedItem = none → (Host.executeReply r output).item = r.item) ∧
      ∀ item, output.updatedItem = some item → item.Portable →
        Json.parse (Host.executeReply r output).item = .ok item := by
  constructor
  · intro hkept
    simp only [Host.executeReply, hkept]
  · intro item hchanged hportable
    simp only [Host.executeReply, hchanged]
    exact Json.parse_compact hportable

/-! ### Two requests -/

/-- Two texts are read as one document. -/
def SameDocument (a b : Bytes) : Prop := ∃ doc, Json.parse a = .ok doc ∧ Json.parse b = .ok doc

/-- Two answers to an execution are one error, or replies whose items are read alike and which agree in
all else. -/
inductive SameReply :
    Except PluginError ExecuteResponse → Except PluginError ExecuteResponse → Prop
  | refused (e : PluginError) : SameReply (.error e) (.error e)
  | replied {a b : ExecuteResponse} (hitem : Json.parse a.item = Json.parse b.item)
      (hitems : a.additionalItems = b.additionalItems) (hskip : a.skipRestore = b.skipRestore) :
      SameReply (.ok a) (.ok b)

theorem SameDocument.documentIn_eq {a b : Bytes} (h : SameDocument a b) (field : String) :
    documentIn field a = documentIn field b := by
  obtain ⟨doc, ha, hb⟩ := h
  simp only [documentIn, ha, hb]

/-- One call with replies that are made of two spellings of the item. -/
theorem Host.sameReply_perform (host : Host W) (call : Except PluginError (Call W ExecuteOutput))
    {r s : ExecuteRequest} (h : SameDocument r.item s.item) (world : W) :
    (host.perform call (Host.executeReply r) world).2 =
        (host.perform call (Host.executeReply s) world).2 ∧
      SameReply (host.perform call (Host.executeReply r) world).1
        (host.perform call (Host.executeReply s) world).1 := by
  cases call with
  | error e => exact ⟨rfl, .refused e⟩
  | ok call =>
    refine ⟨rfl, ?_⟩
    simp only [Host.perform]
    cases Host.contain host.task (call world).1 with
    | error e => exact .refused e
    | ok output =>
      refine .replied ?_ rfl rfl
      cases hchanged : output.updatedItem with
      | none =>
        obtain ⟨doc, hr, hs⟩ := h
        simp only [Host.executeReply, hchanged, hr, hs]
      | some item => simp only [Host.executeReply, hchanged]

/-! ### Documents -/

/-- **Documents by value.** Of an execution on documents that can be read: the plugin is called on the
documents, an item that it keeps goes back byte for byte, and an item that it changes goes back as a
text of the changed item; its error goes back as it is.  A persistent volume with another id goes back
as a text of that volume.  Requests that spell the same documents make the same call, leave the same
world behind and have the same answer, up to the spelling of an item.  Spellings of one document are
read as that document, in which the fields of an object can be in any order and the last of fields with
one key counts. -/
theorem documents_by_value (host : Host W) :
    (∀ (r : ExecuteRequest) (action : RestoreAction W) (input : ExecuteInput),
      host.action r.plugin = .ok action → Json.parse r.item = .ok input.item →
      Json.parse r.itemFromBackup = .ok input.itemFromBackup →
      Json.parse r.restore = .ok input.restore → ∀ world,
        (host.execute r world).2 = (action.execute input world).2 ∧
        (∀ output, (action.execute input world).1 = .ok output → ∃ reply,
          (host.execute r world).1 = .ok reply ∧
          (output.updatedItem = none → reply.item = r.item) ∧
          (∀ item, output.updatedItem = some item → item.Portable →
            Json.parse reply.item = .ok item) ∧
          (reply.additionalItems = output.additionalItems.map fun id =>
            { group := id.group, resource := id.resource, «namespace» := id.namespace,
              name := id.name }) ∧
          reply.skipRestore = output.skipRestore) ∧
        ∀ e, (action.execute input world).1 = .error (.error e) →
          (host.execute r world).1 = .error e) ∧
    (∀ (r : SetVolumeIdRequest) (snapshotter : Snapshotter W) (pv : Json),
      host.snapshotter r.plugin = .ok snapshotter → Json.parse r.persistentVolume = .ok pv →
      ∀ world, (host.setVolumeId r world).2 = (snapshotter.setVolumeId pv r.volumeId world).2 ∧
        ∀ changed, (snapshotter.setVolumeId pv r.volumeId world).1 = .ok changed → ∃ reply,
          (host.setVolumeId r world).1 = .ok reply ∧
          (changed.Portable → Json.parse reply.persistentVolume = .ok changed)) ∧
    (∀ r s : ExecuteRequest, r.plugin = s.plugin → SameDocument r.item s.item →
      SameDocument r.itemFromBackup s.itemFromBackup → SameDocument r.restore s.restore →
      (∃ call, host.execute r = host.perform call (Host.executeReply r) ∧
        host.execute s = host.perform call (Host.executeReply s)) ∧
      ∀ world, (host.execute r world).2 = (host.execute s world).2 ∧
        SameReply (host.execute r world).1 (host.execute s world).1) ∧
    (∀ r s : GetVolumeIdRequest, r.plugin = s.plugin →
      SameDocument r.persistentVolume s.persistentVolume → host.volumeId r = host.volumeId s) ∧
    (∀ r s : SetVolumeIdRequest, r.plugin = s.plugin → r.volumeId = s.volumeId →
      SameDocument r.persistentVolume s.persistentVolume →
      host.setVolumeId r = host.setVolumeId s) ∧
    (∀ doc a b, Json.SpellsElement 127 doc a → Json.SpellsElement 127 doc b → SameDocument a b) ∧
    ∀ fields : List (String × Json),
      (∀ others, fields.Perm others → (fields.map Prod.fst).Nodup →
        Json.obj (Entries.ofPairs fields) = .obj (Entries.ofPairs others)) ∧
      ∀ key, (Json.obj (Entries.ofPairs fields)).get? key = Entries.find? key fields.reverse := by
  refine ⟨fun r action input haction hitem hbackup hrestore world => ?_,
    fun r snapshotter pv hfound hpv world => ?_, fun r s hplugin hitem hbackup hrestore => ?_,
    fun r s hplugin hpv => ?_, fun r s hplugin hid hpv => ?_,
    fun doc a b ha hb => ⟨doc, Json.parse_of_spells ha, Json.parse_of_spells hb⟩,
    fun fields => ⟨fun others hperm hdistinct => ?_, fun key => Dict.get?_ofPairs key fields⟩⟩
  · rw [Host.execute_of_read haction hitem hbackup hrestore]
    simp only [Host.perform]
    refine ⟨trivial, fun output houtput => ?_, fun e herror => ?_⟩
    · rw [houtput]
      obtain ⟨hkept, hchanged⟩ := Host.item_executeReply r output
      exact ⟨_, rfl, hkept, hchanged, rfl, rfl⟩
    · rw [herror]
      rfl
  · rw [Host.setVolumeId_of_read hfound hpv]
    simp only [Host.perform]
    refine ⟨trivial, fun changed hchanged => ?_⟩
    rw [hchanged]
    exact ⟨_, rfl, Json.parse_compact⟩
  · have hinput : executeInput? r = executeInput? s := by
      simp only [executeInput?, hitem.documentIn_eq, hbackup.documentIn_eq,
        hrestore.documentIn_eq]
    have hr := Host.execute_eq_perform host r
    have hs := Host.execute_eq_perform host s
    rw [hplugin, hinput] at hr
    refine ⟨⟨_, hr, hs⟩, fun world => ?_⟩
    rw [hr, hs]
    exact Host.sameReply_perform host _ hitem world
  · simp only [Host.volumeId_eq_perform, hplugin, hpv.documentIn_eq]
  · simp only [Host.setVolumeId_eq_perform, hplugin, hid, hpv.documentIn_eq]
  · exact congrArg (fun d => Json.obj (Dict.entries d)) (Dict.ofPairs_perm hperm hdistinct)

/-- An item with a blank, an escape and a repeated key is treated as the item without them: a plugin
that keeps items answers alike to both, with the item as it came. -/
theorem documents_by_value_respelt :
    let keeps : RestoreAction Unit := .ofRule {} fun _ => .ok .unchanged
    let host : Host Unit := ⟨Registry.empty.put "example.com/a" (.action keeps), "host", "7"⟩
    let plain : Bytes := [0x7b, 0x22, 0x6b, 0x22, 0x3a, 0x22, 0x41, 0x22, 0x7d]
    let respelt : Bytes := [0x20, 0x7b, 0x22, 0x6b, 0x22, 0x3a, 0x6e, 0x75, 0x6c, 0x6c, 0x2c, 0x22,
      0x6b, 0x22, 0x3a, 0x22, 0x5c, 0x75, 0x30, 0x30, 0x34, 0x31, 0x22, 0x7d]
    SameDocument plain respelt ∧ Json.parse respelt = .ok (.obj [("k", .str "A")]) ∧
      SameReply (host.execute ⟨"example.com/a", plain, plain, plain⟩ ()).1
        (host.execute ⟨"example.com/a", respelt, plain, respelt⟩ ()).1 ∧
      ∃ reply, (host.execute ⟨"example.com/a", respelt, plain, plain⟩ ()).1 = .ok reply ∧
        reply.item = respelt := by
  intro keeps host plain respelt
  have hkey : Json.SpellsText "k" [0x6b] :=
    .cons (.plain (by decide) (by decide) (by decide)) .nil
  have hA : Json.SpellsText "A" [0x41] :=
    .cons (.plain (by decide) (by decide) (by decide)) .nil
  have hunit : Json.SpellsUnit 0x41 [0x30, 0x30, 0x34, 0x31] :=
    .digits (x := 0) (y := 0) (z := 4) (w := 1) (by decide) (by decide) (by decide) (by decide)
  have hescaped : Json.SpellsText "A" ((0x5c :: 0x75 :: [0x30, 0x30, 0x34, 0x31]) ++ []) :=
    .cons (.unit hunit) .nil
  have hnone := Json.blanks_nil
  have hblank : Json.Blanks [0x20] := by simp [Json.Blanks, Json.isBlank]
  have hplain : Json.SpellsElement 127 (.obj [("k", .str "A")]) plain :=
    (Json.Spells.obj (.one (.mk hnone hkey hnone (Json.Spells.str hA).element))).element
  have hfields : Json.SpellsFields 126 [("k", .null), ("k", .str "A")] _ :=
    .more (.mk hnone hkey hnone Json.Spells.null.element)
      (.one (.mk hnone hkey hnone (Json.Spells.str hescaped).element))
  have hlast : Entries.ofPairs [("k", Json.null), ("k", .str "A")] = [("k", .str "A")] := by
    simp [Entries.ofPairs, Entries.insert]
  have hrespelt : Json.SpellsElement 127 (.obj [("k", .str "A")]) respelt := by
    have hobj := Json.Spells.obj hfields
    rw [hlast] at hobj
    exact .mk hblank hobj hnone
  obtain ⟨hexecute, -, htwo, -, -, hspelled, -⟩ := documents_by_value host
  have hsame := hspelled _ plain respelt hplain hrespelt
  have hread := Json.parse_of_spells hplain
  have hreadRespelt := Json.parse_of_spells hrespelt
  refine ⟨hsame, hreadRespelt, ?_, ?_⟩
  · exact ((htwo ⟨"example.com/a", plain, plain, plain⟩ ⟨"example.com/a", respelt, plain, respelt⟩
      rfl hsame hsame ⟨_, hread, hread⟩).2 ()).2
  · obtain ⟨reply, hreply, hitem, -⟩ := (hexecute ⟨"example.com/a", respelt, plain, plain⟩ keeps
      ⟨_, _, _⟩ rfl hreadRespelt hread hread ()).2.1 .unchanged rfl
    exact ⟨reply, hreply, hitem rfl⟩

end RestorePlugins.Service
