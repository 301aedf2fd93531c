import RestorePlugins.Proofs.Catalogue.Live
import RestorePlugins.Proofs.Json.Records

namespace RestorePlugins.Catalogue

/-!
# Records are what was stored and exchanged

* `Kept`, `kept` — a record is fetched as it was stored, and storing it changes no other.
* `records_read_back` — the records of the catalogue, and those that hosts and plugins exchange, are
  read from their texts as they were written, and from no text that lacks a field.
-/

section

variable {α : Type} [Json.Record α] {tree : Tree} {id : String} {record : α}
  {catalogue : OpenCatalogue} {around : Surroundings} {shelf : Shelf}

/-- Storing succeeds unless the database refuses to take the record or to flush it. -/
theorem store_eq_ok_iff :
    (store tree id record catalogue around shelf).1 = .ok () ↔
      around.fault .insert = none ∧ around.fault .flush = none := by
  unfold store
  cases around.fault .insert with
  | some text =>
    constructor
    · intro h
      cases h
    · rintro ⟨hinsert, -⟩
      cases hinsert
  | none =>
    cases around.fault .flush with
    | some text =>
      constructor
      · intro h
        cases h
      · rintro ⟨-, hflush⟩
        cases hflush
    | none => exact ⟨fun _ => ⟨rfl, rfl⟩, fun _ => rfl⟩

/-- Flushing a database changes nothing that is stored. -/
theorem stored?_modify_flush (opened directory : String) (other : Tree) (key : String) :
    (shelf.modify opened Database.flush).stored? directory other key =
      shelf.stored? directory other key := by
  unfold Shelf.stored?
  rw [Shelf.database_modify]
  split
  · next hsame =>
    subst hsame
    rfl
  · rfl

theorem stored?_modify_insert (opened directory : String) (bytes : Bytes) (other : Tree)
    (key : String) :
    (shelf.modify opened (Database.insert tree id bytes)).stored? directory other key =
      if opened = directory ∧ tree = other ∧ id = key then some bytes
      else shelf.stored? directory other key := by
  unfold Shelf.stored?
  rw [Shelf.database_modify]
  by_cases hsame : opened = directory
  · subst hsame
    rw [if_pos rfl, Database.get?_insert]
    simp only [true_and]
  · rw [if_neg hsame, if_neg fun h => hsame h.1]

/-- A record that the database took is there afterwards, flushed or not, and all others are as they
were; one that it did not take changes nothing. -/
theorem stored?_store (directory : String) (other : Tree) (key : String) :
    (store tree id record catalogue around shelf).2.stored? directory other key =
      if around.fault .insert = none ∧ catalogue.directory = directory ∧ tree = other ∧ id = key then
        some (Json.encode record)
      else shelf.stored? directory other key := by
  unfold store
  cases around.fault .insert with
  | some text =>
    rw [if_neg]
    rintro ⟨hinsert, -⟩
    cases hinsert
  | none =>
    simp only [true_and]
    cases around.fault .flush with
    | some text => exact stored?_modify_insert _ _ _ _ _
    | none =>
      dsimp only
      rw [stored?_modify_flush, stored?_modify_insert]

end

/-- What holds of a type of records in a catalogue. -/
structure Kept (α : Type) [Json.Record α] : Prop where
  /-- Storing succeeds unless the database refuses to take the record or to flush it. -/
  succeeds : ∀ (tree : Tree) (id : String) (record : α) (catalogue : OpenCatalogue)
    (around : Surroundings) (shelf : Shelf),
    (store tree id record catalogue around shelf).1 = .ok () ↔
      around.fault .insert = none ∧ around.fault .flush = none
  /-- A stored record is fetched as it was stored. -/
  fetched : ∀ (tree : Tree) (id : String) (record : α) (catalogue : OpenCatalogue)
    (around now : Surroundings) (shelf : Shelf),
    (store tree id record catalogue around shelf).1 = .ok () → now.fault .read = none →
    fetch α tree id catalogue now (store tree id record catalogue around shelf).2 =
      .ok (some record)
  /-- Whatever is fetched under another id, or in the other tree, is what it was. -/
  others : ∀ (β : Type) [Json.Record β] (tree other : Tree) (id key : String) (record : α)
    (catalogue : OpenCatalogue) (around now : Surroundings) (shelf : Shelf),
    other ≠ tree ∨ key ≠ id →
    fetch β other key catalogue now (store tree id record catalogue around shelf).2 =
      fetch β other key catalogue now shelf

/-- **Storing.** Records whose fields have different names are kept. -/
theorem kept {α : Type} [Json.Record α]
    (hdistinct : ((Json.Record.layout α).fields.map Prod.fst).Nodup) : Kept α where
  succeeds _ _ _ _ _ _ := store_eq_ok_iff
  fetched tree id record catalogue around now shelf hstored hread := by
    refine fetch_of_stored hdistinct hread ?_
    rw [stored?_store, if_pos ⟨(store_eq_ok_iff.1 hstored).1, rfl, rfl, rfl⟩]
  others β _ tree other id key record catalogue around now shelf hother := by
    refine fetch_congr ?_
    rw [stored?_store, if_neg]
    rintro ⟨-, -, rfl, rfl⟩
    exact hother.elim (fun hne => hne rfl) fun hne => hne rfl

/-- **Records.** Every record of the six types is read from what is written for it; also with its
fields in any order and others among them, and without its operations a second if it has none; and
nothing is read where a field is repeated, missing or of another type.  The catalogue fetches a
record as it was last stored, and all others as they were. -/
theorem records_read_back :
    (Json.ReadBack SnapshotRecord ∧ Json.ReadBack VolumeRecord ∧ Json.ReadBack ResourceIdentifier ∧
      Json.ReadBack ResourceSelector ∧ Json.ReadBack VolumeInfo ∧ Json.ReadBack PluginIdentifier) ∧
    Kept SnapshotRecord ∧ Kept VolumeRecord :=
  ⟨⟨Json.readBack (by decide), Json.readBack (by decide), Json.readBack (by decide),
    Json.readBack (by decide), Json.readBack (by decide), Json.readBack (by decide)⟩,
    kept (by decide), kept (by decide)⟩

/-- A volume without operations a second is read from its other fields turned round, with one
between them that is not known. -/
theorem records_read_back_turned_round :
    let volume : VolumeRecord := ⟨"gp\"3", "east\n", none, "snap-1"⟩
    let members := [("source_snapshot", quote "snap-1"), ("encrypted", utf8 "true"),
      ("volume_az", quote "east\n"), ("volume_type", quote "gp\"3")]
    Json.decode VolumeRecord (Json.writtenObject members) = .ok volume := by
  intro volume members
  have hobject : Json.ObjectText members (Json.writtenObject members) := by
    refine Json.objectText_written fun member hmember => ?_
    simp only [members, List.mem_cons, List.not_mem_nil, or_false] at hmember
    rcases hmember with rfl | rfl | rfl | rfl
    · exact (Json.spellsQuoted_quote "snap-1").valueText
    · exact .true
    · exact (Json.spellsQuoted_quote "east\n").valueText
    · exact (Json.spellsQuoted_quote "gp\"3").valueText
  obtain ⟨⟨-, hvolume, -⟩, -⟩ := records_read_back
  exact hvolume.listed volume hobject
    (.member (Json.spellsQuoted_quote _) (.member (Json.spellsQuoted_quote _)
      (.leftOut rfl (.member (Json.spellsQuoted_quote _) .nil)))) (by decide)

end RestorePlugins.Catalogue
