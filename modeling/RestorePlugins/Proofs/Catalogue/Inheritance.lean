import RestorePlugins.Proofs.Catalogue.Permanence

namespace RestorePlugins.Catalogue

/-!
# What a volume inherits

A volume that is made from a snapshot takes over what the request leaves open, and a snapshot takes
over what is known of its volume.  So type and operations a second travel along a chain: a
snapshot of a volume, a volume made from it, a snapshot of that volume, and so on.

* `madeIn` — the records that the steps of a run make.
* `Link`, `Chained` — a snapshot with a volume made from it, and a chain of such links in which
  other steps may come before, between and after.
* `inherited` — what was asked for last along a chain, or else what was known at its start.
* `volumeInfo_chain` — the last volume of a chain is told about just so.
-/

variable {budget : RetryBudget} {around : Surroundings} {shelf : Shelf} {directory id : String}
  {tree : Tree}

/-! ### Runs in parts -/

theorem after_append (first second : Run) (shelf : Shelf) :
    after budget (first ++ second) shelf = after budget second (after budget first shelf) := by
  induction first generalizing shelf with
  | nil => rfl
  | cons step rest ih => exact ih _

/-- The records that the steps of a run make. -/
def madeIn (run : Run) : List (Tree × String) := run.filterMap fun step => step.2.fresh? step.1

@[simp] theorem madeIn_append (first second : Run) :
    madeIn (first ++ second) = madeIn first ++ madeIn second :=
  List.filterMap_append

theorem neverMade_iff {run : Run} : NeverMade tree id run ↔ (tree, id) ∉ madeIn run := by
  simp [NeverMade, madeIn, List.mem_filterMap]

/-! ### Answers -/

theorem eq_ok_of_toOption {ε α : Type} {answer : Except ε α} {a : α}
    (h : answer.toOption = some a) : answer = .ok a := by
  cases answer with
  | ok b => exact congrArg Except.ok (Option.some.inj h)
  | error e => cases h

/-- What is fetched can be read. -/
theorem read_of_fetch {α : Type} [Json.Record α] {catalogue : OpenCatalogue} {found : Option α}
    (h : fetch α tree id catalogue around shelf = .ok found) : around.fault .read = none := by
  unfold fetch at h
  split at h
  · cases h
  · next hread => exact hread

/-- What is fetched is not stored, or stored as a text of the record. -/
theorem stored?_of_fetch {α : Type} [Json.Record α] {catalogue : OpenCatalogue} {found : Option α}
    (h : fetch α tree id catalogue around shelf = .ok found) :
    (shelf.stored? catalogue.directory tree id = none ∧ found = none) ∨
      ∃ bytes record, shelf.stored? catalogue.directory tree id = some bytes ∧
        Json.decode α bytes = .ok record ∧ found = some record := by
  have hread := read_of_fetch h
  unfold fetch at h
  rw [hread] at h
  unfold Shelf.stored?
  cases hbytes : (shelf.database catalogue.directory).get? tree id with
  | none =>
    simp only [hbytes] at h
    cases h
    exact .inl ⟨rfl, rfl⟩
  | some bytes =>
    simp only [hbytes] at h
    cases hdecode : Json.decode α bytes with
    | error fault =>
      rw [hdecode] at h
      cases h
    | ok record =>
      rw [hdecode] at h
      cases h
      exact .inr ⟨bytes, record, rfl, hdecode, rfl⟩

/-- The id of a new snapshot. -/
theorem eq_newId_of_createSnapshot {request : SnapshotRequest}
    (hanswer : (createSnapshot request around shelf).1 = .ok id) :
    id = newId "snap" around.draw := by
  obtain ⟨effect, houtcome, -⟩ := outcome_step {} (.createSnapshot request) around shelf
  have hreply : ((Event.createSnapshot request).step {} around shelf).1 = .ok (.id id) :=
    congrArg (Except.map Reply.id) hanswer
  rw [hreply] at houtcome
  cases houtcome
  rfl

/-! ### Links -/

/-- A snapshot of a volume and a volume made from it, with other steps before and between. -/
structure Link where
  before : Run
  snapshotAround : Surroundings
  snapshot : SnapshotRequest
  between : Run
  volumeAround : Surroundings
  volume : VolumeRequest

namespace Link

/-- The steps of a link. -/
def run (link : Link) : Run :=
  link.before ++ [(link.snapshotAround, .createSnapshot link.snapshot)] ++ link.between ++
    [(link.volumeAround, .createVolume link.volume)]

/-- The shelf when the snapshot is made. -/
def atSnapshot (budget : RetryBudget) (shelf : Shelf) (link : Link) : Shelf :=
  after budget link.before shelf

/-- The shelf when the volume is made. -/
def atVolume (budget : RetryBudget) (shelf : Shelf) (link : Link) : Shelf :=
  after budget link.between
    (createSnapshot link.snapshot link.snapshotAround (link.atSnapshot budget shelf)).2

/-- The id of the volume that is made. -/
def made (link : Link) : String := newId "vol" link.volumeAround.draw

/-- A link from a volume, in the catalogue of a directory: the snapshot is one of that volume, and
the new volume is made from that snapshot. -/
structure Joins (budget : RetryBudget) (directory volume : String) (shelf : Shelf) (link : Link) :
    Prop where
  source : link.snapshot.volumeId = volume
  openAtSnapshot : (link.atSnapshot budget shelf).openDirectory? = some directory
  snapshotMade : (createSnapshot link.snapshot link.snapshotAround
    (link.atSnapshot budget shelf)).1 = .ok link.volume.snapshotId
  openAtVolume : (link.atVolume budget shelf).openDirectory? = some directory
  volumeMade : (createVolume link.volume link.volumeAround (link.atVolume budget shelf)).1 =
    .ok link.made

/-- What a link makes of what is known of its first volume. -/
def pass (link : Link) (info : VolumeInfo) : VolumeInfo where
  volumeType := if link.volume.volumeType = "" then info.volumeType else link.volume.volumeType
  iops := link.volume.iops.or info.iops

theorem after_run (link : Link) (shelf : Shelf) :
    after budget link.run shelf =
      (createVolume link.volume link.volumeAround (link.atVolume budget shelf)).2 := by
  simp only [run, after_append]
  rfl

theorem madeIn_run (link : Link) :
    madeIn link.run = madeIn link.before ++ [(.snapshots, newId "snap" link.snapshotAround.draw)] ++
      madeIn link.between ++ [(.volumes, link.made)] := by
  simp only [run, madeIn_append]
  rfl

/-- As long as no id is given twice, the snapshot of a link is not made again before its volume, and
its volume is not made again later. -/
theorem fresh_of_run {link : Link} {later : Run} (h : (madeIn (link.run ++ later)).Nodup) :
    NeverMade .snapshots (newId "snap" link.snapshotAround.draw) link.between ∧
      ((.volumes, link.made) :: madeIn later).Nodup := by
  have hparts : madeIn (link.run ++ later) =
      madeIn link.before ++ ((.snapshots, newId "snap" link.snapshotAround.draw) ::
        madeIn link.between ++ (.volumes, link.made) :: madeIn later) := by
    rw [madeIn_append, madeIn_run]
    simp
  rw [hparts] at h
  obtain ⟨hsnapshot, hvolume, -⟩ := List.nodup_append.1 (List.nodup_append.1 h).2.1
  exact ⟨neverMade_iff.2 (List.nodup_cons.1 hsnapshot).1, hvolume⟩

end Link

/-- The new volume of a link is stored with what the link makes of what is known of its first
volume. -/
theorem stored?_of_joins {volume : String} {link : Link} {catalogue : OpenCatalogue}
    {known : Option VolumeRecord} (hjoins : link.Joins budget directory volume shelf)
    (hcurrent : (link.atSnapshot budget shelf).current = some catalogue)
    (hknown : fetch VolumeRecord .volumes volume catalogue link.snapshotAround
      (link.atSnapshot budget shelf) = .ok known)
    (hnever : NeverMade .snapshots link.volume.snapshotId link.between) :
    ∃ record : VolumeRecord,
      (after budget link.run shelf).stored? directory .volumes link.made =
        some (Json.encode record) ∧
      ⟨record.volumeType, record.iops⟩ = link.pass (infoOf catalogue known) := by
  have hdirectory : catalogue.directory = directory := by
    have hopen := hjoins.openAtSnapshot
    rw [Shelf.openDirectory?, hcurrent] at hopen
    exact Option.some.inj hopen
  obtain ⟨found, hfound, hsnapshot⟩ := stored?_newSnapshot hcurrent hjoins.snapshotMade
  rw [hjoins.source, hknown] at hfound
  obtain rfl : known = found := Except.ok.inj hfound
  rw [hdirectory] at hsnapshot
  obtain ⟨later, hlater, hlaterDirectory⟩ := Option.map_eq_some_iff.1 hjoins.openAtVolume
  obtain ⟨snapshot, hfetched, hvolume⟩ := stored?_of_createVolume hlater hjoins.volumeMade
  rw [hlaterDirectory] at hvolume
  -- The volume could be made, so the snapshot was not deleted in between.
  have hkept : ¬ DeletedIn budget directory link.volume.snapshotId link.between
      (createSnapshot link.snapshot link.snapshotAround (link.atSnapshot budget shelf)).2 := by
    intro hdeleted
    have hgone := stored?_after_of_deletedIn link.between hnever hdeleted
    have hnone : fetch SnapshotRecord .snapshots link.volume.snapshotId later link.volumeAround
        (link.atVolume budget shelf) = .ok none :=
      fetch_of_not_stored (read_of_fetch hfetched) (hlaterDirectory ▸ hgone)
    rw [hfetched] at hnone
    cases hnone
  have hbytes := (stored?_after link.between hnever fun _ => hkept).trans hsnapshot
  have hsame : fetch SnapshotRecord .snapshots link.volume.snapshotId later link.volumeAround
      (link.atVolume budget shelf) = .ok (some (newSnapshot link.snapshot
        (infoOf catalogue known) link.snapshotAround.time)) :=
    fetch_of_stored (by decide) (read_of_fetch hfetched) (hlaterDirectory ▸ hbytes)
  obtain rfl := Option.some.inj (Except.ok.inj (hfetched.symm.trans hsame))
  exact ⟨_, link.after_run shelf ▸ hvolume, rfl⟩

/-! ### Chains -/

/-- A chain of links from a volume on, in the catalogue of a directory. -/
def Chained (budget : RetryBudget) (directory : String) : String → List Link → Shelf → Prop
  | _, [], _ => True
  | volume, link :: rest, shelf =>
    link.Joins budget directory volume shelf ∧
      Chained budget directory link.made rest (after budget link.run shelf)

/-- The last volume of a chain. -/
def lastVolume (volume : String) (links : List Link) : String :=
  (links.getLast?.map Link.made).getD volume

theorem lastVolume_cons (volume : String) (link : Link) (rest : List Link) :
    lastVolume volume (link :: rest) = lastVolume link.made rest := by
  unfold lastVolume
  rw [List.getLast?_cons]
  cases rest.getLast? <;> rfl

/-- The types that the requests of a chain ask for; the empty text asks for none. -/
def typesGiven (links : List Link) : List String :=
  (links.map fun link => link.volume.volumeType).filter fun given => given ≠ ""

/-- The operations a second that the requests of a chain ask for. -/
def iopsGiven (links : List Link) : List Int64 := links.filterMap fun link => link.volume.iops

/-- What was asked for last along a chain, or else what was known at its start. -/
def inherited (links : List Link) (start : VolumeInfo) : VolumeInfo where
  volumeType := (typesGiven links).getLast?.getD start.volumeType
  iops := (iopsGiven links).getLast?.or start.iops

/-- A chain goes on with what its first link passes on. -/
theorem inherited_cons (link : Link) (rest : List Link) (start : VolumeInfo) :
    inherited (link :: rest) start = inherited rest (link.pass start) := by
  have htypes : (typesGiven (link :: rest)).getLast?.getD start.volumeType =
      (typesGiven rest).getLast?.getD (link.pass start).volumeType := by
    by_cases hempty : link.volume.volumeType = ""
    · have hgiven : typesGiven (link :: rest) = typesGiven rest := by simp [typesGiven, hempty]
      rw [hgiven, Link.pass, if_pos hempty]
    · have hgiven : typesGiven (link :: rest) = link.volume.volumeType :: typesGiven rest := by
        simp [typesGiven, hempty]
      rw [hgiven, Link.pass, if_neg hempty, List.getLast?_cons, Option.getD_some]
  have hiops : (iopsGiven (link :: rest)).getLast?.or start.iops =
      (iopsGiven rest).getLast?.or (link.pass start).iops := by
    cases hasked : link.volume.iops with
    | none =>
      have hgiven : iopsGiven (link :: rest) = iopsGiven rest := by simp [iopsGiven, hasked]
      rw [hgiven, Link.pass, hasked, Option.none_or]
    | some iops =>
      have hgiven : iopsGiven (link :: rest) = iops :: iopsGiven rest := by
        simp [iopsGiven, hasked]
      rw [hgiven, Link.pass, hasked, List.getLast?_cons]
      cases (iopsGiven rest).getLast? <;> rfl
  rw [inherited, htypes, hiops]
  rfl

/-- The last volume of a chain is stored with what the chain makes of its first volume, as long as
no id is given twice. -/
theorem stored?_of_chained {volume : String} {record : VolumeRecord} (links : List Link)
    (last : Run) (hchain : Chained budget directory volume links shelf)
    (hstored : shelf.stored? directory .volumes volume = some (Json.encode record))
    (hfresh : ((.volumes, volume) :: madeIn (links.flatMap Link.run ++ last)).Nodup) :
    ∃ final : VolumeRecord,
      (after budget (links.flatMap Link.run ++ last) shelf).stored? directory .volumes
        (lastVolume volume links) = some (Json.encode final) ∧
      ⟨final.volumeType, final.iops⟩ = inherited links ⟨record.volumeType, record.iops⟩ := by
  induction links generalizing volume record shelf with
  | nil =>
    have hnever := neverMade_iff.2 (List.nodup_cons.1 hfresh).1
    exact ⟨record, (stored?_after last hnever fun htree => nomatch htree).trans hstored, rfl⟩
  | cons link rest ih =>
    obtain ⟨hjoins, hrest⟩ := hchain
    obtain ⟨hnever, hnodup⟩ := List.nodup_cons.1 hfresh
    rw [List.flatMap_cons, List.append_assoc] at hnever hnodup ⊢
    obtain ⟨hsnapshotNever, hmade⟩ := Link.fresh_of_run hnodup
    -- The first volume of the link is as it was when its snapshot is made.
    have hkept : NeverMade .volumes volume link.before := by
      rw [neverMade_iff]
      intro hmember
      exact hnever (by simp [Link.madeIn_run, hmember])
    obtain ⟨catalogue, hcurrent, rfl⟩ := Option.map_eq_some_iff.1 hjoins.openAtSnapshot
    obtain ⟨known, hknown, -⟩ := stored?_newSnapshot hcurrent hjoins.snapshotMade
    have hrecord : (link.atSnapshot budget shelf).stored? catalogue.directory .volumes volume =
        some (Json.encode record) :=
      (stored?_after link.before hkept fun htree => nomatch htree).trans hstored
    have hfetch := fetch_of_stored (by decide) (read_of_fetch hknown) hrecord
    rw [← eq_newId_of_createSnapshot hjoins.snapshotMade] at hsnapshotNever
    obtain ⟨next, hnext, hpassed⟩ := stored?_of_joins hjoins hcurrent hfetch hsnapshotNever
    obtain ⟨final, hfinal, hinherited⟩ := ih hrest hnext hmade
    refine ⟨final, ?_, ?_⟩
    · rw [after_append, lastVolume_cons]
      exact hfinal
    · rw [hinherited, hpassed, inherited_cons]
      rfl

/-- **Inheritance.** The last volume of a chain, whenever its catalogue is open again and can be
read, has the type and the operations a second that were asked for last along the chain.  Where
none were asked for, they are those of the volume at the start: the recorded ones, or the type of
unknown volumes and none, as it was when the first snapshot was made. -/
theorem volumeInfo_chain (budget : RetryBudget) {shelf : Shelf} {directory volume : String}
    {first : Link} {rest : List Link} {last : Run} {catalogue : OpenCatalogue}
    (hchain : Chained budget directory volume (first :: rest) shelf)
    (hfresh : (madeIn ((first :: rest).flatMap Link.run ++ last)).Nodup)
    (hcurrent : (first.atSnapshot budget shelf).current = some catalogue) :
    let links := first :: rest
    let start := first.atSnapshot budget shelf
    let final := after budget (links.flatMap Link.run ++ last) shelf
    let tells (origin : VolumeInfo) : Prop :=
      ∀ now : Surroundings, final.openDirectory? = some directory → now.fault .read = none →
        volumeInfo (lastVolume volume links) now final = (.ok (inherited links origin), final)
    (start.stored? directory .volumes volume = none ∧ tells ⟨catalogue.volumeType, none⟩) ∨
      ∃ bytes record, start.stored? directory .volumes volume = some bytes ∧
        Json.decode VolumeRecord bytes = .ok record ∧
        tells ⟨record.volumeType, record.iops⟩ := by
  intro links start final tells
  obtain ⟨hjoins, hrest⟩ := hchain
  have hdirectory : catalogue.directory = directory := by
    have hopen := hjoins.openAtSnapshot
    rw [Shelf.openDirectory?, hcurrent] at hopen
    exact Option.some.inj hopen
  subst hdirectory
  obtain ⟨known, hknown, -⟩ := stored?_newSnapshot hcurrent hjoins.snapshotMade
  rw [hjoins.source] at hknown
  rw [List.flatMap_cons, List.append_assoc] at hfresh
  obtain ⟨hsnapshotNever, hmade⟩ := Link.fresh_of_run hfresh
  rw [← eq_newId_of_createSnapshot hjoins.snapshotMade] at hsnapshotNever
  have htells : tells (infoOf catalogue known) := by
    intro now hopen hread
    obtain ⟨next, hnext, hpassed⟩ := stored?_of_joins hjoins hcurrent hknown hsnapshotNever
    obtain ⟨record, hrecord, hinherited⟩ := stored?_of_chained rest last hrest hnext hmade
    have hfinal : final.stored? catalogue.directory .volumes (lastVolume volume links) =
        some (Json.encode record) := by
      show (after budget (first.run ++ rest.flatMap Link.run ++ last) shelf).stored? _ _ _ = _
      rw [List.append_assoc, after_append, lastVolume_cons]
      exact hrecord
    rw [volumeInfo_of_stored hopen hread hfinal, hinherited, hpassed, ← inherited_cons]
  -- Nothing is recorded of the first volume, or a record that can be read.
  rcases stored?_of_fetch hknown with ⟨hnone, rfl⟩ | ⟨bytes, record, hbytes, hdecode, rfl⟩
  · exact .inl ⟨hnone, htells⟩
  · exact .inr ⟨bytes, record, hbytes, hdecode, htells⟩

/-- Two links from an unknown volume: the type is the one that unknown volumes had at the start,
whatever type they get on the way, and the operations a second are those of the first link. -/
theorem volumeInfo_chain_twice :
    let around (draw : UInt64) : Surroundings :=
      ⟨fun path _ => .opened path, fun _ => none, draw, "now"⟩
    let settings (volumeType : String) : Event :=
      .init (Dict.ofPairs [("path", "a"), ("volumeType", volumeType)])
    let first : Link := ⟨[(around 0, settings "hdd")], around 1, ⟨"vol-x", "zone", ∅⟩,
      [(around 0, settings "ssd")], around 2, ⟨"snap-0000000000000001", "", "zone", some 5⟩⟩
    let second : Link := ⟨[(around 0, .deleteSnapshot "snap-0000000000000001"),
        (around 0, .restart), (around 0, settings "tape")], around 3,
      ⟨"vol-0000000000000002", "zone", ∅⟩, [], around 4,
      ⟨"snap-0000000000000003", "", "zone", none⟩⟩
    let final := after {} ([first, second].flatMap Link.run ++ []) {}
    Chained {} "a" "vol-x" [first, second] {} ∧
      (madeIn ([first, second].flatMap Link.run ++ [])).Nodup ∧
      volumeInfo "vol-0000000000000004" (around 5) final = (.ok ⟨"hdd", some 5⟩, final) := by
  intro around settings first second final
  have hchain : Chained {} "a" "vol-x" [first, second] {} :=
    ⟨⟨rfl, by decide +kernel, eq_ok_of_toOption (by decide +kernel), by decide +kernel,
        eq_ok_of_toOption (by decide +kernel)⟩,
      ⟨by decide +kernel, by decide +kernel, eq_ok_of_toOption (by decide +kernel),
        by decide +kernel, eq_ok_of_toOption (by decide +kernel)⟩, trivial⟩
  have hfresh : (madeIn ([first, second].flatMap Link.run ++ [])).Nodup := by decide +kernel
  have hcurrent : (first.atSnapshot {} {}).current = some ⟨"a", "a", "hdd"⟩ := by decide +kernel
  have hunknown : (first.atSnapshot {} {}).stored? "a" .volumes "vol-x" = none := by
    decide +kernel
  refine ⟨hchain, hfresh, ?_⟩
  rcases volumeInfo_chain {} hchain hfresh hcurrent with ⟨-, htells⟩ | ⟨bytes, _, hbytes, -⟩
  · have hlast : lastVolume "vol-x" [first, second] = "vol-0000000000000004" := by decide +kernel
    have hinherited : inherited [first, second] ⟨"hdd", none⟩ = ⟨"hdd", some 5⟩ := by
      decide +kernel
    have htold := htells (around 5) (by decide +kernel) rfl
    rw [hlast, hinherited] at htold
    exact htold
  · rw [hunknown] at hbytes
    cases hbytes

end RestorePlugins.Catalogue
