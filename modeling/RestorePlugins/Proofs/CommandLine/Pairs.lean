import RestorePlugins.CommandLine.Run
import RestorePlugins.Proofs.CommandLine.Repeated
import RestorePlugins.Proofs.CommandLine.Spelling
import RestorePlugins.Proofs.Dictionaries
import RestorePlugins.Proofs.Text.Slices

namespace RestorePlugins.CommandLine

/-!
# Keys and values on the command line

A key ends at the first equals sign of its text, pairs end at commas, and of the pairs with one key
the last one counts.

* `keyAndValue?_eq_some_iff`, `keyAndValue?_eq_none_iff` — which texts are pairs.
* `pairOfBytes`, `pairOfBytes_utf8` — a pair is cut out of the bytes of its text, and **no cut lies
  inside of a character**.
* `pairsOf?`, `pairsOf?_eq_some_iff` — the pairs of a text, which are read just from their spelling.
* `Invocation.read_init`, `Invocation.read_createSnapshot` — the lines of the commands with pairs,
  for all texts of the argument.
* `keyValues_decoded` — **the settings and the tags of a call** are the last values of the keys in
  the texts of the command line.
-/

/-! ### One pair -/

/-- A text with an equals sign is divided at the first one. -/
theorem exists_pair_of_mem {s : String} (h : '=' ∈ s.toList) :
    ∃ key value : String, '=' ∉ key.toList ∧ s = key ++ "=" ++ value := by
  obtain ⟨front, back, hsplit, hfront⟩ := List.eq_append_cons_of_mem h
  refine ⟨String.ofList front, String.ofList back, ?_, ?_⟩
  · rw [String.toList_ofList]
    exact hfront
  · rw [← String.toList_inj, hsplit]
    simp [String.toList_append]

/-- **A text is no pair** just if it has no equals sign. -/
theorem keyAndValue?_eq_none_iff {s : String} : keyAndValue? s = none ↔ '=' ∉ s.toList := by
  constructor
  · intro h hmem
    obtain ⟨key, value, hkey, rfl⟩ := exists_pair_of_mem hmem
    rw [keyAndValue?_pair hkey] at h
    cases h
  · intro h
    rw [keyAndValue?, span_ne_of_not_mem h]

/-- **A text is a pair** just if it is a key without an equals sign, one, and the value. -/
theorem keyAndValue?_eq_some_iff {s key value : String} :
    keyAndValue? s = some (key, value) ↔ '=' ∉ key.toList ∧ s = key ++ "=" ++ value := by
  constructor
  · intro h
    have hmem : '=' ∈ s.toList := by
      by_contra hnot
      rw [keyAndValue?_eq_none_iff.2 hnot] at h
      cases h
    obtain ⟨front, back, hfront, rfl⟩ := exists_pair_of_mem hmem
    rw [keyAndValue?_pair hfront] at h
    cases h
    exact ⟨hfront, rfl⟩
  · rintro ⟨hkey, rfl⟩
    exact keyAndValue?_pair hkey value

/-! ### The bytes of a pair -/

/-- Why bytes are no pair. -/
inductive PairFault where
  /-- There is no equals sign. -/
  | invalidInput
  /-- A cut lies inside of a character. -/
  | slice (fault : SliceFault)
  deriving DecidableEq, Repr

/-- The bytes before the first equals sign and those behind it. -/
def pairOfBytes (bytes : Bytes) : Except PairFault (Bytes × Bytes) :=
  match bytes.findIdx? (· == 0x3d) with
  | none => .error .invalidInput
  | some position => do
    let key ← (slice bytes 0 position).mapError .slice
    let value ← (slice bytes (position + 1) bytes.length).mapError .slice
    return (key, value)

theorem pairOfBytes_pair {key : String} (h : '=' ∉ key.toList) (value : String) :
    pairOfBytes (utf8 (key ++ "=" ++ value)) = .ok (utf8 key, utf8 value) := by
  have hfind : (utf8 (key ++ "=" ++ value)).findIdx? (· == 0x3d) = some (utf8 key).length := by
    rw [utf8_append, utf8_append, List.append_assoc]
    exact findIdx?_ascii (c := '=') (by decide) h (utf8 value)
  have hkey : slice (utf8 (key ++ "=" ++ value)) 0 (utf8 key).length = .ok (utf8 key) := by
    rw [String.append_assoc, utf8_append]
    exact slice_append_left key ("=" ++ value)
  -- The equals sign is one byte, so the value begins where the text of both ends.
  have hsign : (utf8 key).length + 1 = (utf8 (key ++ "=")).length := by
    rw [utf8_append, List.length_append]
    rfl
  have hvalue : slice (utf8 (key ++ "=" ++ value)) ((utf8 key).length + 1)
      (utf8 (key ++ "=" ++ value)).length = .ok (utf8 value) := by
    rw [hsign, utf8_append (key ++ "=")]
    exact slice_append_right (key ++ "=") value
  rw [pairOfBytes, hfind]
  show ((slice (utf8 (key ++ "=" ++ value)) 0 (utf8 key).length).mapError PairFault.slice >>= _) = _
  rw [hkey, hvalue]
  rfl

/-- **No cut lies inside of a character**: the bytes of every text are read as the text is. -/
theorem pairOfBytes_utf8 (s : String) :
    pairOfBytes (utf8 s) =
      (keyAndValue? s).elim (.error .invalidInput) fun pair => .ok (utf8 pair.1, utf8 pair.2) := by
  by_cases hmem : '=' ∈ s.toList
  · obtain ⟨key, value, hkey, rfl⟩ := exists_pair_of_mem hmem
    rw [pairOfBytes_pair hkey, keyAndValue?_pair hkey]
    rfl
  · have hfind : (utf8 s).findIdx? (· == 0x3d) = none :=
      (findIdx?_ascii_eq_none_iff (c := '=') (by decide)).2 hmem
    rw [pairOfBytes, hfind, keyAndValue?_eq_none_iff.2 hmem]
    rfl

/-- Characters of several bytes on both sides of the sign. -/
example : pairOfBytes (utf8 "ключ=値") = .ok (utf8 "ключ", utf8 "値") := by
  decide +kernel

/-! ### Pairs between commas -/

/-- The pairs that stand between the commas of a text. -/
def pairsOf? (text : String) : Option Pairs :=
  ((text.toList.splitOn ',').map String.ofList).mapM keyAndValue?

/-- Texts are pairs just if they spell them. -/
theorem mapM_keyAndValue?_eq_some_iff {parts : List String} {pairs : Pairs} :
    parts.mapM keyAndValue? = some pairs ↔
      (∀ pair ∈ pairs, '=' ∉ pair.1.toList) ∧ parts = pairs.map fun pair => pair.1 ++ "=" ++ pair.2 := by
  induction parts generalizing pairs with
  | nil =>
    rw [List.mapM_nil]
    cases pairs <;> simp
  | cons part parts ih =>
    rw [List.mapM_cons]
    constructor
    · intro h
      obtain ⟨pair, hpair, h⟩ := Option.bind_eq_some_iff.1 h
      obtain ⟨rest, hrest, h⟩ := Option.bind_eq_some_iff.1 h
      obtain rfl : pair :: rest = pairs := Option.some.inj h
      obtain ⟨hkey, rfl⟩ := keyAndValue?_eq_some_iff.1 hpair
      obtain ⟨hkeys, rfl⟩ := ih.1 hrest
      exact ⟨List.forall_mem_cons.2 ⟨hkey, hkeys⟩, rfl⟩
    · rintro ⟨hkeys, hparts⟩
      cases pairs with
      | nil => cases hparts
      | cons pair pairs =>
        obtain ⟨hkey, hkeys⟩ := List.forall_mem_cons.1 hkeys
        rw [List.map_cons, List.cons.injEq] at hparts
        rw [hparts.1, keyAndValue?_pair hkey, ih.2 ⟨hkeys, hparts.2⟩]
        rfl

/-- **Pairs are read just from their spelling**: equals signs behind the first one of a pair belong
to its value, and a comma always ends a pair. -/
theorem pairsOf?_eq_some_iff {text : String} {pairs : Pairs} :
    pairsOf? text = some pairs ↔ pairs.Spellable ∧ text = pairs.text := by
  rw [pairsOf?, mapM_keyAndValue?_eq_some_iff]
  constructor
  · rintro ⟨hkeys, hparts⟩
    -- The spellings of the pairs are just what stands between the commas.
    have hlists : text.toList.splitOn ',' =
        pairs.map fun pair => (pair.1 ++ "=" ++ pair.2).toList := by
      have hback := congrArg (List.map String.toList) hparts
      simpa [List.map_map, Function.comp_def] using hback
    refine ⟨⟨?_, ?_⟩, ?_⟩
    · rintro rfl
      exact List.splitOn_ne_nil ',' text.toList hlists
    · intro pair hpair
      have hpart : (pair.1 ++ "=" ++ pair.2).toList ∈ text.toList.splitOn ',' := by
        rw [hlists]
        exact List.mem_map_of_mem (f := fun pair : String × String =>
          (pair.1 ++ "=" ++ pair.2).toList) hpair
      have hcomma := not_mem_of_mem_splitOn hpart
      simp only [String.toList_append, List.mem_append, not_or] at hcomma
      exact ⟨hkeys pair hpair, hcomma.1.1, hcomma.2⟩
    · rw [← String.toList_inj, Pairs.text, String.toList_intercalate, List.map_map]
      have hjoined : [','].intercalate (text.toList.splitOn ',') = text.toList :=
        List.intercalate_splitOn ','
      rw [hlists] at hjoined
      exact hjoined.symm
  · rintro ⟨hspellable, rfl⟩
    -- Any name and letter would do: the parts depend only on that there may be many.
    have hparts : (pairsArgument "config" 'c').parts pairs.text = _ := parts_pairs hspellable
    exact ⟨fun pair hpair => (hspellable.plain pair hpair).1, hparts⟩

/-! ### Arguments with pairs -/

/-- Readings that all fail with one error fail together with that error. -/
theorem mapM_elim {α β γ : Type} {read : α → Except UsageError γ} {f : α → Option β} {g : β → γ}
    {e : UsageError} (h : ∀ a, read a = (f a).elim (.error e) fun b => .ok (g b)) (items : List α) :
    items.mapM read = (items.mapM f).elim (.error e) fun bs => .ok (bs.map g) := by
  induction items with
  | nil => rfl
  | cons a items ih =>
    rw [List.mapM_cons, List.mapM_cons, h, ih]
    cases f a with
    | none => rfl
    | some b =>
      cases items.mapM f with
      | none => rfl
      | some bs => rfl

/-- The values of some pairs. -/
def valuesOf (pairs : Pairs) : List Value := pairs.map fun pair => .pair pair.1 pair.2

theorem filterMap_pairOf? (pairs : Pairs) : (valuesOf pairs).filterMap Given.pairOf? = pairs := by
  rw [valuesOf, List.filterMap_map]
  exact List.filterMap_some

theorem read_pair (s : String) :
    Kind.read .pair s =
      (keyAndValue? s).elim (.error .unreadableValue) fun pair => .ok (.pair pair.1 pair.2) := by
  rw [Kind.read]
  cases keyAndValue? s with
  | none => rfl
  | some pair => rfl

/-- **Every text of an argument with pairs** is read as its pairs or is refused. -/
theorem read_pairsArgument (name : String) (short : Char) (text : String) :
    (pairsArgument name short).read text =
      (pairsOf? text).elim (.error .unreadableValue) fun pairs => .ok (valuesOf pairs) :=
  mapM_elim read_pair _

/-- The pairs of all texts of an argument; none if it has no text. -/
def givenPairs (rows : List Pairs) : Option Pairs :=
  if rows.isEmpty then none else some rows.flatten

theorem dictOf_givenPairs (rows : List Pairs) : dictOf (givenPairs rows) = .ofPairs rows.flatten := by
  cases rows with
  | nil => rfl
  | cons row rows => rfl

theorem pairs?_withRows {given : Given} {name : String} (h : given.values? name = none)
    (rows : List Pairs) :
    (given.withRows name (rows.map valuesOf)).pairs? name = givenPairs rows := by
  rw [Given.pairs?, Given.values?_withRows h]
  cases rows with
  | nil => rfl
  | cons row rows =>
    show some ((((row :: rows).map valuesOf).flatten).filterMap Given.pairOf?) = some _
    have hflatten : ((row :: rows).map valuesOf).flatten = valuesOf (row :: rows).flatten := by
      unfold valuesOf
      rw [List.map_flatten]
    rw [hflatten, filterMap_pairOf?]

/-! ### The client's commands -/

/-- Words for arguments that are plain texts can always be read. -/
theorem taken_texts {row : List Assignment} {arguments : List Argument}
    (h : ∀ argument ∈ row.map Assignment.argument,
      argument ∈ arguments ∧ argument.many = false ∧ argument.kind = .text) :
    ∀ a ∈ row, a.argument ∈ arguments ∧ a.Readable := by
  intro a ha
  obtain ⟨hargument, hmany, hkind⟩ := h _ (List.mem_map_of_mem ha)
  exact ⟨hargument, Assignment.readable_of_read (read_text hmany hkind a.text)⟩

/-- A command of the client for snapshotters that is given an argument with pairs any number of
times: it has the pairs of all texts, or the line is refused. -/
theorem clientProgram_reads {word name : String} {short : Char} {arguments : List Argument}
    {build : Given → Option Command} {row : List Assignment} (made : Option Pairs → Command)
    (h : clientProgram.Prepares "snapshotter" word arguments build row (pairsArgument name short))
    (hsocket : socketPathName ∉ name :: row.map Assignment.name)
    (hmade : ∀ given : Given, (∀ a ∈ row, given.values? a.name = some a.values) →
      build given = some (made (given.pairs? name)))
    (program : String) (texts : List String) :
    Invocation.read (program :: "snapshotter" :: word :: (row.map Assignment.word ++
        texts.map fun text => Assignment.word ⟨pairsArgument name short, text⟩)) =
      (texts.mapM pairsOf?).elim (.error .unreadableValue) fun rows =>
        .ok ⟨none, made (givenPairs rows)⟩ := by
  let given (rows : List (List Value)) : Given :=
    Given.withRows (row.map Assignment.given) name rows
  -- The words before the texts keep their values, so they alone decide all but the pairs.
  have hbuild : ∀ rows, build (given rows) = some (made ((given rows).pairs? name)) := by
    refine fun rows => hmade (given rows) fun a ha => ?_
    have hne : a.name ≠ name := by
      intro heq
      exact h.free (heq ▸ List.mem_map_of_mem ha)
    rw [Given.values?_withRows_of_ne hne]
    exact values?_row h.nodup ha
  rw [Invocation.read]
  show (clientProgram.read ("snapshotter" :: word :: _) >>= fun answer => _) = _
  rw [h.read_texts hbuild texts, mapM_elim (read_pairsArgument name short)]
  cases texts.mapM pairsOf? with
  | none => rfl
  | some rows =>
    have hpairs : (given (rows.map valuesOf)).pairs? name = givenPairs rows :=
      pairs?_withRows h.not_given rows
    rw [List.mem_cons, not_or] at hsocket
    have hrow : Given.values? (row.map Assignment.given) socketPathName = none :=
      values?_row_eq_none fun _ ha hname => hsocket.2 (hname ▸ List.mem_map_of_mem ha)
    have hnone : (given (rows.map valuesOf)).text? socketPathName = none := by
      rw [Given.text?, Given.values?_withRows_of_ne hsocket.1, hrow]
    show Except.ok (⟨(given (rows.map valuesOf)).text? socketPathName,
      made ((given (rows.map valuesOf)).pairs? name)⟩ : Invocation) = _
    rw [hnone, hpairs]
    rfl

/-- **The line for settings** is read, or refused, by its texts. -/
theorem Invocation.read_init (program plugin : String) (texts : List String) :
    Invocation.read (program :: "snapshotter" :: "init" :: ("--plugin=" ++ plugin) ::
        texts.map ("--config=" ++ ·)) =
      (texts.mapM pairsOf?).elim (.error .unreadableValue) fun rows =>
        .ok ⟨none, .init plugin (givenPairs rows)⟩ := by
  let row : List Assignment := [⟨pluginArgument, plugin⟩]
  have h : clientProgram.Prepares "snapshotter" "init" _ _ row (pairsArgument "config" 'c') := {
    offers := clientProgram_offers (.inr rfl) rfl rfl
    taken := taken_texts (by
      show ∀ argument ∈ [pluginArgument], _
      decide)
    nodup := List.nodup_singleton _
    complete := by
      show ∀ other ∈ _, _ → _ ∈ ["plugin"]
      decide
    mem := by decide
    many := rfl
    free := by
      show "config" ∉ ["plugin"]
      decide }
  refine clientProgram_reads (.init plugin) h ?_ ?_ program texts
  · show socketPathName ∉ ["config", "plugin"]
    decide
  · intro given hgiven
    have hplugin : given.values? "plugin" = some [.text plugin] := hgiven _ List.mem_cons_self
    rw [Given.text?, hplugin]
    rfl

/-- **The line for a snapshot** is read, or refused, by the texts of its tags. -/
theorem Invocation.read_createSnapshot (program plugin volume az : String) (texts : List String) :
    Invocation.read (program :: "snapshotter" :: "create-snapshot" :: ("--plugin=" ++ plugin) ::
        ("--volume-id=" ++ volume) :: ("--volume-az=" ++ az) :: texts.map ("--tags=" ++ ·)) =
      (texts.mapM pairsOf?).elim (.error .unreadableValue) fun rows =>
        .ok ⟨none, .createSnapshot plugin volume az (givenPairs rows)⟩ := by
  let row : List Assignment := [⟨pluginArgument, plugin⟩, ⟨requiredText "volume-id", volume⟩,
    ⟨optionalText "volume-az", az⟩]
  have h : clientProgram.Prepares "snapshotter" "create-snapshot" _ _ row
      (pairsArgument "tags" 't') := {
    offers := clientProgram_offers (.inr rfl) rfl rfl
    taken := taken_texts (by
      show ∀ argument ∈ [pluginArgument, requiredText "volume-id", optionalText "volume-az"], _
      decide)
    nodup := by
      show ["plugin", "volume-id", "volume-az"].Nodup
      decide
    complete := by
      show ∀ other ∈ _, _ → _ ∈ ["plugin", "volume-id", "volume-az"]
      decide
    mem := by decide
    many := rfl
    free := by
      show "tags" ∉ ["plugin", "volume-id", "volume-az"]
      decide }
  refine clientProgram_reads (.createSnapshot plugin volume az) h ?_ ?_ program texts
  · show socketPathName ∉ ["tags", "plugin", "volume-id", "volume-az"]
    decide
  · intro given hgiven
    have hplugin : given.values? "plugin" = some [.text plugin] := hgiven _ List.mem_cons_self
    have hvolume : given.values? "volume-id" = some [.text volume] :=
      hgiven _ (List.mem_cons_of_mem _ List.mem_cons_self)
    have haz : given.values? "volume-az" = some [.text az] :=
      hgiven _ (List.mem_cons_of_mem _ (List.mem_cons_of_mem _ List.mem_cons_self))
    rw [Given.text?, Given.text?, Given.text?, hplugin, hvolume, haz]
    rfl

/-- **Keys and values are taken as they are spelled, and of those with one key the last one counts.**
The bytes of a text are cut at its first equals sign, which never fails inside of a character. -/
theorem keyValues_decoded :
    (∀ s key value : String,
      keyAndValue? s = some (key, value) ↔ '=' ∉ key.toList ∧ s = key ++ "=" ++ value) ∧
    (∀ s : String, keyAndValue? s = none ↔ '=' ∉ s.toList) ∧
    (∀ s : String, pairOfBytes (utf8 s) =
      (keyAndValue? s).elim (.error .invalidInput) fun pair => .ok (utf8 pair.1, utf8 pair.2)) ∧
    (∀ (pairs : Option Pairs) (key value : String),
      (dictOf pairs).get? key = some value ↔
        ∃ before after, pairs.getD [] = before ++ (key, value) :: after ∧
          ∀ pair ∈ after, pair.1 ≠ key) ∧
    (∀ (pairs : Option Pairs) (key : String),
      key ∈ (dictOf pairs).keys ↔ ∃ pair ∈ pairs.getD [], pair.1 = key) ∧
    (∀ (text : String) (pairs : Pairs),
      pairsOf? text = some pairs ↔ pairs.Spellable ∧ text = pairs.text) ∧
    -- The calls that the lines stand for, whatever the texts of their arguments are and however
    -- many of them there are.
    (∀ (W : Type) (fs : Files.FileSystem) (send : Service.Connection W)
        (program plugin : String) (texts : List String),
      (Invocation.read (program :: "snapshotter" :: "init" :: ("--plugin=" ++ plugin) ::
          texts.map ("--config=" ++ ·))).map (fun i => callHost fs send i.command) =
        (texts.mapM pairsOf?).elim (.error .unreadableValue) fun rows =>
          .ok (printAnswer (Service.Client.init send plugin (.ofPairs rows.flatten)) fun _ => {})) ∧
    ∀ (W : Type) (fs : Files.FileSystem) (send : Service.Connection W)
        (program plugin volume az : String) (texts : List String),
      (Invocation.read (program :: "snapshotter" :: "create-snapshot" :: ("--plugin=" ++ plugin) ::
          ("--volume-id=" ++ volume) :: ("--volume-az=" ++ az) ::
          texts.map ("--tags=" ++ ·))).map (fun i => callHost fs send i.command) =
        (texts.mapM pairsOf?).elim (.error .unreadableValue) fun rows =>
          .ok (printAnswer
            (Service.Client.createSnapshot send plugin ⟨volume, az, .ofPairs rows.flatten⟩)
            .line) := by
  refine ⟨fun _ _ _ => keyAndValue?_eq_some_iff, fun _ => keyAndValue?_eq_none_iff,
    pairOfBytes_utf8, fun _ _ _ => Dict.get?_ofPairs_eq_some_iff,
    fun _ _ => Dict.mem_keys_ofPairs_iff, fun _ _ => pairsOf?_eq_some_iff, ?_, ?_⟩
  · intro W fs send program plugin texts
    rw [Invocation.read_init]
    cases texts.mapM pairsOf? with
    | none => rfl
    | some rows =>
      show Except.ok (printAnswer (Service.Client.init send plugin (dictOf (givenPairs rows))) _) = _
      rw [dictOf_givenPairs]
      rfl
  · intro W fs send program plugin volume az texts
    rw [Invocation.read_createSnapshot]
    cases texts.mapM pairsOf? with
    | none => rfl
    | some rows =>
      show Except.ok (printAnswer (Service.Client.createSnapshot send plugin
        ⟨volume, az, dictOf (givenPairs rows)⟩) _) = _
      rw [dictOf_givenPairs]
      rfl

end RestorePlugins.CommandLine
