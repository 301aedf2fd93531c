import RestorePlugins.Proofs.CommandLine.Fields
import RestorePlugins.CommandLine.Command

namespace RestorePlugins.CommandLine

/-!
# Spelling the client's commands

* `Pairs.text` — the text of some pairs.  `read_pairs`, `read_iops` — the texts of pairs and of
  integers are read back.
* `Command.words`, `Command.fields` — the words that name a command, and its fields.
* `Command.Spellable` — the commands that call a plugin, if their values have a text.
* `Command.offered` — the client offers each of them, and builds it of what holds its fields.
* `Invocation.read_arranged` — **every spelling of a command is read as the command**, and is
  refused if a required field is left out.
-/

/-! ### Texts of values -/

/-- The text of some pairs: an equals sign in each, and commas between them. -/
def Pairs.text (pairs : Pairs) : String :=
  ",".intercalate (pairs.map fun pair => pair.1 ++ "=" ++ pair.2)

/-- Some pairs of which each can be told from the next, and its key from its value. -/
structure Pairs.Spellable (pairs : Pairs) : Prop where
  ne_nil : pairs ≠ []
  plain : ∀ pair ∈ pairs,
    '=' ∉ pair.1.toList ∧ ',' ∉ pair.1.toList ∧ ',' ∉ pair.2.toList

theorem read_single {argument : Argument} (hmany : argument.many = false) {s : String} {v : Value}
    (h : argument.kind.read s = .ok v) : argument.read s = .ok [v] := by
  rw [Argument.read, Argument.parts, hmany]
  show [s].mapM argument.kind.read = _
  rw [List.mapM_cons, h]
  rfl

theorem read_text {argument : Argument} (hmany : argument.many = false)
    (hkind : argument.kind = .text) (s : String) : argument.read s = .ok [.text s] := by
  refine read_single hmany ?_
  rw [hkind]
  rfl

theorem read_path {argument : Argument} (hmany : argument.many = false)
    (hkind : argument.kind = .path) {s : String} (hs : s ≠ "") :
    argument.read s = .ok [.text s] := by
  refine read_single hmany ?_
  rw [hkind, Kind.read, if_neg hs]

theorem keyAndValue?_pair {key : String} (h : '=' ∉ key.toList) (value : String) :
    keyAndValue? (key ++ "=" ++ value) = some (key, value) := by
  have hlist : (key ++ "=" ++ value).toList = key.toList ++ '=' :: value.toList := by
    simp [String.toList_append]
  rw [keyAndValue?, hlist, span_ne_append h]
  simp

/-- The pairs are found between the commas. -/
theorem parts_pairs {name : String} {short : Char} {pairs : Pairs} (h : pairs.Spellable) :
    (pairsArgument name short).parts pairs.text =
      pairs.map fun pair => pair.1 ++ "=" ++ pair.2 := by
  have hplain : ∀ part ∈ pairs.map fun pair => (pair.1 ++ "=" ++ pair.2).toList, ',' ∉ part := by
    intro part hmem
    obtain ⟨pair, hpair, rfl⟩ := List.mem_map.1 hmem
    obtain ⟨-, hkey, hvalue⟩ := h.plain pair hpair
    simp [String.toList_append, hkey, hvalue]
  have hne : (pairs.map fun pair => (pair.1 ++ "=" ++ pair.2).toList) ≠ [] := by
    intro hnil
    exact h.ne_nil (List.map_eq_nil_iff.1 hnil)
  have hlist : pairs.text.toList =
      [','].intercalate (pairs.map fun pair => (pair.1 ++ "=" ++ pair.2).toList) := by
    rw [Pairs.text, String.toList_intercalate, List.map_map]
    rfl
  show ((pairs.text.toList.splitOn ',').map String.ofList) = _
  rw [hlist, List.splitOn_intercalate ',' hplain hne, List.map_map]
  refine List.map_congr_left fun pair _ => ?_
  exact String.ofList_toList

/-- **Pairs are read back** from their text. -/
theorem read_pairs {name : String} {short : Char} {pairs : Pairs} (h : pairs.Spellable) :
    (pairsArgument name short).read pairs.text =
      .ok (pairs.map fun pair => .pair pair.1 pair.2) := by
  rw [Argument.read, parts_pairs h]
  -- Induction on the pairs, which may be none then.
  have hplain := h.plain
  clear h
  induction pairs with
  | nil => rfl
  | cons pair pairs ih =>
    have hrest := ih fun other hmem => hplain other (List.mem_cons_of_mem _ hmem)
    have hfirst : Kind.read .pair (pair.1 ++ "=" ++ pair.2) = .ok (.pair pair.1 pair.2) := by
      rw [Kind.read, keyAndValue?_pair (hplain pair List.mem_cons_self).1]
    have hkind : (pairsArgument name short).kind = .pair := rfl
    rw [hkind] at hrest
    rw [hkind, List.map_cons, List.mapM_cons, hfirst, hrest]
    rfl

theorem isDigit_toDigits (n : Nat) : ∀ c ∈ Nat.toDigits 10 n, c.isDigit = true := by
  intro c hmem
  exact Nat.isDigit_of_mem_toDigits (by decide) (by decide) hmem

theorem decimalDigits?_toDigits (n : Nat) : decimalDigits? (Nat.toDigits 10 n) = some n := by
  have hne : (Nat.toDigits 10 n).isEmpty = false := List.isEmpty_eq_false_iff.2 Nat.toDigits_ne_nil
  have hdigits : (Nat.toDigits 10 n).all Char.isDigit = true :=
    List.all_eq_true.2 (isDigit_toDigits n)
  rw [decimalDigits?, hne, hdigits]
  show some (Nat.ofDigitChars 10 (Nat.toDigits 10 n) 0) = _
  rw [Nat.ofDigitChars_ten_toDigits]

/-- **Every integer in the bounds** is read back from its decimal spelling. -/
theorem integer?_toString {least greatest i : Int} (hleast : least ≤ i) (hgreatest : i ≤ greatest) :
    integer? least greatest (toString i) = some i := by
  have hbounds : least ≤ i ∧ i ≤ greatest := ⟨hleast, hgreatest⟩
  rw [Int.toString_eq_repr, Int.repr_eq_if]
  by_cases hsign : 0 ≤ i
  · -- A spelling without a sign begins with a digit.
    have hdigits : (i.toNat.repr).toList = Nat.toDigits 10 i.toNat := Nat.toList_repr
    have hread := decimalDigits?_toDigits i.toNat
    have hall := isDigit_toDigits i.toNat
    have hvalue : Int.ofNat i.toNat = i := Int.toNat_of_nonneg hsign
    rw [if_pos hsign, integer?, hdigits]
    generalize Nat.toDigits 10 i.toNat = digits at hread hall
    split
    · exact absurd (hall '+' List.mem_cons_self) (by decide)
    · exact absurd (hall '-' List.mem_cons_self) (by decide)
    · rw [hread, Option.map_some, hvalue]
      exact if_pos hbounds
  · have hlist : ("-" ++ (-i).toNat.repr).toList = '-' :: Nat.toDigits 10 (-i).toNat := by
      rw [String.toList_append, Nat.toList_repr]
      rfl
    have hnegative : least < 0 := by omega
    have hvalue : - Int.ofNat (-i).toNat = i := by
      show - ((-i).toNat : Int) = i
      omega
    rw [if_neg hsign, integer?, hlist]
    show (if least < 0 then
        ((decimalDigits? (Nat.toDigits 10 (-i).toNat)).map (- Int.ofNat ·)).bind fun value =>
          if least ≤ value ∧ value ≤ greatest then some value else none
      else none) = _
    rw [if_pos hnegative, decimalDigits?_toDigits, Option.map_some, hvalue]
    exact if_pos hbounds

theorem read_iops (iops : Int64) :
    iopsArgument.read (toString iops) = .ok [.integer iops.toInt] := by
  have hleast : -0x8000000000000000 ≤ iops.toInt := Int64.le_toInt iops
  have hgreatest : iops.toInt ≤ 0x7fffffffffffffff := Int.le_of_lt_add_one (Int64.toInt_lt iops)
  have hread : integer? (-0x8000000000000000) 0x7fffffffffffffff (toString iops) =
      some iops.toInt := integer?_toString hleast hgreatest
  refine read_single rfl ?_
  show Kind.read (.integer (-0x8000000000000000) 0x7fffffffffffffff) (toString iops) = _
  rw [Kind.read, hread]

/-! ### Values of fields -/

section Held

variable {given : Given} {argument : Argument} {name s : String} {short : Char}

/-- Nothing stands for the text of a field but its values, unless it is an optional text. -/
theorem Given.Holds.values? {text : Option String} (h : given.Holds (argument, text))
    (hnot : argument.kind = .text → argument.required = true) :
    given.values? argument.name = text.map fun text => Assignment.values ⟨argument, text⟩ := by
  rcases h with hgiven | ⟨other, -, ⟨hkind, hfree, -⟩, -⟩
  · exact hgiven
  · exact absurd ((hnot hkind).symm.trans hfree) (by decide)

theorem Given.text?_of_values? {text : Option String}
    (h : given.values? argument.name = text.map fun s => Assignment.values ⟨argument, s⟩)
    (hread : ∀ s ∈ text, argument.read s = .ok [.text s]) : given.text? argument.name = text := by
  rw [Given.text?, h]
  cases text with
  | none => rfl
  | some s => rw [Option.map_some, Assignment.values_of_read (hread s rfl)]

theorem Given.Holds.text?_of_read (h : given.Holds (argument, some s))
    (hrequired : argument.required = true) (hread : argument.read s = .ok [.text s]) :
    given.text? argument.name = some s :=
  Given.text?_of_values? (h.values? fun _ => hrequired) fun _ ht => Option.some.inj ht ▸ hread

theorem Given.Holds.text?_plugin (h : given.Holds (pluginArgument, some s)) :
    given.text? "plugin" = some s :=
  h.text?_of_read rfl (read_text rfl rfl s)

theorem Given.Holds.text?_requiredText (h : given.Holds (requiredText name, some s)) :
    given.text? name = some s :=
  h.text?_of_read rfl (read_text rfl rfl s)

theorem Given.Holds.text?_requiredPath {short : Option Char}
    (h : given.Holds (requiredPath name short, some s)) (hs : s ≠ "") :
    given.text? name = some s :=
  h.text?_of_read rfl (read_path rfl rfl hs)

theorem Given.Holds.text?_optionalPath {short : Option Char} {text : Option String}
    (h : given.Holds (optionalPath name short, text)) (hne : ∀ s ∈ text, s ≠ "") :
    given.text? name = text :=
  Given.text?_of_values? (h.values? fun hkind => Kind.noConfusion hkind)
    fun s hs => read_path rfl rfl (hne s hs)

/-- A text that may be left out is empty if it is. -/
theorem Given.Holds.text?_optionalText (h : given.Holds (optionalText name, some s)) :
    (given.text? name).getD "" = s := by
  rcases h with hgiven | ⟨text, htext, hdefault, hnone⟩
  · have htext? : given.text? name = some s :=
      Given.text?_of_values? hgiven fun t _ => read_text rfl rfl t
    rw [htext?]
    rfl
  · have hempty : s = "" := (Option.some.inj htext).trans hdefault.2.2
    have hvalues : given.values? name = none := hnone
    rw [Given.text?, hvalues, hempty]
    rfl

theorem Given.Holds.pairs?_pairsArgument {pairs : Option Pairs}
    (h : given.Holds (pairsArgument name short, pairs.map Pairs.text))
    (hspellable : ∀ ps ∈ pairs, Pairs.Spellable ps) :
    given.pairs? name = pairs := by
  have hvalues : given.values? name = _ := h.values? fun hkind => Kind.noConfusion hkind
  rw [Given.pairs?, hvalues]
  cases pairs with
  | none => rfl
  | some pairs =>
    have hread : (pairsArgument name short).read pairs.text = _ := read_pairs (hspellable pairs rfl)
    rw [Option.map_some, Option.map_some, Option.map_some, Assignment.values_of_read hread,
      List.filterMap_map]
    exact congrArg some List.filterMap_some

theorem Given.Holds.integer?_iops {iops : Option Int64}
    (h : given.Holds (iopsArgument, iops.map toString)) :
    (given.integer? "iops").map Int64.ofInt = iops := by
  have hvalues : given.values? "iops" = _ := h.values? fun hkind => Kind.noConfusion hkind
  rw [Given.integer?, hvalues]
  cases iops with
  | none => rfl
  | some iops =>
    rw [Option.map_some, Option.map_some, Assignment.values_of_read (read_iops iops)]
    exact congrArg some (Int64.ofInt_toInt iops)

end Held

/-! ### The commands and their fields -/

namespace Command

/-- The words that name a command. -/
def words : Command → List String
  | list => ["list"]
  | appliesTo _ => ["restore-action", "applies-to"]
  | execute _ _ _ _ => ["restore-action", "execute"]
  | init _ _ => ["snapshotter", "init"]
  | createSnapshot _ _ _ _ => ["snapshotter", "create-snapshot"]
  | deleteSnapshot _ _ => ["snapshotter", "delete-snapshot"]
  | createVolume _ _ _ _ _ => ["snapshotter", "create-volume"]
  | volumeInfo _ _ _ => ["snapshotter", "volume-info"]
  | volumeId _ _ => ["snapshotter", "get-volume-id"]
  | setVolumeId _ _ _ => ["snapshotter", "set-volume-id"]
  | completions _ _ => ["completions"]
  | manual _ => ["manpage"]

/-- The fields of a command that calls a plugin. -/
def fields : Command → List Field
  | appliesTo plugin => [(pluginArgument, plugin)]
  | execute plugin item fromBackup restore =>
    [(pluginArgument, plugin), (requiredPath "item" 'i', item),
      (optionalPath "item-from-backup" none, fromBackup), (optionalPath "restore" 'r', restore)]
  | init plugin config =>
    [(pluginArgument, plugin), (pairsArgument "config" 'c', config.map Pairs.text)]
  | createSnapshot plugin volume az tags =>
    [(pluginArgument, plugin), (requiredText "volume-id", volume),
      (optionalText "volume-az", az), (pairsArgument "tags" 't', tags.map Pairs.text)]
  | deleteSnapshot plugin snapshot =>
    [(pluginArgument, plugin), (requiredText "snapshot-id", snapshot)]
  | createVolume plugin snapshot type az iops =>
    [(pluginArgument, plugin), (requiredText "snapshot-id", snapshot),
      (optionalText "volume-type", type), (optionalText "volume-az", az),
      (iopsArgument, iops.map toString)]
  | volumeInfo plugin volume az =>
    [(pluginArgument, plugin), (requiredText "volume-id", volume), (optionalText "volume-az", az)]
  | volumeId plugin document =>
    [(pluginArgument, plugin), (requiredPath "persistent-volume" none, document)]
  | setVolumeId plugin document volume =>
    [(pluginArgument, plugin), (requiredPath "persistent-volume" none, document),
      (requiredText "volume-id", volume)]
  | list | completions _ _ | manual _ => []

/-- The commands that call a plugin, if no path is empty and pairs have a text. -/
def Spellable : Command → Prop
  | execute _ item fromBackup restore =>
    item ≠ "" ∧ (∀ path ∈ fromBackup, path ≠ "") ∧ ∀ path ∈ restore, path ≠ ""
  | init _ pairs | createSnapshot _ _ _ pairs => ∀ ps ∈ pairs, Pairs.Spellable ps
  | volumeId _ document | setVolumeId _ document _ => document ≠ ""
  | appliesTo _ | deleteSnapshot _ _ | createVolume _ _ _ _ _ | volumeInfo _ _ _ => True
  | list | completions _ _ | manual _ => False

end Command

/-- The field for the socket of the host. -/
def socketFields (socket : Option String) : List Field := [(optionalText socketPathName, socket)]

/-! ### The client's grammar -/

theorem clientProgram_apart : clientProgram.grammar.Apart := by
  unfold Grammar.Apart
  decide

/-- The commands that call a plugin take all their arguments by name. -/
theorem clientProgram_byName :
    ∀ command ∈ actionCommands ++ snapshotterCommands,
      ByName (command.2.arguments ++ clientProgram.shared) := by
  have hnodup : ∀ command ∈ actionCommands ++ snapshotterCommands,
      ((command.2.arguments ++ clientProgram.shared).map Argument.name).Nodup := by
    decide
  have hplain : ∀ command ∈ actionCommands ++ snapshotterCommands,
      ∀ argument ∈ command.2.arguments ++ clientProgram.shared,
        argument.byPlace = false ∧ '=' ∉ argument.name.toList := by
    decide
  exact fun command hmem => ⟨hnodup command hmem, hplain command hmem⟩

theorem clientProgram_offers {group word : String} {commands : List (String × Grammar Command)}
    {arguments : List Argument} {build : Given → Option Command}
    (hcommands : commands = actionCommands ∨ commands = snapshotterCommands)
    (hgroup : clientProgram.grammar.commands.lookup group = some (.group commands))
    (hword : commands.lookup word = some (.leaf arguments build)) :
    clientProgram.Offers group word arguments build := by
  have hmem : (word, Grammar.leaf arguments build) ∈ actionCommands ++ snapshotterCommands := by
    obtain ⟨before, after, hsplit, -⟩ := List.lookup_eq_some_iff.1 hword
    have hin : (word, Grammar.leaf arguments build) ∈ commands := by
      rw [hsplit]
      exact List.mem_append_right _ List.mem_cons_self
    rcases hcommands with rfl | rfl
    · exact List.mem_append_left _ hin
    · exact List.mem_append_right _ hin
  exact ⟨⟨commands, hgroup, hword⟩, clientProgram_apart, clientProgram_byName _ hmem⟩

/-- **The client offers every command** that calls a plugin, and builds it of its fields. -/
theorem Command.offered {command : Command} (h : command.Spellable) :
    ∃ group word build, command.words = [group, word] ∧
      clientProgram.Offers group word (command.fields.map Prod.fst) build ∧
      ∀ given : Given, (∀ field ∈ command.fields, given.Holds field) →
        build given = some command := by
  cases command with
  | list | completions _ _ | manual _ => exact h.elim
  | appliesTo plugin =>
    refine ⟨_, _, _, rfl, clientProgram_offers (.inl rfl) rfl rfl, fun given hheld => ?_⟩
    obtain ⟨heldPlugin, -⟩ := List.forall_mem_cons.1 hheld
    rw [heldPlugin.text?_plugin]
    rfl
  | execute plugin item fromBackup restore =>
    obtain ⟨hitem, hfromBackup, hrestore⟩ := h
    refine ⟨_, _, _, rfl, clientProgram_offers (.inl rfl) rfl rfl, fun given hheld => ?_⟩
    simp only [fields, List.forall_mem_cons] at hheld
    obtain ⟨heldPlugin, heldItem, heldFromBackup, heldRestore, -⟩ := hheld
    rw [heldPlugin.text?_plugin, heldItem.text?_requiredPath hitem,
      heldFromBackup.text?_optionalPath hfromBackup, heldRestore.text?_optionalPath hrestore]
    rfl
  | init plugin config =>
    refine ⟨_, _, _, rfl, clientProgram_offers (.inr rfl) rfl rfl, fun given hheld => ?_⟩
    simp only [fields, List.forall_mem_cons] at hheld
    obtain ⟨heldPlugin, heldConfig, -⟩ := hheld
    rw [heldPlugin.text?_plugin, heldConfig.pairs?_pairsArgument h]
    rfl
  | createSnapshot plugin volume az tags =>
    refine ⟨_, _, _, rfl, clientProgram_offers (.inr rfl) rfl rfl, fun given hheld => ?_⟩
    simp only [fields, List.forall_mem_cons] at hheld
    obtain ⟨heldPlugin, heldVolume, heldAz, heldTags, -⟩ := hheld
    rw [heldPlugin.text?_plugin, heldVolume.text?_requiredText, heldAz.text?_optionalText,
      heldTags.pairs?_pairsArgument h]
    rfl
  | deleteSnapshot plugin snapshot =>
    refine ⟨_, _, _, rfl, clientProgram_offers (.inr rfl) rfl rfl, fun given hheld => ?_⟩
    simp only [fields, List.forall_mem_cons] at hheld
    obtain ⟨heldPlugin, heldSnapshot, -⟩ := hheld
    rw [heldPlugin.text?_plugin, heldSnapshot.text?_requiredText]
    rfl
  | createVolume plugin snapshot type az iops =>
    refine ⟨_, _, _, rfl, clientProgram_offers (.inr rfl) rfl rfl, fun given hheld => ?_⟩
    simp only [fields, List.forall_mem_cons] at hheld
    obtain ⟨heldPlugin, heldSnapshot, heldType, heldAz, heldIops, -⟩ := hheld
    rw [heldPlugin.text?_plugin, heldSnapshot.text?_requiredText,
      heldType.text?_optionalText, heldAz.text?_optionalText, heldIops.integer?_iops]
    rfl
  | volumeInfo plugin volume az =>
    refine ⟨_, _, _, rfl, clientProgram_offers (.inr rfl) rfl rfl, fun given hheld => ?_⟩
    simp only [fields, List.forall_mem_cons] at hheld
    obtain ⟨heldPlugin, heldVolume, heldAz, -⟩ := hheld
    rw [heldPlugin.text?_plugin, heldVolume.text?_requiredText, heldAz.text?_optionalText]
    rfl
  | volumeId plugin document =>
    refine ⟨_, _, _, rfl, clientProgram_offers (.inr rfl) rfl rfl, fun given hheld => ?_⟩
    simp only [fields, List.forall_mem_cons] at hheld
    obtain ⟨heldPlugin, heldDocument, -⟩ := hheld
    rw [heldPlugin.text?_plugin, heldDocument.text?_requiredPath h]
    rfl
  | setVolumeId plugin document volume =>
    refine ⟨_, _, _, rfl, clientProgram_offers (.inr rfl) rfl rfl, fun given hheld => ?_⟩
    simp only [fields, List.forall_mem_cons] at hheld
    obtain ⟨heldPlugin, heldDocument, heldVolume, -⟩ := hheld
    rw [heldPlugin.text?_plugin, heldDocument.text?_requiredPath h, heldVolume.text?_requiredText]
    rfl

/-! ### Every spelling of a command -/

/-- The text of a field can be read. -/
def Field.Readable (field : Field) : Prop :=
  ∀ text ∈ field.2, Assignment.Readable ⟨field.1, text⟩

theorem Field.readable_text {argument : Argument} (hmany : argument.many = false)
    (hkind : argument.kind = .text) (text : Option String) : Field.Readable (argument, text) :=
  fun s _ => Assignment.readable_of_read (read_text hmany hkind s)

theorem Field.readable_path {argument : Argument} (hmany : argument.many = false)
    (hkind : argument.kind = .path) {text : Option String} (h : ∀ s ∈ text, s ≠ "") :
    Field.Readable (argument, text) :=
  fun s hs => Assignment.readable_of_read (read_path hmany hkind (h s hs))

theorem Field.readable_pairs {name : String} {short : Char} {pairs : Option Pairs}
    (h : ∀ ps ∈ pairs, Pairs.Spellable ps) :
    Field.Readable (pairsArgument name short, pairs.map Pairs.text) := by
  intro s hs
  obtain ⟨ps, hps, rfl⟩ := Option.map_eq_some_iff.1 hs
  exact Assignment.readable_of_read (read_pairs (h ps hps))

theorem Field.readable_iops (iops : Option Int64) :
    Field.Readable (iopsArgument, iops.map toString) := by
  intro s hs
  obtain ⟨i, -, rfl⟩ := Option.map_eq_some_iff.1 hs
  exact Assignment.readable_of_read (read_iops i)

theorem Command.readable {command : Command} (h : command.Spellable) :
    ∀ field ∈ command.fields, field.Readable := by
  have hplugin (s) : Field.Readable (pluginArgument, s) := Field.readable_text rfl rfl s
  have hrequired (name s) : Field.Readable (requiredText name, s) := Field.readable_text rfl rfl s
  have hoptional (name s) : Field.Readable (optionalText name, s) := Field.readable_text rfl rfl s
  have hdocument (name short s) (hs : s ≠ "") : Field.Readable (requiredPath name short, some s) :=
    Field.readable_path rfl rfl fun t ht => Option.some.inj ht ▸ hs
  cases command with
  | list | completions _ _ | manual _ => exact h.elim
  | appliesTo _ => simp [fields, hplugin]
  | execute _ _ _ _ =>
    obtain ⟨hitem, hfromBackup, hrestore⟩ := h
    simp only [fields, List.forall_mem_cons]
    exact ⟨hplugin _, hdocument _ _ _ hitem, Field.readable_path rfl rfl hfromBackup,
      Field.readable_path rfl rfl hrestore, fun _ hmem => absurd hmem List.not_mem_nil⟩
  | init _ _ => simp [fields, hplugin, Field.readable_pairs h]
  | createSnapshot _ _ _ _ =>
    simp [fields, hplugin, hrequired, hoptional, Field.readable_pairs h]
  | deleteSnapshot _ _ => simp [fields, hplugin, hrequired]
  | createVolume _ _ _ _ _ =>
    simp [fields, hplugin, hrequired, hoptional, Field.readable_iops]
  | volumeInfo _ _ _ => simp [fields, hplugin, hrequired, hoptional]
  | volumeId _ _ => simp [fields, hplugin, hdocument _ _ _ h]
  | setVolumeId _ _ _ => simp [fields, hplugin, hrequired, hdocument _ _ _ h]

/-- A command has a text for each field that has to be given. -/
theorem Command.isSome_of_required (command : Command) :
    ∀ field ∈ command.fields, field.1.required = true → field.2.isSome := by
  cases command <;>
    simp [fields, pluginArgument, requiredText, optionalText, requiredPath, optionalPath,
      pairsArgument, iopsArgument]

/-- The client offers a command with its fields and with the socket of the host. -/
theorem clientProgram_offersFields {command : Command} (h : command.Spellable)
    (socket : Option String) {group word : String} {build : Given → Option Command}
    (hoffers : clientProgram.Offers group word (command.fields.map Prod.fst) build) :
    clientProgram.OffersFields group word command.fields (socketFields socket) build where
  offers := hoffers
  shared_eq := rfl
  shared_free := by decide
  readable := by
    intro a hmem
    rcases List.mem_append.1 (mem_assignmentsOf.1 hmem) with hown | hshared
    · exact Command.readable h _ hown _ rfl
    · rw [socketFields, List.mem_singleton] at hshared
      have hsocket : Field.Readable (optionalText socketPathName, socket) :=
        Field.readable_text rfl rfl socket
      rw [← hshared] at hsocket
      exact hsocket _ rfl

/-- The line that names a command, with words before and behind its name. -/
def Command.line (command : Command) (program : String) (before after : List Assignment) :
    List String :=
  program :: (before.map Assignment.word ++ command.words ++ after.map Assignment.word)

/-- **Every spelling of a command is read as the command.**  The words may stand in any order, the
one for the socket also before the command, and empty texts that are optional may be left out.  If
a required text is left out the line is refused. -/
theorem Invocation.read_arranged (program : String) {invocation : Invocation}
    {before after left : List Assignment} (hspellable : invocation.command.Spellable)
    (harranged : Arranged (assignmentsOf invocation.command.fields)
      (assignmentsOf (socketFields invocation.socketPath)) before after left) :
    ((∀ a ∈ left, a.IsDefault) →
      Invocation.read (invocation.command.line program before after) = .ok invocation) ∧
    ((∃ a ∈ left, a.argument.required = true) →
      Invocation.read (invocation.command.line program before after) =
        .error .missingArgument) := by
  obtain ⟨socket, command⟩ := invocation
  obtain ⟨group, word, build, hwords, hoffers, hbuild⟩ := Command.offered hspellable
  have hfields := clientProgram_offersFields hspellable socket hoffers
  have hline : (command.line program before after).tail =
      before.map Assignment.word ++ group :: word :: after.map Assignment.word := by
    show before.map Assignment.word ++ command.words ++ after.map Assignment.word = _
    rw [hwords, List.append_assoc]
    rfl
  constructor
  · -- What is given holds the fields, and the command is built of what holds them.
    intro hdefault
    let given : Given := (after ++ before).map Assignment.given
    have hheld : ∀ field ∈ command.fields, given.Holds field := fun field hmem =>
      holds_field hfields.nodup harranged hdefault (List.mem_append_left _ hmem)
    have hread := hfields.read_of_complete harranged command.isSome_of_required hdefault
      (hbuild given hheld)
    have hsocket : given.text? socketPathName = socket :=
      Given.text?_of_values? (values?_shared hfields.nodup harranged (List.mem_singleton.2 rfl))
        fun s _ => read_text rfl rfl s
    rw [Invocation.read, hline, hread]
    show Except.ok (⟨given.text? socketPathName, command⟩ : Invocation) = _
    rw [hsocket]
  · intro hmissing
    rw [Invocation.read, hline, hfields.read_of_missing harranged hmissing]
    rfl

/-- Values that look like arguments, a pair whose value holds an equals sign, and empty texts; the
socket once before the command and once behind it. -/
theorem Invocation.read_arranged_snapshot :
    Invocation.read ["bkplug", "--socket-path=", "snapshotter", "create-snapshot",
        "--tags=k=a=b,=", "--volume-id=--help", "--plugin=-p"] =
      .ok ⟨some "", .createSnapshot "-p" "--help" "" (some [("k", "a=b"), ("", "")])⟩ ∧
    Invocation.read ["bkplug", "snapshotter", "create-snapshot", "--volume-az=",
        "--tags=k=a=b,=", "--socket-path=", "--volume-id=--help"] =
      .error .missingArgument := by
  let invocation : Invocation :=
    ⟨some "", .createSnapshot "-p" "--help" "" (some [("k", "a=b"), ("", "")])⟩
  let socket : Assignment := ⟨optionalText socketPathName, ""⟩
  let plugin : Assignment := ⟨pluginArgument, "-p"⟩
  let volume : Assignment := ⟨requiredText "volume-id", "--help"⟩
  let az : Assignment := ⟨optionalText "volume-az", ""⟩
  let tags : Assignment := ⟨pairsArgument "tags" 't', "k=a=b,="⟩
  have hspellable : invocation.command.Spellable := by
    intro ps hps
    obtain rfl := Option.some.inj hps
    exact ⟨by decide, by decide⟩
  have hcomplete : Arranged (assignmentsOf invocation.command.fields)
      (assignmentsOf (socketFields invocation.socketPath)) [socket] [tags, volume, plugin] [az] :=
    ⟨by decide, by decide, by decide⟩
  have hmissing : Arranged (assignmentsOf invocation.command.fields)
      (assignmentsOf (socketFields invocation.socketPath)) [] [az, tags, socket, volume] [plugin] :=
    ⟨by decide, by decide, by decide⟩
  have hlines : invocation.command.line "bkplug" [socket] [tags, volume, plugin] =
        ["bkplug", "--socket-path=", "snapshotter", "create-snapshot",
          "--tags=k=a=b,=", "--volume-id=--help", "--plugin=-p"] ∧
      invocation.command.line "bkplug" [] [az, tags, socket, volume] =
        ["bkplug", "snapshotter", "create-snapshot", "--volume-az=",
          "--tags=k=a=b,=", "--socket-path=", "--volume-id=--help"] := by
    decide
  have hdefault : ∀ a ∈ [az], a.IsDefault := by
    intro a hmem
    rw [List.mem_singleton.1 hmem]
    exact ⟨rfl, rfl, rfl⟩
  have hrequired : ∃ a ∈ [plugin], a.argument.required = true :=
    ⟨plugin, List.mem_singleton.2 rfl, rfl⟩
  rw [← hlines.1, ← hlines.2]
  exact ⟨(Invocation.read_arranged "bkplug" hspellable hcomplete).1 hdefault,
    (Invocation.read_arranged "bkplug" hspellable hmissing).2 hrequired⟩

end RestorePlugins.CommandLine
