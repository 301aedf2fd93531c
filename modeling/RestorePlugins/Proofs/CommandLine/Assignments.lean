import RestorePlugins.CommandLine.Grammar
import RestorePlugins.Proofs.Text.Separators
import Mathlib.Data.List.Nodup

namespace RestorePlugins.CommandLine

/-!
# Reading arguments that are given by name

A word `--name=text` gives an argument its text, whatever the text looks like.

* `Assignment`, `Assignment.word` — an argument with a text, and its word.
* `Word.ofText_word` — such a word is taken apart at its first equals sign.
* `Level.step_word` — **one such word** gives the argument its values and changes nothing else.
* `readWords_words` — a row of them gives all arguments their values, in the order of the row.
* `Level.close_of_ready` — a command ends well unless a required argument was not given.
* `Program.Offers.read_words` — all of it for a command in a group of a program.
-/

variable {α : Type}

/-! ### Words -/

/-- An argument that is given by its name, and the text of its values. -/
structure Assignment where
  argument : Argument
  text : String
  deriving DecidableEq

namespace Assignment

/-- The name of the argument. -/
def name (a : Assignment) : String := a.argument.name

/-- The word that gives the argument its text. -/
def word (a : Assignment) : String := "--" ++ a.name ++ "=" ++ a.text

/-- The values that the text stands for; none if it cannot be read. -/
def values (a : Assignment) : List Value := (a.argument.read a.text).toOption.getD []

/-- What is given by the word. -/
def given (a : Assignment) : String × List Value := (a.name, a.values)

/-- The text can be read. -/
def Readable (a : Assignment) : Prop := a.argument.read a.text = .ok a.values

theorem values_of_read {a : Assignment} {values : List Value}
    (h : a.argument.read a.text = .ok values) : a.values = values := by
  rw [Assignment.values, h]
  rfl

theorem readable_of_read {a : Assignment} {values : List Value}
    (h : a.argument.read a.text = .ok values) : a.Readable := by
  rw [Readable, values_of_read h, h]

end Assignment

/-- **A word is taken apart at its first equals sign**, so the text behind it may hold anything. -/
theorem Word.ofText_word {a : Assignment} (h : '=' ∉ a.name.toList) :
    Word.ofText a.word = .long a.name (some a.text) := by
  have hlist : a.word.toList = '-' :: '-' :: (a.name.toList ++ '=' :: a.text.toList) := by
    simp [Assignment.word, String.toList_append]
  have hspan := span_ne_append h a.text.toList
  have hlong : a.name.toList ++ '=' :: a.text.toList ≠ [] := by
    simp
  unfold Word.ofText
  rw [hlist]
  generalize a.name.toList ++ '=' :: a.text.toList = rest at hspan hlong
  -- The word is longer than two hyphens, which alone would end the options.
  cases rest with
  | nil => exact absurd rfl hlong
  | cons c rest =>
    simp only [hspan]
    rw [String.ofList_toList, String.ofList_toList]

/-- A word for an argument begins with a hyphen. -/
theorem head?_word (a : Assignment) : a.word.toList.head? = some '-' := by
  simp [Assignment.word, String.toList_append]

/-! ### Levels -/

/-- A level that waits for no value and still takes arguments. -/
structure Level.Ready (l : Level α) : Prop where
  waiting : l.waiting = none
  escaped : l.escaped = false

/-- No command of a group begins with a hyphen. -/
def Grammar.Apart (grammar : Grammar α) : Prop :=
  ∀ command ∈ grammar.commands, command.1.toList.head? ≠ some '-'

/-- A level takes an argument by its name, and its text can be read. -/
structure Level.Takes (l : Level α) (a : Assignment) : Prop where
  plain : '=' ∉ a.name.toList
  named : l.named? a.name = some a.argument
  readable : a.Readable

/-- The level with more that was given. -/
def Level.with (l : Level α) (more : Given) : Level α := { l with given := l.given ++ more }

theorem lookup_word_eq_none {grammar : Grammar α} (h : grammar.Apart) (a : Assignment) :
    grammar.commands.lookup a.word = none := by
  rw [List.lookup_eq_none_iff]
  intro command hmem
  refine bne_iff_ne.2 fun heq => h command hmem ?_
  rw [← heq, head?_word]

theorem word_ne_help (a : Assignment) : a.word ≠ helpCommand := by
  intro heq
  have hhead := head?_word a
  rw [heq] at hhead
  exact absurd hhead (by decide)

theorem Given.add_of_not_given {given : Given} {name : String} (values : List Value)
    (h : given.values? name = none) : given.add name values = given ++ [(name, values)] := by
  have hnone := List.lookup_eq_none_iff.1 h
  clear h
  induction given with
  | nil => rfl
  | cons entry rest ih =>
    have hne : entry.1 ≠ name := (bne_iff_ne.1 (hnone entry List.mem_cons_self)).symm
    have hrest := ih fun other hmem => hnone other (List.mem_cons_of_mem _ hmem)
    rw [Given.add, if_neg hne, hrest, List.cons_append]

theorem Level.accept_of_takes {l : Level α} {a : Assignment} (h : l.Takes a)
    (hfree : l.given.values? a.name = none) :
    l.accept a.argument a.text = .ok (l.with [a.given]) := by
  have hread : a.argument.read a.text = .ok a.values := h.readable
  have hname : l.given.values? a.argument.name = none := hfree
  have hadd : l.given.add a.argument.name a.values = l.given ++ [a.given] :=
    Given.add_of_not_given a.values hfree
  rw [Level.accept, hname, Option.isSome_none, Bool.and_false, hread]
  show Except.ok { l with given := l.given.add a.argument.name a.values } = _
  rw [hadd]
  rfl

/-- A word for an argument that a level knows is accepted by it. -/
theorem Level.step_accept {l : Level α} {a : Assignment} (hready : l.Ready)
    (hapart : l.grammar.Apart) (hplain : '=' ∉ a.name.toList)
    (hnamed : l.named? a.name = some a.argument) (rest : List String) :
    l.step a.word rest = (l.accept a.argument a.text).map .stay := by
  have hwants : l.wantsValue = false := by
    rw [Level.wantsValue, hready.waiting]
  have htake : l.take a.argument (some a.text) = l.accept a.argument a.text := by
    rw [Level.take, Level.settle, hready.waiting]
    rfl
  have hword : l.takeWord a.word = l.accept a.argument a.text := by
    rw [Level.takeWord, Word.ofText_word hplain]
    show l.takeLong a.name (some a.text) = _
    rw [Level.takeLong, hnamed]
    exact htake
  rw [Level.step, hready.escaped, hwants, hword]
  -- A group first looks whether the word is one of its commands.
  cases hgroup : l.grammar.isGroup with
  | false => rfl
  | true =>
    rw [lookup_word_eq_none hapart a]
    show (if a.word = helpCommand then .error (helpOf l.grammar rest)
      else (l.accept a.argument a.text).map Step.stay) = _
    rw [if_neg (word_ne_help a)]

/-- **One word** gives its argument the values and changes nothing else. -/
theorem Level.step_word {l : Level α} {a : Assignment} (hready : l.Ready)
    (hapart : l.grammar.Apart) (h : l.Takes a) (hfree : l.given.values? a.name = none)
    (rest : List String) : l.step a.word rest = .ok (.stay (l.with [a.given])) := by
  rw [Level.step_accept hready hapart h.plain h.named, Level.accept_of_takes h hfree]
  rfl

/-! ### Rows of words -/

theorem Given.values?_snoc {given : Given} {a : Assignment} {name : String}
    (h : given.values? name = none) (hne : name ≠ a.name) :
    Given.values? (given ++ [a.given]) name = none := by
  have hnone := List.lookup_eq_none_iff.1 h
  refine List.lookup_eq_none_iff.2 ?_
  intro entry hmem
  rcases List.mem_append.1 hmem with hgiven | hlast
  · exact hnone entry hgiven
  · rw [List.mem_singleton.1 hlast]
    exact bne_iff_ne.2 hne

/-- **A row of words** gives all its arguments their values. -/
theorem readWords_words {outer : List (Level α)} {l : Level α} {row : List Assignment}
    (hready : l.Ready) (hapart : l.grammar.Apart) (h : ∀ a ∈ row, l.Takes a)
    (hfree : ∀ a ∈ row, l.given.values? a.name = none)
    (hnodup : (row.map Assignment.name).Nodup) (tail : List String) :
    readWords outer l (row.map Assignment.word ++ tail) =
      readWords outer (l.with (row.map Assignment.given)) tail := by
  -- Induction on the row, for all that was given before it.
  induction row generalizing l with
  | nil => rw [List.map_nil, List.map_nil, Level.with, List.append_nil, List.nil_append]
  | cons a row ih =>
    have hfirst := hfree a List.mem_cons_self
    obtain ⟨hnew, hrest⟩ := List.nodup_cons.1 hnodup
    have hlater : ∀ b ∈ row, (l.with [a.given]).given.values? b.name = none := by
      intro b hmem
      have hne : b.name ≠ a.name := by
        intro heq
        exact hnew (heq ▸ List.mem_map_of_mem hmem)
      exact Given.values?_snoc (hfree b (List.mem_cons_of_mem _ hmem)) hne
    have hready' : (l.with [a.given]).Ready := ⟨hready.waiting, hready.escaped⟩
    have hapart' : (l.with [a.given]).grammar.Apart := hapart
    have htakes : ∀ b ∈ row, (l.with [a.given]).Takes b := by
      intro b hmem
      have hb := h b (List.mem_cons_of_mem _ hmem)
      exact ⟨hb.plain, hb.named, hb.readable⟩
    rw [List.map_cons, List.cons_append, readWords,
      Level.step_word hready hapart (h a List.mem_cons_self) hfirst]
    show readWords outer (l.with [a.given]) (row.map Assignment.word ++ tail) = _
    rw [ih hready' hapart' htakes hlater hrest, Level.with, Level.with, Level.with,
      List.append_assoc]
    rfl

/-- A word that names a command enters the command. -/
theorem readWords_enter {outer : List (Level α)} {l : Level α} {word : String}
    {grammar : Grammar α} (hready : l.Ready) (h : l.grammar.commands.lookup word = some grammar)
    (tail : List String) :
    readWords outer l (word :: tail) =
      readWords (l :: outer) { grammar := grammar, shared := l.shared } tail := by
  have hwants : l.wantsValue = false := by
    rw [Level.wantsValue, hready.waiting]
  have hgroup : l.grammar.isGroup = true := by
    cases hgrammar : l.grammar with
    | group _ => rfl
    | leaf _ _ =>
      rw [hgrammar] at h
      cases h
  rw [readWords, Level.step, hready.escaped, hwants, hgroup, h]
  rfl

/-! ### The end of a command -/

theorem Level.settle_of_ready {l : Level α} (h : l.waiting = none) : l.settle = .ok l := by
  rw [Level.settle, h]

/-- Whether a required argument was not given. -/
def Level.lacks (l : Level α) : Bool :=
  l.arguments.any fun argument => argument.required && (l.given.values? argument.name).isNone

/-- **A command ends well** unless a required argument was not given. -/
theorem Level.close_of_ready {l : Level α} (hready : l.Ready) (hleaf : l.grammar.isGroup = false) :
    l.close = if l.lacks then .error .missingArgument else .ok l := by
  have hnot : ¬ l.grammar.isGroup = true := by
    rw [hleaf]
    exact Bool.false_ne_true
  rw [Level.close, Level.settle_of_ready hready.waiting]
  show (if l.grammar.isGroup = true then _ else _) = _
  rw [if_neg hnot]
  show (if l.lacks = true then _ else _) = _
  cases l.lacks <;> rfl

theorem Level.lacks_eq_true_iff {l : Level α} :
    l.lacks = true ↔ ∃ argument ∈ l.arguments, argument.required = true ∧
      l.given.values? argument.name = none := by
  simp only [Level.lacks, List.any_eq_true, Bool.and_eq_true, Option.isNone_iff_eq_none]

theorem mapM_settle_of_ready {outer : List (Level α)} (h : ∀ l ∈ outer, l.Ready) :
    outer.mapM Level.settle = .ok outer := by
  induction outer with
  | nil => rfl
  | cons l outer ih =>
    have hfirst := Level.settle_of_ready (h l List.mem_cons_self).waiting
    have hrest := ih fun other hmem => h other (List.mem_cons_of_mem _ hmem)
    rw [List.mapM_cons, hfirst, hrest]
    rfl

/-- **The end of a line**: what the innermost command was given comes first. -/
theorem readWords_nil {outer : List (Level α)} {l : Level α} (hready : l.Ready)
    (hleaf : l.grammar.isGroup = false) (houter : ∀ level ∈ outer, level.Ready) :
    readWords outer l [] =
      if l.lacks then .error .missingArgument
      else .ok (l.given ++ outer.flatMap (·.given), l.grammar) := by
  rw [readWords, Level.close_of_ready hready hleaf]
  cases l.lacks with
  | true => rfl
  | false =>
    show ((outer.mapM Level.settle) >>= fun outer => _) = _
    rw [mapM_settle_of_ready houter]
    rfl

/-! ### Commands of a group -/

/-- All arguments are given by names, each by its own. -/
structure ByName (arguments : List Argument) : Prop where
  nodup : (arguments.map Argument.name).Nodup
  plain : ∀ argument ∈ arguments, argument.byPlace = false ∧ '=' ∉ argument.name.toList

theorem ByName.sublist {arguments others : List Argument} (h : ByName arguments)
    (hsub : others.Sublist arguments) : ByName others :=
  ⟨h.nodup.sublist (hsub.map _), fun argument hmem => h.plain argument (hsub.subset hmem)⟩

/-- Each argument is found by its own name. -/
theorem Level.named?_of_byName {l : Level α} {argument : Argument} (h : ByName l.arguments)
    (hmem : argument ∈ l.arguments) : l.named? argument.name = some argument := by
  have hself : (!argument.byPlace && decide (argument.name = argument.name)) = true := by
    rw [(h.plain _ hmem).1]
    exact decide_eq_true rfl
  cases hfound : l.named? argument.name with
  | none => exact absurd hself (List.find?_eq_none.1 hfound _ hmem)
  | some found =>
    have hsome : (!found.byPlace && decide (found.name = argument.name)) = true :=
      List.find?_some (p := fun b : Argument => !b.byPlace && decide (b.name = argument.name))
        hfound
    have hsame : found.name = argument.name :=
      of_decide_eq_true (Bool.and_eq_true_iff.1 hsome).2
    exact congrArg some
      (List.inj_on_of_nodup_map h.nodup (List.mem_of_find?_eq_some hfound) hmem hsame)

theorem Level.takes_of_byName {l : Level α} {a : Assignment} (h : ByName l.arguments)
    (hmem : a.argument ∈ l.arguments) (hread : a.Readable) : l.Takes a where
  plain := (h.plain _ hmem).2
  named := Level.named?_of_byName h hmem
  readable := hread

/-- A program has a command in a group. -/
structure Program.Offers (p : Program α) (group word : String) (arguments : List Argument)
    (build : Given → Option α) : Prop where
  leads : ∃ commands, p.grammar.commands.lookup group = some (.group commands) ∧
    commands.lookup word = some (.leaf arguments build)
  apart : p.grammar.Apart
  byName : ByName (arguments ++ p.shared)

/-- A level of a program at which something was given. -/
def Program.level (p : Program α) (grammar : Grammar α) (given : Given) : Level α :=
  { grammar := grammar, shared := p.shared, given := given }

/-- The level at which a line begins. -/
def Program.start (p : Program α) : Level α :=
  { grammar := p.grammar, shared := p.shared, versioned := true }

/-- The levels around a command in a group are done with their words. -/
theorem Program.outer_ready (p : Program α) (commands : List (String × Grammar α))
    (given : Given) :
    ∀ level ∈ [p.level (.group commands) [], p.start.with given], level.Ready := by
  intro level hmem
  rcases List.mem_cons.1 hmem with rfl | hmem
  · exact ⟨rfl, rfl⟩
  · rw [List.mem_singleton.1 hmem]
    exact ⟨rfl, rfl⟩

section Offers

variable {p : Program α} {group word : String} {arguments : List Argument}
variable {build : Given → Option α} {a : Assignment} {before after : List Assignment}
variable (h : p.Offers group word arguments build)

include h in
/-- A program that has groups takes no arguments but those that all its commands take. -/
theorem Program.Offers.arguments_start : p.start.arguments = p.shared := by
  obtain ⟨commands, hgroup, -⟩ := h.leads
  show p.grammar.arguments ++ p.shared = p.shared
  cases hgrammar : p.grammar with
  | group _ => rfl
  | leaf _ _ =>
    rw [hgrammar] at hgroup
    cases hgroup

include h in
theorem Program.Offers.takes_start (hmem : a.argument ∈ p.shared) (hread : a.Readable) :
    p.start.Takes a := by
  have hbyName : ByName p.start.arguments := by
    rw [h.arguments_start]
    exact h.byName.sublist (List.sublist_append_right _ _)
  rw [← h.arguments_start] at hmem
  exact Level.takes_of_byName hbyName hmem hread

include h in
/-- The end of the line: what stands behind the command is read by the command, and what stands
before it was read at its start. -/
theorem Program.Offers.readWords_behind {commands : List (String × Grammar α)} {given : Given}
    (hafter : ∀ a ∈ after, a.argument ∈ arguments ++ p.shared ∧ a.Readable)
    (hnodup : (after.map Assignment.name).Nodup) :
    readWords [p.level (.group commands) [], p.start.with given]
        (p.level (.leaf arguments build) []) (after.map Assignment.word) =
      if (p.level (.leaf arguments build) (after.map Assignment.given)).lacks then
        .error .missingArgument
      else .ok (after.map Assignment.given ++ given, .leaf arguments build) := by
  have htakes : ∀ a ∈ after, (p.level (.leaf arguments build) []).Takes a := by
    intro a hmem
    obtain ⟨hargument, hread⟩ := hafter a hmem
    exact Level.takes_of_byName h.byName hargument hread
  have happart : (p.level (.leaf arguments build) []).grammar.Apart :=
    fun _ hmem => absurd hmem List.not_mem_nil
  have hgiven : [p.level (.group commands) [], p.start.with given].flatMap (·.given) = given := by
    simp [Program.start, Program.level, Level.with]
  rw [← List.append_nil (after.map Assignment.word),
    readWords_words ⟨rfl, rfl⟩ happart htakes (fun _ _ => rfl) hnodup,
    readWords_nil ⟨rfl, rfl⟩ rfl (p.outer_ready commands given), hgiven]
  rfl

include h in
/-- **A command of a group, given arguments by name.**  Those that all commands take may stand
before it. -/
theorem Program.Offers.read_words
    (hbefore : ∀ a ∈ before, a.argument ∈ p.shared ∧ a.Readable)
    (hafter : ∀ a ∈ after, a.argument ∈ arguments ++ p.shared ∧ a.Readable)
    (hnodup : ((after ++ before).map Assignment.name).Nodup) :
    p.read (before.map Assignment.word ++ group :: word :: after.map Assignment.word) =
      if (p.level (.leaf arguments build) (after.map Assignment.given)).lacks then
        .error .missingArgument
      else match build ((after ++ before).map Assignment.given) with
        | some a => .ok ((after ++ before).map Assignment.given, a)
        | none => .error .missingArgument := by
  obtain ⟨commands, hgroup, hword⟩ := h.leads
  rw [List.map_append] at hnodup
  obtain ⟨hnodupAfter, hnodupBefore, -⟩ := List.nodup_append.1 hnodup
  have htakes : ∀ a ∈ before, p.start.Takes a := by
    intro a hmem
    obtain ⟨hargument, hread⟩ := hbefore a hmem
    exact h.takes_start hargument hread
  have hrow : readWords [] p.start
      (before.map Assignment.word ++ group :: word :: after.map Assignment.word) =
        if (p.level (.leaf arguments build) (after.map Assignment.given)).lacks then
          .error .missingArgument
        else .ok ((after ++ before).map Assignment.given, .leaf arguments build) := by
    rw [readWords_words ⟨rfl, rfl⟩ h.apart htakes (fun _ _ => rfl) hnodupBefore,
      readWords_enter ⟨rfl, rfl⟩ hgroup, readWords_enter ⟨rfl, rfl⟩ hword, List.map_append]
    exact h.readWords_behind hafter hnodupAfter
  rw [Program.read]
  show (readWords [] p.start _ >>= fun answer => _) = _
  rw [hrow]
  cases (p.level (.leaf arguments build) (after.map Assignment.given)).lacks with
  | true => rfl
  | false => rfl

end Offers

end RestorePlugins.CommandLine
