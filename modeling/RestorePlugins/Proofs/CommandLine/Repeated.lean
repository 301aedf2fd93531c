import RestorePlugins.Proofs.CommandLine.Fields

namespace RestorePlugins.CommandLine

/-!
# Arguments that are given more than once

An argument with many values takes a row of words, each of which has further values.

* `Given.withRows` — what is given when the rows of values of such an argument come last.
* `Level.step_many` — **one word** adds its values, or is refused if its text cannot be read.
* `readWords_texts` — a row of words adds the values of all of them.
* `Program.Prepares.read_texts` — a command in a group of a program that is given such a row.
-/

variable {α : Type}

/-! ### Values that are added -/

/-- What is given when an argument that was not given before is given rows of values. -/
def Given.withRows (given : Given) (name : String) : List (List Value) → Given
  | [] => given
  | row :: rows => given ++ [(name, (row :: rows).flatten)]

/-- Further values of the argument that was given last join its values. -/
theorem Given.add_append {given : Given} {name : String} (h : given.values? name = none)
    (values more : List Value) :
    Given.add name more (given ++ [(name, values)]) = given ++ [(name, values ++ more)] := by
  have hnone := List.lookup_eq_none_iff.1 h
  clear h
  induction given with
  | nil => rw [List.nil_append, Given.add, if_pos rfl, List.nil_append]
  | cons entry given ih =>
    have hne : entry.1 ≠ name := (bne_iff_ne.1 (hnone entry List.mem_cons_self)).symm
    have hrest := ih fun other hmem => hnone other (List.mem_cons_of_mem _ hmem)
    rw [List.cons_append, Given.add, if_neg hne, hrest, List.cons_append]

/-- Rows that are added one after the other. -/
theorem Given.foldl_add {given : Given} {name : String} (h : given.values? name = none)
    (rows : List (List Value)) :
    rows.foldl (fun given row => Given.add name row given) given = given.withRows name rows := by
  cases rows with
  | nil => rfl
  | cons row rows =>
    rw [List.foldl_cons, Given.add_of_not_given row h]
    -- Induction on the other rows, for any values that were given before them.
    induction rows generalizing row with
    | nil => rw [List.foldl_nil, withRows, List.flatten_cons, List.flatten_nil, List.append_nil]
    | cons next rows ih =>
      rw [List.foldl_cons, Given.add_append h, ih, withRows, withRows, List.flatten_cons,
        List.flatten_cons, List.flatten_cons, List.append_assoc]

/-- The argument holds the values of all rows. -/
theorem Given.values?_withRows {given : Given} {name : String} (h : given.values? name = none)
    (rows : List (List Value)) :
    (given.withRows name rows).values? name = if rows.isEmpty then none else some rows.flatten := by
  cases rows with
  | nil => exact h
  | cons row rows =>
    show List.lookup name (given ++ [(name, (row :: rows).flatten)]) = some (row :: rows).flatten
    have hnone : List.lookup name given = none := h
    rw [List.lookup_append, hnone, Option.none_or, List.lookup_cons_self]

/-- All other arguments hold what they held. -/
theorem Given.values?_withRows_of_ne {given : Given} {name other : String} (h : other ≠ name)
    (rows : List (List Value)) : (given.withRows name rows).values? other = given.values? other := by
  cases rows with
  | nil => rfl
  | cons row rows =>
    show List.lookup other (given ++ [(name, (row :: rows).flatten)]) = List.lookup other given
    rw [List.lookup_append, List.lookup_cons, beq_false_of_ne h, List.lookup_nil, Option.or_none]

/-! ### Words -/

section Words

variable {l : Level α} {argument : Argument}

/-- **One word** for an argument with many values adds those that its text stands for. -/
theorem Level.step_many (hready : l.Ready) (hapart : l.grammar.Apart)
    (hplain : '=' ∉ argument.name.toList) (hnamed : l.named? argument.name = some argument)
    (hmany : argument.many = true) (text : String) (rest : List String) :
    l.step (Assignment.word ⟨argument, text⟩) rest =
      (argument.read text).map fun row =>
        .stay { l with given := l.given.add argument.name row } := by
  have haccept : l.accept argument text =
      (argument.read text).map fun row => { l with given := l.given.add argument.name row } := by
    rw [Level.accept, hmany]
    cases argument.read text with
    | error e => rfl
    | ok row => rfl
  have hstep := Level.step_accept (a := ⟨argument, text⟩) hready hapart hplain hnamed rest
  rw [hstep, haccept]
  cases argument.read text with
  | error e => rfl
  | ok row => rfl

/-- **A row of words** for one argument adds the values of all of them, and is refused if one of
its texts cannot be read. -/
theorem readWords_texts (outer : List (Level α)) (hready : l.Ready) (hapart : l.grammar.Apart)
    (hplain : '=' ∉ argument.name.toList) (hnamed : l.named? argument.name = some argument)
    (hmany : argument.many = true) (texts : List String) :
    readWords outer l (texts.map fun text => Assignment.word ⟨argument, text⟩) =
      texts.mapM argument.read >>= fun rows =>
        readWords outer
          { l with given := rows.foldl (fun given row => given.add argument.name row) l.given }
          [] := by
  -- Induction on the texts, for all that was given before them.
  induction texts generalizing l with
  | nil => rfl
  | cons text texts ih =>
    rw [List.map_cons, readWords, Level.step_many hready hapart hplain hnamed hmany,
      List.mapM_cons]
    cases argument.read text with
    | error e => rfl
    | ok row =>
      let next : Level α := { l with given := l.given.add argument.name row }
      have hrest := ih (l := next) ⟨hready.waiting, hready.escaped⟩ hapart hnamed
      show readWords outer next _ = _
      rw [hrest]
      cases texts.mapM argument.read with
      | error e => rfl
      | ok rows => rfl

end Words

/-! ### Commands of a group -/

/-- A program has a command in a group, and a row of words gives it all that it requires.  What is
still to come is an argument with many values. -/
structure Program.Prepares (p : Program α) (group word : String) (arguments : List Argument)
    (build : Given → Option α) (row : List Assignment) (argument : Argument) : Prop where
  offers : p.Offers group word arguments build
  taken : ∀ a ∈ row, a.argument ∈ arguments ++ p.shared ∧ a.Readable
  nodup : (row.map Assignment.name).Nodup
  complete : ∀ other ∈ arguments ++ p.shared,
    other.required = true → other.name ∈ row.map Assignment.name
  mem : argument ∈ arguments ++ p.shared
  many : argument.many = true
  free : argument.name ∉ row.map Assignment.name

namespace Program.Prepares

variable {p : Program α} {group word : String} {arguments : List Argument}
variable {build : Given → Option α} {row : List Assignment} {argument : Argument}
variable (h : p.Prepares group word arguments build row argument)

include h in
theorem not_given : Given.values? (row.map Assignment.given) argument.name = none :=
  values?_row_eq_none fun _ ha hname => h.free (hname ▸ List.mem_map_of_mem ha)

include h in
/-- No required argument is missing, whatever values follow. -/
theorem lacks_eq_false (rows : List (List Value)) :
    (p.level (.leaf arguments build)
      (Given.withRows (row.map Assignment.given) argument.name rows)).lacks = false := by
  refine Bool.eq_false_iff.2 fun hlacks => ?_
  -- A required argument that were missing would be in the row, whose values are kept.
  obtain ⟨other, hother, hrequired, hnone⟩ := Level.lacks_eq_true_iff.1 hlacks
  obtain ⟨a, ha, hname⟩ := List.mem_map.1 (h.complete other hother hrequired)
  have hne : other.name ≠ argument.name := by
    intro heq
    exact h.free (heq ▸ hname ▸ List.mem_map_of_mem ha)
  have hgiven : Given.values? (row.map Assignment.given) other.name = some a.values := by
    rw [← hname]
    exact values?_row h.nodup ha
  have hkept : Given.values? (Given.withRows (row.map Assignment.given) argument.name rows)
      other.name = some a.values := by
    rw [Given.values?_withRows_of_ne hne, hgiven]
  exact absurd (hkept.symm.trans hnone) (Option.some_ne_none _)

include h in
/-- The words behind the command fill it. -/
theorem readWords_filled {outer : List (Level α)} (texts : List String) :
    readWords outer (p.level (.leaf arguments build) []) (row.map Assignment.word ++
        texts.map fun text => Assignment.word ⟨argument, text⟩) =
      texts.mapM argument.read >>= fun rows =>
        readWords outer (p.level (.leaf arguments build)
          (Given.withRows (row.map Assignment.given) argument.name rows)) [] := by
  let leaf : Level α := p.level (.leaf arguments build) []
  let next : Level α := leaf.with (row.map Assignment.given)
  have hbyName : ByName leaf.arguments := h.offers.byName
  have htakes : ∀ a ∈ row, leaf.Takes a := by
    intro a ha
    obtain ⟨hargument, hread⟩ := h.taken a ha
    exact Level.takes_of_byName hbyName hargument hread
  have hapart : leaf.grammar.Apart := fun _ hcommand => absurd hcommand List.not_mem_nil
  have hnamed : leaf.named? argument.name = some argument := Level.named?_of_byName hbyName h.mem
  have hplain : '=' ∉ argument.name.toList := (hbyName.plain argument h.mem).2
  -- After the row the level still waits for nothing and knows the argument by its name.
  have htexts := readWords_texts (l := next) outer ⟨rfl, rfl⟩ hapart hplain hnamed h.many texts
  show readWords outer leaf _ = _
  rw [readWords_words ⟨rfl, rfl⟩ hapart htakes (fun _ _ => rfl) h.nodup, htexts]
  refine congrArg _ (funext fun rows => ?_)
  have hgiven : rows.foldl (fun given row => Given.add argument.name row given) next.given =
      Given.withRows (row.map Assignment.given) argument.name rows :=
    Given.foldl_add h.not_given rows
  rw [hgiven]
  rfl

include h in
/-- **A command of a group, given an argument with many values last**, is built of the values of
all its words, and is refused if one of them cannot be read. -/
theorem read_texts {made : List (List Value) → α}
    (hmade : ∀ rows, build (Given.withRows (row.map Assignment.given) argument.name rows) =
      some (made rows))
    (texts : List String) :
    p.read (group :: word :: (row.map Assignment.word ++
        texts.map fun text => Assignment.word ⟨argument, text⟩)) =
      (texts.mapM argument.read).map fun rows =>
        (Given.withRows (row.map Assignment.given) argument.name rows, made rows) := by
  obtain ⟨commands, hgroup, hword⟩ := h.offers.leads
  let given (rows : List (List Value)) : Given :=
    Given.withRows (row.map Assignment.given) argument.name rows
  have houter : ∀ level ∈ [p.level (.group commands) [], p.start], level.Ready :=
    p.outer_ready commands []
  -- The levels around the command were given nothing, so nothing is added at the end.
  have hend : ∀ rows, readWords [p.level (.group commands) [], p.start]
      (p.level (.leaf arguments build) (given rows)) [] =
        .ok (given rows, .leaf arguments build) := by
    intro rows
    rw [readWords_nil ⟨rfl, rfl⟩ rfl houter, h.lacks_eq_false]
    show Except.ok (given rows ++ [], Grammar.leaf arguments build) = _
    rw [List.append_nil]
  have hread : readWords [] p.start (group :: word :: (row.map Assignment.word ++
        texts.map fun text => Assignment.word ⟨argument, text⟩)) =
      texts.mapM argument.read >>= fun rows => .ok (given rows, .leaf arguments build) := by
    rw [readWords_enter ⟨rfl, rfl⟩ hgroup, readWords_enter ⟨rfl, rfl⟩ hword]
    refine (h.readWords_filled texts).trans ?_
    exact congrArg _ (funext hend)
  rw [Program.read]
  show (readWords [] p.start _ >>= fun answer => _) = _
  rw [hread]
  cases texts.mapM argument.read with
  | error e => rfl
  | ok rows =>
    have hbuild : build (given rows) = some (made rows) := hmade rows
    simp only [bind, Except.bind, hbuild]
    rfl

end Program.Prepares

end RestorePlugins.CommandLine
