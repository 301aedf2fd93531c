import RestorePlugins.BuildLine
import Mathlib.Data.List.TakeWhile

namespace RestorePlugins

/-!
# The lines that a build prints

What a build prints is read line by line, and the texts that it puts into its last directive are not
its own: tools answer them, or the environment sets them.

* `splitLines`, `outputLines` — the lines of a text and of an output.
* `outputLines_buildOutput` — the four directives on what to build again for, and then the lines
  of the directive about the build.
* `lineEnd_mem_trim_iff` — a trimmed text keeps the line ends that stand between other characters.
* `BuildPlace.OneLine` — no text of the environment breaks the last line.
* `prints_buildOutput` — **five lines are printed exactly then**, and one more for every line end.
* `mem_outputLines_of_timestamp` — a time that is set can add any line whatever.
-/

/-! ### Lines -/

/-- The lines of a text, which line ends separate. -/
def splitLines (s : String) : List String := (s.toList.splitOn '\n').map String.ofList

/-- The lines of an output, each of which ends with a line end. -/
def outputLines (s : String) : List String := (splitLines s).dropLast

/-- How many line ends a text holds. -/
def lineEnds (s : String) : Nat := s.toList.count '\n'

/-- A line end separates the lines before it from those behind it. -/
theorem splitLines_append (front back : String) :
    splitLines (front ++ "\n" ++ back) = splitLines front ++ splitLines back := by
  have hlist : (front ++ "\n" ++ back).toList = front.toList ++ '\n' :: back.toList := by
    simp [String.toList_append]
  rw [splitLines, hlist, List.splitOn_append_cons_self, List.map_append]
  rfl

theorem splitLines_eq_singleton {s : String} (h : '\n' ∉ s.toList) : splitLines s = [s] := by
  rw [splitLines, List.splitOn_eq_singleton h, List.map_singleton, String.ofList_toList]

theorem length_splitOn (chars : List Char) :
    (chars.splitOn '\n').length = chars.count '\n' + 1 := by
  induction chars with
  | nil => rfl
  | cons c chars ih =>
    rw [List.splitOn_cons_eq_if_modifyHead]
    by_cases h : c = '\n'
    · subst h
      rw [if_pos (beq_self_eq_true _), List.length_cons, ih, List.count_cons_self]
    · rw [if_neg (by simpa using h), List.length_modifyHead, ih, List.count_cons_of_ne h]

/-- There is one line more than there are line ends. -/
theorem length_splitLines (s : String) : (splitLines s).length = lineEnds s + 1 := by
  rw [splitLines, List.length_map, length_splitOn, lineEnds]

theorem lineEnds_eq_zero_iff {s : String} : lineEnds s = 0 ↔ '\n' ∉ s.toList := List.count_eq_zero

theorem lineEnds_append (a b : String) : lineEnds (a ++ b) = lineEnds a + lineEnds b := by
  rw [lineEnds, String.toList_append, List.count_append]
  rfl

/-- Texts that are printed with a line end after each have the lines of each. -/
theorem splitLines_join (texts : List String) :
    splitLines (String.join (texts.map (· ++ "\n"))) = texts.flatMap splitLines ++ [""] := by
  induction texts with
  | nil => rfl
  | cons text texts ih =>
    rw [List.map_cons, String.join_cons, splitLines_append, ih, List.flatMap_cons,
      List.append_assoc]

theorem outputLines_join (texts : List String) :
    outputLines (String.join (texts.map (· ++ "\n"))) = texts.flatMap splitLines := by
  rw [outputLines, splitLines_join, List.dropLast_concat]

/-- Texts one behind the other have no line end just if none of them has one. -/
theorem lineEnds_join_eq_zero_iff {texts : List String} :
    lineEnds (String.join texts) = 0 ↔ ∀ text ∈ texts, '\n' ∉ text.toList := by
  induction texts with
  | nil => exact ⟨fun _ _ hmem => absurd hmem List.not_mem_nil, fun _ => rfl⟩
  | cons text texts ih =>
    rw [String.join_cons, lineEnds_append, Nat.add_eq_zero_iff, ih, lineEnds_eq_zero_iff,
      List.forall_mem_cons]

/-! ### Trimmed texts -/

/-- A line end stands between two characters that are not white space. -/
def BreaksInside (s : String) : Prop :=
  ∃ front back, s.toList = front ++ '\n' :: back ∧
    (∃ c ∈ front, isWhiteSpace c = false) ∧ ∃ c ∈ back, isWhiteSpace c = false

/-- What is left behind dropped items begins with one that is not dropped, so such a one stands
before every item that would be dropped. -/
theorem exists_kept_of_dropWhile {α : Type} {p : α → Bool} {x : α} {l front back : List α}
    (h : l.dropWhile p = front ++ x :: back) (hx : p x = true) : ∃ c ∈ front, p c = false := by
  cases front with
  | nil =>
    have hnot := List.head?_dropWhile_not p l
    rw [h] at hnot
    exact absurd hx (by simpa using hnot)
  | cons c front =>
    have hnot := List.head?_dropWhile_not p l
    rw [h] at hnot
    exact ⟨c, List.mem_cons_self, by simpa using hnot⟩

theorem exists_append_of_dropWhile {α : Type} (p : α → Bool) (l : List α) :
    ∃ front, l = front ++ l.dropWhile p :=
  ⟨l.takeWhile p, (List.takeWhile_append_dropWhile).symm⟩

theorem dropWhile_append_of_exists {α : Type} {p : α → Bool} {front : List α} (back : List α)
    (h : ∃ c ∈ front, p c = false) : (front ++ back).dropWhile p = front.dropWhile p ++ back := by
  have hne : (front.dropWhile p).isEmpty = false := by
    rw [List.isEmpty_eq_false_iff, Ne, List.dropWhile_eq_nil_iff]
    intro hall
    obtain ⟨c, hmem, hc⟩ := h
    rw [hall c hmem] at hc
    cases hc
  rw [List.dropWhile_append, hne]
  rfl

theorem trim_toList (s : String) :
    (trim s).toList =
      ((s.toList.dropWhile isWhiteSpace).reverse.dropWhile isWhiteSpace).reverse := by
  rw [trim, String.toList_ofList]

/-- **Trimming takes away the line ends at the ends of a text** and keeps those between other
characters. -/
theorem lineEnd_mem_trim_iff {s : String} : '\n' ∈ (trim s).toList ↔ BreaksInside s := by
  have hblank : isWhiteSpace '\n' = true := by decide +kernel
  rw [trim_toList]
  constructor
  · intro hmem
    rw [List.mem_reverse] at hmem
    obtain ⟨back, front, hback⟩ := List.append_of_mem hmem
    -- Behind the line end something is kept by the trimming from the end,
    obtain ⟨c, hc, hkept⟩ := exists_kept_of_dropWhile hback hblank
    obtain ⟨tail, htail⟩ := exists_append_of_dropWhile isWhiteSpace
      (s.toList.dropWhile isWhiteSpace).reverse
    have hmiddle : s.toList.dropWhile isWhiteSpace =
        front.reverse ++ '\n' :: (back.reverse ++ tail.reverse) := by
      rw [← List.reverse_inj, htail, hback]
      simp
    -- and before it by the trimming from the start.
    obtain ⟨d, hd, hkept'⟩ := exists_kept_of_dropWhile hmiddle hblank
    obtain ⟨head, hhead⟩ := exists_append_of_dropWhile isWhiteSpace s.toList
    refine ⟨head ++ front.reverse, back.reverse ++ tail.reverse, ?_, ⟨d, ?_, hkept'⟩, c, ?_, hkept⟩
    · rw [List.append_assoc, ← hmiddle]
      exact hhead
    · exact List.mem_append_right _ hd
    · exact List.mem_append_left _ (List.mem_reverse.2 hc)
  · rintro ⟨front, back, hsplit, hfront, c, hc, hkept⟩
    have hback : ∃ d ∈ back.reverse, isWhiteSpace d = false := ⟨c, List.mem_reverse.2 hc, hkept⟩
    rw [hsplit, dropWhile_append_of_exists _ hfront, List.reverse_append, List.reverse_cons,
      List.append_assoc, dropWhile_append_of_exists _ hback]
    simp

theorem mem_dropWhile_of_kept {α : Type} {p : α → Bool} {x : α} {l : List α} (h : x ∈ l)
    (hkept : p x = false) : x ∈ l.dropWhile p := by
  rw [← List.takeWhile_append_dropWhile (p := p) (l := l)] at h
  rcases List.mem_append.1 h with hdropped | hleft
  · rw [List.mem_takeWhile_imp hdropped] at hkept
    cases hkept
  · exact hleft

/-- Trimming keeps every character that is not white space. -/
theorem mem_trim_of_kept {s : String} {c : Char} (h : c ∈ s.toList) (hkept : isWhiteSpace c = false) :
    c ∈ (trim s).toList := by
  rw [trim_toList, List.mem_reverse]
  exact mem_dropWhile_of_kept (List.mem_reverse.2 (mem_dropWhile_of_kept h hkept)) hkept

theorem ne_empty_of_mem {s : String} {c : Char} (h : c ∈ s.toList) : s ≠ "" := by
  rintro rfl
  exact absurd h List.not_mem_nil

/-! ### The texts of the environment -/

/-- The words for the state of the sources by their tags. -/
def tagWords : List String := ["describe", "--tags", "--always", "--dirty"]

/-- The words for the commit of the sources. -/
def commitWords : List String := ["rev-parse", "--short=10", "HEAD"]

/-- The words for the version of the compiler. -/
def compilerWords : List String := ["--version"]

namespace BuildPlace

variable {place : BuildPlace} {tool : String} {arguments : List String}

/-- A tool ends well with an answer that breaks inside. -/
def Breaks (place : BuildPlace) (tool : String) (arguments : List String) : Prop :=
  ∃ run text, place.run tool arguments = some run ∧ run.exitCode = 0 ∧
    utf8Text? run.output = some text ∧ BreaksInside text

/-- **An answer** is the trimmed output of a tool that is there and ends well, if the output is a
text that is not blank. -/
theorem answer?_eq_some_iff {answer : String} :
    place.answer? tool arguments = some answer ↔
      ∃ run text, place.run tool arguments = some run ∧ run.exitCode = 0 ∧
        utf8Text? run.output = some text ∧ trim text = answer ∧ answer ≠ "" := by
  constructor
  · intro h
    rw [answer?] at h
    cases hrun : place.run tool arguments with
    | none =>
      rw [hrun] at h
      cases h
    | some run =>
      rw [hrun] at h
      by_cases hcode : run.exitCode ≠ 0
      · simp only [Option.bind_eq_bind, Option.bind_some, if_pos hcode] at h
        cases h
      · simp only [Option.bind_eq_bind, Option.bind_some, if_neg hcode] at h
        cases htext : utf8Text? run.output with
        | none =>
          rw [htext] at h
          cases h
        | some text =>
          simp only [htext, Option.bind_some] at h
          by_cases hblank : trim text = ""
          · rw [if_pos hblank] at h
            cases h
          · rw [if_neg hblank] at h
            cases h
            exact ⟨run, text, rfl, not_not.1 hcode, htext, rfl, hblank⟩
  · rintro ⟨run, text, hrun, hcode, htext, rfl, hblank⟩
    simp [answer?, hrun, hcode, htext, hblank]

/-- An answer has a line end just if the tool's output breaks inside. -/
theorem lineEnd_answer_iff :
    (∃ answer ∈ place.answer? tool arguments, '\n' ∈ answer.toList) ↔
      place.Breaks tool arguments := by
  constructor
  · rintro ⟨answer, hanswer, hmem⟩
    obtain ⟨run, text, hrun, hcode, htext, rfl, -⟩ := answer?_eq_some_iff.1 hanswer
    exact ⟨run, text, hrun, hcode, htext, lineEnd_mem_trim_iff.1 hmem⟩
  · rintro ⟨run, text, hrun, hcode, htext, hbreaks⟩
    have hmem := lineEnd_mem_trim_iff.2 hbreaks
    exact ⟨trim text,
      answer?_eq_some_iff.2 ⟨run, text, hrun, hcode, htext, rfl, ne_empty_of_mem hmem⟩, hmem⟩

theorem commit?_eq (place : BuildPlace) :
    place.commit? = (place.answer? "git" commitWords).map fun hash =>
      if (place.answer? "git" ["status", "--porcelain"]).isSome then hash ++ "-dirty" else hash := by
  show ((place.answer? "git" commitWords).bind fun hash => some _) = _
  cases place.answer? "git" commitWords <;> rfl

/-- The commit has a line end just if the answer it is made of has one. -/
theorem lineEnd_commit_iff :
    (∃ commit ∈ place.commit?, '\n' ∈ commit.toList) ↔ place.Breaks "git" commitWords := by
  rw [← lineEnd_answer_iff, commit?_eq]
  cases place.answer? "git" commitWords with
  | none => simp
  | some hash =>
    cases (place.answer? "git" ["status", "--porcelain"]).isSome <;> simp [String.toList_append]

/-- The state of the sources is left out just if no tool answers one. -/
theorem sources?_eq_none_iff :
    place.sources? = none ↔
      place.answer? "git" tagWords = none ∧ place.answer? "git" commitWords = none := by
  rw [sources?, Option.or_eq_none_iff, commit?_eq, Option.map_eq_none_iff]
  rfl

theorem lineEnd_sources_iff :
    (∃ sources ∈ place.sources?, '\n' ∈ sources.toList) ↔
      place.Breaks "git" tagWords ∨
        (place.answer? "git" tagWords = none ∧ place.Breaks "git" commitWords) := by
  rw [← lineEnd_answer_iff, ← lineEnd_commit_iff]
  have hsources : place.sources? = (place.answer? "git" tagWords).or place.commit? := rfl
  rw [hsources]
  cases place.answer? "git" tagWords with
  | none => simp
  | some tags => simp

/-- The time is the one that is set, unless it is blank. -/
theorem lineEnd_time_iff :
    '\n' ∈ place.time.toList ↔
      (∃ s ∈ place.timestamp, trim s ≠ "" ∧ '\n' ∈ s.toList) ∨
        ((∀ s ∈ place.timestamp, trim s = "") ∧ '\n' ∈ place.clock.toList) := by
  rw [time]
  cases place.timestamp with
  | none => simp
  | some s => by_cases hblank : trim s = "" <;> simp [hblank]

/-! ### What a build prints -/

/-- The texts that others put into the last directive. -/
def parts (place : BuildPlace) : List String :=
  place.sources?.toList ++ place.time :: place.compiler?.toList

/-- No text of the environment breaks the last line: the outputs of the tools that are looked at do
not break inside, and the time has no line end. -/
structure OneLine (place : BuildPlace) : Prop where
  tags : ¬ place.Breaks "git" tagWords
  commit : place.answer? "git" tagWords = none → ¬ place.Breaks "git" commitWords
  compiler : ¬ place.Breaks "rustc" compilerWords
  timestamp : ∀ s ∈ place.timestamp, trim s ≠ "" → '\n' ∉ s.toList
  clock : (∀ s ∈ place.timestamp, trim s = "") → '\n' ∉ place.clock.toList

theorem oneLine_iff : place.OneLine ↔ ∀ part ∈ place.parts, '\n' ∉ part.toList := by
  have hsources := @lineEnd_sources_iff place
  have htime := @lineEnd_time_iff place
  have hcompiler : (∃ compiler ∈ place.compiler?, '\n' ∈ compiler.toList) ↔
      place.Breaks "rustc" compilerWords := lineEnd_answer_iff
  simp only [parts, List.mem_append, List.mem_cons, Option.mem_toList]
  constructor
  · rintro h part (hpart | rfl | hpart) hmem
    · rcases hsources.1 ⟨part, hpart, hmem⟩ with htags | ⟨hnone, hcommit⟩
      · exact h.tags htags
      · exact h.commit hnone hcommit
    · rcases htime.1 hmem with ⟨s, hs, hset, hline⟩ | ⟨hblank, hline⟩
      · exact h.timestamp s hs hset hline
      · exact h.clock hblank hline
    · exact h.compiler (hcompiler.1 ⟨part, hpart, hmem⟩)
  · intro h
    refine ⟨?_, ?_, ?_, ?_, ?_⟩
    · intro htags
      obtain ⟨part, hpart, hmem⟩ := hsources.2 (.inl htags)
      exact h part (.inl hpart) hmem
    · intro hnone hcommit
      obtain ⟨part, hpart, hmem⟩ := hsources.2 (.inr ⟨hnone, hcommit⟩)
      exact h part (.inl hpart) hmem
    · intro hbreaks
      obtain ⟨part, hpart, hmem⟩ := hcompiler.2 hbreaks
      exact h part (.inr (.inr hpart)) hmem
    · intro s hs hset hline
      exact h _ (.inr (.inl rfl)) (htime.2 (.inl ⟨s, hs, hset, hline⟩))
    · intro hblank hline
      exact h _ (.inr (.inl rfl)) (htime.2 (.inr ⟨hblank, hline⟩))

/-- What stands before the text about a build in its directive. -/
def infoHead : String := "cargo:rustc-env=BKPLUG_BUILD_INFO="

/-- The directive about the build. -/
def infoDirective (place : BuildPlace) : String :=
  infoHead ++ infoText currentVersion place.sources? place.time place.compiler?

/-- The text about a build has no line ends but those of the texts that it is made of. -/
theorem lineEnds_infoText (version : String) (sources : Option String) (time : String)
    (compiler : Option String) :
    lineEnds (infoText version sources time compiler) =
      lineEnds version + lineEnds (String.join (sources.toList ++ time :: compiler.toList)) := by
  have hopen : lineEnds " (" = 0 := by decide
  have hclose : lineEnds ")" = 0 := by decide
  have hspace : lineEnds " " = 0 := by decide
  have hempty : lineEnds "" = 0 := by decide
  cases sources <;> cases compiler <;>
    simp only [infoText, lineEnds_append, hopen, hclose, hspace, hempty, Option.map_none,
      Option.map_some, Option.getD_none, Option.getD_some, Option.toList_none, Option.toList_some,
      List.nil_append, List.cons_append, String.join_cons, String.join_nil] <;> omega

/-- The line ends of the directive are those of the texts that others put into it. -/
theorem lineEnds_infoDirective (place : BuildPlace) :
    lineEnds place.infoDirective = lineEnds (String.join place.parts) := by
  have hhead : lineEnds infoHead = 0 := by decide
  have hversion : lineEnds currentVersion = 0 := by decide
  rw [infoDirective, lineEnds_append, hhead, lineEnds_infoText, hversion, parts]
  omega

/-- **What is printed line by line**: the four directives on what to build again for, and then the
lines of the directive about the build. -/
theorem outputLines_buildOutput (place : BuildPlace) :
    outputLines (buildOutput place) = rerunDirectives ++ splitLines place.infoDirective := by
  have hrerun : rerunDirectives.flatMap splitLines = rerunDirectives := by
    decide
  have hdirectives : buildDirectives place = rerunDirectives ++ [place.infoDirective] := rfl
  rw [buildOutput, outputLines_join, hdirectives, List.flatMap_append, hrerun, List.flatMap_cons,
    List.flatMap_nil, List.append_nil]

/-- What a build prints, line by line. -/
structure Prints (place : BuildPlace) (lines : List String) : Prop where
  /-- The four directives on what to build again for come first, and then the directive about the
  build: the version, in parentheses the sources and the time, and the compiler. -/
  lines_eq : lines = rerunDirectives ++ splitLines
    (infoHead ++ infoText currentVersion place.sources? place.time place.compiler?)
  /-- The sources are left out just if no tool answers their state. -/
  sources_eq_none_iff : place.sources? = none ↔
    place.answer? "git" tagWords = none ∧ place.answer? "git" commitWords = none
  /-- Every line end of a text of the environment adds a line. -/
  length_eq : lines.length = 5 + lineEnds (String.join place.parts)
  /-- There are five lines just if no such text breaks the last one, -/
  length_eq_five_iff : lines.length = 5 ↔ place.OneLine
  /-- and just then they are the five directives. -/
  eq_directives_iff : lines = buildDirectives place ↔ place.OneLine

theorem lineEnds_parts_eq_zero_iff : lineEnds (String.join place.parts) = 0 ↔ place.OneLine := by
  rw [lineEnds_join_eq_zero_iff, oneLine_iff]

theorem length_outputLines (place : BuildPlace) :
    (outputLines (buildOutput place)).length = 5 + lineEnds (String.join place.parts) := by
  have hrerun : rerunDirectives.length = 4 := rfl
  rw [outputLines_buildOutput, List.length_append, hrerun, length_splitLines,
    lineEnds_infoDirective]
  omega

/-- **Five lines are printed just if no text of the environment breaks the last one.**  The white
space at the ends of what a tool answers does no harm; a line end inside of an answer adds a line, and
so does every line end of a time that is set, for only a blank one is not taken as it is. -/
theorem prints_buildOutput (place : BuildPlace) :
    place.Prints (outputLines (buildOutput place)) where
  lines_eq := outputLines_buildOutput place
  sources_eq_none_iff := sources?_eq_none_iff
  length_eq := length_outputLines place
  length_eq_five_iff := by
    rw [length_outputLines, ← lineEnds_parts_eq_zero_iff]
    omega
  eq_directives_iff := by
    constructor
    · intro heq
      have hlength := length_outputLines place
      have hfive : (buildDirectives place).length = 5 := rfl
      rw [heq, hfive] at hlength
      rw [← lineEnds_parts_eq_zero_iff]
      omega
    · intro h
      have hnone : '\n' ∉ place.infoDirective.toList := by
        rw [← lineEnds_eq_zero_iff, lineEnds_infoDirective]
        exact lineEnds_parts_eq_zero_iff.2 h
      rw [outputLines_buildOutput, splitLines_eq_singleton hnone]
      rfl

/-! ### Added lines -/

/-- The directive about the build holds the time. -/
theorem exists_infoDirective_eq (place : BuildPlace) :
    ∃ front back, place.infoDirective = front ++ place.time ++ back := by
  rw [infoDirective]
  cases place.sources? with
  | none =>
    refine ⟨infoHead ++ (currentVersion ++ " ("), ")" ++ (place.compiler?.map (" " ++ ·)).getD "", ?_⟩
    simp only [infoText, String.append_assoc]
  | some sources =>
    refine ⟨infoHead ++ (currentVersion ++ " (" ++ sources ++ " "),
      ")" ++ (place.compiler?.map (" " ++ ·)).getD "", ?_⟩
    simp only [infoText, String.append_assoc]

/-- **A time that is set can add any line** that is not blank. -/
theorem mem_outputLines_of_timestamp (place : BuildPlace) {line : String} (h : '\n' ∉ line.toList)
    (hkept : ∃ c ∈ line.toList, isWhiteSpace c = false) :
    line ∈ outputLines (buildOutput { place with timestamp := some ("\n" ++ line ++ "\n") }) := by
  obtain ⟨c, hc, hkept⟩ := hkept
  have hset : trim ("\n" ++ line ++ "\n") ≠ "" := by
    refine ne_empty_of_mem (mem_trim_of_kept ?_ hkept)
    simp [String.toList_append, hc]
  obtain ⟨front, back, hinfo⟩ :=
    exists_infoDirective_eq { place with timestamp := some ("\n" ++ line ++ "\n") }
  rw [time] at hinfo
  simp only [if_neg hset] at hinfo
  have hlines : front ++ ("\n" ++ line ++ "\n") ++ back =
      front ++ "\n" ++ line ++ "\n" ++ back := by
    simp only [String.append_assoc]
  rw [outputLines_buildOutput, hinfo, hlines, splitLines_append, splitLines_append,
    splitLines_eq_singleton h]
  simp

/-- A line that is read as a directive: white space aside, it begins with the word for one. -/
def IsDirective (line : String) : Prop := "cargo:".toList <+: (trim line).toList

/-- **Not every output has five lines**: a time with line ends adds a directive of its own. -/
theorem buildOutput_forged :
    ¬ ∀ place : BuildPlace, '\n' ∉ place.clock.toList →
      (outputLines (buildOutput place)).length = 5 ∧
        ∀ line ∈ outputLines (buildOutput place), IsDirective line →
          line ∈ buildDirectives place := by
  intro h
  let forged := "cargo:rustc-env=BKPLUG_BUILD_INFO=forged"
  let bare : BuildPlace := ⟨fun _ _ => none, none, "2026-01-01T00:00:00Z"⟩
  have hmem : forged ∈ outputLines
      (buildOutput { bare with timestamp := some ("\n" ++ forged ++ "\n") }) :=
    mem_outputLines_of_timestamp bare (by decide) ⟨'c', by decide, by decide +kernel⟩
  have hread : IsDirective forged := by
    unfold IsDirective
    decide +kernel
  have hnot : forged ∉ buildDirectives
      { bare with timestamp := some ("\n" ++ forged ++ "\n") } := by
    decide +kernel
  exact hnot ((h _ (by decide)).2 forged hmem hread)

end BuildPlace

end RestorePlugins
