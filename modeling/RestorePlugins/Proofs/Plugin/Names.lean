import RestorePlugins.Plugin.Name
import RestorePlugins.Proofs.Text.Separators
import RestorePlugins.Text.WhiteSpace
import Mathlib.Computability.Language
import Mathlib.Data.List.TakeWhile

namespace RestorePlugins

/-!
# The grammar of plugin names

A prefix is read once, by a reader that knows its place inside a label and nothing else. Its
grammar speaks of whole labels.

* `readLabels_append_dot` — a dot hands the reader on from an accepted text to a new label, so a
  text is read by reading each of its labels alone.
* `IsLabel`, `readLabels_start_iff` — what a label is, and that the reader tells it.
* `subdomainWords`, `mem_subdomainWords_iff` — the same texts as a regular expression.
* `checkPluginName_grammar` — the names that are accepted, and the rule that any other breaks
  first.
-/

open scoped Computability

/-! ### The reader -/

theorem LabelPlace.step_letter {c : Char} (place : LabelPlace) (h : isLabelLetter c = true) :
    place.step c = some .letter :=
  if_pos h

theorem LabelPlace.step_hyphen {place : LabelPlace} (hplace : place ≠ .start) :
    place.step '-' = some .hyphen := by
  cases place with
  | start => exact absurd rfl hplace
  | letter => rfl
  | hyphen => rfl

theorem LabelPlace.step_other {c : Char} (place : LabelPlace) (hletter : ¬ isLabelLetter c = true)
    (hhyphen : c ≠ '-') (hdot : c ≠ '.') : place.step c = none := by
  cases place <;> simp [LabelPlace.step, hletter, hhyphen, hdot]

/-- Letters, digits, hyphens and dots are all that is ever read. -/
theorem plain_of_readLabels {place : LabelPlace} {chars : List Char}
    (h : readLabels place chars = true) :
    ∀ c ∈ chars, isLabelLetter c = true ∨ c = '-' ∨ c = '.' := by
  induction chars generalizing place with
  | nil => exact fun c hc => absurd hc List.not_mem_nil
  | cons first rest ih =>
    rw [readLabels] at h
    cases hstep : place.step first with
    | some next =>
      rw [hstep] at h
      intro c hc
      rcases List.mem_cons.1 hc with rfl | hrest
      · by_contra hother
        simp only [not_or] at hother
        rw [LabelPlace.step_other place hother.1 hother.2.1 hother.2.2] at hstep
        cases hstep
      · exact ih h c hrest
    | none =>
      rw [hstep] at h
      cases h

/-! ### Labels, one by one -/

/-- A dot is allowed where a label may end, and begins the next one. -/
theorem readLabels_append_dot (place : LabelPlace) (front back : List Char) :
    readLabels place (front ++ '.' :: back) =
      (readLabels place front && readLabels .start back) := by
  induction front generalizing place with
  | nil =>
    -- After a letter or digit both sides go on with `back`; elsewhere both refuse the dot.
    cases place <;> rfl
  | cons c rest ih =>
    rw [List.cons_append, readLabels, readLabels]
    cases place.step c with
    | some next => exact ih next
    | none => rfl

/-- Labels joined by dots are read one by one. -/
theorem readLabels_intercalate {labels : List (List Char)} (h : labels ≠ []) :
    readLabels .start (['.'].intercalate labels) = labels.all (readLabels .start) := by
  induction labels with
  | nil => exact absurd rfl h
  | cons label others ih =>
    cases others with
    | nil => simp
    | cons second others =>
      have hrest := ih (List.cons_ne_nil second others)
      rw [List.intercalate_cons_cons, List.append_assoc, List.singleton_append,
        readLabels_append_dot, hrest]
      rfl

/-- A text is read by reading each of its labels. -/
theorem readLabels_eq_all (chars : List Char) :
    readLabels .start chars = (chars.splitOn '.').all (readLabels .start) := by
  rw [← readLabels_intercalate (List.splitOn_ne_nil '.' chars), List.intercalate_splitOn]

/-- A label of a DNS subdomain. -/
structure IsLabel (label : List Char) : Prop where
  nonempty : label ≠ []
  /-- Lower-case letters, digits and hyphens only. -/
  letters : ∀ c ∈ label, isLabelLetter c = true ∨ c = '-'
  /-- A hyphen does not begin a label. -/
  first : ∀ c, label.head? = some c → isLabelLetter c = true
  /-- Nor does it end one. -/
  last : ∀ c, label.getLast? = some c → isLabelLetter c = true

theorem IsLabel.no_dot {label : List Char} (h : IsLabel label) : '.' ∉ label := by
  intro hmem
  rcases h.letters '.' hmem with hletter | hhyphen
  · exact absurd hletter (by decide)
  · exact absurd hhyphen (by decide)

/-- After its first character a label needs letters, digits and hyphens, and must not end in a
hyphen. -/
theorem readLabels_inside_iff {place : LabelPlace} {rest : List Char} (hplace : place ≠ .start)
    (hdot : '.' ∉ rest) : readLabels place rest = true ↔
      (∀ c ∈ rest, isLabelLetter c = true ∨ c = '-') ∧
        rest.getLast?.elim (place = .letter) (isLabelLetter · = true) := by
  -- The place counts only while nothing is read: from then on the last character decides.
  induction rest generalizing place with
  | nil => simp [readLabels]
  | cons c rest ih =>
    have hc : c ≠ '.' := fun heq => hdot (by rw [heq]; exact List.mem_cons_self)
    have hrest : '.' ∉ rest := fun hmem => hdot (List.mem_cons_of_mem c hmem)
    by_cases hletter : isLabelLetter c = true
    · rw [readLabels, LabelPlace.step_letter place hletter, ih (by simp) hrest]
      cases hlast : rest.getLast? <;> simp [List.getLast?_cons, hlast, hletter]
    · by_cases hhyphen : c = '-'
      · subst hhyphen
        rw [readLabels, LabelPlace.step_hyphen hplace, ih (by simp) hrest]
        cases hlast : rest.getLast? <;> simp [List.getLast?_cons, hlast, hletter]
      · rw [readLabels, LabelPlace.step_other place hletter hhyphen hc]
        simp [hletter, hhyphen]

/-- **The reader tells labels.** -/
theorem readLabels_start_iff {label : List Char} (hdot : '.' ∉ label) :
    readLabels .start label = true ↔ IsLabel label := by
  cases label with
  | nil => exact iff_of_false (by simp [readLabels]) fun h => h.nonempty rfl
  | cons c rest =>
    have hrest : '.' ∉ rest := fun hmem => hdot (List.mem_cons_of_mem c hmem)
    by_cases hletter : isLabelLetter c = true
    · rw [readLabels, LabelPlace.step_letter .start hletter, readLabels_inside_iff (by simp) hrest]
      constructor
      · rintro ⟨hletters, hlast⟩
        refine ⟨List.cons_ne_nil c rest, fun d hd => ?_, fun d hd => ?_, fun d hd => ?_⟩
        · rcases List.mem_cons.1 hd with rfl | hmem
          · exact .inl hletter
          · exact hletters d hmem
        · cases hd
          exact hletter
        · -- The last character is the first one where nothing follows it.
          rw [List.getLast?_cons] at hd
          cases hd
          cases hend : rest.getLast? with
          | none => exact hletter
          | some last =>
            rw [hend] at hlast
            exact hlast
      · intro h
        refine ⟨fun d hd => h.letters d (List.mem_cons_of_mem c hd), ?_⟩
        cases hend : rest.getLast? with
        | none => rfl
        | some last => exact h.last last (by rw [List.getLast?_cons, hend]; rfl)
    · have hstep : LabelPlace.start.step c = none := if_neg hletter
      rw [readLabels, hstep]
      exact iff_of_false Bool.false_ne_true fun h => hletter (h.first c rfl)

theorem readLabels_iff (chars : List Char) :
    readLabels .start chars = true ↔ ∀ label ∈ chars.splitOn '.', IsLabel label := by
  rw [readLabels_eq_all, List.all_eq_true]
  exact forall₂_congr fun label hlabel => readLabels_start_iff (not_mem_of_mem_splitOn hlabel)

/-! ### The regular expression -/

/-- The texts of one letter or digit. -/
def letterWords : Language Char := {word | ∃ c, word = [c] ∧ isLabelLetter c = true}

/-- The text of one hyphen. -/
def hyphenWords : Language Char := {['-']}

/-- The text of one dot. -/
def dotWords : Language Char := {['.']}

/-- A letter or digit and then, if there is more, letters, digits and hyphens up to a last letter
or digit. -/
def labelWords : Language Char :=
  letterWords * (1 + (letterWords + hyphenWords)∗ * letterWords)

/-- A label, and any number of further ones, each after a dot. -/
def subdomainWords : Language Char := labelWords * (dotWords * labelWords)∗

/-- The inner part of a label: letters, digits and hyphens in any order. -/
theorem mem_inner_iff {word : List Char} :
    word ∈ (letterWords + hyphenWords)∗ ↔ ∀ c ∈ word, isLabelLetter c = true ∨ c = '-' := by
  constructor
  · rintro ⟨pieces, rfl, hpieces⟩ c hc
    obtain ⟨piece, hpiece, hmem⟩ := List.mem_flatten.1 hc
    rcases (Language.mem_add _ _ _).1 (hpieces piece hpiece) with ⟨d, rfl, hletter⟩ | rfl
    · rw [List.mem_singleton.1 hmem]
      exact .inl hletter
    · exact .inr (List.mem_singleton.1 hmem)
  · intro h
    -- The text is the concatenation of its characters.
    have hsingle : (word.map fun c => [c]).flatten = word := by
      rw [← List.flatMap_def, List.flatMap_singleton']
    rw [← hsingle]
    refine Language.join_mem_kstar fun piece hpiece => ?_
    obtain ⟨c, hc, rfl⟩ := List.mem_map.1 hpiece
    refine (Language.mem_add _ _ _).2 ((h c hc).imp (fun hletter => ⟨c, rfl, hletter⟩) fun hc => ?_)
    rw [hc]
    rfl

/-- The label's part of the regular expression says what a label is. -/
theorem mem_labelWords_iff {word : List Char} : word ∈ labelWords ↔ IsLabel word := by
  constructor
  · rintro ⟨_, ⟨c, rfl, hletter⟩, rest, hrest, rfl⟩
    rcases (Language.mem_add _ _ _).1 hrest with rfl | ⟨inner, hinner, _, ⟨d, rfl, hend⟩, rfl⟩
    · refine ⟨List.cons_ne_nil _ _, ?_, ?_, ?_⟩ <;> simp [hletter]
    · have hletters := mem_inner_iff.1 hinner
      refine ⟨List.cons_ne_nil _ _, ?_, ?_, ?_⟩
      · intro b hb
        simp only [List.singleton_append, List.mem_cons, List.mem_append] at hb
        rcases hb with rfl | hb | rfl | hb
        · exact .inl hletter
        · exact hletters b hb
        · exact .inl hend
        · cases hb
      · simp [hletter]
      · have hlast : ([c] ++ (inner ++ [d])).getLast? = some d := by
          rw [← List.append_assoc, List.getLast?_concat]
        rw [hlast]
        simp [hend]
  · intro h
    obtain ⟨c, rest, rfl⟩ := List.exists_cons_of_ne_nil h.nonempty
    have hfirst : [c] ∈ letterWords := ⟨c, rfl, h.first c rfl⟩
    refine Language.append_mem_mul hfirst ((Language.mem_add _ _ _).2 ?_)
    -- A label of one character has that one as its first and last.
    rcases List.eq_nil_or_concat rest with rfl | ⟨inner, d, rfl⟩
    · exact .inl rfl
    · rw [List.concat_eq_append] at h ⊢
      have hend : [d] ∈ letterWords :=
        ⟨d, rfl, h.last d (by rw [← List.cons_append, List.getLast?_concat])⟩
      refine .inr (Language.append_mem_mul (mem_inner_iff.2 fun b hb => ?_) hend)
      exact h.letters b (List.mem_cons_of_mem c (List.mem_append_left [d] hb))

/-- Labels with a dot between each two are a first one, and each other one after a dot. -/
theorem intercalate_dot (first : List Char) (others : List (List Char)) :
    ['.'].intercalate (first :: others) = first ++ (others.map ('.' :: ·)).flatten := by
  induction others generalizing first with
  | nil => simp
  | cons second others ih =>
    rw [List.intercalate_cons_cons, ih]
    simp

/-- A label is accepted with any further ones, each behind its dot. -/
theorem readLabels_flatten {first : List Char} {pieces : List (List Char)}
    (hfirst : IsLabel first) (h : ∀ piece ∈ pieces, piece ∈ dotWords * labelWords) :
    readLabels .start (first ++ pieces.flatten) = true := by
  have hread : readLabels .start first = true := (readLabels_start_iff hfirst.no_dot).2 hfirst
  induction pieces generalizing first with
  | nil => rwa [List.flatten_nil, List.append_nil]
  | cons piece others ih =>
    obtain ⟨_, rfl, label, hlabel, rfl⟩ := h piece List.mem_cons_self
    have hthis : IsLabel label := mem_labelWords_iff.1 hlabel
    have hrest := ih hthis (fun other hother => h other (List.mem_cons_of_mem _ hother))
      ((readLabels_start_iff hthis.no_dot).2 hthis)
    show readLabels .start (first ++ '.' :: (label ++ others.flatten)) = true
    rw [readLabels_append_dot, hread, hrest]
    rfl

/-- **The reader accepts the regular expression.** -/
theorem mem_subdomainWords_iff {chars : List Char} :
    chars ∈ subdomainWords ↔ readLabels .start chars = true := by
  constructor
  · rintro ⟨first, hfirst, _, ⟨pieces, rfl, hpieces⟩, rfl⟩
    exact readLabels_flatten (mem_labelWords_iff.1 hfirst) hpieces
  · -- The labels of the text are the words that it is built of.
    intro h
    obtain ⟨first, others, hsplit⟩ := List.exists_cons_of_ne_nil (List.splitOn_ne_nil '.' chars)
    have hlabels := (readLabels_iff chars).1 h
    rw [hsplit] at hlabels
    have hjoined : ['.'].intercalate (chars.splitOn '.') = chars := List.intercalate_splitOn '.'
    rw [← hjoined, hsplit, intercalate_dot]
    refine Language.append_mem_mul (mem_labelWords_iff.2 (hlabels first List.mem_cons_self)) ?_
    refine Language.join_mem_kstar fun piece hpiece => ?_
    obtain ⟨label, hlabel, rfl⟩ := List.mem_map.1 hpiece
    exact Language.append_mem_mul (a := ['.']) rfl
      (mem_labelWords_iff.2 (hlabels label (List.mem_cons_of_mem first hlabel)))

/-! ### Names -/

/-- A DNS subdomain. -/
structure IsSubdomain (front : String) : Prop where
  /-- The bytes of the whole subdomain count, dots included. -/
  bytes : 1 ≤ front.utf8ByteSize ∧ front.utf8ByteSize ≤ 253
  labels : ∀ label ∈ front.toList.splitOn '.', IsLabel label

theorem isSubdomain_iff {front : String} :
    isSubdomain front.toList = true ↔ IsSubdomain front := by
  rw [isSubdomain, Bool.and_eq_true, decide_eq_true_iff, String.ofList_toList, readLabels_iff]
  refine ⟨fun ⟨hmost, hlabels⟩ => ⟨⟨?_, hmost⟩, hlabels⟩, fun h => ⟨h.bytes.2, h.labels⟩⟩
  -- The empty text has the empty label, which is none.
  by_contra hfew
  have hempty : front = "" := String.utf8ByteSize_eq_zero_iff.1 (by omega)
  subst hempty
  exact (hlabels [] (by simp)).nonempty rfl

/-- The regular expression and the limit on bytes describe the same subdomains. -/
theorem isSubdomain_iff_mem_subdomainWords {front : String} :
    IsSubdomain front ↔ front.utf8ByteSize ≤ 253 ∧ front.toList ∈ subdomainWords := by
  rw [← isSubdomain_iff, isSubdomain, Bool.and_eq_true, decide_eq_true_iff, String.ofList_toList,
    mem_subdomainWords_iff]
  rfl

/-- A name that its one slash divides. -/
structure Divided (name front back : String) : Prop where
  spelt : name = front ++ "/" ++ back
  front_whole : '/' ∉ front.toList
  back_whole : '/' ∉ back.toList

variable {name front back : String}

theorem Divided.toList (h : Divided name front back) :
    name.toList = front.toList ++ '/' :: back.toList := by
  rw [h.spelt]
  simp

/-- A name can be divided just when it has one slash. -/
theorem count_slash_eq_one_iff :
    name.toList.count '/' = 1 ↔ ∃ front back, Divided name front back := by
  constructor
  · intro hcount
    have hmem : '/' ∈ name.toList := List.count_pos_iff.1 (by omega)
    obtain ⟨before, after, hspelt, hbefore⟩ := List.eq_append_cons_of_mem hmem
    have hafter : '/' ∉ after := by
      rw [hspelt, List.count_append, List.count_cons_self] at hcount
      exact List.count_eq_zero.1 (by omega)
    refine ⟨String.ofList before, String.ofList after, ⟨?_, by simpa, by simpa⟩⟩
    rw [← String.toList_inj, hspelt]
    simp
  · rintro ⟨front, back, h⟩
    rw [h.toList, List.count_append, List.count_cons_self, List.count_eq_zero.2 h.front_whole,
      List.count_eq_zero.2 h.back_whole]

/-- A name without a slash, or with several, breaks the rule for the slashes. -/
theorem brokenNameRule?_of_count (h : name.toList.count '/' ≠ 1) :
    brokenNameRule? name = some slashRule := by
  by_cases hmem : '/' ∈ name.toList
  · obtain ⟨before, after, hspelt, hbefore⟩ := List.eq_append_cons_of_mem hmem
    have hafter : '/' ∈ after := by
      rw [hspelt, List.count_append, List.count_cons_self, List.count_eq_zero.2 hbefore] at h
      exact List.count_pos_iff.1 (by omega)
    rw [brokenNameRule?, hspelt, span_ne_append hbefore]
    exact if_pos hafter
  · rw [brokenNameRule?, span_ne_of_not_mem hmem]

/-- Of a name with one slash the prefix is looked at before the rest. -/
theorem brokenNameRule?_of_divided (h : Divided name front back) :
    brokenNameRule? name =
      if ¬ isSubdomain front.toList then some prefixRule
      else if back = "" then some restRule
      else none := by
  rw [brokenNameRule?, h.toList, span_ne_append h.front_whole]
  show (if '/' ∈ back.toList then _ else _) = _
  rw [if_neg h.back_whole]
  simp

/-- What a prefix is made of is ASCII, and neither in upper case nor white space. -/
theorem plain_facts {c : Char} (h : isLabelLetter c = true ∨ c = '-' ∨ c = '.') :
    c.toNat < 128 ∧ ¬ ('A' ≤ c ∧ c ≤ 'Z') ∧ isWhiteSpace c = false ∧ c ≠ '\n' := by
  have hcode : (97 ≤ c.toNat ∧ c.toNat ≤ 122) ∨ (48 ≤ c.toNat ∧ c.toNat ≤ 57) ∨
      c.toNat = 45 ∨ c.toNat = 46 := by
    rcases h with hletter | rfl | rfl
    · have hbounds : (97 ≤ c.toNat ∧ c.toNat ≤ 122) ∨ (48 ≤ c.toNat ∧ c.toNat ≤ 57) := by
        simpa [isLabelLetter, Char.le_def, UInt32.le_iff_toNat_le] using hletter
      exact hbounds.imp_right .inl
    · decide
    · decide
  refine ⟨by omega, ?_, ?_, ?_⟩
  · have hupper : ¬ (65 ≤ c.toNat ∧ c.toNat ≤ 90) := by omega
    simpa [Char.le_def, UInt32.le_iff_toNat_le] using hupper
  · simp [isWhiteSpace, inRanges, whiteSpace]
    omega
  · rintro rfl
    revert hcode
    decide

/-- **The grammar of plugin names.**

* A name is accepted when its one slash divides a DNS subdomain from a rest that is not empty.
* Any other name breaks a rule, and the first one that it breaks is named: on the count of
  slashes, on the prefix, on the empty rest.
* The subdomains, told label by label, are those that the regular expression describes.
* Before the slash of an accepted name there is ASCII only, and neither an upper-case letter nor
  white space. -/
theorem checkPluginName_grammar (name : String) :
    (checkPluginName name = .ok () ↔
      ∃ front back, Divided name front back ∧ IsSubdomain front ∧ back ≠ "") ∧
    (name.toList.count '/' = 1 ↔ ∃ front back, Divided name front back) ∧
    (name.toList.count '/' ≠ 1 → checkPluginName name = .error (.invalidName name slashRule)) ∧
    ∀ front back, Divided name front back →
      (¬ IsSubdomain front → checkPluginName name = .error (.invalidName name prefixRule)) ∧
      (IsSubdomain front → back = "" →
        checkPluginName name = .error (.invalidName name restRule)) ∧
      (IsSubdomain front ↔ front.utf8ByteSize ≤ 253 ∧ front.toList ∈ subdomainWords) ∧
      (checkPluginName name = .ok () → ∀ c ∈ front.toList,
        c.toNat < 128 ∧ ¬ ('A' ≤ c ∧ c ≤ 'Z') ∧ isWhiteSpace c = false ∧ c ≠ '\n') := by
  have hslashes : name.toList.count '/' ≠ 1 →
      checkPluginName name = .error (.invalidName name slashRule) := by
    intro hcount
    rw [checkPluginName, brokenNameRule?_of_count hcount]
  have hbegin : ∀ front back, Divided name front back → ¬ IsSubdomain front →
      checkPluginName name = .error (.invalidName name prefixRule) := by
    intro front back h hfront
    rw [checkPluginName, brokenNameRule?_of_divided h, if_pos (mt isSubdomain_iff.1 hfront)]
  have hrest : ∀ front back, Divided name front back → IsSubdomain front → back = "" →
      checkPluginName name = .error (.invalidName name restRule) := by
    intro front back h hfront hback
    rw [checkPluginName, brokenNameRule?_of_divided h,
      if_neg (not_not_intro (isSubdomain_iff.2 hfront)), if_pos hback]
  have hgood : ∀ front back, Divided name front back → IsSubdomain front → back ≠ "" →
      checkPluginName name = .ok () := by
    intro front back h hfront hback
    rw [checkPluginName, brokenNameRule?_of_divided h,
      if_neg (not_not_intro (isSubdomain_iff.2 hfront)), if_neg hback]
  -- An accepted name breaks no rule, so each rule's condition fails of it.
  have hparts : checkPluginName name = .ok () → ∀ front back, Divided name front back →
      IsSubdomain front ∧ back ≠ "" := by
    intro hok front back h
    have hfront : IsSubdomain front := by
      by_contra hfront
      cases hok.symm.trans (hbegin front back h hfront)
    refine ⟨hfront, fun hback => ?_⟩
    cases hok.symm.trans (hrest front back h hfront hback)
  refine ⟨⟨fun hok => ?_, fun ⟨front, back, h, hfront, hback⟩ => hgood front back h hfront hback⟩,
    count_slash_eq_one_iff, hslashes, fun front back h => ⟨hbegin front back h,
      hrest front back h, isSubdomain_iff_mem_subdomainWords, fun hok c hc => ?_⟩⟩
  · have hcount : name.toList.count '/' = 1 := by
      by_contra hcount
      cases hok.symm.trans (hslashes hcount)
    obtain ⟨front, back, h⟩ := count_slash_eq_one_iff.1 hcount
    exact ⟨front, back, h, hparts hok front back h⟩
  · have hread := (readLabels_iff front.toList).2 (hparts hok front back h).1.labels
    exact plain_facts (plain_of_readLabels hread c hc)

/-- A name of two labels with hyphens, and one whose prefix is wrong and whose rest is empty. -/
theorem checkPluginName_grammar_hyphens :
    checkPluginName "x-1.y-2/name" = .ok () ∧
      checkPluginName "dash-.io/" = .error (.invalidName "dash-.io/" prefixRule) := by
  have hname : Divided "x-1.y-2/name" "x-1.y-2" "name" := ⟨by decide, by decide, by decide⟩
  have hdash : Divided "dash-.io/" "dash-.io" "" := ⟨by decide, by decide, by decide⟩
  have hfront : IsSubdomain "x-1.y-2" := isSubdomain_iff.1 (by decide)
  have hbad : ¬ IsSubdomain "dash-.io" := mt isSubdomain_iff.2 (by decide)
  refine ⟨(checkPluginName_grammar "x-1.y-2/name").1.2 ⟨_, _, hname, hfront, by decide⟩, ?_⟩
  exact ((checkPluginName_grammar "dash-.io/").2.2.2 _ _ hdash).1 hbad

end RestorePlugins
