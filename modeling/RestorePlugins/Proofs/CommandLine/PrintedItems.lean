import RestorePlugins.CommandLine.Tables
import RestorePlugins.Proofs.Text.Separators

namespace RestorePlugins

/-!
# Displayed identifiers are read back

A displayed identifier leaves out an empty group and an empty namespace, and puts full stops and
slashes between the parts that it shows.

* `ResourceIdentifier.Separable` — no part holds a separator that ends it.
* `ResourceIdentifier.ofDisplay?` — reads a displayed identifier: two or three pieces between
  slashes, of which the first is divided at its first full stop.
* `ofDisplay?_display` — **a displayed identifier is read back**, whichever parts are empty.
* `display_identifies` — no two identifiers have one displayed form, and the items that a table
  shows are read back from it.
-/

namespace ResourceIdentifier

/-! ### Pieces -/

/-- The resource ends at the first full stop, and it, the group, the namespace and the name end at
slashes.  The group may hold full stops, and every part may be empty. -/
structure Separable (id : ResourceIdentifier) : Prop where
  resource_no_stop : '.' ∉ id.resource.toList
  resource_no_slash : '/' ∉ id.resource.toList
  group_no_slash : '/' ∉ id.group.toList
  namespace_no_slash : '/' ∉ id.namespace.toList
  name_no_slash : '/' ∉ id.name.toList

instance (id : ResourceIdentifier) : Decidable id.Separable :=
  decidable_of_iff
    ('.' ∉ id.resource.toList ∧ '/' ∉ id.resource.toList ∧ '/' ∉ id.group.toList ∧
      '/' ∉ id.namespace.toList ∧ '/' ∉ id.name.toList)
    ⟨fun ⟨h₁, h₂, h₃, h₄, h₅⟩ => ⟨h₁, h₂, h₃, h₄, h₅⟩,
      fun ⟨h₁, h₂, h₃, h₄, h₅⟩ => ⟨h₁, h₂, h₃, h₄, h₅⟩⟩

/-- What stands before the first slash: the resource, and behind a full stop the group. -/
def kindPiece (id : ResourceIdentifier) : List Char :=
  if id.group = "" then id.resource.toList else id.resource.toList ++ '.' :: id.group.toList

/-- What stands between the slashes. -/
def pieces (id : ResourceIdentifier) : List (List Char) :=
  if id.namespace = "" then [id.kindPiece, id.name.toList]
  else [id.kindPiece, id.namespace.toList, id.name.toList]

theorem display_toList (id : ResourceIdentifier) :
    id.display.toList = ['/'].intercalate id.pieces := by
  by_cases hgroup : id.group = "" <;> by_cases hnamespace : id.namespace = "" <;>
    simp [display, pieces, kindPiece, hgroup, hnamespace, String.toList_append]

theorem slash_not_mem_kindPiece {id : ResourceIdentifier} (h : id.Separable) :
    '/' ∉ id.kindPiece := by
  by_cases hgroup : id.group = ""
  · rw [kindPiece, if_pos hgroup]
    exact h.resource_no_slash
  · rw [kindPiece, if_neg hgroup, List.mem_append, List.mem_cons]
    rintro (hresource | hstop | hmem)
    · exact h.resource_no_slash hresource
    · exact absurd hstop (by decide)
    · exact h.group_no_slash hmem

/-- **The slashes of a displayed identifier are those between its pieces.** -/
theorem splitOn_display {id : ResourceIdentifier} (h : id.Separable) :
    id.display.toList.splitOn '/' = id.pieces := by
  have hkind := slash_not_mem_kindPiece h
  have hplain : ∀ piece ∈ id.pieces, '/' ∉ piece := by
    intro piece hmem
    by_cases hnamespace : id.namespace = ""
    · rw [pieces, if_pos hnamespace] at hmem
      simp only [List.mem_cons, List.not_mem_nil, or_false] at hmem
      rcases hmem with rfl | rfl
      · exact hkind
      · exact h.name_no_slash
    · rw [pieces, if_neg hnamespace] at hmem
      simp only [List.mem_cons, List.not_mem_nil, or_false] at hmem
      rcases hmem with rfl | rfl | rfl
      · exact hkind
      · exact h.namespace_no_slash
      · exact h.name_no_slash
  have hne : id.pieces ≠ [] := by
    rw [pieces]
    split <;> exact List.cons_ne_nil _ _
  rw [display_toList, List.splitOn_intercalate '/' hplain hne]

/-! ### Reading -/

/-- The identifier of some pieces.  A full stop in the first one ends the resource, and what stands
behind it is the group. -/
def ofPieces (kind «namespace» name : List Char) : ResourceIdentifier where
  group := String.ofList (kind.dropWhile (· ≠ '.')).tail
  resource := String.ofList (kind.takeWhile (· ≠ '.'))
  «namespace» := String.ofList «namespace»
  name := String.ofList name

/-- The identifier that a text displays; none if it has no slash or too many. -/
def ofDisplay? (s : String) : Option ResourceIdentifier :=
  match s.toList.splitOn '/' with
  | [kind, name] => some (ofPieces kind [] name)
  | [kind, «namespace», name] => some (ofPieces kind «namespace» name)
  | _ => none

theorem ofPieces_kindPiece {id : ResourceIdentifier} (h : id.Separable) :
    ofPieces id.kindPiece id.namespace.toList id.name.toList = id := by
  by_cases hgroup : id.group = ""
  · -- There is no full stop, so all of the piece is the resource and the group is empty.
    rw [kindPiece, if_pos hgroup, ofPieces, takeWhile_ne_of_not_mem h.resource_no_stop,
      dropWhile_ne_of_not_mem h.resource_no_stop]
    simp only [List.tail_nil, String.ofList_nil, String.ofList_toList]
    rw [← hgroup]
  · -- The first full stop is the one that the display put in: the resource holds none.
    rw [kindPiece, if_neg hgroup, ofPieces, takeWhile_ne_append h.resource_no_stop,
      dropWhile_ne_append h.resource_no_stop]
    simp only [List.tail_cons, String.ofList_toList]

/-- **A displayed identifier is read back.**  Two pieces mean an empty namespace, and a first piece
without a full stop an empty group. -/
theorem ofDisplay?_display {id : ResourceIdentifier} (h : id.Separable) :
    ofDisplay? id.display = some id := by
  have hread := ofPieces_kindPiece h
  by_cases hnamespace : id.namespace = ""
  · have hempty : id.namespace.toList = [] := by
      rw [hnamespace]
      rfl
    rw [hempty] at hread
    rw [ofDisplay?, splitOn_display h, pieces, if_pos hnamespace]
    exact congrArg some hread
  · rw [ofDisplay?, splitOn_display h, pieces, if_neg hnamespace]
    exact congrArg some hread

/-- **No two identifiers have one displayed form.** -/
theorem display_inj {id other : ResourceIdentifier} (h : id.Separable) (hother : other.Separable)
    (hsame : id.display = other.display) : id = other := by
  apply Option.some.inj
  calc some id = ofDisplay? id.display := (ofDisplay?_display h).symm
    _ = ofDisplay? other.display := by rw [hsame]
    _ = some other := ofDisplay?_display hother

/-- A full stop in a resource would be taken for the end of the resource. -/
example : display { resource := "pods.apps", name := "web" } =
    display { group := "apps", resource := "pods", name := "web" } := by
  decide

end ResourceIdentifier

/-! ### The items of a table -/

namespace CommandLine

/-- The item that a row shows, if its second cell displays one. -/
def itemOf? (row : List String) : Option ResourceIdentifier :=
  row[1]?.bind ResourceIdentifier.ofDisplay?

/-- The items that a table shows below the two rows that say what was decided. -/
def itemsOf (table : Table) : List ResourceIdentifier := (table.rows.drop 2).filterMap itemOf?

theorem filterMap_ofDisplay? {items : List ResourceIdentifier} (h : ∀ item ∈ items, item.Separable) :
    (items.map ResourceIdentifier.display).filterMap ResourceIdentifier.ofDisplay? = items := by
  induction items with
  | nil => rfl
  | cons item items ih =>
    have hfirst := ResourceIdentifier.ofDisplay?_display (h item List.mem_cons_self)
    have hrest := ih fun other hmem => h other (List.mem_cons_of_mem _ hmem)
    rw [List.map_cons, List.filterMap_cons_some hfirst, hrest]

/-- The rows below a label show just the texts that display an identifier. -/
theorem filterMap_labelled (label : String) (texts : List String) :
    (labelled label texts).filterMap itemOf? = texts.filterMap ResourceIdentifier.ofDisplay? := by
  cases texts with
  | nil =>
    -- What stands for no text at all has no slash, so it is no identifier.
    have hnone : itemOf? [label, noneText] = none := by
      show ResourceIdentifier.ofDisplay? noneText = none
      decide
    rw [labelled, List.filterMap_cons_none hnone]
    rfl
  | cons first rest =>
    have hrest : (rest.map fun text => ["", text]).filterMap itemOf? =
        rest.filterMap ResourceIdentifier.ofDisplay? := by
      rw [List.filterMap_map]
      rfl
    rw [labelled, List.filterMap_cons, List.filterMap_cons, hrest]
    rfl

theorem itemsOf_executeTable (title : String) (output : ExecuteOutput) :
    itemsOf (executeTable title output) =
      (output.additionalItems.map ResourceIdentifier.display).filterMap
        ResourceIdentifier.ofDisplay? :=
  filterMap_labelled _ _

/-- **The displayed form identifies.**  Identifiers with one displayed form agree in every part, and
the items that an execution's table shows are read back from its rows, in their order.  This is
about the cells of the table.  When it is rendered, each line of a cell is filled up with spaces, so
spaces at the end of a name are not seen, and a line end in a name looks like another row. -/
theorem display_identifies :
    (∀ id other : ResourceIdentifier, id.Separable → other.Separable → id.display = other.display →
      id.group = other.group ∧ id.resource = other.resource ∧ id.namespace = other.namespace ∧
        id.name = other.name) ∧
    ∀ (title : String) (output : ExecuteOutput),
      (∀ item ∈ output.additionalItems, item.Separable) →
        itemsOf (executeTable title output) = output.additionalItems := by
  constructor
  · intro id other h hother hsame
    obtain rfl := ResourceIdentifier.display_inj h hother hsame
    exact ⟨rfl, rfl, rfl, rfl⟩
  · intro title output h
    rw [itemsOf_executeTable, filterMap_ofDisplay? h]

/-- A group with full stops and no namespace, read from its display, and beside it an identifier of
empty parts and one with a namespace of full stops. -/
theorem display_identifies_partial :
    let grouped : ResourceIdentifier := { group := "apps.v1.", resource := "sets", name := "web" }
    let read := ResourceIdentifier.ofPieces "sets.apps.v1.".toList [] "web".toList
    let items := [grouped, {}, { resource := "pods", «namespace» := "a.b" }]
    (grouped.group = read.group ∧ grouped.resource = read.resource ∧
      grouped.namespace = read.namespace ∧ grouped.name = read.name) ∧
    itemsOf (executeTable "bkplug.io/sets" { additionalItems := items }) = items :=
  ⟨display_identifies.1 _ _ (by decide) (by decide) (by decide),
    display_identifies.2 _ _ (by decide)⟩

end CommandLine

end RestorePlugins
