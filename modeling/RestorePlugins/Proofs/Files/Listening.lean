import RestorePlugins.Files.Listening

namespace RestorePlugins.Files

/-!
# What setting up listeners takes away

A listener takes away what is at its path before it makes its socket there.  It does not look
whether that is a socket, so a file or a link at the path of a listener is lost.

* `walk_holds` — a path leads to a node that is there, or to a name that is free.
* `FileSystem.Grows` — all nodes stay as they are, and only directories and sockets are new.
* `FileSystem.Clears` — the location that setting up one listener clears.
* `listen_grows` — apart from that location, one listener only makes directories and its socket.
* `listenAll_keeps_iff` — **which nodes stay** when all listeners are set up, and
  `listenAll_loses_file` — a file that does not.
-/

variable {fs : FileSystem} {path : String} {names : Names} {node : Node}

namespace FileSystem

/-! ### Where paths lead -/

/-- What a place says of the file system. -/
def Holds (fs : FileSystem) : Place → Prop
  | .existing names node => fs.node? names = some node
  | .vacant names _ => fs.node? names = none

theorem walkPieces_holds {follow : Bool} {onLink : Names → List String → Except FileError Place}
    {place : Place} {start : Names} {rest : List String}
    (hlink : ∀ {next pieces}, onLink next pieces = .ok place → fs.Holds place)
    (h : fs.walkPieces follow onLink start rest = .ok place) : fs.Holds place := by
  -- The walk ends in four ways or at a link; the other ways to take a piece go on or are refused.
  fun_induction fs.walkPieces follow onLink start rest with
  | case1 _ _ hnode =>
    cases h
    exact hnode
  | case7 _ _ _ _ _ _ _ _ next hnext =>
    cases h
    exact hnext
  | case9 _ _ _ _ _ _ _ _ next _ hnext =>
    cases h
    exact hnext
  | case11 _ _ _ _ _ _ _ _ next _ _ hnext =>
    cases h
    exact hnext
  | case4 _ _ _ _ _ _ ih => exact ih h
  | case5 _ _ _ _ _ ih => exact ih h
  | case10 => exact hlink h
  | case12 _ _ _ _ _ _ _ _ _ _ _ _ _ ih => exact ih h
  | _ => cases h

/-- **Following pieces** leads to a node that is there or to a name that is free. -/
theorem walk_holds {follow : Bool} {place : Place} {links : Nat} {start : Names}
    {rest : List String} (h : fs.walk follow links start rest = .ok place) : fs.Holds place := by
  induction links generalizing start rest with
  | zero =>
    rw [walk] at h
    refine walkPieces_holds (fun hlink => ?_) h
    cases hlink
  | succ links ih => exact walkPieces_holds ih h

theorem place_holds {follow : Bool} {place : Place} (h : fs.place follow path = .ok place) :
    fs.Holds place := by
  unfold FileSystem.place at h
  split at h
  · cases h
  · split at h
    · cases h
    · split at h
      · cases h
      · exact walk_holds h

/-- A socket that was put at a free name stays out of the way of all nodes. -/
theorem node?_set_of_vacant (hvacant : fs.node? names = none) {other : Names} {found : Node}
    (h : fs.node? other = some found) : (fs.set names node).node? other = some found := by
  have hne : names ≠ other := by
    intro heq
    rw [heq, h] at hvacant
    cases hvacant
  rw [node?_set_of_ne hne, h]

/-- Pieces that lead to a free name lead to the socket that is put there, if what links lead to
does. -/
theorem walkPieces_set_socket {mode : Nat} {start : Names} {rest : List String}
    {onLink onLinkAfter : Names → List String → Except FileError Place}
    (hvacant : fs.node? names = none)
    (hlink : ∀ {next pieces}, onLink next pieces = .ok (.vacant names false) →
      onLinkAfter next pieces = .ok (.existing names (.socket mode)))
    (h : fs.walkPieces false onLink start rest = .ok (.vacant names false)) :
    (fs.set names (.socket mode)).walkPieces true onLinkAfter start rest =
      .ok (.existing names (.socket mode)) := by
  have hkept : ∀ {other : Names} {found : Node}, fs.node? other = some found →
      (fs.set names (.socket mode)).node? other = some found := node?_set_of_vacant hvacant
  fun_induction fs.walkPieces false onLink start rest with
  | case4 _ _ _ _ hdirectory hstay ih =>
    rw [walkPieces, hkept hdirectory]
    simp only [hstay, if_true]
    exact ih h
  | case5 _ _ _ hdirectory hnot ih =>
    rw [walkPieces, hkept hdirectory]
    simp only [hnot, if_true]
    exact ih h
  | case7 start piece rest _ hdirectory hstay hup hlong next hnext hslashes =>
    -- No slash follows the free name, so it is the last piece.
    cases rest with
    | cons _ _ =>
      injection h with h
      injection h with _ hslash
      cases hslash
    | nil =>
      have hnames : start ++ [piece] = names := by
        injection h with h
        injection h
      rw [walkPieces, hkept hdirectory]
      simp only [hstay, hup, hlong, Bool.false_eq_true, if_false, hnames, node?_set_self]
      rfl
  | case10 start piece rest _ hdirectory hstay hup hlong next target hnext hmore =>
    have hfound : fs.node? (start ++ [piece]) = some (.link target) := hnext
    have hnonempty : rest.isEmpty = false := by
      cases rest with
      | nil => exact absurd rfl hmore
      | cons _ _ => rfl
    rw [walkPieces, hkept hdirectory]
    simp only [hstay, hup, hlong, Bool.false_eq_true, if_false, hkept hfound, hnonempty,
      Bool.false_and]
    exact hlink h
  | case12 start piece rest _ hdirectory hstay hup hlong next found hnot hnext hmore ih =>
    have hfound : fs.node? (start ++ [piece]) = some found := hnext
    rw [walkPieces, hkept hdirectory]
    simp only [hstay, hup, hlong, Bool.false_eq_true, if_false, hkept hfound]
    cases found with
    | link target => exact absurd rfl (hnot target)
    | directory _ | file _ _ | socket _ =>
      simp only [hmore]
      exact ih h
  | _ => cases h

/-- A walk that leads to a free name leads to the socket that is put there, whether links at the
end are followed or not. -/
theorem walk_set_socket {mode links : Nat} {start : Names} {rest : List String}
    (h : fs.walk false links start rest = .ok (.vacant names false)) :
    (fs.set names (.socket mode)).walk true links start rest =
      .ok (.existing names (.socket mode)) := by
  have hvacant : fs.node? names = none := walk_holds h
  induction links generalizing start rest with
  | zero =>
    rw [walk] at h ⊢
    refine walkPieces_set_socket hvacant (fun hlink => ?_) h
    cases hlink
  | succ links ih => exact walkPieces_set_socket hvacant ih h

end FileSystem

/-! ### Growth -/

/-- A node of a sort that setting up listeners makes: a directory or a socket. -/
def Node.isMade : Node → Bool
  | .directory _ => true
  | .socket _ => true
  | .file _ _ => false
  | .link _ => false

namespace FileSystem

/-- All nodes stay as they are, and what is new is a directory or a socket. -/
structure Grows (before after : FileSystem) : Prop where
  kept : ∀ {names : Names} {node : Node}, before.node? names = some node →
    after.node? names = some node
  added : ∀ {names : Names} {node : Node}, after.node? names = some node → node.isMade = false →
    before.node? names = some node

theorem Grows.refl (fs : FileSystem) : Grows fs fs := ⟨id, fun h _ => h⟩

theorem Grows.trans {first second third : FileSystem} (h : Grows first second)
    (h' : Grows second third) : Grows first third :=
  ⟨fun hnode => h'.kept (h.kept hnode), fun hnode hmade => h.added (h'.added hnode hmade) hmade⟩

/-- A directory or a socket at a free name. -/
theorem Grows.of_vacant (hvacant : fs.node? names = none) (hmade : node.isMade = true) :
    Grows fs (fs.set names node) where
  kept := node?_set_of_vacant hvacant
  added {other found} hfound hnot := by
    by_cases hne : names = other
    · rw [← hne, node?_set_self] at hfound
      cases hfound
      rw [hmade] at hnot
      cases hnot
    · rw [← hfound, node?_set_of_ne hne]

theorem grows_makeDirectory {after : FileSystem} (h : fs.makeDirectory path = .ok after) :
    Grows fs after := by
  unfold makeDirectory at h
  cases hplace : fs.place false path with
  | error e =>
    rw [hplace] at h
    cases h
  | ok place =>
    rw [hplace] at h
    cases place with
    | existing names node => cases h
    | vacant names slash =>
      cases h
      exact .of_vacant (place_holds hplace) rfl

theorem grows_makeChain (fs : FileSystem) (paths : List String) :
    Grows fs (fs.makeChain paths).2 := by
  induction paths with
  | nil => exact .refl fs
  | cons path above ih =>
    unfold makeChain
    split
    · exact .refl fs
    · split
      · next made hmade => exact grows_makeDirectory hmade
      · -- The directories above are made first, which may fail on the way.
        split
        · next reached habove =>
          rw [habove] at ih
          exact ih
        · next reached habove =>
          rw [habove] at ih
          split
          · next made hmade => exact ih.trans (grows_makeDirectory hmade)
          · split <;> exact ih
      · split <;> exact .refl fs

theorem grows_makeDirectories (fs : FileSystem) (path : String) :
    Grows fs (fs.makeDirectories path).2 := grows_makeChain fs _

/-! ### Sockets -/

/-- Of two nodes that are put at one location the later one stays. -/
theorem set_set (fs : FileSystem) (names : Names) (first second : Node) :
    (fs.set names first).set names second = fs.set names second := by
  simp [set, List.filter_filter]

theorem place_set_socket {mode : Nat} (h : fs.place false path = .ok (.vacant names false)) :
    (fs.set names (.socket mode)).place true path = .ok (.existing names (.socket mode)) := by
  unfold FileSystem.place at h ⊢
  split at h
  · cases h
  · next hnul =>
    split at h
    · cases h
    · next hempty =>
      split at h
      · cases h
      · next hlong =>
        rw [if_neg hnul, if_neg hempty, if_neg hlong]
        exact walk_set_socket h

/-- A path that has no file cannot be followed, so its bits cannot be set. -/
theorem setMode_of_fileless {mode : Nat} (h : isFileless path = true) :
    fs.setMode path mode = fs := by
  have hplace : ∃ e, fs.place true path = .error e := by
    unfold FileSystem.place
    by_cases hnul : '\x00' ∈ path.toList
    · exact ⟨_, if_pos hnul⟩
    · have hempty : path = "" := by
        simp only [isFileless, Bool.or_eq_true, decide_eq_true_eq, beq_iff_eq] at h
        rcases h with hempty | hhead
        · exact hempty
        · exact absurd (List.mem_of_mem_head? hhead) hnul
      refine ⟨.notFound, ?_⟩
      rw [if_neg hnul, if_pos hempty]
  obtain ⟨e, he⟩ := hplace
  rw [setMode, he]

/-- A socket without a file is no node. -/
theorem nodes_of_bindName {name : String} {after : FileSystem} (h : fs.bindName name = .ok after) :
    after.nodes = fs.nodes := by
  unfold bindName at h
  split at h
  · cases h
    rfl
  · split at h
    · cases h
    · split at h <;> cases h
      rfl

/-- The nodes alone say what is new. -/
theorem Grows.of_nodes_eq {after : FileSystem} (h : after.nodes = fs.nodes) : Grows fs after where
  kept {names node} hnode := by
    cases names <;> simpa only [node?, h] using hnode
  added {names node} hnode _ := by
    cases names <;> simpa only [node?, h] using hnode

/-- Making a socket and setting its bits adds the socket at a free name, if it has a file at
all. -/
theorem grows_bind {after : FileSystem} {mode : Nat} (h : fs.bind path = .ok after) :
    Grows fs (after.setMode path mode) := by
  unfold FileSystem.bind at h
  split at h
  · next hfileless =>
    rw [setMode_of_fileless hfileless]
    exact .of_nodes_eq (nodes_of_bindName h)
  · cases hcheck : checkSocketPath path with
    | error e =>
      rw [hcheck] at h
      cases h
    | ok _ =>
      cases hplace : fs.place false path with
      | error e =>
        rw [hcheck, hplace] at h
        cases h
      | ok place =>
        rw [hcheck, hplace] at h
        cases place with
        | existing names node => cases h
        | vacant names slash =>
          cases slash with
          | true => cases h
          | false =>
            cases h
            rw [setMode, place_set_socket hplace]
            show Grows fs ((fs.set names (.socket 0o755)).set names (.socket (mode % 0o10000)))
            rw [set_set]
            exact .of_vacant (place_holds hplace) rfl

end FileSystem

/-! ### One listener -/

namespace FileSystem

/-- Setting up a listener at a path clears a location: the path leads somewhere, and the location
is where it ends if a link at its end is not followed; no directory is there. -/
structure Clears (fs : FileSystem) (path : String) (names : Names) : Prop where
  leads : fs.pathExists path = true
  ends : ∃ node, fs.place false path = .ok (.existing names node) ∧
    ∀ mode, node ≠ .directory mode

/-- What is cleared was there, and was no directory. -/
theorem Clears.exists_node (h : fs.Clears path names) :
    ∃ node, fs.node? names = some node ∧ ∀ mode, node ≠ .directory mode := by
  obtain ⟨node, hplace, hnot⟩ := h.ends
  exact ⟨node, place_holds hplace, hnot⟩

theorem lookup_filter_self (names : Names) (nodes : List (Names × Node)) :
    lookup names (nodes.filter fun entry => decide (entry.1 ≠ names)) = none := by
  induction nodes with
  | nil => rfl
  | cons entry rest ih =>
    by_cases h : entry.1 = names
    · rw [List.filter_cons_of_neg (by simp [h]), ih]
    · rw [List.filter_cons_of_pos (by simp [h]), lookup, if_neg h, ih]

/-- At a location that was emptied there is nothing, or a directory if it is the root. -/
theorem isMade_of_node?_remove (h : (fs.remove names).node? names = some node) :
    node.isMade = true := by
  have hnone : lookup names (fs.remove names).nodes = none := lookup_filter_self names fs.nodes
  cases names with
  | nil =>
    rw [node?, hnone] at h
    cases h
    rfl
  | cons name above =>
    rw [show (fs.remove (name :: above)).node? (name :: above) =
      lookup (name :: above) (fs.remove (name :: above)).nodes from rfl, hnone] at h
    cases h

end FileSystem

theorem clear_of_clears (h : fs.Clears path names) : clear fs path = .ok (fs.remove names) := by
  obtain ⟨node, hplace, hnot⟩ := h.ends
  rw [clear, if_pos h.leads, FileSystem.unlink, hplace]
  cases node with
  | directory mode => exact absurd rfl (hnot mode)
  | file _ _ | socket _ | link _ => rfl

/-- The location at the path of a listener is cleared, or nothing changes. -/
theorem clear_cases {after : FileSystem} (h : clear fs path = .ok after) :
    after = fs ∨ ∃ names, fs.Clears path names ∧ after = fs.remove names := by
  unfold clear at h
  split at h
  · next hleads =>
    unfold FileSystem.unlink at h
    cases hplace : fs.place false path with
    | error e =>
      rw [hplace] at h
      cases h
    | ok place =>
      rw [hplace] at h
      cases place with
      | vacant names slash => cases h
      | existing names node =>
        cases node with
        | directory mode => cases h
        | file _ _ | socket _ | link _ =>
          cases h
          exact .inr ⟨names, ⟨hleads, _, hplace, nofun⟩, rfl⟩
  · cases h
    exact .inl rfl

theorem grows_makeParents (fs : FileSystem) (path : String) :
    fs.Grows (makeParents fs path).2 := by
  unfold makeParents
  split
  · exact fs.grows_makeDirectories _
  · exact .refl fs

/-- **After the location is cleared**, one listener only makes directories and its socket. -/
theorem listen_grows {cleared : FileSystem} (h : clear fs path = .ok cleared) :
    cleared.Grows (listen fs path).2 := by
  have hparents := grows_makeParents cleared path
  unfold listen
  rw [h]
  simp only
  split
  · next reached hmade =>
    rw [hmade] at hparents
    exact hparents
  · next reached hmade =>
    rw [hmade] at hparents
    split
    · exact hparents
    · next bound hbound => exact hparents.trans (FileSystem.grows_bind hbound)

/-- What is not cleared by a listener stays as it is. -/
theorem listen_kept (h : fs.node? names = some node) (hclears : ¬ fs.Clears path names) :
    (listen fs path).2.node? names = some node := by
  cases hcleared : clear fs path with
  | error e =>
    unfold listen
    rw [hcleared]
    exact h
  | ok cleared =>
    refine (listen_grows hcleared).kept ?_
    rcases clear_cases hcleared with rfl | ⟨other, hother, rfl⟩
    · exact h
    · have hne : other ≠ names := by
        intro heq
        exact hclears (heq ▸ hother)
      rw [FileSystem.node?_remove_of_ne hne, h]

/-- What is neither a directory nor a socket after a listener was set up was there before. -/
theorem listen_added (h : (listen fs path).2.node? names = some node)
    (hmade : node.isMade = false) : fs.node? names = some node := by
  cases hcleared : clear fs path with
  | error e =>
    unfold listen at h
    rw [hcleared] at h
    exact h
  | ok cleared =>
    have hthere := (listen_grows hcleared).added h hmade
    rcases clear_cases hcleared with rfl | ⟨other, hother, rfl⟩
    · exact hthere
    · have hne : other ≠ names := by
        intro heq
        rw [heq] at hthere
        rw [FileSystem.isMade_of_node?_remove hthere] at hmade
        cases hmade
      rw [← hthere, FileSystem.node?_remove_of_ne hne]

/-- What a listener cleared is no file and no link afterwards. -/
theorem isMade_of_clears (hclears : fs.Clears path names)
    (h : (listen fs path).2.node? names = some node) : node.isMade = true := by
  cases hmade : node.isMade with
  | true => rfl
  | false =>
    have hthere := (listen_grows (clear_of_clears hclears)).added h hmade
    rw [FileSystem.isMade_of_node?_remove hthere] at hmade
    cases hmade

/-! ### All listeners -/

/-- Some listener clears a location when its turn comes. -/
def ClearedIn (fs : FileSystem) (paths : List String) (names : Names) : Prop :=
  ∃ front path back, paths = front ++ path :: back ∧
    (listenAll fs front).2.Clears path names

theorem clearedIn_cons_iff {rest : List String} :
    ClearedIn fs (path :: rest) names ↔
      fs.Clears path names ∨ ClearedIn (listen fs path).2 rest names := by
  constructor
  · rintro ⟨front, other, back, hpaths, hclears⟩
    cases front with
    | nil =>
      cases hpaths
      exact .inl hclears
    | cons first front =>
      cases hpaths
      exact .inr ⟨front, other, back, rfl, hclears⟩
  · rintro (hclears | ⟨front, other, back, rfl, hclears⟩)
    · exact ⟨[], path, rest, rfl, hclears⟩
    · exact ⟨path :: front, other, back, rfl, hclears⟩

/-- What no listener clears stays as it is. -/
theorem listenAll_kept {paths : List String} (h : fs.node? names = some node)
    (hcleared : ¬ ClearedIn fs paths names) : (listenAll fs paths).2.node? names = some node := by
  induction paths generalizing fs with
  | nil => exact h
  | cons path rest ih =>
    rw [clearedIn_cons_iff, not_or] at hcleared
    exact ih (listen_kept h hcleared.1) hcleared.2

/-- What is neither a directory nor a socket after all listeners was there before. -/
theorem listenAll_added {paths : List String} (hmade : node.isMade = false)
    (h : (listenAll fs paths).2.node? names = some node) : fs.node? names = some node := by
  induction paths generalizing fs with
  | nil => exact h
  | cons path rest ih => exact listen_added (ih h) hmade

/-- A directory is never cleared. -/
theorem not_clearedIn_directory {paths : List String} {mode : Nat}
    (h : fs.node? names = some (.directory mode)) : ¬ ClearedIn fs paths names := by
  induction paths generalizing fs with
  | nil =>
    rintro ⟨front, path, back, hpaths, -⟩
    cases front <;> cases hpaths
  | cons path rest ih =>
    have hnot : ¬ fs.Clears path names := by
      intro hclears
      obtain ⟨node, hnode, hdirectory⟩ := hclears.exists_node
      rw [h] at hnode
      cases hnode
      exact hdirectory mode rfl
    rw [clearedIn_cons_iff, not_or]
    exact ⟨hnot, ih (listen_kept h hnot)⟩

/-- A file or a link that is there after all listeners was not cleared by any. -/
theorem not_clearedIn_of_kept {paths : List String} (hmade : node.isMade = false)
    (h : (listenAll fs paths).2.node? names = some node) : ¬ ClearedIn fs paths names := by
  induction paths generalizing fs with
  | nil =>
    rintro ⟨front, path, back, hpaths, -⟩
    cases front <;> cases hpaths
  | cons path rest ih =>
    have hthere : (listen fs path).2.node? names = some node := listenAll_added hmade h
    have hnot : ¬ fs.Clears path names := by
      intro hclears
      rw [isMade_of_clears hclears hthere] at hmade
      cases hmade
    rw [clearedIn_cons_iff, not_or]
    exact ⟨hnot, ih h⟩

/-- **Which nodes stay.**  A node stays as it is unless it stands, when the turn of some listener
comes, at the location that the listener clears.  No directory stands there; a file or a link
that does is lost, for nothing asks whether it is a socket. -/
theorem listenAll_keeps_iff (fs : FileSystem) (paths : List String) (names : Names) (node : Node)
    (h : fs.node? names = some node) :
    (¬ ClearedIn fs paths names → (listenAll fs paths).2.node? names = some node) ∧
    (∀ mode, node = .directory mode → ¬ ClearedIn fs paths names) ∧
    ((∀ mode, node ≠ .socket mode) →
      ((listenAll fs paths).2.node? names = some node ↔ ¬ ClearedIn fs paths names)) := by
  refine ⟨listenAll_kept h, ?_, ?_⟩
  · rintro mode rfl
    exact not_clearedIn_directory h
  · intro hnot
    refine ⟨?_, listenAll_kept h⟩
    intro hkept
    cases node with
    | directory mode => exact not_clearedIn_directory h
    | socket mode => exact absurd rfl (hnot mode)
    | file _ _ => exact not_clearedIn_of_kept rfl hkept
    | link _ => exact not_clearedIn_of_kept rfl hkept

/-- A directory with a file and a link to the file. -/
def linkedNotes : FileSystem where
  nodes := [
    (["srv"], .directory 0o755),
    (["srv", "notes"], .file (utf8 "to keep") 0o644),
    (["srv", "latest"], .link "notes")]

/-- A listener at the path of a link takes the link away and keeps the file that it leads to. -/
theorem listenAll_keeps_iff_link :
    linkedNotes.node? ["srv", "latest"] = some (.link "notes") ∧
      ClearedIn linkedNotes ["/srv/latest", "/srv/run/host.sock"] ["srv", "latest"] ∧
      ¬ ClearedIn linkedNotes ["/srv/latest", "/srv/run/host.sock"] ["srv", "notes"] := by
  have hlink := listenAll_keeps_iff linkedNotes ["/srv/latest", "/srv/run/host.sock"]
    ["srv", "latest"] (.link "notes") (by decide)
  have hfile := listenAll_keeps_iff linkedNotes ["/srv/latest", "/srv/run/host.sock"]
    ["srv", "notes"] (.file (utf8 "to keep") 0o644) (by decide)
  have hlost : (listenAll linkedNotes ["/srv/latest", "/srv/run/host.sock"]).2.node?
      ["srv", "latest"] ≠ some (.link "notes") := by
    decide +kernel
  have hkept : (listenAll linkedNotes ["/srv/latest", "/srv/run/host.sock"]).2.node?
      ["srv", "notes"] = some (.file (utf8 "to keep") 0o644) := by
    decide +kernel
  refine ⟨by decide, ?_, (hfile.2.2 nofun).1 hkept⟩
  exact Classical.byContradiction fun hnot => hlost (hlink.1 hnot)

/-- **Not only sockets are taken away**: a file at the path of a listener is lost. -/
theorem listenAll_loses_file :
    ¬ ∀ (fs : FileSystem) (paths : List String) (names : Names) (node : Node),
      fs.node? names = some node → (∀ mode, node ≠ .socket mode) →
        (listenAll fs paths).2.node? names = some node := by
  intro h
  have hkept := h linkedNotes ["/srv/notes"] ["srv", "notes"] (.file (utf8 "to keep") 0o644)
    (by decide) nofun
  have hlost : (listenAll linkedNotes ["/srv/notes"]).2.node? ["srv", "notes"] =
      some (.socket 0o660) := by
    decide +kernel
  rw [hlost] at hkept
  cases hkept

end RestorePlugins.Files
