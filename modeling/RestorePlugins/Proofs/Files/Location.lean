import RestorePlugins.Files.Location

namespace RestorePlugins.Files

/-!
# Spellings of a path

* `samePath_iff` — paths are the same when they lead to one location.
* `samePath_insert`, `samePath_append` — what names nothing can be put in after a slash, or behind
  a path.
* `samePath_repeated_slash`, `samePath_inner_dot`, `samePath_trailing_slash` — so slashes can be
  repeated, dots can be put in between them, and a path may end in one.
-/

theorem samePath_iff {a b : String} :
    samePath a b = true ↔ Location.ofPath a = Location.ofPath b := by
  simp [samePath]

/-- A slash divides the pieces of a path. -/
theorem pieces_slash (front back : String) :
    pieces (front ++ "/" ++ back) = pieces front ++ pieces back := by
  have hchars : (front ++ "/" ++ back).toList = front.toList ++ '/' :: back.toList := by simp
  unfold pieces
  rw [hchars, List.splitOn, List.splitOnP_append_cons _ _ (by simp), List.map_append]
  rfl

theorem pieces_ne_nil (path : String) : pieces path ≠ [] := by
  simp [pieces, List.splitOn, List.splitOnP_ne_nil]

/-- Whether a path with a slash begins at the root does not hang on what follows the slash. -/
theorem isAbsolute_slash (front back : String) :
    isAbsolute (front ++ "/" ++ back) = (front == "" || isAbsolute front) := by
  unfold isAbsolute
  cases hfront : front.toList with
  | nil =>
    have hempty : front = "" := String.toList_eq_nil_iff.1 hfront
    simp [hempty]
  | cons first rest =>
    have hne : front ≠ "" := fun hempty => by simp [hempty] at hfront
    simp [hfront, hne]

theorem meaningful_append (first second : List String) :
    Location.meaningful (first ++ second) =
      Location.meaningful first ++ Location.meaningful second :=
  List.filter_append ..

/-- The location of a path that does not begin at the root. -/
theorem ofPath_relative {path first : String} {rest : List String}
    (hrelative : isAbsolute path = false) (h : pieces path = first :: rest) :
    Location.ofPath path = ⟨false, if first = "." then "." :: Location.meaningful rest
      else Location.meaningful (first :: rest)⟩ := by
  unfold Location.ofPath
  rw [hrelative, h]
  split
  · next habsolute => cases habsolute
  · split
    · next heq =>
      cases heq
      rfl
    · next hnot =>
      have hdot : first ≠ "." := fun hdot => hnot rest (by rw [hdot])
      rw [if_neg hdot]

/-- The location of a path depends on whether it begins at the root, on its first piece, and on the
pieces behind it that name something. -/
theorem ofPath_congr {a b first : String} {front back : List String}
    (habsolute : isAbsolute a = isAbsolute b) (ha : pieces a = first :: front)
    (hb : pieces b = first :: back)
    (hrest : Location.meaningful front = Location.meaningful back) :
    Location.ofPath a = Location.ofPath b := by
  have hall : Location.meaningful (first :: front) = Location.meaningful (first :: back) := by
    rw [← List.singleton_append, meaningful_append, hrest, ← meaningful_append]
    rfl
  cases hb' : isAbsolute b with
  | true =>
    rw [hb'] at habsolute
    simp only [Location.ofPath, habsolute, hb', if_true, ha, hb, hall]
  | false =>
    rw [ofPath_relative (habsolute.trans hb') ha, ofPath_relative hb' hb, hall, hrest]

/-- Pieces that name nothing can be put in after a slash. -/
theorem samePath_insert (front back : String) {nothing : String}
    (h : Location.meaningful (pieces nothing) = []) :
    samePath (front ++ "/" ++ (nothing ++ "/" ++ back)) (front ++ "/" ++ back) = true := by
  obtain ⟨first, rest, hfirst⟩ := List.exists_cons_of_ne_nil (pieces_ne_nil front)
  have hlong : pieces (front ++ "/" ++ (nothing ++ "/" ++ back)) =
      first :: (rest ++ (pieces nothing ++ pieces back)) := by
    rw [pieces_slash, pieces_slash, hfirst, List.cons_append]
  have hshort : pieces (front ++ "/" ++ back) = first :: (rest ++ pieces back) := by
    rw [pieces_slash, hfirst, List.cons_append]
  refine samePath_iff.2 (ofPath_congr ?_ hlong hshort ?_)
  · rw [isAbsolute_slash, isAbsolute_slash]
  · rw [meaningful_append, meaningful_append, meaningful_append, h, List.nil_append]

/-- Pieces that name nothing can be put behind a path. -/
theorem samePath_append {path nothing : String} (hpath : path ≠ "")
    (h : Location.meaningful (pieces nothing) = []) :
    samePath (path ++ "/" ++ nothing) path = true := by
  obtain ⟨first, rest, hfirst⟩ := List.exists_cons_of_ne_nil (pieces_ne_nil path)
  have hlong : pieces (path ++ "/" ++ nothing) = first :: (rest ++ pieces nothing) := by
    rw [pieces_slash, hfirst, List.cons_append]
  refine samePath_iff.2 (ofPath_congr ?_ hlong hfirst ?_)
  · simp [isAbsolute_slash, hpath]
  · rw [meaningful_append, h, List.append_nil]

/-! ### Slashes and dots -/

/-- Slashes can be repeated. -/
theorem samePath_repeated_slash (front back : String) :
    samePath (front ++ "//" ++ back) (front ++ "/" ++ back) = true := by
  have hspelled : front ++ "//" ++ back = front ++ "/" ++ ("" ++ "/" ++ back) := by
    apply String.ext
    simp
  rw [hspelled]
  exact samePath_insert front back (by decide)

/-- Dots can be put in between slashes. -/
theorem samePath_inner_dot (front back : String) :
    samePath (front ++ "/./" ++ back) (front ++ "/" ++ back) = true := by
  have hspelled : front ++ "/./" ++ back = front ++ "/" ++ ("." ++ "/" ++ back) := by
    apply String.ext
    simp
  rw [hspelled]
  exact samePath_insert front back (by decide)

/-- A path may end in a slash. -/
theorem samePath_trailing_slash {path : String} (hpath : path ≠ "") :
    samePath (path ++ "/") path = true := by
  have hspelled : path ++ "/" = path ++ "/" ++ "" := by simp
  rw [hspelled]
  exact samePath_append hpath (by decide)

end RestorePlugins.Files
