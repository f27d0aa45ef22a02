import CodeReview.Files.Tree
import CodeReview.Proofs.Results
import CodeReview.Proofs.Text.TrimmedRows

/-!
# Where spelled paths lead

A path leads to the place that its components give, if it leads anywhere
(`Disk.locate?_eq_destination`), so paths with equal components name the same file. The converse
fails: a dot at the start, two dots and a root are components too, and give places that shorter
paths give as well. A name that is joined to a path is one more component (`components_joinPath`)
and leads from the place of the path to its entry (`Disk.locate?_joinPath`).
-/

set_option autoImplicit false

namespace CodeReview.Files

/-! ## Segments -/

theorem segments_ne_nil (path : String) : segments path ≠ [] := by
  rw [segments, ne_eq, List.map_eq_nil_iff]
  exact Text.splitChars_ne_nil '/' _

/-- The first segment is empty for a path that starts with a slash, and for the empty path. -/
theorem startsWith_slash_or_empty {path first : String} {rest : List String}
    (h : segments path = first :: rest) :
    (path.startsWith "/" ∧ first = "" ∧ rest ≠ []) ∨
      (¬ path.startsWith "/" ∧ (first = "" ↔ path = "")) := by
  rw [String.startsWith_string_iff, show "/".toList = ['/'] by decide]
  have hempty : path = "" ↔ path.toList = [] := String.toList_eq_nil_iff.symm
  rw [segments] at h
  cases hcs : path.toList with
  | nil =>
    rw [hcs] at h
    have hfirst : first = "" := (List.cons.inj h).1.symm
    exact .inr ⟨by simp, by simp [hfirst, hempty, hcs]⟩
  | cons c cs =>
    obtain ⟨r, rs, hr⟩ := List.exists_cons_of_ne_nil (Text.splitChars_ne_nil '/' cs)
    rw [hcs] at h
    by_cases hc : c = '/'
    · subst hc
      rw [Text.splitChars_sep_cons, hr, List.map_cons, List.map_cons] at h
      obtain ⟨hfirst, hrest⟩ := List.cons.inj h
      exact .inl ⟨by simp, hfirst.symm, hrest ▸ List.cons_ne_nil _ _⟩
    · rw [Text.splitChars_cons hc hr, List.map_cons] at h
      obtain ⟨hfirst, -⟩ := List.cons.inj h
      exact .inr ⟨by simp [List.cons_prefix_cons, Ne.symm hc], by simp [← hfirst, hempty, hcs]⟩

/-- A joined path goes on after the path. -/
theorem exists_joinPath_eq (path name : String) : ∃ more, joinPath path name = path ++ more := by
  rw [joinPath]
  split
  · exact ⟨name, rfl⟩
  · exact ⟨"/" ++ name, String.append_assoc⟩

theorem joinPath_ne_empty {path : String} (hpath : path ≠ "") (name : String) :
    joinPath path name ≠ "" := by
  obtain ⟨more, hjoined⟩ := exists_joinPath_eq path name
  rw [hjoined, ne_eq, String.append_eq_empty_iff]
  exact fun h => hpath h.1

theorem startsWith_joinPath {path : String} (hpath : path ≠ "") (name : String) :
    (joinPath path name).startsWith "/" = path.startsWith "/" := by
  obtain ⟨more, hjoined⟩ := exists_joinPath_eq path name
  have hne : path.toList ≠ [] := fun h => hpath (String.toList_eq_nil_iff.1 h)
  obtain ⟨c, cs, hcs⟩ := List.exists_cons_of_ne_nil hne
  rw [hjoined, Bool.eq_iff_iff, String.startsWith_string_iff, String.startsWith_string_iff,
    String.toList_append, hcs, show "/".toList = ['/'] by decide, List.cons_append,
    List.cons_prefix_cons, List.cons_prefix_cons]
  simp

/-- A text without a slash that is joined to a path is its last segment. The segments before it are
those of the path, without an empty one at the end. -/
theorem segments_joinPath {path name : String} (hpath : path ≠ "") (hname : '/' ∉ name.toList) :
    ∃ first rest, segments (joinPath path name) = first :: (rest ++ [name]) ∧
      ((segments path = first :: rest ∧ (first = "" → rest ≠ [])) ∨
        segments path = first :: (rest ++ [""])) := by
  have hlast : Text.splitChars '/' name.toList = [name.toList] := Text.splitChars_of_not_mem hname
  rw [joinPath]
  split
  · rename_i hends
    rw [String.endsWith_eq_endsWith_toSlice, String.Slice.endsWith_string_iff] at hends
    obtain ⟨cs, hcs⟩ := hends
    have hsplit : path.toList = cs ++ '/' :: [] := by simpa using hcs.symm
    obtain ⟨r, rs, hr⟩ := List.exists_cons_of_ne_nil (Text.splitChars_ne_nil '/' cs)
    refine ⟨String.ofList r, rs.map String.ofList, ?_, .inr ?_⟩
    · rw [segments, String.toList_append, hsplit, List.append_assoc, List.cons_append,
        List.nil_append, Text.splitChars_append, hlast, hr]
      simp
    · rw [segments, hsplit, Text.splitChars_append, hr]
      simp [Text.splitChars]
  · obtain ⟨first, rest, hsegs⟩ := List.exists_cons_of_ne_nil (segments_ne_nil path)
    refine ⟨first, rest, ?_, .inl ⟨hsegs, fun hfirst => ?_⟩⟩
    · rw [← List.cons_append, ← hsegs, segments, String.toList_append, String.toList_append,
        show "/".toList = ['/'] by decide, List.append_assoc, List.singleton_append,
        Text.splitChars_append, hlast]
      simp [segments]
    · rcases startsWith_slash_or_empty hsegs with ⟨-, -, hrest⟩ | ⟨-, hempty⟩
      · exact hrest
      · exact absurd (hempty.1 hfirst) hpath

/-! ## Components -/

/-- A name that an entry of a directory can have. -/
structure IsName (name : String) : Prop where
  nonempty : name ≠ ""
  not_current : name ≠ "."
  not_parent : name ≠ ".."
  no_slash : '/' ∉ name.toList

theorem IsName.component? {name : String} (h : IsName name) :
    component? name = some (.name name) := by
  simp [Files.component?, h.nonempty, h.not_current, h.not_parent]

/-- The component for a first segment; a root if it is empty and not the only one. -/
def firstComponent (first : String) (isAlone : Bool) : List Component :=
  if first = "" then (if isAlone then [] else [.root])
  else if first = "." then [.current]
  else (component? first).toList

theorem components_of_segments {path first : String} {rest : List String}
    (h : segments path = first :: rest) :
    components path = firstComponent first rest.isEmpty ++ rest.filterMap component? := by
  rw [components, h]
  rfl

/-- A name that is joined to a path is one more component. -/
theorem components_joinPath {path name : String} (hpath : path ≠ "") (hname : IsName name) :
    components (joinPath path name) = components path ++ [.name name] := by
  obtain ⟨first, rest, hjoined, hsegs⟩ := segments_joinPath hpath hname.no_slash
  have hlong (segment : String) : (rest ++ [segment]).isEmpty = false := by simp
  have hcomponents : components (joinPath path name) =
      firstComponent first false ++ rest.filterMap component? ++ [.name name] := by
    rw [components_of_segments hjoined, hlong, List.filterMap_append, List.append_assoc]
    simp [hname.component?]
  rw [hcomponents]
  rcases hsegs with ⟨hsegs, hfirst⟩ | hsegs
  · rw [components_of_segments hsegs]
    cases rest with
    | cons _ _ => rfl
    | nil =>
      have hne : first ≠ "" := fun h => hfirst h rfl
      simp [firstComponent, hne]
  · rw [components_of_segments hsegs, hlong, List.filterMap_append]
    simp [component?]

/-! ## Places -/

/-- Where a component leads from a place. -/
def Component.lead (place : List String) : Component → List String
  | root => []
  | current => place
  | parent => place.dropLast
  | name s => place ++ [s]

/-- The place that components lead to. -/
def destination (here : List String) (cs : List Component) : List String :=
  cs.foldl Component.lead here

theorem destination_append (here : List String) (cs ds : List Component) :
    destination here (cs ++ ds) = destination (destination here cs) ds :=
  List.foldl_append

theorem destination_names (here names : List String) :
    destination here (names.map .name) = here ++ names := by
  induction names generalizing here with
  | nil => exact (List.append_nil here).symm
  | cons name names ih =>
    rw [List.map_cons, destination, List.foldl_cons]
    refine (ih (here ++ [name])).trans ?_
    rw [List.append_assoc, List.singleton_append]

namespace Disk

variable {d : Disk} {path : String} {place next : List String}

theorem step_eq_ok {segment : String} (h : d.step place segment = .ok next) :
    next = (component? segment).elim place (Component.lead place) := by
  rw [step] at h
  split at h
  case h_2 | h_3 => cases h
  case h_1 es _ =>
    rw [component?]
    by_cases hcurrent : segment = "" ∨ segment = "."
    · rw [if_pos hcurrent] at h ⊢
      exact (Except.ok.inj h).symm
    · rw [if_neg hcurrent] at h ⊢
      by_cases hparent : segment = ".."
      · rw [if_pos hparent] at h ⊢
        exact (Except.ok.inj h).symm
      · rw [if_neg hparent] at h ⊢
        split at h
        · exact (Except.ok.inj h).symm
        · cases h

theorem follow_eq_ok {segs : List String} (h : d.follow place segs = .ok next) :
    next = destination place (segs.filterMap component?) := by
  induction segs generalizing place with
  | nil => exact (Except.ok.inj h).symm
  | cons segment segs ih =>
    obtain ⟨between, hstep, hrest⟩ := bind_eq_ok_iff.1 h
    rw [ih hrest, step_eq_ok hstep, List.filterMap_cons]
    cases component? segment <;> rfl

theorem locate?_eq_some_iff :
    d.locate? path = some next ↔ path ≠ "" ∧ d.follow (d.start path) (segments path) = .ok next := by
  rw [locate?, toOption_eq_some_iff, locate]
  by_cases h : path = "" <;> simp [h]

/-- A path leads where its components lead, if it leads anywhere. -/
theorem locate?_eq_destination (h : d.locate? path = some next) :
    next = destination d.here (components path) := by
  obtain ⟨hpath, h⟩ := locate?_eq_some_iff.1 h
  obtain ⟨first, rest, hsegs⟩ := List.exists_cons_of_ne_nil (segments_ne_nil path)
  rw [hsegs] at h
  obtain ⟨between, hstep, hrest⟩ := bind_eq_ok_iff.1 h
  rw [follow_eq_ok hrest, components_of_segments hsegs, destination_append]
  refine congrArg (destination · _) ?_
  rw [step_eq_ok hstep, start, firstComponent]
  rcases startsWith_slash_or_empty hsegs with ⟨hslash, rfl, hrest⟩ | ⟨hslash, hempty⟩
  · simp [hslash, hrest, component?, destination, Component.lead]
  · have hfirst : first ≠ "" := fun h => hpath (hempty.1 h)
    rw [if_neg hslash, if_neg hfirst]
    by_cases hdot : first = "."
    · simp [hdot, component?, destination, Component.lead]
    · rw [if_neg hdot]
      cases component? first <;> rfl

theorem locate?_eq_of_components {p q : String} {a b : List String} (hp : d.locate? p = some a)
    (hq : d.locate? q = some b) (h : components p = components q) : a = b := by
  rw [locate?_eq_destination hp, locate?_eq_destination hq, h]

/-- The path of an entry in the directory of a path leads there. -/
theorem locate?_joinPath {name : String} {names : List String} {es : List (String × FileTree)}
    (hname : IsName name) (hpath : d.locate? path = some names)
    (hdirectory : d.root.at? names = some (.directory es))
    (hentry : (d.root.at? (names ++ [name])).isSome) :
    d.locate? (joinPath path name) = some (names ++ [name]) := by
  obtain ⟨hne, hpath⟩ := locate?_eq_some_iff.1 hpath
  have hstep : d.step names name = .ok (names ++ [name]) := by
    simp [step, hdirectory, hname.nonempty, hname.not_current, hname.not_parent, hentry]
  obtain ⟨first, rest, hjoined, hsegs⟩ := segments_joinPath hne hname.no_slash
  -- the segments before the name lead to the directory
  have hfollow : d.follow (d.start path) (first :: rest) = .ok names := by
    rcases hsegs with ⟨hsegs, -⟩ | hsegs
    · rwa [hsegs] at hpath
    · rw [hsegs, ← List.cons_append, follow, List.foldlM_append] at hpath
      obtain ⟨between, hbetween, hlast⟩ := bind_eq_ok_iff.1 hpath
      obtain ⟨last, hstep', hlast⟩ := bind_eq_ok_iff.1 hlast
      obtain rfl := Except.ok.inj hlast
      have hsame := step_eq_ok hstep'
      rw [show component? "" = none by decide, Option.elim_none] at hsame
      rw [hsame]
      exact hbetween
  refine locate?_eq_some_iff.2 ⟨joinPath_ne_empty hne name, ?_⟩
  rw [start, startsWith_joinPath hne, ← start, hjoined, ← List.cons_append, follow,
    List.foldlM_append]
  exact bind_eq_ok_iff.2 ⟨names, hfollow, bind_eq_ok_iff.2 ⟨_, hstep, rfl⟩⟩

end Disk

end CodeReview.Files
