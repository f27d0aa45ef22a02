import CodeReview.Proofs.Files.PathOrder
import CodeReview.Proofs.Files.PathSpelling
import CodeReview.Proofs.Files.WrittenFile
import Mathlib.Data.List.Nodup

/-!
# The files that paths select

A path selects itself, if it names a file, or what a search finds in its directory. In a tree with
proper names a found file has the components of the directory's path and then the names that lead
to it (`FoundUnder`, `found_of_mem_filesOf?`). What is collected from some paths has, for every
selected file, exactly one path with its components (`collectSources_eq`), whatever the order of
the paths and however often they are repeated.
-/

set_option autoImplicit false

namespace CodeReview.Files

/-! ## Trees with proper names -/

/-- Entries have names that paths can spell, and no name stands twice in a directory. -/
inductive FileTree.WellNamed : FileTree → Prop
  | file (content : Content) : WellNamed (.file content)
  | directory {es : List (String × FileTree)} (hnames : ∀ e ∈ es, IsName e.1)
    (hdistinct : (es.map (·.1)).Nodup) (hentries : ∀ e ∈ es, WellNamed e.2) :
    WellNamed (.directory es)

namespace FileTree

theorem child?_of_mem {es : List (String × FileTree)} (hdistinct : (es.map (·.1)).Nodup)
    {e : String × FileTree} (he : e ∈ es) : (directory es).child? e.1 = some e.2 := by
  rw [child?, entries]
  cases hfind : es.find? fun other => other.1 == e.1 with
  | none =>
    have hne := List.find?_eq_none.1 hfind e he
    simp at hne
  | some found =>
    have hsame : found = e :=
      List.inj_on_of_nodup_map hdistinct (List.mem_of_find?_eq_some hfind) he (name_of_find? hfind)
    rw [Option.map_some, hsame]

theorem at?_concat {t : FileTree} {names : List String} {es : List (String × FileTree)}
    (h : t.at? names = some (directory es)) (name : String) :
    t.at? (names ++ [name]) = (directory es).child? name := by
  rw [at?_append, h, Option.bind_some, at?]
  simp [at?]

theorem WellNamed.at? {t u : FileTree} (ht : t.WellNamed) {names : List String}
    (h : t.at? names = some u) : u.WellNamed := by
  induction names generalizing t with
  | nil => rwa [← Option.some.inj h]
  | cons name names ih =>
    obtain ⟨v, hv, hu⟩ := Option.bind_eq_some_iff.1 h
    refine ih ?_ hu
    obtain ⟨e, he, rfl⟩ := Option.map_eq_some_iff.1 hv
    cases ht with
    | file content => cases he
    | directory hnames hdistinct hentries => exact hentries e (List.mem_of_find?_eq_some he)

end FileTree

/-! ## Found files -/

variable {d : Disk} {extensions : List String}

/-- A file below the place of a path; its own path goes on with the names that lead to it. -/
def FoundUnder (d : Disk) (path : String) (names : List String) (file : String) : Prop :=
  ∃ below, components file = components path ++ below.map .name ∧
    d.locate? file = some (names ++ below) ∧ d.isFile file

theorem isFile_of_locate? {path : String} {names : List String} {content : Content}
    (hpath : d.locate? path = some names) (hat : d.root.at? names = some (.file content)) :
    d.isFile path := by
  rw [Disk.isFile, Disk.find?, hpath, Option.bind_some, hat]
  rfl

theorem FoundUnder.self {path : String} {names : List String} {content : Content}
    (hpath : d.locate? path = some names) (hat : d.root.at? names = some (.file content)) :
    FoundUnder d path names path :=
  ⟨[], by simp, by simpa using hpath, isFile_of_locate? hpath hat⟩

/-- What is found in the directory of an entry is found in the directory above it. -/
theorem FoundUnder.of_joinPath {path name file : String} {names : List String}
    (hpath : path ≠ "") (hname : IsName name)
    (h : FoundUnder d (joinPath path name) (names ++ [name]) file) :
    FoundUnder d path names file := by
  obtain ⟨below, hcomponents, hlocate, hfile⟩ := h
  refine ⟨name :: below, ?_, ?_, hfile⟩
  · rw [hcomponents, components_joinPath hpath hname, List.append_assoc]
    rfl
  · rw [hlocate, List.append_assoc]
    rfl

theorem ne_empty_of_locate? {path : String} {names : List String}
    (h : d.locate? path = some names) : path ≠ "" := by
  rintro rfl
  cases h

/-- The path of an entry, joined to that of its directory, leads to the tree of the entry. -/
theorem place_of_entry {path name : String} {names : List String} {t : FileTree}
    {es : List (String × FileTree)} (hes : (FileTree.directory es).WellNamed)
    (hpath : d.locate? path = some names) (hat : d.root.at? names = some (.directory es))
    (hmem : (name, t) ∈ es) :
    IsName name ∧ t.WellNamed ∧ d.root.at? (names ++ [name]) = some t ∧
      d.locate? (joinPath path name) = some (names ++ [name]) := by
  cases hes with
  | directory hnames hdistinct hentries =>
    have hname : IsName name := hnames _ hmem
    have hchild : d.root.at? (names ++ [name]) = some t := by
      rw [FileTree.at?_concat hat, FileTree.child?_of_mem hdistinct hmem]
    exact ⟨hname, hentries _ hmem, hchild,
      Disk.locate?_joinPath hname hpath hat (by rw [hchild]; rfl)⟩

/-- A search in a directory of a disk finds files below it. The induction is that of the search:
the path always leads to the tree that is searched. -/
theorem found_of_mem_searchTree {levels : List IgnoreLevel} {path file : String}
    {names : List String} {t : FileTree} (ht : t.WellNamed) (hpath : d.locate? path = some names)
    (hat : d.root.at? names = some t) (hfile : file ∈ searchTree extensions levels path names t) :
    FoundUnder d path names file := by
  suffices h : (∀ levels path names t, FileTree.WellNamed t → d.locate? path = some names →
      d.root.at? names = some t → ∀ file ∈ searchTree extensions levels path names t,
        FoundUnder d path names file) ∧
      ∀ levels path names rest, ∀ es, (FileTree.directory es).WellNamed →
        d.locate? path = some names → d.root.at? names = some (.directory es) → rest ⊆ es →
        ∀ file ∈ searchEntries extensions levels path names rest, FoundUnder d path names file from
    h.1 levels path names t ht hpath hat file hfile
  clear hfile hat hpath ht t names file path levels
  apply searchTree.mutual_induct extensions
  case case1 =>
    intro levels path names content _ _ _ file hfile
    rw [searchTree] at hfile
    cases hfile
  case case2 =>
    intro levels path names es ih ht hpath hat file hfile
    rw [searchTree] at hfile
    exact ih es ht hpath hat (List.Subset.refl es) file hfile
  case case3 =>
    intro levels path names es _ _ _ _ file hfile
    rw [searchEntries] at hfile
    cases hfile
  case case4 =>
    intro levels path names name t rest ih ihrest es ht hpath hat hsub file hfile
    rw [searchEntries, List.mem_append] at hfile
    rcases hfile with hfile | hfile
    · obtain ⟨hname, hentry, hchild, hjoined⟩ :=
        place_of_entry ht hpath hat (hsub List.mem_cons_self)
      refine FoundUnder.of_joinPath (ne_empty_of_locate? hpath) hname ?_
      -- an entry is skipped, or it is a file with one of the extensions, or it is searched
      split at hfile
      · cases hfile
      · split at hfile
        · rename_i hisFile
          split at hfile
          · obtain rfl := List.mem_singleton.1 hfile
            cases t with
            | directory _ => cases hisFile
            | file content => exact .self hjoined hchild
          · cases hfile
        · exact ih hentry hjoined hchild file hfile
    · exact ihrest es ht hpath hat (fun e he => hsub (List.mem_cons_of_mem _ he)) file hfile

/-- Every file that a path stands for is found under it. -/
theorem found_of_mem_filesOf? (hroot : d.root.WellNamed) {path file : String} {files : List String}
    (h : filesOf? d extensions path = some files) (hfile : file ∈ files) :
    ∃ names, d.locate? path = some names ∧ FoundUnder d path names file := by
  rw [filesOf?] at h
  split at h
  · cases h
  · rename_i names hpath
    split at h
    · rename_i content hat
      obtain rfl := Option.some.inj h
      obtain rfl := List.mem_singleton.1 hfile
      exact ⟨names, hpath, .self hpath hat⟩
    · rename_i t _ hat
      obtain rfl := Option.some.inj h
      exact ⟨names, hpath, found_of_mem_searchTree (hroot.at? hat) hpath hat hfile⟩
    · cases h

/-! ## Selected files -/

/-- A path stands for the file itself, or the file is found in its directory. -/
def Selected (d : Disk) (extensions paths : List String) (file : String) : Prop :=
  ∃ path ∈ paths, ∃ files, filesOf? d extensions path = some files ∧ file ∈ files

theorem allFiles_eq_ok {paths : List String}
    (h : ∀ path ∈ paths, filesOf? d extensions path ≠ none) :
    ∃ found, allFiles d extensions paths = .ok found ∧
      ∀ file, file ∈ found ↔ Selected d extensions paths file := by
  induction paths with
  | nil => exact ⟨[], rfl, by simp [Selected]⟩
  | cons path rest ih =>
    obtain ⟨files, hfiles⟩ := Option.ne_none_iff_exists'.1 (h path List.mem_cons_self)
    obtain ⟨found, hfound, hmem⟩ := ih fun other hother => h other (List.mem_cons_of_mem _ hother)
    refine ⟨files ++ found, by simp only [allFiles, hfiles, hfound, Except.map], fun file => ?_⟩
    rw [List.mem_append, hmem, Selected, Selected, List.exists_mem_cons_iff, hfiles]
    simp

/-- A path that is left out leaves one with its components. -/
theorem exists_mem_sameComponents {paths : List String} {path : String} (h : path ∈ paths) :
    ∃ kept ∈ paths.eraseRepsBy sameComponents, components kept = components path := by
  obtain ⟨kept, hkept, rfl | hsame⟩ := exists_mem_eraseRepsBy (r := sameComponents) h
  · exact ⟨kept, hkept, rfl⟩
  · exact ⟨kept, hkept, sameComponents_iff.1 hsame⟩

/-- The files collected from existing paths are selected ones in ascending order, and every
selected file has a path with its components among them. -/
theorem collectSources_eq {paths : List String}
    (h : ∀ path ∈ paths, filesOf? d extensions path ≠ none) :
    (collectSources d extensions paths = .error .noSources ∧
      ∀ file, ¬ Selected d extensions paths file) ∨
    ∃ files, collectSources d extensions paths = .ok files ∧ files.Pairwise PathBefore ∧
      (∀ file ∈ files, Selected d extensions paths file) ∧
      ∀ file, Selected d extensions paths file →
        ∃ kept ∈ files, components kept = components file := by
  obtain ⟨found, hfound, hmem⟩ := allFiles_eq_ok h
  rw [collectSources, hfound]
  simp only [bind, Except.bind]
  have hkept : ∀ file, Selected d extensions paths file →
      ∃ kept ∈ (found.mergeSort pathLe).eraseRepsBy sameComponents,
        components kept = components file :=
    fun file hfile => exists_mem_sameComponents (List.mem_mergeSort.2 ((hmem file).2 hfile))
  split
  · rename_i hnil
    refine .inl ⟨rfl, fun file hfile => ?_⟩
    obtain ⟨kept, hin, -⟩ := hkept file hfile
    rw [hnil] at hin
    cases hin
  · refine .inr
      ⟨_, rfl, eraseRepsBy_ascending (sorted_pathLe found), fun file hfile => ?_, hkept⟩
    exact (hmem file).1 (List.mem_mergeSort.1 ((eraseRepsBy_sublist _).mem hfile))

end CodeReview.Files
