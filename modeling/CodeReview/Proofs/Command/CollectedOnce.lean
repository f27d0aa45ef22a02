import CodeReview.Proofs.Command.RefusedRuns
import CodeReview.Proofs.Files.FoundFiles

/-!
# Which files are collected once

Files that are collected have no components in common, so a file is analyzed and sent once for each
way in which the paths of a run spell it (`World.sources_by_spelling`). It is collected once iff all
of its spellings have the same components (`CollectedFrom.once_iff`). They have if all paths of the
run begin alike (`CollectedFrom.once_of_start`), and they have not if one path starts with a dot
and another does not (`World.sources_twice`). Disks have no links here; through a link a file can
have spellings of other components too.
-/

set_option autoImplicit false

namespace CodeReview

open Reviewer

/-! ## Collected files -/

namespace Files

/-- No two of some paths lead to the same place. -/
def Disk.NamesOnce (d : Disk) (files : List String) : Prop := (files.map d.locate?).Nodup

/-- What is collected from some paths: selected files in ascending order, and for every selected
file one path with its components, which leads to the same place. -/
structure CollectedFrom (d : Disk) (extensions paths files : List String) : Prop where
  ascending : files.Pairwise PathBefore
  selected : ∀ file ∈ files, Selected d extensions paths file ∧ d.isFile file
  unique : ∀ file, Selected d extensions paths file →
    ∃! kept, kept ∈ files ∧ components kept = components file
  place : ∀ p q, Selected d extensions paths p → Selected d extensions paths q →
    components p = components q → d.locate? p = d.locate? q

section
variable {d : Disk} {extensions paths files : List String}

/-- Paths in ascending order have different components. -/
theorem nodup_components (h : files.Pairwise PathBefore) : (files.map components).Nodup :=
  List.pairwise_map.2 (h.imp And.right)

theorem selected_congr {others : List String} (hsame : ∀ path, path ∈ others ↔ path ∈ paths)
    {file : String} : Selected d extensions others file ↔ Selected d extensions paths file := by
  simp only [Selected, hsame]

theorem exists_locate?_of_selected (hroot : d.root.WellNamed) {file : String}
    (h : Selected d extensions paths file) :
    ∃ path ∈ paths, ∃ names, d.locate? path = some names ∧ FoundUnder d path names file := by
  obtain ⟨path, hpath, files, hfiles, hfile⟩ := h
  exact ⟨path, hpath, found_of_mem_filesOf? hroot hfiles hfile⟩

variable (extensions) in
theorem exists_collected (hroot : d.root.WellNamed)
    (hpaths : ∀ path ∈ paths, d.find? path ≠ none) :
    (collectSources d extensions paths = .error .noSources ∧
      ∀ file, ¬ Selected d extensions paths file) ∨
    ∃ files, collectSources d extensions paths = .ok files ∧
      CollectedFrom d extensions paths files := by
  have hexists : ∀ path ∈ paths, filesOf? d extensions path ≠ none := fun path hpath hnone =>
    hpaths path hpath (filesOf?_eq_none_iff.1 hnone)
  refine (collectSources_eq hexists).imp_right fun ⟨files, hfiles, hasc, hselected, hkept⟩ =>
    ⟨files, hfiles, hasc, fun file hfile => ⟨hselected file hfile, ?_⟩, fun file hfile => ?_,
      fun p q hp hq heq => ?_⟩
  · obtain ⟨path, -, names, -, below, -, -, hisFile⟩ :=
      exists_locate?_of_selected hroot (hselected file hfile)
    exact hisFile
  · obtain ⟨kept, hkept, heq⟩ := hkept file hfile
    exact ⟨kept, ⟨hkept, heq⟩, fun other hother =>
      List.inj_on_of_nodup_map (nodup_components hasc) hother.1 hkept (hother.2.trans heq.symm)⟩
  · obtain ⟨-, -, names, -, below, -, hlocate, -⟩ := exists_locate?_of_selected hroot hp
    obtain ⟨-, -, names', -, below', -, hlocate', -⟩ := exists_locate?_of_selected hroot hq
    rw [hlocate, hlocate', Disk.locate?_eq_of_components hlocate hlocate' heq]

namespace CollectedFrom

variable (h : CollectedFrom d extensions paths files)
include h

/-- Files are collected once iff no file is selected under different components. -/
theorem once_iff :
    d.NamesOnce files ↔
      ∀ p q, Selected d extensions paths p → Selected d extensions paths q →
        d.locate? p = d.locate? q → components p = components q := by
  constructor
  · intro honce p q hp hq hplace
    obtain ⟨f, ⟨hf, hfp⟩, -⟩ := h.unique p hp
    obtain ⟨g, ⟨hg, hgq⟩, -⟩ := h.unique q hq
    have hsame : d.locate? f = d.locate? g := by
      rw [h.place f p (h.selected f hf).1 hp hfp, hplace, h.place g q (h.selected g hg).1 hq hgq]
    obtain rfl : f = g := List.inj_on_of_nodup_map honce hf hg hsame
    rw [← hfp, hgq]
  · intro hspelled
    refine List.pairwise_map.2 (h.ascending.imp_of_mem fun {p q} hp hq hbefore hplace => ?_)
    exact hbefore.2 (hspelled p q (h.selected p hp).1 (h.selected q hq).1 hplace)

/-- Files are collected once if all paths begin alike and go on with names. This holds of disks
without links: through a link, paths that begin alike could still meet. -/
theorem once_of_start (hroot : d.root.WellNamed)
    (hstart : ∃ start, ∀ path ∈ paths, ∃ names : List String,
      components path = start ++ names.map .name) :
    d.NamesOnce files := by
  obtain ⟨start, hstart⟩ := hstart
  -- selected files have the same beginning and are told apart by the names after it
  have hspelled : ∀ file, Selected d extensions paths file → ∃ names : List String,
      components file = start ++ names.map .name ∧
      d.locate? file = some (destination d.here start ++ names) := by
    intro file hfile
    obtain ⟨path, hpath, place, -, below, hcomponents, hlocate, -⟩ :=
      exists_locate?_of_selected hroot hfile
    obtain ⟨names, hnames⟩ := hstart path hpath
    have hfull : components file = start ++ (names ++ below).map .name := by
      rw [hcomponents, hnames, List.map_append, List.append_assoc]
    refine ⟨names ++ below, hfull, ?_⟩
    rw [hlocate, Disk.locate?_eq_destination hlocate, hfull, destination_append,
      destination_names]
  refine h.once_iff.2 fun p q hp hq hplace => ?_
  obtain ⟨names, hnames, hp⟩ := hspelled p hp
  obtain ⟨names', hnames', hq⟩ := hspelled q hq
  rw [hp, hq, Option.some.injEq, List.append_cancel_left_eq] at hplace
  rw [hnames, hnames', hplace]

theorem mem_map_components_iff {cs : List Component} :
    cs ∈ files.map components ↔
      ∃ file, Selected d extensions paths file ∧ components file = cs := by
  rw [List.mem_map]
  constructor
  · rintro ⟨file, hfile, rfl⟩
    exact ⟨file, (h.selected file hfile).1, rfl⟩
  · rintro ⟨file, hfile, rfl⟩
    exact (h.unique file hfile).exists

/-- Neither the order of paths nor their number matters for what is collected from them. -/
theorem map_components_eq {others files' : List String}
    (h' : CollectedFrom d extensions others files')
    (hsame : ∀ path, path ∈ others ↔ path ∈ paths) :
    files'.map components = files.map components := by
  have hperm : (files'.map components).Perm (files.map components) := by
    refine (List.perm_ext_iff_of_nodup (nodup_components h'.ascending)
      (nodup_components h.ascending)).2 fun cs => ?_
    rw [h'.mem_map_components_iff, h.mem_map_components_iff]
    simp only [selected_congr hsame]
  have hsorted : ∀ {paths : List String}, paths.Pairwise PathBefore →
      (paths.map components).Pairwise fun as bs => componentsLe as bs := fun hasc =>
    List.pairwise_map.2 (hasc.imp And.left)
  refine hperm.eq_of_pairwise (fun as bs _ _ hab hba => ?_) (hsorted h'.ascending)
    (hsorted h.ascending)
  rw [componentsLe_iff] at hab hba
  exact List.map_injective_iff.2 (fun _ _ => Component.key_injective) (le_antisymm hab hba)

end CollectedFrom

end

end Files

/-! ## Calls of a run -/

namespace Command

open Files

section
variable {m : Type → Type} [Monad m] (w : World) (p : Pipeline m) (asking : Asking)

/-- The calls of a reviewer that the review of a file makes; at most one, if the file can be read
and its text parsed. -/
def World.callsOn (path : String) : List Call :=
  match w.readText path with
  | .ok text => p.callsFor text
  | .error _ => []

omit [Monad m] in
theorem World.length_callsOn_le (path : String) : (w.callsOn p path).length ≤ 1 := by
  rw [callsOn]
  split
  · rw [Pipeline.callsFor]
    split
    · rw [ExternalSource.callsOn.eq_def]
      split <;> simp
    · simp
  · simp

variable {p} [LawfulMonad m]

theorem World.run_reviewFile_recorded (hw : 1 ≤ p.window) (path : String) (calls : List Call) :
    (w.reviewFile p.recorded asking path).run calls =
      (fun result => (result, calls ++ w.callsOn p path)) <$> w.reviewFile p asking path := by
  rw [reviewFile, reviewFile, callsOn]
  cases w.readText path with
  | error reason => simp
  | ok text =>
    simp only [Pipeline.reviewOutcome, StateT.run_map, p.run_review_recorded hw path text calls,
      bind_pure_comp, Functor.map_map]
    rfl

/-- The calls of a run are those on its files, one file after the other. -/
theorem World.run_reviewFiles_recorded (hw : 1 ≤ p.window) (files : List String)
    (calls : List Call) :
    (files.mapM (w.reviewFile p.recorded asking)).run calls =
      (fun results => (results, calls ++ files.flatMap (w.callsOn p))) <$>
        files.mapM (w.reviewFile p asking) := by
  induction files generalizing calls with
  | nil => simp
  | cons path files ih =>
    simp only [List.mapM_cons, StateT.run_bind, w.run_reviewFile_recorded asking hw path calls,
      bind_map_left, ih, StateT.run_pure, List.flatMap_cons, List.append_assoc, map_bind, map_pure]

end

/-! ## Files of a run -/

/-- **Each file is collected once for each way to spell it.** Let all paths of a run exist. Either
they stand for no source, which the run is refused for, or what is collected from them are sources
in ascending order, one for the components of each that the paths stand for. The same files, up to
spelling, are collected from the same paths in another order and number. So no two collected paths
lead to one file iff all paths that the run stands for and that lead to one place have the same
components, and then each file is analyzed once, and its text is sent to a reviewer at most once.
This is so if all paths of the run begin alike, up to the first of their names. -/
theorem World.sources_by_spelling (w : World) (hroot : w.disk.root.WellNamed) (paths : List String)
    (hpaths : ∀ path ∈ paths, w.disk.find? path ≠ none) :
    (w.sources paths = .error ⟨"No Python source files found", none⟩ ∧
      ∀ file, ¬ Selected w.disk FrontEnd.python.extensions paths file) ∨
    ∃ files, w.sources paths = .ok files ∧
      CollectedFrom w.disk FrontEnd.python.extensions paths files ∧
      (∀ others, (∀ path, path ∈ others ↔ path ∈ paths) →
        ∃ files', w.sources others = .ok files' ∧ files'.map components = files.map components) ∧
      (w.disk.NamesOnce files ↔
        ∀ p q, Selected w.disk FrontEnd.python.extensions paths p →
          Selected w.disk FrontEnd.python.extensions paths q →
          w.disk.locate? p = w.disk.locate? q → components p = components q) ∧
      ((∃ start, ∀ path ∈ paths, ∃ names : List String,
        components path = start ++ names.map .name) → w.disk.NamesOnce files) ∧
      ∀ (m : Type → Type) [Monad m] [LawfulMonad m] (p : Pipeline m) asking calls, 1 ≤ p.window →
        (files.mapM (w.reviewFile p.recorded asking)).run calls =
          (fun results => (results, calls ++ files.flatMap (w.callsOn p))) <$>
            files.mapM (w.reviewFile p asking) ∧
        ∀ path, (w.callsOn p path).length ≤ 1 := by
  rcases exists_collected FrontEnd.python.extensions hroot hpaths with
    ⟨hnone, hselected⟩ | ⟨files, hfiles, hcollected⟩
  · exact .inl ⟨by rw [sources, hnone]; rfl, hselected⟩
  · refine .inr ⟨files, sources_eq_ok hfiles, hcollected, fun others hsame => ?_,
      hcollected.once_iff, hcollected.once_of_start hroot, fun m _ _ p asking calls hw =>
        ⟨w.run_reviewFiles_recorded asking hw files calls, w.length_callsOn_le p⟩⟩
    have hothers : ∀ path ∈ others, w.disk.find? path ≠ none := fun path hpath =>
      hpaths path ((hsame path).1 hpath)
    rcases exists_collected FrontEnd.python.extensions hroot hothers with
      ⟨hnone, hselected⟩ | ⟨files', hfiles', hcollected'⟩
    · obtain ⟨file, hfile⟩ := List.exists_mem_of_ne_nil files (collectSources_ascending hfiles).1
      exact absurd ((selected_congr hsame).2 (hcollected.selected file hfile).1) (hselected file)
    · exact ⟨files', sources_eq_ok hfiles', hcollected.map_components_eq hcollected' hsame⟩

/-- A source in the working directory and one in a directory there. -/
def nestedWorld : World where
  disk :=
    { root := .directory [("a.py", .file "x = 1\n".toUTF8),
        ("pkg", .directory [("b.py", .file "y = 2\n".toUTF8)])]
      here := [] }
  workPath := "/"

theorem wellNamed_nestedWorld : nestedWorld.disk.root.WellNamed := by
  refine .directory ?_ (by decide) ?_
  · simp only [List.forall_mem_cons, List.not_mem_nil, false_implies, implies_true, and_true]
    exact ⟨⟨by decide, by decide, by decide, by decide⟩, by decide, by decide, by decide, by decide⟩
  · simp only [List.forall_mem_cons, List.not_mem_nil, false_implies, implies_true, and_true]
    refine ⟨.file _, .directory ?_ (by decide) ?_⟩
    · simp only [List.forall_mem_cons, List.not_mem_nil, false_implies, implies_true, and_true]
      exact ⟨by decide, by decide, by decide, by decide⟩
    · simp only [List.forall_mem_cons, List.not_mem_nil, false_implies, implies_true, and_true]
      exact .file _

/-- A file that is given twice and by its directory is collected once. -/
theorem World.sources_by_spelling_of_names :
    let paths := ["pkg/b.py", "a.py", "pkg", "a.py"]
    nestedWorld.disk.root.WellNamed ∧ (∀ path ∈ paths, nestedWorld.disk.find? path ≠ none) ∧
      ∃ files, nestedWorld.sources paths = .ok files ∧ nestedWorld.disk.NamesOnce files := by
  intro paths
  have hpaths : ∀ path ∈ paths, nestedWorld.disk.find? path ≠ none := by decide +kernel
  refine ⟨wellNamed_nestedWorld, hpaths, ?_⟩
  rcases World.sources_by_spelling nestedWorld wellNamed_nestedWorld paths hpaths with
    ⟨-, hselected⟩ | ⟨files, hfiles, -, -, -, honce, -⟩
  · have hfound : filesOf? nestedWorld.disk FrontEnd.python.extensions "a.py" = some ["a.py"] := by
      decide +kernel
    exact absurd ⟨"a.py", by decide, _, hfound, List.mem_cons_self⟩ (hselected "a.py")
  · refine ⟨files, hfiles, honce ⟨[], ?_⟩⟩
    simp only [paths, List.forall_mem_cons, List.not_mem_nil, false_implies, implies_true, and_true,
      List.nil_append]
    exact ⟨⟨["pkg", "b.py"], by decide +kernel⟩, ⟨["a.py"], by decide +kernel⟩,
      ⟨["pkg"], by decide +kernel⟩, ⟨["a.py"], by decide +kernel⟩⟩

/-- A file whose path is also given with a dot before it is collected twice. -/
theorem World.sources_twice :
    ¬ ∀ (w : World) (paths files : List String), w.disk.root.WellNamed →
      (∀ path ∈ paths, w.disk.find? path ≠ none) → w.sources paths = .ok files →
      w.disk.NamesOnce files := by
  intro h
  have hpaths : ∀ path ∈ ["./a.py", "a.py"], nestedWorld.disk.find? path ≠ none := by
    decide +kernel
  have hfiles : nestedWorld.sources ["./a.py", "a.py"] = .ok ["./a.py", "a.py"] :=
    sources_eq_ok
      (collectSources_of_ascending (by decide +kernel) (by decide) (by decide +kernel))
  have honce := h nestedWorld _ _ wellNamed_nestedWorld hpaths hfiles
  have hplace : ¬ nestedWorld.disk.NamesOnce ["./a.py", "a.py"] := by
    rw [Disk.NamesOnce]
    decide +kernel
  exact hplace honce

end Command

end CodeReview
