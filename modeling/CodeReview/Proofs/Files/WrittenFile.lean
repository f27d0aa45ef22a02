import CodeReview.Files.Tree
import CodeReview.Proofs.Results
import Mathlib.Data.List.Basic

/-!
# A written file is read back

A file put into a tree is found where it was put (`FileTree.at?_put`). Whatever else could be found
can still be found, and directories stay directories, as a file never takes the place of one
(`FileTree.exists_at?_put`). So the path that was written still leads to its place, and reading it
gives the bytes (`Disk.read_of_write`).
-/

set_option autoImplicit false

namespace CodeReview.Files

namespace FileTree

/-! ## Entries -/

theorem name_of_find? {es : List (String × FileTree)} {name : String} {e : String × FileTree}
    (h : es.find? (fun e => e.1 == name) = some e) : e.1 = name := by
  have hfound := List.find?_some h
  exact beq_iff_eq.1 hfound

theorem child?_setEntry (es : List (String × FileTree)) (name : String) (t : FileTree)
    (other : String) :
    (directory (setEntry es name t)).child? other =
      if other = name then some t else (directory es).child? other := by
  rw [child?, child?, entries, entries, setEntry]
  split
  case isTrue h =>
    -- an entry keeps its name, so the same one is found
    have hnames : (fun e : String × FileTree => e.1 == other) ∘
        (fun e => if e.1 == name then (name, t) else e) = fun e => e.1 == other := by
      funext e
      by_cases he : e.1 = name <;> simp [he]
    rw [List.find?_map, hnames]
    cases hfind : es.find? fun e => e.1 == other with
    | none =>
      obtain ⟨e, he, hname⟩ := List.any_eq_true.1 h
      have hne : other ≠ name := fun hother =>
        List.find?_eq_none.1 hfind e he (hother ▸ hname)
      rw [if_neg hne]
      rfl
    | some e =>
      have he : e.1 = other := name_of_find? hfind
      by_cases hname : other = name <;> simp [he, hname]
  case isFalse h =>
    rw [List.find?_append]
    split
    case isTrue hother =>
      subst hother
      have hnone : es.find? (fun e => e.1 == other) = none := by
        rw [List.find?_eq_none]
        exact fun e he hname => h (List.any_eq_true.2 ⟨e, he, hname⟩)
      rw [hnone]
      simp
    case isFalse hother =>
      have hnew : (name == other) = false := beq_false_of_ne fun hname => hother hname.symm
      rw [List.find?_cons, hnew, List.find?_nil, Option.or_none]

/-! ## Places in a tree -/

theorem at?_append (t : FileTree) (names more : List String) :
    t.at? (names ++ more) = (t.at? names).bind fun u => u.at? more := by
  induction names generalizing t with
  | nil => rfl
  | cons name names ih =>
    rw [List.cons_append, at?, at?, Option.bind_assoc]
    exact congrArg _ (funext fun u => ih u)

/-- What is put into a tree is found at its place. -/
theorem at?_put (new : FileTree) (names : List String) (t : FileTree) :
    (put new names t).at? names = some new := by
  induction names generalizing t with
  | nil => rfl
  | cons name names ih =>
    rw [put, at?, child?_setEntry, if_pos rfl]
    exact ih _

/-- What is found in a tree is not lost if something is put where there is no directory, and a
directory stays one. -/
theorem exists_at?_put (new : FileTree) {names : List String} {t : FileTree}
    (hfree : ∀ es, t.at? names ≠ some (directory es)) {place : List String} {u : FileTree}
    (h : t.at? place = some u) :
    ∃ v, (put new names t).at? place = some v ∧ (u.isDirectory → v.isDirectory) := by
  induction names generalizing t place with
  | nil =>
    -- the tree is a file, so nothing is found in it but itself
    cases t with
    | directory es => exact absurd rfl (hfree es)
    | file content =>
      cases place with
      | nil =>
        obtain rfl := Option.some.inj h
        exact ⟨new, rfl, fun hdir => by cases hdir⟩
      | cons name place => cases h
  | cons name names ih =>
    cases place with
    | nil => exact ⟨_, rfl, fun _ => rfl⟩
    | cons other place =>
      obtain ⟨child, hchild, hu⟩ := Option.bind_eq_some_iff.1 h
      rw [put, at?, child?_setEntry]
      split
      case isTrue hname =>
        subst hname
        have hfree' : ∀ es, child.at? names ≠ some (directory es) := fun es hes =>
          hfree es (by rw [at?, hchild]; exact hes)
        rw [hchild]
        exact ih hfree' hu
      case isFalse hname =>
        have hsame : (directory t.entries).child? other = some child := hchild
        rw [hsame]
        exact ⟨u, hu, id⟩

end FileTree

namespace Disk

variable {d d' : Disk} {path : String} {names : List String}

/-! ## Paths -/

/-- Of segments whose last one is a name, those above it are all the others. -/
theorem above_eq_dropLast {segs : List String} {name : String} (h : segs.getLast? = some name)
    (hname : name ≠ "") : (segs.reverse.dropWhile (· == "")).tail.reverse = segs.dropLast := by
  obtain ⟨init, rfl⟩ := List.getLast?_eq_some_iff.1 h
  have hstop : (name == "") = false := beq_false_of_ne hname
  rw [List.reverse_concat, List.dropWhile_cons, hstop, List.dropLast_concat]
  exact List.reverse_reverse init

/-- The file that can be written under a path stands in an existing directory, in which no
directory has its name. -/
theorem target_eq_ok (h : d.target path = .ok names) :
    ∃ place name es, path ≠ "" ∧ (segments path).getLast? = some name ∧
      (name ≠ "" ∧ name ≠ "." ∧ name ≠ "..") ∧
      d.follow (d.start path) (segments path).dropLast = .ok place ∧
      d.root.at? place = some (.directory es) ∧
      (∀ es', (FileTree.directory es).child? name ≠ some (.directory es')) ∧
      names = place ++ [name] := by
  rw [target] at h
  split at h
  · cases h
  rename_i hpath
  obtain ⟨place, hplace, h⟩ := bind_eq_ok_iff.1 h
  split at h
  case h_2 | h_3 => cases h
  rename_i es hes
  split at h
  · cases h
  rename_i hname
  have hlast : (segments path).getLast? = some ((segments path).getLast?.getD "") := by
    cases hlast : (segments path).getLast? with
    | none => simp [hlast] at hname
    | some name => rfl
  generalize (segments path).getLast?.getD "" = name at hlast hname h
  rw [not_or, not_or] at hname
  rw [above_eq_dropLast hlast hname.1] at hplace
  split at h
  · cases h
  · cases h
  · rename_i hfree _
    exact ⟨place, name, es, hpath, hlast, hname, hplace, hes, hfree, (Except.ok.inj h).symm⟩

/-- There is no directory where a file can be written. -/
theorem at?_target_ne (h : d.target path = .ok names) (es : List (String × FileTree)) :
    d.root.at? names ≠ some (.directory es) := by
  obtain ⟨place, name, siblings, -, -, -, -, hplace, hfree, rfl⟩ := target_eq_ok h
  intro hat
  have hchild : (FileTree.directory siblings).child? name = some (.directory es) := by
    simpa [FileTree.at?_append, hplace, FileTree.at?] using hat
  exact hfree es hchild

/-- What is found on one disk is found on another, a directory as a directory. -/
def Keeps (d d' : Disk) : Prop :=
  ∀ place u, d.root.at? place = some u →
    ∃ v, d'.root.at? place = some v ∧ (u.isDirectory → v.isDirectory)

theorem Keeps.directory (hkeeps : d.Keeps d') {place : List String}
    {es : List (String × FileTree)} (h : d.root.at? place = some (.directory es)) :
    ∃ es', d'.root.at? place = some (.directory es') := by
  obtain ⟨v, hv, hdir⟩ := hkeeps place _ h
  cases v with
  | file content => cases hdir rfl
  | directory es' => exact ⟨es', hv⟩

theorem Keeps.step (hkeeps : d.Keeps d') {place next : List String} {segment : String}
    (h : d.step place segment = .ok next) : d'.step place segment = .ok next := by
  rw [Disk.step] at h
  split at h
  case h_2 | h_3 => cases h
  rename_i es hplace
  obtain ⟨es', hplace'⟩ := hkeeps.directory hplace
  rw [Disk.step, hplace']
  by_cases hcurrent : segment = "" ∨ segment = "."
  · simpa only [if_pos hcurrent] using h
  · by_cases hparent : segment = ".."
    · simpa only [if_neg hcurrent, if_pos hparent] using h
    · simp only [if_neg hcurrent, if_neg hparent] at h ⊢
      split at h
      · rename_i hsome
        obtain ⟨u, hu⟩ := Option.isSome_iff_exists.1 hsome
        obtain ⟨v, hv, -⟩ := hkeeps _ u hu
        rw [if_pos (by rw [hv]; rfl)]
        exact h
      · cases h

theorem Keeps.follow (hkeeps : d.Keeps d') {place last : List String} {segs : List String}
    (h : d.follow place segs = .ok last) : d'.follow place segs = .ok last := by
  induction segs generalizing place with
  | nil => exact h
  | cons segment segs ih =>
    obtain ⟨next, hnext, hrest⟩ := bind_eq_ok_iff.1 h
    exact bind_eq_ok_iff.2 ⟨next, hkeeps.step hnext, ih hrest⟩

/-! ## Written files -/

/-- A file that was written is read back. -/
theorem read_of_write {bytes : ByteArray} (h : d.write path bytes = .ok d') :
    d'.read path = .ok bytes := by
  obtain ⟨names, htarget, rfl⟩ := map_eq_ok_iff.1 h
  obtain ⟨place, name, es, hpath, hlast, ⟨hempty, hdot, hdots⟩, hfollow, hplace, -, rfl⟩ :=
    target_eq_ok htarget
  have hkeeps : d.Keeps { d with root := FileTree.put (.file bytes) (place ++ [name]) d.root } :=
    fun _ _ => FileTree.exists_at?_put _ (at?_target_ne htarget)
  generalize hd' : { d with root := FileTree.put (.file bytes) (place ++ [name]) d.root } = d'
    at hkeeps
  have hfound : d'.root.at? (place ++ [name]) = some (.file bytes) := by
    rw [← hd']
    exact FileTree.at?_put _ _ _
  have hstart : d'.start path = d.start path := by rw [← hd', start, start]
  have hstep : d'.step place name = .ok (place ++ [name]) := by
    obtain ⟨es', hplace'⟩ := hkeeps.directory hplace
    simp [step, hplace', hempty, hdot, hdots, hfound]
  have hsegments : segments path = (segments path).dropLast ++ [name] :=
    (List.dropLast_append_getLast? name hlast).symm
  have hlocate : d'.locate path = .ok (place ++ [name]) := by
    rw [locate, if_neg hpath, hsegments, follow, List.foldlM_append]
    refine bind_eq_ok_iff.2 ⟨place, hstart ▸ hkeeps.follow hfollow, ?_⟩
    exact bind_eq_ok_iff.2 ⟨_, hstep, rfl⟩
  refine bind_eq_ok_iff.2 ⟨_, hlocate, ?_⟩
  simp only [hfound]

end Disk

end CodeReview.Files
