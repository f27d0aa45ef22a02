import CodeReview.Files.Ignore

/-!
# Finding source files

Paths of files are taken as they are; a directory is searched for files with certain extensions. The
files are given in the order of their paths, and none twice under paths with equal components. No
file is opened for that but those with rules on what to leave out.
-/

set_option autoImplicit false

namespace CodeReview.Files

mutual

/-- The files in a directory that a search takes. `path` is its path and `names` lead to it;
`levels` are those of the directories above it. -/
def searchTree (extensions : List String) (levels : List IgnoreLevel) (path : String)
    (names : List String) : FileTree → List String
  | .file _ => []
  | .directory es =>
    searchEntries extensions
      (IgnoreLevel.ofDirectory names.length (.directory es) :: levels) path names es

/-- The files that a search takes among the entries of a directory. -/
def searchEntries (extensions : List String) (levels : List IgnoreLevel) (path : String)
    (names : List String) : List (String × FileTree) → List String
  | [] => []
  | (name, t) :: rest =>
    let found :=
      if isSkipped levels (names ++ [name]) t.isDirectory then []
      else if t.isFile then
        (if (extension? name).any extensions.contains then [joinPath path name] else [])
      else searchTree extensions levels (joinPath path name) (names ++ [name]) t
    found ++ searchEntries extensions levels path names rest

end

/-- The levels of the directories above the one that the names lead to, nearest first. -/
def levelsAbove (root : FileTree) (names : List String) : List IgnoreLevel :=
  ((List.range names.length).reverse).filterMap fun depth =>
    (root.at? (names.take depth)).map (IgnoreLevel.ofDirectory depth)

/-- The files that a path stands for: itself, or those found in a directory; nothing if there is
neither. -/
def filesOf? (d : Disk) (extensions : List String) (path : String) : Option (List String) :=
  match d.locate? path with
  | none => none
  | some names =>
    match d.root.at? names with
    | some (.file _) => some [path]
    | some t => some (searchTree extensions (levelsAbove d.root names) path names t)
    | none => none

/-- Whether two paths have the same components. -/
def sameComponents (a b : String) : Bool := components a == components b

/-- Why no files were found. -/
inductive SearchFault
  | noSuchPath (path : String)
  | noSources
deriving DecidableEq, Repr

/-- The text for a reason. -/
def SearchFault.message : SearchFault → String
  | noSuchPath path => "Path does not exist: " ++ path
  | noSources => "No Python source files found"

/-- The files that each of some paths stands for. -/
def allFiles (d : Disk) (extensions : List String) :
    List String → Except SearchFault (List String)
  | [] => .ok []
  | path :: rest =>
    match filesOf? d extensions path with
    | none => .error (.noSuchPath path)
    | some found => (allFiles d extensions rest).map (found ++ ·)

/-- The source files that some paths stand for, in order. -/
def collectSources (d : Disk) (extensions : List String) (paths : List String) :
    Except SearchFault (List String) := do
  let found ← allFiles d extensions paths
  match (found.mergeSort pathLe).eraseRepsBy sameComponents with
  | [] => .error .noSources
  | files => .ok files

end CodeReview.Files
