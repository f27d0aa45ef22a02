import CodeReview.Files.Content
import CodeReview.Files.Path

/-!
# File trees

A tree of directories and files, and the directory in it from which paths are followed. Every
directory can be listed and changed, and a file that is not opened can be neither read nor written.
There are no links: each name in a directory is that of a tree of its own, so a place has one way of
names that leads to it from the top.
-/

set_option autoImplicit false

namespace CodeReview.Files

/-- A file with what it holds, or a directory with its entries. -/
inductive FileTree
  | file (content : Content)
  | directory (entries : List (String × FileTree))
deriving Inhabited

namespace FileTree

/-- Whether it is a file. -/
def isFile : FileTree → Bool
  | file _ => true
  | directory _ => false

/-- Whether it is a directory. -/
def isDirectory (t : FileTree) : Bool := !t.isFile

/-- The entries of a directory; a file has none. -/
def entries : FileTree → List (String × FileTree)
  | file _ => []
  | directory es => es

/-- The entry with a name. -/
def child? (t : FileTree) (name : String) : Option FileTree :=
  (t.entries.find? fun e => e.1 == name).map (·.2)

/-- What the names lead to. -/
def at? (t : FileTree) : List String → Option FileTree
  | [] => some t
  | name :: names => (t.child? name).bind fun u => u.at? names

/-- The entries with a new one, in place of one with its name. -/
def setEntry (es : List (String × FileTree)) (name : String) (t : FileTree) :
    List (String × FileTree) :=
  if es.any fun e => e.1 == name then es.map fun e => if e.1 == name then (name, t) else e
  else es ++ [(name, t)]

/-- Puts a tree where the names lead to, with the directories on the way. -/
def put (new : FileTree) : List String → FileTree → FileTree
  | [], _ => new
  | name :: names, t =>
    directory (setEntry t.entries name (put new names ((t.child? name).getD (directory []))))

end FileTree

/-- A file tree with a working directory, given by its names from the top. -/
structure Disk where
  root : FileTree
  here : List String

namespace Disk

/-- Follows a segment of a path from a directory. -/
def step (d : Disk) (place : List String) (segment : String) : Except OpenFault (List String) :=
  match d.root.at? place with
  | some (.directory _) =>
    if segment = "" ∨ segment = "." then .ok place
    else if segment = ".." then .ok place.dropLast
    else if (d.root.at? (place ++ [segment])).isSome then .ok (place ++ [segment])
    else .error .noEntry
  | some (.file _) => .error .notDirectory
  | none => .error .noEntry

/-- Where a path starts. -/
def start (d : Disk) (path : String) : List String := if path.startsWith "/" then [] else d.here

/-- Follows some segments. -/
def follow (d : Disk) (place : List String) (segs : List String) :
    Except OpenFault (List String) :=
  segs.foldlM d.step place

/-- The names that lead from the top to what a path names, or why the path leads nowhere. -/
def locate (d : Disk) (path : String) : Except OpenFault (List String) :=
  if path = "" then .error .noEntry else d.follow (d.start path) (segments path)

/-- The names that lead from the top to what a path names, if that exists. -/
def locate? (d : Disk) (path : String) : Option (List String) := (d.locate path).toOption

/-- What a path names. -/
def find? (d : Disk) (path : String) : Option FileTree :=
  (d.locate? path).bind d.root.at?

/-- Whether a path names a file. -/
def isFile (d : Disk) (path : String) : Bool := (d.find? path).any FileTree.isFile

/-- Whether a path names a directory. -/
def isDirectory (d : Disk) (path : String) : Bool := (d.find? path).any FileTree.isDirectory

/-- What the file that a path names holds; `none` if the path names no file. -/
def content? (d : Disk) (path : String) : Option Content :=
  match d.find? path with
  | some (.file content) => some content
  | _ => none

/-- Reads the file that a path names. -/
def read (d : Disk) (path : String) : Content := do
  let place ← d.locate path
  match d.root.at? place with
  | some (.file content) => content
  | some (.directory _) => .error .isDirectory
  | none => .error .noEntry

/-- The bytes of the file that a path names, if it can be read. -/
def read? (d : Disk) (path : String) : Option ByteArray := (d.read path).toOption

/-- The names that lead to the file that can be written under a path: it may be new, but its
directory exists. Slashes at the end of a path ask for a directory. -/
def target (d : Disk) (path : String) : Except OpenFault (List String) :=
  if path = "" then .error .noEntry
  else do
    let segs := segments path
    let name := segs.getLast?.getD ""
    let above := (segs.reverse.dropWhile (· == "")).tail.reverse
    let place ← d.follow (d.start path) above
    match d.root.at? place with
    | some (.directory es) =>
      if name = "" ∨ name = "." ∨ name = ".." then .error .isDirectory
      else
        match (FileTree.directory es).child? name with
        | some (.directory _) => .error .isDirectory
        | some (.file (.error fault)) => .error fault
        | _ => .ok (place ++ [name])
    | some (.file _) => .error .notDirectory
    | none => .error .noEntry

/-- Writes a file. -/
def write (d : Disk) (path : String) (bytes : ByteArray) : Except OpenFault Disk :=
  (d.target path).map fun place => { d with root := FileTree.put (.file bytes) place d.root }

end Disk

end CodeReview.Files
