import CodeReview.Digest.Md5
import CodeReview.ReviewError
import CodeReview.Source
import Std.Data.HashMap

/-!
# Duplicate blocks

A window is a given number of neighbouring lines. Windows are taken as equal when the digests of
their texts are, blanks at both ends left out. Windows that occur more than once are reported as
blocks, in the order of their first lines.
-/

set_option autoImplicit false

namespace CodeReview

/-- Lines that occur more than once, with the lines at which they start. -/
structure DuplicateBlock where
  digest : String
  text : String
  occurrences : Nat
  lines : List Nat
deriving DecidableEq, Repr

/-- The line at which a block occurs first. -/
def DuplicateBlock.firstLine (b : DuplicateBlock) : Nat := b.lines.headD 0

/-- The digest of the text of a window. -/
def blockDigest (text : String) : String := Digest.md5 (Text.trim text)

/-- The number of lines in a window if nothing else is asked for. -/
def defaultMinLines : Nat := 3

/-- A window: the line it starts on, its text and its digest. -/
structure Window where
  line : Nat
  text : String
  digest : String
deriving DecidableEq, Repr

/-- The window at the start of some lines. -/
def windowAt (size line : Nat) (lines : List String) : Window :=
  let text := Text.join "\n" (lines.take size)
  ⟨line, text, blockDigest text⟩

/-- The windows of some lines, the first of which has the given number; `left` lines start one. -/
def windowsFrom (size : Nat) : Nat → Nat → List String → List Window
  | 0, _, _ => []
  | left + 1, line, lines =>
    windowAt size line lines :: windowsFrom size left (line + 1) lines.tail

/-- All windows of some lines. -/
def windows (size : Nat) (lines : List String) : List Window :=
  windowsFrom size (lines.length + 1 - size) 1 lines

/-- The windows with one digest: the first of them, their number and their lines, the latest
first. -/
structure WindowGroup where
  first : Window
  count : Nat
  lines : List Nat

namespace WindowGroup

/-- The group of a window whose digest was not seen before. -/
def single (w : Window) : WindowGroup := ⟨w, 1, [w.line]⟩

/-- A further window, on the given line. -/
def extend (line : Nat) (g : WindowGroup) : WindowGroup :=
  { g with count := g.count + 1, lines := line :: g.lines }

/-- The block that a group makes up. -/
def block (g : WindowGroup) : DuplicateBlock :=
  ⟨g.first.digest, g.first.text, g.count, g.lines.reverse⟩

end WindowGroup

/-- The groups of the windows seen so far, in the order of their first lines, and the place of the
group of each digest among them. -/
structure WindowScan where
  groups : Array WindowGroup
  places : Std.HashMap String Nat

namespace WindowScan

/-- Before the first window. -/
def start : WindowScan := ⟨#[], ∅⟩

/-- Takes a window into account. -/
def add (s : WindowScan) (w : Window) : WindowScan :=
  match s.places[w.digest]? with
  | some k => { s with groups := s.groups.modify k (.extend w.line) }
  | none => ⟨s.groups.push (.single w), s.places.insert w.digest s.groups.size⟩

/-- The blocks of the groups with several windows. -/
def blocks (s : WindowScan) : List DuplicateBlock :=
  (s.groups.toList.filter (1 < ·.count)).map WindowGroup.block

end WindowScan

/-- The repeated windows of some lines. -/
def repeatedBlocks (size : Nat) (lines : List String) : List DuplicateBlock :=
  ((windows size lines).foldl WindowScan.add WindowScan.start).blocks

/-- Refuses windows without lines. -/
def checkWindow (size : Nat) : Except ReviewError Unit :=
  if size = 0 then .error (.setting .emptyWindow) else .ok ()

theorem checkWindow_of_pos {size : Nat} (h : 1 ≤ size) : checkWindow size = .ok () :=
  if_neg (by omega)

/-- The repeated windows of a unit. -/
def SourceUnit.duplicates (u : SourceUnit) (size : Nat) :
    Except ReviewError (List DuplicateBlock) :=
  (checkWindow size).map fun _ => repeatedBlocks size u.lines

theorem SourceUnit.duplicates_of_pos (u : SourceUnit) {size : Nat} (h : 1 ≤ size) :
    u.duplicates size = .ok (repeatedBlocks size u.lines) := by
  rw [duplicates, checkWindow_of_pos h]
  rfl

end CodeReview
