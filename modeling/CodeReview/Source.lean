import CodeReview.Python.Source
import CodeReview.Text.Line

/-!
# Source units

A source unit is a text that was read in some language: its lines and its syntax tree.
-/

set_option autoImplicit false

namespace CodeReview

open Syntax

/-- A text that was read. -/
structure SourceUnit where
  language : String
  lines : List String
  tree : Node
deriving Repr

/-- A reader of one language, with the endings of the names of its files. -/
structure FrontEnd where
  language : String
  extensions : List String
  read : String → Except Fault Node

namespace FrontEnd

/-- The reader of Python. -/
def python : FrontEnd := ⟨"Python", ["py", "pyi"], Python.read⟩

end FrontEnd

namespace SourceUnit

/-- Reads a text. -/
def ofText (frontEnd : FrontEnd) (text : String) : Except Fault SourceUnit :=
  (frontEnd.read text).map fun tree => ⟨frontEnd.language, Text.lines text, tree⟩

theorem lines_of_ofText {frontEnd : FrontEnd} {text : String} {u : SourceUnit}
    (h : ofText frontEnd text = .ok u) : u.lines = Text.lines text := by
  rw [ofText] at h
  cases hr : frontEnd.read text with
  | error e =>
    rw [hr] at h
    cases h
  | ok tree =>
    rw [hr] at h
    cases h
    rfl

/-- The lines with their numbers, which start at one. -/
def numberedLines (u : SourceUnit) : List (Nat × String) :=
  (List.range' 1 u.lines.length).zip u.lines

/-- The line with the given number. -/
def line? (u : SourceUnit) (number : Nat) : Option String :=
  match number with
  | 0 => none
  | n + 1 => u.lines[n]?

/-! ## Lines by number -/

variable {u : SourceUnit} {number : Nat} {text : String}

theorem line?_eq_some_iff :
    u.line? number = some text ↔ ∃ i, number = i + 1 ∧ u.lines[i]? = some text := by
  cases number with
  | zero => simp [line?]
  | succ n => simp [line?]

theorem getElem?_numberedLines (u : SourceUnit) (i : Nat) :
    u.numberedLines[i]? = u.lines[i]?.map fun text => (i + 1, text) := by
  ext ⟨number, text⟩
  rw [numberedLines, List.getElem?_zip_eq_some, Option.map_eq_some_iff]
  constructor
  · rintro ⟨hnumber, htext⟩
    obtain ⟨hi, hnumber⟩ := List.getElem?_eq_some_iff.1 hnumber
    rw [List.getElem_range'] at hnumber
    exact ⟨text, htext, Prod.ext (by omega) rfl⟩
  · rintro ⟨_, htext, heq⟩
    obtain ⟨rfl, rfl⟩ := Prod.mk.inj heq
    obtain ⟨hi, -⟩ := List.getElem?_eq_some_iff.1 htext
    refine ⟨List.getElem?_eq_some_iff.2 ⟨by rwa [List.length_range'], ?_⟩, htext⟩
    rw [List.getElem_range', Nat.one_mul, Nat.add_comm]

theorem mem_numberedLines_iff :
    (number, text) ∈ u.numberedLines ↔ u.line? number = some text := by
  rw [line?_eq_some_iff, List.mem_iff_getElem?]
  refine exists_congr fun i => ?_
  rw [getElem?_numberedLines, Option.map_eq_some_iff]
  constructor
  · rintro ⟨_, htext, heq⟩
    obtain ⟨rfl, rfl⟩ := Prod.mk.inj heq
    exact ⟨rfl, htext⟩
  · rintro ⟨rfl, htext⟩
    exact ⟨text, htext, rfl⟩

theorem numberedLines_ascending (u : SourceUnit) :
    (u.numberedLines.map (·.1)).Pairwise (· < ·) := by
  rw [numberedLines, List.map_fst_zip (Nat.le_of_eq List.length_range')]
  exact List.pairwise_lt_range'

end SourceUnit

end CodeReview
