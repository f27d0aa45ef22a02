import CodeReview.Syntax.Concrete
import CodeReview.Syntax.Fault
import CodeReview.Text.Line

/-!
# Indentation

The indentation of a statement line is measured twice, with tab stops at every eighth column and
with tabs as wide as a space. Both measures must agree on whether the line opens a block, goes on
with one or closes some; otherwise the meaning of the text would hang on the width of a tab.
-/

set_option autoImplicit false

namespace CodeReview.Python

open Syntax

/-- The blanks at the start of a line: their width with tab stops, their width with narrow tabs, and
their number. -/
structure Indent where
  wide : Nat
  narrow : Nat
  count : Nat
deriving DecidableEq, Repr

/-- Measures further blanks after some. A form feed starts both widths afresh. -/
def Indent.extend (i : Indent) : List Char → Indent
  | [] => i
  | c :: cs =>
    if c == ' ' then Indent.extend ⟨i.wide + 1, i.narrow + 1, i.count + 1⟩ cs
    else if c == '\t' then Indent.extend ⟨(i.wide / 8 + 1) * 8, i.narrow + 1, i.count + 1⟩ cs
    else if c == '\x0c' then Indent.extend ⟨0, 0, i.count + 1⟩ cs
    else i

/-- The indentation of a line. -/
def Indent.ofLine (line : List Char) : Indent := Indent.extend ⟨0, 0, 0⟩ line

/-- The two widths of the open blocks, innermost first; the whole text has the widths zero. -/
abbrev Blocks := List (Nat × Nat)

/-- Closes the blocks that are wider than a line; the outermost always stays. -/
def Blocks.closeTo (wide : Nat) : Blocks → Blocks
  | b :: c :: rest => if wide < b.1 then Blocks.closeTo wide (c :: rest) else b :: c :: rest
  | bs => bs

/-- The innermost block. -/
def Blocks.top (bs : Blocks) : Nat × Nat := bs.headD (0, 0)

/-- Takes a line into account. -/
def Blocks.step (bs : Blocks) (i : Indent) : Except FaultCause Blocks :=
  if bs.top.1 < i.wide then
    if i.narrow ≤ bs.top.2 then .error .inconsistentTabs else .ok ((i.wide, i.narrow) :: bs)
  else
    let bs' := bs.closeTo i.wide
    if i.wide ≠ bs'.top.1 then .error .unmatchedUnindent
    else if i.narrow ≠ bs'.top.2 then .error .inconsistentTabs
    else .ok bs'

/-- Checks the lines of the given statements in order. A statement that other text precedes on its
line is not measured. -/
def checkStarts (rows : Array (List Char)) : Blocks → List Position → Except Fault Unit
  | _, [] => .ok ()
  | bs, p :: ps =>
    match rows[p.row]? with
    | none => checkStarts rows bs ps
    | some line =>
      let i := Indent.ofLine line
      if p.column ≠ i.count then checkStarts rows bs ps
      else
        match bs.step i with
        | .error cause => .error ⟨p.row + 1, i.count + 1, cause⟩
        | .ok bs' => checkStarts rows bs' ps

/-- Checks the indentation of a text whose statements start at the given places. -/
def checkIndentation (text : List Char) (starts : List Position) : Except Fault Unit :=
  checkStarts (Text.rows text).toArray [(0, 0)] starts

end CodeReview.Python
