import CodeReview.Python.Statement
import CodeReview.Python.Check
import CodeReview.Python.Indentation
import CodeReview.Python.Outline

/-!
# Reading Python

A text is parsed, its tree and indentation are checked, and the outline of the tree is its syntax
tree.
-/

set_option autoImplicit false

namespace CodeReview.Python

open Syntax

/-- The syntax tree of a Python text, or the first fault found in it. -/
def read (text : String) : Except Fault Node := do
  let cs := text.toList
  let t := parse cs
  let starts ← check t
  checkIndentation cs starts
  return outline t

theorem read_eq_ok {text : String} {starts : List Position}
    (hcheck : check (parse text.toList) = .ok starts)
    (hindent : checkIndentation text.toList starts = .ok ()) :
    read text = .ok (outline (parse text.toList)) := by
  simp only [read, hcheck, hindent, bind, Except.bind]
  rfl

end CodeReview.Python
