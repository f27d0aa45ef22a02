import CodeReview.Text.Word
import CodeReview.Text.Case

/-!
# Patterns

A pattern is looked for anywhere in a text, without regard to case. It is written with characters
that stand for themselves, `\b` for the edge of a word, `[…]` for one of some characters, `.*` for
anything up to the end of the line, and `(…|…)` for alternatives.
-/

set_option autoImplicit false

namespace CodeReview.Text

/-- What a text may hold at a place. -/
inductive Pattern
  | empty
  | char (c : Char)
  | oneOf (cs : List Char)
  | edge
  | gap
  | seq (p q : Pattern)
  | alt (p q : Pattern)
deriving DecidableEq, Repr

namespace Pattern

/-- Whether two characters are the same apart from case. -/
def sameLetter (c d : Char) : Bool := c == d || foldChar c == foldChar d

/-- Whether a word starts or ends between two characters. -/
def isEdge (before after : Option Char) : Bool := before.any isWord != after.any isWord

/-- Whether `goOn` accepts some rest of the text after any characters of this line. -/
def skipping (goOn : Option Char → List Char → Bool) : Option Char → List Char → Bool
  | before, [] => goOn before []
  | before, c :: cs => goOn before (c :: cs) || (c != '\n' && skipping goOn (some c) cs)

/-- Whether the pattern stands at the start of the text, followed by a rest that `goOn` accepts.
`before` is the character before the text. -/
def at? : Pattern → (Option Char → List Char → Bool) → Option Char → List Char → Bool
  | empty, goOn, before, cs => goOn before cs
  | char c, goOn, _, cs =>
    match cs with
    | d :: rest => sameLetter c d && goOn (some d) rest
    | [] => false
  | oneOf set, goOn, _, cs =>
    match cs with
    | d :: rest => set.any (sameLetter · d) && goOn (some d) rest
    | [] => false
  | edge, goOn, before, cs => isEdge before cs.head? && goOn before cs
  | gap, goOn, before, cs => skipping goOn before cs
  | seq p q, goOn, before, cs => p.at? (q.at? goOn) before cs
  | alt p q, goOn, before, cs => p.at? goOn before cs || q.at? goOn before cs

/-- Whether the pattern stands somewhere in the text. -/
def foundFrom (p : Pattern) : Option Char → List Char → Bool
  | before, [] => p.at? (fun _ _ => true) before []
  | before, c :: cs => p.at? (fun _ _ => true) before (c :: cs) || foundFrom p (some c) cs

/-- Whether a text holds the pattern. -/
def found (p : Pattern) (cs : List Char) : Bool := p.foundFrom none cs

/-! ## Reading patterns -/

/-- The character that a backslash and the given one stand for, if it is only made literal. -/
def isPunctuation (c : Char) : Bool :=
  ['\\', '.', '+', '*', '?', '(', ')', '|', '[', ']', '\x7b', '\x7d', '^', '$', '#', '&', '-',
    '~', '/'].contains c

/-- A group that is open: the alternatives before the current one, latest first, and the current
one. -/
structure Open where
  alternatives : List Pattern
  current : Pattern

/-- Adds to the current alternative. -/
def Open.add (g : Open) (p : Pattern) : Open := { g with current := .seq g.current p }

/-- The pattern for a group that ends. -/
def Open.close (g : Open) : Pattern := g.alternatives.foldl (fun p q => .alt q p) g.current

/-- Reads a pattern; the open groups are kept innermost first, and the last of them is the whole
pattern. -/
def readFrom : Nat → List Open → List Char → Option Pattern
  | 0, _, _ => none
  | _ + 1, [], _ => none
  | _ + 1, [g], [] => some g.close
  | _ + 1, _ :: _ :: _, [] => none
  | fuel + 1, g :: outer, c :: cs =>
    if c == '(' then readFrom fuel (⟨[], .empty⟩ :: g :: outer) cs
    else if c == ')' then
      match outer with
      | h :: rest => readFrom fuel (h.add g.close :: rest) cs
      | [] => none
    else if c == '|' then
      readFrom fuel (⟨g.current :: g.alternatives, .empty⟩ :: outer) cs
    else if c == '[' then
      match cs.span (· != ']') with
      | (set, _ :: rest) =>
        if set.isEmpty then none else readFrom fuel (g.add (.oneOf set) :: outer) rest
      | (_, []) => none
    else if c == '\\' then
      match cs with
      | 'b' :: rest => readFrom fuel (g.add .edge :: outer) rest
      | d :: rest => if isPunctuation d then readFrom fuel (g.add (.char d) :: outer) rest else none
      | [] => none
    else if c == '.' then
      match cs with
      | '*' :: rest => readFrom fuel (g.add .gap :: outer) rest
      | _ => none
    else if c == '*' then none
    else readFrom fuel (g.add (.char c) :: outer) cs

/-- Reads a pattern. -/
def read (text : String) : Option Pattern :=
  readFrom (text.length + 1) [⟨[], .empty⟩] text.toList

end Pattern

end CodeReview.Text
