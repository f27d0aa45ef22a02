import CodeReview.Python.Token

/-!
# Layout

Before each token stands a gap of blanks, line ends, continued lines and comments. What a gap
means depends on what the grammar can take there: the end of a statement, the start of a block or
its end. `measureGap` measures it, `Gap.mark` gives the mark that it stands for, if any, and
`Scanner.next` the mark or the token after it.

A gap ends a block when the next line is indented less than the block, and outside brackets it
does so even where the grammar has no use for the mark.
-/

set_option autoImplicit false

namespace CodeReview.Python

open Syntax

/-- What the grammar can take at a point: the marks of the layout, a closing bracket, a string. -/
structure Expect where
  newline : Bool := false
  indent : Bool := false
  dedent : Bool := false
  closer : Bool := false
  string : Bool := false
deriving Repr

/-- Where a scan of the text stands. The widths of the open blocks are kept innermost first, above
the width zero of the whole text; `interpolating` holds within the braces of a formatted string, and
`bound` is greater than the number of characters of the text. -/
structure Scanner where
  cursor : Cursor
  indents : List Nat
  interpolating : Bool
  bound : Nat
deriving Repr, Inhabited

/-- A scan at the start of a text. -/
def Scanner.start (text : List Char) : Scanner := ⟨⟨text, ⟨0, 0⟩⟩, [0], false, text.length + 1⟩

/-- What a gap was found to hold: whether a line ended in it, the width of the blanks before the
next token on its line, the width before the first comment, and the place after it. -/
structure Gap where
  lineEnded : Bool
  width : Nat
  comment : Option Nat
  cursor : Cursor
deriving Repr

/-- Measures the gap at the start of the characters. A space is one wide and a tab eight; a carriage
return or a form feed starts the count afresh. Comments belong to the gap if `comments` holds and a
line has ended before them; if it has not, or if a backslash does not end its line, there is no
measure. -/
def measureGap (comments : Bool) (g : Gap) : Bool → List Char → Position → Option Gap
  | _, [], p => some { g with lineEnded := true, width := 0, cursor := ⟨[], p⟩ }
  | true, c :: cs, p =>
    if c == '\n' || c == '\x00' then
      measureGap comments { g with width := 0 } false cs (advance p c)
    else measureGap comments g true cs (advance p c)
  | false, c :: cs, p =>
    let p' := advance p c
    if c == '\n' then measureGap comments { g with lineEnded := true, width := 0 } false cs p'
    else if c == ' ' then measureGap comments { g with width := g.width + 1 } false cs p'
    else if c == '\t' then measureGap comments { g with width := g.width + 8 } false cs p'
    else if c == '\r' || c == '\x0c' then measureGap comments { g with width := 0 } false cs p'
    else if c == '#' && comments then
      if g.lineEnded then
        measureGap comments { g with comment := some (g.comment.getD g.width) } true cs p'
      else none
    else if c == '\\' then
      match cs with
      | [] => some { g with lineEnded := true, width := 0, cursor := ⟨[], p'⟩ }
      | '\n' :: cs' => measureGap comments g false cs' (advance p' '\n')
      | '\r' :: [] =>
        some { g with lineEnded := true, width := 0, cursor := ⟨[], advance p' '\r'⟩ }
      | '\r' :: '\n' :: cs' =>
        measureGap comments g false cs' (advance (advance p' '\r') '\n')
      | _ => none
    else some { g with cursor := ⟨c :: cs, p⟩ }

/-- The gap at a cursor. -/
def Cursor.gap (comments : Bool) (k : Cursor) : Option Gap :=
  measureGap comments ⟨false, 0, none, k⟩ false k.rest k.position

/-- Whether the characters start with a quote. -/
def startsWithQuote : List Char → Bool
  | c :: _ => c == '"' || c == '\'' || c == Char.ofNat 0x60
  | [] => false

/-- The layout mark for a gap, where the innermost open block has the given width. -/
def Gap.mark (g : Gap) (e : Expect) (interpolating : Bool) (current : Nat) : Option Token :=
  if !g.lineEnded then none
  else if e.indent && current < g.width then some .indent
  else if (e.dedent ||
        (!e.newline && !(e.string && startsWithQuote g.cursor.rest) && !e.closer)) &&
      g.width < current && !interpolating && g.comment.all (· < current) then some .dedent
  else if e.newline then some .newline
  else none

/-- A token with its place: `extras` are the line continuations in the gap before it, `here` is the
scan where the token starts and `after` the scan past it. -/
structure Lexeme where
  token : Token
  extras : List ParseTree
  here : Scanner
  after : Scanner
deriving Repr

/-- The position of the token. -/
def Lexeme.start (l : Lexeme) : Position := l.here.cursor.position

/-- The token read from the text as a node. -/
def Lexeme.leaf (l : Lexeme) (label : Label) : ParseTree := .leaf label l.start

/-- Blanks between tokens, whatever the layout. -/
def isSpace (c : Char) : Bool :=
  c == ' ' || ('\t' ≤ c && c ≤ '\r') || c == '\ufeff' || c == '\u2060' || c == '\u200b'

/-- The length of a line continuation at the start of the characters, or zero. -/
def continuationLength : List Char → Nat
  | '\\' :: '\n' :: _ => 2
  | '\\' :: '\r' :: '\n' :: _ => 3
  | '\\' :: '\x00' :: _ => 2
  | ['\\'] => 1
  | _ => 0

/-- The number of blanks at the start of the characters. -/
def spaceLength (cs : List Char) : Nat := (cs.takeWhile isSpace).length

/-- Takes the mark or token after the gap at the scanner's place. Each round passes one comment or
line continuation, and the layout is measured anew after it. -/
def Scanner.nextFrom (e : Expect) (walrus : Bool) : Nat → List ParseTree → Scanner → Lexeme
  | 0, extras, s => ⟨.invalid, extras.reverse, s, s⟩
  | fuel + 1, extras, s =>
    let gap := s.cursor.gap (e.newline || e.indent || e.dedent)
    let mark := gap.bind fun g =>
      (g.mark e s.interpolating (s.indents.headD 0)).map fun m => (g, m)
    match mark with
    | some (g, .indent) =>
      ⟨.indent, extras.reverse, s, { s with indents := g.width :: s.indents }⟩
    | some (_, .dedent) => ⟨.dedent, extras.reverse, s, { s with indents := s.indents.tail }⟩
    | some (_, m) => ⟨m, extras.reverse, s, s⟩
    | none =>
      let opened := gap.bind fun g =>
        if e.string && g.comment.isNone then
          (Delimiter.plain.read? g.cursor.rest 0).map fun d => (g.cursor, d)
        else none
      match opened with
      | some (k, d, n) =>
        ⟨.stringStart d, extras.reverse, { s with cursor := k },
          { s with cursor := k.skip n, interpolating := d.format }⟩
      | none =>
        let k := s.cursor.skip (spaceLength s.cursor.rest)
        match k.rest with
        | '#' :: _ =>
          let n := (k.rest.takeWhile (· != '\n')).length
          Scanner.nextFrom e walrus fuel extras { s with cursor := k.skip n }
        | _ =>
          let n := continuationLength k.rest
          if n == 0 then
            let (token, n) := Token.read walrus k.rest
            ⟨token, extras.reverse, { s with cursor := k }, { s with cursor := k.skip n }⟩
          else
            Scanner.nextFrom e walrus fuel
              (.leaf (.construct .lineContinuation) k.position :: extras)
              { s with cursor := k.skip n }

/-- The mark or token after the gap at the scanner's place. Without `walrus` a colon is never read
together with an equals sign. -/
def Scanner.next (s : Scanner) (e : Expect) (walrus : Bool := true) : Lexeme :=
  s.nextFrom e walrus s.bound []

end CodeReview.Python
