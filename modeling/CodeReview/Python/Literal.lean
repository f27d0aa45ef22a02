import CodeReview.Python.Layout

/-!
# String contents

Between its delimiters a string holds pieces of content and, if it is formatted, interpolations in
braces. `readContent` reads content up to the end of the string or the next open brace. A piece of
content ends at a backslash that starts an escape, and a string with single quotes holds a line end
only as the first character of a piece.
-/

set_option autoImplicit false

namespace CodeReview.Python

open Syntax

/-- How content stops: at the closing quotes, at an interpolation, or nowhere. -/
inductive ContentEnd
  | closed
  | brace
  | broken
deriving DecidableEq, Repr

/-- Content that was read: the escapes in it, whether it has any character, where it stops, and the
place there. -/
structure Content where
  escapes : List ParseTree
  found : Bool
  stop : ContentEnd
  cursor : Cursor
deriving Repr

/-- The number of characters, up to `limit`, at the start that satisfy `p`. -/
def runLength (p : Char → Bool) (limit : Nat) (cs : List Char) : Nat :=
  ((cs.take limit).takeWhile p).length

/-- The length of the escape sequence at the start of the characters, or zero if the backslash
stands for itself. -/
def escapeLength : List Char → Nat
  | '\\' :: c :: cs =>
    if c == 'u' then if runLength isHexDigit 4 cs == 4 then 6 else 0
    else if c == 'U' then if runLength isHexDigit 8 cs == 8 then 10 else 0
    else if c == 'x' then if runLength isHexDigit 2 cs == 2 then 4 else 0
    else if c.isDigit then runLength Char.isDigit 3 (c :: cs) + 1
    else if c == '\r' then if cs.head? == some '\n' then 3 else 0
    else if ['\n', '\'', '"', 'a', 'b', 'f', 'r', 'n', 't', 'v', '\\'].contains c then 2
    else if c == 'N' then
      match cs with
      | '\x7b' :: rest =>
        let n := (rest.takeWhile (· != '\x7d')).length
        if n == 0 || (rest.drop n).isEmpty then 0 else n + 4
      | _ => 0
    else 0
  | _ => 0

/-- The number of characters a backslash takes along in a raw string: it keeps the closing quote, a
backslash or a line end after it from being read as such. -/
def rawStep (quote : Char) (cs : List Char) : Nat :=
  let n := match cs with
    | '\\' :: c :: _ => if c == quote || c == '\\' then 2 else 1
    | _ => 1
  match cs.drop n with
  | '\r' :: '\n' :: _ => n + 2
  | '\r' :: _ => n + 1
  | '\n' :: _ => n + 1
  | _ => n

/-- Reads content. `inPiece` holds when the piece being read has a character already; every round
passes at least one character, so `fuel` need not exceed the length of the rest. -/
def readContent (d : Delimiter) : Nat → Bool → Bool → List ParseTree → Cursor → Content
  | 0, _, found, escapes, k => ⟨escapes.reverse, found, .broken, k⟩
  | fuel + 1, inPiece, found, escapes, k =>
    match k.rest with
    | [] => ⟨escapes.reverse, found, .broken, k⟩
    | c :: cs =>
      if c == '\x00' then ⟨escapes.reverse, found, .broken, k⟩
      else if d.format && (c == '\x7b' || c == '\x7d') then
        if cs.head? == some c then
          let escape := ParseTree.leaf (.construct .escapeInterpolation) k.position
          readContent d fuel false true (escape :: escapes) (k.skip 2)
        else if c == '\x7b' then ⟨escapes.reverse, found, .brace, k⟩
        else ⟨escapes.reverse, found, .broken, k⟩
      else if c == '\\' then
        if d.raw then readContent d fuel inPiece true escapes (k.skip (rawStep d.quote k.rest))
        else if d.bytes && (cs.head?.any fun x => x == 'N' || x == 'u' || x == 'U') then
          readContent d fuel true true escapes (k.skip 3)
        else
          let n := escapeLength k.rest
          if n == 0 then readContent d fuel false true escapes (k.skip 1)
          else
            let escape := ParseTree.leaf (.construct .escapeSequence) k.position
            readContent d fuel false true (escape :: escapes) (k.skip n)
      else if c == d.quote then
        if !d.triple then ⟨escapes.reverse, found, .closed, k⟩
        else if cs.take 2 == [c, c] then ⟨escapes.reverse, found, .closed, k⟩
        else readContent d fuel false true escapes (k.skip 1)
      else if c == '\n' && inPiece && !d.triple then ⟨escapes.reverse, found, .broken, k⟩
      else readContent d fuel true true escapes (k.skip 1)

end CodeReview.Python
