/-!
# Lines

A text is a sequence of lines ended by a line feed. `lines` drops the ends, together with one
carriage return just before each, and has no empty last line; `rows` cuts at every line feed and
keeps all else. `trim` removes blanks (the Unicode class `White_Space`) from both ends.
-/

set_option autoImplicit false

namespace CodeReview.Text

/-- The Unicode class `White_Space`. -/
def isBlank (c : Char) : Bool :=
  let n := c.toNat
  (9 ≤ n && n ≤ 13) || n == 0x20 || n == 0x85 || n == 0xA0 || n == 0x1680 ||
    (0x2000 ≤ n && n ≤ 0x200A) || n == 0x2028 || n == 0x2029 || n == 0x202F || n == 0x205F ||
    n == 0x3000

/-- Removes blanks from the left end. -/
def trimLeft (cs : List Char) : List Char := cs.dropWhile isBlank

/-- Removes blanks from the right end. -/
def trimRight (cs : List Char) : List Char := (cs.reverse.dropWhile isBlank).reverse

/-- Removes blanks from both ends. -/
def trimChars (cs : List Char) : List Char := trimRight (trimLeft cs)

/-- Removes blanks from both ends of a text. -/
def trim (s : String) : String := String.ofList (trimChars s.toList)

/-- The pieces between the characters equal to `sep`; there is always at least one. -/
def splitChars (sep : Char) : List Char → List (List Char)
  | [] => [[]]
  | c :: cs =>
    match splitChars sep cs with
    | [] => [[]]
    | piece :: pieces => if c = sep then [] :: piece :: pieces else (c :: piece) :: pieces

/-- The pieces of a text between line feeds, one for each row. -/
def rows (cs : List Char) : List (List Char) := splitChars '\n' cs

/-- Drops one carriage return at the right end. -/
def dropReturn (cs : List Char) : List Char :=
  match cs.reverse with
  | '\r' :: rest => rest.reverse
  | _ => cs

/-- The lines among the rows: each but the last row was ended by a line feed, so it loses a
carriage return at its end; the last is kept as it is, unless it is empty. -/
def linesOfRows : List (List Char) → List (List Char)
  | [] => []
  | [last] => if last.isEmpty then [] else [last]
  | row :: rest => dropReturn row :: linesOfRows rest

/-- The lines of a text. -/
def lineChars (cs : List Char) : List (List Char) := linesOfRows (rows cs)

/-- The lines of a text, as texts. -/
def lines (s : String) : List String := (lineChars s.toList).map String.ofList

/-- Joins texts with a separator between neighbours. -/
def join (sep : String) (parts : List String) : String := String.intercalate sep parts

end CodeReview.Text
