/-!
# Styled text

A text of pieces, each with styles for a terminal. `plain` drops the styles, `colored` writes them
as escape sequences, and `dropStyles` removes such sequences from a text.
-/

set_option autoImplicit false

namespace CodeReview.Report

/-- A style for a piece of text. -/
inductive Style
  | red
  | green
  | yellow
  | blue
  | cyan
  /-- A color of the table of 256. -/
  | shade (index : Nat)
  | bold
  | dim
deriving DecidableEq, Repr

/-- The number of a style. -/
def Style.code : Style → String
  | red => "31"
  | green => "32"
  | yellow => "33"
  | blue => "34"
  | cyan => "36"
  | shade index => "38;5;" ++ toString index
  | bold => "1"
  | dim => "2"

/-- A piece of text with styles. -/
structure Piece where
  styles : List Style
  text : String
deriving DecidableEq, Repr

/-- A text with styles. -/
abbrev Styled := List Piece

/-- A text without styles. -/
def plainText (text : String) : Styled := [⟨[], text⟩]

/-- A text with styles. -/
def styledText (styles : List Style) (text : String) : Styled := [⟨styles, text⟩]

namespace Styled

/-- Texts one after another. -/
def join (parts : List Styled) : Styled := parts.flatten

/-- The characters of the pieces. -/
def plainChars (s : Styled) : List Char := s.flatMap fun p => p.text.toList

/-- The sequence for the number of a style. -/
def sequence (code : String) : List Char := '\x1b' :: '[' :: code.toList ++ ['m']

/-- A piece between the sequences for its styles and one that ends them. -/
def coloredPiece (p : Piece) : List Char :=
  p.styles.flatMap (fun s => sequence s.code) ++ p.text.toList ++
    if p.styles.isEmpty then [] else sequence "0"

/-- The characters of the pieces with the sequences for their styles. -/
def coloredChars (s : Styled) : List Char := s.flatMap coloredPiece

/-- The text without styles. -/
def plain (s : Styled) : String := String.ofList s.plainChars

/-- The text with sequences for its styles. -/
def colored (s : Styled) : String := String.ofList s.coloredChars

end Styled

/-- Removes all sequences that begin with an escape and a bracket and go up to the next `m`;
`inside` tells whether such a sequence has begun. -/
def dropStyles : (inside : Bool) → List Char → List Char
  | _, [] => []
  | true, c :: cs => dropStyles (c != 'm') cs
  | false, '\x1b' :: '[' :: cs => dropStyles true cs
  | false, c :: cs => c :: dropStyles false cs

end CodeReview.Report
