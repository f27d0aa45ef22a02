import CodeReview.Json.Value
import CodeReview.Text.Hex

/-!
# Printing JSON

A value is printed over several lines: each item of an array and each member of an object stands on
a line of its own, two blanks further to the right than what holds it. An array without items and
an object without members have nothing between their brackets.
-/

set_option autoImplicit false

namespace CodeReview.Json

/-- A character as it is written between quotes: quotes, backslashes and control characters have
escapes, and all else stands for itself. -/
def quotedChar (c : Char) : List Char :=
  if c = '"' then ['\\', '"']
  else if c = '\\' then ['\\', '\\']
  else if c = '\n' then ['\\', 'n']
  else if c = '\r' then ['\\', 'r']
  else if c = '\t' then ['\\', 't']
  else if c = '\x08' then ['\\', 'b']
  else if c = '\x0c' then ['\\', 'f']
  else if c.toNat < 32 then
    ['\\', 'u', '0', '0', Text.hexDigit (c.toNat / 16), Text.hexDigit (c.toNat % 16)]
  else [c]

/-- A text in quotes. -/
def quoted (text : String) : List Char := '"' :: text.toList.flatMap quotedChar ++ ['"']

/-- A new line at a depth of nesting. -/
def newLine (depth : Nat) : List Char := '\n' :: List.replicate (2 * depth) ' '

mutual

/-- The text of a value at a depth of nesting. -/
def write (depth : Nat) : Json → List Char
  | null => ['n', 'u', 'l', 'l']
  | bool b => if b then ['t', 'r', 'u', 'e'] else ['f', 'a', 'l', 's', 'e']
  | number numeral => numeral.toList
  | string text => quoted text
  | array [] => ['[', ']']
  | array (item :: items) =>
    '[' :: newLine (depth + 1) ++ write (depth + 1) item ++ writeItems (depth + 1) items ++
      newLine depth ++ [']']
  | object [] => ['\x7b', '\x7d']
  | object (member :: members) =>
    '\x7b' :: newLine (depth + 1) ++ writeMember (depth + 1) member ++
      writeMembers (depth + 1) members ++ newLine depth ++ ['\x7d']
  | unreadable => ['"', '\\', 'u', 'd', '8', '0', '0', '"']

/-- The text of a member. -/
def writeMember (depth : Nat) : String × Json → List Char
  | (name, value) => quoted name ++ ':' :: ' ' :: write depth value

/-- The text of the items after the first. -/
def writeItems (depth : Nat) : List Json → List Char
  | [] => []
  | item :: items => ',' :: newLine depth ++ write depth item ++ writeItems depth items

/-- The text of the members after the first. -/
def writeMembers (depth : Nat) : List (String × Json) → List Char
  | [] => []
  | member :: members =>
    ',' :: newLine depth ++ writeMember depth member ++ writeMembers depth members

end

/-- The text of a value. -/
def print (value : Json) : String := String.ofList (write 0 value)

end CodeReview.Json
