import CodeReview.Json.Value

/-!
# Reading JSON

`parse` reads a whole text. Each reader takes the characters that are left and gives what it read
with the rest, or nothing if the text is not of the format.
-/

set_option autoImplicit false

namespace CodeReview.Json

/-- The characters that may stand between the parts of a value. -/
def isSpace (c : Char) : Bool := c == ' ' || c == '\n' || c == '\t' || c == '\r'

/-- Drops the space at the front. -/
def skipSpace (cs : List Char) : List Char := cs.dropWhile isSpace

/-! ## Numbers -/

/-- Reads digits, at least one. -/
def readDigits (cs : List Char) : Option (List Char × List Char) :=
  match cs.span Char.isDigit with
  | ([], _) => none
  | (digits, rest) => some (digits, rest)

/-- Reads the digits before the point: a zero stands alone. -/
def readWhole : List Char → Option (List Char × List Char)
  | '0' :: rest => if rest.head?.any Char.isDigit then none else some (['0'], rest)
  | cs => readDigits cs

/-- Reads the point and the digits after it, if there is a point. -/
def readFraction : List Char → Option (List Char × List Char)
  | '.' :: rest => (readDigits rest).map fun (ds, rest) => ('.' :: ds, rest)
  | cs => some ([], cs)

/-- Reads the sign of an exponent, if there is one. -/
def readSign : List Char → List Char × List Char
  | '+' :: rest => (['+'], rest)
  | '-' :: rest => (['-'], rest)
  | cs => ([], cs)

/-- Reads the exponent, if there is one. -/
def readExponent : List Char → Option (List Char × List Char)
  | c :: rest =>
    if c = 'e' ∨ c = 'E' then
      let (sign, rest) := readSign rest
      (readDigits rest).map fun (ds, rest) => (c :: sign ++ ds, rest)
    else some ([], c :: rest)
  | [] => some ([], [])

/-- Reads the minus of a number, if there is one. -/
def readMinus : List Char → List Char × List Char
  | '-' :: rest => (['-'], rest)
  | cs => ([], cs)

/-- Reads a number. -/
def readNumber (cs : List Char) : Option (List Char × List Char) := do
  let (minus, cs) := readMinus cs
  let (whole, cs) ← readWhole cs
  let (fraction, cs) ← readFraction cs
  let (exponent, cs) ← readExponent cs
  return (minus ++ whole ++ fraction ++ exponent, cs)

/-! ## Strings -/

/-- The value of a hexadecimal digit. -/
def hexValue? (c : Char) : Option Nat :=
  let n := c.toNat
  if '0' ≤ c ∧ c ≤ '9' then some (n - 48)
  else if 'a' ≤ c ∧ c ≤ 'f' then some (n - 87)
  else if 'A' ≤ c ∧ c ≤ 'F' then some (n - 55)
  else none

/-- Reads the four digits of an escape. -/
def readHex : List Char → Option (Nat × List Char)
  | a :: b :: c :: d :: rest => do
    let a ← hexValue? a
    let b ← hexValue? b
    let c ← hexValue? c
    let d ← hexValue? d
    return (((a * 16 + b) * 16 + c) * 16 + d, rest)
  | _ => none

/-- Whether a number is the first half of a surrogate pair. -/
def isHigh (n : Nat) : Bool := 0xD800 ≤ n && n ≤ 0xDBFF

/-- Whether a number is the second half of a surrogate pair. -/
def isLow (n : Nat) : Bool := 0xDC00 ≤ n && n ≤ 0xDFFF

/-- The character of a surrogate pair. -/
def pairChar (high low : Nat) : Char :=
  Char.ofNat (0x10000 + (high - 0xD800) * 0x400 + (low - 0xDC00))

/-- The character that a letter after a backslash stands for. -/
def escaped? (c : Char) : Option Char :=
  match c with
  | '"' => some '"'
  | '\\' => some '\\'
  | '/' => some '/'
  | 'b' => some '\x08'
  | 'f' => some '\x0c'
  | 'n' => some '\n'
  | 'r' => some '\r'
  | 't' => some '\t'
  | _ => none

/-- Reads the rest of a string after its first quote. `sofar` holds the characters before, latest
first, or nothing once half of a surrogate pair was met. -/
def readChars : Nat → Option (List Char) → List Char → Option (Option (List Char) × List Char)
  | 0, _, _ => none
  | _ + 1, _, [] => none
  | _ + 1, sofar, '"' :: rest => some (sofar.map List.reverse, rest)
  | fuel + 1, sofar, '\\' :: 'u' :: rest => do
    let (n, rest) ← readHex rest
    if isHigh n then
      match rest with
      | '\\' :: 'u' :: rest' =>
        let (m, rest'') ← readHex rest'
        if isLow m then readChars fuel (sofar.map (pairChar n m :: ·)) rest''
        else readChars fuel none rest
      | _ => readChars fuel none rest
    else if isLow n then readChars fuel none rest
    else readChars fuel (sofar.map (Char.ofNat n :: ·)) rest
  | fuel + 1, sofar, '\\' :: c :: rest => do
    let d ← escaped? c
    readChars fuel (sofar.map (d :: ·)) rest
  | fuel + 1, sofar, c :: rest =>
    if c = '\\' ∨ c.toNat < 32 then none else readChars fuel (sofar.map (c :: ·)) rest

/-- Reads the rest of a string after its first quote. -/
def readString (fuel : Nat) (cs : List Char) : Option (Option String × List Char) :=
  (readChars fuel (some []) cs).map fun (text, rest) => (text.map String.ofList, rest)

/-! ## Values -/

/-- The object for members, if all their names can be read. -/
def ofMembers (members : List (Option String × Json)) : Json :=
  match members.mapM fun m => m.1.map fun name => (name, m.2) with
  | some ms => object ms
  | none => unreadable

mutual

/-- Reads a value. -/
def readValue : Nat → List Char → Option (Json × List Char)
  | 0, _ => none
  | fuel + 1, cs =>
    match skipSpace cs with
    | 'n' :: 'u' :: 'l' :: 'l' :: rest => some (null, rest)
    | 't' :: 'r' :: 'u' :: 'e' :: rest => some (bool true, rest)
    | 'f' :: 'a' :: 'l' :: 's' :: 'e' :: rest => some (bool false, rest)
    | '"' :: rest =>
      (readString fuel rest).map fun (text, rest) => (text.elim unreadable string, rest)
    | '[' :: rest =>
      match skipSpace rest with
      | ']' :: rest => some (array [], rest)
      | rest => readItems fuel [] rest
    | '\x7b' :: rest =>
      match skipSpace rest with
      | '\x7d' :: rest => some (object [], rest)
      | rest => readMembers fuel [] rest
    | rest => (readNumber rest).map fun (numeral, rest) => (number (String.ofList numeral), rest)

/-- Reads the items of an array from the next one on; `sofar` holds those before, latest first. -/
def readItems : Nat → List Json → List Char → Option (Json × List Char)
  | 0, _, _ => none
  | fuel + 1, sofar, cs =>
    match readValue fuel cs with
    | none => none
    | some (item, rest) =>
      match skipSpace rest with
      | ',' :: rest => readItems fuel (item :: sofar) rest
      | ']' :: rest => some (array (item :: sofar).reverse, rest)
      | _ => none

/-- Reads the members of an object from the next one on; `sofar` holds those before, latest
first. -/
def readMembers : Nat → List (Option String × Json) → List Char → Option (Json × List Char)
  | 0, _, _ => none
  | fuel + 1, sofar, cs =>
    match skipSpace cs with
    | '"' :: rest =>
      match readString fuel rest with
      | none => none
      | some (name, rest) =>
        match skipSpace rest with
        | ':' :: rest =>
          match readValue fuel rest with
          | none => none
          | some (value, rest) =>
            match skipSpace rest with
            | ',' :: rest => readMembers fuel ((name, value) :: sofar) rest
            | '\x7d' :: rest => some (ofMembers ((name, value) :: sofar).reverse, rest)
            | _ => none
        | _ => none
    | _ => none

end

/-- Reads a text that holds one value and space around it. -/
def parse (text : String) : Option Json :=
  let cs := text.toList
  match readValue (2 * cs.length + 2) cs with
  | some (value, rest) => if (skipSpace rest).isEmpty then some value else none
  | none => none

end CodeReview.Json
