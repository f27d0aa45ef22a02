import CodeReview.Toml.Value

/-!
# TOML scalars

Numbers, dates and times are read as a whole: first the longest run of characters that they are
made of, then its meaning. Strings are read character by character.
-/

set_option autoImplicit false

namespace CodeReview.Toml

open Number

/-! ## Characters -/

/-- Blanks within a line. -/
def isSpace (c : Char) : Bool := c == ' ' || c == '\t'

/-- A character that may stand in a comment or in a string. -/
def isPlain (c : Char) : Bool := c == '\t' || (32 ≤ c.toNat && c.toNat ≠ 127)

/-- A character of a name without quotes. -/
def isBare (c : Char) : Bool := c.isAlphanum || c == '_' || c == '-'

/-- Drops the blanks at the front. -/
def skipSpace (cs : List Char) : List Char := cs.dropWhile isSpace

/-- The rest after a line end, if one is next. -/
def newline? : List Char → Option (List Char)
  | '\n' :: rest => some rest
  | '\r' :: '\n' :: rest => some rest
  | _ => none

/-! ## Numbers -/

/-- A digit of a base. -/
def isDigitOf (base : Nat) (c : Char) : Bool :=
  if base = 16 then c.isDigit || ('a' ≤ c && c ≤ 'f') || ('A' ≤ c && c ≤ 'F')
  else c.isDigit && c.toNat < 48 + base

/-- The value of a hexadecimal digit. -/
def digitValue (c : Char) : Nat :=
  if c.isDigit then c.toNat - 48 else if 'a' ≤ c then c.toNat - 87 else c.toNat - 55

/-- The digits among digits and underlines, if each underline stands between two digits. -/
def digits? (base : Nat) : List Char → Option (List Char)
  | [] => none
  | [c] => if isDigitOf base c then some [c] else none
  | c :: '_' :: rest => if isDigitOf base c then (digits? base rest).map (c :: ·) else none
  | c :: rest => if isDigitOf base c then (digits? base rest).map (c :: ·) else none

/-- The number that digits stand for. -/
def digitsValue (base : Nat) (ds : List Char) : Nat :=
  ds.foldl (fun n c => n * base + digitValue c) 0

/-- Splits a sign off. -/
def splitSign : List Char → Bool × List Char
  | '-' :: rest => (true, rest)
  | '+' :: rest => (false, rest)
  | cs => (false, cs)

/-- The digits of a whole decimal number: no zero stands before another digit. -/
def whole? (cs : List Char) : Option (List Char) :=
  match cs with
  | '0' :: _ :: _ => none
  | _ => digits? 10 cs

/-- An integer with a sign, if it fits into 64 binary digits. -/
def checked? (negative : Bool) (n : Nat) : Option Toml :=
  let v : Int := if negative then -(n : Int) else n
  if Int64.minValue.toInt ≤ v ∧ v ≤ Int64.maxValue.toInt then some (.integer v) else none

/-- The meaning of an integer. -/
def integer? (cs : List Char) : Option Toml :=
  match cs with
  | '0' :: 'x' :: rest => (digits? 16 rest).bind fun ds => checked? false (digitsValue 16 ds)
  | '0' :: 'o' :: rest => (digits? 8 rest).bind fun ds => checked? false (digitsValue 8 ds)
  | '0' :: 'b' :: rest => (digits? 2 rest).bind fun ds => checked? false (digitsValue 2 ds)
  | _ =>
    let (negative, cs) := splitSign cs
    (whole? cs).bind fun ds => checked? negative (digitsValue 10 ds)

/-- The meaning of the exponent of a decimal number: empty, or with its letter. -/
def exponent? : List Char → Option Int
  | [] => some 0
  | c :: rest =>
    if c = 'e' ∨ c = 'E' then
      let (negative, cs) := splitSign rest
      (digits? 10 cs).map fun ds =>
        let n : Int := digitsValue 10 ds
        if negative then -n else n
    else none

/-- The meaning of the fraction of a decimal number: empty, or with its point. -/
def fraction? : List Char → Option (List Char)
  | [] => some []
  | '.' :: rest => digits? 10 rest
  | _ => none

/-- A decimal number as a value; it may not be too large for 64 binary digits, unless it is
negative. -/
def decimal? (negative : Bool) (d : Decimal) : Option Toml :=
  match (Floating.ofDecimal negative d).round double with
  | .infinite false => none
  | x => some (.float x)

/-- The meaning of a decimal number with a fraction or an exponent. -/
def float? (cs : List Char) : Option Toml := do
  let (negative, cs) := splitSign cs
  match cs with
  | ['i', 'n', 'f'] => return .float (.infinite negative)
  | ['n', 'a', 'n'] => return .float .nan
  | _ =>
    let (wholePart, rest) := cs.span fun c => c != '.' && c != 'e' && c != 'E'
    let (fractionPart, exponentPart) := rest.span fun c => c != 'e' && c != 'E'
    if rest.isEmpty then none
    else
      let ds ← whole? wholePart
      let fs ← fraction? fractionPart
      let e ← exponent? exponentPart
      decimal? negative ⟨digitsValue 10 (ds ++ fs), e - (fs.length : Int)⟩

/-! ## Dates and times -/

/-- The number of two digits, and the characters after them. -/
def twoDigits : List Char → Option (Nat × List Char)
  | a :: b :: rest =>
    if a.isDigit && b.isDigit then some (digitsValue 10 [a, b], rest) else none
  | _ => none

/-- The number of days of a month. -/
def daysIn (year month : Nat) : Nat :=
  if month = 2 then
    if year % 4 = 0 ∧ (year % 100 ≠ 0 ∨ year % 400 = 0) then 29 else 28
  else if [4, 6, 9, 11].contains month then 30
  else 31

/-- The characters after a date. -/
def afterDate? (cs : List Char) : Option (List Char) := do
  let (century, cs) ← twoDigits cs
  let (years, cs) ← twoDigits cs
  let '-' :: cs := cs | none
  let (month, cs) ← twoDigits cs
  let '-' :: cs := cs | none
  let (day, cs) ← twoDigits cs
  if 1 ≤ month ∧ month ≤ 12 ∧ 1 ≤ day ∧ day ≤ daysIn (century * 100 + years) month then some cs
  else none

/-- The characters after the fraction of a second, if there is one. -/
def afterFraction? : List Char → Option (List Char)
  | '.' :: cs =>
    match cs.span Char.isDigit with
    | ([], _) => none
    | (_, rest) => some rest
  | cs => some cs

/-- The characters after an hour and a minute. -/
def afterMinute? (cs : List Char) : Option (List Char) := do
  let (hour, cs) ← twoDigits cs
  let ':' :: cs := cs | none
  let (minute, cs) ← twoDigits cs
  if hour ≤ 23 ∧ minute ≤ 59 then some cs else none

/-- The characters after a time. -/
def afterTime? (cs : List Char) : Option (List Char) := do
  let ':' :: cs ← afterMinute? cs | none
  let (second, cs) ← twoDigits cs
  if second ≤ 60 then afterFraction? cs else none

/-- Whether the characters are an offset from the time at Greenwich, or none. -/
def isOffset : List Char → Bool
  | [] => true
  | c :: cs =>
    if c = 'Z' ∨ c = 'z' then cs.isEmpty
    else (c = '+' ∨ c = '-') && afterMinute? cs == some []

/-- Whether the characters are a date with a time, of which the latter may have an offset. -/
def isDateTime (cs : List Char) : Bool :=
  match afterDate? cs with
  | some (c :: rest) => (c = 'T' ∨ c = 't' ∨ c = ' ') && (afterTime? rest).any isOffset
  | _ => false

/-- Whether the characters are a date, a time or both. -/
def isMoment (cs : List Char) : Bool :=
  afterDate? cs == some [] || afterTime? cs == some [] || isDateTime cs

/-! ## Words -/

/-- A character of a number, a date, a time or a word. -/
def isScalarChar (c : Char) : Bool := c.isAlphanum || ['_', '+', '-', '.', ':'].contains c

/-- The meaning of a run of such characters. -/
def scalar? (cs : List Char) : Option Toml :=
  if cs = "true".toList then some (.bool true)
  else if cs = "false".toList then some (.bool false)
  else if isMoment cs then some (.moment (String.ofList cs))
  else (float? cs).or (integer? cs)

/-- Reads a value without quotes or brackets. A blank between a date and a time belongs to the
value. -/
def readScalar (cs : List Char) : Option (Toml × List Char) :=
  match cs.span isScalarChar with
  | (word, ' ' :: rest) =>
    let (next, after) := rest.span isScalarChar
    if isDateTime (word ++ ' ' :: next) then
      some (.moment (String.ofList (word ++ ' ' :: next)), after)
    else (scalar? word).map fun v => (v, ' ' :: rest)
  | (word, rest) => (scalar? word).map fun v => (v, rest)

/-! ## Strings -/

/-- The character with a number written in hexadecimal digits, if there is one. -/
def coded? (ds : List Char) : Option Char :=
  let n := digitsValue 16 ds
  if ds.all (isDigitOf 16) ∧ (n < 0xD800 ∨ (0xDFFF < n ∧ n ≤ 0x10FFFF)) then some (Char.ofNat n)
  else none

/-- Reads what stands after a backslash. -/
def readEscape : List Char → Option (Char × List Char)
  | '"' :: rest => some ('"', rest)
  | '\\' :: rest => some ('\\', rest)
  | 'b' :: rest => some ('\x08', rest)
  | 'f' :: rest => some ('\x0c', rest)
  | 'n' :: rest => some ('\n', rest)
  | 'r' :: rest => some ('\r', rest)
  | 't' :: rest => some ('\t', rest)
  | 'u' :: rest =>
    if rest.length < 4 then none else (coded? (rest.take 4)).map fun c => (c, rest.drop 4)
  | 'U' :: rest =>
    if rest.length < 8 then none else (coded? (rest.take 8)).map fun c => (c, rest.drop 8)
  | _ => none

/-- Reads the rest of a string in double quotes; `sofar` holds the characters before, latest
first. -/
def readBasic : Nat → List Char → List Char → Option (List Char × List Char)
  | 0, _, _ => none
  | _ + 1, _, [] => none
  | fuel + 1, sofar, c :: rest =>
    if c = '"' then some (sofar.reverse, rest)
    else if c = '\\' then
      match readEscape rest with
      | some (d, rest) => readBasic fuel (d :: sofar) rest
      | none => none
    else if isPlain c then readBasic fuel (c :: sofar) rest
    else none

/-- Reads the rest of a string in single quotes. -/
def readLiteral (cs : List Char) : Option (List Char × List Char) :=
  match cs.span fun c => c != '\'' && isPlain c with
  | (text, '\'' :: rest) => some (text, rest)
  | _ => none

/-- Ends a string in triple quotes, of which up to two more belong to the string. -/
def closeTriple (quote : Char) (sofar rest : List Char) : List Char × List Char :=
  let extra := (rest.take 2).takeWhile (· == quote)
  (sofar.reverse ++ extra, rest.drop extra.length)

/-- Drops blanks and line ends. -/
def skipBlankLines : List Char → List Char
  | '\r' :: '\n' :: rest => skipBlankLines rest
  | c :: rest => if isSpace c || c == '\n' then skipBlankLines rest else c :: rest
  | [] => []

/-- The rest after a backslash at the end of a line, with all blanks and line ends after it. -/
def skipFold? (cs : List Char) : Option (List Char) :=
  (newline? (skipSpace cs)).map skipBlankLines

/-- Reads the rest of a string in three quotes; only one in double quotes has escapes. -/
def readTriple (quote : Char) : Nat → List Char → List Char → Option (List Char × List Char)
  | 0, _, _ => none
  | _ + 1, _, [] => none
  | fuel + 1, sofar, c :: rest =>
    if c = quote then
      match rest with
      | d :: e :: rest' =>
        if d = quote ∧ e = quote then some (closeTriple quote sofar rest')
        else readTriple quote fuel (c :: sofar) rest
      | _ => none
    else if c = '\\' ∧ quote = '"' then
      match skipFold? rest with
      | some rest => readTriple quote fuel sofar rest
      | none =>
        match readEscape rest with
        | some (d, rest) => readTriple quote fuel (d :: sofar) rest
        | none => none
    else
      match newline? (c :: rest) with
      | some rest => readTriple quote fuel ('\n' :: sofar) rest
      | none => if isPlain c then readTriple quote fuel (c :: sofar) rest else none

/-- Reads a string on one line. -/
def readLineString (cs : List Char) : Option (List Char × List Char) :=
  match cs with
  | '"' :: rest => readBasic (rest.length + 1) [] rest
  | '\'' :: rest => readLiteral rest
  | _ => none

/-- Reads a string. A line end just after three quotes does not count. -/
def readString (cs : List Char) : Option (List Char × List Char) :=
  match cs with
  | '"' :: '"' :: '"' :: rest => readTriple '"' (rest.length + 1) [] ((newline? rest).getD rest)
  | '\'' :: '\'' :: '\'' :: rest =>
    readTriple '\'' (rest.length + 1) [] ((newline? rest).getD rest)
  | _ => readLineString cs

end CodeReview.Toml
