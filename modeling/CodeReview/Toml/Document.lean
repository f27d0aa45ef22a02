import CodeReview.Toml.Scalar

/-!
# Reading TOML

A document is a sequence of lines with entries and headers. `parse` gives the table of all entries,
or nothing if the text is not of the format.
-/

set_option autoImplicit false

namespace CodeReview.Toml

/-! ## Keys -/

/-- Reads one part of a key. -/
def readName (cs : List Char) : Option (String × List Char) :=
  match cs with
  | c :: _ =>
    if c = '"' ∨ c = '\'' then (readLineString cs).map fun (n, rest) => (String.ofList n, rest)
    else
      match cs.span isBare with
      | ([], _) => none
      | (n, rest) => some (String.ofList n, rest)
  | [] => none

/-- The largest number of parts of a key, and of brackets that are open at a time. -/
def depthLimit : Nat := 79

/-- Reads the parts of a key, with blanks around each; `left` more may follow. -/
def readNames : Nat → List Char → Option (List String × List Char)
  | 0, _ => none
  | left + 1, cs =>
    match readName (skipSpace cs) with
    | none => none
    | some (name, rest) =>
      match skipSpace rest with
      | '.' :: rest => (readNames left rest).map fun (names, rest) => (name :: names, rest)
      | rest => some ([name], rest)

/-- Reads a key, as the path before its last part and that part. -/
def readKey (cs : List Char) : Option (List String × String × List Char) :=
  match readNames depthLimit cs with
  | some (names, rest) => names.getLast?.map fun name => (names.dropLast, name, rest)
  | none => none

/-! ## Values -/

/-- The rest after a comment; there may be none. -/
def skipComment (cs : List Char) : List Char :=
  match cs with
  | '#' :: rest => rest.dropWhile isPlain
  | _ => cs

/-- Drops blanks, comments and line ends. -/
def skipGap : Nat → List Char → List Char
  | 0, cs => cs
  | fuel + 1, cs =>
    let rest := skipComment (skipSpace cs)
    match newline? rest with
    | some rest => skipGap fuel rest
    | none => rest

mutual

/-- Reads a value; `depth` more brackets may be opened. -/
def readValue : Nat → Nat → List Char → Option (Toml × List Char)
  | 0, _, _ => none
  | fuel + 1, depth, cs =>
    match cs with
    | '"' :: _ | '\'' :: _ => (readString cs).map fun (s, rest) => (.string (String.ofList s), rest)
    | '[' :: rest => if depth = 0 then none else readItems fuel (depth - 1) [] rest
    | '\x7b' :: rest =>
      if depth = 0 then none
      else
        match skipSpace rest with
        | '\x7d' :: rest => some (.table .inline [], rest)
        | rest => readEntries fuel (depth - 1) ⟨.inline, []⟩ rest
    | _ => readScalar cs

/-- Reads the items of an array from the next one on; `sofar` holds those before, latest first. -/
def readItems : Nat → Nat → List Toml → List Char → Option (Toml × List Char)
  | 0, _, _, _ => none
  | fuel + 1, depth, sofar, cs =>
    match skipGap fuel cs with
    | ']' :: rest => some (.array sofar.reverse, rest)
    | cs =>
      match readValue fuel depth cs with
      | none => none
      | some (item, rest) =>
        match skipGap fuel rest with
        | ',' :: rest => readItems fuel depth (item :: sofar) rest
        | ']' :: rest => some (.array (item :: sofar).reverse, rest)
        | _ => none

/-- Reads the entries of a table between braces from the next one on; `t` holds those before. -/
def readEntries : Nat → Nat → Table → List Char → Option (Toml × List Char)
  | 0, _, _, _ => none
  | fuel + 1, depth, t, cs =>
    match readKey cs with
    | some (path, name, '=' :: rest) =>
      match readValue fuel depth (skipSpace rest) with
      | none => none
      | some (value, rest) =>
        match t.addKey path name value with
        | none => none
        | some t =>
          match skipSpace rest with
          | ',' :: rest => readEntries fuel depth t rest
          | '\x7d' :: rest => some (t.toValue, rest)
          | _ => none
    | _ => none

end

/-! ## Documents -/

/-- The rest after the end of a line, before which only blanks and a comment may stand. -/
def endLine? (cs : List Char) : Option (List Char) :=
  match skipComment (skipSpace cs) with
  | [] => some []
  | rest => newline? rest

/-- What was read of a document, and the path of the header that holds for the next entries. -/
structure Progress where
  root : Table
  path : List String

/-- Adds an entry below the current header. -/
def Progress.add (p : Progress) (path : List String) (name : String) (value : Toml) :
    Option Progress :=
  (p.root.alter false (Table.addKey path name value) p.path).map fun root => { p with root }

/-- Begins a header. -/
def Progress.enter (p : Progress) (isRepeated : Bool) (path : List String) (name : String) :
    Option Progress :=
  let change := if isRepeated then Table.openItem name else Table.openTable name
  (p.root.alter false change path).map fun root => ⟨root, path ++ [name]⟩

/-- Reads a header or an entry with the end of its line. -/
def readLine (p : Progress) (cs : List Char) : Option (Progress × List Char) :=
  match cs with
  | '[' :: '[' :: rest =>
    match readKey rest with
    | some (path, name, ']' :: ']' :: rest) => do
      return (← p.enter true path name, ← endLine? rest)
    | _ => none
  | '[' :: rest =>
    match readKey rest with
    | some (path, name, ']' :: rest) => do
      return (← p.enter false path name, ← endLine? rest)
    | _ => none
  | _ =>
    match readKey cs with
    | some (path, name, '=' :: rest) => do
      let rest := skipSpace rest
      let (value, rest) ← readValue (2 * rest.length + 2) depthLimit rest
      return (← p.add path name value, ← endLine? rest)
    | _ => none

/-- Reads all lines. -/
def readLines : Nat → Progress → List Char → Option Progress
  | 0, _, _ => none
  | fuel + 1, p, cs =>
    match skipGap fuel cs with
    | [] => some p
    | cs =>
      match readLine p cs with
      | some (p, rest) => readLines fuel p rest
      | none => none

/-- Drops a mark of the byte order. -/
def skipMark : List Char → List Char
  | '\uFEFF' :: rest => rest
  | cs => cs

/-- The entries of a document. -/
def parse (text : String) : Option Entries :=
  let cs := skipMark text.toList
  (readLines (cs.length + 2) ⟨⟨.header, []⟩, []⟩ cs).map fun p => p.root.entries

end CodeReview.Toml
