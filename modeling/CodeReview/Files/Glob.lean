import CodeReview.Text.Line

/-!
# Globs

A glob is a pattern for paths. `?` stands for a byte and `*` for any bytes of one name, `**` for any
directories, brackets for one of some bytes, braces for alternatives, and a backslash makes the next
character literal. A glob matches a path as a whole.
-/

set_option autoImplicit false

namespace CodeReview.Files

/-- What a byte of a path may be. -/
inductive ByteClass
  | byte (b : UInt8)
  | notSlash
  | all
  | ranges (isNegated : Bool) (rs : List (UInt8 × UInt8))
deriving DecidableEq, Repr

/-- The byte of a slash. -/
def slash : UInt8 := 47

/-- Whether a byte is in a class. -/
def ByteClass.has : ByteClass → UInt8 → Bool
  | byte b, c => b == c
  | notSlash, c => c != slash
  | all, _ => true
  | ranges isNegated rs, c => (rs.any fun r => r.1 ≤ c && c ≤ r.2) != isNegated

/-- A glob. -/
inductive Glob
  | empty
  | one (k : ByteClass)
  | many (k : ByteClass)
  | seq (p q : Glob)
  | alt (p q : Glob)
deriving DecidableEq, Repr

namespace Glob

/-- Moves marks over any number of bytes of a class. A mark stands before each byte and after the
last; `carried` tells whether one is moved to here. -/
def moveMany (k : ByteClass) : Bool → List UInt8 → List Bool → List Bool
  | _, _, [] => []
  | carried, [], m :: _ => [m || carried]
  | carried, b :: bs, m :: ms =>
    let here := m || carried
    here :: moveMany k (here && k.has b) bs ms

/-- Moves marks over what the glob matches: a place is marked in the result if the glob matches the
bytes between a marked place and it. -/
def move : Glob → List UInt8 → List Bool → List Bool
  | empty, _, marks => marks
  | one k, bs, marks => false :: List.zipWith (fun b m => m && k.has b) bs marks
  | many k, bs, marks => moveMany k false bs marks
  | seq p q, bs, marks => q.move bs (p.move bs marks)
  | alt p q, bs, marks => List.zipWith (· || ·) (p.move bs marks) (q.move bs marks)

/-- Whether the glob matches the bytes as a whole. -/
def isMatch (p : Glob) (bs : List UInt8) : Bool :=
  (p.move bs (true :: bs.map fun _ => false)).getLast?.getD false

/-! ## Reading globs -/

/-- A part of a glob as it is written. -/
inductive Token
  | literal (c : Char)
  | any
  | star
  /-- Two stars at the start with a slash: any directories, or none. -/
  | leading
  /-- Two stars at the end after a slash: all that is within. -/
  | trailing
  /-- Two stars between slashes: any directories, or none. -/
  | between
  | set (isNegated : Bool) (rs : List (Char × Char))
  | group (p : Glob)

/-- The bytes of a character. -/
def charBytes (c : Char) : List UInt8 := (String.singleton c).toUTF8.toList

/-- A slash. -/
def slashGlob : Glob := one (.byte slash)

/-- The byte ranges for a range of characters: its ends are taken byte by byte. -/
def byteRanges (r : Char × Char) : List (UInt8 × UInt8) :=
  let low := charBytes r.1
  let high := charBytes r.2
  let same (b : UInt8) := (b, b)
  if r.1 = r.2 then low.map same
  else
    (low.dropLast.map same) ++
      (match low.getLast?, high.head? with
        | some a, some b => [(a, b)]
        | _, _ => []) ++
      high.tail.map same

/-- The glob for a part. -/
def ofToken : Token → Glob
  | .literal c => (charBytes c).foldr (fun b p => seq (one (.byte b)) p) empty
  | .any => one .notSlash
  | .star => many .notSlash
  | .leading => alt (alt empty slashGlob) (seq (many .all) slashGlob)
  | .trailing => seq slashGlob (many .all)
  | .between => alt slashGlob (seq slashGlob (seq (many .all) slashGlob))
  | .set isNegated rs => one (.ranges isNegated (rs.flatMap byteRanges))
  | .group p => p

/-- The glob for some parts. -/
def ofTokens (ts : List Token) : Glob := ts.foldr (fun t p => seq (ofToken t) p) empty

/-- An open brace: the alternatives before the current one, and the parts of the current one; both
latest first. -/
structure Branch where
  alternatives : List Glob
  tokens : List Token

/-- Adds a part to the current alternative. -/
def Branch.add (g : Branch) (t : Token) : Branch := { g with tokens := t :: g.tokens }

/-- Ends the current alternative. -/
def Branch.next (g : Branch) : Branch := ⟨ofTokens g.tokens.reverse :: g.alternatives, []⟩

/-- The glob for a closed brace. -/
def Branch.close (g : Branch) : Glob :=
  g.alternatives.foldl (fun p q => alt q p) (ofTokens g.tokens.reverse)

/-- Reads the characters between brackets after the first; `sofar` holds the ranges before, latest
first, and `isOpen` tells whether a dash waits for the end of a range. -/
def readSet (isNegated : Bool) :
    Bool → Bool → List (Char × Char) → List Char → Option (Token × List Char)
  | _, _, _, [] => none
  | isFirst, isOpen, sofar, c :: rest =>
    if c = ']' ∧ !isFirst then
      let rs := if isOpen then ('-', '-') :: sofar else sofar
      some (.set isNegated rs.reverse, rest)
    else if c = '-' ∧ !isFirst ∧ !isOpen then readSet isNegated false true sofar rest
    else
      match isOpen, sofar with
      | true, (a, _) :: before =>
        if c < a then none else readSet isNegated false false ((a, c) :: before) rest
      | _, _ => readSet isNegated false false ((c, c) :: sofar) rest

/-- Reads a set after its bracket. -/
def readBrackets (cs : List Char) : Option (Token × List Char) :=
  match cs with
  | c :: rest =>
    if c = '!' ∨ c = '^' then readSet true true false [] rest else readSet false true false [] cs
  | [] => none

/-- Adds two stars to the current alternative, given the character before them and whether a brace
is open; also gives the rest after the slash that belongs to them, if there is one. -/
def addStars (g : Branch) (before : Option Char) (isNested : Bool) (cs : List Char) :
    Branch × List Char :=
  let twice := (g.add .star).add .star
  match g.tokens with
  | [] =>
    match cs with
    | [] => (g.add .leading, [])
    | '/' :: rest => (g.add .leading, rest)
    | _ => (twice, cs)
  | last :: tokens =>
    if before ≠ some '/' then (twice, cs)
    else
      let replaced (t : Token) : Branch :=
        match last with
        | .leading => g
        | .trailing => g
        | _ => { g with tokens := t :: tokens }
      match cs with
      | [] => (replaced .trailing, [])
      | '/' :: rest => (replaced .between, rest)
      | c :: _ =>
        if isNested ∧ (c = ',' ∨ c = '\x7d') then (replaced .trailing, cs) else (twice, cs)

/-- Reads a glob. The open braces are kept innermost first; the last of them is the whole glob.
`before` is the character read last. -/
def readFrom : Nat → Option Char → List Branch → List Char → Option Branch
  | 0, _, _, _ => none
  | _ + 1, _, [], _ => none
  | _ + 1, _, [g], [] => some g
  | _ + 1, _, _ :: _ :: _, [] => none
  | fuel + 1, before, g :: outer, c :: cs =>
    let goOn (g : Branch) (cs : List Char) := readFrom fuel (some c) (g :: outer) cs
    if c = '?' then goOn (g.add .any) cs
    else if c = '*' then
      match cs with
      | '*' :: rest =>
        let (g, rest') := addStars g before (!outer.isEmpty) rest
        readFrom fuel (if rest'.length < rest.length then some '/' else some '*') (g :: outer) rest'
      | _ => goOn (g.add .star) cs
    else if c = '[' then
      match readBrackets cs with
      | some (t, rest) => readFrom fuel (some ']') (g.add t :: outer) rest
      | none => none
    else if c = '\x7b' then readFrom fuel (some c) (⟨[], []⟩ :: g :: outer) cs
    else if c = '\x7d' then
      match outer with
      | h :: rest => readFrom fuel (some c) (h.add (.group g.close) :: rest) cs
      | [] => none
    else if c = ',' ∧ !outer.isEmpty then goOn g.next cs
    else if c = '\\' then
      match cs with
      | d :: rest => readFrom fuel (some d) (g.add (.literal d) :: outer) rest
      | [] => none
    else goOn (g.add (.literal c)) cs

/-- Reads a glob. One that consists of two stars matches everything. -/
def read (text : List Char) : Option Glob :=
  (readFrom (text.length + 1) none [⟨[], []⟩] text).map fun g =>
    match g.tokens with
    | [.leading] => many .all
    | ts => ofTokens ts.reverse

end Glob

end CodeReview.Files
