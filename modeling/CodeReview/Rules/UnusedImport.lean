import CodeReview.Rules.Line
import Std.Data.HashMap

/-!
# Unused imports

An import binds names. A name is unused when every word of the file equal to it stands on the line
that binds it. Only the first line of an import that goes over several is looked at.
-/

set_option autoImplicit false

namespace CodeReview.Rules

open Text

/-- The longest runs of characters of a kind; `run` holds the characters of the one that is open,
latest first. -/
def runsFrom (kind : Char → Bool) : List Char → List Char → List (List Char)
  | run, [] => if run.isEmpty then [] else [run.reverse]
  | run, c :: cs =>
    if kind c then runsFrom kind (c :: run) cs
    else if run.isEmpty then runsFrom kind [] cs
    else run.reverse :: runsFrom kind [] cs

/-- The longest runs of characters of a kind. -/
def runs (kind : Char → Bool) (cs : List Char) : List (List Char) := runsFrom kind [] cs

/-- The words of a line. -/
def wordsOf (line : String) : List String := (runs isWord line.toList).map String.ofList

/-- The pieces of a text between blanks. -/
def fields (cs : List Char) : List (List Char) := runs (fun c => !isBlank c) cs

/-- The name after `as` in an item with the given pieces, if there is one. -/
def givenName? (pieces : List (List Char)) : Option (List Char) :=
  match pieces with
  | _ :: word :: newName :: _ => if word == "as".toList then some newName else none
  | _ => none

/-- What an item of `import …` binds: the name after `as`, or else the module up to its first
point. -/
def boundModule (item : List Char) : Option (List Char) :=
  let pieces := fields item
  pieces.head?.map fun first => (givenName? pieces).getD (first.takeWhile (· != '.'))

/-- What an item of `from … import …` binds: the name after `as`, or else the member; a star binds
nothing. -/
def boundMember (item : List Char) : Option (List Char) :=
  let pieces := fields item
  pieces.head?.bind fun first =>
    if first == ['*'] then none else some ((givenName? pieces).getD first)

/-- What is imported: the rest after `import` and at least one blank. -/
def afterImport? (cs : List Char) : Option (List Char) := do
  let cs ← after? "import".toList cs
  guard (1 < cs.length)
  afterBlanks? cs

/-- A character of the path of a module. -/
def isPathChar (c : Char) : Bool := isWord c || c == '.'

/-- The items of `from … import …` on a line. -/
def fromItems? (line : List Char) : Option (List Char) := do
  let cs ← after? "from".toList (trimLeft line)
  let cs ← afterBlanks? cs
  let rest := cs.dropWhile isPathChar
  guard (rest.length < cs.length)
  let cs ← afterBlanks? rest
  afterImport? cs

/-- The items of `import …` on a line. -/
def importItems? (line : List Char) : Option (List Char) := afterImport? (trimLeft line)

/-- Removes characters from both ends. -/
def strip (p : Char → Bool) (cs : List Char) : List Char :=
  ((cs.dropWhile p).reverse.dropWhile p).reverse

/-- What may stand around an item: a parenthesis or a blank. -/
def isMargin (c : Char) : Bool := c == '(' || c == ')' || isBlank c

/-- What may stand around a list: the same, or the backslash at the end of a line that goes on. -/
def isListMargin (c : Char) : Bool := isMargin c || c == '\\'

/-- The items of a list, without what stands around them. -/
def itemsOf (list : List Char) : List (List Char) :=
  ((splitChars ',' list).map (strip isMargin)).filter fun p => !p.isEmpty

/-- The names that a list of items binds. -/
def boundNames (bind : List Char → Option (List Char)) (items : List Char) :
    List (List Char) :=
  let list := strip isListMargin (items.takeWhile (· != '#'))
  ((itemsOf list).filterMap bind).filter fun name => name.all fun c => isAlphanumeric c || c == '_'

/-- The names that the import statement on a line binds, if there is one. -/
def importedNames (line : String) : List String :=
  let cs := line.toList
  let names :=
    match fromItems? cs with
    | some items => boundNames boundMember items
    | none =>
      match importItems? cs with
      | some items => boundNames boundModule items
      | none => []
  names.map String.ofList

/-- How often each word occurs in some lines. -/
def countWords (lines : List String) : Std.HashMap String Nat :=
  lines.foldl (fun m line => (wordsOf line).foldl (fun m w => m.insert w (m.getD w 0 + 1)) m) ∅

/-- Whether a name bound on the given line occurs nowhere else. -/
def isUnused (counts : Std.HashMap String Nat) (line name : String) : Bool :=
  counts.getD name 0 ≤ (wordsOf line).count name

/-- A name that an import binds, with the number of its line. -/
structure ImportedName where
  name : String
  line : Nat
deriving DecidableEq, Repr

/-- The names that the imports of a unit bind. -/
def imports (u : SourceUnit) : List ImportedName :=
  u.numberedLines.flatMap fun l => (importedNames l.2).map fun name => ⟨name, l.1⟩

/-- The finding on a name that is bound on a line. -/
def importFinding (name : String) (line : Nat × String) : Finding :=
  Rule.lineFinding "unused-import" .style ("Unused import \x60" ++ name ++ "\x60") line

/-- The finding on an imported name, if it is unused by the counts of the words of the unit. -/
def unusedFinding? (u : SourceUnit) (counts : Std.HashMap String Nat) (i : ImportedName) :
    Option Finding :=
  (u.line? i.line).bind fun declaration =>
    if isUnused counts declaration i.name then some (importFinding i.name (i.line, declaration))
    else none

/-- The findings on unused imports. -/
def checkImports (u : SourceUnit) : List Finding :=
  match imports u with
  | [] => []
  | found =>
    let counts := countWords u.lines
    found.filterMap (unusedFinding? u counts)

/-- An imported name that nothing uses. -/
def unusedImport : Rule where
  name := "unused-import"
  description := "Detects imports whose bound name never appears elsewhere in the file"
  category := .style
  check := checkImports

/-- The battery of rules that a review runs. -/
def standard : List Rule :=
  [hardcodedSecret, unsafeCall, missingReturnAnnotation, unusedImport]

end CodeReview.Rules
