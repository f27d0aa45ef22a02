import CodeReview.Files.Glob
import CodeReview.Files.Tree

/-!
# Ignored files

A directory may hold files with rules on what a search is to leave out. The rules of a directory
hold for all that is within it; nearer directories and later rules come first. Rules of a version
control system hold only within a repository of it, and not beyond its top.
-/

set_option autoImplicit false

namespace CodeReview.Files

/-- A rule for paths within a directory. -/
structure IgnoreRule where
  glob : Glob
  /-- Whether the rule takes paths back in. -/
  isKept : Bool
  /-- Whether the rule is for directories alone. -/
  isForDirectories : Bool
deriving DecidableEq, Repr

namespace IgnoreRule

/-- Drops the blanks at the right end of a line, unless the last one has a backslash. -/
def trimLine (line : List Char) : List Char :=
  match line.reverse with
  | ' ' :: '\\' :: _ => line
  | _ => Text.trimRight line

/-- Splits the marks off the front of a line: whether it takes paths back in, and whether it is for
paths from the top. -/
def splitMarks : List Char → Bool × Bool × List Char
  | '\\' :: '!' :: rest => (false, false, '!' :: rest)
  | '\\' :: '#' :: rest => (false, false, '#' :: rest)
  | '!' :: '/' :: rest => (true, true, rest)
  | '!' :: rest => (true, false, rest)
  | '/' :: rest => (false, true, rest)
  | rest => (false, false, rest)

/-- Splits a slash off the end of a line. -/
def splitSlash (line : List Char) : Bool × List Char :=
  match line.reverse with
  | '/' :: '\\' :: rest => (true, rest.reverse)
  | '/' :: rest => (true, rest.reverse)
  | _ => (false, line)

/-- The glob of a line as it is to be read: without a slash it is for names anywhere, and with two
stars at the end for all that is within a directory. -/
def globText (isFromTop : Bool) (line : List Char) : List Char :=
  let anywhere :=
    if !isFromTop && !line.contains '/' && line != ['*', '*'] then '*' :: '*' :: '/' :: line
    else line
  match anywhere.reverse with
  | '*' :: '*' :: '/' :: _ => anywhere ++ ['/', '*']
  | _ => anywhere

/-- The rule in a line, if there is one that can be read. -/
def ofLine? (line : String) : Option IgnoreRule :=
  let cs := trimLine line.toList
  if cs.isEmpty ∨ cs.head? = some '#' then none
  else
    let (isKept, isFromTop, rest) := splitMarks cs
    let (isForDirectories, rest) := splitSlash rest
    (Glob.read (globText isFromTop rest)).map fun glob => ⟨glob, isKept, isForDirectories⟩

end IgnoreRule

/-- What rules say about a path. -/
inductive Verdict
  | silent
  | ignored
  | kept
deriving DecidableEq, Repr

/-- The first verdict, or the second if that is silent. -/
def Verdict.or : Verdict → Verdict → Verdict
  | silent, v => v
  | v, _ => v

/-- What the last rule for a path says. -/
def verdictOf (rules : List IgnoreRule) (path : List UInt8) (isDirectory : Bool) : Verdict :=
  match rules.reverse.find? fun r =>
      (isDirectory || !r.isForDirectories) && r.glob.isMatch path with
  | some r => if r.isKept then .kept else .ignored
  | none => .silent

/-- The rules of a directory. -/
structure IgnoreLevel where
  /-- The number of names that lead to the directory. -/
  depth : Nat
  rules : List IgnoreRule
  repositoryRules : List IgnoreRule
  excludeRules : List IgnoreRule
  /-- Whether the directory is the top of a repository. -/
  isTop : Bool

/-! ## Reading -/

/-- The pieces of bytes between line feeds. -/
def splitBytes : List UInt8 → List (List UInt8)
  | [] => [[]]
  | b :: bs =>
    match splitBytes bs with
    | [] => [[]]
    | piece :: pieces => if b = 10 then [] :: piece :: pieces else (b :: piece) :: pieces

/-- The lines of a file up to the first that is no text. -/
def readableLines (bytes : ByteArray) : List String :=
  let texts := (splitBytes bytes.toList).map fun piece => String.fromUTF8? piece.toByteArray
  (texts.takeWhile Option.isSome).filterMap fun t =>
    t.map fun s => String.ofList (Text.dropReturn s.toList)

/-- Drops marks of the byte order. -/
def dropMark (line : String) : String :=
  String.ofList (line.toList.dropWhile (· == '\uFEFF'))

/-- The rules in a file; a mark of the byte order at its start does not count. A file that is not
opened has none. -/
def rulesOf : Option FileTree → List IgnoreRule
  | some (.file (.ok bytes)) =>
    match readableLines bytes with
    | [] => []
    | first :: rest => (dropMark first :: rest).filterMap IgnoreRule.ofLine?
  | _ => []

/-- The rules of a directory, to which `depth` names lead. -/
def IgnoreLevel.ofDirectory (depth : Nat) (t : FileTree) : IgnoreLevel where
  depth
  rules := rulesOf (t.child? ".ignore")
  repositoryRules := rulesOf (t.child? ".gitignore")
  excludeRules := rulesOf (t.at? [".git", "info", "exclude"])
  isTop := (t.child? ".git").isSome

/-! ## Deciding -/

/-- The levels up to the top of a repository, that one included. -/
def withinRepository : List IgnoreLevel → List IgnoreLevel
  | [] => []
  | level :: rest => if level.isTop then [level] else level :: withinRepository rest

/-- The first verdict that some levels give, nearest first, by one kind of their rules. -/
def firstVerdict (kind : IgnoreLevel → List IgnoreRule) (levels : List IgnoreLevel)
    (names : List String) (isDirectory : Bool) : Verdict :=
  levels.foldr
    (fun level v =>
      let path := (Text.join "/" (names.drop level.depth)).toUTF8.toList
      (verdictOf (kind level) path isDirectory).or v)
    .silent

/-- What the rules of all levels, nearest first, say about what the names lead to. -/
def ignoreVerdict (levels : List IgnoreLevel) (names : List String) (isDirectory : Bool) :
    Verdict :=
  let own := firstVerdict IgnoreLevel.rules levels names isDirectory
  if levels.any IgnoreLevel.isTop then
    let repository := withinRepository levels
    (own.or (firstVerdict IgnoreLevel.repositoryRules repository names isDirectory)).or
      (firstVerdict IgnoreLevel.excludeRules repository names isDirectory)
  else own

/-- Whether a search leaves out what the names lead to: it is ignored, or it is hidden and no rule
takes it back in. -/
def isSkipped (levels : List IgnoreLevel) (names : List String) (isDirectory : Bool) : Bool :=
  match ignoreVerdict levels names isDirectory with
  | .ignored => true
  | .kept => false
  | .silent => names.getLast?.any isHidden

end CodeReview.Files
