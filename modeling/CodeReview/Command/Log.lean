import CodeReview.Text.Case
import CodeReview.Text.Line
import CodeReview.Text.Word

/-!
# Log entries

A run tells what it does in log entries of five levels and a few topics. A filter says which of them
are shown: one level for all, or levels for the topics whose names start with given texts.
-/

set_option autoImplicit false

namespace CodeReview.Command

/-- The levels of log entries, the most serious first. -/
inductive Level
  | error
  | warn
  | info
  | debug
  | trace
deriving DecidableEq, Repr

namespace Level

/-- All levels, the most serious first. -/
def all : List Level := [error, warn, info, debug, trace]

/-- The name of a level. -/
def name : Level → String
  | error => "error"
  | warn => "warn"
  | info => "info"
  | debug => "debug"
  | trace => "trace"

/-- The name of a level as it stands in an entry. -/
def label : Level → String
  | error => "ERROR"
  | warn => "WARN"
  | info => "INFO"
  | debug => "DEBUG"
  | trace => "TRACE"

/-- The number of levels up to this one. -/
def rank : Level → Nat
  | error => 1
  | warn => 2
  | info => 3
  | debug => 4
  | trace => 5

/-- The level with a name. -/
def ofName? (s : String) : Option Level := all.find? fun l => l.name == s

end Level

/-- What log entries are about. -/
inductive Topic
  | settings
  | command
  | duplicates
  | rules
  | review
  | reviewer
deriving DecidableEq, Repr

/-- The name of a topic. -/
def Topic.name : Topic → String
  | settings => "revisor::config::settings"
  | command => "revisor::cli::review"
  | duplicates => "revisor::duplicates"
  | rules => "revisor::rules"
  | review => "revisor::review"
  | reviewer => "revisor::ai::reviewer"

/-- A log entry. -/
structure LogEntry where
  level : Level
  topic : Topic
  message : String
deriving DecidableEq, Repr

/-- The text of a log entry. -/
def LogEntry.text (e : LogEntry) : String := s!"{e.level.label} {e.topic.name}: {e.message}"

/-! ## Filters -/

/-- A part of a filter: the start of the names of topics, and how many levels of them are shown. -/
structure LogRule where
  start : String
  limit : Nat
deriving DecidableEq, Repr

/-- The rules of a filter. -/
abbrev LogFilter := List LogRule

namespace LogFilter

/-- The rule for a topic: of those that hold for it, the one with the longest start, and of those
the last. -/
def ruleFor? (f : LogFilter) (topic : Topic) : Option LogRule :=
  (f.filter fun r => topic.name.startsWith r.start).foldl
    (fun best r =>
      match best with
      | some b => if r.start.utf8ByteSize < b.start.utf8ByteSize then some b else some r
      | none => some r)
    none

/-- Whether an entry is shown. -/
def shows (f : LogFilter) (e : LogEntry) : Bool :=
  match f.ruleFor? e.topic with
  | some r => decide (e.level.rank ≤ r.limit)
  | none => false

/-- The filter for the entries of the program up to a level. -/
def ofLevel (l : Level) : LogFilter := [⟨"revisor", l.rank⟩]

/-! ### Reading -/

/-- How many levels a word stands for: the name of the last of them in any case, or their number. -/
def limit? (word : String) : Option Nat :=
  let lower := String.ofList (word.toList.map Char.toLower)
  if lower = "off" ∨ lower = "0" then some 0
  else
    (Level.all.find? fun l => l.name == lower || toString l.rank == lower).map Level.rank

/-- Whether a character may stand in the name of a topic. -/
def isNameChar (c : Char) : Bool := Text.isWord c || c == ':' || c == '-'

/-- Splits text in brackets off the front. -/
def splitSpan (cs : List Char) : Bool × List Char :=
  match cs with
  | '[' :: rest =>
    match rest.span (· != ']') with
    | (_, _ :: rest) => (true, rest)
    | (_, []) => (false, cs)
  | _ => (false, cs)

/-- The rule that a name with a limit stands for. A name that is itself a level holds for all
topics. -/
def ruleOf (name : List Char) (limit : Nat) : LogRule :=
  let text := String.ofList name
  ⟨if (limit? text).isSome then "" else text, limit⟩

/-- The limit after a name: all levels if none is given. -/
def limitAfter? : List Char → Option Nat
  | [] => some 5
  | ['='] => some 5
  | '=' :: rest => limit? (String.ofList rest)
  | _ => none

/-- Reads a part of a filter. A part with a text in brackets is for entries within spans, which this
program does not have, so it gives no rule. -/
def readRule (part : List Char) : Option (Option LogRule) :=
  match limit? (String.ofList part) with
  | some limit => some (some ⟨"", limit⟩)
  | none =>
    let (name, rest) := part.span isNameChar
    let (isSpan, rest) := splitSpan rest
    if name.isEmpty && !isSpan then none
    else
      (limitAfter? rest).map fun limit => if isSpan then none else some (ruleOf name limit)

/-- Reads a filter: its parts are separated by commas. An empty one shows errors. -/
def parse (text : String) : Option LogFilter :=
  let parts := (Text.splitChars ',' text.toList).filter fun p => !p.isEmpty
  (parts.mapM readRule).map fun rules =>
    if parts.isEmpty then [⟨"", 1⟩] else rules.filterMap id

/-- The filter of a run: the one that is asked for in the environment if it can be read, and else
the one for a level. -/
def ofRun (asked : Option String) (l : Level) : LogFilter :=
  (asked.bind parse).getD (ofLevel l)

end LogFilter

end CodeReview.Command
