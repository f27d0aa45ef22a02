import CodeReview.Command.Log
import CodeReview.Report.Format

/-!
# Arguments

The arguments of a run name one of four commands and its options. Options may stand before, between
and after the paths; after two dashes everything is a path.
-/

set_option autoImplicit false

namespace CodeReview.Command

open Report

/-- What to review, and how. -/
structure ReviewArguments where
  paths : List String
  isAlone : Bool := false
  feedback : Option String := none
  format : Format := .text
  window : Option Nat := none
  backend : Option String := none
  model : Option String := none
  output : Option String := none
deriving DecidableEq, Repr

/-- What to measure, and how. -/
structure MetricsArguments where
  paths : List String
  format : Format := .text
  window : Option Nat := none
  output : Option String := none
deriving DecidableEq, Repr

/-- The commands. -/
inductive Request
  | review (a : ReviewArguments)
  | metrics (a : MetricsArguments)
  | classify (input : String) (format : Format)
  | init (path : String) (force : Bool)
deriving DecidableEq, Repr

/-- A command with the level of log entries to show. -/
structure Invocation where
  level : Level
  request : Request
deriving DecidableEq, Repr

/-- Why there is no command to run. -/
inductive Stop
  | usage
  | help
  | version
deriving DecidableEq, Repr

/-! ## Options -/

/-- An option: its name, the letter that stands for it, and the values that it takes; a flag takes
none. -/
structure OptionSpec where
  name : String
  letter : Option Char := none
  isFlag : Bool := false
  accepts : String → Bool := fun _ => true

/-- A natural number of 64 binary digits as it is written in an argument: a plus may stand before
its digits. -/
def readCount (text : String) : Option Nat :=
  let ds := match text.toList with
    | '+' :: rest => rest
    | cs => cs
  if ds.isEmpty ∨ !ds.all Char.isDigit then none
  else
    let n := ds.foldl (fun n c => n * 10 + (c.toNat - 48)) 0
    if n < UInt64.size then some n else none

/-- The format with exactly the given name. -/
def formatOf? (s : String) : Option Format := [Format.text, .json].find? fun f => f.name == s

/-- Asks for help. -/
def helpOption : OptionSpec := { name := "help", letter := some 'h', isFlag := true }

/-- Asks for the version. -/
def versionOption : OptionSpec := { name := "version", letter := some 'V', isFlag := true }

/-- The level of log entries to show. -/
def levelOption : OptionSpec :=
  { name := "log-level", accepts := fun s => (Level.ofName? s).isSome }

/-- The format of the report. -/
def formatOption : OptionSpec :=
  { name := "format", letter := some 'f', accepts := fun s => (formatOf? s).isSome }

/-- The lines in a window for duplicate blocks. -/
def windowOption : OptionSpec :=
  { name := "min-lines", accepts := fun s => (readCount s).isSome }

/-- An option for a path, which is not empty. -/
def pathOption (name : String) (letter : Option Char) : OptionSpec :=
  { name, letter, accepts := fun s => !s.isEmpty }

/-- The options of a command, and how many paths it takes at most. -/
structure CommandSpec where
  options : List OptionSpec
  limit : Option Nat

/-- The options before a command. -/
def topSpec : CommandSpec := ⟨[levelOption, helpOption, versionOption], some 0⟩

/-- The options of the command that reviews. -/
def reviewSpec : CommandSpec :=
  ⟨[levelOption, helpOption, { name := "no-ai", isFlag := true }, pathOption "feedback" none,
    formatOption, windowOption, { name := "backend" }, { name := "model" },
    pathOption "output" (some 'o')], none⟩

/-- The options of the command that measures. -/
def metricsSpec : CommandSpec :=
  ⟨[levelOption, helpOption, formatOption, windowOption, pathOption "output" (some 'o')], none⟩

/-- The options of the command that classifies. -/
def classifySpec : CommandSpec := ⟨[levelOption, helpOption, formatOption], some 1⟩

/-- The options of the command that writes a file of settings. -/
def initSpec : CommandSpec :=
  ⟨[levelOption, helpOption, { name := "force", isFlag := true }], some 1⟩

/-- The commands by name. -/
def commandSpec? (name : String) : Option CommandSpec :=
  match name with
  | "review" => some reviewSpec
  | "metrics" => some metricsSpec
  | "classify" => some classifySpec
  | "init" => some initSpec
  | _ => none

/-! ## Reading -/

/-- What was given so far: options with their values, flags with none, and paths. -/
structure Given where
  options : List (String × Option String) := []
  paths : List String := []

/-- Whether an option was given. -/
def Given.has (g : Given) (name : String) : Bool := g.options.any fun o => o.1 == name

/-- The value of an option. -/
def Given.value? (g : Given) (name : String) : Option String :=
  (g.options.find? fun o => o.1 == name).bind (·.2)

/-- Adds an option, which may be given once. -/
def Given.addOption (g : Given) (o : OptionSpec) (value : Option String) : Except Stop Given :=
  if g.has o.name ∨ !value.all o.accepts then .error .usage
  else .ok { g with options := g.options ++ [(o.name, value)] }

/-- Adds a path. -/
def Given.addPath (g : Given) (spec : CommandSpec) (path : String) : Except Stop Given :=
  if path.isEmpty ∨ spec.limit.any fun n => n ≤ g.paths.length then .error .usage
  else .ok { g with paths := g.paths ++ [path] }

/-- Adds a flag; two of them stop the reading. -/
def Given.addFlag (g : Given) (o : OptionSpec) : Except Stop Given :=
  if o.name = "help" then .error .help
  else if o.name = "version" then .error .version
  else g.addOption o none

/-- What was given, and the option whose value comes next. -/
abbrev Pending := Given × Option OptionSpec

/-- Reads an option by its name, with its value if there is an equals sign. -/
def readLong (spec : CommandSpec) (g : Given) (text : List Char) : Except Stop Pending :=
  let (name, rest) := text.span (· != '=')
  match spec.options.find? fun o => o.name == String.ofList name with
  | none => .error .usage
  | some o =>
    match o.isFlag, rest with
    | true, [] => (g.addFlag o).map fun g => (g, none)
    | true, _ :: _ => .error .usage
    | false, [] => .ok (g, some o)
    | false, _ :: value => (g.addOption o (some (String.ofList value))).map fun g => (g, none)

/-- Reads options by their letters; what follows the letter of an option with a value is its
value. -/
def readShort (spec : CommandSpec) (g : Given) : List Char → Except Stop Pending
  | [] => .ok (g, none)
  | c :: rest =>
    match spec.options.find? fun o => o.letter == some c with
    | none => .error .usage
    | some o =>
      if o.isFlag then
        match g.addFlag o with
        | .error s => .error s
        | .ok g => readShort spec g rest
      else
        match rest with
        | [] => .ok (g, some o)
        | '=' :: value => (g.addOption o (some (String.ofList value))).map fun g => (g, none)
        | value => (g.addOption o (some (String.ofList value))).map fun g => (g, none)

/-- Whether an argument is an option and not a path or a value. -/
def isOption (arg : String) : Bool := arg.startsWith "-" && arg != "-"

/-- Reads an argument that is an option. -/
def readOption (spec : CommandSpec) (g : Given) (arg : String) : Except Stop Pending :=
  match arg.toList with
  | '-' :: '-' :: text => readLong spec g text
  | '-' :: text => readShort spec g text
  | _ => .error .usage

/-- Reads the arguments of a command; `pending` is the option whose value comes next. -/
def readArguments (spec : CommandSpec) : Pending → List String → Except Stop Given
  | (_, some _), [] => .error .usage
  | (g, none), [] => .ok g
  | (g, some o), arg :: rest =>
    if isOption arg then .error .usage
    else
      match g.addOption o (some arg) with
      | .error s => .error s
      | .ok g => readArguments spec (g, none) rest
  | (g, none), arg :: rest =>
    if arg = "--" then rest.foldlM (fun g path => g.addPath spec path) g
    else if isOption arg then
      match readOption spec g arg with
      | .error s => .error s
      | .ok p => readArguments spec p rest
    else
      match g.addPath spec arg with
      | .error s => .error s
      | .ok g => readArguments spec (g, none) rest

/-! ## Commands -/

/-- The format that was given. -/
def Given.format (g : Given) : Format := ((g.value? "format").bind formatOf?).getD .text

/-- The window that was given. -/
def Given.window (g : Given) : Option Nat := (g.value? "min-lines").bind readCount

/-- The command with what was given to it, unless something is missing or does not go together. -/
def requestOf? (name : String) (g : Given) : Option Request :=
  match name with
  | "review" =>
    if g.paths.isEmpty ∨ (g.has "no-ai" ∧ g.has "feedback") then none
    else
      some <| .review
        { paths := g.paths
          isAlone := g.has "no-ai"
          feedback := g.value? "feedback"
          format := g.format
          window := g.window
          backend := g.value? "backend"
          model := g.value? "model"
          output := g.value? "output" }
  | "metrics" =>
    if g.paths.isEmpty then none
    else
      some <| .metrics
        { paths := g.paths, format := g.format, window := g.window, output := g.value? "output" }
  | "classify" => g.paths.head?.map fun input => .classify input g.format
  | "init" => some (.init (g.paths.headD ".") (g.has "force"))
  | _ => none

/-- The level of log entries: the one given after the command, else the one before it. -/
def levelOf (top g : Given) : Level :=
  let name := (g.value? "log-level").or (top.value? "log-level")
  (name.bind Level.ofName?).getD .warn

/-- Whether there is help on what follows the word for it: nothing, that word or a command. -/
def isHelpTopic : List String → Bool
  | [] => true
  | [topic] => topic == "help" || (commandSpec? topic).isSome
  | _ => false

/-- Reads the arguments after the name of a command. -/
def readCommand (top : Given) (name : String) (rest : List String) : Except Stop Invocation :=
  match commandSpec? name with
  | none =>
    if name = "help" ∧ isHelpTopic rest then .error .help else .error .usage
  | some spec => do
    let g ← readArguments spec ({}, none) rest
    match requestOf? name g with
    | some request => return ⟨levelOf top g, request⟩
    | none => throw .usage

/-- Reads the arguments up to the name of a command. -/
def readTop : Pending → List String → Except Stop Invocation
  | _, [] => .error .usage
  | (g, some o), arg :: rest =>
    if isOption arg then .error .usage
    else
      match g.addOption o (some arg) with
      | .error s => .error s
      | .ok g => readTop (g, none) rest
  | (g, none), arg :: rest =>
    if isOption arg then
      match readOption topSpec g arg with
      | .error s => .error s
      | .ok p => readTop p rest
    else readCommand g arg rest

/-- Reads the arguments of a run. -/
def Invocation.parse (args : List String) : Except Stop Invocation := readTop ({}, none) args

end CodeReview.Command
