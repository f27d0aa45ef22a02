import CodeReview.Command.Run

/-!
# The program

The program loads the part of the disk that its arguments speak of, runs, and then prints and writes
what the run gave. It has no network: a provider that a run asks is not reached.
-/

set_option autoImplicit false

namespace CodeReview.Program

open Command Files

/-! ## What to load -/

/-- The paths that a command reads, and the one that it may write. -/
def paths (r : Request) : List String × Option String :=
  match r with
  | .review a => (a.paths ++ a.feedback.toList, a.output)
  | .metrics a => (a.paths, a.output)
  | .classify input _ => ([input], none)
  | .init path _ => ([path], some (joinPath path Settings.fileName))

/-- The names that lead from the top to a path; they do not go through links. -/
def namesOf (here : List String) (path : String) : List String :=
  let start := if path.startsWith "/" then [] else here
  (segments path).foldl
    (fun names s =>
      if s = "" ∨ s = "." then names else if s = ".." then names.dropLast else names ++ [s])
    start

/-- The path of some names from the top. -/
def pathOf (names : List String) : String := "/" ++ Text.join "/" names

/-- The files of a directory that a search looks at without taking them. -/
def controlFiles : List String := [".ignore", ".gitignore", ".git", Settings.fileName]

/-- Whether a search needs to know what a file holds. -/
def isNeeded (name : String) : Bool :=
  controlFiles.contains name || (extension? name).any FrontEnd.python.extensions.contains

/-! ## Loading -/

/-- Why a file is not opened. -/
def faultOf : IO.Error → OpenFault
  | .permissionDenied _ 13 _ => .denied
  | e => .other (toString e)

/-- What a file holds. -/
def contentOf (read : IO ByteArray) : IO Content := do
  try return .ok (← read)
  catch e => return .error (faultOf e)

/-- Loads a directory with all that is in it, without links. One that cannot be listed has nothing
in it for a search. -/
partial def loadTree (path : String) : IO FileTree := do
  let place := (← IO.currentDir) / path
  let listed ← try place.readDir catch _ => pure #[]
  let mut entries := []
  for e in listed do
    let inner := joinPath path e.fileName
    match (← e.path.symlinkMetadata).type with
    | .dir =>
      entries :=
        (e.fileName, ← if e.fileName = ".git" then pure (.directory []) else loadTree inner)
          :: entries
    | .file =>
      let content ←
        if isNeeded e.fileName then contentOf (IO.FS.readBinFile e.path) else pure (.ok .empty)
      entries := (e.fileName, .file content) :: entries
    | _ => pure ()
  return .directory entries

/-- Loads a directory with no more than the files that control a search. -/
def loadLevel (path : String) : IO FileTree := do
  let place := (← IO.currentDir) / path
  let mut entries := []
  for name in controlFiles do
    let inner := place / name
    if ← inner.isDir then entries := (name, .directory []) :: entries
    else if ← inner.pathExists then
      entries := (name, .file (← contentOf (IO.FS.readBinFile inner))) :: entries
  return .directory entries

/-- Adds what a path names to a tree, with the directories above it; `deep` asks for all that is in
a directory. -/
def addPath (deep : Bool) (here : List String) (root : FileTree) (path : String) :
    IO FileTree := do
  let mut tree := root
  let names := namesOf here path
  for depth in List.range (names.length + 1) do
    let above := names.take depth
    let place := (← IO.currentDir) / pathOf above
    if ← place.isDir then
      if (tree.at? above).isNone then
        tree := FileTree.put (← loadLevel (pathOf above)) above tree
    else if ← place.pathExists then
      tree := FileTree.put (.file (← contentOf (IO.FS.readBinFile place))) above tree
  if deep ∧ (tree.at? names).any FileTree.isDirectory then
    return FileTree.put (← loadTree (pathOf names)) names tree
  else return tree

/-- The part of the disk that a command speaks of. -/
def loadDisk (r : Request) : IO Disk := do
  let here := namesOf [] (toString (← IO.currentDir))
  let (inputs, output) := paths r
  let mut root ← addPath false here (← loadLevel "/") "."
  for path in inputs do
    root ← addPath true here root path
  for path in output.toList do
    root ← addPath false here root path
  return ⟨root, here⟩

/-- The directory for the settings of the user. -/
def settingsHome : IO (Option String) := do
  match ← IO.getEnv "XDG_CONFIG_HOME" with
  | some path => if path.startsWith "/" then return some path
  | none => pure ()
  return (← IO.getEnv "HOME").map fun home => joinPath home ".config"

/-- The file of settings of the user. -/
def loadUserSettings : IO (Option (String × Content)) := do
  let some home ← settingsHome | return none
  let path := joinPath (joinPath home "revisor") "config.toml"
  let place := (← IO.currentDir) / path
  if (← place.pathExists) && !(← place.isDir) then
    return some (path, ← contentOf (IO.FS.readBinFile place))
  else return none

/-- The variables of the environment that runs look at. -/
def loadEnvironment : IO Environment := do
  let names := filterVariable :: Reviewer.Backend.all.map Reviewer.Backend.keyVariable
  let values ← names.mapM fun name => do return (name, ← IO.getEnv name)
  return fun name => (values.find? fun v => v.1 == name).bind (·.2)

/-- The input, if a command reads it. -/
def loadInput (r : Request) : IO ByteArray := do
  match r with
  | .classify "-" _ => (← IO.getStdin).readBinToEnd
  | _ => return .empty

/-- What a command starts from. -/
def loadWorld (r : Request) : IO World :=
  return {
    disk := ← loadDisk r
    workPath := toString (← IO.currentDir)
    userSettings := ← loadUserSettings
    environment := ← loadEnvironment
    input := ← loadInput r }

/-! ## Running -/

/-- The connection of a program without a network. -/
def noConnection : Reviewer.Connection IO := fun r =>
  return .failed ("no connection to " ++ r.endpoint.target)

/-- The text of a note. -/
def noteText : Note → String
  | .log e => e.text
  | .line text => text

/-- Writes the file that a run has changed. -/
def writeOutput (before after : Disk) (path : String) : IO Unit := do
  match after.read? path with
  | some bytes =>
    if before.read? path != some bytes then
      IO.FS.writeBinFile path bytes
  | none => pure ()

/-- Prints what a run tells and gives its status. -/
def report (result : RunResult) : IO UInt32 := do
  for note in result.notes do
    IO.eprintln (noteText note)
  IO.print result.output
  return UInt32.ofNat result.status

/-- Runs the program. Arguments that name no command need nothing from the disk. -/
def run (args : List String) : IO UInt32 := do
  match Invocation.parse args with
  | .error s => report (World.stop { disk := ⟨.directory [], []⟩, workPath := "" } s)
  | .ok i =>
    let w ← loadWorld i.request
    let result ← w.run noConnection args
    for path in (paths i.request).2.toList do
      writeOutput w.disk result.disk path
    report result

end CodeReview.Program

/-- Runs the program with its arguments. -/
def main (args : List String) : IO UInt32 := CodeReview.Program.run args
