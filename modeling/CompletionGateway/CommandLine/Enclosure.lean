import CompletionGateway.CommandLine.Commands

/-! Commands in an enclosure: a directory whose files are given, the directories that every machine has, and no
network. -/
namespace CompletionGateway.CommandLine
open Settings

/-- No backend answers in an enclosure. -/
def noNetwork : Exchange := .unreachable "no network"

/-- The directory of a relative path is the current one, which always exists. -/
def isSystemDirectory (path : String) : Bool := ["", ".", "/", "/tmp", "/var/tmp", "/dev/shm", "/root"].contains path

/-- The directories above a path. -/
def directoriesAbove (path : String) : List String :=
  (List.range path.length).filterMap fun i =>
    if (path.toList.drop i).head? = some '/' then some (String.ofList (path.toList.take i)) else none

/-- The path that a command in a directory means. -/
def resolve (directory path : String) : String :=
  if path.toList.head? = some '/' then path else joinPath directory path

/-- What a command in a directory finds, which is also its home. The files are named inside the directory. -/
def enclosure (directory : String) (files : List (String × List UInt8)) (env : Environment) : Surroundings :=
  let files := files.map fun f => (joinPath directory f.1, f.2)
  let directories := directory :: files.flatMap fun f => directoriesAbove f.1
  let isDirectory (path : String) : Bool := isSystemDirectory path || directories.contains (resolve directory path)
  let file (path : String) : FileState :=
    match files.find? (·.1 = resolve directory path) with
    | some f => .content f.2
    | none => if isDirectory path then .directory else .absent
  ⟨fun name => (env name).or (if name = "HOME" then some directory else none), file, isDirectory,
    fun _ => noNetwork, fun _ _ => false⟩

end CompletionGateway.CommandLine
