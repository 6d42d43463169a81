import DialogueScript.CommandLine.Chat

/-!
# The program

Reads the files and directories that the arguments name, answers standard input line by line, and
ends with the exit code of the run.
-/

open System (FilePath)

namespace DialogueScript.CommandLine

def isADirectoryCode : UInt32 := 21

def failureOf : IO.Error → ReadFailure
  | .noFileOrDirectory .. => .notFound
  | .inappropriateType _ code _ => if code = isADirectoryCode then .isADirectory else .notADirectory
  | error => .other (toString error).toList

def attempt (action : IO α) : IO (Except ReadFailure α) := do
  try
    return .ok (← action)
  catch error =>
    return .error (failureOf error)

def readFile (path : Text) : IO (Except ReadFailure ByteArray) := do
  let path : FilePath := ⟨String.ofList path⟩
  if ← path.isDir then return .error .isADirectory
  attempt (IO.FS.readBinFile path)

def listDirectory (path : Text) : IO (Except ReadFailure (List DirectoryEntry)) := do
  let path : FilePath := ⟨String.ofList path⟩
  attempt do
    let mut entries := []
    for entry in ← path.readDir do
      entries := { name := entry.fileName.toList, isFile := !(← entry.path.isDir) } :: entries
    return entries

/-- A disk that holds what has been read from the paths. -/
def diskOf (files : List (Text × Except ReadFailure ByteArray))
    (directories : List (Text × Except ReadFailure (List DirectoryEntry))) : Disk where
  read path := (files.lookup path).getD (.error .notFound)
  list path := (directories.lookup path).getD (.error .notFound)
  isDirectory path :=
    match directories.lookup path with
    | some (.ok _) => true
    | _ => false

/-- What stands at the paths that the arguments may name, and in directories right below them. -/
def gather (arguments : List Text) : IO Disk := do
  let mut directories := []
  let mut files := []
  for path in arguments ++ (arguments.filterMap ValueOption.joined?).map (·.2) do
    let listing ← listDirectory path
    directories := (path, listing) :: directories
    files := (path, ← readFile path) :: files
    if let .ok entries := listing then
      for entry in entries do
        let entryPath := Disk.entryPath path entry.name
        files := (entryPath, ← readFile entryPath) :: files
  return diskOf files directories

def put (stream : IO.FS.Stream) (text : Text) : IO Unit := do
  stream.putStr (String.ofList text)
  stream.flush

def putOutput (output : Output) : IO Unit := do
  put (← IO.getStderr) output.err
  put (← IO.getStdout) output.out

def prompt : Text := "You: ".toList

def durationText (nanoseconds : Nat) : Text :=
  Number.natText (nanoseconds / 1000) ++ "µs".toList

partial def talk (chat : Chat) : IO Unit := do
  let input ← IO.getStdin
  if ← input.isTty then put (← IO.getStdout) prompt
  let line ← input.getLine
  if line.isEmpty then return
  match Chat.readInput line.toList with
  | .skip => talk chat
  | .exit => return
  | .message message =>
    let start ← IO.monoNanosNow
    let (chat, answer) := chat.answer message
    let stop ← IO.monoNanosNow
    put (← IO.getStdout) (Chat.answerReport chat.settings (durationText (stop - start)) answer)
    talk chat

end DialogueScript.CommandLine

open DialogueScript CommandLine

def main (arguments : List String) : IO UInt32 := do
  let arguments := arguments.map String.toList
  let disk ← gather arguments
  let entropy := UInt64.ofNat (← IO.rand 0 (UInt64.size - 1))
  match prepare disk entropy (← (← IO.getStdout).isTty) arguments with
  | .error outcome =>
    putOutput outcome.output
    return UInt32.ofNat outcome.exitCode
  | .ok (chat, output) =>
    putOutput output
    talk chat
    return UInt32.ofNat exitSuccess
