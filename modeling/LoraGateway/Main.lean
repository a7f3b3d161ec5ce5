import LoraGateway.CommandLine.Run

/-!
# The program

Hands the outside world to a run and its outcome back to the world: the files that the command may
look at are read beforehand, and those that the run has written are stored afterwards.
-/

open LoraGateway
open LoraGateway.CommandLine

/-- Reads a stream to its end. -/
partial def readToEnd (stream : IO.FS.Stream) (read : ByteArray) : IO ByteArray := do
  let more ← stream.read 65536
  if more.isEmpty then pure read else readToEnd stream (read ++ more)

/-- Adds what stands at a place, after what stands at the place it is in. A place that cannot be
    entered is a directory, unless it is in a file. -/
def loadPlace (t : FileTree) (place : Place) : IO FileTree := do
  try
    let bytes ← IO.FS.readBinFile place.path
    return { t with files := (place, bytes.toList) :: t.files }
  catch
    | .noFileOrDirectory .. => return t
    | .invalidArgument .. => return t
    | .inappropriateType .. =>
      if t.isDirectory place.dropLast then
        return { t with directories := place :: t.directories }
      return t
    | e => throw e

/-- Makes the directories that were made, and stores the files that were written. -/
def storeTree (before after : FileTree) : IO Unit := do
  for place in after.directories do
    unless before.isDirectory place do
      IO.FS.createDirAll place.path
  for (place, bytes) in after.files do
    if before.files.lookup place ≠ some bytes then
      IO.FS.writeBinFile place.path ⟨bytes.toArray⟩

/-- Runs the program with its arguments. -/
def main (arguments : List String) : IO UInt32 := do
  let environment : Environment := {
    home := ← IO.getEnv "HOME"
    userProfile := ← IO.getEnv "USERPROFILE"
    logDirectives := ← IO.getEnv "RUST_LOG"
  }
  let command? : Option Command := match Request.ofArguments arguments with
    | .ok (.run command _) => some command
    | _ => none
  let paths := (command?.map (·.paths environment)).getD []
  let files ← (paths.flatMap fun path => (Path.ofText path).places).foldlM loadPlace {}
  let input ← if command?.any (·.readsInput) then readToEnd (← IO.getStdin) .empty else pure .empty
  match run { arguments, input := input.toList, environment, files } with
  | .error e =>
    IO.eprintln s!"error: {e.message}"
    pure 2
  | .ok printed =>
    storeTree files printed.files
    (← IO.getStderr).putStr printed.errors
    (← IO.getStdout).putStr printed.output
    pure printed.exit.toUInt32
