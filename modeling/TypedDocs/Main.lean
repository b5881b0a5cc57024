import TypedDocs.CommandLine
import TypedDocs.Logging.Start
import TypedDocs.Pattern.Basic

/-!
# The program

Reads the arguments and the snapshot file, runs the command, and prints its text or its fault.
With `DOCMODEL_LOG_DIR` set, what the command reports goes to a file in that directory.
-/

namespace TypedDocs.Program

/-- The text of a file. -/
def readText (file : String) : IO (Except FileFault String) := do
  try
    let bytes ← IO.FS.readBinFile file
    return .ok ((String.fromUTF8? bytes).getD "\u0000")
  catch e => match e with
    | .noFileOrDirectory .. => return .error .missing
    | e => return .error (.other (toString e))

/-- Makes a directory and those above it. -/
def createDirectory (directory : String) : IO (Except String Unit) := do
  try
    IO.FS.createDirAll directory
    return .ok ()
  catch e => return .error (toString e)

/-- Starts logging where the environment asks for it. -/
def startLogging : IO Logging := do
  match ← IO.getEnv "DOCMODEL_LOG_DIR" with
  | none => return .idle
  | some directory =>
    let (result, logging) ← Logging.init createDirectory .idle "info" directory
    if let .error fault := result then
      IO.eprintln ("logging disabled: " ++ fault.message)
    return logging

/-- Appends the lines of events to the log; a log that cannot be written is let go. -/
def log (logging : Logging) (events : List Event) : IO Unit := do
  if let some s := logging.active then
    let lines := (events.filter fun e => s.admits e.level).map fun e => e.line ++ "\n"
    try
      let handle ← IO.FS.Handle.mk (s.directory ++ "/docmodel.log") .append
      handle.putStr (String.join lines)
    catch _ => return

end TypedDocs.Program

open TypedDocs in
/-- Runs the command of the arguments. -/
def main (args : List String) : IO UInt32 := do
  let logging ← Program.startLogging
  match Command.ofArguments args with
  | .error fault =>
    IO.eprintln fault.message
    return 1
  | .ok command =>
    let content ← match command.file? with
      | some file => Program.readText file
      | none => pure (.ok "")
    let (result, events) := command.run content
    Program.log logging events
    match result with
    | .ok text =>
      IO.print text
      return 0
    | .error fault =>
      IO.eprintln fault.message
      return 1
