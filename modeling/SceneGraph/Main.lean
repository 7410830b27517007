import SceneGraph.Command.Run

/-!
# The command line

Carries out commands on the real storage. Lines go to standard output, the log and the failure to
standard error.
-/
set_option autoImplicit false

namespace SceneGraph.Command

def refusal : IO.Error → String
  | .noFileOrDirectory _ _ _ => "no such file or directory"
  | .inappropriateType _ _ _ => "is a directory"
  | .alreadyExists _ _ _ => "file exists"
  | .permissionDenied _ _ _ => "permission denied"
  | e => toString e

/-- The answer of storage to a request, whose name and path stand in front of a refusal. -/
def answerOf {α : Type} (request path : String) (act : IO α) : IO (Except String α) := do
  try
    return .ok (← act)
  catch e =>
    return .error (request ++ " " ++ path ++ ": " ++ refusal e)

/-- Writes a file. The binaries of shaders need a compiler of their own and are refused. -/
def store (path : String) : FileContents → IO (Except String Unit)
  | .bytes data => answerOf "open" path (IO.FS.writeBinFile path data)
  | .shaderBinary _ => return .error ("write " ++ path ++ ": shader binaries are not supported")

def execute {α : Type} : Program α → IO α
  | .done a => return a
  | .readFile path next => do execute (next (← answerOf "open" path (IO.FS.readBinFile path)))
  | .makeDirectory path next => do execute (next (← answerOf "mkdir" path (IO.FS.createDirAll path)))
  | .writeFile path contents next => do execute (next (← store path contents))
  | .print line next => do
    IO.println line
    execute next
  | .report entry next => do
    IO.eprintln entry.render
    execute next

end SceneGraph.Command

open SceneGraph in
/-- Runs the command line; the exit code is one when the command fails. -/
def main (words : List String) : IO UInt32 := do
  let values ← Config.environmentNames.mapM fun name => return (name, ← IO.getEnv name)
  let env (name : String) : Option String := (values.lookup name).join
  match ← Command.execute (Command.run env words).run with
  | .ok () => return 0
  | .error e =>
    IO.eprintln ("Error: " ++ e.message)
    return 1
