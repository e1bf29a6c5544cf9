import AwaitCalls.Cli.Run

/-!
# The command line program

Reads the files that a command line names, runs the command and carries out its outcome.
-/
namespace AwaitCalls.Cli

/-- The text that reports an error of the system. -/
def systemErrorText (e : IO.Error) : String :=
  match e with
  | .noFileOrDirectory _ _ _ => "No such file or directory (os error 2)"
  | .permissionDenied _ _ _ => "Permission denied (os error 13)"
  | .inappropriateType _ _ _ => "Is a directory (os error 21)"
  | e => toString e

/-- The files that a command reads. -/
def namedFiles : Command → List String
  | .transform input _ config _ _ _ _ _ => input :: config.toList
  | .check input _ => [input]

/-- Read a file, or say why it cannot be read. -/
def tryRead (path : String) : IO (String × Except String String) := do
  try
    return (path, .ok (← IO.FS.readFile path))
  catch e => return (path, .error (systemErrorText e))

/-- How the program, or one of its commands, is used. -/
def usageText : HelpTopic → String
  | .program => "usage: awaitify [-v] <rewrite|check> <input> [options]\n"
  | .transform =>
    "usage: awaitify rewrite <input> [-f <path>]... [-c <config>] [-o <output>] [--typescript] " ++
      "[--jsx] [--minify] [--comments] [--report] [-v]\n"
  | .check => "usage: awaitify check <input> [--typescript] [--jsx] [-v]\n"
  | .help => "usage: awaitify help [rewrite|check|help]\n"

/-- Print an outcome and give its status. -/
def printOutcome (o : Outcome) : IO UInt32 := do
  IO.print o.stdout
  if let some topic := o.help then IO.print (usageText topic)
  IO.eprint o.stderr
  return o.exit.toUInt32

end AwaitCalls.Cli

open AwaitCalls.Cli in
/-- Run the command line. -/
def main (args : List String) : IO UInt32 := do
  let line := readLine args
  if line = .misuse then IO.eprint (usageText .program)
  let contents ← match line with
    | .command i => (namedFiles i.command).mapM tryRead
    | .help _ | .misuse => pure []
  let read (path : String) : Except String String :=
    match contents.find? fun c => c.1 == path with
    | some c => c.2
    | none => .error "No such file or directory (os error 2)"
  let outcome := runArguments ⟨read, fun _ => none⟩ args
  match outcome.written with
  | none => printOutcome outcome
  | some (path, text) =>
    try
      IO.FS.writeFile path text
      printOutcome outcome
    catch e =>
      let reason := systemErrorText e
      printOutcome (runArguments ⟨read, fun _ => some reason⟩ args)
