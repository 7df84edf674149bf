import ServiceHost.CommandLine.Arguments

/-!
# The program

Reads the file that the options name, if there is one, and prints what the interpretation of the
arguments yields.
-/

namespace ServiceHost

/-- The text of a file, if it can be read. -/
def readText (path : String) : IO (Option String) :=
  try
    let text ← IO.FS.readFile path
    return some text
  catch _ => return none

/-- The files that the options may name. -/
def namedFiles (arguments : List String) : IO Files := do
  match CommandLine.read arguments with
  | .interpret ⟨some path, _, _, _, _⟩ =>
    let texts ← (Document.candidates path).mapM fun path ↦ return (path, ← readText path)
    return fun path ↦ (texts.lookup path).join
  | _ => return fun _ ↦ none

end ServiceHost

open ServiceHost in
/-- Runs the program. -/
def main (arguments : List String) : IO UInt32 := do
  let ending := CommandLine.runArguments arguments (← namedFiles arguments)
  IO.print ending.output
  match ending.error with
  | some text => IO.eprintln text
  | none => pure ()
  return ending.status.toUInt32
