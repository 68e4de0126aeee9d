import Twisty.CommandLine.Program

/-!
# The command line

The program as it is run: it hands its arguments, its environment and the files that the path of a
preferences file may mean to `Invocation.run`, prints what comes of it, and shows warnings and
failures on standard error.
-/

namespace Twisty.Shell

/-- The name and the value of a variable of the environment. -/
def binding? (s : String) : Option (List Char × List Char) :=
  match s.toList.span (· ≠ '=') with
  | (name, _ :: value) => some (name, value)
  | (_, []) => none

/-- The environment of the program, where the system shows it. -/
def readEnvironment : IO (List (List Char × List Char)) := do
  try
    let text ← IO.FS.readFile "/proc/self/environ"
    return (text.splitOn "\x00").filterMap binding?
  catch _ => return []

/-- The text of a file, if it can be read. -/
def readFile? (path : List Char) : IO (Option (List Char)) := do
  try
    return some (← IO.FS.readFile (String.ofList path)).toList
  catch _ => return none

/-- The files that a path may mean, each with its text if it can be read. -/
def readCandidates (path : List Char) : IO (List (List Char × Option (List Char))) :=
  (Path.candidates path).mapM fun candidate => return (candidate, ← readFile? candidate)

/-- Shows a warning on standard error. Other records are not shown. -/
def showRecord (r : LogRecord) : IO Unit := do
  if r.level = .warn then
    IO.eprintln ("[" ++ r.level.name ++ "] " ++ String.ofList r.message)

end Twisty.Shell

open Twisty Twisty.Shell

def main (arguments : List String) : IO UInt32 := do
  match Invocation.parse (arguments.map String.toList) with
  | .error e =>
    IO.eprintln ("error: " ++ e.kind)
    return e.exitStatus.toUInt32
  | .ok i =>
    let texts ← match i.prefs with
      | some path => readCandidates path
      | none => pure []
    let outcome := i.run (fun path => (texts.lookup path).join) (← readEnvironment)
    outcome.records.forM showRecord
    IO.print (String.ofList outcome.stdout)
    match outcome.failure with
    | some f =>
      IO.eprintln ("error: " ++ String.ofList f.message)
      return 1
    | none => return 0
