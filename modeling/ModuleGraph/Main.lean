import ModuleGraph.CommandLine.Run

/-!
# The program

The program gathers what a run needs, its arguments, the working directory, the home and
configuration directories, and answers to its file lookups, and prints the run's report.

A run is a pure function of a file system, so the program learns the real one as the run
asks about it: it runs with what it knows, looks up the paths that run asked about and it
did not know, and runs again, until a run asks about nothing new. That last run saw the
real answer to every lookup it made, so its report is the report of a run on the real file
system.
-/

namespace ModuleGraph.CommandLine

/-- What the real file system says about a path: a file with its bytes read as text if they
are UTF-8, a directory when reading says so, or the failure. -/
def lookUp (p : String) : IO (Except SystemError Node) := do
  match ← (IO.FS.readBinFile p).toBaseIO with
  | .ok bytes => return .ok (.file (String.fromUTF8? bytes))
  | .error (.inappropriateType _ code _) =>
    return if code == 21 then .ok .directory else .error .notDirectory
  | .error (.invalidArgument _ code _) =>
    return .error (if code == 36 then .nameTooLong else .notFound)
  | .error _ => return .error .notFound

/-- Runs until a run asks about no path the answers do not know. -/
partial def settle (env : Environment) (args : List String) (answers : Answers) : IO Report := do
  let (report, consulted) := run env answers.fileSystem args
  let fresh := (consulted.filter fun p => !answers.knows p).map (·.text) |>.eraseDups
  if fresh.isEmpty then return report
  let found ← fresh.mapM fun p => do return (p, ← lookUp p)
  settle env args ⟨answers.known ++ found⟩

end ModuleGraph.CommandLine

/-- Runs the command line and exits with its status. -/
def main (args : List String) : IO UInt32 := do
  let cwd ← IO.currentDir
  let env : ModuleGraph.CommandLine.Environment :=
    ⟨⟨cwd.toString⟩, ← IO.getEnv "HOME", ← IO.getEnv "XDG_CONFIG_HOME"⟩
  let report ← ModuleGraph.CommandLine.settle env args ⟨[]⟩
  IO.print report.stdout
  IO.eprint report.stderr
  return report.status.toUInt32
