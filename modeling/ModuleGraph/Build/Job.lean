import ModuleGraph.Path.Basic
import ModuleGraph.Settings.Value

/-!
# Jobs

A job is one file handed to a build: its path, content supplied by the caller (which
then wins over what is stored), and settings of its own. The caller's entry files are
jobs; every file found later is a job with a path and nothing else. A job whose path is
missing or empty has no path.
-/

namespace ModuleGraph

/-- A file handed to a build. -/
structure Job where
  filename : Option Path
  content : Option String
  settings : Settings.Table
  deriving Inhabited

namespace Job

/-- The job's path, unless it is missing or empty. -/
def path (j : Job) : Option Path :=
  match j.filename with
  | some p => if p.text = "" then none else some p
  | none => none

/-- The job for a file found while building: a path and nothing else. -/
def ofPath (p : Path) : Job := ⟨some p, none, []⟩

end Job

end ModuleGraph
