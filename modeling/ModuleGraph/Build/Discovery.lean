import ModuleGraph.Build.Frontier
import ModuleGraph.Resolution
import ModuleGraph.Log
import ModuleGraph.Text.Quoted

/-!
# Discovering dependencies

While one file is handled, every specifier in it is registered: it is looked up (by its
text as written, or as mapped by the caller, as the build options say), resolved from the file's
path, and the resolved path becomes a dependency of the file. A dependency met for the
first time in this file is queued on the frontier, which ignores a path queued before.
The pair of the specifier as written and as mapped is kept as a reference of the file;
references are kept once each, in the order first met, and so are dependencies (compared
by components, the first spelling kept).

A file's references are what the result store keeps beside its result; replaying them
later registers them again, just as the file's specifiers were.
-/

namespace ModuleGraph

/-- A specifier as written in a file and as mapped by the caller. -/
structure Reference where
  written : String
  mapped : String
  deriving DecidableEq, Repr, Inhabited

/-- The text a reference is looked up by: as written when `byWritten` holds, else as
mapped. -/
def Reference.lookup (r : Reference) (byWritten : Bool) : String :=
  if byWritten then r.written else r.mapped

/-- How discovered references are looked up and resolved. -/
structure Lookup where
  resolve : Resolver
  byWritten : Bool

/-- What has been discovered while handling one file. -/
structure Discovery where
  dependencies : List Path
  references : List Reference
  deriving Inhabited

namespace Discovery

/-- Nothing discovered yet. -/
def empty : Discovery := ⟨[], []⟩

/-- Registers one reference met in the file at `referencing`: resolves it, records the
dependency and the reference, and queues a new dependency on the frontier. Returns the
log records of the step. -/
def register (how : Lookup) (d : Discovery) (f : Frontier) (r : Reference)
    (referencing : Path) : Discovery × Frontier × List Record :=
  let lookup := r.lookup how.byWritten
  let path := how.resolve lookup referencing
  let seen : Record := ⟨.trace, .discovery,
    referencing.text ++ " references '" ++ lookup ++ "' -> " ++ path.text⟩
  let refs := if d.references.contains r then d.references else d.references ++ [r]
  if d.dependencies.any (·.same path) then
    (⟨d.dependencies, refs⟩, f, [seen])
  else
    let (queued, f') := f.enqueue path
    let log := if queued then [seen, ⟨.trace, .frontier, "Queueing " ++ path.text⟩] else [seen]
    (⟨d.dependencies ++ [path], refs⟩, f', log)

/-- Registers references in order. -/
def registerAll (how : Lookup) (referencing : Path) :
    Discovery → Frontier → List Reference → Discovery × Frontier × List Record
  | d, f, [] => (d, f, [])
  | d, f, r :: rest =>
    let (d₁, f₁, log₁) := d.register how f r referencing
    let (d₂, f₂, log₂) := registerAll how referencing d₁ f₁ rest
    (d₂, f₂, log₁ ++ log₂)

/-- The debug form of a discovery, with the lookup mode it was made under: the mode, the
dependencies and the references, each set between braces. -/
def debug (byWritten : Bool) (d : Discovery) : String :=
  let reference (r : Reference) : String :=
    "ModuleReference \x7b original: " ++ Text.quote r.written ++ ", rewritten: " ++
      Text.quote r.mapped ++ " \x7d"
  "DependencyContext \x7b fetch_from_original: " ++ toString byWritten ++
    ", dependencies: \x7b" ++ ", ".intercalate (d.dependencies.map fun p => Text.quote p.text) ++
    "\x7d, references: \x7b" ++ ", ".intercalate (d.references.map reference) ++ "\x7d, .. \x7d"

end Discovery

/-- The mapped form of a specifier met in the file at `referencing`: its image under the
caller's map if there is one, the specifier itself otherwise. -/
def mapWith (map : Option (String → Path → String)) (specifier : String)
    (referencing : Path) : String :=
  match map with
  | some g => g specifier referencing
  | none => specifier

/-- The hook a transformer calls for each specifier it meets in the file at `referencing`: it
maps the specifier, registers it together with its mapped form, and returns the mapped form,
which is all the transformer sees. -/
def Discovery.intercept (how : Lookup) (map : Option (String → Path → String)) (d : Discovery)
    (f : Frontier) (specifier : String) (referencing : Path) :
    String × Discovery × Frontier × List Record :=
  let mapped := mapWith map specifier referencing
  let (d', f', log) := d.register how f ⟨specifier, mapped⟩ referencing
  (mapped, d', f', log)

end ModuleGraph
