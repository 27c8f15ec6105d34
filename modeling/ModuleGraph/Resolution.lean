import ModuleGraph.Path.Basic

/-!
# Resolving module references to paths

A resolver answers the question "which file does the reference `r`, met in the file at
path `p`, name?". The default resolver adds a file extension when the reference lacks it,
and resolves references that start with `.` against the directory of `p`, lexically.
Other references are taken as paths in their own right.

A few ready-made resolvers of other shapes stand beside it, for callers that lay out
their files differently.
-/

namespace ModuleGraph

/-- A resolver: from a reference and the path of the file it was met in, to a path. -/
abbrev Resolver := String → Path → Path

/-- The extension that references get when they lack one. -/
def defaultExtension : String := "js"

/-- The default resolver, given by the extension it appends, without leading dots. -/
structure PathResolver where
  extension : String
  deriving DecidableEq, Repr

namespace PathResolver

/-- A default resolver for an extension written with or without leading dots. -/
def withExtension (e : String) : PathResolver :=
  ⟨String.ofList (e.toList.dropWhile (· == '.'))⟩

/-- The default resolver with extension `js`. -/
def standard : PathResolver := withExtension defaultExtension

/-- A reference has the extension when it ends with it and the text before that ends
with a dot. -/
def hasExtension (d : PathResolver) (reference : String) : Bool :=
  let cs := reference.toList
  let e := d.extension.toList
  e.isSuffixOf cs && (cs.take (cs.length - e.length)).getLast? == some '.'

/-- The reference with `.` and the extension appended, unless the extension is empty or
the reference has it already. -/
def applyExtension (d : PathResolver) (reference : String) : String :=
  if d.hasExtension reference || d.extension.isEmpty then reference
  else reference ++ "." ++ d.extension

/-- Resolves a reference: with the extension applied, a reference that starts with `.`
is joined onto the directory of the referencing file (the empty path if it has none) and
normalized; any other reference is a path as it stands. -/
def resolve (d : PathResolver) (reference : String) (referencing : Path) : Path :=
  let r := d.applyExtension reference
  if r.startsWith "." then ((referencing.parent.getD Path.empty).join ⟨r⟩).normalize
  else ⟨r⟩

end PathResolver

/-- Resolution with the standard default resolver, extension `js`. -/
def resolveStandard : Resolver := PathResolver.standard.resolve

namespace Resolver

/-- Joins the reference, with `suffix` appended, onto the directory of the referencing
file (the root if it has none), with no normalization. -/
def besideReferrer (suffix : String) : Resolver := fun reference referencing =>
  (referencing.parent.getD ⟨"/"⟩).join ⟨reference ++ suffix⟩

/-- Places every reference under a fixed prefix. -/
def underPrefix (pre : String) : Resolver := fun reference _ => ⟨pre ++ reference⟩

/-- Looks the reference up in a table of aliases, and resolves it with `resolveStandard` when
no alias matches it exactly. -/
def aliased (table : List (String × String)) : Resolver := fun reference referencing =>
  match table.lookup reference with
  | some target => ⟨target⟩
  | none => resolveStandard reference referencing

end Resolver

end ModuleGraph
