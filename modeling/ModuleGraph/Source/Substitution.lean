/-!
# Substitutions in specifiers

A substitution says how a specifier is to be written in the output: each replacement in
turn replaces every occurrence of its pattern (left to right, occurrences not overlapping),
and then a prefix and a suffix are put around the result. The rule looks at the specifier
only, not at the file it stands in.
-/

namespace ModuleGraph.Source

/-- A substitution for specifiers. -/
structure Substitution where
  /-- Pattern and replacement pairs, applied in order; patterns are not empty. -/
  replacements : List (String × String)
  pre : String
  post : String

/-- Applies a substitution to a specifier. -/
def Substitution.apply (r : Substitution) (specifier : String) : String :=
  r.pre ++ r.replacements.foldl (fun acc p => acc.replace p.1 p.2) specifier ++ r.post

end ModuleGraph.Source
