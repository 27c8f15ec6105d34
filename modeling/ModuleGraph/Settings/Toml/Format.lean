import ModuleGraph.Settings.Toml.Typed
import ModuleGraph.Configuration

/-!
# TOML as the settings format of a configuration

A TOML document, read as a configuration reads its settings: the root's items sorted by key,
the order a reader visits a table in; a truth value or text from a scalar of its kind; a table
from a table, and a date or time as a table of its private key; any value as the reader of any
value checks it. The errors are worded as those readers word them.
-/

namespace ModuleGraph

namespace Settings.Toml

/-- TOML as a settings format. A value is a root item, so that an error can point at its key. -/
def format : Settings.Format Item TomlError where
  root text := (readDocument text).map fun items => sortByKey (items.map fun it => (it.key, it))
  truth it := readScalar it.node "a boolean" fun
    | .boolean b => some b
    | _ => none
  text it := readScalar it.node "a string" fun
    | .string s => some s
    | _ => none
  table it := it.node.toTable
  any it := it.node.checkAny
  unknownField k it fields := ⟨"unknown field `" ++ k ++ "`, expected one of " ++
    ", ".intercalate (fields.map fun f => "`" ++ f ++ "`"), some it.keySpan⟩
  neither it := ⟨"data did not match any variant of untagged enum Raw", some it.node.span⟩

end Settings.Toml

namespace Configuration

/-- Reads a configuration from the text of a TOML document. -/
def parse (text : String) : Except Settings.Toml.TomlError Configuration :=
  read Settings.Toml.format text

/-- The text of a configuration error on `text`: the context, then the diagnostic. -/
def errorMessage (text : String) (e : Settings.Toml.TomlError) : String :=
  invalidMessage ++ ": " ++ e.render text

end Configuration

end ModuleGraph
