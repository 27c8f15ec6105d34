import ModuleGraph.Settings.Value
import ModuleGraph.Build.Options

/-!
# Configuration

A configuration file is a settings document whose root may hold only these keys:

* `cache`: `true` keeps results in the shared partition, `false` keeps none, a name keeps
  them in the partition of that name, and the empty name keeps none;
* `skip_cached_files`, and the flag that looks dependencies up by specifiers as written:
  truth values;
* `default_extension`: the extension the resolver appends;
* `transform`: the global settings, a table.

Every key may be left out, and its field then keeps its default. The root's entries are read in
the order the format visits them, and the first entry whose key is unknown, or whose value its
field cannot read, is the error.

The settings format is a parameter (`Settings.Format`): it reads a text into the entries of its
root table, reads a value as a truth value, as text, as a table or as any value at all, and words
the errors. The cache setting is an untagged choice: its value is read as any value first, then
as a truth value, and failing that as text.
-/

namespace ModuleGraph

/-- What reading a configuration asks of a settings format: the entries of the root table of a
text, each key with its value, in the order a reader visits them; a value read as a truth value,
as text, as a table of settings, or as any value at all; and the errors for a key no field has
(given the keys there are) and for a value that is neither a truth value nor text. -/
structure Settings.Format (Value Error : Type) where
  root : String → Except Error (List (String × Value))
  truth : Value → Except Error Bool
  text : Value → Except Error String
  table : Value → Except Error Settings.Table
  any : Value → Except Error Unit
  unknownField : String → Value → List String → Error
  neither : Value → Error

/-- A configuration. -/
structure Configuration where
  caching : Caching
  skipCached : Bool
  byWritten : Bool
  defaultExtension : Option String
  transform : Settings.Table

namespace Configuration

/-- The configuration when no file gives one. -/
def default : Configuration := ⟨.off, false, false, none, []⟩

/-- The keys a configuration may hold, in the order errors list them. -/
def fields : List String :=
  ["cache", "skip_cached_files", "fetch_from_original_module_source", "default_extension",
    "transform"]

variable {Value Error : Type} (fmt : Settings.Format Value Error)

/-- Reads the cache setting: any value first, then a truth value, or else a name. -/
def readCaching (v : Value) : Except Error Caching := do
  fmt.any v
  match fmt.truth v with
  | .ok b => pure (Caching.ofFlag b)
  | .error _ =>
    match fmt.text v with
    | .ok s => pure (Caching.ofName s)
    | .error _ => throw (fmt.neither v)

/-- Reads a value with `read` and puts what it gives into the configuration with `put`. -/
def setWith {α : Type} (read : Value → Except Error α) (put : Configuration → α → Configuration)
    (c : Configuration) (v : Value) : Except Error Configuration :=
  put c <$> read v

/-- Sets the field of one entry of the root table from its value. -/
def setField (c : Configuration) (e : String × Value) : Except Error Configuration :=
  match e.1 with
  | "cache" => setWith (readCaching fmt) (fun c p => { c with caching := p }) c e.2
  | "skip_cached_files" => setWith fmt.truth (fun c b => { c with skipCached := b }) c e.2
  | "fetch_from_original_module_source" =>
    setWith fmt.truth (fun c b => { c with byWritten := b }) c e.2
  | "default_extension" =>
    setWith (fun v => some <$> fmt.text v) (fun c e => { c with defaultExtension := e }) c e.2
  | "transform" => setWith fmt.table (fun c t => { c with transform := t }) c e.2
  | k => .error (fmt.unknownField k e.2 fields)

/-- A configuration from the entries of a root table, set in order over the defaults. -/
def ofEntries (entries : List (String × Value)) : Except Error Configuration :=
  entries.foldlM (setField fmt) default

/-- Reads a configuration from the text of a settings document. -/
def read (text : String) : Except Error Configuration :=
  fmt.root text >>= ofEntries fmt

/-- The context every configuration error is reported in. -/
def invalidMessage : String := "Invalid depwalk configuration"

/-- Build options from a configuration: the default resolver with the configured extension
(or `js`), and no map of specifiers. -/
def options (c : Configuration) : BuildOptions :=
  let resolver := match c.defaultExtension with
    | some e => PathResolver.withExtension e
    | none => PathResolver.standard
  ⟨c.caching, c.skipCached, c.byWritten, resolver.resolve, none, c.transform⟩

/-- The debug form of a configuration. -/
def debug (c : Configuration) : String :=
  let ext := match c.defaultExtension with
    | some e => "Some(" ++ Text.quote e ++ ")"
    | none => "None"
  "Config \x7b cache: " ++ c.caching.debug ++ ", skip_cached_files: " ++ toString c.skipCached ++
    ", fetch_from_original_module_source: " ++ toString c.byWritten ++
    ", default_extension: " ++ ext ++ ", transform: " ++ c.transform.debug ++ " \x7d"

end Configuration

/-- The debug form of a pass runner with the import scan and these options. -/
def BuildOptions.runnerDebug (o : BuildOptions) : String :=
  "Compiler \x7b transformer: ImportScanner, options: " ++ o.debug ++ ", .. \x7d"

/-- The debug form of the content loader. -/
def loaderDebug : String := "SourceLoader \x7b .. \x7d"

end ModuleGraph
