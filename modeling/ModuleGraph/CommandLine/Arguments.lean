import ModuleGraph.Text.Similarity

/-!
# The command line's arguments

`depwalk [OPTIONS] <ENTRIES>...` takes one or more entry files and these options:

* `-c`, `--config <CONFIG>`: the configuration file;
* `--cache [<NAMESPACE>]`: keep results, in the shared partition or the one named;
* `--skip-cached`: skip files that have results;
* `--passes <PASSES>`: how many passes to run, a whole number (1 when not given);
* `-v`, `--verbose`: one more level of logging each time it is given;
* `-h`, `--help` and `-V`, `--version`.

Arguments are read left to right. `--` makes every later argument an entry. A long option
takes its value after `=` or as the next argument, a short one right after its letter (an
`=` there is dropped) or as the next argument; short flags may be written together, as in
`-vv`. `--cache` takes a value only when one follows that does not look like an option.

Values are held until the next option, entry or the end, and only then checked, so an
invalid value is reported there; an unknown option reported first wins over it. Help and
version are given as soon as they are read, unless an error came first. Every error text
ends by pointing at `--help`, and most show a usage line: the full one, or one listing
the arguments given so far.
-/

namespace ModuleGraph.CommandLine

/-- The arguments of the command line. -/
inductive Arg where
  | entries
  | config
  | cache
  | skipCached
  | passes
  | verbose
  | help
  | version
  deriving DecidableEq, Repr

namespace Arg

/-- The options, in the order they are declared. -/
def options : List Arg := [config, cache, skipCached, passes, verbose, help, version]

/-- The long name of an option. -/
def long : Arg → String
  | entries => ""
  | config => "config"
  | cache => "cache"
  | skipCached => "skip-cached"
  | passes => "passes"
  | verbose => "verbose"
  | help => "help"
  | version => "version"

/-- The letter of an option that has one. -/
def short? : Arg → Option Char
  | config => some 'c'
  | verbose => some 'v'
  | help => some 'h'
  | version => some 'V'
  | _ => none

/-- Whether an argument takes values. -/
def takesValue : Arg → Bool
  | entries | config | cache | passes => true
  | _ => false

/-- Whether an argument needs at least one value when given. -/
def needsValue : Arg → Bool
  | entries | config | passes => true
  | _ => false

/-- The option with a long name. -/
def ofLong (name : String) : Option Arg := options.find? (·.long == name)

/-- The option with a letter. -/
def ofShort (c : Char) : Option Arg := options.find? (·.short? == some c)

/-- How messages name an argument. -/
def display : Arg → String
  | entries => "<ENTRIES>..."
  | config => "--config <CONFIG>"
  | cache => "--cache [<NAMESPACE>]"
  | skipCached => "--skip-cached"
  | passes => "--passes <PASSES>"
  | verbose => "--verbose..."
  | help => "--help"
  | version => "--version"

end Arg

/-- What the arguments ask for when they ask for a run. -/
structure Options where
  entries : List String
  config : Option String
  /-- `some none` for `--cache` without a name. -/
  cache : Option (Option String)
  skipCached : Bool
  passes : Nat
  verbose : Nat
  deriving Repr

/-- Why reading the arguments stopped without a run. -/
inductive Stop where
  | help
  | version
  /-- A usage error, with its full text. -/
  | usage (text : String)
  deriving Repr

/-- The name the command line goes by. -/
def programName : String := "depwalk"

/-- The version the command line reports. -/
def versionText : String := programName ++ " 0.1.0\n"

/-- The help text. -/
def helpText : String :=
  "Dependency-graph discovery and cached compilation driver for pluggable source transformers\n\n" ++
  "Usage: depwalk [OPTIONS] <ENTRIES>...\n\n" ++
  "Arguments:\n" ++
  "  <ENTRIES>...  Entry source files\n\n" ++
  "Options:\n" ++
  "  -c, --config <CONFIG>      Configuration file (defaults to ./depwalk.toml, then the user config)\n" ++
  "      --cache [<NAMESPACE>]  Cache transformer output, optionally under a namespace (an empty namespace disables caching)\n" ++
  "      --skip-cached          Skip files that are already cached instead of revalidating them\n" ++
  "      --passes <PASSES>      Run the compilation this many times against one cache [default: 1]\n" ++
  "  -v, --verbose...           Increase log verbosity (-v, -vv, -vvv)\n" ++
  "  -h, --help                 Print help\n" ++
  "  -V, --version              Print version\n"

/-! ## Error texts -/

/-- The usage line with every option folded into `[OPTIONS]`. -/
def fullUsage : String := programName ++ " [OPTIONS] <ENTRIES>..."

/-- Keeps the first of equal items. -/
def dedup (xs : List Arg) : List Arg :=
  xs.foldl (fun acc a => if acc.contains a then acc else acc ++ [a]) []

/-- The usage line for the arguments `used`: those options, then the entries; the full line
when nothing was used. -/
def usageFor (used : List Arg) : String :=
  if used.isEmpty then fullUsage
  else
    programName ++ String.join ((dedup (used.filter (· != .entries))).map (" " ++ ·.display)) ++
      " " ++ Arg.entries.display

/-- The arguments the command line declares itself, help and version aside; together they
form a group. -/
def Arg.declared : List Arg := [.entries, .config, .cache, .skipCached, .passes, .verbose]

/-- The group of declared arguments as a usage line shows it: one of them, entries by their
bare name. -/
def groupUsage : String :=
  let shown := Arg.declared.map fun a => if a == .entries then "ENTRIES" else a.display
  "<" ++ "|".intercalate shown ++ ">"

/-- The usage line of a value given to a flag `a`. Once an argument has been taken, the group
of declared arguments stands for every one of them; only help or version is named apart. -/
def flagValueUsage (taken : List Arg) (a : Arg) : String :=
  if taken.isEmpty then usageFor [a]
  else
    programName ++ (if Arg.declared.contains a then "" else " " ++ a.display) ++ " " ++ groupUsage

/-- The end of every error text. -/
def tryHelp : String := "\n\nFor more information, try '--help'."

/-- An error text: the message, the usage line if any, and the pointer to `--help`. -/
def errorText (message : String) (usage : Option String) : String :=
  "error: " ++ message ++ (match usage with | some u => "\n\nUsage: " ++ u | none => "") ++
    tryHelp ++ "\n"

/-- An argument that looks like an option but is none. -/
def unknownArgument (arg : String) (similar : Option String) (usage : String) : String :=
  let tip := match similar with
    | some s => "a similar argument exists: '" ++ s ++ "'"
    | none => "to pass '" ++ arg ++ "' as a value, use '-- " ++ arg ++ "'"
  errorText ("unexpected argument '" ++ arg ++ "' found\n\n  tip: " ++ tip) (some usage)

/-- A value given to an option that takes none. -/
def unexpectedValue (value : String) (a : Arg) (usage : String) : String :=
  errorText ("unexpected value '" ++ value ++ "' for '" ++ a.display ++
    "' found; no more were expected") (some usage)

/-- An option given without the value it needs, or with an empty one. -/
def missingValue (a : Arg) : String :=
  errorText ("a value is required for '" ++ a.display ++ "' but none was supplied") none

/-- A value that is not what the option takes. -/
def invalidValue (a : Arg) (value reason : String) : String :=
  errorText ("invalid value '" ++ value ++ "' for '" ++ a.display ++ "': " ++ reason) none

/-- An option given twice that may be given once. -/
def givenTwice (a : Arg) : String :=
  errorText ("the argument '" ++ a.display ++ "' cannot be used multiple times") (some fullUsage)

/-- No entry was given. -/
def entriesMissing (used : List Arg) : String :=
  errorText ("the following required arguments were not provided:\n  " ++ Arg.entries.display)
    (some (usageFor (used ++ [.entries])))

/-! ## Whole numbers -/

/-- Reads a whole number of at most 64 bits: decimal digits after an optional `+`. -/
def parseCount (s : String) : Except String Nat :=
  let digits := match s.toList with
    | '+' :: rest => rest
    | cs => cs
  if s.isEmpty then .error "cannot parse integer from empty string"
  else if digits.isEmpty || !digits.all Char.isDigit then .error "invalid digit found in string"
  else
    let n := digits.foldl (fun n c => 10 * n + (c.toNat - '0'.toNat)) 0
    if n < Nat.pow 2 64 then .ok n else .error "number too large to fit in target type"

/-! ## Reading -/

/-- The arguments read so far. -/
structure Matches where
  /-- The arguments given, in the order first given; counting `-v` again moves it last. -/
  seen : List Arg
  entries : List String
  config : Option String
  cache : Option (Option String)
  skipCached : Bool
  passes : Option Nat
  verbose : Nat

/-- Nothing read yet. -/
def Matches.empty : Matches := ⟨[], [], none, none, false, none, 0⟩

/-- Marks an argument as given. -/
def Matches.start (m : Matches) (a : Arg) : Matches :=
  if m.seen.contains a then m else { m with seen := m.seen ++ [a] }

/-- Stores one value of an argument, or says why it is not one. -/
def Matches.store (m : Matches) (a : Arg) (v : String) : Except String Matches :=
  match a with
  | .entries => if v.isEmpty then .error (missingValue a) else .ok { m with entries := m.entries ++ [v] }
  | .config => if v.isEmpty then .error (missingValue a) else .ok { m with config := some v }
  | .cache => .ok { m with cache := some (some v) }
  | .passes =>
    match parseCount v with
    | .ok n => .ok { m with passes := some n }
    | .error reason => .error (invalidValue a v reason)
  | _ => .ok m

/-- Stores values in order; on a bad value, what was stored before it and the error. -/
def Matches.storeAll (m : Matches) (a : Arg) : List String → Matches × Option Stop
  | [] => (m, none)
  | v :: rest =>
    match m.store a v with
    | .ok m => m.storeAll a rest
    | .error e => (m, some (.usage e))

/-- Takes an argument with its values: checks their number, then applies the argument.
Returns what was read, and why to stop, if so. -/
def Matches.take (m : Matches) (a : Arg) (values : List String) : Matches × Option Stop :=
  if a.needsValue && values.isEmpty then (m, some (.usage (missingValue a)))
  else
    match a with
    | .help => (m, some .help)
    | .version => (m, some .version)
    | .verbose =>
      ({ m with seen := m.seen.filter (· != .verbose) ++ [.verbose], verbose := min 255 (m.verbose + 1) },
        none)
    | .entries => (m.start a).storeAll a values
    | a =>
      if m.seen.contains a then
        ({ m with seen := m.seen.filter (· != a) }, some (.usage (givenTwice a)))
      else
        let m := m.start a
        let m := match a with
          | .skipCached => { m with skipCached := true }
          | .cache => { m with cache := some none }
          | _ => m
        m.storeAll a values

/-- What the next argument may be. -/
inductive Expecting where
  /-- Anything. -/
  | anything
  /-- A value of this option. -/
  | value (a : Arg)
  /-- More entries. -/
  | entry
  deriving DecidableEq, Repr

/-- The state of reading: what was read, the argument whose values are still held, what
may come next, and whether `--` was read. -/
structure Reading where
  got : Matches
  held : Option (Arg × List String)
  expecting : Expecting
  afterSeparator : Bool

namespace Reading

/-- Takes the held argument, if any. The state is updated even when that fails. -/
def settle (r : Reading) : Reading × Option Stop :=
  match r.held with
  | none => (r, none)
  | some (a, values) =>
    let (m, stop) := r.got.take a values
    ({ r with got := m, held := none }, stop)

/-- Takes the held argument, then `a` with its values. -/
def takeNow (r : Reading) (a : Arg) (values : List String) : Except Stop Reading :=
  match r.settle with
  | (_, some stop) => .error stop
  | (r, none) =>
    match r.got.take a values with
    | (_, some stop) => .error stop
    | (m, none) => .ok { r with got := m, expecting := .anything }

/-- Takes the held argument and holds `a`, whose values come next. -/
def holdNext (r : Reading) (a : Arg) : Except Stop Reading :=
  match r.settle with
  | (_, some stop) => .error stop
  | (r, none) => .ok { r with held := some (a, []), expecting := .value a }

/-- An entry. -/
def entry (r : Reading) (v : String) : Except Stop Reading :=
  match r.held with
  | some (.entries, values) => .ok { r with held := some (.entries, values ++ [v]), expecting := .entry }
  | _ =>
    match r.settle with
    | (_, some stop) => .error stop
    | (r, none) => .ok { r with held := some (.entries, [v]), expecting := .entry }

/-- An argument `--name` or `--name=value`. -/
def long (r : Reading) (body : String) : Except Stop Reading :=
  let (name, value) := match body.splitOn "=" with
    | [n] => (n, none)
    | n :: rest => (n, some ("=".intercalate rest))
    | [] => (body, none)
  match Arg.ofLong name with
  | some a =>
    if a.takesValue then
      match value with
      | some v => r.takeNow a [v]
      | none => r.holdNext a
    else
      match value with
      | some v =>
        .error (.usage (unexpectedValue v a (flagValueUsage r.got.seen a)))
      | none => r.takeNow a []
  | none =>
    let r := r.settle.1
    let similar := Text.suggest name (Arg.options.map Arg.long)
    let seen := match similar.bind Arg.ofLong with
      | some a => (r.got.start a).seen
      | none => r.got.seen
    .error (.usage (unknownArgument ("--" ++ name) (similar.map ("--" ++ ·)) (usageFor seen)))

/-- The letters of an argument `-abc`, from the first one not yet read. -/
def shorts (r : Reading) : List Char → Except Stop Reading
  | [] => .ok { r with expecting := .anything }
  | c :: rest =>
    match Arg.ofShort c with
    | some a =>
      if a.takesValue then
        match rest with
        | [] => r.holdNext a
        | '=' :: v => r.takeNow a [String.ofList v]
        | v => r.takeNow a [String.ofList v]
      else
        match r.takeNow a [] with
        | .ok r => shorts r rest
        | .error stop => .error stop
    | none =>
      let arg := "-" ++ String.ofList [c]
      .error (.usage (unknownArgument arg none fullUsage))

/-- Reads one argument. -/
def step (r : Reading) (arg : String) : Except Stop Reading :=
  if r.afterSeparator then r.entry arg
  else if arg == "--" then .ok { r with afterSeparator := true }
  else if arg.startsWith "--" then r.long (arg.drop 2).toString
  else if arg.startsWith "-" && arg != "-" then r.shorts (arg.toList.drop 1)
  else
    match r.expecting, r.held with
    | .value _, some (a, values) => .ok { r with held := some (a, values ++ [arg]), expecting := .anything }
    | _, _ => r.entry arg

/-- Reads the arguments in order. -/
def readAll (r : Reading) : List String → Except Stop Reading
  | [] => .ok r
  | arg :: rest =>
    match r.step arg with
    | .ok r => readAll r rest
    | .error stop => .error stop

end Reading

/-- Reads the arguments after the program's name: the options of a run, or why not to run. -/
def parse (args : List String) : Except Stop Options :=
  match Reading.readAll ⟨Matches.empty, none, .anything, false⟩ args with
  | .error stop => .error stop
  | .ok r =>
    match r.settle with
    | (_, some stop) => .error stop
    | (r, none) =>
      let m := r.got
      if m.seen.contains .entries then
        .ok ⟨m.entries, m.config, m.cache, m.skipCached, m.passes.getD 1, m.verbose⟩
      else .error (.usage (entriesMissing m.seen))

end ModuleGraph.CommandLine
