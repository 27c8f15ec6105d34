import ModuleGraph.CommandLine.Arguments
import ModuleGraph.CommandLine.FileSystem
import ModuleGraph.Settings.Toml.Format
import ModuleGraph.Build.Pass
import ModuleGraph.Text.Terminal

/-!
# A run of the command line

A run reads its arguments, then its configuration: the file given with `--config`, or else
the first of `depwalk.toml` in the working directory and the user's configuration file that
is a file, or else the defaults. `--cache` and `--skip-cached` then override it. The
entries are made absolute against the working directory, lexically, and built as many
times as `--passes` says (at least once) with one store of results.

The run prints the last build's files, one per line. Its status is 0 when no file was
missing in the last build, 2 when one was, and 1 on an error, which is logged. Log records
go to the error stream: warnings and errors always, information with `-v`, debugging with
`-vv`, tracing with `-vvv`.

Besides its report, a run gives every path it asked the file system about, so that a
caller that learns the file system as it goes can tell when it knew enough.
-/

namespace ModuleGraph.CommandLine

/-- What a run learns from its surroundings. -/
structure Environment where
  /-- The working directory, absolute and without `.` or `..` segments. -/
  cwd : Path
  home : Option String
  /-- The user's configuration directory, if set. -/
  configHome : Option String

/-- What a run leaves: its exit status and what it wrote to its two streams. -/
structure Report where
  status : Nat
  stdout : String
  stderr : String
  deriving DecidableEq, Repr

/-- The names of a path's components that are names, in order. -/
def names (p : Path) : List String :=
  p.components.filterMap fun
    | .normal n => some n
    | _ => none

/-- A path made absolute against `cwd` without looking at a file system: a leading `.` is
dropped, `.` segments and repeated separators go, `..` segments stay, and a trailing
separator stays. An absolute path keeps a leading `//`, but not three or more separators. -/
def absoluteIn (cwd p : Path) : Path :=
  let comps := match p.components with
    | .current :: rest => rest
    | cs => cs
  let (start, comps) :=
    if p.isAbsolute then
      if p.text.startsWith "//" && !p.text.startsWith "///" then (Path.mk "//", comps.drop 1)
      else (Path.empty, comps)
    else (cwd, comps)
  let built := comps.foldl (fun acc c => acc.join ⟨c.text⟩) start
  if p.text.endsWith "/" then built.join Path.empty else built

/-- The file a project's configuration is read from, in the working directory. -/
def localConfigName : String := "depwalk.toml"

/-- The user's configuration file: `depwalk/config.toml` in the configuration directory,
which is the one set when it is absolute, and `.config` in the home directory otherwise. -/
def userConfigPath (env : Environment) : Option Path :=
  let set := env.configHome.filter (·.startsWith "/")
  let dir := match set with
    | some d => some (Path.mk d)
    | none => env.home.map fun h => (Path.mk h).join ⟨".config/"⟩
  dir.map fun d => (d.join ⟨"depwalk"⟩).join ⟨"config.toml"⟩

/-- Reads the configuration file at `p`; an error is the whole message. -/
def loadConfig (fs : FileSystem) (p : Path) : Except String Configuration :=
  match fs.read p with
  | .error e => .error ("Failed to read config file " ++ p.text ++ ": " ++ e.message)
  | .ok text =>
    match Configuration.parse text with
    | .ok c => .ok c
    | .error e => .error ("In " ++ p.text ++ ": " ++ Configuration.errorMessage text e)

/-- The configuration found without `--config`: the first candidate that is a file, or the
defaults. Returns the log, the paths looked at, and the configuration. -/
def findConfig (env : Environment) (fs : FileSystem) :
    List Record × List Path × Except String Configuration :=
  let candidates := env.cwd.join ⟨localConfigName⟩ :: (userConfigPath env).toList
  match candidates.find? fs.isFile with
  | some p => ([⟨.debug, .config, "Using config file " ++ p.text⟩], candidates, loadConfig fs p)
  | none => ([], candidates, .ok Configuration.default)

/-- The configuration with the command line's overrides: `--cache` replaces the caching,
and `--skip-cached` turns skipping on. -/
def Options.override (o : Options) (c : Configuration) : Configuration :=
  let caching := match o.cache with
    | some (some name) => Caching.ofName name
    | some none => .shared
    | none => c.caching
  { c with caching, skipCached := c.skipCached || o.skipCached }

/-- The most detailed level logged for a number of `-v`. -/
def verbosity : Nat → Level
  | 0 => .warn
  | 1 => .info
  | 2 => .debug
  | _ => .trace

/-- Everything some passes leave: their log, the paths they looked at, and the last build or
the first failure. -/
structure Passes where
  log : List Record
  consulted : List Path
  outcome : Except String (Build Source.Scanned)

/-- Runs `remaining` more passes over `entries`, numbered from `number`, with the store
`cache`; `last` is the previous pass's build. -/
def runPasses (files : FileSource) (o : BuildOptions) (entries : List Job) :
    Nat → Nat → ResultCache Source.Scanned → Nat → Build Source.Scanned → Passes
  | 0, _, _, _, last => ⟨[], [], .ok last⟩
  | remaining + 1, number, cache, serial, _ =>
    let r := Build.run Transformer.importScan files o entries cache serial
    let consulted := (r.handled.filter (·.2 != .skipped)).map (·.1)
    match r.outcome with
    | .error e => ⟨r.log, consulted, .error e.message⟩
    | .ok b =>
      let note : Record :=
        ⟨.info, .program, "Pass " ++ toString number ++ ": " ++ toString b.size ++ " file(s)"⟩
      let rest := runPasses files o entries remaining (number + 1) r.cache r.serial b
      ⟨r.log ++ [note] ++ rest.log, consulted ++ rest.consulted, rest.outcome⟩

/-- The report of a run that read its options, with the paths it looked at. -/
def runWith (env : Environment) (fs : FileSystem) (opts : Options) : Report × List Path :=
  let limit := verbosity opts.verbose
  let (configLog, consulted, loaded) := match opts.config with
    | some p => ([], [Path.mk p], loadConfig fs ⟨p⟩)
    | none => findConfig env fs
  match loaded with
  | .error msg => (⟨1, "", renderAll limit (configLog ++ [⟨.error, .program, msg⟩])⟩, consulted)
  | .ok config =>
    let config := opts.override config
    let log := configLog ++ [⟨.debug, .program, "Effective configuration: " ++ config.debug⟩]
    let entries := opts.entries.map fun e => Job.ofPath (absoluteIn env.cwd ⟨e⟩)
    let passes := runPasses fs.source config.options entries (max opts.passes 1) 1
      ResultCache.empty 0 ⟨[], []⟩
    let log := log ++ passes.log
    let consulted := consulted ++ passes.consulted
    match passes.outcome with
    | .error msg => (⟨1, "", renderAll limit (log ++ [⟨.error, .program, msg⟩])⟩, consulted)
    | .ok b =>
      (⟨if b.missing.isEmpty then 0 else 2, String.join (b.paths.map (·.text ++ "\n")),
        renderAll limit log⟩, consulted)

/-- Runs the command line on its arguments, those after the program's name. Returns the
report and the paths the run looked at. The error stream is not a terminal, so it receives
its text without control characters and escape sequences. -/
def run (env : Environment) (fs : FileSystem) (args : List String) : Report × List Path :=
  let (report, consulted) : Report × List Path := match parse args with
    | .error .help => (⟨0, helpText, ""⟩, [])
    | .error .version => (⟨0, versionText, ""⟩, [])
    | .error (.usage text) => (⟨2, "", text⟩, [])
    | .ok opts => runWith env fs opts
  ({ report with stderr := Text.plain report.stderr }, consulted)

end ModuleGraph.CommandLine
