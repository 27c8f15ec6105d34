import ModuleGraph.Build.Options
import ModuleGraph.Build.Files

/-!
# One build pass

A pass seeds the frontier with the caller's entries and handles queued jobs first in,
first out, until none is left. For each job, with `e` the stored entry for its path (in
the pass's partition, when results are kept):

* it is skipped when skipping is on, `e` exists, and the job has no supplied content or
  content equal to `e`'s;
* otherwise its content is loaded; a path that is no file is recorded as missing;
* content equal to `e`'s is served from the store: `e`'s result, with `e`'s references
  registered again;
* any other content is transformed, with the global settings layered under the job's
  own; the specifiers the transformer asks about are registered, and the result (with a
  fresh serial number) is stored, replacing `e`.

Only files that are served or transformed can queue new jobs, and each path is queued at
most once, so a pass handles at most as many such files as its entries and its file
source's capacity allow: that bound drives the recursion, while the jobs that are skipped
or missing are passed over one by one.

A pass fails before anything is loaded when an entry has no path. It stops at a file it
cannot read or whose transformation fails; what it stored before stays stored.
-/

namespace ModuleGraph

/-- What a pass produced: modules in the order handled, and paths that were no files. -/
structure Build (α : Type) where
  modules : List (Path × Stamped α)
  missing : List Path

namespace Build

variable {α : Type}

/-- The number of modules. -/
def size (b : Build α) : Nat := b.modules.length

/-- The paths of the modules, in order. -/
def paths (b : Build α) : List Path := b.modules.map (·.1)

/-- The result of the first module whose path equals `p` by components. -/
def get? (b : Build α) (p : Path) : Option (Stamped α) :=
  (b.modules.find? (·.1.same p)).map (·.2)

end Build

/-- Why a pass failed. -/
inductive BuildError where
  | missingPath (e : MissingPath)
  /-- A file could not be read; the message says which and why. -/
  | unreadable (message : String)
  | transformFailed (path : Path) (message : String)

/-- The text of a failure, with its causes after colons. -/
def BuildError.message : BuildError → String
  | .missingPath e => e.message
  | .unreadable m => m
  | .transformFailed p m => "Failed to transform " ++ p.text ++ ": " ++ m

/-- What a pass did with one job. -/
inductive Handling where
  | skipped
  | missing
  | served
  | transformed
  | failed
  deriving DecidableEq, Repr

/-- The state of a pass. -/
structure Pass (α : Type) where
  frontier : Frontier
  cache : ResultCache α
  modules : List (Path × Stamped α)
  missing : List Path
  transformed : Nat
  served : Nat
  skipped : Nat
  /-- The serial number the next computed result gets. -/
  serial : Nat
  log : List Record
  /-- The paths the transformer was run on, in order. -/
  calls : List Path
  /-- Each handled job's path and what was done with it, in order. -/
  handled : List (Path × Handling)

/-- What a pass works with. -/
structure PassContext (α : Type) where
  transformer : Transformer α
  files : FileSource
  options : BuildOptions
  partition : Option Partition
  skip : Bool

/-- The outcome of handling one job. -/
inductive Step (α : Type) where
  /-- Nothing was loaded and nothing queued: the job was skipped or its file is missing. -/
  | passed (s : Pass α)
  /-- The file was served from the store or transformed. -/
  | processed (s : Pass α)
  | failed (e : BuildError) (s : Pass α)

namespace Pass

variable {α : Type}

/-- Adds log records. -/
def note (s : Pass α) (records : List Record) : Pass α := { s with log := s.log ++ records }

/-- Whether a job is skipped: skipping is on, and the stored entry was computed from the
job's supplied content, or the job supplies none. -/
def skips (skip : Bool) (cached : Option (Entry α)) (supplied : Option String) : Bool :=
  skip && match cached with
    | some e => supplied.all e.matches
    | none => false

/-- Handles one job. -/
def handle (ctx : PassContext α) (s : Pass α) (job : Job) : Step α :=
  match job.path with
  | none => .passed s
  | some path =>
    let cached := ctx.partition.bind (s.cache.get path)
    if skips ctx.skip cached job.content then
      .passed { s.note [⟨.debug, .build, "Skipping cached " ++ path.text⟩] with
        skipped := s.skipped + 1, handled := s.handled ++ [(path, .skipped)] }
    else
      let (loaded, loadLog) := ctx.files.load path job.content
      let s := s.note loadLog
      match loaded with
      | .error msg => .failed (.unreadable msg) { s with handled := s.handled ++ [(path, .failed)] }
      | .ok none =>
        .passed { s.note [⟨.warn, .build, "Could not find " ++ path.text⟩] with
          missing := s.missing ++ [path], handled := s.handled ++ [(path, .missing)] }
      | .ok (some content) =>
        match cached.filter (·.matches content) with
        | some e =>
          let s := s.note [⟨.debug, .build, "Reusing cached result for " ++ path.text⟩]
          let (_, f, log) := Discovery.empty.registerAll ctx.options.lookup path s.frontier e.references
          .processed { s.note log with
            frontier := f, modules := s.modules ++ [(path, e.result)], served := s.served + 1,
            handled := s.handled ++ [(path, .served)] }
        | none =>
          let options := Source.FileOptions.layered ctx.options.transform job.settings path
          let mapped := fun o => mapWith ctx.options.mapSpecifier o path
          let (asked, outcome) := ctx.transformer.run content options mapped
          let refs := asked.map fun o => (⟨o, mapped o⟩ : Reference)
          let (d, f, log) := Discovery.empty.registerAll ctx.options.lookup path s.frontier refs
          let s := { s.note log with frontier := f, calls := s.calls ++ [path] }
          match outcome with
          | .error msg =>
            .failed (.transformFailed path msg) { s with handled := s.handled ++ [(path, .failed)] }
          | .ok value =>
            let result : Stamped α := ⟨s.serial, value⟩
            let cache := match ctx.partition with
              | some ns => (s.cache.put path ns ⟨content, result, d.references⟩).2
              | none => s.cache
            .processed { s.note [⟨.debug, .build, "Transformed " ++ path.text ++ " (" ++
                toString d.references.length ++ " references)"⟩] with
              cache, serial := s.serial + 1, modules := s.modules ++ [(path, result)],
              transformed := s.transformed + 1, handled := s.handled ++ [(path, .transformed)] }

/-- Handles the queued jobs in order. `budget` bounds the number of files still to be
served or transformed; the jobs in `queue` are those still queued. -/
def sweep (ctx : PassContext α) (budget : Nat) (s : Pass α) (queue : List Job) :
    Except (BuildError × Pass α) (Pass α) :=
  match queue with
  | [] => .ok s
  | job :: rest =>
    match handle ctx { s with frontier := { s.frontier with queue := rest } } job with
    | .failed e s' => .error (e, s')
    | .passed s' => sweep ctx budget s' rest
    | .processed s' =>
      match budget with
      | 0 => .ok s'
      | b + 1 => sweep ctx b s' s'.frontier.queue
termination_by (budget, queue.length)

end Pass

/-- Everything a pass leaves: its outcome, the store, the next serial number, its log,
and the files it ran the transformer on. -/
structure PassResult (α : Type) where
  outcome : Except BuildError (Build α)
  cache : ResultCache α
  serial : Nat
  log : List Record
  calls : List Path
  handled : List (Path × Handling)

/-- Runs one pass over `entries`, with the store `cache` and serial numbers from `serial`
on. -/
def Build.run {α : Type} (t : Transformer α) (files : FileSource) (o : BuildOptions)
    (entries : List Job) (cache : ResultCache α) (serial : Nat) : PassResult α :=
  match Frontier.seed entries with
  | .error e => ⟨.error (.missingPath e), cache, serial, [], [], []⟩
  | .ok (f, dropped) =>
    let (skip, skipLog) := o.skipsCached
    let ctx : PassContext α := ⟨t, files, o, o.caching.partition?, skip⟩
    let start : Pass α := ⟨f, cache, [], [], 0, 0, 0, serial,
      dropped.map (fun p => ⟨.trace, .frontier, "Dropping duplicate entry " ++ p.text⟩) ++
        [⟨.debug, .build, "Compiling " ++ toString f.size ++ " entry file(s)"⟩] ++ skipLog,
      [], []⟩
    match Pass.sweep ctx (files.capacity + entries.length) start f.queue with
    | .error (e, s) => ⟨.error e, s.cache, s.serial, s.log, s.calls, s.handled⟩
    | .ok s =>
      let summary : Record := ⟨.debug, .build, "Compiled " ++ toString s.modules.length ++
        " file(s): " ++ toString s.transformed ++ " transformed, " ++ toString s.served ++
        " from cache, " ++ toString s.skipped ++ " skipped, " ++ toString s.missing.length ++
        " missing"⟩
      ⟨.ok ⟨s.modules, s.missing⟩, s.cache, s.serial, s.log ++ [summary], s.calls, s.handled⟩

end ModuleGraph
