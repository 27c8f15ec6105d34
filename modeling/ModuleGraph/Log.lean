/-!
# Log records

What the library reports as it works is a list of records, each with a severity, the part
of the library it comes from, and a message. A sink shows a record when its severity is
within the sink's limit, as one line `[LEVEL target] message` with the level name padded
to five characters; further lines of a message are indented by four spaces.
-/

namespace ModuleGraph

/-- Severity of a record, most severe first. -/
inductive Level where
  | error
  | warn
  | info
  | debug
  | trace
  deriving DecidableEq, Repr

/-- The rank of a level: more detailed levels rank higher. -/
def Level.rank : Level → Nat
  | .error => 1
  | .warn => 2
  | .info => 3
  | .debug => 4
  | .trace => 5

/-- The name of a level as a sink shows it. -/
def Level.name : Level → String
  | .error => "ERROR"
  | .warn => "WARN"
  | .info => "INFO"
  | .debug => "DEBUG"
  | .trace => "TRACE"

/-- The part of the program a record comes from. -/
inductive Source where
  /-- The queue of files still to handle. -/
  | frontier
  /-- Discovery of the dependencies of one file. -/
  | discovery
  /-- Loading of file contents. -/
  | loader
  /-- The store of transformation results. -/
  | cache
  /-- Configuration. -/
  | config
  /-- The build pass. -/
  | build
  /-- The command-line program itself. -/
  | program
  deriving DecidableEq, Repr

/-- The target name a sink shows for a source. -/
def Source.target : Source → String
  | .frontier => "depwalk::worklist"
  | .discovery => "depwalk::hook"
  | .loader => "depwalk::loader"
  | .cache => "depwalk::cache"
  | .config => "depwalk::config"
  | .build => "depwalk::compiler"
  | .program => "depwalk"

/-- One log record. -/
structure Record where
  level : Level
  source : Source
  message : String
  deriving DecidableEq, Repr

/-- The line a sink writes for a record, with its final line feed. -/
def Record.render (r : Record) : String :=
  let name := r.level.name
  let padded := name ++ String.ofList (List.replicate (5 - name.length) ' ')
  let body := "\n    ".intercalate (r.message.splitOn "\n")
  "[" ++ padded ++ " " ++ r.source.target ++ "] " ++ body ++ "\n"

/-- The records a sink with limit `limit` shows, rendered and joined. -/
def renderAll (limit : Level) (records : List Record) : String :=
  String.join ((records.filter fun r => r.level.rank ≤ limit.rank).map Record.render)

end ModuleGraph
