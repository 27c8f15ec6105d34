import ModuleGraph.Source.Specifier
import ModuleGraph.Path.Basic
import ModuleGraph.Settings.Value

/-!
# Scanning a module for its imports

The import scan of a source file finds its specifiers (see `Source.Specifier`), asks the
caller how each is to be written, and writes the file again with every specifier replaced
by that answer and every other character kept. The module's imports are the answers, in
order. When the file's settings give the `banner` key a text value, the result starts with
that text and a line feed.
-/

namespace ModuleGraph.Source

open Settings

/-- The settings key whose text value is put in front of the scanned code. -/
def bannerKey : String := "banner"

/-- What a transformation knows about the file it works on: its path and its settings. -/
structure FileOptions where
  filename : Path
  settings : Table

/-- Global settings layered with a file's own settings: the file's keys replace global
keys of the same name, and nested tables are not merged. -/
def FileOptions.layered (global : Table) (own : Table) (filename : Path) : FileOptions :=
  ⟨filename, global.extend own⟩

/-- A scanned module: its path, its code with specifiers as mapped, and its imports. -/
structure Scanned where
  filename : Path
  code : String
  imports : List String

/-- Writes the pieces of a source again, each specifier replaced by its image under `f`. -/
def render (f : String → String) (ps : List Piece) : String :=
  String.join (ps.map fun
    | .plain s => String.ofList s
    | .specifier s => f (String.ofList s))

/-- Scans one source file. `f` says how each specifier is to be written. -/
def scan (source : String) (options : FileOptions) (f : String → String) : Scanned :=
  let ps := pieces source
  let code := render f ps
  let code := match (options.settings.get? bannerKey).bind Value.asString? with
    | some banner => banner ++ "\n" ++ code
    | none => code
  ⟨options.filename, code, (specifiers source).map f⟩

end ModuleGraph.Source
