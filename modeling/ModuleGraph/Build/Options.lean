import ModuleGraph.Build.ResultCache
import ModuleGraph.Source.Scan

/-!
# Build options and transformers

A build is configured by where it keeps results, whether it skips files it has results
for, whether dependencies are looked up by specifiers as written or as mapped, the
resolver, the caller's map of specifiers (none means each specifier stays as it is),
and the global settings every file's own settings are layered over.

A transformer turns one file's source into a result. It is given the file's options and
the map to apply to each specifier, and reports the specifiers it asked about, in
order, whether it succeeds or fails.
-/

namespace ModuleGraph

/-- How a build runs. -/
structure BuildOptions where
  caching : Caching
  skipCached : Bool
  byWritten : Bool
  resolve : Resolver
  mapSpecifier : Option (String → Path → String)
  transform : Settings.Table

/-- A transformation of one file's source. -/
structure Transformer (α : Type) where
  run : String → Source.FileOptions → (String → String) → List String × Except String α

/-- The import scan as a transformer: it asks about every specifier and never fails. -/
def Transformer.importScan : Transformer Source.Scanned :=
  ⟨fun source options f => (Source.specifiers source, .ok (Source.scan source options f))⟩

namespace BuildOptions

/-- How discovered references are looked up under these options. -/
def lookup (o : BuildOptions) : Lookup := ⟨o.resolve, o.byWritten⟩

/-- Whether files with results are skipped: only when results are kept. Asking for it
without keeping results is reported. -/
def skipsCached (o : BuildOptions) : Bool × List Record :=
  if o.skipCached && !o.caching.isOn then
    (false, [⟨.warn, .config, "skip_cached_files has no effect while caching is disabled"⟩])
  else (o.skipCached, [])

/-- The debug form of the options. -/
def debug (o : BuildOptions) : String :=
  "CompileOptions \x7b cache: " ++ o.caching.debug ++ ", skip_cached_files: " ++
    toString o.skipCached ++ ", fetch_from_original_module_source: " ++ toString o.byWritten ++
    ", resolve_module_source: " ++ toString o.mapSpecifier.isSome ++ ", transform: " ++
    o.transform.debug ++ ", .. \x7d"

end BuildOptions

end ModuleGraph
