import ModuleGraph.Path.Basic
import ModuleGraph.Resolution
import ModuleGraph.Text.Word
import ModuleGraph.Text.Blank
import ModuleGraph.Text.Hidden
import ModuleGraph.Text.Quoted
import ModuleGraph.Text.Shortest
import ModuleGraph.Text.Numeral
import ModuleGraph.Text.Terminal
import ModuleGraph.Settings.Value
import ModuleGraph.Source.Scan
import ModuleGraph.Source.Substitution
import ModuleGraph.Build.ResultCache
import ModuleGraph.Build.Files
import ModuleGraph.Build.Pass
import ModuleGraph.Settings.Toml.Typed
import ModuleGraph.Configuration
import ModuleGraph.Settings.Toml.Format
import ModuleGraph.Text.Similarity
import ModuleGraph.CommandLine.Arguments
import ModuleGraph.CommandLine.FileSystem
import ModuleGraph.CommandLine.Run
import ModuleGraph.Main
import ModuleGraph.Proofs.Library
import ModuleGraph.Proofs.Frontier
import ModuleGraph.Proofs.Verdict
import ModuleGraph.Proofs.BreadthFirst
import ModuleGraph.Proofs.Reuse
import ModuleGraph.Proofs.Provenance
import ModuleGraph.Proofs.Hook
import ModuleGraph.Proofs.FrontierOps
import ModuleGraph.Proofs.Handling
import ModuleGraph.Proofs.Rerun
import ModuleGraph.Proofs.StoreWrites
import ModuleGraph.Proofs.StoreMap
import ModuleGraph.Proofs.Failure
import ModuleGraph.Proofs.Termination
import ModuleGraph.Proofs.PathComponents
import ModuleGraph.Proofs.ResolutionLaws
import ModuleGraph.Proofs.SpecifierReading
import ModuleGraph.Proofs.ScanOutput
import ModuleGraph.Proofs.Rescan
import ModuleGraph.Proofs.Normalization
import ModuleGraph.Proofs.ConfigurationKeys
