import WorkflowAtlas.Json.Decoder
import WorkflowAtlas.Language
import WorkflowAtlas.Regex.Reader
import WorkflowAtlas.Http.Endpoint
import WorkflowAtlas.Http.Matching
import WorkflowAtlas.Http.Objects
import WorkflowAtlas.Http.Convention
import WorkflowAtlas.ParseTree.Query
import WorkflowAtlas.Facts.Codec
import WorkflowAtlas.Grammar.Table
import WorkflowAtlas.Settings.Reader
import WorkflowAtlas.Recognizer
import WorkflowAtlas.Scan.Binding
import WorkflowAtlas.Scan.Traffic
import WorkflowAtlas.CallTable.Hash
import WorkflowAtlas.Scan.Views
import WorkflowAtlas.Reachability
import WorkflowAtlas.Workflow.Changes
import WorkflowAtlas.Workflow.Detection
import WorkflowAtlas.Repository.StaticGraph
import WorkflowAtlas.Session
import WorkflowAtlas.Glob
import WorkflowAtlas.Settings.Exclusion
import WorkflowAtlas.Text.Digits
import WorkflowAtlas.Toml.Reader
import WorkflowAtlas.Settings.TomlFormat
import WorkflowAtlas.Yaml.Scalar
import WorkflowAtlas.Yaml.Token
import WorkflowAtlas.Yaml.Node
import WorkflowAtlas.Settings.YamlFormat
import WorkflowAtlas.Settings.File
import WorkflowAtlas.FileSet.Codec
import WorkflowAtlas.FileSet.IgnoreRules
import WorkflowAtlas.FileSet.Walk
import WorkflowAtlas.CommandLine.Commands
import WorkflowAtlas.Main
import WorkflowAtlas.Proofs.Connectivity
import WorkflowAtlas.Proofs.Adoption
import WorkflowAtlas.Proofs.Linking
import WorkflowAtlas.Proofs.HintMerging
import WorkflowAtlas.Proofs.Grouping
import WorkflowAtlas.Proofs.Drafting
import WorkflowAtlas.Proofs.Rewriting
import WorkflowAtlas.Proofs.WorkflowInvariants
import WorkflowAtlas.Proofs.EdgeRewriting
import WorkflowAtlas.Proofs.MembershipLaw
import WorkflowAtlas.Proofs.FlagPropagation
import WorkflowAtlas.Proofs.ResolvedCalls
import WorkflowAtlas.Proofs.FlowEdges
import WorkflowAtlas.Proofs.GraphForm
import WorkflowAtlas.Proofs.Clusters
import WorkflowAtlas.Proofs.Splitting
import WorkflowAtlas.Proofs.Retention
import WorkflowAtlas.Proofs.Decoding
import WorkflowAtlas.Proofs.SnapshotText
import WorkflowAtlas.Proofs.Comparison
import WorkflowAtlas.Proofs.SnapshotComparison
import WorkflowAtlas.Proofs.SessionAccounts
import WorkflowAtlas.Proofs.ViewAgreement
import WorkflowAtlas.Proofs.EndpointForm
import WorkflowAtlas.Proofs.HttpTraffic
import WorkflowAtlas.Proofs.Grounding
import WorkflowAtlas.Proofs.FlagStability
import WorkflowAtlas.Proofs.CallComparison
import WorkflowAtlas.Proofs.AdoptionDistance
import WorkflowAtlas.Proofs.CallEncoding
import WorkflowAtlas.Proofs.PathForm
import WorkflowAtlas.Proofs.ImportResolution
import WorkflowAtlas.Proofs.RelativeImports
import WorkflowAtlas.Proofs.ModuleChains
import WorkflowAtlas.Proofs.ImportedCalls
import WorkflowAtlas.Proofs.RegexMatching
import WorkflowAtlas.Proofs.PatternText
import WorkflowAtlas.Proofs.RouteMatching
import WorkflowAtlas.Proofs.EndpointStability
import WorkflowAtlas.Proofs.UrlEndpoints
import WorkflowAtlas.Proofs.ClientNames
import WorkflowAtlas.Proofs.HintRepair
import WorkflowAtlas.Proofs.TreeSpans
import WorkflowAtlas.Proofs.ScanConsistency
import WorkflowAtlas.Proofs.CallAttribution
import WorkflowAtlas.Proofs.SearchAgreement
import WorkflowAtlas.Proofs.EntryCycles
import WorkflowAtlas.Proofs.UseTrees
import WorkflowAtlas.Proofs.JsonGrammar
import WorkflowAtlas.Proofs.MemberOrder
import WorkflowAtlas.Proofs.SnapshotOrder
import WorkflowAtlas.Proofs.PathSimplification
import WorkflowAtlas.Proofs.CalleeForm
