import ModelHub.Catalog
import ModelHub.Catalog.Manifest
import ModelHub.Catalog.Resolution
import ModelHub.Command.Context
import ModelHub.Command.Inspection
import ModelHub.Command.Model
import ModelHub.Command.Planning
import ModelHub.CommandLine.Grammar
import ModelHub.CommandLine.Invocation
import ModelHub.Config
import ModelHub.Decimal.Binary64
import ModelHub.Decimal.Shortest
import ModelHub.Dispatch
import ModelHub.Failure
import ModelHub.Http.Client
import ModelHub.Http.Message
import ModelHub.Http.Script
import ModelHub.Hub
import ModelHub.Hub.Decision
import ModelHub.Hub.Entry
import ModelHub.Hub.Index
import ModelHub.Hub.Listing
import ModelHub.Hub.Record
import ModelHub.Hub.Tag
import ModelHub.Json.Document
import ModelHub.Json.Printer
import ModelHub.Json.Shape
import ModelHub.Json.Value
import ModelHub.Main
import ModelHub.Message
import ModelHub.ModelList
import ModelHub.Plan
import ModelHub.Proofs.CatalogRun
import ModelHub.Proofs.CommandRequests
import ModelHub.Proofs.CommandSetup
import ModelHub.Proofs.ConcurrentLookups
import ModelHub.Proofs.ConfigKeys
import ModelHub.Proofs.ConfigRun
import ModelHub.Proofs.DecisiveFields
import ModelHub.Proofs.DecodedJson
import ModelHub.Proofs.DispatchLimit
import ModelHub.Proofs.DispatchOrder
import ModelHub.Proofs.DispatchRun
import ModelHub.Proofs.DispatchSteps
import ModelHub.Proofs.DistinctKeys
import ModelHub.Proofs.EndpointBase
import ModelHub.Proofs.EndpointPath
import ModelHub.Proofs.FirstHighest
import ModelHub.Proofs.FormFields
import ModelHub.Proofs.HubAddress
import ModelHub.Proofs.HubChanges
import ModelHub.Proofs.HubImport
import ModelHub.Proofs.HubIndex
import ModelHub.Proofs.IndexGrowth
import ModelHub.Proofs.LatestText
import ModelHub.Proofs.LatestVersion
import ModelHub.Proofs.LinesAndWords
import ModelHub.Proofs.ListedDocuments
import ModelHub.Proofs.ListedModels
import ModelHub.Proofs.ListingOrder
import ModelHub.Proofs.ManifestFetch
import ModelHub.Proofs.ModelSpecs
import ModelHub.Proofs.ModelUrl
import ModelHub.Proofs.NewestPlan
import ModelHub.Proofs.OctetOrder
import ModelHub.Proofs.OctetText
import ModelHub.Proofs.PageCycles
import ModelHub.Proofs.PagedListing
import ModelHub.Proofs.PercentEncoding
import ModelHub.Proofs.PlanAccount
import ModelHub.Proofs.PlanFates
import ModelHub.Proofs.PlanGrounds
import ModelHub.Proofs.PlanIndependence
import ModelHub.Proofs.RecognisedModels
import ModelHub.Proofs.Reconciliation
import ModelHub.Proofs.ReportRows
import ModelHub.Proofs.RequestOutcome
import ModelHub.Proofs.RequestSources
import ModelHub.Proofs.RequestSpelling
import ModelHub.Proofs.SessionRequests
import ModelHub.Proofs.SessionRun
import ModelHub.Proofs.SortedIndex
import ModelHub.Proofs.SyncConvergence
import ModelHub.Proofs.SyncRun
import ModelHub.Proofs.TableLayout
import ModelHub.Proofs.TagKeywords
import ModelHub.Proofs.TomlDocuments
import ModelHub.Proofs.TomlSurplus
import ModelHub.Proofs.Trimming
import ModelHub.Proofs.VersionComparison
import ModelHub.Proofs.VersionOrder
import ModelHub.Proofs.VersionText
import ModelHub.Proofs.WrittenJson
import ModelHub.Report
import ModelHub.Request
import ModelHub.Run
import ModelHub.Session
import ModelHub.Table
import ModelHub.Text.Blank
import ModelHub.Text.CodeRange
import ModelHub.Text.CombiningClass
import ModelHub.Text.Composed
import ModelHub.Text.Composite
import ModelHub.Text.Digits
import ModelHub.Text.Direction
import ModelHub.Text.Joining
import ModelHub.Text.Mark
import ModelHub.Text.Reader
import ModelHub.Text.Split
import ModelHub.Text.Utf8
import ModelHub.Toml.Document
import ModelHub.Toml.Scalar
import ModelHub.Toml.Surplus
import ModelHub.Toml.Table
import ModelHub.Url.Basic
import ModelHub.Url.Endpoint
import ModelHub.Url.Host
import ModelHub.Url.HostForm
import ModelHub.Url.HostForm.Long
import ModelHub.Url.HostForm.Ranges
import ModelHub.Url.HostForm.Single
import ModelHub.Url.Label
import ModelHub.Url.Parser
import ModelHub.Url.Percent
import ModelHub.Url.Punycode
import ModelHub.Version
import ModelHub.World
