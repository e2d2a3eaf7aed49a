import ScopedResources.Assoc
import ScopedResources.Connection.Params
import ScopedResources.Declaration
import ScopedResources.DeclarationFile
import ScopedResources.DeclarationFile.Load
import ScopedResources.Document.Reading
import ScopedResources.Document.Source
import ScopedResources.Document.Value
import ScopedResources.Environment
import ScopedResources.Error
import ScopedResources.Files.Path
import ScopedResources.Files.Tree
import ScopedResources.Files.Walk
import ScopedResources.Fraction
import ScopedResources.Image
import ScopedResources.Lifecycle.Backend
import ScopedResources.Lifecycle.Coordinator
import ScopedResources.Lifecycle.Handle
import ScopedResources.Lifecycle.Hooks
import ScopedResources.Lifecycle.Provision
import ScopedResources.Lifecycle.Registry
import ScopedResources.Lifecycle.Resolve
import ScopedResources.Lifecycle.State
import ScopedResources.Memory.Connection
import ScopedResources.Memory.Database
import ScopedResources.Memory.Server
import ScopedResources.Memory.Statement
import ScopedResources.Migration.Changelog
import ScopedResources.Migration.Failure
import ScopedResources.Migration.Location
import ScopedResources.Migration.Plan
import ScopedResources.Migration.Policy
import ScopedResources.Migration.Run
import ScopedResources.Migration.Scripts
import ScopedResources.Migration.Version
import ScopedResources.Migration.Versioned
import ScopedResources.Numeral
import ScopedResources.Override
import ScopedResources.Proofs.Action
import ScopedResources.Proofs.Effect
import ScopedResources.Proofs.Instance
import ScopedResources.Proofs.ScopeTree
import ScopedResources.Proofs.State
import ScopedResources.ResourceKey
import ScopedResources.Scope
import ScopedResources.ScopeNode
import ScopedResources.Service
import ScopedResources.Settings
import ScopedResources.Sql.CreatedTables
import ScopedResources.Sql.Keyword
import ScopedResources.Sql.Script
import ScopedResources.Store
import ScopedResources.Text.Blank
import ScopedResources.Text.CaseIgnorableRanges
import ScopedResources.Text.CasedRanges
import ScopedResources.Text.CombiningClasses
import ScopedResources.Text.Composed
import ScopedResources.Text.Decompositions
import ScopedResources.Text.DirectionRanges
import ScopedResources.Text.HiddenRanges
import ScopedResources.Text.JoiningRanges
import ScopedResources.Text.Letter
import ScopedResources.Text.LowerRuns
import ScopedResources.Text.MarkRanges
import ScopedResources.Text.Parts
import ScopedResources.Text.Quoted
import ScopedResources.Text.Range
import ScopedResources.Text.Word
import ScopedResources.Text.WordRanges
import ScopedResources.Toml.Parse
import ScopedResources.Toml.Scalar
import ScopedResources.Toml.Table
import ScopedResources.Toml.Text
import ScopedResources.Url.Address
import ScopedResources.Url.DomainName
import ScopedResources.Url.DomainName.ExcludedRanges
import ScopedResources.Url.DomainName.Label
import ScopedResources.Url.DomainName.MappedForms
import ScopedResources.Url.Fault
import ScopedResources.Url.Parse
import ScopedResources.Url.Percent
import ScopedResources.Url.Punycode
import ScopedResources.Warning
import ScopedResources.Yaml.Cursor
import ScopedResources.Yaml.Node
import ScopedResources.Yaml.Plain
import ScopedResources.Yaml.Reading
import ScopedResources.Yaml.Token
import ScopedResources.Yaml.Token.Scalar
import ScopedResources.Yaml.Token.Scan
import ScopedResources.Yaml.Token.Tag
import ScopedResources.Proofs.Accounted
import ScopedResources.Proofs.Orderly
import ScopedResources.Proofs.Hooks
import ScopedResources.Proofs.Run
import ScopedResources.Proofs.ContainerAccounting
import ScopedResources.Proofs.AfterHookStops
import ScopedResources.Proofs.SharedOnce
import ScopedResources.Proofs.ClassHooks
import ScopedResources.Proofs.Tenancy
import ScopedResources.Proofs.SchemaHolders
import ScopedResources.Proofs.GivingWay
import ScopedResources.Proofs.LoneHooks
import ScopedResources.Proofs.SharedMigrations
import ScopedResources.Proofs.MixedPolicies
import ScopedResources.Proofs.StatementPieces
import ScopedResources.Proofs.Confined
import ScopedResources.Proofs.Apportioned
import ScopedResources.Proofs.ApportionedHooks
import ScopedResources.Proofs.ExactSharing
import ScopedResources.Proofs.BeforeHook
import ScopedResources.Proofs.Preparing
import ScopedResources.Proofs.Entering
import ScopedResources.Proofs.ClosedForGood
import ScopedResources.Proofs.Known
import ScopedResources.Proofs.LazyOpening
import ScopedResources.Proofs.FailedHooks
import ScopedResources.Proofs.ExternalHooks
import ScopedResources.Proofs.ExternalInstance
import ScopedResources.Proofs.PlainFiles
import ScopedResources.Proofs.PlanSources
import ScopedResources.Proofs.PlanRuns
import ScopedResources.Proofs.VersionOrder
import ScopedResources.Proofs.VersionNames
import ScopedResources.Proofs.VersionedRuns
import ScopedResources.Proofs.LetterCodes
import ScopedResources.Proofs.TableNames
import ScopedResources.Proofs.DerivedDrops
import ScopedResources.Proofs.Abreast
import ScopedResources.Proofs.AbreastInstances
import ScopedResources.Proofs.AbreastHooks
import ScopedResources.Proofs.NonInterference
import ScopedResources.Proofs.FilesBeside
import ScopedResources.Proofs.ChangelogLoading
import ScopedResources.Proofs.ChangelogExpansion
import ScopedResources.Proofs.ChangelogWays
import ScopedResources.Proofs.Collecting
import ScopedResources.Proofs.Rearranged
import ScopedResources.Proofs.WalkOrder
import ScopedResources.Proofs.KeptStatements
import ScopedResources.Proofs.DottedNames
import ScopedResources.Proofs.ExternalDecision
import ScopedResources.Proofs.UrlRoundTrip
import ScopedResources.Proofs.ServerTasks
import ScopedResources.Proofs.Sweep
import ScopedResources.Proofs.RegistryMap
import ScopedResources.Proofs.OwnDatabases
import ScopedResources.Proofs.StatementGrammar
import ScopedResources.Proofs.StatementEffects
import ScopedResources.Proofs.InsertedRows
import ScopedResources.Proofs.StoreLookup
import ScopedResources.Proofs.RunningCount
import ScopedResources.Proofs.Veil
import ScopedResources.Proofs.VeiledTasks
import ScopedResources.Proofs.VeiledHooks
import ScopedResources.Proofs.VeiledRuns
