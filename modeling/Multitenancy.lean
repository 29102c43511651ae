import Multitenancy.App.Basic
import Multitenancy.App.Env
import Multitenancy.App.Hook
import Multitenancy.App.Layer
import Multitenancy.Cache
import Multitenancy.Deployment.Backend
import Multitenancy.Deployment.Basic
import Multitenancy.Deployment.Factory
import Multitenancy.Deployment.Frontend
import Multitenancy.Http.Chains
import Multitenancy.Http.Error
import Multitenancy.Http.Extensions
import Multitenancy.Http.FormEncoding
import Multitenancy.Http.Middleware
import Multitenancy.Http.Request
import Multitenancy.Http.Response
import Multitenancy.Json.Parser
import Multitenancy.Json.Printer
import Multitenancy.Json.Value
import Multitenancy.Locks
import Multitenancy.Log.Event
import Multitenancy.Log.Filter
import Multitenancy.Log.Line
import Multitenancy.Log.Logger
import Multitenancy.Log.Settings
import Multitenancy.Pattern.CharSet
import Multitenancy.Pattern.Expr
import Multitenancy.Pattern.Matcher
import Multitenancy.Pattern.Parser
import Multitenancy.Proofs.Cache
import Multitenancy.Proofs.Cache.Accounts
import Multitenancy.Proofs.Cache.Calls
import Multitenancy.Proofs.Cache.Capacity
import Multitenancy.Proofs.Cache.Recency
import Multitenancy.Proofs.Histories
import Multitenancy.Proofs.Http.Chains
import Multitenancy.Proofs.Http.Cookies
import Multitenancy.Proofs.Http.Passages
import Multitenancy.Proofs.Http.Pipelines
import Multitenancy.Proofs.Locks
import Multitenancy.Proofs.Locks.Calls
import Multitenancy.Proofs.Outcome
import Multitenancy.Proofs.Provisioning.Alone
import Multitenancy.Proofs.Provisioning.Conflicts
import Multitenancy.Proofs.Provisioning.Creation
import Multitenancy.Proofs.Provisioning.Dependence
import Multitenancy.Proofs.Provisioning.Lifecycle
import Multitenancy.Proofs.Provisioning.Racing
import Multitenancy.Proofs.Provisioning.Returned
import Multitenancy.Proofs.Provisioning.Traffic
import Multitenancy.Proofs.Provisioning.Turns
import Multitenancy.Proofs.Provisioning.Updates
import Multitenancy.Proofs.Provisioning.Waiting
import Multitenancy.Proofs.Registry.Coherence
import Multitenancy.Proofs.Registry.History
import Multitenancy.Proofs.Registry.Indexed
import Multitenancy.Proofs.Registry.Invariant
import Multitenancy.Proofs.Registry.Lookup
import Multitenancy.Proofs.Registry.Roster
import Multitenancy.Proofs.Registry.RoutingKeys
import Multitenancy.Proofs.Registry.Serving
import Multitenancy.Proofs.Registry.Table
import Multitenancy.Proofs.Registry.Unmoved
import Multitenancy.Proofs.Resolution.Deletions
import Multitenancy.Proofs.Resolution.Glances
import Multitenancy.Proofs.Resolution.Hosts
import Multitenancy.Proofs.Resolution.Invalidation
import Multitenancy.Proofs.Resolution.Keys
import Multitenancy.Proofs.Resolution.Labels
import Multitenancy.Proofs.Resolution.Locators
import Multitenancy.Proofs.Resolution.Rationing
import Multitenancy.Proofs.Resolution.Separators
import Multitenancy.Proofs.Resolution.Slugs
import Multitenancy.Proofs.Resolution.Staleness
import Multitenancy.Proofs.Resolution.Transparency
import Multitenancy.Proofs.Resolution.Visits
import Multitenancy.Proofs.Router.Alone
import Multitenancy.Proofs.Router.Building
import Multitenancy.Proofs.Router.Isolation
import Multitenancy.Proofs.Router.Ownership
import Multitenancy.Proofs.Router.Renewal
import Multitenancy.Proofs.Router.Sharing
import Multitenancy.Proofs.Router.Shifts
import Multitenancy.Proofs.Router.Tallies
import Multitenancy.Proofs.Session
import Multitenancy.Proofs.Settings.Document
import Multitenancy.Proofs.Settings.Overlay
import Multitenancy.Proofs.Settings.Values
import Multitenancy.Proofs.Storage.Preparing
import Multitenancy.Proofs.Storage.Sharing
import Multitenancy.Proofs.Storage.Shifts
import Multitenancy.Proofs.Tenant.CacheKeys
import Multitenancy.Proofs.Tenant.Check
import Multitenancy.Proofs.Tenant.Patch
import Multitenancy.Proofs.Text.Assoc
import Multitenancy.Proofs.Text.Cutting
import Multitenancy.Proofs.Text.Folding
import Multitenancy.Proofs.Text.Replacing
import Multitenancy.Provisioning.Basic
import Multitenancy.Provisioning.Call
import Multitenancy.Provisioning.Interleaving
import Multitenancy.Provisioning.Plan
import Multitenancy.Provisioning.Waiting
import Multitenancy.Registry.Basic
import Multitenancy.Registry.Connection
import Multitenancy.Registry.Indexed
import Multitenancy.Registry.Table
import Multitenancy.Resolution.Chain
import Multitenancy.Resolution.Host
import Multitenancy.Resolution.Locator
import Multitenancy.Resolution.Resolver
import Multitenancy.Resolution.Strategy
import Multitenancy.Router.Basic
import Multitenancy.Router.Dispatch
import Multitenancy.Session
import Multitenancy.Settings.Codec
import Multitenancy.Settings.Config
import Multitenancy.Settings.Document
import Multitenancy.Settings.Dotenv
import Multitenancy.Settings.Variables
import Multitenancy.Storage.FileSystem
import Multitenancy.Storage.Locator
import Multitenancy.Storage.Pools
import Multitenancy.Storage.Stores
import Multitenancy.Tenant.Basic
import Multitenancy.Tenant.Codec
import Multitenancy.Tenant.Context
import Multitenancy.Tenant.Fault
import Multitenancy.Tenant.Patch
import Multitenancy.Text.Ascii
import Multitenancy.Text.Assoc
import Multitenancy.Text.Blank
import Multitenancy.Text.Hex
import Multitenancy.Text.Order
import Multitenancy.Text.Quoted
import Multitenancy.Text.Reader
import Multitenancy.Text.Split
import Multitenancy.Text.Unicode.Cases
import Multitenancy.Text.Unicode.Letters
import Multitenancy.Text.Unicode.Marks
import Multitenancy.Text.Unicode.Numbers
import Multitenancy.Text.Unicode.Signs
import Multitenancy.Text.Utf8
import Multitenancy.Time.Duration
import Multitenancy.Time.Timestamp
import Multitenancy.Toml.Parser
import Multitenancy.Toml.Scalar
import Multitenancy.Toml.Tree
