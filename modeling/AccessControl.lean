import AccessControl.Command.Error
import AccessControl.Command.Line
import AccessControl.Command.Run
import AccessControl.Command.Words
import AccessControl.Config.Basic
import AccessControl.Config.Display
import AccessControl.Config.Error
import AccessControl.Config.Layer
import AccessControl.Config.Loading
import AccessControl.Config.Policies
import AccessControl.Config.Schema
import AccessControl.Config.Sessions
import AccessControl.Config.Validation
import AccessControl.Decimal.Double
import AccessControl.Decimal.Integer
import AccessControl.Decimal.Notation
import AccessControl.Decimal.Scaled
import AccessControl.Decimal.Shortest
import AccessControl.Decision
import AccessControl.Dict
import AccessControl.Error
import AccessControl.Example.Documents
import AccessControl.Expr.Arithmetic
import AccessControl.Expr.Builtin
import AccessControl.Expr.Context
import AccessControl.Expr.Engine
import AccessControl.Expr.Error
import AccessControl.Expr.Eval
import AccessControl.Expr.Literal
import AccessControl.Expr.Parser
import AccessControl.Expr.Tagged
import AccessControl.Expr.Term
import AccessControl.Expr.Token
import AccessControl.Expr.Value
import AccessControl.Invocation
import AccessControl.Json.Basic
import AccessControl.Json.Parser
import AccessControl.Json.Printer
import AccessControl.Json.Record
import AccessControl.Log.Config
import AccessControl.Log.Filter
import AccessControl.Log.Trace
import AccessControl.Main
import AccessControl.Pattern.Glob
import AccessControl.Pattern.Look
import AccessControl.Pattern.Regex
import AccessControl.Pattern.RegexClass
import AccessControl.Pattern.RegexParser
import AccessControl.Pattern.RegexSize
import AccessControl.Policy.Guard
import AccessControl.Policy.Interceptor
import AccessControl.Policy.Kind
import AccessControl.Policy.Matcher
import AccessControl.Policy.MethodGuard
import AccessControl.Policy.Registry
import AccessControl.Policy.RequestGuard
import AccessControl.Policy.Resolver
import AccessControl.Policy.Scan
import AccessControl.Policy.Schema
import AccessControl.Policy.Substitution
import AccessControl.Principal
import AccessControl.Proofs.Consultation
import AccessControl.Proofs.Enforcement
import AccessControl.Proofs.Expression
import AccessControl.Proofs.Lookup
import AccessControl.Proofs.Step
import AccessControl.Request
import AccessControl.Session.Chain
import AccessControl.Session.Registry
import AccessControl.Session.Schema
import AccessControl.Step
import AccessControl.Supplier
import AccessControl.Text.Alphanumeric
import AccessControl.Text.Blank
import AccessControl.Text.CharSet
import AccessControl.Text.Hex
import AccessControl.Text.Printable
import AccessControl.Text.Quoted
import AccessControl.Text.Slice
import AccessControl.Text.Utf8
import AccessControl.Time.Calendar
import AccessControl.Time.Instant
import AccessControl.Time.Span
import AccessControl.Time.Timestamp
import AccessControl.Toml.Basic
import AccessControl.Toml.Literal
import AccessControl.Toml.Parser
import AccessControl.Toml.Printer
import AccessControl.Toml.Tree
import AccessControl.Unicode.Age
import AccessControl.Unicode.CaseFolding
import AccessControl.Unicode.Category
import AccessControl.Unicode.Property
import AccessControl.Unicode.Query
import AccessControl.Unicode.Script
import AccessControl.Unicode.Segmentation
import AccessControl.Unicode.Table
import AccessControl.Unicode.Word
import AccessControl.Proofs.Routing
import AccessControl.Proofs.Resolution
import AccessControl.Proofs.Interception
import AccessControl.Proofs.Ascent
import AccessControl.Proofs.ClosestPolicy
import AccessControl.Proofs.Ownership
import AccessControl.Proofs.LoginSteps
import AccessControl.Proofs.LiveSessions
import AccessControl.Proofs.LazyPrincipal
import AccessControl.Proofs.PathSpelling
import AccessControl.Proofs.ValidConfig
import AccessControl.Proofs.ConfigBuilding
import AccessControl.Proofs.Abstention
import AccessControl.Proofs.ResolverRuns
import AccessControl.Proofs.TidyDocument
import AccessControl.Proofs.LayeredDocument
import AccessControl.Proofs.LayerPrecedence
import AccessControl.Proofs.NotedLayers
import AccessControl.Proofs.SettingSources
import AccessControl.Proofs.InlineConfig
import AccessControl.Proofs.AuthorizedCall
import AccessControl.Proofs.CallCourse
import AccessControl.Proofs.SharedLookup
import AccessControl.Proofs.RenewedSessions
import AccessControl.Proofs.PrivilegeQueries
import AccessControl.Proofs.StackedMemos
import AccessControl.Proofs.SharedPath
import AccessControl.Proofs.Placeholders
import AccessControl.Proofs.Unfolding
import AccessControl.Proofs.WrittenTables
import AccessControl.Proofs.WrittenTexts
import AccessControl.Proofs.WrittenValues
import AccessControl.Proofs.WrittenLines
import AccessControl.Proofs.ShownLines
import AccessControl.Proofs.WrittenConfig
import AccessControl.Proofs.ShownConfig
import AccessControl.Proofs.LeastRecentUse
import AccessControl.Proofs.GlobMatching
import AccessControl.Proofs.Inheritance
import AccessControl.Proofs.Overriding
import AccessControl.Proofs.SubtreePattern
import AccessControl.Proofs.CanonicalPath
import AccessControl.Proofs.NestedGuards
import AccessControl.Proofs.UseFlaws
import AccessControl.Proofs.FilledPolicies
import AccessControl.Proofs.ValidRegistry
import AccessControl.Proofs.RepeatedMerge
import AccessControl.Proofs.CarriedSession
import AccessControl.Proofs.Filtering
import AccessControl.Proofs.FilteredArgument
import AccessControl.Proofs.BytePositions
import AccessControl.Proofs.SinglePass
import AccessControl.Proofs.FiniteScan
