import SwitchAdmin.Cli.Parse
import SwitchAdmin.Cli.Run
import SwitchAdmin.Cli.Similar
import SwitchAdmin.Cli.Spec
import SwitchAdmin.Config.DecodeError
import SwitchAdmin.Config.Load
import SwitchAdmin.Config.OfJson
import SwitchAdmin.Config.OfToml
import SwitchAdmin.Config.Schema
import SwitchAdmin.Config.Validation
import SwitchAdmin.Config.Watch
import SwitchAdmin.Data.StrMap
import SwitchAdmin.Decimal.Binary64
import SwitchAdmin.Decimal.Nearest
import SwitchAdmin.Decimal.Shortest
import SwitchAdmin.Decimal.Text
import SwitchAdmin.Form.Control
import SwitchAdmin.Form.Group
import SwitchAdmin.Form.ResetPassword
import SwitchAdmin.Form.Validator
import SwitchAdmin.Json.Basic
import SwitchAdmin.Json.Read
import SwitchAdmin.Json.Write
import SwitchAdmin.Main
import SwitchAdmin.Route.Builtin
import SwitchAdmin.Route.Pattern
import SwitchAdmin.Route.Registry
import SwitchAdmin.Route.Router
import SwitchAdmin.Route.Session
import SwitchAdmin.Route.Summary
import SwitchAdmin.Route.Table
import SwitchAdmin.Route.View
import SwitchAdmin.Route.Walk
import SwitchAdmin.Text.GraphemeExtend
import SwitchAdmin.Text.Pieces
import SwitchAdmin.Text.Printable
import SwitchAdmin.Text.Quoted
import SwitchAdmin.Text.Utf8
import SwitchAdmin.Toml.Document
import SwitchAdmin.Toml.Failure
import SwitchAdmin.Toml.Numbers
import SwitchAdmin.Toml.Read
import SwitchAdmin.Toml.Scan
import SwitchAdmin.Toml.Strings
import SwitchAdmin.Toml.Tables
import SwitchAdmin.Toml.Values
import SwitchAdmin.Url.Absolute
import SwitchAdmin.Url.Host
import SwitchAdmin.Url.Path
import SwitchAdmin.Url.Percent
import SwitchAdmin.Proofs.Backtracking
import SwitchAdmin.Proofs.Redirects
import SwitchAdmin.Proofs.Resolution
import SwitchAdmin.Proofs.StrMap
import SwitchAdmin.Proofs.FieldMatch
import SwitchAdmin.Proofs.MatchCheck
import SwitchAdmin.Proofs.ResetPassword
import SwitchAdmin.Proofs.AppRoutes
import SwitchAdmin.Proofs.StrictValidation
import SwitchAdmin.Proofs.PathRoundTrip
import SwitchAdmin.Proofs.CanonicalUrl
import SwitchAdmin.Proofs.RedirectRewrite
import SwitchAdmin.Proofs.WalkLoads
import SwitchAdmin.Proofs.DeferredLoading
import SwitchAdmin.Proofs.DotSegments
import SwitchAdmin.Proofs.DescribeFixpoint
import SwitchAdmin.Proofs.ValidationChecks
import SwitchAdmin.Proofs.CatchAllPlacement
import SwitchAdmin.Proofs.PatternLaws
import SwitchAdmin.Proofs.RedirectLanding
import SwitchAdmin.Proofs.OutsideErrors
