import SwitchAdmin.Json.Basic
import SwitchAdmin.Route.Pattern

/-!
# Application configuration

The configuration has four sections, each with defaults for every missing setting:

* navigation: the not-found path (`/404`) and the redirect limit (`16`);
* forms: the minimum password length (`8`) and the key of the mismatch error (`mismatch`);
* observability: the log level (`info`) and the log format (`full`);
* routes: a list of route entries, each with a path, a path-match mode, an optional title,
  redirect target, view (component) and named child table, and inline children.

`AppConfig.toJson` writes a configuration with every setting spelled out.
-/

namespace SwitchAdmin

/-- Navigation settings. -/
structure NavigationConfig where
  /-- Where navigation goes when nothing matches; empty for no fallback. -/
  notFoundPath : String := "/404"
  /-- How many redirects one resolution may follow. -/
  maxRedirects : Nat := 16
deriving Inhabited, DecidableEq, Repr

/-- Form settings. -/
structure FormsConfig where
  /-- The minimum length of a password. -/
  passwordMinLength : Nat := 8
  /-- The error key that marks two fields that should match and do not. -/
  mismatchErrorKey : String := "mismatch"
deriving Inhabited, DecidableEq, Repr

/-- How log lines are laid out. -/
inductive LogFormat where
  | full
  | compact
  | pretty
deriving Inhabited, DecidableEq, Repr

/-- The spelling of a log format in configuration files. -/
def LogFormat.name : LogFormat → String
  | .full => "full"
  | .compact => "compact"
  | .pretty => "pretty"

/-- Logging settings. -/
structure ObservabilityConfig where
  /-- The level filter, as written. -/
  logLevel : String := "info"
  /-- The layout of log lines. -/
  logFormat : LogFormat := .full
deriving Inhabited, DecidableEq, Repr

/-- One configured route entry, with its inline children. -/
structure RouteConfig where
  /-- The path pattern, relative to the parent. -/
  path : String
  /-- How much of the URL the pattern must consume. -/
  pathMatch : PathMatch := .leading
  /-- The title shown for the entry. -/
  title : Option String := none
  /-- Where the entry redirects. -/
  redirectTo : Option String := none
  /-- The name of the view the entry shows. -/
  component : Option String := none
  /-- The name of a registered table loaded below the entry. -/
  loadChildren : Option String := none
  /-- Inline child entries. -/
  children : List RouteConfig := []
deriving Inhabited

/-- The whole configuration. -/
structure AppConfig where
  navigation : NavigationConfig := {}
  forms : FormsConfig := {}
  observability : ObservabilityConfig := {}
  routes : List RouteConfig := []
deriving Inhabited

/-! ### Writing a configuration as JSON -/

/-- A route entry with every key written, `null` for a missing option. -/
def RouteConfig.toJson : RouteConfig → Json
  | ⟨path, pathMatch, title, redirectTo, component, loadChildren, children⟩ =>
    .obj [("children", .arr (children.attach.map fun ⟨c, _⟩ => c.toJson)),
      ("component", .optStr component),
      ("load_children", .optStr loadChildren),
      ("path", .str path),
      ("path_match", .str pathMatch.name),
      ("redirect_to", .optStr redirectTo),
      ("title", .optStr title)]

/-- The configuration with every setting written. -/
def AppConfig.toJson (c : AppConfig) : Json :=
  .obj [("forms", .obj [("mismatch_error_key", .str c.forms.mismatchErrorKey),
      ("password_min_length", .nat c.forms.passwordMinLength)]),
    ("navigation", .obj [("max_redirects", .nat c.navigation.maxRedirects),
      ("not_found_path", .str c.navigation.notFoundPath)]),
    ("observability", .obj [("log_format", .str c.observability.logFormat.name),
      ("log_level", .str c.observability.logLevel)]),
    ("routes", .arr (c.routes.map RouteConfig.toJson))]

end SwitchAdmin
