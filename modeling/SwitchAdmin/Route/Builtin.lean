import SwitchAdmin.Route.Registry

/-!
# The built-in routes

The authentication table has `login`, `forgot-password` and `reset-password`, each with a
deferred view of that name and a title, and an empty path that redirects to `login` when
nothing is left. The application table has `auth` (the authentication table, deferred),
`404` (the not-found view, deferred) and a catch-all redirecting to `404`.

The default registry has the views `login`, `forgot-password`, `reset-password` and
`not-found`, and the table `auth`. `buildRouter` uses the application table when the
configuration has no routes, and otherwise builds the configured ones against the registry.
The built-in tables own their cells: the application table's `auth` entry and the routes
inside it do not share cells with the registry's.
-/

namespace SwitchAdmin

/-- The authentication routes, their views in the three given cells. -/
def authRoutes (login forgot reset : Nat) : List Route :=
  [{ path := "login", view := some ⟨login, View.named "login"⟩, title := some "Login" },
   { path := "forgot-password", view := some ⟨forgot, View.named "forgot-password"⟩,
     title := some "Password Recovery" },
   { path := "reset-password", view := some ⟨reset, View.named "reset-password"⟩,
     title := some "Reset Password" },
   { path := "", redirectTo := some "login", pathMatch := .full }]

/-- The application routes, with their cells from `first` on. -/
def appRoutes (first : Nat) : List Route :=
  [{ path := "auth", nesting := .deferred first (authRoutes (first + 1) (first + 2) (first + 3)) },
   { path := "404", view := some ⟨first + 4, notFoundView⟩, title := some "Page Not Found" },
   { path := "**", redirectTo := some "404" }]

/-- The number of cells the application routes use. -/
def appRoutesCells : Nat := 5

/-- Registers the authentication table under `auth`, its views in cells of its own. -/
def Registry.addAuthTable (reg : Registry) : Registry :=
  let c := reg.nextCell
  { reg with tables := reg.tables.insert "auth" ⟨c, authRoutes (c + 1) (c + 2) (c + 3)⟩,
             nextCell := c + 4 }

/-- The default registry. -/
def defaultRegistry : Registry :=
  let reg : Registry := {}
  let reg := reg.addView "login" (View.named "login")
  let reg := reg.addView "forgot-password" (View.named "forgot-password")
  let reg := reg.addView "reset-password" (View.named "reset-password")
  let reg := reg.addView notFoundName notFoundView
  reg.addAuthTable

/-- The router for a configuration: the application routes when none are configured. -/
def buildRouter (cfg : AppConfig) (reg : Registry) : Except RouterError Router :=
  match cfg.routes with
  | [] => pure (Router.ofConfig (appRoutes reg.nextCell) cfg.navigation)
  | routes => do
    let table ← reg.buildTable routes
    pure (Router.ofConfig table cfg.navigation)

end SwitchAdmin
