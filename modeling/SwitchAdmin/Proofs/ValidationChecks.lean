import SwitchAdmin.Proofs.StrictValidation

/-!
# Validation reports every failed check once

Validation runs a fixed list of checks over a configuration and keeps going after a failure.
`configChecks` spells that list out flat, each check with the problem it reports and whether
it fails:

* the global checks: the redirect limit, the not-found path, the mismatch key, the log level;
* then every route of every table in pre-order (`configRoutes`): a route's own checks, then
  those of its inline children at any depth, then its later siblings. A route's checks are,
  in order: a catch-all that is not last, a leading slash, for each `/`-piece of its path a
  lone `:` and a misplaced `**`, the three exclusive checks of its target (a redirect with a
  view or children; else a redirect from an empty path that is not `full`; else no target at
  all), both inline children and a named table, an unknown view, an unknown table.

The main statement, `validateConfig_reports_failed_checks`, says that validation lists
exactly the problems of the failed checks, in that order and each once, so it accepts a
configuration exactly when no check fails. The proof follows the recursion of validation over
the tables (`tableProblems_eq_failed`), one route at a time (`entryProblems_eq_failed`).
-/

namespace SwitchAdmin

/-- One check that validation makes: the problem it reports, and whether it fails. -/
structure ConfigCheck where
  fails : Bool
  problem : ValidationError

namespace ConfigCheck

/-- The problems of the checks that fail, in order. -/
def failed (cs : List ConfigCheck) : List ValidationError := (cs.filter (·.fails)).map (·.problem)

@[simp] theorem failed_nil : failed [] = [] := rfl

@[simp] theorem failed_cons (c : ConfigCheck) (cs : List ConfigCheck) :
    failed (c :: cs) = (if c.fails then [c.problem] else []) ++ failed cs := by
  cases h : c.fails <;> simp [failed, h]

@[simp] theorem failed_append (cs ds : List ConfigCheck) :
    failed (cs ++ ds) = failed cs ++ failed ds := by
  simp [failed]

theorem failed_flatMap {α : Type} (l : List α) (f : α → List ConfigCheck) :
    failed (l.flatMap f) = l.flatMap fun a => failed (f a) := by
  induction l with
  | nil => rfl
  | cons a l ih => rw [List.flatMap_cons, failed_append, ih, List.flatMap_cons]

theorem failed_eq_nil_iff {cs : List ConfigCheck} : failed cs = [] ↔ ∀ c ∈ cs, c.fails = false := by
  simp [failed, List.filter_eq_nil_iff]

end ConfigCheck

/-- The global checks, in order. -/
def globalChecks (cfg : AppConfig) : List ConfigCheck :=
  let p := cfg.navigation.notFoundPath
  [⟨cfg.navigation.maxRedirects == 0, .zeroMaxRedirects⟩,
   ⟨!p.isEmpty && p.toList.head? != some '/', .relativeNotFoundPath p⟩,
   ⟨cfg.forms.mismatchErrorKey.isEmpty, .emptyErrorKey⟩,
   ⟨!isLogLevel cfg.observability.logLevel, .invalidLogLevel cfg.observability.logLevel⟩]

/-- A route in its table: the table's name, the route's position and the table's last
position. -/
structure PlacedRoute where
  table : String
  index : Nat
  last : Nat
  route : RouteConfig

/-- Whether a route has a view or children, inline or named. -/
def RouteConfig.hasTarget (r : RouteConfig) : Bool :=
  r.component.isSome || r.loadChildren.isSome || !r.children.isEmpty

/-- The checks of a path's `/`-pieces, piece by piece: a lone `:`, and a `**` in a path that
is not the catch-all. -/
def pieceChecks (path : String) : List ConfigCheck :=
  (piecesOf path '/').flatMap fun piece =>
    [⟨piece == ":", .emptyParameter path⟩, ⟨piece == "**" && path != "**", .misplacedCatchAll path⟩]

/-- The three checks of a route's target, exclusive of each other: a redirect with a view or
children; a redirect from an empty path that is not `full`, with nothing else; no redirect
and nothing else. -/
def targetChecks (r : RouteConfig) : List ConfigCheck :=
  [⟨r.redirectTo.isSome && r.hasTarget, .redirectWithTarget r.path⟩,
   ⟨r.redirectTo.isSome && !r.hasTarget && r.path.isEmpty && r.pathMatch != .full,
     .emptyRedirectNotFull r.path⟩,
   ⟨r.redirectTo.isNone && !r.hasTarget, .noTarget r.path⟩]

/-- The checks of the names a route looks up: its view, then its table. -/
def lookupChecks (reg : Registry) (r : RouteConfig) : List ConfigCheck :=
  r.component.toList.map (fun name => ⟨!reg.hasView name, .unknownView r.path name⟩) ++
  r.loadChildren.toList.map (fun name => ⟨!reg.hasTable name, .unknownTable r.path name⟩)

/-- At most one of a route's target checks fails. -/
theorem length_failed_targetChecks (r : RouteConfig) :
    (ConfigCheck.failed (targetChecks r)).length ≤ 1 := by
  cases hr : r.redirectTo <;> cases ht : r.hasTarget <;> simp [targetChecks, hr, ht]
  -- only a redirect with nothing else can fail on its path and mode
  split <;> simp

/-- The checks of one route in its table, in order. -/
def PlacedRoute.checks (reg : Registry) (e : PlacedRoute) : List ConfigCheck :=
  let r := e.route
  [⟨r.path == "**" && e.index != e.last, .catchAllNotLast e.table e.index⟩,
   ⟨r.path.toList.head? == some '/', .leadingSlash r.path⟩] ++
  pieceChecks r.path ++ targetChecks r ++
  [⟨r.loadChildren.isSome && !r.children.isEmpty, .childrenAndLoadChildren r.path⟩] ++
  lookupChecks reg r

mutual

/-- The routes of a table from position `index` on, in pre-order: each route, then the
routes of its inline children at any depth. -/
def tableRoutes (table : String) (last : Nat) : Nat → List RouteConfig → List PlacedRoute
  | _, [] => []
  | index, r :: rs => ⟨table, index, last, r⟩ :: nestedRoutes table r ++ tableRoutes table last (index + 1) rs

/-- The routes of a route's inline children at any depth, in pre-order. -/
def nestedRoutes (table : String) : RouteConfig → List PlacedRoute
  | ⟨path, _, _, _, _, _, children⟩ =>
    tableRoutes (nestedTableName table path) (children.length - 1) 0 children

end

/-- Every route of a configuration in its table, in pre-order; the root table is `/`. -/
def configRoutes (cfg : AppConfig) : List PlacedRoute :=
  tableRoutes "/" (cfg.routes.length - 1) 0 cfg.routes

/-- Every check of a configuration, in order. -/
def configChecks (reg : Registry) (cfg : AppConfig) : List ConfigCheck :=
  globalChecks cfg ++ (configRoutes cfg).flatMap (·.checks reg)

/-! ### Validation checks one route at a time -/

theorem globalProblems_eq_failed (cfg : AppConfig) :
    globalProblems cfg = ConfigCheck.failed (globalChecks cfg) := by
  cases hlevel : isLogLevel cfg.observability.logLevel <;> simp [globalProblems, globalChecks, hlevel]

theorem PlacedRoute.failed_checks (reg : Registry) (e : PlacedRoute) :
    ConfigCheck.failed (e.checks reg) =
      (if e.route.path = "**" ∧ e.index ≠ e.last then [.catchAllNotLast e.table e.index] else []) ++
        routeProblems reg e.route := by
  obtain ⟨table, index, last, ⟨path, pathMatch, title, redirectTo, component, loadChildren,
    children⟩⟩ := e
  simp only [PlacedRoute.checks, routeProblems, pieceChecks, targetChecks, lookupChecks,
    RouteConfig.hasTarget, ConfigCheck.failed_append, ConfigCheck.failed_flatMap,
    ConfigCheck.failed_cons, ConfigCheck.failed_nil]
  -- a looked-up name fails its check exactly when the registry lacks it
  have hlookup : ∀ (known : Bool) (p : ValidationError),
      (if known = true then [] else [p]) = if known = false then [p] else [] := by
    intro known p
    cases known <;> rfl
  -- the target checks are exclusive: the redirect and the route's target decide which fails
  rcases redirectTo with _ | target <;> rcases component with _ | view <;>
    rcases loadChildren with _ | name <;> by_cases hchildren : children = [] <;>
    simp [hchildren, hlookup]

/-! ### Validation goes through the tables in pre-order -/

mutual

/-- Validating a table from position `index` on reports the failed checks of its routes in
pre-order. -/
theorem tableProblems_eq_failed (reg : Registry) (table : String) (last : Nat) :
    ∀ (index : Nat) (rs : List RouteConfig),
      tableProblems reg table last index rs =
        ConfigCheck.failed ((tableRoutes table last index rs).flatMap (·.checks reg))
  | _, [] => rfl
  | index, r :: rs => by
    rw [tableProblems, tableRoutes, List.flatMap_append, List.flatMap_cons,
      ConfigCheck.failed_append, ConfigCheck.failed_append,
      entryProblems_eq_failed reg table last index r,
      tableProblems_eq_failed reg table last (index + 1) rs, List.append_assoc]

/-- Validating one route reports the failed checks of the route, then those of its inline
children at any depth. -/
theorem entryProblems_eq_failed (reg : Registry) (table : String) (last index : Nat) :
    ∀ r : RouteConfig, entryProblems reg table last index r =
      ConfigCheck.failed ((⟨table, index, last, r⟩ : PlacedRoute).checks reg) ++
        ConfigCheck.failed ((nestedRoutes table r).flatMap (·.checks reg))
  | ⟨path, pathMatch, title, redirectTo, component, loadChildren, []⟩ => by
    rw [entryProblems.eq_1, PlacedRoute.failed_checks, nestedRoutes.eq_1]
    rfl
  | ⟨path, pathMatch, title, redirectTo, component, loadChildren, c :: cs⟩ => by
    rw [entryProblems.eq_2, PlacedRoute.failed_checks, nestedRoutes.eq_1,
      tableProblems_eq_failed reg (nestedTableName table path) cs.length 0 (c :: cs)]
    rfl

end

theorem validateConfig_eq_failed (cfg : AppConfig) (reg : Registry) :
    validateConfig cfg reg = ConfigCheck.failed (configChecks reg cfg) := by
  rw [validateConfig, configChecks, ConfigCheck.failed_append, globalProblems_eq_failed,
    configRoutes, tableProblems_eq_failed]

/-- **Validation reports every failed check exactly once, in order.** The problems validation
lists are those of the failed checks of `configChecks`: the global ones, then each route's in
pre-order, one problem for each check that fails. So validation accepts a configuration
exactly when no check fails, and it reports at most one problem about a route's target. -/
theorem validateConfig_reports_failed_checks (cfg : AppConfig) (reg : Registry) :
    validateConfig cfg reg = ((configChecks reg cfg).filter (·.fails)).map (·.problem) ∧
    (validateConfig cfg reg = [] ↔ ∀ c ∈ configChecks reg cfg, c.fails = false) ∧
    ∀ e ∈ configRoutes cfg, (ConfigCheck.failed (targetChecks e.route)).length ≤ 1 := by
  refine ⟨validateConfig_eq_failed cfg reg, ?_, fun e _ => length_failed_targetChecks e.route⟩
  rw [validateConfig_eq_failed]
  exact ConfigCheck.failed_eq_nil_iff

/-- Seven checks fail on a configuration with a zero redirect limit, a relative not-found path,
a catch-all first, a redirect from an empty path that is not `full`, a leading slash with an
unknown view, and a route with no target. -/
example : ((configChecks defaultRegistry
    { navigation := { maxRedirects := 0, notFoundPath := "404" },
      routes := [{ path := "**", redirectTo := some "404" }, { path := "", redirectTo := some "login" },
        { path := "/reports", component := some "missing" }, { path := "empty" }] }).filter
      (·.fails)).length = 7 := by
  decide +kernel

end SwitchAdmin
