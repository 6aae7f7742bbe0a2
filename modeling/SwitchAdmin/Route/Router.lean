import SwitchAdmin.Route.Walk
import SwitchAdmin.Url.Path
import SwitchAdmin.Config.Schema

/-!
# Resolving URLs

A router holds a root table, an optional not-found path and a redirect limit.

`Router.recognize` normalises the URL into segments and walks the root table. A redirect
restarts the walk from the root with the target's segments, recording the URL it left; once
as many redirects as the limit allows have been followed, one more is an error. A walk that
finds nothing is a `noMatch` for the current URL. A match gives a `Resolution`: the final
URL, the redirects followed, the matched chain and its view, the title of the deepest route
that has one, and the union of the chain's parameters (a deeper route winning).

`Router.navigate` is `recognize`, except that a `noMatch` with a not-found path set resolves
that path instead, reporting the unmatched URL as the first redirect and marking the
resolution as a fallback.

Both report the cells their walks loaded.
-/

namespace SwitchAdmin

/-- Why a URL does not resolve, or a route table cannot be built. -/
inductive RouterError where
  /-- No route matches this URL. -/
  | noMatch (url : String)
  /-- Navigating to `url` needed more redirects than `limit`. -/
  | redirectLoop (url : String) (limit : Nat)
  /-- The text is not a usable URL path. -/
  | invalidUrl (url : String) (reason : String)
  /-- A route names a view that is not registered. -/
  | unknownView (path : String) (name : String)
  /-- A route names a table that is not registered. -/
  | unknownTable (path : String) (name : String)
deriving DecidableEq, Repr

/-- The text of a router error. -/
def RouterError.message : RouterError → String
  | .noMatch url => s!"cannot match any routes for url '{url}'"
  | .redirectLoop url limit => s!"redirect limit of {limit} exceeded while navigating to '{url}'"
  | .invalidUrl url reason => s!"invalid url '{url}': {reason}"
  | .unknownView path name => s!"route '{path}' references unknown view '{name}'"
  | .unknownTable path name => s!"route '{path}' references unknown route table '{name}'"

/-- The name of the kind of a router error. -/
def RouterError.name : RouterError → String
  | .noMatch .. => "NoMatch"
  | .redirectLoop .. => "RedirectLoop"
  | .invalidUrl .. => "InvalidUrl"
  | .unknownView .. => "UnknownView"
  | .unknownTable .. => "UnknownTable"

/-- A resolved navigation. -/
structure Resolution where
  /-- The URL that matched, after redirects. -/
  url : String
  /-- The URLs left by redirects, in order. -/
  redirects : List String
  /-- The chain of matched routes, from the root table down. -/
  matched : List MatchedRoute
  /-- The view of the last route of the chain. -/
  view : View
  /-- The title of the deepest route that has one. -/
  title : Option String
  /-- The parameters of the whole chain. -/
  params : StrMap String
  /-- Whether this is the not-found fallback. -/
  fallback : Bool
deriving Inhabited

/-- The title of the deepest route of a chain that has one. -/
def chainTitle (chain : List MatchedRoute) : Option String :=
  chain.foldl (fun acc m => match m.title with | some t => some t | none => acc) none

/-- The parameters of a chain, a later route winning. -/
def chainParams (chain : List MatchedRoute) : StrMap String :=
  chain.foldl (fun acc m => acc.union m.params) StrMap.empty

/-- A router. -/
structure Router where
  /-- The root table. -/
  root : List Route
  /-- The path navigation falls back to when nothing matches. -/
  notFound : Option String := some "/404"
  /-- How many redirects one resolution may follow. -/
  maxRedirects : Nat := 16
  /-- The domain-to-ASCII step used to tell absolute URLs from paths. -/
  domainToAscii : DomainToAscii := Host.asciiLower
deriving Inhabited

namespace Router

/-- A router over a table with navigation settings; an empty not-found path means none. -/
def ofConfig (root : List Route) (nav : NavigationConfig) : Router :=
  { root, notFound := if nav.notFoundPath.isEmpty then none else some nav.notFoundPath,
    maxRedirects := nav.maxRedirects }

/-- The router without a not-found fallback. -/
def withoutFallback (r : Router) : Router := { r with notFound := none }

/-- Walks from the root with `segments`, with `budget` redirects left to follow. -/
def follow (r : Router) (input : String) :
    Nat → List String → List String → Except RouterError Resolution × List Cell
  | budget, segments, redirects =>
    let current := joinSegments segments
    let w := walkTable [] segments StrMap.empty r.root
    match w.1 with
    | none => (.error (.noMatch current), w.2)
    | some (.redirect next) =>
      match budget with
      | 0 => (.error (.redirectLoop input r.maxRedirects), w.2)
      | b + 1 =>
        let w' := r.follow input b next (redirects ++ [current])
        (w'.1, w.2 ++ w'.2)
    | some (.matched chain v) =>
      (.ok { url := current, redirects, matched := chain, view := v.view,
             title := chainTitle chain, params := chainParams chain, fallback := false }, w.2)

/-- Resolves a URL without fallback, with the cells loaded. -/
def recognize (r : Router) (input : String) : Except RouterError Resolution × List Cell :=
  match normalizePath r.domainToAscii input with
  | .error e => (.error (.invalidUrl input e.reason), [])
  | .ok segments => r.follow input r.maxRedirects segments []

/-- Resolves a URL, falling back to the not-found path when nothing matches. -/
def navigate (r : Router) (input : String) : Except RouterError Resolution × List Cell :=
  let first := r.recognize input
  match first.1, r.notFound with
  | .error (.noMatch unmatched), some fallback =>
    let second := r.recognize fallback
    (second.1.map fun res => { res with redirects := unmatched :: res.redirects, fallback := true },
     first.2 ++ second.2)
  | _, _ => first

end Router

/-! ### Resolutions as JSON -/

/-- A matched route as JSON: title and parameters only when present. -/
def MatchedRoute.toJson (m : MatchedRoute) : Json :=
  Json.object <|
    [("path", .str m.path), ("segments", Json.strs m.segments)] ++
    (match m.title with | some t => [("title", .str t)] | none => []) ++
    (if m.params.isEmpty then [] else [("params", Json.ofMap (m.params.mapValues .str))])

/-- A resolution as JSON. -/
def Resolution.toJson (r : Resolution) : Json :=
  Json.object [("url", .str r.url), ("redirects", Json.strs r.redirects),
    ("matched", .arr (r.matched.map MatchedRoute.toJson)), ("view", r.view.toJson),
    ("title", .optStr r.title), ("params", Json.ofMap (r.params.mapValues .str)),
    ("fallback", .bool r.fallback)]

end SwitchAdmin
