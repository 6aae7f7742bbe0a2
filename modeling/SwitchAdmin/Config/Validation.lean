import SwitchAdmin.Route.Registry
import SwitchAdmin.Text.Quoted

/-!
# Validating a configuration

`validateConfig cfg reg` lists every problem of a configuration, in a fixed order: first the
global settings (a zero redirect limit, a not-found path that is neither empty nor absolute,
an empty mismatch key, a log level that is not a level name, a digit from 0 to 5 or empty),
then the route tables depth first. A table is named `/` at the root and `parent/path` below
a route. For each route, in order:

* a catch-all (`**`) that is not the last route of its table;
* a path starting with `/`;
* for each `/`-piece of the path, a lone `:` and a `**` in a longer path;
* a redirect together with a view or children; else a redirect from an empty path that is
  not `full`; else a route with neither redirect nor view nor children;
* both inline children and a named table;
* a view name or table name that is not registered;

then the problems of its inline children. Each problem is reported once.
-/

namespace SwitchAdmin

/-- A problem of a configuration. -/
inductive ValidationError where
  | catchAllNotLast (table : String) (index : Nat)
  | emptyRedirectNotFull (path : String)
  | leadingSlash (path : String)
  | noTarget (path : String)
  | redirectWithTarget (path : String)
  | childrenAndLoadChildren (path : String)
  | unknownView (path : String) (name : String)
  | unknownTable (path : String) (name : String)
  | emptyParameter (path : String)
  | misplacedCatchAll (path : String)
  | zeroMaxRedirects
  | relativeNotFoundPath (path : String)
  | emptyErrorKey
  | invalidLogLevel (level : String)
deriving DecidableEq, Repr

namespace ValidationError

/-- The name of the kind of problem. -/
def name : ValidationError → String
  | .catchAllNotLast .. => "CatchAllNotLast"
  | .emptyRedirectNotFull .. => "EmptyRedirectNotFull"
  | .leadingSlash .. => "LeadingSlash"
  | .noTarget .. => "NoTarget"
  | .redirectWithTarget .. => "RedirectWithTarget"
  | .childrenAndLoadChildren .. => "ChildrenAndLoadChildren"
  | .unknownView .. => "UnknownView"
  | .unknownTable .. => "UnknownTable"
  | .emptyParameter .. => "EmptyParameter"
  | .misplacedCatchAll .. => "MisplacedCatchAll"
  | .zeroMaxRedirects => "ZeroMaxRedirects"
  | .relativeNotFoundPath .. => "RelativeNotFoundPath"
  | .emptyErrorKey => "EmptyErrorKey"
  | .invalidLogLevel .. => "InvalidLogLevel"

/-- The text of a problem. -/
def message : ValidationError → String
  | .catchAllNotLast table index =>
    s!"catch-all route in table '{table}' must be last (found at position {index})"
  | .emptyRedirectNotFull path =>
    s!"route '{path}' redirects from an empty path and must use path_match = \"full\""
  | .leadingSlash path => s!"route path '{path}' must not start with '/'"
  | .noTarget path => s!"route '{path}' has no redirect, component or children"
  | .redirectWithTarget path => s!"route '{path}' cannot combine redirect_to with component or children"
  | .childrenAndLoadChildren path => s!"route '{path}' cannot declare both children and load_children"
  | .unknownView path name => s!"route '{path}' references unknown view '{name}'"
  | .unknownTable path name => s!"route '{path}' references unknown route table '{name}'"
  | .emptyParameter path => s!"route '{path}' has an empty parameter segment"
  | .misplacedCatchAll path => s!"'**' must be the whole path, found '{path}'"
  | .zeroMaxRedirects => "navigation.max_redirects must be greater than 0"
  | .relativeNotFoundPath path => s!"navigation.not_found_path '{path}' must be absolute"
  | .emptyErrorKey => "forms.mismatch_error_key must not be empty"
  | .invalidLogLevel level =>
    s!"observability.log_level '{level}' is not one of off, error, warn, info, debug, trace"

/-- The problem as a diagnostic term: its kind with its fields. -/
def debug (e : ValidationError) : String :=
  match e with
  | .catchAllNotLast table index =>
    e.name ++ " \x7b table: " ++ quoted table ++ ", index: " ++ toString index ++ " \x7d"
  | .emptyRedirectNotFull path | .leadingSlash path | .noTarget path | .redirectWithTarget path
  | .childrenAndLoadChildren path | .emptyParameter path | .misplacedCatchAll path =>
    e.name ++ " \x7b path: " ++ quoted path ++ " \x7d"
  | .unknownView path name | .unknownTable path name =>
    e.name ++ " \x7b path: " ++ quoted path ++ ", name: " ++ quoted name ++ " \x7d"
  | .relativeNotFoundPath s | .invalidLogLevel s => e.name ++ "(" ++ quoted s ++ ")"
  | .zeroMaxRedirects | .emptyErrorKey => e.name

end ValidationError

/-- Whether a text is a log level: a level name in any case, a number from 0 to 5 (digits,
optionally after `+`), or empty. -/
def isLogLevel (s : String) : Bool :=
  let digits := match s.toList with
    | '+' :: rest => rest
    | cs => cs
  let numeric := !digits.isEmpty && digits.all Char.isDigit &&
    digits.foldl (fun acc c => acc * 10 + (c.toNat - '0'.toNat)) 0 ≤ 5
  let lower := String.ofList (s.toList.map fun c => if 'A' ≤ c && c ≤ 'Z' then Char.ofNat (c.toNat + 32) else c)
  numeric || s.isEmpty || ["off", "error", "warn", "info", "debug", "trace"].contains lower

/-- The problems of the global settings. -/
def globalProblems (cfg : AppConfig) : List ValidationError :=
  (if cfg.navigation.maxRedirects = 0 then [.zeroMaxRedirects] else []) ++
  (let p := cfg.navigation.notFoundPath
   if !p.isEmpty && p.toList.head? ≠ some '/' then [.relativeNotFoundPath p] else []) ++
  (if cfg.forms.mismatchErrorKey.isEmpty then [.emptyErrorKey] else []) ++
  (if isLogLevel cfg.observability.logLevel then [] else [.invalidLogLevel cfg.observability.logLevel])

/-- The name of the table nested under `path` in `table`. -/
def nestedTableName (table path : String) : String :=
  String.ofList (table.toList.reverse.dropWhile (· = '/')).reverse ++ "/" ++ path

/-- The problems of one route on its own (not its children). -/
def routeProblems (reg : Registry) (r : RouteConfig) : List ValidationError :=
  let path := r.path
  let hasChildren := r.loadChildren.isSome || !r.children.isEmpty
  let hasTarget := r.component.isSome || hasChildren
  (if path.toList.head? = some '/' then [.leadingSlash path] else []) ++
  ((piecesOf path '/').flatMap fun piece =>
    (if piece = ":" then [.emptyParameter path] else []) ++
    (if piece = "**" ∧ path ≠ "**" then [.misplacedCatchAll path] else [])) ++
  (match r.redirectTo with
   | some _ =>
     if hasTarget then [.redirectWithTarget path]
     else if path.isEmpty ∧ r.pathMatch ≠ .full then [.emptyRedirectNotFull path]
     else []
   | none => if hasTarget then [] else [.noTarget path]) ++
  (if r.loadChildren.isSome ∧ !r.children.isEmpty then [.childrenAndLoadChildren path] else []) ++
  (match r.component with
   | some name => if reg.hasView name then [] else [.unknownView path name]
   | none => []) ++
  (match r.loadChildren with
   | some name => if reg.hasTable name then [] else [.unknownTable path name]
   | none => [])

mutual

/-- The problems of the routes of a table from position `index` on; `last` is the last
position of the table. -/
def tableProblems (reg : Registry) (table : String) (last : Nat) :
    Nat → List RouteConfig → List ValidationError
  | _, [] => []
  | index, r :: rs => entryProblems reg table last index r ++ tableProblems reg table last (index + 1) rs

/-- The problems of one route at `index` of a table, then those of its children. -/
def entryProblems (reg : Registry) (table : String) (last index : Nat) :
    RouteConfig → List ValidationError
  | r@⟨path, _, _, _, _, _, children⟩ =>
    (if path = "**" ∧ index ≠ last then [.catchAllNotLast table index] else []) ++
    routeProblems reg r ++
    (match children with
     | [] => []
     | c :: cs => tableProblems reg (nestedTableName table path) cs.length 0 (c :: cs))

end

/-- Every problem of a configuration, in order. -/
def validateConfig (cfg : AppConfig) (reg : Registry) : List ValidationError :=
  globalProblems cfg ++ tableProblems reg "/" (cfg.routes.length - 1) 0 cfg.routes

end SwitchAdmin
