import SwitchAdmin.Cli.Parse
import SwitchAdmin.Config.Load
import SwitchAdmin.Route.Builtin
import SwitchAdmin.Route.Session
import SwitchAdmin.Form.ResetPassword
import SwitchAdmin.Json.Write

/-!
# Running the command line

`runCommandLine` answers a command line the way the program does, given what the files
it may read contain: the exit status, what goes to standard output, and what goes to
standard error or the error the program ends with.

* A help text goes to standard output with status 0; a refusal of the arguments to
  standard error with status 2.
* The configuration file named by `--config` is loaded and checked first; without one
  the defaults apply. An error there, or later, ends the program with status 1 and the
  error in its debugging notation.
* Each command prints one JSON document, indented: the URLs resolved in turn against one
  router, the route table described, the configuration checked, or the reset-password
  form's report.

`watchDocuments` gives what `watch` prints as its file changes: the URLs resolved against
the first configuration, then again after every version of the file that loads and
validates.
-/

namespace SwitchAdmin

/-- A router error in its debugging notation. -/
def RouterError.debug (e : RouterError) : String :=
  match e with
  | .noMatch url => "NoMatch(" ++ quoted url ++ ")"
  | .redirectLoop url limit =>
    "RedirectLoop \x7b url: " ++ quoted url ++ ", limit: " ++ toString limit ++ " \x7d"
  | .invalidUrl url reason =>
    "InvalidUrl \x7b url: " ++ quoted url ++ ", reason: " ++ quoted reason ++ " \x7d"
  | .unknownView path name | .unknownTable path name =>
    e.name ++ " \x7b path: " ++ quoted path ++ ", name: " ++ quoted name ++ " \x7d"

namespace Cli

/-- What a run of the program leaves behind. -/
structure Outcome where
  /-- The exit status. -/
  exit : Nat
  /-- What went to standard output. -/
  stdout : String := ""
  /-- What went to standard error, logs aside. -/
  stderr : String := ""
  /-- The error the program ended with, in its debugging notation. -/
  error : Option String := none
deriving Inhabited

/-- A run that prints one JSON document. -/
def printed (j : Json) : Outcome := { exit := 0, stdout := j.pretty ++ "\n" }

/-- A run that ends with an error. -/
def failed (debug : String) : Outcome := { exit := 1, error := some debug }

/-- Each URL with its resolution or error, one router answering them in turn. -/
def resolveAll (router : Router) (urls : List String) : Json :=
  let replies := (Session.mk router {}).run (urls.map Request.navigate)
  .arr ((urls.zip replies).map fun (url, reply) =>
    match reply with
    | .resolution (.ok r) => Json.object [("input", .str url), ("resolution", r.toJson)]
    | .resolution (.error e) => Json.object [("input", .str url), ("error", .str e.message)]
    | _ => Json.object [("input", .str url)])

/-- The documents `watch` prints after the first one: one for each version of the file
that loads, validates and builds. -/
def watchDocuments (reg : Registry) (urls : List String) : List String → List Json
  | [] => []
  | version :: later =>
    let rest := watchDocuments reg urls later
    match parseConfig version reg with
    | .error _ => rest
    | .ok cfg =>
      match buildRouter cfg reg with
      | .ok router => resolveAll router urls :: rest
      | .error _ => rest

/-- Runs a command with its configuration loaded. -/
def runCommand (reg : Registry) (path : Option String) (cfg : AppConfig) : Command → Outcome
  | .resolve urls =>
    match buildRouter cfg reg with
    | .ok router => printed (resolveAll router urls)
    | .error e => failed e.debug
  | .routes expand =>
    match buildRouter cfg reg with
    | .ok router => printed (.arr (RouteSummary.listToJson (describeTable {} expand router.root).1))
    | .error e => failed e.debug
  | .checkConfig =>
    match buildRouter cfg reg with
    | .ok _ =>
      printed (Json.object [("config", match path with | some p => .str p | none => .null),
        ("valid", .bool true)])
    | .error e => failed e.debug
  | .matchFields password confirm =>
    printed (matchFieldsReport cfg.forms (.str password) (.str confirm))
  | .watch urls =>
    match path with
    | none => failed (quoted "watch requires --config")
    | some _ =>
      match buildRouter cfg reg with
      | .ok router => printed (resolveAll router urls)
      | .error e => failed e.debug

/-- Runs the program on its arguments, `files` giving the contents of the files there
are. -/
def runCommandLine (files : String → Option String) (args : List String) : Outcome :=
  match parseArgs args with
  | .help text => { exit := 0, stdout := text }
  | .refused text => { exit := 2, stderr := text }
  | .run inv =>
    let reg := defaultRegistry
    let loaded : Except ConfigError AppConfig := match inv.config with
      | none => .ok {}
      | some path => loadConfig (files path) reg
    match loaded with
    | .error e => failed e.debug
    | .ok cfg => runCommand reg inv.config cfg inv.command

/-- The successive contents of a file that starts as `initial` and has `appends` appended
one by one. -/
def versions (initial : String) : List String → List String
  | [] => []
  | a :: rest => (initial ++ a) :: versions (initial ++ a) rest

/-- A `watch` run on the file `path` with contents `initial`, interrupted after the
file had `appends` appended one by one: its exit status and the documents it printed. -/
def watchSession (path : String) (urls : List String) (initial : String) (appends : List String) :
    Nat × List Json :=
  match parseArgs (["--config", path, "watch"] ++ urls) with
  | .help _ => (0, [])
  | .refused _ => (2, [])
  | .run inv =>
    let reg := defaultRegistry
    match loadConfig (some initial) reg with
    | .error _ => (1, [])
    | .ok cfg =>
      match inv.command, buildRouter cfg reg with
      | .watch urls, .ok router =>
        (0, resolveAll router urls :: watchDocuments reg urls (versions initial appends))
      | _, _ => (1, [])

end Cli

end SwitchAdmin
