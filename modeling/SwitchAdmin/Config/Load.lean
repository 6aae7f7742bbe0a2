import SwitchAdmin.Config.OfToml
import SwitchAdmin.Config.Validation

/-!
# Loading a configuration

A configuration is loaded from TOML text in two stages: the text is read into settings
(`AppConfig.fromToml`), then the settings are checked against a registry
(`validateConfig`). A file that is not there is the third way to fail. `ConfigError`
keeps which stage failed and why.
-/

namespace SwitchAdmin

/-- Why a configuration could not be loaded. -/
inductive ConfigError where
  /-- The configuration file is not there. -/
  | missingFile
  /-- The text is not a TOML document of settings. -/
  | parse (error : Toml.TomlError)
  /-- The settings have problems, in the order they were found. -/
  | validation (errors : List ValidationError)
deriving Inhabited

namespace ConfigError

/-- The name of the stage that failed. -/
def name : ConfigError → String
  | .missingFile => "Io"
  | .parse _ => "Parse"
  | .validation _ => "Validation"

/-- The error in words. -/
def message : ConfigError → String
  | .missingFile => "IO error: No such file or directory (os error 2)"
  | .parse e => "Parse error: " ++ e.render
  | .validation es => "Validation failed: " ++ joinWith ", " (es.map ValidationError.message)

/-- The error as a diagnostic term. -/
def debug : ConfigError → String
  | .missingFile =>
    "Io(Os \x7b code: 2, kind: NotFound, message: \"No such file or directory\" \x7d)"
  | .parse e => "Parse(" ++ e.debug ++ ")"
  | .validation es => "Validation([" ++ joinWith ", " (es.map ValidationError.debug) ++ "])"

end ConfigError

/-- Reads and checks a configuration from TOML text. -/
def parseConfig (text : String) (reg : Registry) : Except ConfigError AppConfig :=
  match AppConfig.fromToml text with
  | .error e => .error (.parse e)
  | .ok cfg =>
    match validateConfig cfg reg with
    | [] => .ok cfg
    | es => .error (.validation es)

/-- Loads a configuration from a file's contents, `none` when the file is not there. -/
def loadConfig (contents : Option String) (reg : Registry) : Except ConfigError AppConfig :=
  match contents with
  | none => .error .missingFile
  | some text => parseConfig text reg

theorem loadConfig_none (reg : Registry) : loadConfig none reg = .error .missingFile := rfl

end SwitchAdmin
