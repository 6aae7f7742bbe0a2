import SwitchAdmin.Config.Schema
import SwitchAdmin.Config.DecodeError

/-!
# Reading a configuration from a JSON value

A configuration section is read from an object or from an array:

* from an object, the members are read in key order; unknown members are ignored and
  missing ones take their defaults;
* from an array, the elements are the settings in declaration order; missing trailing
  ones take their defaults, and more elements than settings are refused.

`null` stands for a missing optional setting only. A count is a nonnegative integer; a mode
or format is one of its names, or an object whose single member is that name with value
`null`. The first setting that cannot be read gives the error, in the words of
`DecodeError`; JSON's binary64 numbers are spelled in `FloatStyle.json`.
-/

namespace SwitchAdmin

namespace Json

/-- What a reader finds in a JSON value. -/
def found : Json → Found
  | .null => .null
  | .bool b => .bool b
  | .int n => if 0 ≤ n then .unsigned n.toNat else .signed n
  | .float x => .float x
  | .str s => .str s
  | .arr _ => .seq
  | .obj _ => .map

end Json

namespace ConfigJson

/-- Reading one typed setting from a JSON value. -/
abbrev Reader (α : Type) := Json → Except DecodeError α

/-- A string. -/
def string : Reader String
  | .str s => .ok s
  | j => .error (.invalidType j.found "a string")

/-- A count: a nonnegative integer. -/
def count : Reader Nat
  | .int n => if 0 ≤ n then .ok n.toNat else .error (.invalidValue (.signed n) "usize")
  | j => .error (.invalidType j.found "usize")

/-- An optional setting: `null` is none. -/
def optional {α : Type} (r : Reader α) : Reader (Option α)
  | .null => .ok none
  | j => some <$> r j

/-- One of the named variants. -/
def variant {α : Type} (allowed : List (String × α)) : Reader α
  | .str s =>
    match allowed.lookup s with
    | some a => .ok a
    | none => .error (.unknownVariant s (allowed.map (·.1)))
  | .obj [(k, v)] =>
    match allowed.lookup k with
    | some a => match v with
      | .null => .ok a
      | other => .error (.invalidType other.found "unit variant")
    | none => .error (.unknownVariant k (allowed.map (·.1)))
  | .obj _ => .error (.invalidValue .map "map with a single key")
  | j => .error (.invalidType j.found "string or map")

/-- A list of settings read one by one. -/
def list {α : Type} (r : Reader α) : Reader (List α)
  | .arr items => items.mapM r
  | j => .error (.invalidType j.found "a sequence")

/-- A setting of a section: its name and how it changes the section. -/
structure Setting (α : Type) where
  /-- The setting's name in an object. -/
  name : String
  /-- Reads the value into the section. -/
  apply : Json → α → Except DecodeError α

/-- Reads a section from the members of an object, in order. -/
def fromMembers {α : Type} (settings : List (Setting α)) (init : α) :
    List (String × Json) → Except DecodeError α
  | [] => .ok init
  | (k, v) :: rest =>
    match settings.find? (·.name = k) with
    | some s => do fromMembers settings (← s.apply v init) rest
    | none => fromMembers settings init rest

/-- Reads a section from array elements, one per setting. -/
def fromItems {α : Type} : List (Setting α) → α → List Json → Except DecodeError α
  | s :: ss, acc, v :: vs => do fromItems ss (← s.apply v acc) vs
  | _, acc, _ => .ok acc

/-- Reads a section, named `what` in errors, from an object or an array. -/
def ofSection {α : Type} (what : String) (settings : List (Setting α)) (init : α) : Reader α
  | .obj members => fromMembers settings init members
  | .arr items => do
    let r ← fromItems settings init items
    if items.length ≤ settings.length then pure r
    else throw (.invalidLength items.length "fewer elements in array")
  | j => .error (.invalidType j.found what)

end ConfigJson

open ConfigJson

/-- The spellings of path-match modes. -/
def PathMatch.names : List (String × PathMatch) := [("prefix", .leading), ("full", .full)]

/-- The spellings of log formats. -/
def LogFormat.names : List (String × LogFormat) :=
  [("full", .full), ("compact", .compact), ("pretty", .pretty)]

/-- Reads the navigation section. -/
def NavigationConfig.ofJson : Reader NavigationConfig :=
  ofSection "struct NavigationConfig"
    [⟨"not_found_path", fun v c => return { c with notFoundPath := ← string v }⟩,
     ⟨"max_redirects", fun v c => return { c with maxRedirects := ← count v }⟩] {}

/-- Reads the forms section. -/
def FormsConfig.ofJson : Reader FormsConfig :=
  ofSection "struct FormsConfig"
    [⟨"password_min_length", fun v c => return { c with passwordMinLength := ← count v }⟩,
     ⟨"mismatch_error_key", fun v c => return { c with mismatchErrorKey := ← string v }⟩] {}

/-- Reads the observability section. -/
def ObservabilityConfig.ofJson : Reader ObservabilityConfig :=
  ofSection "struct ObservabilityConfig"
    [⟨"log_level", fun v c => return { c with logLevel := ← string v }⟩,
     ⟨"log_format", fun v c => return { c with logFormat := ← variant LogFormat.names v }⟩] {}

/-- The settings of a route entry; `children` reads nested entries with `child`. -/
def RouteConfig.settings (child : Reader RouteConfig) : List (Setting RouteConfig) :=
  [⟨"path", fun v c => return { c with path := ← string v }⟩,
   ⟨"path_match", fun v c => return { c with pathMatch := ← variant PathMatch.names v }⟩,
   ⟨"title", fun v c => return { c with title := ← optional string v }⟩,
   ⟨"redirect_to", fun v c => return { c with redirectTo := ← optional string v }⟩,
   ⟨"component", fun v c => return { c with component := ← optional string v }⟩,
   ⟨"load_children", fun v c => return { c with loadChildren := ← optional string v }⟩,
   ⟨"children", fun v c => return { c with children := ← list child v }⟩]

/-- Reads a route entry; nesting deeper than `fuel` is refused. -/
def RouteConfig.ofJsonUpTo : Nat → Reader RouteConfig
  | 0, _ => .error (.custom "recursion limit exceeded")
  | fuel + 1, j => do
    let settings := RouteConfig.settings (RouteConfig.ofJsonUpTo fuel)
    let r ← ofSection "struct RouteConfig" settings { path := "" } j
    match j with
    | .obj members =>
      if members.any (·.1 = "path") then pure r else throw (.missingField "path")
    | .arr [] => throw (.invalidLength 0 "struct RouteConfig with 7 elements")
    | _ => pure r

/-- Reads a route entry. -/
def RouteConfig.ofJson (j : Json) : Except DecodeError RouteConfig :=
  RouteConfig.ofJsonUpTo 128 j

/-- Reads a whole configuration. -/
def AppConfig.ofJson : Reader AppConfig :=
  ofSection "struct AppConfig"
    [⟨"navigation", fun v c => return { c with navigation := ← NavigationConfig.ofJson v }⟩,
     ⟨"forms", fun v c => return { c with forms := ← FormsConfig.ofJson v }⟩,
     ⟨"observability", fun v c => return { c with observability := ← ObservabilityConfig.ofJson v }⟩,
     ⟨"routes", fun v c => return { c with routes := ← list RouteConfig.ofJson v }⟩] {}

/-- The text of an error met while reading a configuration from JSON. -/
def DecodeError.jsonMessage (e : DecodeError) : String := e.message FloatStyle.json

end SwitchAdmin
