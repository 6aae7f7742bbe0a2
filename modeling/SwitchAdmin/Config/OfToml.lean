import SwitchAdmin.Config.Schema
import SwitchAdmin.Config.DecodeError
import SwitchAdmin.Config.OfJson
import SwitchAdmin.Toml.Read

/-!
# Reading a configuration from a TOML document

A configuration section is read from a table or from an array:

* from a table, the entries are read in the order they were made; unknown keys are
  ignored and missing ones take their defaults;
* from an array, the items are the settings in declaration order; missing trailing ones
  take their defaults and extra ones are ignored.

A date is read as a table whose single key is none of the settings. Integers are signed
64-bit numbers, so a count refuses negative ones as values and everything else by kind.
A mode or format is one of its names, or a table whose single key is that name and whose
value is empty.

An error keeps the keys leading to it and points at the innermost value that has a
place in the document; a table made on the way by a longer header or dotted key has
none, and the key naming it is pointed at instead.
-/

namespace SwitchAdmin

namespace ConfigToml

open Toml

/-- An error met while reading settings from a TOML document. -/
structure Problem where
  /-- What went wrong. -/
  error : DecodeError
  /-- The keys leading to the value, outermost first. -/
  keys : List String := []
  /-- The bytes pointed at, once known. -/
  span : Option Span := none
deriving Inhabited

/-- Reading one typed setting from a TOML node. -/
abbrev Reader (α : Type) := Node → Except Problem α

/-- A problem pointing nowhere yet. -/
def problem {α : Type} (e : DecodeError) : Except Problem α := .error { error := e }

/-- Points a problem without a place at `span`. -/
def pointAt {α : Type} (span : Option Span) (r : Except Problem α) : Except Problem α :=
  match r with
  | .error p => .error (if p.span.isSome then p else { p with span := span })
  | ok => ok

/-- Reads `n` with `r`, pointing problems without a place at `n`. -/
def readAt {α : Type} (r : Reader α) (n : Node) : Except Problem α := pointAt n.span? (r n)

/-- What a reader finds in a TOML node. -/
def found : Node → Found
  | .string s _ => .str s
  | .integer i _ => .signed i
  | .float x _ => .float x
  | .boolean b _ => .bool b
  | .datetime .. | .table .. => .map
  | .array .. | .tables .. => .seq

/-- A string. -/
def string : Reader String
  | .string s _ => .ok s
  | n => problem (.invalidType (found n) "a string")

/-- A count: a nonnegative integer. -/
def count : Reader Nat
  | .integer i _ => if 0 ≤ i then .ok i.toNat else problem (.invalidValue (.signed i) "usize")
  | n => problem (.invalidType (found n) "usize")

/-- A list of settings read one by one, each pointing at its own item. -/
def list {α : Type} (r : Reader α) : Reader (List α)
  | .array items _ | .tables items _ => items.mapM (readAt r)
  | n => problem (.invalidType (found n) "a sequence")

/-- Checks that the value under a variant's name is empty, as a variant without data
needs. -/
def emptyVariantValue : Reader Unit
  | .tables items span =>
    if items.isEmpty then .ok () else pointAt span (problem (.custom "expected empty array"))
  | .array items span =>
    if items.isEmpty then .ok () else pointAt (some span) (problem (.custom "expected empty array"))
  | .table _ entries span =>
    if entries.isEmpty then .ok () else pointAt span (problem (.custom "expected empty table"))
  | n => pointAt n.span? (problem (.custom ("expected table, found " ++ n.typeName)))

/-- The variant named by a table entry's key, whose value must be empty. -/
def variantEntry {α : Type} (allowed : List (String × α)) (k : Key) (v : Node) :
    Except Problem α :=
  match allowed.lookup k.name with
  | none => pointAt (some k.span) (problem (.unknownVariant k.name (allowed.map (·.1))))
  | some a => do emptyVariantValue v; return a

/-- One of the named variants: its name, or a table whose key is the name and whose value
is empty. A table written with braces must have exactly one entry; of a table opened by a
header or a dotted key, the first entry is read and the others are ignored. -/
def variant {α : Type} (allowed : List (String × α)) : Reader α
  | .string s _ =>
    match allowed.lookup s with
    | some a => .ok a
    | none => problem (.unknownVariant s (allowed.map (·.1)))
  | .table kind entries span =>
    match entries with
    | [] =>
      pointAt span (problem (.custom (if kind.inline then "wanted exactly 1 element, found 0 elements"
        else "expected table with exactly 1 entry, found empty table")))
    | [(k, v)] => variantEntry allowed k v
    | (k, v) :: _ =>
      if kind.inline then
        pointAt span (problem (.custom "wanted exactly 1 element, more than 1 element"))
      else variantEntry allowed k v
  | n => pointAt n.span? (problem (.custom "wanted string or table"))

/-- A setting of a section: its key and how it changes the section. -/
structure Setting (α : Type) where
  /-- The setting's key. -/
  name : String
  /-- Reads the value into the section. -/
  apply : Node → α → Except Problem α

/-- Reads a section from table entries, in order. A problem under a key is pointed at the
value, or at the key when the value has no place, and the key is added to its path. -/
def fromEntries {α : Type} (settings : List (Setting α)) (init : α) : Entries → Except Problem α
  | [] => .ok init
  | (k, v) :: rest =>
    match settings.find? (·.name = k.name) with
    | none => fromEntries settings init rest
    | some s =>
      match s.apply v init with
      | .ok acc => fromEntries settings acc rest
      | .error p =>
        let span := if p.span.isSome then p.span else (v.span?.orElse fun _ => some k.span)
        .error { p with span := span, keys := k.name :: p.keys }

/-- Reads a section from array items, one per setting, each pointing at its own item. -/
def fromItems {α : Type} : List (Setting α) → α → List Node → Except Problem α
  | s :: ss, acc, v :: vs => do fromItems ss (← pointAt v.span? (s.apply v acc)) vs
  | _, acc, _ => .ok acc

/-- Reads a section, named `what` in errors, from a table or an array. -/
def ofSection {α : Type} (what : String) (settings : List (Setting α)) (init : α) : Reader α
  | .table _ entries _ => fromEntries settings init entries
  | .datetime .. => .ok init
  | .array items _ | .tables items _ => fromItems settings init items
  | n => problem (.invalidType (found n) what)

end ConfigToml

open ConfigToml

/-- Reads the navigation section. -/
def NavigationConfig.ofToml : ConfigToml.Reader NavigationConfig :=
  ofSection "struct NavigationConfig"
    [⟨"not_found_path", fun v c => return { c with notFoundPath := ← readAt string v }⟩,
     ⟨"max_redirects", fun v c => return { c with maxRedirects := ← readAt count v }⟩] {}

/-- Reads the forms section. -/
def FormsConfig.ofToml : ConfigToml.Reader FormsConfig :=
  ofSection "struct FormsConfig"
    [⟨"password_min_length", fun v c => return { c with passwordMinLength := ← readAt count v }⟩,
     ⟨"mismatch_error_key", fun v c => return { c with mismatchErrorKey := ← readAt string v }⟩] {}

/-- Reads the observability section. -/
def ObservabilityConfig.ofToml : ConfigToml.Reader ObservabilityConfig :=
  ofSection "struct ObservabilityConfig"
    [⟨"log_level", fun v c => return { c with logLevel := ← readAt string v }⟩,
     ⟨"log_format", fun v c => return { c with logFormat := ← readAt (variant LogFormat.names) v }⟩]
    {}

/-- The settings of a route entry; `children` reads nested entries with `child`. -/
def RouteConfig.tomlSettings (child : ConfigToml.Reader RouteConfig) :
    List (ConfigToml.Setting RouteConfig) :=
  [⟨"path", fun v c => return { c with path := ← readAt string v }⟩,
   ⟨"path_match", fun v c => return { c with pathMatch := ← readAt (variant PathMatch.names) v }⟩,
   ⟨"title", fun v c => return { c with title := some (← readAt string v) }⟩,
   ⟨"redirect_to", fun v c => return { c with redirectTo := some (← readAt string v) }⟩,
   ⟨"component", fun v c => return { c with component := some (← readAt string v) }⟩,
   ⟨"load_children", fun v c => return { c with loadChildren := some (← readAt string v) }⟩,
   ⟨"children", fun v c => return { c with children := ← readAt (list child) v }⟩]

/-- Whether a route entry as written gives its path. -/
def RouteConfig.tomlHasPath : Toml.Node → Bool
  | .table _ entries _ => entries.any (·.1.name = "path")
  | .array items _ | .tables items _ => !items.isEmpty
  | .datetime .. => false
  | _ => true

/-- Reads a route entry; nesting deeper than `fuel` is refused. -/
def RouteConfig.ofTomlUpTo : Nat → ConfigToml.Reader RouteConfig
  | 0, _ => problem (.custom "recursion limit exceeded")
  | fuel + 1, n => do
    let r ← ofSection "struct RouteConfig" (RouteConfig.tomlSettings (RouteConfig.ofTomlUpTo fuel))
      { path := "" } n
    if RouteConfig.tomlHasPath n then return r
    else match n with
      | .array .. | .tables .. => problem (.invalidLength 0 "struct RouteConfig with 7 elements")
      | _ => problem (.missingField "path")

/-- Reads a route entry. -/
def RouteConfig.ofToml : ConfigToml.Reader RouteConfig := RouteConfig.ofTomlUpTo 128

/-- Reads a whole configuration from a document's root table. -/
def AppConfig.ofToml : ConfigToml.Reader AppConfig :=
  ofSection "struct AppConfig"
    [⟨"navigation", fun v c => return { c with navigation := ← readAt NavigationConfig.ofToml v }⟩,
     ⟨"forms", fun v c => return { c with forms := ← readAt FormsConfig.ofToml v }⟩,
     ⟨"observability", fun v c =>
        return { c with observability := ← readAt ObservabilityConfig.ofToml v }⟩,
     ⟨"routes", fun v c => return { c with routes := ← readAt (list RouteConfig.ofToml) v }⟩] {}

/-- Reads a configuration from TOML text: the document, then its settings. -/
def AppConfig.fromToml (text : String) : Except Toml.TomlError AppConfig :=
  match Toml.readDocument text with
  | .error e => .error e
  | .ok root =>
    match readAt AppConfig.ofToml root with
    | .ok cfg => .ok cfg
    | .error p =>
      .error { message := p.error.message FloatStyle.positional, raw := some text,
               keys := p.keys, span := p.span }

end SwitchAdmin
