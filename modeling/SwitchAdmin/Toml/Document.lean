import SwitchAdmin.Decimal.Binary64

/-!
# TOML documents as trees

A TOML document is read into a `Node` tree. Every value remembers its `Span`, the byte
offsets of its text, so that an error about a value can point at it. Tables remember how
they came to be (`TableKind`): written with braces, opened by a header, or made on the way
by a longer header or a dotted key. Those facts decide which later definitions of the same
table are allowed.

Table entries are kept in the order they were made, which is the order a reader visits
them.
-/

namespace SwitchAdmin

namespace Toml

/-- A stretch of the document: the offset of its first byte and one past its last. -/
structure Span where
  /-- Offset of the first byte. -/
  start : Nat
  /-- Offset one past the last byte. -/
  stop : Nat
deriving DecidableEq, Repr, Inhabited

/-- A key as written: its name, its text in the document (quotes included), and where it
stands. -/
structure Key where
  /-- The key's name, escapes resolved. -/
  name : String
  /-- The key's text as written. -/
  raw : String
  /-- Where the key's text stands. -/
  span : Span
deriving Inhabited

/-- How a table came to be. -/
structure TableKind where
  /-- Written with braces, as a value. -/
  inline : Bool
  /-- Made on the way to a longer header or dotted key, not defined by its own. -/
  implicit : Bool
  /-- Made by a dotted key. -/
  dotted : Bool
deriving DecidableEq, Inhabited

/-- The kind of a table opened by its own header, and of the document root. -/
def TableKind.header : TableKind := ⟨false, false, false⟩

/-- The kind of a table written with braces. -/
def TableKind.braces : TableKind := ⟨true, false, false⟩

/-- A TOML value or table, with where it stands. -/
inductive Node where
  /-- A string. -/
  | string (value : String) (span : Span)
  /-- A 64-bit signed integer. -/
  | integer (value : Int) (span : Span)
  /-- A binary64 number. -/
  | float (value : Binary64) (span : Span)
  /-- A boolean. -/
  | boolean (value : Bool) (span : Span)
  /-- A date, a time, or both, kept as written. -/
  | datetime (text : String) (span : Span)
  /-- An array written with brackets. -/
  | array (items : List Node) (span : Span)
  /-- A table and its entries in the order they were made. Tables made on the way have
  no span. -/
  | table (kind : TableKind) (entries : List (Key × Node)) (span : Option Span)
  /-- An array of tables, each opened by a double-bracket header. -/
  | tables (items : List Node) (span : Option Span)
deriving Inhabited

/-- Table entries, in the order they were made. -/
abbrev Entries := List (Key × Node)

namespace Node

/-- Where a node stands, when it was written in one place. -/
def span? : Node → Option Span
  | .string _ s | .integer _ s | .float _ s | .boolean _ s | .datetime _ s | .array _ s =>
    some s
  | .table _ _ s | .tables _ s => s

/-- The name of a node's kind, as errors spell it. -/
def typeName : Node → String
  | .string .. => "string"
  | .integer .. => "integer"
  | .float .. => "float"
  | .boolean .. => "boolean"
  | .datetime .. => "datetime"
  | .array .. => "array"
  | .table kind _ _ => if kind.inline then "inline table" else "table"
  | .tables .. => "array of tables"

end Node

/-- The node under the first entry with this name. -/
def lookup (name : String) : Entries → Option Node
  | [] => none
  | (k, n) :: rest => if k.name = name then some n else lookup name rest

/-- Replaces the node under the first entry with this name, keeping its place and key. -/
def replaceEntry (name : String) (n : Node) : Entries → Entries
  | [] => []
  | (k, m) :: rest => if k.name = name then (k, n) :: rest else (k, m) :: replaceEntry name n rest

/-- Removes the first entry with this name; the others keep their order. -/
def eraseEntry (name : String) : Entries → Entries
  | [] => []
  | (k, m) :: rest => if k.name = name then rest else (k, m) :: eraseEntry name rest

@[simp] theorem lookup_nil (name : String) : lookup name [] = none := rfl

theorem lookup_replaceEntry_self (name : String) (n : Node) (es : Entries)
    (h : (lookup name es).isSome) : lookup name (replaceEntry name n es) = some n := by
  induction es with
  | nil => simp at h
  | cons e rest ih =>
    obtain ⟨k, m⟩ := e
    by_cases hk : k.name = name
    · simp [replaceEntry, lookup, hk]
    · simp only [lookup, hk, if_false] at h
      simp [replaceEntry, lookup, hk, ih h]

end Toml

end SwitchAdmin
