import SwitchAdmin.Toml.Strings
import SwitchAdmin.Toml.Numbers
import SwitchAdmin.Toml.Tables

/-!
# TOML keys and values

`key` reads a key, dotted or not. `value` reads any value, choosing the form by its first
byte: quotes start strings, brackets arrays, braces inline tables; a sign or digit starts
a date, a float or an integer, tried in that order; `t`, `f`, `i` and `n` start `true`,
`false`, `inf` and `nan`. Anything else is refused as a string would be, since a missing
quote is the likely mistake.

Arrays and inline tables nest at most 79 deep. Every reading function also takes fuel,
one unit per call, so that the mutual recursion is structural; the document reader gives
four units per byte, more than any reading needs.
-/

namespace SwitchAdmin

namespace Toml

open Step

/-- Reads one part of a key: bare, basic or literal. -/
def simpleKey : Step Key := do
  let (name, raw, span) ← recognize do
    match ← peek with
    | some 34 => basicString
    | some 39 => literalString
    | _ => do
      let bytes ← takeWhile1 isBareKeyByte
      return stringOfBytes bytes
  return ⟨name, stringOfBytes raw, span⟩

/-- The deepest nesting of dotted keys, arrays and inline tables. -/
def depthLimit : Nat := 80

/-- Reads a key: its parts separated by dots, blanks allowed around each part. -/
def key : Step (List Key) := do
  let start ← here
  let fuel ← room
  let keys ← label "key" (separated1 (do
    blanks
    let k ← simpleKey
    blanks
    return k) (byte (code '.')) fuel)
  if keys.length < depthLimit then return keys
  else throw { pos := start, cause := some Conflict.tooDeep.message }

/-- A key as a dotted path and a last key. -/
def splitKey (keys : List Key) : List Key × Key := (keys.dropLast, keys.getLast?.getD default)

/-- Refusals in the manner of a string that lacks its opening quote. -/
def likeString {α : Type} (s : Step α) : Step α :=
  expecting [.char '"', .char '\''] (label "string" s)

/-- A hard failure for nesting too deep. -/
def tooDeep {α : Type} : Step α := cut (missBecause Conflict.tooDeep.message)

mutual

/-- Reads a value at nesting `level`. -/
def value (level : Nat) : Nat → Step Node
  | 0 => tooDeep
  | fuel + 1 => do
    let start ← here
    match ← peek with
    | some 34 | some 39 => do
      let s ← anyString
      return .string s ⟨start, ← here⟩
    | some 91 =>
      if level + 1 < depthLimit then array (level + 1) fuel else tooDeep
    | some 123 =>
      if level + 1 < depthLimit then inlineTable (level + 1) fuel else tooDeep
    | some b =>
      if b == code '+' || b == code '-' || isDigit b then
        firstOf [
          do let t ← dateTime; return .datetime t ⟨start, ← here⟩,
          do let x ← float; return .float x ⟨start, ← here⟩,
          do let n ← integer; return .integer n ⟨start, ← here⟩]
      else if b == code '_' then
        expecting [.description "leading digit"] do
          let n ← integer
          return .integer n ⟨start, ← here⟩
      else if b == code '.' then
        expecting [.description "leading digit"] do
          let x ← float
          return .float x ⟨start, ← here⟩
      else if b == code 't' then
        likeString do
          let v ← trueValue
          return .boolean v ⟨start, ← here⟩
      else if b == code 'f' then
        likeString do
          let v ← falseValue
          return .boolean v ⟨start, ← here⟩
      else if b == code 'i' then
        likeString do
          literal [105, 110, 102]
          return .float Binary64.infinity ⟨start, ← here⟩
      else if b == code 'n' then
        likeString do
          literal [110, 97, 110]
          return .float Binary64.nan ⟨start, ← here⟩
      else likeString miss
    | none => miss

/-- Reads an array, brackets included, whose items are at nesting `level`. -/
def array (level : Nat) : Nat → Step Node
  | 0 => tooDeep
  | fuel + 1 => do
    let start ← here
    byte (code '[')
    let items ← cut (arrayItems level fuel)
    expecting [.char ']'] (label "array" (cut (byte (code ']'))))
    return .array items ⟨start, ← here⟩

/-- Reads the items of an array, a trailing comma allowed, and the blanks, comments and
line ends around them. -/
def arrayItems (level : Nat) : Nat → Step (List Node)
  | 0 => tooDeep
  | fuel + 1 => do
    let items ← attempt do
      let vs ← separated1 (arrayItem level fuel) (byte (code ',')) (← room)
      let _ ← attempt (byte (code ','))
      return vs
    blanksCommentsNewlines (← room)
    return items.getD []

/-- Reads an item of an array with the blanks, comments and line ends around it. -/
def arrayItem (level : Nat) : Nat → Step Node
  | 0 => tooDeep
  | fuel + 1 => do
    blanksCommentsNewlines (← room)
    let v ← value level fuel
    blanksCommentsNewlines (← room)
    return v

/-- Reads an inline table, braces included, whose values are at nesting `level`. -/
def inlineTable (level : Nat) : Nat → Step Node
  | 0 => tooDeep
  | fuel + 1 => do
    let start ← here
    byte (code '{')
    let entries ← cut (check (inlineEntries level fuel) fun pairs =>
      match tableFromPairs pairs with
      | .ok es => .ok es
      | .error e => .error (some e.message))
    expecting [.char '}'] (label "inline table" (cut (byte (code '}'))))
    return .table .braces entries (some ⟨start, ← here⟩)

/-- Reads the key-value pairs of an inline table, separated by commas. -/
def inlineEntries (level : Nat) : Nat → Step (List (List Key × Key × Node))
  | 0 => tooDeep
  | fuel + 1 => do
    let pairs ← attempt (separated1 (inlineEntry level fuel) (byte (code ',')) (← room))
    blanks
    return pairs.getD []

/-- Reads one key-value pair of an inline table. -/
def inlineEntry (level : Nat) : Nat → Step (List Key × Key × Node)
  | 0 => tooDeep
  | fuel + 1 => do
    let keys ← key
    cut do
      expecting [.char '.', .char '='] (byte (code '='))
      blanks
      let v ← value level fuel
      blanks
      let (path, k) := splitKey keys
      return (path, k, v)

end

end Toml

end SwitchAdmin
