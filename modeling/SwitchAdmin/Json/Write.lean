import SwitchAdmin.Json.Basic
import SwitchAdmin.Decimal.Text

/-!
# Writing JSON text

`Json.compact` writes a value with no blanks, and `Json.pretty` with members and elements
on lines of their own, indented by two spaces. Strings escape the quote, the backslash and
every control character below U+0020; other characters are written as they are. Numbers
are integers in decimal or binary64 numbers in `FloatStyle.json`.
-/

namespace SwitchAdmin

namespace Json

/-- The lowercase hexadecimal digit of a value below 16. -/
def hexDigit (n : Nat) : Char :=
  if n < 10 then Char.ofNat ('0'.toNat + n) else Char.ofNat ('a'.toNat + n - 10)

/-- The escaped form of one character inside a string literal. -/
def escapeChar (c : Char) : List Char :=
  if c = '"' then ['\\', '"']
  else if c = '\\' then ['\\', '\\']
  else if c = '\n' then ['\\', 'n']
  else if c = '\r' then ['\\', 'r']
  else if c = '\t' then ['\\', 't']
  else if c = '\x08' then ['\\', 'b']
  else if c = '\x0c' then ['\\', 'f']
  else if c.toNat < 0x20 then ['\\', 'u', '0', '0', hexDigit (c.toNat / 16), hexDigit (c.toNat % 16)]
  else [c]

/-- A string literal: the text in quotes, escaped. -/
def quote (s : String) : String :=
  String.ofList ('"' :: (s.toList.flatMap escapeChar ++ ['"']))

/-- The text of a number or other scalar. -/
def scalarText : Json → String
  | .null => "null"
  | .bool true => "true"
  | .bool false => "false"
  | .int n => if n < 0 then "-" ++ Nat.repr n.natAbs else Nat.repr n.toNat
  | .float x => FloatStyle.json.write x
  | .str s => quote s
  | .arr _ => "[]"
  | .obj _ => "{}"

mutual

/-- The value written with no blanks. -/
def compact : Json → String
  | .arr items => "[" ++ compactItems items ++ "]"
  | .obj members => "\x7b" ++ compactMembers members ++ "\x7d"
  | j => scalarText j

/-- Array elements, separated by commas. -/
def compactItems : List Json → String
  | [] => ""
  | [x] => compact x
  | x :: xs => compact x ++ "," ++ compactItems xs

/-- Object members, separated by commas. -/
def compactMembers : List (String × Json) → String
  | [] => ""
  | [(k, v)] => quote k ++ ":" ++ compact v
  | (k, v) :: rest => quote k ++ ":" ++ compact v ++ "," ++ compactMembers rest

end

/-- A line break followed by `n` levels of two-space indentation. -/
def newline (n : Nat) : String := "\n" ++ String.ofList (List.replicate (2 * n) ' ')

mutual

/-- The value written over several lines, nested `depth` levels deep. -/
def prettyAt (depth : Nat) : Json → String
  | .arr [] => "[]"
  | .obj [] => "\x7b\x7d"
  | .arr items => "[" ++ prettyItems (depth + 1) items ++ newline depth ++ "]"
  | .obj members => "\x7b" ++ prettyMembers (depth + 1) members ++ newline depth ++ "\x7d"
  | j => scalarText j

/-- Array elements, each on its own line. -/
def prettyItems (depth : Nat) : List Json → String
  | [] => ""
  | [x] => newline depth ++ prettyAt depth x
  | x :: xs => newline depth ++ prettyAt depth x ++ "," ++ prettyItems depth xs

/-- Object members, each on its own line. -/
def prettyMembers (depth : Nat) : List (String × Json) → String
  | [] => ""
  | [(k, v)] => newline depth ++ quote k ++ ": " ++ prettyAt depth v
  | (k, v) :: rest => newline depth ++ quote k ++ ": " ++ prettyAt depth v ++ "," ++ prettyMembers depth rest

end

/-- The value written over several lines with two-space indentation. -/
def pretty (j : Json) : String := prettyAt 0 j

end Json

end SwitchAdmin
