import SwitchAdmin.Text.GraphemeExtend

/-!
# Quoted strings in diagnostics

`quoted s` writes a string in double quotes the way diagnostics show it: the quote and the
backslash are escaped, tab, line feed, carriage return and NUL get their short escapes,
and every character that does not print (`isPrintable`) or that extends the grapheme
before it (`isGraphemeExtend`) is written as `\u{hex}`. Every other character,
non-ASCII letters included, stands as it is.
-/

namespace SwitchAdmin

/-- The lowercase hexadecimal digits of `n`, without leading zeros. -/
def hexText (n : Nat) : String :=
  String.ofList (Nat.toDigits 16 n)

/-- How one character is written inside a quoted string. -/
def quoteChar (c : Char) : String :=
  if c = '"' then "\\\""
  else if c = '\\' then "\\\\"
  else if c = '\n' then "\\n"
  else if c = '\r' then "\\r"
  else if c = '\t' then "\\t"
  else if c = '\x00' then "\\0"
  else if isGraphemeExtend c || !isPrintable c then
    "\\u\x7b" ++ hexText c.toNat ++ "\x7d"
  else c.toString

/-- The string in double quotes, escaped for a diagnostic. -/
def quoted (s : String) : String :=
  "\"" ++ String.join (s.toList.map quoteChar) ++ "\""

end SwitchAdmin
