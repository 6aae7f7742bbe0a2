import SwitchAdmin.Text.Utf8

/-!
# Percent-encoding

A URL path writes some characters as `%XX`, one escape per UTF-8 byte with uppercase hex
digits: the C0 controls, the space, `"`, `#`, `<`, `>`, `?`, the grave accent, the curly
braces, DEL and every non-ASCII character. Everything else, `%` included, stands as it is.

Decoding replaces every `%` followed by two hex digits (of either case) by the byte they
name and keeps every other byte, a stray `%` included.
-/

namespace SwitchAdmin

/-- The uppercase hexadecimal digit of a value below 16. -/
def upperHexDigit (n : Nat) : Char :=
  if n < 10 then Char.ofNat ('0'.toNat + n) else Char.ofNat ('A'.toNat + n - 10)

/-- Whether an ASCII character is escaped in a URL path. -/
def escapedInPath (c : Char) : Bool :=
  c.toNat < 0x20 || c.toNat == 0x7F || c == ' ' || c == '"' || c == '#' || c == '<' ||
    c == '>' || c == '?' || c.toNat == 0x60 || c.toNat == 0x7B || c.toNat == 0x7D

/-- The escape `%XX` of one byte. -/
def escapeByte (b : Nat) : List Char := ['%', upperHexDigit (b / 16), upperHexDigit (b % 16)]

/-- A character as it appears in a URL path. -/
def encodePathChar (c : Char) : List Char :=
  if c.toNat < 0x80 && !escapedInPath c then [c] else (utf8Encode c).flatMap escapeByte

/-- The value of a hexadecimal digit given as a byte. -/
def hexByteValue (b : Nat) : Option Nat :=
  if 0x30 ≤ b ∧ b ≤ 0x39 then some (b - 0x30)
  else if 0x41 ≤ b ∧ b ≤ 0x46 then some (b - 0x41 + 10)
  else if 0x61 ≤ b ∧ b ≤ 0x66 then some (b - 0x61 + 10)
  else none

/-- Replaces each `%` and two hex digits by the byte they name. -/
def percentDecode : List Nat → List Nat
  | [] => []
  | [b] => [b]
  | [b, c] => [b, c]
  | b :: h :: l :: rest =>
    if b = 0x25 then
      match hexByteValue h, hexByteValue l with
      | some x, some y => (x * 16 + y) :: percentDecode rest
      | _, _ => b :: percentDecode (h :: l :: rest)
    else b :: percentDecode (h :: l :: rest)

end SwitchAdmin
