import SwitchAdmin.Json.Basic

/-!
# Reading JSON text

`Json.parse` reads one JSON document. Numbers follow these rules:

* an integer literal stays an integer when it fits: up to `2^64 - 1` when nonnegative,
  down to `-2^63` when negative; `-0` and every other integer literal become binary64;
* a literal with a fraction or an exponent is binary64, computed from its first 19 or 20
  significant digits (those that fit in 64 bits) as one multiplication or division of that
  integer by a power of ten, which is exact rounding for the short literals of everyday
  use; a literal whose magnitude overflows is refused.

An object keeps, for each key, the value of its last member with that key.
-/

namespace SwitchAdmin

/-- Why a text is not one JSON document. -/
inductive ReadError where
  /-- A character that cannot stand where it stands, or an early end of input. -/
  | unexpected
  /-- A number too large in magnitude for binary64. -/
  | numberOutOfRange
  /-- A raw control character inside a string. -/
  | controlCharacter
  /-- An escape that is not one of JSON's, or a lone surrogate. -/
  | badEscape
  /-- Text after the document. -/
  | trailingCharacters
  /-- Nesting deeper than the reader follows. -/
  | tooDeep
deriving DecidableEq, Repr

/-- A short description of a reading error. -/
def ReadError.message : ReadError → String
  | .unexpected => "unexpected character or end of input"
  | .numberOutOfRange => "number out of range"
  | .controlCharacter => "control character found while parsing a string"
  | .badEscape => "invalid escape"
  | .trailingCharacters => "trailing characters"
  | .tooDeep => "recursion limit exceeded"

namespace Json

/-- The largest 64-bit unsigned integer. -/
def u64Max : Nat := Nat.pow 2 64 - 1

/-- The largest 32-bit signed integer, the bound on written exponents. -/
def i32Max : Int := (Nat.pow 2 31 : Int) - 1

/-- Drops JSON whitespace. -/
def skipBlank : List Char → List Char
  | c :: rest => if c = ' ' ∨ c = '\t' ∨ c = '\n' ∨ c = '\r' then skipBlank rest else c :: rest
  | [] => []

/-- The value of a decimal digit character. -/
def digitValue (c : Char) : Nat := c.toNat - '0'.toNat

/-- Whether one more digit `d` after `s` leaves the 64-bit range. -/
def overflows (s d : Nat) : Bool :=
  s ≥ u64Max / 10 && (s > u64Max / 10 || d > u64Max % 10)

/-- The binary64 number nearest to `10^k`. -/
def pow10 (k : Nat) : Float := Float.ofScientific 1 false k

/-- Scales `f` by `10^exponent`, dividing by `10^308` while the power is beyond the
table; `none` when the result overflows. -/
def scaleLoop : Nat → Float → Int → Option Float
  | 0, f, _ => some f
  | fuel + 1, f, exponent =>
    if exponent.natAbs ≤ 308 then
      if 0 ≤ exponent then
        let g := f * pow10 exponent.toNat
        if g.isInf then none else some g
      else some (f / pow10 exponent.natAbs)
    else if f == 0 then some f
    else if 0 ≤ exponent then none
    else scaleLoop fuel (f / pow10 308) (exponent + 308)

/-- The binary64 value of `± significand · 10^exponent`, or `none` when it overflows. -/
def fromParts (positive : Bool) (significand : Nat) (exponent : Int) : Option Json :=
  match scaleLoop (exponent.natAbs / 308 + 2) (Float.ofNat significand) exponent with
  | some f => some (.float (Binary64.ofFloat (if positive then f else -f)))
  | none => none

/-- A number from its parts, or the out-of-range error. -/
def numberOf (positive : Bool) (significand : Nat) (exponent : Int) :
    Except ReadError Json :=
  match fromParts positive significand exponent with
  | some j => .ok j
  | none => .error .numberOutOfRange

/-- Skips the digits that follow an exponent too large to hold. -/
def dropDigits : List Char → List Char
  | c :: rest => if c.isDigit then dropDigits rest else c :: rest
  | [] => []

/-- Reads the digits of an exponent, after its first digit. -/
def exponentDigits (positive : Bool) (significand : Nat) (start : Int) (positiveExp : Bool) :
    Int → List Char → Except ReadError (Json × List Char)
  | exp, c :: rest =>
    if c.isDigit then
      let d : Int := digitValue c
      if exp > (i32Max - d) / 10 then
        -- the exponent does not fit: zero, unless a nonzero number grows without bound
        if significand != 0 && positiveExp then .error .numberOutOfRange
        else .ok (.float (Binary64.ofFloat (if positive then 0.0 else -0.0)), dropDigits rest)
      else exponentDigits positive significand start positiveExp (exp * 10 + d) rest
    else finish exp (c :: rest)
  | exp, [] => finish exp []
where
  /-- The number once the exponent is read. -/
  finish (exp : Int) (rest : List Char) : Except ReadError (Json × List Char) :=
    let final := if positiveExp then start + exp else start - exp
    (numberOf positive significand final).map (·, rest)

/-- Reads an exponent part after `e` or `E`. -/
def readExponent (positive : Bool) (significand : Nat) (start : Int) (cs : List Char) :
    Except ReadError (Json × List Char) :=
  let (positiveExp, cs) := match cs with
    | '+' :: rest => (true, rest)
    | '-' :: rest => (false, rest)
    | _ => (true, cs)
  match cs with
  | c :: rest =>
    if c.isDigit then exponentDigits positive significand start positiveExp (digitValue c) rest
    else .error .unexpected
  | [] => .error .unexpected

/-- The end of a binary64 literal: an optional exponent. -/
def readFloatEnd (positive : Bool) (significand : Nat) (exponent : Int) :
    List Char → Except ReadError (Json × List Char)
  | c :: rest =>
    if c = 'e' ∨ c = 'E' then readExponent positive significand exponent rest
    else (numberOf positive significand exponent).map (·, c :: rest)
  | [] => (numberOf positive significand exponent).map (·, [])

/-- Reads fraction digits; once the significand is full, later digits are ignored. -/
def fractionDigits (positive : Bool) (before : Int) :
    Nat → Int → Bool → List Char → Except ReadError (Json × List Char)
  | s, after, any, c :: rest =>
    if c.isDigit then
      let d := digitValue c
      if overflows s d then readFloatEnd positive s (before + after) (dropDigits rest)
      else fractionDigits positive before (s * 10 + d) (after - 1) true rest
    else if any then readFloatEnd positive s (before + after) (c :: rest)
    else .error .unexpected
  | s, after, any, [] =>
    if any then readFloatEnd positive s (before + after) [] else .error .unexpected

/-- Reads what follows a complete integer part. -/
def afterInteger (positive : Bool) (s : Nat) (exponent : Int) (cs : List Char) :
    Except ReadError (Json × List Char) :=
  match cs with
  | '.' :: rest => fractionDigits positive exponent s 0 false rest
  | c :: rest =>
    if c = 'e' ∨ c = 'E' then readExponent positive s exponent rest
    else integerEnd (c :: rest)
  | [] => integerEnd []
where
  /-- A literal without fraction or exponent: an integer when it fits. -/
  integerEnd (rest : List Char) : Except ReadError (Json × List Char) :=
    if exponent != 0 then (numberOf positive s exponent).map (·, rest)
    else if positive then .ok (.int s, rest)
    else if 1 ≤ s ∧ s ≤ Nat.pow 2 63 then .ok (.int (-(s : Int)), rest)
    else .ok (.float (Binary64.ofFloat (-(Float.ofNat s))), rest)

/-- Reads integer digits after the first; past 64 bits, each digit raises the exponent. -/
def integerDigits (positive : Bool) : Nat → Int → Bool → List Char →
    Except ReadError (Json × List Char)
  | s, exponent, long, c :: rest =>
    if c.isDigit then
      let d := digitValue c
      if long then integerDigits positive s (exponent + 1) true rest
      else if overflows s d then integerDigits positive s 1 true rest
      else integerDigits positive (s * 10 + d) 0 false rest
    else afterInteger positive s exponent (c :: rest)
  | s, exponent, _, [] => afterInteger positive s exponent []

/-- Reads a number: an optional minus sign, then digits. -/
def readNumber (cs : List Char) : Except ReadError (Json × List Char) :=
  let (positive, cs) := match cs with
    | '-' :: rest => (false, rest)
    | _ => (true, cs)
  match cs with
  | '0' :: c :: rest =>
    if c.isDigit then .error .unexpected else afterInteger positive 0 0 (c :: rest)
  | ['0'] => afterInteger positive 0 0 []
  | c :: rest =>
    if c.isDigit then integerDigits positive (digitValue c) 0 false rest
    else .error .unexpected
  | [] => .error .unexpected

/-- The value of a hexadecimal digit. -/
def hexValue (c : Char) : Option Nat :=
  if c.isDigit then some (digitValue c)
  else if 'a' ≤ c ∧ c ≤ 'f' then some (c.toNat - 'a'.toNat + 10)
  else if 'A' ≤ c ∧ c ≤ 'F' then some (c.toNat - 'A'.toNat + 10)
  else none

/-- Reads four hexadecimal digits. -/
def readHex4 : List Char → Option (Nat × List Char)
  | a :: b :: c :: d :: rest =>
    match hexValue a, hexValue b, hexValue c, hexValue d with
    | some a, some b, some c, some d => some (((a * 16 + b) * 16 + c) * 16 + d, rest)
    | _, _, _, _ => none
  | _ => none

/-- Reads the code point of a `\u` escape, joining a surrogate pair. -/
def readUnicodeEscape (cs : List Char) : Except ReadError (Char × List Char) :=
  match readHex4 cs with
  | none => .error .badEscape
  | some (hi, rest) =>
    if 0xDC00 ≤ hi ∧ hi ≤ 0xDFFF then .error .badEscape
    else if 0xD800 ≤ hi ∧ hi ≤ 0xDBFF then
      match rest with
      | '\\' :: 'u' :: rest' =>
        match readHex4 rest' with
        | some (lo, rest'') =>
          if 0xDC00 ≤ lo ∧ lo ≤ 0xDFFF then
            .ok (Char.ofNat (0x10000 + (hi - 0xD800) * 0x400 + (lo - 0xDC00)), rest'')
          else .error .badEscape
        | none => .error .badEscape
      | _ => .error .badEscape
    else .ok (Char.ofNat hi, rest)

/-- Reads the characters of a string up to its closing quote; each step consumes at
least one character, so `fuel` at the input's length suffices. -/
def readChars : Nat → List Char → List Char → Except ReadError (String × List Char)
  | 0, _, _ => .error .unexpected
  | _ + 1, acc, '"' :: rest => .ok (String.ofList acc.reverse, rest)
  | fuel + 1, acc, '\\' :: c :: rest =>
    match c with
    | '"' => readChars fuel ('"' :: acc) rest
    | '\\' => readChars fuel ('\\' :: acc) rest
    | '/' => readChars fuel ('/' :: acc) rest
    | 'b' => readChars fuel ('\x08' :: acc) rest
    | 'f' => readChars fuel ('\x0c' :: acc) rest
    | 'n' => readChars fuel ('\n' :: acc) rest
    | 'r' => readChars fuel ('\r' :: acc) rest
    | 't' => readChars fuel ('\t' :: acc) rest
    | 'u' =>
      match readUnicodeEscape rest with
      | .ok (ch, rest') => readChars fuel (ch :: acc) rest'
      | .error e => .error e
    | _ => .error .badEscape
  | fuel + 1, acc, c :: rest =>
    if c.toNat < 0x20 then .error .controlCharacter else readChars fuel (c :: acc) rest
  | _ + 1, _, [] => .error .unexpected

/-- Reads a string after its opening quote. -/
def readString (cs : List Char) : Except ReadError (String × List Char) :=
  readChars (cs.length + 1) [] cs

mutual

/-- Reads one value; `fuel` bounds the depth of nesting. -/
def readValue : Nat → List Char → Except ReadError (Json × List Char)
  | 0, _ => .error .tooDeep
  | fuel + 1, cs =>
    match cs with
    | 'n' :: 'u' :: 'l' :: 'l' :: rest => .ok (.null, rest)
    | 't' :: 'r' :: 'u' :: 'e' :: rest => .ok (.bool true, rest)
    | 'f' :: 'a' :: 'l' :: 's' :: 'e' :: rest => .ok (.bool false, rest)
    | '"' :: rest => (readString rest).map fun (s, r) => (.str s, r)
    | '[' :: rest =>
      match skipBlank rest with
      | ']' :: rest' => .ok (.arr [], rest')
      | rest' => readItems fuel [] rest'
    | '{' :: rest =>
      match skipBlank rest with
      | '}' :: rest' => .ok (.obj [], rest')
      | rest' => readMembers fuel StrMap.empty rest'
    | _ => readNumber cs

/-- Reads array elements, each followed by a comma or the closing bracket. -/
def readItems : Nat → List Json → List Char → Except ReadError (Json × List Char)
  | 0, _, _ => .error .tooDeep
  | fuel + 1, acc, cs =>
    match readValue fuel cs with
    | .error e => .error e
    | .ok (v, rest) =>
      match skipBlank rest with
      | ',' :: rest' => readItems fuel (v :: acc) (skipBlank rest')
      | ']' :: rest' => .ok (.arr (v :: acc).reverse, rest')
      | _ => .error .unexpected

/-- Reads object members, each followed by a comma or the closing brace. -/
def readMembers : Nat → StrMap Json → List Char → Except ReadError (Json × List Char)
  | 0, _, _ => .error .tooDeep
  | fuel + 1, acc, cs =>
    match cs with
    | '"' :: rest =>
      match readString rest with
      | .error e => .error e
      | .ok (key, rest) =>
        match skipBlank rest with
        | ':' :: rest' =>
          match readValue fuel (skipBlank rest') with
          | .error e => .error e
          | .ok (v, rest'') =>
            match skipBlank rest'' with
            | ',' :: more => readMembers fuel (acc.insert key v) (skipBlank more)
            | '}' :: more => .ok (ofMap (acc.insert key v), more)
            | _ => .error .unexpected
        | _ => .error .unexpected
    | _ => .error .unexpected

end

/-- Reads a whole text as one JSON document, with blanks allowed around it. -/
def parse (text : String) : Except ReadError Json :=
  let cs := text.toList
  match readValue (cs.length + 2) (skipBlank cs) with
  | .error e => .error e
  | .ok (v, rest) => if (skipBlank rest).isEmpty then .ok v else .error .trailingCharacters

end Json

end SwitchAdmin
