import SwitchAdmin.Toml.Scan

/-!
# TOML strings

The four string forms: basic (`"…"`, with escapes), multi-line basic (`"""…"""`), literal
(`'…'`, no escapes) and multi-line literal (`'''…'''`). Their contents are read as bytes
and made into a string once complete; a document is valid UTF-8 and every cut falls
between characters, so that never fails.

A bad escape is a hard failure pointing just past the escape's letter. A string that is
not closed is a hard failure at the first byte that cannot belong to it, labelled with the
string's form.
-/

namespace SwitchAdmin

namespace Toml

open Step

/-- The string with these UTF-8 bytes (empty if they are not UTF-8, which the reader
never produces). -/
def stringOfBytes (bytes : List Nat) : String :=
  match utf8Decode bytes with
  | .ok s => s
  | .error _ => ""

/-- The number written by hexadecimal digit bytes. -/
def hexValue (digits : List Nat) : Nat := digits.foldl (fun acc d => acc * 16 + hexDigitValue d) 0

/-- Whether `n` is the code of a character: below `0x110000` and not a surrogate. -/
def isScalar (n : Nat) : Bool := n < 0xD800 || (0xE000 ≤ n && n < 0x110000)

/-- Reads exactly `n` hexadecimal digits naming a character, as its UTF-8 bytes. -/
def hexEscape (n : Nat) : Step (List Nat) :=
  check (takeBetween 0 n isHexDigit) fun digits =>
    if digits.length != n then .error none
    else
      let v := hexValue digits
      if isScalar v then .ok (utf8Encode (Char.ofNat v))
      else .error (some Conflict.outOfRange.message)

/-- What the escape letters may be. -/
def escapeLetters : List Expected :=
  ['b', 'f', 'n', 'r', 't', 'u', 'U', '\\', '"'].map Expected.char

/-- Reads the part of an escape after the backslash, as the UTF-8 bytes it stands for. -/
def escapeBody : Step (List Nat) := do
  let b ← anyByte
  if b == code 'b' then return [8]
  else if b == code 'f' then return [12]
  else if b == code 'n' then return [10]
  else if b == code 'r' then return [13]
  else if b == code 't' then return [9]
  else if b == code 'u' then cut (label "unicode 4-digit hex code" (hexEscape 4))
  else if b == code 'U' then cut (label "unicode 8-digit hex code" (hexEscape 8))
  else if b == code '\\' then return [92]
  else if b == code '"' then return [34]
  else expecting escapeLetters (label "escape sequence" (cut miss))

/-- Reads an escape, backslash first. -/
def escaped : Step (List Nat) := do
  byte (code '\\')
  escapeBody

/-- Reads a run of plain characters or one escape of a basic string. -/
def basicChunk : Step (List Nat) := orElse (takeWhile1 isBasicUnescaped) escaped

/-- Reads a basic string, quotes included, as its content. -/
def basicString : Step String := do
  byte (code '"')
  let chunks ← many basicChunk (← room)
  cut (label "basic string" (byte (code '"')))
  return stringOfBytes chunks.flatten

/-! ### Multi-line basic strings -/

/-- The three quotes around a multi-line basic string. -/
def threeQuotes : List Nat := [34, 34, 34]

/-- Reads a backslash at the end of a line and the blanks and line ends after it. -/
def lineEndBackslash (fuel : Nat) : Step Unit := do
  let _ ← many1 (do
    byte (code '\\')
    blanks
    newline
    blanksNewlines fuel) fuel

/-- Reads a piece of a multi-line basic string: a run of plain characters, a line-ending
backslash (which stands for nothing), an escape, or a line end (which stands for a line
feed). -/
def multiBasicChunk (fuel : Nat) : Step (List Nat) :=
  firstOf [
    takeWhile1 isBasicUnescaped,
    do lineEndBackslash fuel; return [],
    escaped,
    do newline; return [10]]

/-- Reads one or two quotes followed by what `follow` accepts, which is not read. -/
def someQuotes (follow : Step Unit) : Step (List Nat) :=
  orElse (do literal [34, 34]; ahead follow; return [34, 34])
    (do byte 34; ahead follow; return [34])

/-- A byte other than a quote. -/
def notQuote (q : Nat) : Step Unit := do let _ ← byteWhere (· != q)

/-- Reads the body of a multi-line basic string after its pieces without quotes: quotes
followed by more pieces, as long as there are some. -/
def multiBasicQuoted (fuel : Nat) : Nat → List Nat → Step (List Nat)
  | 0, acc => return acc
  | n + 1, acc => do
    match ← attempt (someQuotes (notQuote 34)) with
    | none => return acc
    | some quotes =>
      match ← attempt (multiBasicChunk fuel) with
      | none => return acc
      | some first =>
        let more ← many (multiBasicChunk fuel) fuel
        multiBasicQuoted fuel n (acc ++ quotes ++ first ++ more.flatten)

/-- Reads the body of a multi-line basic string. -/
def multiBasicBody : Step (List Nat) := do
  let fuel ← room
  let first ← many (multiBasicChunk fuel) fuel
  let body ← multiBasicQuoted fuel fuel first.flatten
  match ← attempt (someQuotes (literal threeQuotes)) with
  | some quotes => return body ++ quotes
  | none => return body

/-- Reads a multi-line basic string; a line end right after the opening quotes is not
part of it. -/
def multiBasicString : Step String :=
  label "multiline basic string" do
    literal threeQuotes
    let _ ← attempt newline
    let body ← cut multiBasicBody
    cut (literal threeQuotes)
    return stringOfBytes body

/-! ### Literal strings -/

/-- Reads a literal string, apostrophes included, as its content. -/
def literalString : Step String :=
  label "literal string" do
    byte (code '\'')
    let body ← cut (takeWhile isLiteralByte)
    cut (byte (code '\''))
    return stringOfBytes body

/-- The three apostrophes around a multi-line literal string. -/
def threeApostrophes : List Nat := [39, 39, 39]

/-- Reads one character or line end of a multi-line literal string. -/
def multiLiteralByte : Step Unit :=
  orElse (do let _ ← byteWhere isLiteralByte) newline

/-- Reads the body of a multi-line literal string. -/
def multiLiteralBody : Step Unit := do
  let fuel ← room
  let _ ← many multiLiteralByte fuel
  let _ ← many (do
    let _ ← orElse (do literal [39, 39]; ahead (notQuote 39)) (do byte 39; ahead (notQuote 39))
    let _ ← many1 multiLiteralByte fuel) fuel
  let _ ← attempt (orElse (do literal [39, 39]; ahead (literal threeApostrophes))
    (do byte 39; ahead (literal threeApostrophes)))

/-- Replaces every carriage return and line feed pair by a line feed. -/
def unixLines : List Nat → List Nat
  | 13 :: 10 :: rest => 10 :: unixLines rest
  | b :: rest => b :: unixLines rest
  | [] => []

/-- Reads a multi-line literal string; a line end right after the opening apostrophes is
not part of it. -/
def multiLiteralString : Step String :=
  label "multiline literal string" do
    literal threeApostrophes
    let _ ← attempt newline
    let (_, body, _) ← cut (recognize multiLiteralBody)
    cut (literal threeApostrophes)
    return stringOfBytes (unixLines body)

/-- Reads a string of any of the four forms. -/
def anyString : Step String :=
  firstOf [multiBasicString, basicString, multiLiteralString, literalString]

end Toml

end SwitchAdmin
