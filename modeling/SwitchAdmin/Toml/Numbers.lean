import SwitchAdmin.Toml.Scan
import SwitchAdmin.Decimal.Nearest

/-!
# TOML numbers, booleans and dates

Integers are 64-bit and signed: decimal with an optional sign, or hexadecimal, octal or
binary after `0x`, `0o`, `0b`. Underscores may stand between digits. A decimal integer out
of range is refused at its first character with the reason `number too large to fit in
target type` (or `too small`).

Floats are decimal with a fraction, an exponent or both, or `inf` and `nan` with an
optional sign; the value is the binary64 number nearest to the decimal. A decimal that
rounds to positive infinity is refused; one that rounds to negative infinity is kept.

Dates and times: a full date `YYYY-MM-DD`, optionally followed by `T`, `t` or a space
and a time, optionally followed by an offset; or a time alone. Fields are range-checked,
the day against the month and leap years.
-/

namespace SwitchAdmin

namespace Toml

open Step

/-- The value of decimal digit bytes. -/
def decimalValue (digits : List Nat) : Nat := digits.foldl (fun acc d => acc * 10 + (d - 0x30)) 0

/-- The value of digit bytes in base `radix` (up to sixteen). -/
def radixValue (radix : Nat) (digits : List Nat) : Nat :=
  digits.foldl (fun acc d => acc * radix + hexDigitValue d) 0

/-- The smallest and largest 64-bit signed integers. -/
def i64Min : Int := -(Nat.pow 2 63 : Int)

/-- The largest 64-bit signed integer. -/
def i64Max : Int := (Nat.pow 2 63 : Int) - 1

/-- Why an integer does not fit. -/
def tooLarge : String := "number too large to fit in target type"

/-- Why a negative integer does not fit. -/
def tooSmall : String := "number too small to fit in target type"

/-- Reads one digit in `ok`, then more digits, each underscore followed by a digit. -/
def digitsWithUnderscores (ok : Nat → Bool) : Step Unit := do
  let _ ← byteWhere ok
  let _ ← many (orElse (do let _ ← byteWhere ok)
    (do byte (code '_'); cut (expecting [.description "digit"] (do let _ ← byteWhere ok))))
    (← room)

/-- Reads an optional sign. -/
def sign : Step (Option Nat) := attempt (byteWhere fun b => b == code '+' || b == code '-')

/-- Reads a decimal integer as written: a sign, then `0` or a digit other than `0`
followed by more digits. -/
def decimalIntegerText : Step (List Nat) :=
  label "integer" do
    let (_, text, _) ← recognize do
      let _ ← sign
      orElse (do
          let _ ← byteWhere fun b => 0x31 ≤ b && b ≤ 0x39
          let _ ← many (orElse (do let _ ← byteWhere isDigit)
            (do byte (code '_'); cut (expecting [.description "digit"] (do let _ ← byteWhere isDigit))))
            (← room))
        (do let _ ← byteWhere isDigit)
    return text

/-- The integer written by sign and digit bytes (underscores dropped), when it fits in 64
bits. -/
def decimalInteger (text : List Nat) : Except (Option String) Int :=
  let digits := text.filter isDigit
  let magnitude : Int := decimalValue digits
  if text.head? == some (code '-') then
    if -magnitude < i64Min then .error (some tooSmall) else .ok (-magnitude)
  else if magnitude > i64Max then .error (some tooLarge) else .ok magnitude

/-- Reads the digits of a hexadecimal, octal or binary integer after its prefix. -/
def radixDigits (name : String) (prefixBytes : List Nat) (ok : Nat → Bool) : Step (List Nat) :=
  label name do
    literal prefixBytes
    let (_, digits, _) ← cut (recognize (digitsWithUnderscores ok))
    return digits

/-- The integer written by digits in base `radix`, when it fits in 64 bits. -/
def radixInteger (radix : Nat) (digits : List Nat) : Except (Option String) Int :=
  let v := radixValue radix (digits.filter (· != code '_'))
  if (v : Int) > i64Max then .error (some tooLarge) else .ok v

/-- Reads an integer. Once a decimal integer is read, a value out of range is refused
hard at its first character. -/
def integer : Step Int := fun c =>
  match c.rest.take 2 with
  | [48, 120] =>
    cut (check (radixDigits "hexadecimal integer" [48, 120] isHexDigit) (radixInteger 16)) c
  | [48, 111] =>
    cut (check (radixDigits "octal integer" [48, 111] fun b => 0x30 ≤ b && b ≤ 0x37)
      (radixInteger 8)) c
  | [48, 98] =>
    cut (check (radixDigits "binary integer" [48, 98] fun b => b == 0x30 || b == 0x31)
      (radixInteger 2)) c
  | _ =>
    match decimalIntegerText c with
    | .error f => .error f
    | .ok (text, c') =>
      match decimalInteger text with
      | .ok v => .ok (v, c')
      | .error cause => .error { pos := c.pos, cause := cause, cut := true }

/-! ### Floats -/

/-- Reads an exponent: `e` or `E`, a sign, digits. -/
def exponentPart : Step Unit := do
  let _ ← byteWhere fun b => b == code 'e' || b == code 'E'
  let _ ← sign
  cut (digitsWithUnderscores isDigit)

/-- Reads a fraction: a point and digits. -/
def fractionPart : Step Unit := do
  byte (code '.')
  cut (expecting [.description "digit"] (digitsWithUnderscores isDigit))

/-- Reads a decimal float as written. -/
def decimalFloatText : Step (List Nat) := do
  let (_, text, _) ← recognize do
    let _ ← decimalIntegerText
    orElse exponentPart (do fractionPart; let _ ← attempt exponentPart)
  return text

/-- The nearest binary64 number to a decimal float as written (underscores dropped). -/
def decimalFloat (text : List Nat) : Binary64 :=
  let body := text.filter (· != code '_')
  let negative := body.head? == some (code '-')
  let unsigned := body.dropWhile fun b => b == code '+' || b == code '-'
  let mantissa := unsigned.takeWhile fun b => b != code 'e' && b != code 'E'
  let expText := (unsigned.dropWhile fun b => b != code 'e' && b != code 'E').drop 1
  let whole := mantissa.takeWhile isDigit
  let fraction := (mantissa.dropWhile isDigit).drop 1
  let expMagnitude : Int := decimalValue (expText.filter isDigit)
  let exponent : Int := if expText.head? == some (code '-') then -expMagnitude else expMagnitude
  let x := Decimal.nearest (decimalValue (whole ++ fraction)) (exponent - fraction.length)
  if negative then x.neg else x

/-- Reads `inf` or `nan` with an optional sign. -/
def specialFloat : Step Binary64 := do
  let s ← sign
  let x ← orElse (do literal [105, 110, 102]; return Binary64.infinity)
    (do literal [110, 97, 110]; return Binary64.nan)
  return if s == some (code '-') then x.neg else x

/-- Reads a float. -/
def float : Step Binary64 :=
  label "floating-point number" (orElse decimal specialFloat)
where
  /-- The decimal branch: once the text is read, a value rounding to positive infinity is
  refused at its first character. -/
  decimal : Step Binary64 := fun c =>
    match decimalFloatText c with
    | .error f => .error f
    | .ok (text, c') =>
      let x := decimalFloat text
      if x == Binary64.infinity then .error { pos := c.pos, cut := true } else .ok (x, c')

/-! ### Booleans -/

/-- Reads `true`, refusing hard anything else that starts with `t`. -/
def trueValue : Step Bool := do
  let _ ← ahead (byte (code 't'))
  cut (literal [116, 114, 117, 101])
  return true

/-- Reads `false`, refusing hard anything else that starts with `f`. -/
def falseValue : Step Bool := do
  let _ ← ahead (byte (code 'f'))
  cut (literal [102, 97, 108, 115, 101])
  return false

/-! ### Dates and times -/

/-- Reads exactly `n` decimal digits as a number within `lo` and `hi`. -/
def digitsInRange (n lo hi : Nat) : Step Nat :=
  check (takeBetween n n isDigit) fun ds =>
    let v := decimalValue ds
    if lo ≤ v && v ≤ hi then .ok v else .error (some Conflict.outOfRange.message)

/-- The number of days in a month of a year. -/
def daysInMonth (year month : Nat) : Nat :=
  let leap := year % 4 == 0 && (year % 100 != 0 || year % 400 == 0)
  if month == 2 then (if leap then 29 else 28)
  else if month == 4 || month == 6 || month == 9 || month == 11 then 30
  else 31

/-- Reads a full date `YYYY-MM-DD`. -/
def fullDate : Step Unit := do
  let yearDigits ← takeBetween 4 4 isDigit
  byte (code '-')
  let month ← cut (digitsInRange 2 1 12)
  cut (byte (code '-'))
  let dayStart ← get
  let day ← cut (digitsInRange 2 1 31)
  if daysInMonth (decimalValue yearDigits) month < day then
    throw { pos := dayStart.pos, cause := some Conflict.outOfRange.message, cut := true }

/-- Reads a time `HH:MM:SS` with an optional fraction of a second. -/
def partialTime : Step Unit := do
  let _ ← digitsInRange 2 0 23
  byte (code ':')
  cut do
    let _ ← digitsInRange 2 0 59
    byte (code ':')
    let _ ← digitsInRange 2 0 60
    let _ ← attempt (do byte (code '.'); let _ ← takeBetween 1 (← room) isDigit)

/-- Reads a time offset: `Z`, or a sign and `HH:MM`. -/
def timeOffset : Step Unit :=
  label "time offset" <| orElse (do let _ ← byteWhere fun b => b == code 'Z' || b == code 'z')
    (do
      let _ ← byteWhere fun b => b == code '+' || b == code '-'
      cut do
        let _ ← digitsInRange 2 0 23
        byte (code ':')
        let _ ← digitsInRange 2 0 59)

/-- Reads a date, a date and time, or a time, as written. -/
def dateTime : Step String := do
  let (_, text, _) ← recognize <| orElse
    (label "date-time" do
      fullDate
      let _ ← attempt do
        let _ ← byteWhere fun b => b == code 'T' || b == code 't' || b == code ' '
        partialTime
        let _ ← attempt timeOffset)
    (label "time" partialTime)
  return String.ofList (text.map Char.ofNat)

end Toml

end SwitchAdmin
