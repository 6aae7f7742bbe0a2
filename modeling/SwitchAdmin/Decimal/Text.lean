import SwitchAdmin.Decimal.Shortest

/-!
# Writing binary64 numbers as text

A number is written from its shortest digits (`Binary64.shortest`). A `FloatStyle` says
which magnitudes are written positionally and which with an exponent; a positional number
always shows a decimal point, with `.0` after a whole number.

Two styles are used: `FloatStyle.json`, for numbers in JSON documents (positional for
magnitudes from `1e-5` up to below `1e16`, otherwise `d.ddde±x`), and
`FloatStyle.positional`, which never uses an exponent (the spelling of a number inside a
configuration error message).
-/

namespace SwitchAdmin

/-- Where a style switches from positional notation to an exponent. With `kk` the power of
ten just above the leading digit (`10^(kk-1) ≤ |x| < 10^kk`), the number is written
positionally when `low < kk ≤ high`. -/
structure FloatStyle where
  /-- Positional notation needs `low < kk`. -/
  low : Int
  /-- Positional notation needs `kk ≤ high`. -/
  high : Int

namespace FloatStyle

/-- Numbers in JSON documents: positional between `1e-5` and `1e16`. -/
def json : FloatStyle := ⟨-5, 16⟩

/-- Always positional: every binary64 magnitude lies strictly inside these bounds. -/
def positional : FloatStyle := ⟨-400, 400⟩

end FloatStyle

/-- `n` zero characters. -/
def zeros (n : Nat) : List Char := List.replicate n '0'

/-- The integer `e` in decimal, with a minus sign when negative. -/
def signedDigits (e : Int) : List Char :=
  if e < 0 then '-' :: (Nat.repr e.natAbs).toList else (Nat.repr e.toNat).toList

/-- Writes the digits `ds` of a nonzero number whose leading digit has weight `10^(kk-1)`. -/
def FloatStyle.layout (style : FloatStyle) (ds : List Char) (kk : Int) : List Char :=
  let n : Int := ds.length
  if style.low < kk ∧ kk ≤ style.high then
    if n ≤ kk then ds ++ zeros (kk - n).toNat ++ ['.', '0']
    else if 0 < kk then ds.take kk.toNat ++ '.' :: ds.drop kk.toNat
    else '0' :: '.' :: zeros (-kk).toNat ++ ds
  else
    match ds with
    | [] => ['0']
    | [d] => d :: 'e' :: signedDigits (kk - 1)
    | d :: rest => d :: '.' :: rest ++ 'e' :: signedDigits (kk - 1)

/-- The text of a binary64 number in the given style. Infinities and NaN, which no JSON
document holds, are spelled `inf`, `-inf` and `NaN`. -/
def FloatStyle.write (style : FloatStyle) (x : Binary64) : String :=
  if x.isNaN then "NaN"
  else
    let sign := if x.negative then "-" else ""
    if !x.isFinite then sign ++ "inf"
    else if x.isZero then sign ++ "0.0"
    else
      let d := x.shortest
      sign ++ String.ofList (style.layout d.digitChars (d.leadExponent + 1))

end SwitchAdmin
