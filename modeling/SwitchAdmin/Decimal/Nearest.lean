import SwitchAdmin.Decimal.Shortest

/-!
# The binary64 number nearest to a decimal

`Ratio.nearest` rounds a nonnegative rational to binary64: to the nearest representable
number, ties to the one with an even significand, and to infinity past the largest finite
number (by the same rule, as if the exponent range went on). All arithmetic is exact, on
natural numbers.

The rounding works on the grid of the binade the value falls in: a value `x` with
`2^k ≤ x < 2^(k+1)` is rounded to a multiple of `2^(k-52)`, or of `2^-1074` below the
normal range. The bit pattern is then the rounded significand added to the biased
exponent, which carries correctly when rounding reaches the next binade.

`Decimal.nearest` bounds the decimal exponent first, so that text like `1e99999999` costs
nothing: such values are infinite or zero whatever their digits.
-/

namespace SwitchAdmin

namespace Ratio

/-- Whether `2^k ≤ x`. -/
def atLeastPow2 (x : Ratio) (k : Int) : Bool := (ofBinary 1 k).le x

/-- The `k` with `2^k ≤ x < 2^(k+1)`, for positive `x`. -/
def log2 (x : Ratio) : Int :=
  let guess : Int := (x.num.log2 : Int) - (x.den.log2 : Int)
  if x.atLeastPow2 guess then guess else guess - 1

/-- `x / 2^q` rounded to the nearest integer, ties to even. -/
def roundScaled (x : Ratio) (q : Int) : Nat :=
  let num := if q ≤ 0 then x.num * Nat.pow 2 (-q).toNat else x.num
  let den := if q ≤ 0 then x.den else x.den * Nat.pow 2 q.toNat
  let quot := num / den
  let twice := 2 * (num % den)
  if twice > den then quot + 1
  else if twice = den then (if quot % 2 = 1 then quot + 1 else quot)
  else quot

/-- The bit pattern of positive infinity. -/
def infinityBits : Nat := 0x7FF * Nat.pow 2 52

/-- The binary64 number nearest to `x`, rounding ties to even. -/
def nearest (x : Ratio) : Binary64 :=
  if x.num = 0 then ⟨0⟩
  else
    let k := x.log2
    let bits :=
      if k < -1022 then x.roundScaled (-1074)
      else ((k + 1023).toNat) * Nat.pow 2 52 + x.roundScaled (k - 52) - Nat.pow 2 52
    ⟨UInt64.ofNat (min bits infinityBits)⟩

end Ratio

namespace Binary64

/-- The number with the sign bit flipped. -/
def neg (x : Binary64) : Binary64 := ⟨x.bits ^^^ 0x8000000000000000⟩

/-- Positive infinity. -/
def infinity : Binary64 := ⟨0x7FF0000000000000⟩

/-- The NaN that arithmetic produces. -/
def nan : Binary64 := ⟨0x7FF8000000000000⟩

end Binary64

namespace Decimal

/-- The binary64 number nearest to `digits · 10^exponent`. Exponents far beyond the
binary64 range give infinity or zero directly. -/
def nearest (digits : Nat) (exponent : Int) : Binary64 :=
  let width : Int := (Nat.toDigits 10 digits).length
  if digits = 0 then ⟨0⟩
  else if exponent + width > 310 then Binary64.infinity
  else if exponent + width < -330 then ⟨0⟩
  else (Ratio.ofDecimal digits exponent).nearest

end Decimal

end SwitchAdmin
