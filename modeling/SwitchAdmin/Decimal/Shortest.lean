import SwitchAdmin.Decimal.Binary64

/-!
# Shortest decimal digits of a binary64 number

A finite nonzero binary64 number `m · 2^q` is the rounding of every real number in an
interval around it: halfway to each neighbour, the ends included exactly when `m` is even
(ties round to even). `Binary64.shortest` finds a decimal `d · 10^k` in that interval
with the fewest significant digits, so it reads back as the same number and no shorter
decimal does.

For each digit count `n = 1, 2, …, 17` the search looks at the two neighbours of the value
on the grid of step `10^k` that has `n` digits at the value's magnitude. If a point of
that grid lies in the interval, one of those neighbours does, so the first count with a hit
is the shortest. Of two hits the nearer wins, and an exact tie goes to the even one.
All comparisons are exact, on natural numbers.
-/

namespace SwitchAdmin

/-- A nonnegative rational number `num / den`, compared by cross-multiplication. -/
structure Ratio where
  /-- The numerator. -/
  num : Nat
  /-- The denominator, positive. -/
  den : Nat

namespace Ratio

/-- Whether `x ≤ y`. -/
def le (x y : Ratio) : Bool := x.num * y.den ≤ y.num * x.den

/-- Whether `x < y`. -/
def lt (x y : Ratio) : Bool := x.num * y.den < y.num * x.den

/-- The rational `x · 2^e`. -/
def ofBinary (x : Nat) (e : Int) : Ratio :=
  if 0 ≤ e then ⟨x * Nat.pow 2 e.toNat, 1⟩ else ⟨x, Nat.pow 2 (-e).toNat⟩

/-- The rational `x · 10^e`. -/
def ofDecimal (x : Nat) (e : Int) : Ratio :=
  if 0 ≤ e then ⟨x * Nat.pow 10 e.toNat, 1⟩ else ⟨x, Nat.pow 10 (-e).toNat⟩

/-- The integer part of `x / 10^k`. -/
def floorDecimal (x : Ratio) (k : Int) : Nat :=
  if 0 ≤ k then x.num / (x.den * Nat.pow 10 k.toNat) else (x.num * Nat.pow 10 (-k).toNat) / x.den

end Ratio

/-- A decimal number `digits · 10^exponent`. -/
structure Decimal where
  /-- The significant digits, as a number without trailing zeros (zero only for zero). -/
  digits : Nat
  /-- The power of ten of the last digit. -/
  exponent : Int
deriving DecidableEq, Inhabited

namespace Decimal

/-- Removes trailing zeros of the digits into the exponent (at most `fuel` of them). -/
def trim : Nat → Decimal → Decimal
  | 0, d => d
  | fuel + 1, d =>
    if d.digits != 0 && d.digits % 10 == 0 then trim fuel ⟨d.digits / 10, d.exponent + 1⟩ else d

/-- The decimal digits as characters, most significant first. -/
def digitChars (d : Decimal) : List Char := (Nat.repr d.digits).toList

/-- The exponent of the leading digit: the value is `d.ddd… · 10^(this)`. -/
def leadExponent (d : Decimal) : Int := d.exponent + (d.digitChars.length : Int) - 1

end Decimal

namespace Binary64

/-- Moves an estimate `e` of the decimal magnitude up while `10^(e+1) ≤ v`. -/
def raiseMagnitude (v : Ratio) : Nat → Int → Int
  | 0, e => e
  | fuel + 1, e => if (Ratio.ofDecimal 1 (e + 1)).le v then raiseMagnitude v fuel (e + 1) else e

/-- Moves an estimate `e` of the decimal magnitude down while `v < 10^e`. -/
def lowerMagnitude (v : Ratio) : Nat → Int → Int
  | 0, e => e
  | fuel + 1, e => if v.lt (Ratio.ofDecimal 1 e) then lowerMagnitude v fuel (e - 1) else e

/-- The largest `e` with `10^e ≤ m · 2^q`, for `m > 0`: an estimate from `log₁₀ 2`,
corrected by exact comparison. -/
def magnitude (m : Nat) (q : Int) : Int :=
  let v := Ratio.ofBinary m q
  let estimate := ((Nat.log2 m : Int) + q) * 30103 / 100000
  raiseMagnitude v 4 (lowerMagnitude v 4 estimate)

/-- The interval of reals that round to `m · 2^q`, as a test on rationals. -/
def roundsTo (m : Nat) (q : Int) (narrow : Bool) (x : Ratio) : Bool :=
  let lo := Ratio.ofBinary (4 * m - (if narrow then 1 else 2)) (q - 2)
  let hi := Ratio.ofBinary (4 * m + 2) (q - 2)
  if m % 2 == 0 then lo.le x && x.le hi else lo.lt x && x.lt hi

/-- The search over digit counts `n, n+1, …`, with `fuel` counts left. -/
def shortestFrom (m : Nat) (q : Int) (narrow : Bool) (e10 : Int) : Nat → Nat → Decimal
  | 0, _ => ⟨0, 0⟩
  | fuel + 1, n =>
    let v := Ratio.ofBinary m q
    let k := e10 + 1 - (n : Int)
    let below := v.floorDecimal k
    let above := below + 1
    let hitBelow := roundsTo m q narrow (Ratio.ofDecimal below k)
    let hitAbove := roundsTo m q narrow (Ratio.ofDecimal above k)
    if hitBelow && hitAbove then
      -- compare 2·v with (below + above)·10^k to find the nearer neighbour
      let twice : Ratio := ⟨2 * v.num, v.den⟩
      let mid := Ratio.ofDecimal (below + above) k
      if twice.lt mid then ⟨below, k⟩
      else if mid.lt twice then ⟨above, k⟩
      else if below % 2 == 0 then ⟨below, k⟩ else ⟨above, k⟩
    else if hitBelow then ⟨below, k⟩
    else if hitAbove then ⟨above, k⟩
    else if fuel = 0 then ⟨below, k⟩
    else shortestFrom m q narrow e10 fuel (n + 1)

/-- The shortest decimal that reads back as this finite number, ignoring the sign;
zero gives digits `0`. -/
def shortest (x : Binary64) : Decimal :=
  let m := x.significand
  let q := x.exponent
  if m = 0 then ⟨0, 0⟩
  else Decimal.trim 20 (shortestFrom m q x.narrowBelow (magnitude m q) 17 1)

end Binary64

end SwitchAdmin
