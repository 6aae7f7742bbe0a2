/-!
# Binary64 numbers as bit patterns

A binary64 number is kept as its 64-bit pattern. The fields of the pattern give the sign,
the integer significand `m` and the binary exponent `q` of the value `± m · 2^q`.
Two numbers are the same value when their patterns agree, or when both are zeros of
either sign; a NaN never arises here, since numbers come only from decimal text.
-/

namespace SwitchAdmin

/-- A binary64 number, stored as its bit pattern. -/
structure Binary64 where
  /-- The bit pattern: sign, 11 exponent bits, 52 fraction bits. -/
  bits : UInt64
deriving DecidableEq, Inhabited

namespace Binary64

/-- The number whose pattern is that of the float `x`. -/
def ofFloat (x : Float) : Binary64 := ⟨x.toBits⟩

/-- The float with this pattern. -/
def toFloat (x : Binary64) : Float := Float.ofBits x.bits

/-- The sign bit. -/
def negative (x : Binary64) : Bool := (x.bits >>> 63) == 1

/-- The 11-bit biased exponent field. -/
def exponentField (x : Binary64) : Nat := ((x.bits >>> 52) &&& 0x7FF).toNat

/-- The 52-bit fraction field. -/
def fractionField (x : Binary64) : Nat := (x.bits &&& 0xFFFFFFFFFFFFF).toNat

/-- Whether the number is a zero of either sign. -/
def isZero (x : Binary64) : Bool := x.exponentField == 0 && x.fractionField == 0

/-- Whether the number is finite (neither infinite nor NaN). -/
def isFinite (x : Binary64) : Bool := x.exponentField != 0x7FF

/-- Whether the number is a NaN. -/
def isNaN (x : Binary64) : Bool := x.exponentField == 0x7FF && x.fractionField != 0

/-- The integer significand: the fraction with the hidden bit of a normal number. -/
def significand (x : Binary64) : Nat :=
  if x.exponentField == 0 then x.fractionField else x.fractionField + Nat.pow 2 52

/-- The binary exponent `q` of the value `significand · 2^q`. -/
def exponent (x : Binary64) : Int :=
  if x.exponentField == 0 then -1074 else (x.exponentField : Int) - 1075

/-- Whether the gap to the next smaller number is half the gap to the next larger one:
the significand is a power of two above the smallest normal binade. -/
def narrowBelow (x : Binary64) : Bool :=
  x.fractionField == 0 && x.exponentField > 1

/-- Equality of values: equal patterns, or two zeros. -/
def sameValue (x y : Binary64) : Bool :=
  x.bits == y.bits || (x.isZero && y.isZero)

theorem sameValue_refl (x : Binary64) : x.sameValue x = true := by
  simp [sameValue]

theorem sameValue_comm (x y : Binary64) : x.sameValue y = y.sameValue x := by
  unfold sameValue
  cases x.isZero <;> cases y.isZero <;> simp [BEq.comm]

end Binary64

end SwitchAdmin
