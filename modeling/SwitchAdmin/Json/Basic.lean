import SwitchAdmin.Data.StrMap
import SwitchAdmin.Decimal.Binary64

/-!
# JSON values

A `Json` value is a JSON document tree in which numbers keep their kind: an integer
literal that fits in 64 bits (unsigned, or signed when negative) stays an integer, and
every other number is a binary64 number. Objects are maps: their members are kept sorted
by key, a later member with a key replacing an earlier one.

`Json.same` is the equality of values that the forms use: numbers are equal only when they
have the same kind and value (an integer is never equal to a binary64 number, and the two
zeros are equal), objects are equal as maps and arrays element by element.
-/

namespace SwitchAdmin

/-- A JSON value. -/
inductive Json where
  /-- The literal `null`. -/
  | null
  /-- A boolean. -/
  | bool (b : Bool)
  /-- An integer in the range of 64-bit integers, signed or unsigned. -/
  | int (n : Int)
  /-- A binary64 number. -/
  | float (x : Binary64)
  /-- A string. -/
  | str (s : String)
  /-- An array. -/
  | arr (items : List Json)
  /-- An object: members sorted by key, keys distinct. -/
  | obj (members : List (String × Json))
deriving Inhabited

namespace Json

mutual

/-- Equality of JSON values: same kind and same value, objects as maps. -/
def same : Json → Json → Bool
  | .null, .null => true
  | .bool a, .bool b => a == b
  | .int a, .int b => a == b
  | .float a, .float b => a.sameValue b
  | .str a, .str b => a == b
  | .arr xs, .arr ys => sameItems xs ys
  | .obj xs, .obj ys => sameMembers xs ys
  | _, _ => false

/-- Element-by-element equality of two arrays. -/
def sameItems : List Json → List Json → Bool
  | [], [] => true
  | x :: xs, y :: ys => same x y && sameItems xs ys
  | _, _ => false

/-- Member-by-member equality of two sorted member lists. -/
def sameMembers : List (String × Json) → List (String × Json) → Bool
  | [], [] => true
  | (k, x) :: xs, (l, y) :: ys => k == l && same x y && sameMembers xs ys
  | _, _ => false

end

/-- The object with the members of a map. -/
def ofMap (m : StrMap Json) : Json := .obj m.entries

/-- The object with the given members; a later member wins over an earlier one with the
same key, and the members are sorted. -/
def object (members : List (String × Json)) : Json := ofMap (StrMap.ofList members)

/-- The member `key` of an object; `none` for a missing member or a non-object. -/
def field? (j : Json) (key : String) : Option Json :=
  match j with
  | .obj members => StrMap.lookupEntry key members
  | _ => none

/-- The value of an optional string: the string, or `null`. -/
def optStr : Option String → Json
  | some s => .str s
  | none => .null

/-- A natural number as a JSON integer. -/
def nat (n : Nat) : Json := .int n

/-- An array of strings. -/
def strs (xs : List String) : Json := .arr (xs.map .str)

end Json

end SwitchAdmin
