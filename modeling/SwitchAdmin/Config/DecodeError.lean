import SwitchAdmin.Decimal.Text
import SwitchAdmin.Text.Quoted

/-!
# Errors of reading typed settings

When a setting of the wrong kind or value is read, the error names what was found and what
was expected: `invalid type: integer ``5``, expected a string`. `Found` is what was found;
`DecodeError.message` writes the error. A found binary64 number is spelled in the style of
the document it came from, so the style is a parameter of the message.
-/

namespace SwitchAdmin

/-- What a reader found where it expected something else. -/
inductive Found where
  | bool (b : Bool)
  | unsigned (n : Nat)
  | signed (i : Int)
  | float (x : Binary64)
  | str (s : String)
  | null
  | seq
  | map
deriving Inhabited

/-- The description of what was found, binary64 numbers in the given style. -/
def Found.describe (style : FloatStyle) : Found → String
  | .bool b => s!"boolean `{b}`"
  | .unsigned n => s!"integer `{n}`"
  | .signed i => s!"integer `{i}`"
  | .float x => "floating point `" ++ style.write x ++ "`"
  | .str s => "string " ++ quoted s
  | .null => "null"
  | .seq => "sequence"
  | .map => "map"

/-- The list of names a reader expected: `a`, `a` or `b`, or one of `a`, `b`, `c`. -/
def oneOf : List String → String
  | [] => "there are no variants"
  | [a] => s!"`{a}`"
  | [a, b] => s!"`{a}` or `{b}`"
  | names => "one of " ++ ", ".intercalate (names.map fun n => s!"`{n}`")

/-- Why a typed setting could not be read. -/
inductive DecodeError where
  /-- A value of the wrong kind. -/
  | invalidType (found : Found) (expected : String)
  /-- A value of the right kind that is out of range. -/
  | invalidValue (found : Found) (expected : String)
  /-- A required setting is absent. -/
  | missingField (name : String)
  /-- A name that is none of the allowed ones. -/
  | unknownVariant (name : String) (allowed : List String)
  /-- A list of the wrong length. -/
  | invalidLength (length : Nat) (expected : String)
  /-- Any other complaint. -/
  | custom (message : String)
deriving Inhabited

/-- The text of a decoding error, found binary64 numbers in the given style. -/
def DecodeError.message (style : FloatStyle) : DecodeError → String
  | .invalidType found expected =>
    "invalid type: " ++ found.describe style ++ ", expected " ++ expected
  | .invalidValue found expected =>
    "invalid value: " ++ found.describe style ++ ", expected " ++ expected
  | .missingField name => s!"missing field `{name}`"
  | .unknownVariant name [] => s!"unknown variant `{name}`, there are no variants"
  | .unknownVariant name allowed => s!"unknown variant `{name}`, expected {oneOf allowed}"
  | .invalidLength n expected => s!"invalid length {n}, expected {expected}"
  | .custom message => message

end SwitchAdmin
