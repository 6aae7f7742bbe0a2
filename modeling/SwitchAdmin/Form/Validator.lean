import SwitchAdmin.Json.Basic

/-!
# Control validators

A control validator looks at a control, its value and its current errors, and reports
errors as a map from error keys to metadata, or nothing. Any such function is a validator;
the three built-in ones read the value alone:

* `required`: the value is `null`, the empty string or the empty array;
* `minLength n`: a string (counted in characters) or an array has a length strictly between
  `0` and `n`; the metadata gives the required and the actual length;
* `maxLength n`: a string or an array is longer than `n`.

Values of other kinds never fail a length check, and an empty value never fails
`minLength` (that is `required`'s job).
-/

namespace SwitchAdmin

/-- Errors of a form control or group: error key to metadata. -/
abbrev Errors := StrMap Json

/-- The errors map with the single entry `key ↦ true`. -/
def Errors.flag (key : String) : Errors := StrMap.singleton key (.bool true)

namespace Json

/-- Whether a value counts as empty: `null`, `""` or `[]`. -/
def isBlank : Json → Bool
  | .null => true
  | .str s => s.isEmpty
  | .arr xs => xs.isEmpty
  | _ => false

/-- The length of a string (in characters) or of an array; `none` for other kinds. -/
def length? : Json → Option Nat
  | .str s => some s.length
  | .arr xs => some xs.length
  | _ => none

end Json

/-- A control validator: from the control's value and its current errors, the errors it
reports, if any. -/
structure Validator where
  /-- The report on a control with this value and these errors. -/
  check : Json → Errors → Option Errors
deriving Inhabited

namespace Validator

/-- The validator that reports `f` of the control's value. -/
def ofValue (f : Json → Option Errors) : Validator := ⟨fun v _ => f v⟩

/-- The metadata of a length error. -/
def lengthInfo (required actual : Nat) : Json :=
  .obj [("actualLength", .int actual), ("requiredLength", .int required)]

/-- The value must not be empty. -/
def required : Validator :=
  ofValue fun v => if v.isBlank then some (Errors.flag "required") else none

/-- A non-empty string or array must have at least `n` elements. -/
def minLength (n : Nat) : Validator :=
  ofValue fun v =>
    match v.length? with
    | some len =>
      if 0 < len ∧ len < n then some (StrMap.singleton "minlength" (lengthInfo n len)) else none
    | none => none

/-- A string or array must have at most `n` elements. -/
def maxLength (n : Nat) : Validator :=
  ofValue fun v =>
    match v.length? with
    | some len => if len > n then some (StrMap.singleton "maxlength" (lengthInfo n len)) else none
    | none => none

/-- The union of the reports of several validators on one control; a later validator wins on
a shared key. -/
def checkAll (vs : List Validator) (value : Json) (errors : Errors) : Errors :=
  vs.foldl (fun acc v => match v.check value errors with
    | some found => acc.union found
    | none => acc) StrMap.empty

end Validator

end SwitchAdmin
