import SwitchAdmin.Form.Validator

/-!
# Form controls

A control holds a value, its own validators and a map of errors. Errors come from two
sides: the control's validators, and writes from outside (`setError`, `mergeErrors`). The
control remembers which keys its validators produced the last time they ran (`ownKeys`, a
set: `clearError` takes every occurrence of its key out).

`revalidate` runs the validators again, each seeing the control as it is before the run:
it removes the keys of the previous run, records the keys of this run and writes this run's
errors. So an error written from outside survives a
revalidation unless a validator produces the same key (then it takes the fresh metadata and
becomes the validators' own, to be removed by a later run that no longer produces it).
-/

namespace SwitchAdmin

/-- A form control. -/
structure Control where
  /-- The current value. -/
  value : Json
  /-- The current errors, from validators and from outside. -/
  errors : Errors := StrMap.empty
  /-- The control's own validators, run in order. -/
  validators : List Validator := []
  /-- The keys the validators produced at their last run. -/
  ownKeys : List String := []
deriving Inhabited

namespace Control

/-- A control with a value and validators, not yet validated. -/
def create (value : Json) (validators : List Validator) : Control :=
  { value, validators }

/-- Replaces the value; errors are left as they are. -/
def setValue (c : Control) (v : Json) : Control := { c with value := v }

/-- Writes the error `key ↦ info`. -/
def setError (c : Control) (key : String) (info : Json) : Control :=
  { c with errors := c.errors.insert key info }

/-- Writes every error of `found`. -/
def mergeErrors (c : Control) (found : Errors) : Control :=
  { c with errors := c.errors.union found }

/-- Removes the error `key`, also from the validators' own keys. -/
def clearError (c : Control) (key : String) : Control :=
  { c with errors := c.errors.erase key, ownKeys := c.ownKeys.filter (· != key) }

/-- Whether the control carries the error `key`. -/
def hasError (c : Control) (key : String) : Bool := c.errors.contains key

/-- Whether the control has no errors. -/
def isValid (c : Control) : Bool := c.errors.isEmpty

/-- The errors the control's validators report on it as it is. -/
def fresh (c : Control) : Errors := Validator.checkAll c.validators c.value c.errors

/-- Runs the validators again: the keys of their previous run are removed, then their new
errors are written and become the own keys. -/
def revalidate (c : Control) : Control :=
  let found := c.fresh
  let kept := c.ownKeys.foldl StrMap.erase c.errors
  { c with errors := kept.union found, ownKeys := found.keys }

end Control

end SwitchAdmin
