import SwitchAdmin.Form.Control

/-!
# Form groups and field matching

A form group holds named controls in the order they were added, a list of group validators,
and the group's own errors. A group validator runs against the whole form: it may read and
change the controls and report errors. Validators of one kind `κ` are given by an instance
of `GroupValidator κ`, and a form `Form κ` holds validators of that kind.

A field match `(control, matching, key)` is a group validator saying that two controls
should hold equal values (`Json.same`). Its check, when both controls exist, first takes
`key` off the matching control (revalidating that control if the key was there), then, if
the values differ, writes `key ↦ true` on the matching control and reports `{key: true}`.

Running the group's validators replaces the group errors with the union of their reports, a
later validator winning on a shared key. Setting a value through the group revalidates that
control and then runs the group's validators; revalidating the group revalidates every
control first. The group is valid when it has no errors and no control has any.
-/

namespace SwitchAdmin

/-- A check that two controls hold the same value. -/
structure FieldMatch where
  /-- The control whose value is the reference. -/
  control : String
  /-- The control that is flagged when the values differ. -/
  matching : String
  /-- The error key written on a mismatch. -/
  key : String := "mismatch"
deriving Inhabited, DecidableEq, Repr

/-- Why a group operation was refused. -/
inductive FormError where
  /-- No control has this name. -/
  | unknownControl (name : String)
deriving DecidableEq, Repr

/-- The text of a form error. -/
def FormError.message : FormError → String
  | .unknownControl name => s!"form has no control named '{name}'"

/-- Whether a form is valid. -/
inductive FormStatus where
  | valid
  | invalid
deriving DecidableEq, Repr

/-- The spelling of a status in reports. -/
def FormStatus.name : FormStatus → String
  | .valid => "VALID"
  | .invalid => "INVALID"

/-- A form group whose group validators are of kind `κ`. -/
structure Form (κ : Type) where
  /-- The named controls, in the order they were added. -/
  controls : List (String × Control) := []
  /-- The group's validators, run in order. -/
  checks : List κ := []
  /-- The group's own errors. -/
  errors : Errors := StrMap.empty
deriving Inhabited

/-- Group validators of kind `κ`: each runs against the whole form, may change it, and may
report errors. -/
class GroupValidator (κ : Type) where
  /-- The form the validator leaves and what it reports. -/
  validate : κ → Form κ → Form κ × Option Errors

namespace Form

variable {κ : Type}

/-- The control with this name. -/
def get? (f : Form κ) (name : String) : Option Control :=
  (f.controls.find? (·.1 = name)).map (·.2)

/-- Whether a control has this name. -/
def contains (f : Form κ) (name : String) : Bool := (f.get? name).isSome

/-- Applies `g` to the first control with this name. -/
def modifyControl (name : String) (g : Control → Control) : List (String × Control) → List (String × Control)
  | [] => []
  | (n, c) :: rest => if n = name then (n, g c) :: rest else (n, c) :: modifyControl name g rest

/-- Applies `g` to the control with this name, if there is one. -/
def modify (f : Form κ) (name : String) (g : Control → Control) : Form κ :=
  { f with controls := modifyControl name g f.controls }

/-- Adds a control; a control with the same name is replaced in place. -/
def addControl (f : Form κ) (name : String) (c : Control) : Form κ :=
  if f.contains name then f.modify name (fun _ => c)
  else { f with controls := f.controls ++ [(name, c)] }

/-- Appends a group validator. -/
def addCheck (f : Form κ) (m : κ) : Form κ := { f with checks := f.checks ++ [m] }

/-- The control names, in order. -/
def names (f : Form κ) : List String := f.controls.map (·.1)

/-- Runs one field-match check: the new form and the check's report. -/
def runCheck (f : Form κ) (m : FieldMatch) : Form κ × Option Errors :=
  match f.get? m.control, f.get? m.matching with
  | some c, some other =>
    let f := f.modify m.matching fun o =>
      if o.hasError m.key then (o.clearError m.key).revalidate else o.clearError m.key
    let other := (f.get? m.matching).getD other
    if c.value.same other.value then (f, none)
    else (f.modify m.matching (fun o => o.setError m.key (.bool true)), some (Errors.flag m.key))
  | _, _ => (f, none)

section Validators

variable [GroupValidator κ]

/-- Runs the validators in turn, collecting their reports. -/
def runChecksFrom (acc : Errors) : Form κ → List κ → Form κ × Errors
  | f, [] => (f, acc)
  | f, m :: ms =>
    let (f', found) := GroupValidator.validate m f
    let acc' := match found with
      | some e => acc.union e
      | none => acc
    runChecksFrom acc' f' ms

/-- Runs every validator of the group and replaces the group errors with their reports. -/
def runChecks (f : Form κ) : Form κ :=
  let (f', errs) := runChecksFrom StrMap.empty f f.checks
  { f' with errors := errs }

/-- Sets a control's value, revalidates it and runs the group's validators. -/
def setValue (f : Form κ) (name : String) (v : Json) : Except FormError (Form κ) :=
  if f.contains name then .ok (f.modify name (fun c => (c.setValue v).revalidate)).runChecks
  else .error (.unknownControl name)

/-- Revalidates every control, then runs the group's validators. -/
def revalidate (f : Form κ) : Form κ :=
  ({ f with controls := f.controls.map fun (nc : String × Control) => (nc.1, nc.2.revalidate) }).runChecks

end Validators

/-- The form's status: valid when neither the group nor any control has errors. -/
def status (f : Form κ) : FormStatus :=
  if f.errors.isEmpty ∧ f.controls.all (fun nc => nc.2.isValid) then .valid else .invalid

/-- Whether the form is valid. -/
def isValid (f : Form κ) : Bool := f.status = .valid

/-- An errors map as JSON, `null` when empty. -/
def errorsJson (e : Errors) : Json := if e.isEmpty then .null else Json.ofMap e

/-- The errors of each control that has some, by name. -/
def controlErrors (f : Form κ) : Json :=
  Json.object (f.controls.filterMap fun (n, c) =>
    if c.errors.isEmpty then none else some (n, Json.ofMap c.errors))

/-- The values of the controls, by name. -/
def valueJson (f : Form κ) : Json := Json.object (f.controls.map fun (n, c) => (n, c.value))

/-- The error report: status, group errors and the errors of each control that has some. -/
def errorReport (f : Form κ) : Json :=
  .obj [("controls", f.controlErrors), ("errors", errorsJson f.errors),
    ("status", .str f.status.name)]

end Form

/-- A field match is a group validator: its check. -/
instance : GroupValidator FieldMatch := ⟨fun m f => f.runCheck m⟩

end SwitchAdmin
