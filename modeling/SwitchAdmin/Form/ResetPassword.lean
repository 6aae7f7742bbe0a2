import SwitchAdmin.Form.Group
import SwitchAdmin.Config.Schema

/-!
# The reset-password form

The form has a `password` control (required, and at least the configured length) and a
`confirmPassword` control (required), both empty at first, and one field-match check that
flags `confirmPassword` with the configured key when the two differ. It is validated once
when built.
-/

namespace SwitchAdmin

/-- The name of the password control. -/
def passwordControl : String := "password"

/-- The name of the confirmation control. -/
def confirmControl : String := "confirmPassword"

/-- The reset-password form for the given settings, validated once. -/
def resetPasswordForm (cfg : FormsConfig) : Form FieldMatch :=
  let f : Form FieldMatch := {}
  let f := f.addControl passwordControl
    (Control.create (.str "") [.required, .minLength cfg.passwordMinLength])
  let f := f.addControl confirmControl (Control.create (.str "") [.required])
  let f := f.addCheck ⟨passwordControl, confirmControl, cfg.mismatchErrorKey⟩
  f.revalidate

/-- The report of the form after the password and its confirmation are entered. -/
def matchFieldsReport (cfg : FormsConfig) (password confirm : Json) : Json :=
  let f := resetPasswordForm cfg
  let f := (f.setValue passwordControl password).toOption.getD f
  let f := (f.setValue confirmControl confirm).toOption.getD f
  f.errorReport

end SwitchAdmin
