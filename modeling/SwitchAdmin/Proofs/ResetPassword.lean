import SwitchAdmin.Form.ResetPassword
import SwitchAdmin.Proofs.MatchCheck

/-!
# The reset-password form in closed form

The reset-password form has a `password` control (required, and at least the configured
length), a `confirmPassword` control (required), and one field match that flags the
confirmation with the configured key when the two values differ. This module shows that the
form, after any sequence of `setValue` calls, is a function of the last two values set
(`state_after_setValues`): the password carries what its validators report, the confirmation
carries `required` and the mismatch flag, the group carries the mismatch flag, and the status
is valid when all three are empty.

This holds for every key, also one that a validator reports under. With the key `required`
the confirmation's own validator and the field match write the same error, and each run takes
it off and puts it back; what makes the runs agree is one fact about controls
(`CurrentExcept.clear_eq_refreshed`): a control whose errors are its validators' report
except under one key, and which carries that key whenever its validators report it, is left
with exactly its validators' report when a field match takes the key off.

From there each call takes the closed form of two values to the closed form of the new two
values (`setValue_password`, `setValue_confirm`), the calls are chained by induction
(`setValues_formState`), and the freshly built form is the closed form of two empty strings
(`resetPasswordForm_eq`).
-/

namespace SwitchAdmin

/-! ### Controls that a field match resets -/

namespace Control

/-- The control with its validators' report on its value as its only errors. -/
def refreshed (c : Control) : Control := { c with errors := c.fresh, ownKeys := c.fresh.keys }

@[simp]
theorem refreshed_value (c : Control) : c.refreshed.value = c.value := rfl

/-- Validators that read only the value report on the reset control what they reported. -/
theorem fresh_refreshed {c : Control} (h : ∀ v ∈ c.validators, v.ReadsValue) :
    c.refreshed.fresh = c.fresh :=
  fresh_eq_of_readsValue h rfl rfl

/-- A control whose validators read only its value and whose errors are their up-to-date
report, except under the key `k`, which may also carry an error written from outside; it
carries `k` whenever its validators report it. -/
structure CurrentExcept (c : Control) (k : String) : Prop where
  reads_value : ∀ v ∈ c.validators, v.ReadsValue
  ownKeys_eq : c.ownKeys = c.fresh.keys
  agree : ∀ k', k' ≠ k → c.errors.find? k' = c.fresh.find? k'
  covers : c.errors.find? k = none → c.fresh.find? k = none

theorem refreshed_currentExcept {c : Control} (h : ∀ v ∈ c.validators, v.ReadsValue)
    (k : String) : c.refreshed.CurrentExcept k where
  reads_value := h
  ownKeys_eq := by rw [fresh_refreshed h]; rfl
  agree := fun _ _ => by rw [fresh_refreshed h]; rfl
  covers := by rw [fresh_refreshed h]; exact id

theorem CurrentExcept.setError {c : Control} {k : String} (h : c.CurrentExcept k) (info : Json) :
    (c.setError k info).CurrentExcept k where
  reads_value := h.reads_value
  ownKeys_eq := by
    rw [fresh_setError (fun v hv => (h.reads_value v hv).ignores k)]
    exact h.ownKeys_eq
  agree := by
    intro k' hk'
    rw [fresh_setError (fun v hv => (h.reads_value v hv).ignores k)]
    simp only [Control.setError, StrMap.find?_insert, if_neg hk']
    exact h.agree k' hk'
  covers := by simp [Control.setError]

/-- A revalidated control is current except under `k` when, before, every error it had
outside `k` and outside the keys of the previous run was none at all. -/
theorem currentExcept_revalidate {c : Control} {k : String}
    (hreads : ∀ v ∈ c.validators, v.ReadsValue)
    (hstray : ∀ k', k' ≠ k → k' ∉ c.ownKeys → c.errors.find? k' = none) :
    c.revalidate.CurrentExcept k :=
  have hfresh : c.revalidate.fresh = c.fresh := fresh_eq_of_readsValue hreads rfl rfl
  { reads_value := hreads
    ownKeys_eq := (current_revalidate hreads).ownKeys_eq
    agree := by
      intro k' hk'
      rw [find?_revalidate, hfresh]
      split
      · exact Option.or_none
      · rw [hstray k' hk' ‹_›, Option.or_none]
    covers := by
      intro hnone
      rw [find?_revalidate, Option.or_eq_none_iff] at hnone
      rw [hfresh]
      exact hnone.1 }

/-- Revalidating a control whose errors are all its validators' own leaves exactly the fresh
report. -/
theorem revalidate_eq_refreshed {c : Control}
    (hown : ∀ k, k ∉ c.ownKeys → c.errors.find? k = none) : c.revalidate = c.refreshed := by
  have herrors : c.revalidate.errors = c.fresh := by
    refine StrMap.eq_of_find?_eq fun k => ?_
    rw [find?_revalidate]
    split
    · exact Option.or_none
    · rw [hown k ‹_›, Option.or_none]
  calc c.revalidate = { c with errors := c.revalidate.errors, ownKeys := c.fresh.keys } := rfl
    _ = c.refreshed := by rw [herrors]; rfl

/-- **A field match resets the control it flags.** Taking the key `k` off a control that is
current except under `k`, and revalidating it when `k` was there, leaves exactly its
validators' report. -/
theorem CurrentExcept.clear_eq_refreshed {c : Control} {k : String} (h : c.CurrentExcept k) :
    c.dropFlag k = c.refreshed := by
  unfold dropFlag
  have hfresh : (c.clearError k).fresh = c.fresh :=
    fresh_clearError fun v hv => (h.reads_value v hv).ignores k
  by_cases hk : c.hasError k = true
  · -- the key was there: the revalidation puts back what the validators report under it
    rw [if_pos hk]
    have hrefreshed : (c.clearError k).refreshed = c.refreshed := by
      calc (c.clearError k).refreshed
          = { c with errors := (c.clearError k).fresh, ownKeys := (c.clearError k).fresh.keys } :=
            rfl
        _ = c.refreshed := by rw [hfresh]; rfl
    rw [← hrefreshed]
    refine revalidate_eq_refreshed fun k' hk' => ?_
    show (c.errors.erase k).find? k' = none
    rw [StrMap.find?_erase]
    split
    · rfl
    · next hne =>
      -- outside `k`, an error that is not the validators' own is no error at all
      have hnot : k' ∉ c.fresh.keys := by
        rw [← h.ownKeys_eq]
        intro hmem
        exact hk' (List.mem_filter.mpr ⟨hmem, bne_iff_ne.mpr hne⟩)
      rw [h.agree k' hne]
      simpa [StrMap.mem_keys_iff] using hnot
  · -- the key was not there, so the validators do not report it either
    rw [if_neg hk]
    have hnone : c.errors.find? k = none := by
      simpa [Control.hasError, StrMap.contains] using hk
    have hfresh : c.fresh.find? k = none := h.covers hnone
    have herrors : c.errors.erase k = c.fresh := by
      refine StrMap.eq_of_find?_eq fun k' => ?_
      rw [StrMap.find?_erase]
      split
      · next heq => rw [heq, hfresh]
      · next hne => exact h.agree k' hne
    have hown : c.ownKeys.filter (· != k) = c.fresh.keys := by
      have hnot : k ∉ c.fresh.keys := by
        rw [StrMap.mem_keys_iff, Classical.not_not]
        exact hfresh
      rw [h.ownKeys_eq, List.filter_eq_self]
      exact fun k' hk' => bne_iff_ne.mpr fun e => hnot (e ▸ hk')
    calc c.clearError k
        = { c with errors := c.errors.erase k, ownKeys := c.ownKeys.filter (· != k) } := rfl
      _ = c.refreshed := by rw [herrors, hown]; rfl

end Control

/-! ### The closed form -/

namespace ResetPassword

/-- `{key ↦ info}` when `b` holds, and no error otherwise. -/
def errorIf (b : Bool) (key : String) (info : Json) : Errors :=
  if b then StrMap.singleton key info else StrMap.empty

/-- The `required` error: the value is `null`, `""` or `[]`. -/
def requiredError (v : Json) : Errors := errorIf v.isBlank "required" (.bool true)

/-- The `minlength` error for the bound `n`: the value is a string (counted in characters) or
an array whose length is above zero and below `n`; the metadata gives both lengths. -/
def minLengthError (n : Nat) (v : Json) : Errors :=
  match v.length? with
  | some len => errorIf (0 < len && len < n) "minlength" (Validator.lengthInfo n len)
  | none => StrMap.empty

/-- The mismatch flag under `key`: the password `p` and the confirmation `c` differ. -/
def mismatchError (key : String) (p c : Json) : Errors := errorIf (!p.same c) key (.bool true)

/-- The password's errors: `required`, and `minlength` for the bound `n`. -/
def passwordErrors (n : Nat) (p : Json) : Errors := (requiredError p).union (minLengthError n p)

/-- The confirmation's errors: `required`, and the mismatch flag under `key`. -/
def confirmErrors (key : String) (p c : Json) : Errors :=
  (requiredError c).union (mismatchError key p c)

theorem find?_errorIf_of_ne {b : Bool} {key k : String} (info : Json) (hk : k ≠ key) :
    (errorIf b key info).find? k = none := by
  unfold errorIf
  split <;> simp [hk]

/-- The password's validators report its closed-form errors. -/
theorem checkAll_password (n : Nat) (p : Json) (e : Errors) :
    Validator.checkAll [.required, .minLength n] p e = passwordErrors n p := by
  unfold Validator.checkAll passwordErrors requiredError minLengthError errorIf
  simp only [List.foldl_cons, List.foldl_nil, Validator.required, Validator.minLength,
    Validator.ofValue]
  cases p.length? with
  | none => cases p.isBlank <;> rfl
  | some len =>
    by_cases h : 0 < len ∧ len < n
    · have hb : (decide (0 < len) && decide (len < n)) = true := by simpa using h
      simp only [if_pos h, hb, if_true]
      cases p.isBlank <;> rfl
    · have hb : (decide (0 < len) && decide (len < n)) = false := by simpa using h
      simp only [if_neg h, hb, Bool.false_eq_true, if_false]
      cases p.isBlank <;> rfl

/-- The confirmation's validator reports the `required` error. -/
theorem checkAll_confirm (c : Json) (e : Errors) :
    Validator.checkAll [.required] c e = requiredError c := by
  unfold Validator.checkAll requiredError errorIf
  simp only [List.foldl_cons, List.foldl_nil, Validator.required, Validator.ofValue]
  cases c.isBlank <;> rfl

/-- The confirmation's validator reads only the value. -/
theorem readsValue_confirm : ∀ v ∈ [Validator.required], v.ReadsValue := by
  intro v hv
  rw [List.mem_singleton.mp hv]
  exact Validator.readsValue_ofValue _

/-- The password control holding `p`, with its validators' report as its errors. -/
def passwordState (n : Nat) (p : Json) : Control where
  value := p
  errors := passwordErrors n p
  validators := [.required, .minLength n]
  ownKeys := (passwordErrors n p).keys

/-- The confirmation control holding `c` beside the password `p`: `required` is its
validator's own error, the mismatch flag is the field match's. -/
def confirmState (key : String) (p c : Json) : Control where
  value := c
  errors := confirmErrors key p c
  validators := [.required]
  ownKeys := (requiredError c).keys

/-- A control with the password's validators, reset to their report, is the password in
closed form. -/
theorem refreshed_eq_passwordState {x : Control} {n : Nat} {p : Json} (hval : x.value = p)
    (hvalidators : x.validators = [.required, .minLength n]) : x.refreshed = passwordState n p := by
  obtain ⟨value, errors, validators, ownKeys⟩ := x
  simp only at hval hvalidators
  subst hval hvalidators
  simp only [Control.refreshed, Control.fresh, checkAll_password, passwordState]

/-- A control with the confirmation's validator, reset to its report and then flagged on a
mismatch, is the confirmation in closed form. -/
theorem flagged_eq_confirmState {x : Control} {key : String} {p c : Json} (hval : x.value = c)
    (hvalidators : x.validators = [.required]) :
    (if p.same c then x.refreshed else x.refreshed.setError key (.bool true)) =
      confirmState key p c := by
  obtain ⟨value, errors, validators, ownKeys⟩ := x
  simp only at hval hvalidators
  subst hval hvalidators
  by_cases h : p.same value = true
  · simp only [h, if_true, Control.refreshed, Control.fresh, checkAll_confirm, confirmState,
      confirmErrors, mismatchError, errorIf, Bool.not_true, Bool.false_eq_true, if_false]
    rfl
  · have hfalse : p.same value = false := by simpa using h
    simp only [hfalse, Bool.false_eq_true, if_false, Control.refreshed, Control.fresh,
      checkAll_confirm, confirmState, confirmErrors, mismatchError, errorIf, Bool.not_false,
      if_true, Control.setError]
    rfl

theorem confirmState_currentExcept (key : String) (p c : Json) :
    (confirmState key p c).CurrentExcept key := by
  rw [← @flagged_eq_confirmState (confirmState key p c) key p c rfl rfl]
  split
  · exact Control.refreshed_currentExcept readsValue_confirm key
  · exact (Control.refreshed_currentExcept readsValue_confirm key).setError _

/-- Setting the password revalidates it into the closed form of its new value. -/
theorem revalidate_passwordState (n : Nat) (p v : Json) :
    ((passwordState n p).setValue v).revalidate = passwordState n v := by
  rw [Control.revalidate_eq_refreshed]
  · exact refreshed_eq_passwordState rfl rfl
  · -- every error of the password is its validators' own
    intro k hk
    have hnot : k ∉ (passwordErrors n p).keys := hk
    show (passwordErrors n p).find? k = none
    simpa [StrMap.mem_keys_iff] using hnot

/-- Setting the confirmation revalidates it into a control that the field match resets: its
only error that is not its validator's own is the mismatch flag. -/
theorem revalidate_confirmState_currentExcept (key : String) (p c v : Json) :
    ((confirmState key p c).setValue v).revalidate.CurrentExcept key := by
  refine Control.currentExcept_revalidate readsValue_confirm fun k hk hown => ?_
  have hnot : k ∉ (requiredError c).keys := hown
  show (confirmErrors key p c).find? k = none
  rw [confirmErrors, mismatchError, StrMap.find?_union,
    find?_errorIf_of_ne _ hk, Option.none_or]
  simpa [StrMap.mem_keys_iff] using hnot

/-! ### The form -/

/-- The reset-password form for `cfg` with these two controls and these group errors. -/
def withControls (cfg : FormsConfig) (pw cf : Control) (errors : Errors) : Form FieldMatch where
  controls := [(passwordControl, pw), (confirmControl, cf)]
  checks := [⟨passwordControl, confirmControl, cfg.mismatchErrorKey⟩]
  errors := errors

/-- The reset-password form holding the password `p` and the confirmation `c`, every error in
closed form. -/
def formState (cfg : FormsConfig) (p c : Json) : Form FieldMatch :=
  withControls cfg (passwordState cfg.passwordMinLength p)
    (confirmState cfg.mismatchErrorKey p c) (mismatchError cfg.mismatchErrorKey p c)

section WithControls

variable (cfg : FormsConfig) (pw cf : Control) (errors : Errors)

@[simp]
theorem get?_password : (withControls cfg pw cf errors).get? passwordControl = some pw := rfl

@[simp]
theorem get?_confirm : (withControls cfg pw cf errors).get? confirmControl = some cf := rfl

theorem get?_of_ne {name : String} (h₁ : name ≠ passwordControl) (h₂ : name ≠ confirmControl) :
    (withControls cfg pw cf errors).get? name = none := by
  simp [withControls, Form.get?, Ne.symm h₁, Ne.symm h₂]

@[simp]
theorem modify_password (g : Control → Control) :
    (withControls cfg pw cf errors).modify passwordControl g = withControls cfg (g pw) cf errors :=
  rfl

@[simp]
theorem modify_confirm (g : Control → Control) :
    (withControls cfg pw cf errors).modify confirmControl g = withControls cfg pw (g cf) errors :=
  rfl

/-- Running the field match resets the confirmation, flags it on a mismatch and puts the
mismatch flag on the group. -/
theorem runChecks_withControls (hcur : cf.CurrentExcept cfg.mismatchErrorKey) :
    (withControls cfg pw cf errors).runChecks =
      withControls cfg pw
        (if pw.value.same cf.value then cf.refreshed
          else cf.refreshed.setError cfg.mismatchErrorKey (.bool true))
        (mismatchError cfg.mismatchErrorKey pw.value cf.value) := by
  -- the field match resets the confirmation before it compares
  have hrun := Form.runCheck_eq_of_dropFlag (f := withControls cfg pw cf errors)
    (m := ⟨passwordControl, confirmControl, cfg.mismatchErrorKey⟩) (get?_password ..)
    (get?_confirm ..) hcur.clear_eq_refreshed
  rw [Form.runChecks_eq]
  simp only [withControls, Form.runChecksFrom, Form.validate_fieldMatch] at hrun ⊢
  rw [hrun]
  by_cases h : pw.value.same cf.value = true
  · simp only [h, if_true, mismatchError, errorIf, Bool.not_true, Bool.false_eq_true, if_false]
    rfl
  · have hfalse : pw.value.same cf.value = false := by simpa using h
    simp only [hfalse, Bool.false_eq_true, if_false, mismatchError, errorIf, Bool.not_false,
      if_true]
    rfl

theorem setValue_password_withControls (v : Json) :
    (withControls cfg pw cf errors).setValue passwordControl v =
      .ok (withControls cfg (pw.setValue v).revalidate cf errors).runChecks := rfl

theorem setValue_confirm_withControls (v : Json) :
    (withControls cfg pw cf errors).setValue confirmControl v =
      .ok (withControls cfg pw (cf.setValue v).revalidate errors).runChecks := rfl

end WithControls

/-! ### Each call, and every run of calls -/

/-- Setting the password takes the closed form to the closed form of the new password. -/
theorem setValue_password (cfg : FormsConfig) (p c v : Json) :
    (formState cfg p c).setValue passwordControl v = .ok (formState cfg v c) := by
  rw [formState, setValue_password_withControls, revalidate_passwordState,
    runChecks_withControls _ _ _ _ (confirmState_currentExcept _ _ _)]
  rw [flagged_eq_confirmState (x := confirmState cfg.mismatchErrorKey p c) rfl rfl]
  rfl

/-- Setting the confirmation takes the closed form to the closed form of the new
confirmation. -/
theorem setValue_confirm (cfg : FormsConfig) (p c v : Json) :
    (formState cfg p c).setValue confirmControl v = .ok (formState cfg p v) := by
  rw [formState, setValue_confirm_withControls,
    runChecks_withControls _ _ _ _ (revalidate_confirmState_currentExcept _ _ _ _)]
  rw [flagged_eq_confirmState (x := ((confirmState cfg.mismatchErrorKey p c).setValue v).revalidate)
    rfl rfl]
  rfl

/-- A call naming neither control is refused. -/
theorem setValue_unknown (cfg : FormsConfig) (p c v : Json) {name : String}
    (h₁ : name ≠ passwordControl) (h₂ : name ≠ confirmControl) :
    (formState cfg p c).setValue name v = .error (.unknownControl name) := by
  have hnone := get?_of_ne cfg (passwordState cfg.passwordMinLength p)
    (confirmState cfg.mismatchErrorKey p c) (mismatchError cfg.mismatchErrorKey p c) h₁ h₂
  simp [Form.setValue, Form.contains, formState, hnone]

/-- The form as built, both controls empty and validated once, is the closed form of two
empty strings. -/
theorem resetPasswordForm_eq (cfg : FormsConfig) :
    resetPasswordForm cfg = formState cfg (.str "") (.str "") := by
  let pw := Control.create (.str "") [.required, .minLength cfg.passwordMinLength]
  let cf := Control.create (.str "") [.required]
  have hbuilt : resetPasswordForm cfg =
      (withControls cfg pw.revalidate cf.revalidate StrMap.empty).runChecks := rfl
  -- a control that has never been validated has no errors to keep
  have hpw : pw.revalidate = pw.refreshed :=
    Control.revalidate_eq_refreshed fun _ _ => rfl
  have hcf : cf.revalidate = cf.refreshed :=
    Control.revalidate_eq_refreshed fun _ _ => rfl
  rw [hbuilt, hpw, hcf, runChecks_withControls _ _ _ _ (Control.refreshed_currentExcept readsValue_confirm _),
    refreshed_eq_passwordState rfl rfl, flagged_eq_confirmState (x := cf.refreshed) rfl rfl]
  rfl

/-- The value a run of calls leaves in the control `name`, which held `v` before: that of the
last call naming it, or `v` when none does. -/
def lastValue (name : String) (v : Json) : List (String × Json) → Json
  | [] => v
  | (n, v') :: calls => lastValue name (if n = name then v' else v) calls

/-- Every run of calls takes the closed form to the closed form of the values it leaves. -/
theorem setValues_formState (cfg : FormsConfig) (calls : List (String × Json)) (p c : Json) :
    (formState cfg p c).setValues calls =
      formState cfg (lastValue passwordControl p calls) (lastValue confirmControl c calls) := by
  have hne : passwordControl ≠ confirmControl := by decide
  induction calls generalizing p c with
  | nil => rfl
  | cons call calls ih =>
    obtain ⟨name, v⟩ := call
    by_cases h₁ : name = passwordControl
    · subst h₁
      simp only [Form.setValues, setValue_password, lastValue, if_true, if_neg hne, ih]
    · by_cases h₂ : name = confirmControl
      · subst h₂
        simp only [Form.setValues, setValue_confirm, lastValue, if_true, if_neg (Ne.symm hne), ih]
      · simp only [Form.setValues, setValue_unknown cfg p c v h₁ h₂, lastValue, if_neg h₁,
          if_neg h₂, ih]

/-- The closed form is valid exactly when the password, the confirmation and the group carry
no error. -/
theorem status_formState (cfg : FormsConfig) (p c : Json) :
    (formState cfg p c).status = .valid ↔
      (passwordErrors cfg.passwordMinLength p).isEmpty ∧
        (confirmErrors cfg.mismatchErrorKey p c).isEmpty ∧
          (mismatchError cfg.mismatchErrorKey p c).isEmpty := by
  simp only [Form.status, formState, withControls, List.all_cons, List.all_nil, Control.isValid,
    passwordState, confirmState, Bool.and_true, Bool.and_eq_true]
  split
  · next h => exact iff_of_true rfl ⟨h.2.1, h.2.2, h.1⟩
  · next h =>
    refine iff_of_false (by simp) ?_
    rintro ⟨hp, hc, hm⟩
    exact h ⟨hm, hp, hc⟩

/-- The report of the password `p` and the confirmation `c` entered into a fresh form is that
of the closed form. -/
theorem matchFieldsReport_eq (cfg : FormsConfig) (p c : Json) :
    matchFieldsReport cfg p c = (formState cfg p c).errorReport := by
  simp only [matchFieldsReport, resetPasswordForm_eq, setValue_password, Except.toOption,
    Option.getD_some, setValue_confirm]

/-- **The reset-password form in closed form.** For every minimum length `n` and mismatch key
`k` (also a key that a validator reports under, such as `required`) and every run of
`setValue` calls on the reset-password form, the form depends only on the last password `p`
and confirmation `c` set (empty strings when none): the password carries `required` when `p`
is empty and `minlength` when it is a string or array shorter than `n` but not empty, the
confirmation carries `required` when `c` is empty and `k` when `p` and `c` differ, the group
carries `k` exactly when they differ, and the form is valid exactly when the three carry
nothing. So the report of entering `p` and `c` is a function of `p`, `c`, `n` and `k`. -/
theorem state_after_setValues (cfg : FormsConfig) (calls : List (String × Json)) :
    let f := (resetPasswordForm cfg).setValues calls
    let p := lastValue passwordControl (.str "") calls
    let c := lastValue confirmControl (.str "") calls
    let n := cfg.passwordMinLength
    let k := cfg.mismatchErrorKey
    f = formState cfg p c ∧
      (f.get? passwordControl).map (·.errors) = some (passwordErrors n p) ∧
      (f.get? confirmControl).map (·.errors) = some (confirmErrors k p c) ∧
      f.errors = mismatchError k p c ∧
      (f.status = .valid ↔ (passwordErrors n p).isEmpty ∧ (confirmErrors k p c).isEmpty ∧
        (mismatchError k p c).isEmpty) ∧
      ∀ p' c', matchFieldsReport cfg p' c' = (formState cfg p' c').errorReport := by
  intro f p c n k
  have hf : f = formState cfg p c := by
    show (resetPasswordForm cfg).setValues calls = _
    rw [resetPasswordForm_eq, setValues_formState]
  rw [hf]
  exact ⟨rfl, rfl, rfl, rfl, status_formState cfg p c, matchFieldsReport_eq cfg⟩

end ResetPassword

end SwitchAdmin
