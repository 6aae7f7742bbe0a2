import Mathlib.Data.List.Nodup
import SwitchAdmin.Form.Group
import SwitchAdmin.Proofs.StrMap

/-!
# Field matches keep a form's errors consistent

A form group carries errors in two places: each control's own map, written by its validators
and by the group's field matches, and the group's map, written by the field matches alone.
Setting a value revalidates that one control and then runs every field match, and a field
match first takes its key off the control it flags (revalidating that control when the key
was there) before it flags it again on a mismatch.

A validator may look at the control's errors as well as its value. What the field matches
need of a validator is named here: it reads only the value (`Validator.ReadsValue`), its report
does not depend on one key (`Validator.Ignores`), it never reports a key (`Validator.Avoids`).
The built-in validators read only the value and each reports under its own key.

This module shows that the partial updates add up to the closed form one would expect
(`errors_consistent_after_setValues`). For a form whose control names are distinct, whose
field matches flag pairwise distinct (control, key) pairs, whose validators read only the
value and report none of the keys flagged on their control (together `Form.WellKeyed`), and
whose controls carry no error but their validators' own and earlier flags, once it has been
revalidated as a whole, after any sequence of `setValue` calls:

* every control's errors are what its validators give on its value, plus `key ↦ true` for
  every field match that flags it and whose two controls hold different values;
* the group's errors are `key ↦ true` for every such field match;
* the form is valid exactly when all these maps are empty.

The proof names the state a control is in between runs (`Control.Current`: its validators'
errors are up to date) and two states of the whole form: `Form.Pending`, about to run its
field matches, with every stray error under the key of one of them, and `Form.Settled`, the
closed form above. One field match, under `Current`, only sets or clears its key on the
control it flags (`runCheck_flagged`); a run of field matches sets each pair to the flag of
the last one on it (`runChecksFrom_spec`), which turns a pending form into a settled one
(`Pending.runChecks`); and a `setValue` on a settled form, or a revalidation of a clean one,
starts that run from a pending form.
-/

namespace SwitchAdmin

/-! ### What validators read and report -/

namespace Validator

/-- A validator that reads only the control's value. -/
def ReadsValue (v : Validator) : Prop := ∀ x e e', v.check x e = v.check x e'

/-- A validator whose report does not depend on the error under `key`. -/
def Ignores (v : Validator) (key : String) : Prop :=
  ∀ x (e : Errors), v.check x (e.erase key) = v.check x e

/-- A validator that never reports `key`. -/
def Avoids (v : Validator) (key : String) : Prop :=
  ∀ x e r, v.check x e = some r → r.find? key = none

theorem readsValue_ofValue (f : Json → Option Errors) : (ofValue f).ReadsValue :=
  fun _ _ _ => rfl

theorem ReadsValue.ignores {v : Validator} (h : v.ReadsValue) (key : String) : v.Ignores key :=
  fun x _ => h x _ _

/-- A validator that ignores a key gives the same report whatever is written under it. -/
theorem Ignores.check_insert {v : Validator} {key : String} (h : v.Ignores key) (x : Json)
    (e : Errors) (info : Json) : v.check x (e.insert key info) = v.check x e := by
  rw [← h x (e.insert key info), StrMap.erase_insert_self, h]

/-- A validator that reports at most one error, under `key'`, avoids every other key. -/
theorem avoids_of_singleton {v : Validator} {key' : String}
    (h : ∀ x e r, v.check x e = some r → ∃ info, r = StrMap.singleton key' info)
    {key : String} (hk : key ≠ key') : v.Avoids key := by
  intro x e r hr
  obtain ⟨info, rfl⟩ := h x e r hr
  simp [hk]

theorem required_avoids {key : String} (hk : key ≠ "required") : required.Avoids key := by
  refine avoids_of_singleton (fun x e r hr => ?_) hk
  simp only [required, ofValue] at hr
  split at hr
  · cases hr
    exact ⟨_, rfl⟩
  · cases hr

theorem minLength_avoids (n : Nat) {key : String} (hk : key ≠ "minlength") :
    (minLength n).Avoids key := by
  refine avoids_of_singleton (fun x e r hr => ?_) hk
  simp only [minLength, ofValue] at hr
  split at hr
  · split at hr
    · cases hr
      exact ⟨_, rfl⟩
    · cases hr
  · cases hr

/-- A property of error maps that holds of the empty map and survives adding the report of
any of the validators holds of their joint report. -/
theorem checkAll_induction {vs : List Validator} {x : Json} {e : Errors} (P : Errors → Prop)
    (hempty : P StrMap.empty)
    (hstep : ∀ acc v r, v ∈ vs → P acc → v.check x e = some r → P (acc.union r)) :
    P (checkAll vs x e) := by
  unfold checkAll
  generalize StrMap.empty = acc at hempty
  induction vs generalizing acc with
  | nil => exact hempty
  | cons v vs ih =>
    rw [List.foldl_cons]
    refine ih (fun acc w r hw => hstep acc w r (List.mem_cons_of_mem _ hw)) _ ?_
    split
    · rename_i r hr
      exact hstep acc v r List.mem_cons_self hempty hr
    · exact hempty

/-- The validators report nothing under a key that none of them reports. -/
theorem find?_checkAll_eq_none {vs : List Validator} {x : Json} {e : Errors} {k : String}
    (hk : ∀ v ∈ vs, v.Avoids k) : (checkAll vs x e).find? k = none := by
  refine checkAll_induction (fun r => r.find? k = none) rfl ?_
  intro acc v r hv hacc hr
  rw [StrMap.find?_union, hk v hv x e r hr, hacc]
  rfl

/-- Validators that each report the same on two error maps report the same jointly. -/
theorem checkAll_congr {vs : List Validator} {x : Json} {e e' : Errors}
    (h : ∀ v ∈ vs, v.check x e = v.check x e') : checkAll vs x e = checkAll vs x e' := by
  unfold checkAll
  generalize (StrMap.empty : Errors) = acc
  induction vs generalizing acc with
  | nil => rfl
  | cons v vs ih =>
    simp only [List.foldl_cons]
    rw [h v List.mem_cons_self]
    exact ih (fun w hw => h w (List.mem_cons_of_mem _ hw)) _

end Validator

/-! ### Controls whose validators are up to date -/

namespace Control

theorem fresh_clearError {c : Control} {k : String} (h : ∀ v ∈ c.validators, v.Ignores k) :
    (c.clearError k).fresh = c.fresh :=
  Validator.checkAll_congr fun v hv => h v hv c.value c.errors

theorem fresh_setError {c : Control} {k : String} (h : ∀ v ∈ c.validators, v.Ignores k)
    (info : Json) : (c.setError k info).fresh = c.fresh :=
  Validator.checkAll_congr fun v hv => (h v hv).check_insert c.value c.errors info

/-- Validators that read only the value report the same on any control with that value. -/
theorem fresh_eq_of_readsValue {c c' : Control} (h : ∀ v ∈ c.validators, v.ReadsValue)
    (hvalue : c'.value = c.value) (hvalidators : c'.validators = c.validators) :
    c'.fresh = c.fresh := by
  simp only [fresh, hvalue, hvalidators]
  exact Validator.checkAll_congr fun v hv => h v hv _ _ _

/-- A control whose validators' errors are up to date: the keys of their last run are those
they report on the control as it is, and the errors agree with that report on these keys. -/
structure Current (c : Control) : Prop where
  ownKeys_eq : c.ownKeys = c.fresh.keys
  agree : ∀ k ∈ c.ownKeys, c.errors.find? k = c.fresh.find? k

/-- What a revalidation leaves in the errors: the fresh report first, then what was there
under keys other than those of the previous run. -/
theorem find?_revalidate (c : Control) (k : String) :
    c.revalidate.errors.find? k =
      (c.fresh.find? k).or (if k ∈ c.ownKeys then none else c.errors.find? k) := by
  simp only [revalidate]
  rw [StrMap.find?_union, StrMap.find?_foldl_erase]

/-- Revalidating a control whose validators read only its value brings it up to date. -/
theorem current_revalidate {c : Control} (h : ∀ v ∈ c.validators, v.ReadsValue) :
    c.revalidate.Current := by
  have hfresh : c.revalidate.fresh = c.fresh := fresh_eq_of_readsValue h rfl rfl
  refine ⟨by rw [hfresh]; rfl, fun k hk => ?_⟩
  have hsome : c.fresh.find? k ≠ none := (StrMap.mem_keys_iff _ k).mp hk
  obtain ⟨e, he⟩ := Option.ne_none_iff_exists'.mp hsome
  rw [hfresh, find?_revalidate, he, Option.some_or]

theorem fresh_find?_eq_none_of_not_mem {c : Control} (h : c.Current) {k : String}
    (hk : k ∉ c.ownKeys) : c.fresh.find? k = none := by
  rw [h.ownKeys_eq, StrMap.mem_keys_iff, Classical.not_not] at hk
  exact hk

/-- An error a revalidation leaves outside the fresh report was there before, outside the keys
of the previous run. -/
theorem stray_of_revalidate (c : Control) {k : String} (hown : k ∉ c.revalidate.ownKeys)
    (hk : c.revalidate.errors.find? k ≠ none) : k ∉ c.ownKeys ∧ c.errors.find? k ≠ none := by
  have hfresh : c.fresh.find? k = none :=
    Classical.not_not.mp (mt (StrMap.mem_keys_iff _ k).mpr hown)
  rw [find?_revalidate, hfresh, Option.none_or] at hk
  split at hk
  · exact absurd rfl hk
  · exact ⟨‹_›, hk⟩

/-- Revalidating a control whose validators are up to date changes nothing. -/
theorem revalidate_eq_self {c : Control} (h : c.Current) : c.revalidate = c := by
  have herrors : c.revalidate.errors = c.errors := by
    refine StrMap.eq_of_find?_eq fun k => ?_
    rw [find?_revalidate]
    by_cases hk : k ∈ c.ownKeys
    · rw [if_pos hk, h.agree k hk, Option.or_none]
    · rw [if_neg hk, fresh_find?_eq_none_of_not_mem h hk, Option.none_or]
  have hown : c.revalidate.ownKeys = c.ownKeys := h.ownKeys_eq.symm
  calc c.revalidate
      = { c with errors := c.revalidate.errors, ownKeys := c.revalidate.ownKeys } := rfl
    _ = c := by rw [herrors, hown]

/-- Taking off a key the validators neither own nor look at keeps a control up to date. -/
theorem Current.clearError {c : Control} (h : c.Current) {k : String} (hk : k ∉ c.ownKeys)
    (hign : ∀ v ∈ c.validators, v.Ignores k) : (c.clearError k).Current := by
  have hown : (c.clearError k).ownKeys = c.ownKeys :=
    List.filter_eq_self.mpr fun k' hk' => bne_iff_ne.mpr fun e => hk (e ▸ hk')
  have hfresh := fresh_clearError (c := c) hign
  refine ⟨by rw [hown, hfresh]; exact h.ownKeys_eq, fun k' hk' => ?_⟩
  rw [hown] at hk'
  have hne : k' ≠ k := fun e => hk (e ▸ hk')
  rw [hfresh]
  show (c.errors.erase k).find? k' = _
  rw [StrMap.find?_erase, if_neg hne]
  exact h.agree k' hk'

/-- Writing a key the validators neither own nor look at keeps a control up to date. -/
theorem Current.setError {c : Control} (h : c.Current) {k : String} (hk : k ∉ c.ownKeys)
    (hign : ∀ v ∈ c.validators, v.Ignores k) (info : Json) : (c.setError k info).Current := by
  have hfresh := fresh_setError (c := c) hign info
  refine ⟨by rw [hfresh]; exact h.ownKeys_eq, fun k' hk' => ?_⟩
  have hne : k' ≠ k := fun e => hk (e ▸ hk')
  rw [hfresh]
  simp only [Control.setError, StrMap.find?_insert, if_neg hne]
  exact h.agree k' hk'

/-- The control after a field match with key `k` ran on it: the key taken off, then set to
`true` on a mismatch. -/
def flagged (c : Control) (k : String) (mismatch : Bool) : Control :=
  if mismatch then (c.clearError k).setError k (.bool true) else c.clearError k

@[simp]
theorem flagged_value (c : Control) (k : String) (b : Bool) : (c.flagged k b).value = c.value := by
  unfold Control.flagged
  split <;> rfl

@[simp]
theorem flagged_validators (c : Control) (k : String) (b : Bool) :
    (c.flagged k b).validators = c.validators := by
  unfold Control.flagged
  split <;> rfl

theorem fresh_flagged {c : Control} {k : String} (hign : ∀ v ∈ c.validators, v.Ignores k)
    (b : Bool) : (c.flagged k b).fresh = c.fresh := by
  unfold Control.flagged
  split
  · rw [fresh_setError (c := c.clearError k) hign, fresh_clearError hign]
  · exact fresh_clearError hign

theorem Current.flagged {c : Control} (h : c.Current) {k : String} (hk : k ∉ c.ownKeys)
    (hign : ∀ v ∈ c.validators, v.Ignores k) (mismatch : Bool) :
    (c.flagged k mismatch).Current := by
  have hcleared := h.clearError hk hign
  unfold Control.flagged
  split
  · have hk' : k ∉ (c.clearError k).ownKeys := by simp [Control.clearError]
    exact hcleared.setError hk' hign _
  · exact hcleared

theorem find?_flagged (c : Control) (k k' : String) (b : Bool) :
    (c.flagged k b).errors.find? k' =
      if k' = k then (if b then some (.bool true) else none) else c.errors.find? k' := by
  unfold Control.flagged
  by_cases hk : k' = k
  · subst hk
    cases b <;> simp [Control.setError, Control.clearError, StrMap.find?_erase]
  · cases b <;> simp [Control.setError, Control.clearError, StrMap.find?_erase, hk]

end Control

/-! ### Controls of a form -/

namespace Form

variable {κ : Type}

theorem get?_modify (f : Form κ) (n n' : String) (g : Control → Control) :
    (f.modify n g).get? n' = if n' = n then (f.get? n).map g else f.get? n' := by
  obtain ⟨controls, checks, errors⟩ := f
  simp only [modify, get?]
  induction controls with
  | nil => simp [modifyControl]
  | cons nc rest ih =>
    obtain ⟨name, c⟩ := nc
    by_cases hn' : n' = name
    · subst hn'
      by_cases hn : n' = n
      · subst hn
        simp [modifyControl]
      · simp [modifyControl, hn]
    · -- the first control is not the one looked up, whether it is modified or not
      have hne : name ≠ n' := Ne.symm hn'
      by_cases hn : name = n
      · subst hn
        simp [modifyControl, hne, hn']
      · simp only [modifyControl, if_neg hn]
        simpa [List.find?_cons, hn, hne] using ih

/-- A control after `modify` is the changed control under the name changed, and the old one
under any other name. -/
theorem get?_modify_eq_some {f : Form κ} {n n' : String} {g : Control → Control} {c' : Control}
    (h : (f.modify n g).get? n' = some c') :
    ∃ c, f.get? n' = some c ∧ (n' = n ∧ c' = g c ∨ n' ≠ n ∧ c' = c) := by
  rw [get?_modify] at h
  split at h
  · rename_i hn
    subst hn
    obtain ⟨c, hc, rfl⟩ := Option.map_eq_some_iff.mp h
    exact ⟨c, hc, .inl ⟨rfl, rfl⟩⟩
  · exact ⟨c', h, .inr ⟨‹_›, rfl⟩⟩

theorem names_modify (f : Form κ) (n : String) (g : Control → Control) :
    (f.modify n g).names = f.names := by
  obtain ⟨controls, checks, errors⟩ := f
  simp only [modify, names]
  induction controls with
  | nil => rfl
  | cons nc rest ih =>
    simp only [modifyControl]
    split <;> simp [ih]

theorem modify_congr {f : Form κ} {n : String} {g g' : Control → Control}
    (h : ∀ c, f.get? n = some c → g c = g' c) : f.modify n g = f.modify n g' := by
  obtain ⟨controls, checks, errors⟩ := f
  simp only [modify, get?] at h ⊢
  congr 1
  induction controls with
  | nil => rfl
  | cons nc rest ih =>
    obtain ⟨name, c⟩ := nc
    by_cases hn : name = n
    · subst hn
      have := h c (by simp)
      simp [modifyControl, this]
    · simp only [modifyControl, if_neg hn, List.cons.injEq, true_and]
      exact ih fun c hc => h c (by simpa [List.find?_cons, hn] using hc)

theorem modify_modify (f : Form κ) (n : String) (g g' : Control → Control) :
    (f.modify n g).modify n g' = f.modify n (g' ∘ g) := by
  obtain ⟨controls, checks, errors⟩ := f
  simp only [modify, Form.mk.injEq, and_true]
  induction controls with
  | nil => rfl
  | cons nc rest ih =>
    obtain ⟨name, c⟩ := nc
    by_cases hn : name = n <;> simp [modifyControl, hn, ih]

theorem mem_controls_iff {f : Form κ} (h : f.names.Nodup) {n : String} {c : Control} :
    (n, c) ∈ f.controls ↔ f.get? n = some c := by
  obtain ⟨controls, checks, errors⟩ := f
  simp only [names, get?] at h ⊢
  induction controls with
  | nil => simp
  | cons nc rest ih =>
    obtain ⟨name, c'⟩ := nc
    simp only [List.map_cons, List.nodup_cons, List.mem_map] at h
    by_cases hn : name = n
    · subst hn
      have hnot : ∀ c'', (name, c'') ∉ rest := fun c'' hc => h.1 ⟨(name, c''), hc, rfl⟩
      simp [hnot, eq_comm]
    · simp [hn, Ne.symm hn, ih h.2]

/-! ### What a field match sees and does -/

/-- Whether a field match finds both of its controls. -/
def touches (f : Form κ) (m : FieldMatch) : Bool :=
  (f.get? m.control).isSome && (f.get? m.matching).isSome

/-- Whether a field match reports a mismatch: both its controls exist and their values
differ. -/
def mismatch (f : Form κ) (m : FieldMatch) : Bool :=
  match (f.get? m.control).map (·.value), (f.get? m.matching).map (·.value) with
  | some a, some b => !a.same b
  | _, _ => false

/-- The error a field match leaves under its key on the control it flags. -/
def flagValue (f : Form κ) (m : FieldMatch) : Option Json :=
  if f.mismatch m then some (.bool true) else none

/-- The flags the field matches raise on the control `name`. -/
def flagsOn (f : Form FieldMatch) (name : String) : Errors :=
  StrMap.ofList ((f.checks.filter fun m => m.matching == name && f.mismatch m).map
    fun m => (m.key, .bool true))

/-- The flags of every mismatching field match: what the group's errors should be. -/
def groupFlags (f : Form FieldMatch) : Errors :=
  StrMap.ofList ((f.checks.filter f.mismatch).map fun m => (m.key, .bool true))

theorem touches_of_mismatch {f : Form κ} {m : FieldMatch} (h : f.mismatch m = true) :
    f.touches m = true := by
  unfold mismatch at h
  unfold touches
  split at h
  · rename_i a b ha hb
    simp only [Option.map_eq_some_iff] at ha hb
    obtain ⟨_, hc, -⟩ := ha
    obtain ⟨_, ho, -⟩ := hb
    simp [hc, ho]
  · cases h

/-- Changing controls without touching their values changes no field match's view. -/
theorem touches_modify {f : Form κ} {n : String} {g : Control → Control} (m : FieldMatch) :
    (f.modify n g).touches m = f.touches m := by
  simp only [touches, get?_modify]
  split <;> split <;> simp_all

theorem mismatch_modify {f : Form κ} {n : String} {g : Control → Control}
    (hg : ∀ c, (g c).value = c.value) (m : FieldMatch) : (f.modify n g).mismatch m = f.mismatch m := by
  have hvalue : ∀ n', ((f.modify n g).get? n').map (·.value) = (f.get? n').map (·.value) := by
    intro n'
    rw [get?_modify]
    split
    · rename_i heq
      subst heq
      cases f.get? n' <;> simp [hg]
    · rfl
  simp only [mismatch, hvalue]

/-- Under up-to-date validators on the control it flags, which neither own nor look at its
key, a field match takes its key off that control and sets it again exactly on a mismatch,
and reports the flag exactly then. -/
theorem runCheck_flagged {f : Form κ} {m : FieldMatch}
    (hcur : ∀ o, f.get? m.matching = some o →
      o.Current ∧ m.key ∉ o.ownKeys ∧ ∀ v ∈ o.validators, v.Ignores m.key) :
    f.runCheck m =
      (if f.touches m then f.modify m.matching (·.flagged m.key (f.mismatch m)) else f,
        if f.mismatch m then some (Errors.flag m.key) else none) := by
  rcases hc : f.get? m.control with _ | c
  · have hm : f.mismatch m = false := by simp [mismatch, hc]
    simp [runCheck, touches, hc, hm]
  rcases ho : f.get? m.matching with _ | o
  · have hm : f.mismatch m = false := by simp [mismatch, hc, ho]
    simp [runCheck, touches, hc, ho, hm]
  obtain ⟨hcurrent, hkey, hign⟩ := hcur o ho
  -- taking the key off an up-to-date control needs no revalidation
  have hclear : f.modify m.matching (fun o => if o.hasError m.key then (o.clearError m.key).revalidate
      else o.clearError m.key) = f.modify m.matching (·.clearError m.key) := by
    refine modify_congr fun o' ho' => ?_
    rw [ho] at ho'
    cases ho'
    split
    · exact Control.revalidate_eq_self (hcurrent.clearError hkey hign)
    · rfl
  have hafter : ((f.modify m.matching (·.clearError m.key)).get? m.matching).getD o =
      o.clearError m.key := by
    simp [get?_modify, ho]
  have htouch : f.touches m = true := by simp [touches, hc, ho]
  have hmis : f.mismatch m = !c.value.same o.value := by simp [mismatch, hc, ho]
  simp only [runCheck, hc, ho, hclear, hafter, htouch, hmis, if_true]
  by_cases hsame : c.value.same o.value = true
  · simp only [Control.clearError, hsame, if_true, Bool.not_true, Bool.false_eq_true, if_false]
    rfl
  · have hfalse : c.value.same o.value = false := by simpa using hsame
    simp only [Control.clearError, hfalse, Bool.false_eq_true, if_false, Bool.not_false, if_true]
    rw [modify_modify]
    rfl

/-- What a run of field matches from `g` leaves: the same controls with the same values and
the same validators' report, each still up to date, and under every key the flag of the last
field match that flags that key on that control, or else what was there. -/
structure RunResult (g : Form κ) (ms : List FieldMatch) (g' : Form κ) : Prop where
  checks_eq : g'.checks = g.checks
  names_eq : g'.names = g.names
  touches_eq : ∀ m, g'.touches m = g.touches m
  mismatch_eq : ∀ m, g'.mismatch m = g.mismatch m
  controls : ∀ n c', g'.get? n = some c' → ∃ c, g.get? n = some c ∧ c'.value = c.value ∧
    c'.validators = c.validators ∧ c'.fresh = c.fresh ∧ c'.Current ∧ ∀ k, c'.errors.find? k =
      match ms.reverse.find? (fun m => m.matching == n && m.key == k && g.touches m) with
      | some m => g.flagValue m
      | none => c.errors.find? k

namespace RunResult

/-- Running no field match leaves the form as it is. -/
theorem nil {g : Form κ} (hcur : ∀ n c, g.get? n = some c → c.Current) : RunResult g [] g where
  checks_eq := rfl
  names_eq := rfl
  touches_eq := fun _ => rfl
  mismatch_eq := fun _ => rfl
  controls := fun n c' h => ⟨c', h, rfl, rfl, rfl, hcur n c' h, fun _ => rfl⟩

theorem current {g g' : Form κ} {ms : List FieldMatch} (h : RunResult g ms g') :
    ∀ n c', g'.get? n = some c' → c'.Current := by
  intro n c' hc'
  obtain ⟨_, _, _, _, _, hcur, _⟩ := h.controls n c' hc'
  exact hcur

/-- The controls after a run have the own keys and the validators they had before. -/
theorem ownKeys_eq {g g' : Form κ} {ms : List FieldMatch} (h : RunResult g ms g')
    (hcur : ∀ n c, g.get? n = some c → c.Current) {n : String} {c' : Control}
    (hc' : g'.get? n = some c') :
    ∃ c, g.get? n = some c ∧ c'.ownKeys = c.ownKeys ∧ c'.validators = c.validators := by
  obtain ⟨c, hc, -, hvalidators, hfresh, hcur', _⟩ := h.controls n c' hc'
  refine ⟨c, hc, ?_, hvalidators⟩
  rw [hcur'.ownKeys_eq, (hcur n c hc).ownKeys_eq, hfresh]

theorem flagValue_eq {g g' : Form κ} {ms : List FieldMatch} (h : RunResult g ms g')
    (m : FieldMatch) : g'.flagValue m = g.flagValue m := by
  simp only [flagValue, h.mismatch_eq]

/-- Two runs one after the other are one run of both lists. -/
theorem append {g g₁ g₂ : Form κ} {ms₁ ms₂ : List FieldMatch} (h₁ : RunResult g ms₁ g₁)
    (h₂ : RunResult g₁ ms₂ g₂) : RunResult g (ms₁ ++ ms₂) g₂ where
  checks_eq := h₂.checks_eq.trans h₁.checks_eq
  names_eq := h₂.names_eq.trans h₁.names_eq
  touches_eq := fun m => (h₂.touches_eq m).trans (h₁.touches_eq m)
  mismatch_eq := fun m => (h₂.mismatch_eq m).trans (h₁.mismatch_eq m)
  controls := by
    intro n c₂ hc₂
    obtain ⟨c₁, hc₁, hvalue₂, hvalidators₂, hfresh₂, hcur₂, hfind₂⟩ := h₂.controls n c₂ hc₂
    obtain ⟨c, hc, hvalue₁, hvalidators₁, hfresh₁, -, hfind₁⟩ := h₁.controls n c₁ hc₁
    refine ⟨c, hc, hvalue₂.trans hvalue₁, hvalidators₂.trans hvalidators₁,
      hfresh₂.trans hfresh₁, hcur₂, fun k => ?_⟩
    -- the second run decides a key it flags; the first decides the others
    have htouch : (fun m => m.matching == n && m.key == k && g₁.touches m) =
        (fun m => m.matching == n && m.key == k && g.touches m) :=
      funext fun m => by rw [h₁.touches_eq m]
    rw [hfind₂ k, htouch, List.reverse_append, List.find?_append]
    cases ms₂.reverse.find? (fun m => m.matching == n && m.key == k && g.touches m) with
    | some m => exact h₁.flagValue_eq m
    | none => exact hfind₁ k

end RunResult

/-- One field match, run on a form whose controls are up to date, on a control that neither
owns nor looks at its key. -/
theorem runResult_runCheck {g : Form κ} {m : FieldMatch}
    (hcur : ∀ n c, g.get? n = some c → c.Current)
    (hkey : ∀ c, g.get? m.matching = some c →
      m.key ∉ c.ownKeys ∧ ∀ v ∈ c.validators, v.Ignores m.key) :
    RunResult g [m] (g.runCheck m).1 := by
  rw [runCheck_flagged fun o ho => ⟨hcur _ o ho, hkey o ho⟩]
  by_cases htouch : g.touches m = true
  · simp only [htouch, if_true]
    have hvalue : ∀ c : Control, (c.flagged m.key (g.mismatch m)).value = c.value :=
      fun c => Control.flagged_value c _ _
    refine ⟨rfl, names_modify _ _ _, fun m' => touches_modify m',
      fun m' => mismatch_modify hvalue m', ?_⟩
    intro n c' hc'
    obtain ⟨c, hc, ⟨rfl, rfl⟩ | ⟨hn, rfl⟩⟩ := get?_modify_eq_some hc'
    · -- the flagged control: only the field match's key changes
      obtain ⟨hown, hign⟩ := hkey c hc
      refine ⟨c, hc, by simp, by simp, Control.fresh_flagged hign _,
        (hcur _ c hc).flagged hown hign _, fun k => ?_⟩
      rw [Control.find?_flagged]
      by_cases hk : k = m.key
      · subst hk
        simp [htouch, flagValue]
      · simp [hk, Ne.symm hk]
    · refine ⟨c', hc, rfl, rfl, rfl, hcur n c' hc, fun k => ?_⟩
      simp [Ne.symm hn]
  · simp only [htouch, Bool.false_eq_true, if_false]
    refine ⟨rfl, rfl, fun _ => rfl, fun _ => rfl, fun n c' hc' =>
      ⟨c', hc', rfl, rfl, rfl, hcur n c' hc', fun k => ?_⟩⟩
    simp [htouch]

/-- A field match as a group validator is its check. -/
@[simp]
theorem validate_fieldMatch (m : FieldMatch) (f : Form FieldMatch) :
    GroupValidator.validate m f = f.runCheck m := rfl

/-- A run of field matches on a form whose controls are up to date, none owning or looking at
a key that a field match flags on it: each key ends at the flag of the last field match on
it, and the report collects the flags of the mismatching ones. -/
theorem runChecksFrom_spec :
    ∀ (ms : List FieldMatch) (acc : Errors) (g : Form FieldMatch),
      (∀ n c, g.get? n = some c → c.Current) →
      (∀ m ∈ ms, ∀ c, g.get? m.matching = some c →
        m.key ∉ c.ownKeys ∧ ∀ v ∈ c.validators, v.Ignores m.key) →
      RunResult g ms (runChecksFrom acc g ms).1 ∧
        (runChecksFrom acc g ms).2 =
          acc.insertAll ((ms.filter g.mismatch).map fun m => (m.key, .bool true))
  | [], acc, g, hcur, _ => ⟨RunResult.nil hcur, rfl⟩
  | m :: ms, acc, g, hcur, hkeys => by
    have hstep := runCheck_flagged (f := g) (m := m)
      fun o ho => ⟨hcur _ o ho, hkeys m List.mem_cons_self o ho⟩
    have hfirst := runResult_runCheck hcur (hkeys m List.mem_cons_self)
    -- the rest of the run starts from a form whose controls are still up to date
    have hcur₁ := hfirst.current
    have hkeys₁ : ∀ m' ∈ ms, ∀ c, (g.runCheck m).1.get? m'.matching = some c →
        m'.key ∉ c.ownKeys ∧ ∀ v ∈ c.validators, v.Ignores m'.key := by
      intro m' hm' c hc
      obtain ⟨c₀, hc₀, hown, hvalidators⟩ := hfirst.ownKeys_eq hcur hc
      rw [hown, hvalidators]
      exact hkeys m' (List.mem_cons_of_mem _ hm') c₀ hc₀
    have hmis : ms.filter (g.runCheck m).1.mismatch = ms.filter g.mismatch := by
      refine List.filter_congr fun m' _ => ?_
      rw [hstep]
      split
      · exact mismatch_modify (fun c => Control.flagged_value c _ _) m'
      · rfl
    have hpair : g.runCheck m =
        ((g.runCheck m).1, if g.mismatch m then some (Errors.flag m.key) else none) := by
      rw [hstep]
    -- the first report decides the accumulator the rest of the run starts from
    obtain ⟨hrest, hacc⟩ := runChecksFrom_spec ms
      (if g.mismatch m then acc.union (Errors.flag m.key) else acc) _ hcur₁ hkeys₁
    have hrun := hfirst.append hrest
    rw [List.singleton_append] at hrun
    rw [runChecksFrom, validate_fieldMatch, hpair]
    by_cases hm : g.mismatch m = true
    · simp only [hm, if_true] at hrun hacc ⊢
      refine ⟨hrun, ?_⟩
      rw [hacc, hmis, List.filter_cons_of_pos hm]
      rfl
    · simp only [hm, Bool.false_eq_true, if_false] at hrun hacc ⊢
      refine ⟨hrun, ?_⟩
      rw [hacc, hmis, List.filter_cons_of_neg hm]

/-! ### Flags -/

theorem find?_flagsOn (f : Form FieldMatch) (n k : String) :
    (f.flagsOn n).find? k =
      if f.checks.any (fun m => m.matching == n && f.mismatch m && m.key == k) then
        some (.bool true)
      else none := by
  rw [flagsOn, StrMap.ofList, StrMap.find?_insertAll_const, List.any_filter]
  rfl

/-- A key that no field match finding both its controls flags on `n` carries no flag there. -/
theorem find?_flagsOn_eq_none {f : Form FieldMatch} {n k : String}
    (h : ∀ m ∈ f.checks, m.matching = n → m.key = k → f.touches m = false) :
    (f.flagsOn n).find? k = none := by
  rw [find?_flagsOn, if_neg]
  simp only [List.any_eq_true, Bool.and_eq_true, beq_iff_eq, not_exists, not_and]
  intro m hm ⟨hn, hmis⟩ hk
  have htouch := touches_of_mismatch hmis
  rw [h m hm hn hk] at htouch
  cases htouch

theorem RunResult.flagsOn_eq {g g' : Form FieldMatch} {ms : List FieldMatch}
    (h : RunResult g ms g') (n : String) : g'.flagsOn n = g.flagsOn n := by
  simp only [flagsOn, h.checks_eq, h.mismatch_eq]

theorem RunResult.groupFlags_eq {g g' : Form FieldMatch} {ms : List FieldMatch}
    (h : RunResult g ms g') : g'.groupFlags = g.groupFlags := by
  have hmis : g'.mismatch = g.mismatch := funext h.mismatch_eq
  simp only [groupFlags, h.checks_eq, hmis]

/-! ### The invariant between calls -/

/-- The standing assumptions on a form: its control names are distinct, no two field matches
flag the same key on the same control, every validator reads only its control's value, and
no validator of a control reports a key that a field match flags on it. -/
structure WellKeyed (f : Form FieldMatch) : Prop where
  names_nodup : f.names.Nodup
  pairs_nodup : (f.checks.map fun m => (m.matching, m.key)).Nodup
  reads_value : ∀ n c, f.get? n = some c → ∀ v ∈ c.validators, v.ReadsValue
  keys_apart : ∀ m ∈ f.checks, ∀ c, f.get? m.matching = some c → ∀ v ∈ c.validators,
    v.Avoids m.key

/-- A form about to run its field matches: every control's validators are up to date, and an
error outside their keys sits under the key of a field match that flags that control and
finds both its controls. -/
structure Pending (g : Form FieldMatch) : Prop where
  current : ∀ n c, g.get? n = some c → c.Current
  stray : ∀ n c k, g.get? n = some c → k ∉ c.ownKeys → c.errors.find? k ≠ none →
    ∃ m ∈ g.checks, m.matching = n ∧ m.key = k ∧ g.touches m

/-- A form whose errors are where they belong: every control holds its validators' report
and the flags on it, and the group holds the flags of every mismatching field match. -/
structure Settled (f : Form FieldMatch) : Prop where
  current : ∀ n c, f.get? n = some c → c.Current
  errors_eq : ∀ n c, f.get? n = some c → c.errors = c.fresh.union (f.flagsOn n)
  group_eq : f.errors = f.groupFlags

namespace WellKeyed

variable {f : Form FieldMatch} (hw : f.WellKeyed)
include hw

theorem fresh_find?_key {m : FieldMatch} (hm : m ∈ f.checks) {c : Control}
    (hc : f.get? m.matching = some c) : c.fresh.find? m.key = none :=
  Validator.find?_checkAll_eq_none (hw.keys_apart m hm c hc)

/-- The up-to-date control a field match flags neither owns nor looks at its key. -/
theorem flagged_apart {m : FieldMatch} (hm : m ∈ f.checks) {c : Control}
    (hc : f.get? m.matching = some c) (hcur : c.Current) :
    m.key ∉ c.ownKeys ∧ ∀ v ∈ c.validators, v.Ignores m.key := by
  refine ⟨?_, fun v hv => (hw.reads_value _ c hc v hv).ignores m.key⟩
  rw [hcur.ownKeys_eq, StrMap.mem_keys_iff, Classical.not_not]
  exact hw.fresh_find?_key hm hc

/-- A field match is determined by the control it flags and its key. -/
theorem eq_of_pair {m m' : FieldMatch} (hm : m ∈ f.checks) (hm' : m' ∈ f.checks)
    (hmatching : m.matching = m'.matching) (hkey : m.key = m'.key) : m = m' :=
  List.inj_on_of_nodup_map hw.pairs_nodup hm hm' (by rw [hmatching, hkey])

/-- The flag a field match leaves on the control it flags is its own. -/
theorem find?_flagsOn_self {m : FieldMatch} (hm : m ∈ f.checks) :
    (f.flagsOn m.matching).find? m.key = f.flagValue m := by
  rw [Form.find?_flagsOn, flagValue]
  -- the only field match with this control and key is `m` itself
  have hany : f.checks.any (fun m' => m'.matching == m.matching && f.mismatch m' && m'.key == m.key)
      = f.mismatch m := by
    rcases hmis : f.mismatch m
    · simp only [List.any_eq_false, Bool.and_eq_true, beq_iff_eq, not_and]
      intro m' hm' ⟨hn, hmis'⟩ hk
      rw [hw.eq_of_pair hm' hm hn hk, hmis] at hmis'
      cases hmis'
    · exact List.any_eq_true.mpr ⟨m, hm, by simp [hmis]⟩
  rw [hany]

/-- Forms with the same names and field matches, whose controls keep their validators, keep
the standing assumptions. -/
theorem of_controls {g : Form FieldMatch} (hnames : g.names = f.names)
    (hchecks : g.checks = f.checks)
    (hvalidators : ∀ n c', g.get? n = some c' → ∃ c, f.get? n = some c ∧
      c'.validators = c.validators) : g.WellKeyed where
  names_nodup := hnames ▸ hw.names_nodup
  pairs_nodup := hchecks ▸ hw.pairs_nodup
  reads_value := by
    intro n c' hc' v hv
    obtain ⟨c, hc, hval⟩ := hvalidators _ c' hc'
    exact hw.reads_value n c hc v (hval ▸ hv)
  keys_apart := by
    intro m hm c' hc' v hv
    obtain ⟨c, hc, hval⟩ := hvalidators _ c' hc'
    exact hw.keys_apart m (hchecks ▸ hm) c hc v (hval ▸ hv)

end WellKeyed

theorem RunResult.wellKeyed {g g' : Form FieldMatch} {ms : List FieldMatch}
    (h : RunResult g ms g') (hw : g.WellKeyed) : g'.WellKeyed :=
  hw.of_controls h.names_eq h.checks_eq fun n c' hc' => by
    obtain ⟨c, hc, -, hval, -⟩ := h.controls n c' hc'
    exact ⟨c, hc, hval⟩

/-- Running the field matches replaces the group's errors with their report. -/
theorem runChecks_eq (g : Form FieldMatch) :
    g.runChecks = { (runChecksFrom StrMap.empty g g.checks).1 with
      errors := (runChecksFrom StrMap.empty g g.checks).2 } := rfl

/-- Under the standing assumptions, running the field matches of a pending form settles it:
the last (and only) field match on a control and key decides that key, and every other key
keeps what the validators left. -/
theorem Pending.runChecks {g : Form FieldMatch} (hw : g.WellKeyed) (hp : g.Pending) :
    g.runChecks.WellKeyed ∧ g.runChecks.Settled := by
  obtain ⟨hrun, hreport⟩ := runChecksFrom_spec g.checks StrMap.empty g hp.current
    fun m hm c hc => hw.flagged_apart hm hc (hp.current _ c hc)
  rw [runChecks_eq]
  refine ⟨(hrun.wellKeyed hw).of_controls rfl rfl fun n c' hc' => ⟨c', hc', rfl⟩,
    hrun.current, ?_, ?_⟩
  · intro n c' hc'
    obtain ⟨c, hc, -, -, hfresh, -, hfind⟩ := hrun.controls n c' hc'
    have hcur := hp.current n c hc
    show c'.errors = c'.fresh.union ((runChecksFrom StrMap.empty g g.checks).1.flagsOn n)
    rw [hrun.flagsOn_eq, hfresh]
    refine StrMap.eq_of_find?_eq fun k => ?_
    rw [hfind k, StrMap.find?_union]
    split
    next m hlast =>
      -- the field match that decides `k` on `n` leaves its flag, and the validators report
      -- nothing there
      have hm : m ∈ g.checks := List.mem_reverse.mp (List.mem_of_find?_eq_some hlast)
      have hpm := List.find?_some hlast
      simp only [Bool.and_eq_true, beq_iff_eq] at hpm
      obtain ⟨⟨rfl, rfl⟩, -⟩ := hpm
      rw [hw.find?_flagsOn_self hm, hw.fresh_find?_key hm hc]
      cases g.flagValue m <;> rfl
    next hlast =>
      -- no field match decides `k` on `n`: it keeps what the validators left
      have hnone : ∀ m ∈ g.checks, m.matching = n → m.key = k → g.touches m = false := by
        intro m hm hn hk
        have := List.find?_eq_none.mp hlast m (List.mem_reverse.mpr hm)
        simpa [hn, hk] using this
      rw [find?_flagsOn_eq_none hnone, Option.none_or]
      by_cases hown : k ∈ c.ownKeys
      · exact hcur.agree k hown
      · have herr : c.errors.find? k = none := by
          refine Classical.byContradiction fun hsome => ?_
          obtain ⟨m, hm, hn, hk, htouch⟩ := hp.stray n c k hc hown hsome
          rw [hnone m hm hn hk] at htouch
          cases htouch
        rw [herr, Control.fresh_find?_eq_none_of_not_mem hcur hown]
  · show (runChecksFrom StrMap.empty g g.checks).2 =
      (runChecksFrom StrMap.empty g g.checks).1.groupFlags
    rw [hreport, hrun.groupFlags_eq]
    rfl

/-- In a settled form, an error that the validators do not report is a flag of a field match
that finds both its controls. -/
theorem Settled.exists_check {f : Form FieldMatch} (hs : f.Settled) {n : String} {c : Control}
    {k : String} (hc : f.get? n = some c) (hfresh : c.fresh.find? k = none)
    (hk : c.errors.find? k ≠ none) :
    ∃ m ∈ f.checks, m.matching = n ∧ m.key = k ∧ f.touches m := by
  rw [hs.errors_eq n c hc, StrMap.find?_union, hfresh, Option.or_none, find?_flagsOn] at hk
  split at hk
  · rename_i hany
    simp only [List.any_eq_true, Bool.and_eq_true, beq_iff_eq] at hany
    obtain ⟨m, hm, ⟨hn, hmis⟩, hkey⟩ := hany
    exact ⟨m, hm, hn, hkey, touches_of_mismatch hmis⟩
  · exact absurd rfl hk

/-- Setting a value in a settled form leaves it pending: only the control set is revalidated,
and every error its validators do not own is a flag from before. -/
theorem Settled.pending_setValue {f : Form FieldMatch} (hw : f.WellKeyed) (hs : f.Settled)
    (n : String) (v : Json) : (f.modify n fun c => (c.setValue v).revalidate).Pending where
  current := by
    intro n' c' hc'
    obtain ⟨c, hc, ⟨rfl, rfl⟩ | ⟨-, rfl⟩⟩ := get?_modify_eq_some hc'
    · exact Control.current_revalidate (hw.reads_value _ c hc)
    · exact hs.current _ c' hc
  stray := by
    intro n' c' k hc' hown hk
    show ∃ m ∈ f.checks, m.matching = n' ∧ m.key = k ∧ _
    simp only [touches_modify]
    obtain ⟨c, hc, ⟨rfl, rfl⟩ | ⟨-, rfl⟩⟩ := get?_modify_eq_some hc'
    · -- the control set: what its new validators do not report was there before
      have hcur := hs.current _ c hc
      obtain ⟨hold, hk'⟩ := Control.stray_of_revalidate (c.setValue v) hown hk
      exact hs.exists_check hc (Control.fresh_find?_eq_none_of_not_mem hcur hold) hk'
    · exact hs.exists_check hc
        (Control.fresh_find?_eq_none_of_not_mem (hs.current _ c' hc) hown) hk

theorem setValue_eq_ok {f f' : Form FieldMatch} {n : String} {v : Json}
    (h : f.setValue n v = .ok f') :
    f' = (f.modify n fun c => (c.setValue v).revalidate).runChecks := by
  unfold setValue at h
  split at h
  · exact (Except.ok.inj h).symm
  · cases h

/-- One call: setting a value keeps a settled form settled. -/
theorem Settled.setValue {f f' : Form FieldMatch} (hw : f.WellKeyed) (hs : f.Settled)
    {n : String} {v : Json} (h : f.setValue n v = .ok f') : f'.WellKeyed ∧ f'.Settled := by
  rw [setValue_eq_ok h]
  refine Pending.runChecks ?_ (hs.pending_setValue hw n v)
  refine hw.of_controls (names_modify _ _ _) rfl fun n' c' hc' => ?_
  obtain ⟨c, hc, ⟨-, rfl⟩ | ⟨-, rfl⟩⟩ := get?_modify_eq_some hc'
  · exact ⟨c, hc, rfl⟩
  · exact ⟨c', hc, rfl⟩

/-- The form after a sequence of `setValue` calls; a call naming no control is refused and
changes nothing. -/
def setValues (f : Form FieldMatch) : List (String × Json) → Form FieldMatch
  | [] => f
  | (n, v) :: calls =>
    match f.setValue n v with
    | .ok f' => f'.setValues calls
    | .error _ => f.setValues calls

/-- Every run of calls keeps a settled form settled. -/
theorem Settled.setValues (calls : List (String × Json)) {f : Form FieldMatch}
    (hw : f.WellKeyed) (hs : f.Settled) :
    (f.setValues calls).WellKeyed ∧ (f.setValues calls).Settled := by
  induction calls generalizing f with
  | nil => exact ⟨hw, hs⟩
  | cons call calls ih =>
    obtain ⟨n, v⟩ := call
    rcases h : f.setValue n v with e | f'
    · simp only [Form.setValues, h]
      exact ih hw hs
    · obtain ⟨hw', hs'⟩ := hs.setValue hw h
      simp only [Form.setValues, h]
      exact ih hw' hs'

/-- A form whose controls were all revalidated, by validators that read only the value,
starting from errors that are either their validators' own or flags of field matches that
find both their controls, is pending. -/
theorem pending_of_revalidated {f g : Form FieldMatch} (hchecks : g.checks = f.checks)
    (hget : ∀ n, g.get? n = (f.get? n).map Control.revalidate)
    (hreads : ∀ n c, f.get? n = some c → ∀ v ∈ c.validators, v.ReadsValue)
    (hclean : ∀ n c, f.get? n = some c → ∀ k ∈ c.errors.keys,
      k ∈ c.ownKeys ∨ ∃ m ∈ f.checks, m.matching = n ∧ m.key = k ∧ f.touches m) :
    g.Pending where
  current := by
    intro n c' hc'
    rw [hget] at hc'
    obtain ⟨c, hc, rfl⟩ := Option.map_eq_some_iff.mp hc'
    exact Control.current_revalidate (hreads n c hc)
  stray := by
    intro n c' k hc' hown hk
    rw [hget] at hc'
    obtain ⟨c, hc, rfl⟩ := Option.map_eq_some_iff.mp hc'
    obtain ⟨hold, hk'⟩ := Control.stray_of_revalidate c hown hk
    have htouch : ∀ m, g.touches m = f.touches m := by
      intro m
      simp only [touches, hget, Option.isSome_map]
    rcases hclean n c hc k ((StrMap.mem_keys_iff _ k).mpr hk') with hmem | ⟨m, hm, hn, hkey, htm⟩
    · exact absurd hmem hold
    · exact ⟨m, hchecks ▸ hm, hn, hkey, (htouch m).trans htm⟩

/-- Revalidating a form as a whole settles it. -/
theorem revalidate_settled {f : Form FieldMatch} (hw : f.WellKeyed)
    (hclean : ∀ n c, f.get? n = some c → ∀ k ∈ c.errors.keys,
      k ∈ c.ownKeys ∨ ∃ m ∈ f.checks, m.matching = n ∧ m.key = k ∧ f.touches m) :
    f.revalidate.WellKeyed ∧ f.revalidate.Settled := by
  have hget : ∀ n, ({ f with controls := f.controls.map fun (nc : String × Control) =>
      (nc.1, nc.2.revalidate) } : Form FieldMatch).get? n =
        (f.get? n).map Control.revalidate := by
    intro n
    simp only [get?, List.find?_map, Option.map_map]
    rfl
  refine Pending.runChecks ?_ (pending_of_revalidated (f := f) rfl hget hw.reads_value hclean)
  refine hw.of_controls (by simp only [names, List.map_map]; rfl) rfl fun n c' hc' => ?_
  rw [hget] at hc'
  obtain ⟨c, hc, rfl⟩ := Option.map_eq_some_iff.mp hc'
  exact ⟨c, hc, rfl⟩

/-- The status of a settled form: valid exactly when the flags and every control's report are
empty. -/
theorem Settled.status_eq_valid_iff {f : Form FieldMatch} (hw : f.WellKeyed) (hs : f.Settled) :
    f.status = .valid ↔ f.groupFlags.isEmpty ∧
      ∀ n c, (n, c) ∈ f.controls → (c.fresh.union (f.flagsOn n)).isEmpty := by
  have hcontrols : ∀ n c, (n, c) ∈ f.controls → c.errors = c.fresh.union (f.flagsOn n) :=
    fun n c h => hs.errors_eq n c ((mem_controls_iff hw.names_nodup).mp h)
  have hall : f.controls.all (fun nc => nc.2.isValid) = true ↔
      ∀ n c, (n, c) ∈ f.controls → (c.fresh.union (f.flagsOn n)).isEmpty := by
    simp only [List.all_eq_true, Control.isValid, Prod.forall]
    refine forall₂_congr fun n c => imp_congr_right fun h => ?_
    rw [hcontrols n c h]
  unfold status
  rw [hs.group_eq, ← hall]
  split
  · next h => exact iff_of_true rfl h
  · next h => exact iff_of_false (by simp) h

/-- Names stay distinct when controls are added: a known name is replaced in place. -/
theorem names_nodup_addControl {f : Form κ} (h : f.names.Nodup) (n : String) (c : Control) :
    (f.addControl n c).names.Nodup := by
  unfold addControl
  split
  · rw [names_modify]
    exact h
  · rename_i hn
    have hnot : n ∉ f.names := by
      intro hmem
      obtain ⟨⟨n', c'⟩, hc', rfl⟩ := List.mem_map.mp hmem
      exact hn (by simp [contains, (mem_controls_iff h).mp hc'])
    simp only [names, List.map_append, List.map_cons, List.map_nil]
    exact h.append (List.nodup_singleton n) (List.disjoint_singleton.mpr hnot)

/-- **Field matches keep the errors consistent.** Take a form whose control names are
distinct, whose field matches flag distinct (control, key) pairs, whose validators read only
their control's value and never report a key that a field match flags on their control, and
whose controls carry no error but their validators' own and flags of field matches that find
both their controls. Revalidate it as a whole, then make any sequence of `setValue` calls.
Then every control holds exactly its validators' report on its value and the flags of the
field matches on it, the group holds exactly the flags, and the form is valid exactly when
all of these are empty. -/
theorem errors_consistent_after_setValues (f₀ : Form FieldMatch) (calls : List (String × Json))
    (hnames : f₀.names.Nodup)
    (hpairs : (f₀.checks.map fun m => (m.matching, m.key)).Nodup)
    (hreads : ∀ n c, (n, c) ∈ f₀.controls → ∀ v ∈ c.validators, v.ReadsValue)
    (hkeys : ∀ n c, (n, c) ∈ f₀.controls → ∀ v ∈ c.validators, ∀ m ∈ f₀.checks,
      m.matching = n → v.Avoids m.key)
    (hclean : ∀ n c, (n, c) ∈ f₀.controls → ∀ k ∈ c.errors.keys,
      k ∈ c.ownKeys ∨ ∃ m ∈ f₀.checks, m.matching = n ∧ m.key = k ∧ f₀.touches m) :
    let f := f₀.revalidate.setValues calls
    (∀ n c, (n, c) ∈ f.controls → c.errors = c.fresh.union (f.flagsOn n)) ∧
      f.errors = f.groupFlags ∧
      (f.status = .valid ↔ f.groupFlags.isEmpty ∧
        ∀ n c, (n, c) ∈ f.controls → (c.fresh.union (f.flagsOn n)).isEmpty) := by
  have hmem : ∀ {n c}, f₀.get? n = some c → (n, c) ∈ f₀.controls :=
    fun hc => (mem_controls_iff hnames).mpr hc
  have hw : f₀.WellKeyed :=
    ⟨hnames, hpairs, fun n c hc => hreads n c (hmem hc),
      fun m hm c hc v hv => hkeys _ c (hmem hc) v hv m hm rfl⟩
  obtain ⟨hw₁, hs₁⟩ := revalidate_settled hw fun n c hc => hclean n c (hmem hc)
  obtain ⟨hw', hs'⟩ := hs₁.setValues calls hw₁
  exact ⟨fun n c h => hs'.errors_eq n c ((mem_controls_iff hw'.names_nodup).mp h), hs'.group_eq,
    hs'.status_eq_valid_iff hw'⟩

/-- Two fields that match each other both ways, with an unknown name among the calls. -/
theorem errors_consistent_mutual_match :
    let f := ({ controls := [("a", Control.create (.str "x") [.required]),
          ("b", Control.create (.str "y") [.minLength 3])], checks := [
          { control := "a", matching := "b" }, { control := "b", matching := "a" }] } :
        Form FieldMatch).revalidate.setValues [("a", .str "y"), ("c", .null), ("b", .str "z")]
    (∀ n c, (n, c) ∈ f.controls → c.errors = c.fresh.union (f.flagsOn n)) ∧
      f.errors = f.groupFlags ∧
      (f.status = .valid ↔ f.groupFlags.isEmpty ∧
        ∀ n c, (n, c) ∈ f.controls → (c.fresh.union (f.flagsOn n)).isEmpty) :=
  errors_consistent_after_setValues _ _ (by decide) (by decide)
    (by
      intro n c hnc v hv
      simp only [List.mem_cons, Prod.mk.injEq, List.not_mem_nil, or_false] at hnc
      rcases hnc with ⟨-, rfl⟩ | ⟨-, rfl⟩
      all_goals
        simp only [Control.create, List.mem_singleton] at hv
        subst hv
        exact Validator.readsValue_ofValue _)
    (by
      intro n c hnc v hv m hm _
      simp only [List.mem_cons, Prod.mk.injEq, List.not_mem_nil, or_false] at hnc
      simp only [List.mem_cons, List.not_mem_nil, or_false] at hm
      rcases hnc with ⟨-, rfl⟩ | ⟨-, rfl⟩
      · simp only [Control.create, List.mem_singleton] at hv
        subst hv
        rcases hm with rfl | rfl <;> exact Validator.required_avoids (by decide)
      · simp only [Control.create, List.mem_singleton] at hv
        subst hv
        rcases hm with rfl | rfl <;> exact Validator.minLength_avoids 3 (by decide))
    (by
      intro n c hnc
      simp only [List.mem_cons, Prod.mk.injEq, List.not_mem_nil, or_false] at hnc
      rcases hnc with ⟨-, rfl⟩ | ⟨-, rfl⟩
      all_goals
        intro k hk
        simp [Control.create, StrMap.keys, StrMap.empty] at hk)

end Form

end SwitchAdmin
