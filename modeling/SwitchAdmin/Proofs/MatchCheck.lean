import SwitchAdmin.Proofs.FieldMatch

/-!
# One field-match check

`Form.runCheck f m` runs the check of one field match `m = (control, matching, key)` against a
whole form. This module says what one run does, on every form, and what a second run does.

One run (`runCheck_spec`):

* with a control missing, it reports nothing and changes nothing;
* otherwise it reports `{key: true}` exactly when the two values differ under `Json.same`;
* it changes no control but the one it flags, no value, and not the group's errors;
* when the flagged control's validators do not look at the key (as the built-in ones, which
  read only the value): the flagged control carries the key afterwards exactly when the
  check reports, unless its validators report that key, and if the control was up to date (a
  revalidation would leave it as it is), it keeps the metadata of every other key.

Everything the check does to the flagged control before comparing is `Control.dropFlag`: the
key comes off, with a revalidation when it was there. On an up-to-date control this gives the
control back when the key is its validators' own, and takes the key off otherwise
(`Current.dropFlag_eq`). Either way the result is `Unflagged`: up to date, and carrying the key
only as its validators' own. A second `dropFlag` gives such a control back, also after the flag
was set on it (`Unflagged.dropFlag_setError`), so on a form whose flagged control is up to date
a second run repeats the first exactly (`runCheck_runCheck`).

A run keeps the flagged control up to date except in one case: the values differ and the
control's own validators report the key with metadata other than `true`. The flag then sits
under a key the validators own, and the next revalidation puts their metadata back
(`upToDate_after_runCheck_iff`, and `runCheck_flags_validator_key` for a `minlength` clash).
The main statement for two runs is `runCheck_idempotent`.
-/

namespace SwitchAdmin

/-! ### Taking a flag off a control -/

namespace Control

/-- What a field match with key `k` does to the control it flags before it compares: the key
comes off, and the control is revalidated when the key was there. -/
def dropFlag (c : Control) (k : String) : Control :=
  if c.hasError k then (c.clearError k).revalidate else c.clearError k

@[simp]
theorem dropFlag_value (c : Control) (k : String) : (c.dropFlag k).value = c.value := by
  unfold dropFlag
  split <;> rfl

@[simp]
theorem dropFlag_validators (c : Control) (k : String) :
    (c.dropFlag k).validators = c.validators := by
  unfold dropFlag
  split <;> rfl

/-- After a flag comes off, its key is back only when it was there and the validators' run
without it reports it. -/
theorem find?_dropFlag_self (c : Control) (k : String) :
    (c.dropFlag k).errors.find? k =
      if c.hasError k then (c.clearError k).fresh.find? k else none := by
  unfold dropFlag
  split
  · rw [find?_revalidate]
    show ((c.clearError k).fresh.find? k).or
      (if k ∈ c.ownKeys.filter (· != k) then none else (c.errors.erase k).find? k) = _
    rw [StrMap.find?_erase, if_pos rfl]
    split <;> exact Option.or_none
  · show (c.errors.erase k).find? k = none
    rw [StrMap.find?_erase, if_pos rfl]

/-- A control that a revalidation would leave as it is is up to date. -/
theorem current_of_revalidate_eq {c : Control} (h : c.revalidate = c) : c.Current where
  ownKeys_eq := (congrArg Control.ownKeys h).symm
  agree := by
    intro k hk
    have hown : c.ownKeys = c.fresh.keys := (congrArg Control.ownKeys h).symm
    have hkeys : k ∈ c.fresh.keys := hown ▸ hk
    obtain ⟨e, he⟩ := Option.ne_none_iff_exists'.mp ((StrMap.mem_keys_iff _ k).mp hkeys)
    have herr : c.errors.find? k = c.revalidate.errors.find? k := by rw [h]
    rw [herr, find?_revalidate, he, Option.some_or]

/-- Up to date is the same as left as it is by a revalidation. -/
theorem revalidate_eq_self_iff {c : Control} : c.revalidate = c ↔ c.Current :=
  ⟨current_of_revalidate_eq, revalidate_eq_self⟩

theorem Current.hasError_of_mem {c : Control} (h : c.Current) {k : String} (hk : k ∈ c.ownKeys) :
    c.hasError k = true := by
  have hfresh : c.fresh.find? k ≠ none := (StrMap.mem_keys_iff _ k).mp (h.ownKeys_eq ▸ hk)
  simpa [hasError, StrMap.contains, h.agree k hk, Option.isSome_iff_ne_none] using hfresh

section Ignored

variable {c : Control} {k : String} (hign : ∀ v ∈ c.validators, v.Ignores k)
include hign

/-- Taking off a key of the validators' last run that they do not look at, and then
revalidating, is revalidating. -/
theorem revalidate_clearError_of_mem (hk : k ∈ c.ownKeys) :
    (c.clearError k).revalidate = c.revalidate := by
  have hfresh := fresh_clearError hign
  have herrors : (c.clearError k).revalidate.errors = c.revalidate.errors := by
    refine StrMap.eq_of_find?_eq fun k' => ?_
    rw [find?_revalidate, find?_revalidate, hfresh]
    show (c.fresh.find? k').or
      (if k' ∈ c.ownKeys.filter (· != k) then none else (c.errors.erase k).find? k') = _
    congr 1
    -- both runs erase the same keys: the previous run's, `k` among them
    by_cases hk' : k' = k
    · subst hk'
      simp [hk, StrMap.find?_erase]
    · simp [List.mem_filter, StrMap.find?_erase, hk']
  calc (c.clearError k).revalidate
      = { c with
          errors := (c.clearError k).revalidate.errors
          ownKeys := (c.clearError k).fresh.keys } := rfl
    _ = c.revalidate := by rw [herrors, hfresh]; rfl

/-- On an up-to-date control, taking off a key its validators do not look at and
revalidating gives the control back when the key is its validators' own, and the control
without the key otherwise. -/
theorem Current.revalidate_clearError (h : c.Current) :
    (c.clearError k).revalidate = if k ∈ c.ownKeys then c else c.clearError k := by
  split
  · next hk => rw [revalidate_clearError_of_mem hign hk, revalidate_eq_self h]
  · next hk => exact revalidate_eq_self (h.clearError hk hign)

/-- On an up-to-date control, a flag coming off keeps the control when the key is its
validators' own, and only takes the key off otherwise. -/
theorem Current.dropFlag_eq (h : c.Current) :
    c.dropFlag k = if k ∈ c.ownKeys then c else c.clearError k := by
  unfold dropFlag
  split
  · exact h.revalidate_clearError hign
  · next hk =>
    -- a key the control does not carry is not its validators' own
    have hnot : k ∉ c.ownKeys := fun hmem => hk (h.hasError_of_mem hmem)
    rw [if_neg hnot]

theorem Current.fresh_dropFlag (h : c.Current) : (c.dropFlag k).fresh = c.fresh := by
  rw [h.dropFlag_eq hign]
  split
  · rfl
  · exact fresh_clearError hign

/-- On an up-to-date control, a flag coming off leaves every other key as it was. -/
theorem Current.find?_dropFlag_of_ne (h : c.Current) {k' : String} (hk' : k' ≠ k) :
    (c.dropFlag k).errors.find? k' = c.errors.find? k' := by
  rw [h.dropFlag_eq hign]
  split
  · rfl
  · show (c.errors.erase k).find? k' = _
    rw [StrMap.find?_erase, if_neg hk']

end Ignored

/-- An up-to-date control that carries the key `k` only as its validators' own. -/
structure Unflagged (c : Control) (k : String) : Prop where
  current : c.Current
  absent : k ∉ c.ownKeys → c.errors.find? k = none

/-- A flag coming off an up-to-date control leaves it unflagged. -/
theorem Current.unflagged_dropFlag {c : Control} (h : c.Current) {k : String}
    (hign : ∀ v ∈ c.validators, v.Ignores k) : (c.dropFlag k).Unflagged k := by
  rw [h.dropFlag_eq hign]
  split
  · next hk => exact ⟨h, fun hnot => absurd hk hnot⟩
  · next hk =>
    refine ⟨h.clearError hk hign, fun _ => ?_⟩
    show (c.errors.erase k).find? k = none
    rw [StrMap.find?_erase, if_pos rfl]

theorem Unflagged.clearError_eq {c : Control} {k : String} (h : c.Unflagged k)
    (hk : k ∉ c.ownKeys) : c.clearError k = c := by
  have hown : c.ownKeys.filter (· != k) = c.ownKeys :=
    List.filter_eq_self.mpr fun k' hk' => bne_iff_ne.mpr fun e => hk (e ▸ hk')
  calc c.clearError k
      = { c with errors := c.errors.erase k, ownKeys := c.ownKeys.filter (· != k) } := rfl
    _ = c := by rw [StrMap.erase_of_find?_eq_none (h.absent hk), hown]

section Ignored

variable {c : Control} {k : String} (hign : ∀ v ∈ c.validators, v.Ignores k)
include hign

/-- Taking the key off an unflagged control gives the control back. -/
theorem Unflagged.dropFlag_eq (h : c.Unflagged k) : c.dropFlag k = c := by
  rw [h.current.dropFlag_eq hign]
  split
  · rfl
  · next hk => exact h.clearError_eq hk

/-- Setting the key on an unflagged control and taking it off again gives the control back. -/
theorem Unflagged.dropFlag_setError (h : c.Unflagged k) (info : Json) :
    (c.setError k info).dropFlag k = c := by
  have hclear : (c.setError k info).clearError k = c.clearError k := by
    calc (c.setError k info).clearError k
        = { c with
            errors := (c.errors.insert k info).erase k
            ownKeys := c.ownKeys.filter (· != k) } := rfl
      _ = c.clearError k := by rw [StrMap.erase_insert_self]; rfl
  have hhas : (c.setError k info).hasError k = true := by
    simp [hasError, StrMap.contains, setError]
  rw [dropFlag, if_pos hhas, hclear, h.current.revalidate_clearError hign]
  split
  · rfl
  · next hk => exact h.clearError_eq hk

/-- Setting the key on an unflagged control keeps it up to date exactly when the validators
report nothing else under that key. -/
theorem Unflagged.revalidate_setError_iff (h : c.Unflagged k) (info : Json) :
    (c.setError k info).revalidate = c.setError k info ↔
      ∀ x, c.fresh.find? k = some x → x = info := by
  by_cases hk : k ∈ c.ownKeys
  · -- the key is the validators' own: a revalidation writes their metadata back
    obtain ⟨y, hy⟩ := Option.ne_none_iff_exists'.mp
      ((StrMap.mem_keys_iff _ k).mp (h.current.ownKeys_eq ▸ hk))
    have hrev : (c.setError k info).revalidate.errors.find? k = some y := by
      rw [find?_revalidate, fresh_setError hign, hy, Option.some_or]
    constructor
    · intro hfix x hx
      have hset : (c.setError k info).errors.find? k = some info := by
        simp [setError]
      rw [hfix, hset, ← hy, hx] at hrev
      exact (Option.some.inj hrev).symm
    · intro hinfo
      have hsame : c.setError k info = c := by
        have hcur : c.errors.find? k = some info := by
          rw [h.current.agree k hk, hy, hinfo y hy]
        calc c.setError k info = { c with errors := c.errors.insert k info } := rfl
          _ = c := by rw [StrMap.insert_of_find?_eq hcur]
      rw [hsame]
      exact revalidate_eq_self h.current
  · -- the key is not the validators' own: the flag is an outside error and stays
    have hfresh : c.fresh.find? k = none := fresh_find?_eq_none_of_not_mem h.current hk
    refine iff_of_true (revalidate_eq_self (h.current.setError hk hign info)) ?_
    intro x hx
    rw [hfresh] at hx
    cases hx

end Ignored

end Control

/-! ### One check -/

namespace Form

variable {κ : Type}

theorem modify_id (f : Form κ) (n : String) : f.modify n id = f := by
  obtain ⟨controls, checks, errors⟩ := f
  simp only [modify, Form.mk.injEq, and_true]
  induction controls with
  | nil => rfl
  | cons nc rest ih =>
    obtain ⟨name, c⟩ := nc
    by_cases hn : name = n <;> simp [modifyControl, hn, ih]

/-- A check with a control missing reports nothing and changes nothing. -/
theorem runCheck_of_missing {f : Form κ} {m : FieldMatch}
    (h : f.get? m.control = none ∨ f.get? m.matching = none) : f.runCheck m = (f, none) := by
  rcases h with h | h
  · simp [runCheck, h]
  · rcases hc : f.get? m.control with _ | c <;> simp [runCheck, hc, h]

/-- A check with both controls present takes the flag off the control it flags, then sets it
and reports it exactly when the two values differ. -/
theorem runCheck_eq {f : Form κ} {m : FieldMatch} {p o : Control}
    (hp : f.get? m.control = some p) (ho : f.get? m.matching = some o) :
    f.runCheck m =
      if p.value.same o.value then (f.modify m.matching (·.dropFlag m.key), none)
      else (f.modify m.matching fun c => (c.dropFlag m.key).setError m.key (.bool true),
        some (Errors.flag m.key)) := by
  have hdrop : f.modify m.matching (fun o => if o.hasError m.key then
      (o.clearError m.key).revalidate else o.clearError m.key) =
      f.modify m.matching (·.dropFlag m.key) := rfl
  have hafter : ((f.modify m.matching (·.dropFlag m.key)).get? m.matching).getD o =
      o.dropFlag m.key := by
    simp [get?_modify, ho]
  simp only [runCheck, hp, ho, hdrop, hafter, Control.dropFlag_value]
  split
  · rfl
  · rw [modify_modify]
    rfl

/-- A check depends on the flagged control only through what taking the flag off leaves. -/
theorem runCheck_eq_of_dropFlag {f : Form κ} {m : FieldMatch} {p o d : Control}
    (hp : f.get? m.control = some p) (ho : f.get? m.matching = some o)
    (hd : o.dropFlag m.key = d) :
    f.runCheck m =
      if p.value.same o.value then (f.modify m.matching fun _ => d, none)
      else (f.modify m.matching fun _ => d.setError m.key (.bool true),
        some (Errors.flag m.key)) := by
  -- the change is made to `o` alone
  have hreset : ∀ g : Control → Control,
      (f.modify m.matching fun c => g (c.dropFlag m.key)) = f.modify m.matching fun _ => g d := by
    intro g
    refine modify_congr fun c hc => ?_
    rw [ho] at hc
    cases hc
    rw [hd]
  rw [runCheck_eq hp ho]
  split
  · exact congrArg (·, none) (hreset id)
  · exact congrArg (·, some (Errors.flag m.key)) (hreset fun c => c.setError m.key (.bool true))

/-- The report of a check with both controls present. -/
theorem runCheck_snd {f : Form κ} {m : FieldMatch} {p o : Control}
    (hp : f.get? m.control = some p) (ho : f.get? m.matching = some o) :
    (f.runCheck m).2 = if p.value.same o.value then none else some (Errors.flag m.key) := by
  rw [runCheck_eq hp ho]
  split <;> rfl

/-- The flagged control after a check with both controls present. -/
theorem get?_runCheck_matching {f : Form κ} {m : FieldMatch} {p o : Control}
    (hp : f.get? m.control = some p) (ho : f.get? m.matching = some o) :
    (f.runCheck m).1.get? m.matching = some (if p.value.same o.value then o.dropFlag m.key
      else (o.dropFlag m.key).setError m.key (.bool true)) := by
  rw [runCheck_eq hp ho]
  split <;> simp [get?_modify, ho]

/-- A check changes the form only through the control it flags, and keeps that control's
value. -/
theorem runCheck_fst_eq_modify (f : Form κ) (m : FieldMatch) :
    ∃ g : Control → Control, (∀ c, (g c).value = c.value) ∧
      (f.runCheck m).1 = f.modify m.matching g := by
  rcases hp : f.get? m.control with _ | p
  · exact ⟨id, fun _ => rfl, by rw [runCheck_of_missing (.inl hp), modify_id]⟩
  rcases ho : f.get? m.matching with _ | o
  · exact ⟨id, fun _ => rfl, by rw [runCheck_of_missing (.inr ho), modify_id]⟩
  rw [runCheck_eq hp ho]
  split
  · exact ⟨(·.dropFlag m.key), fun c => c.dropFlag_value m.key, rfl⟩
  · exact ⟨fun c => (c.dropFlag m.key).setError m.key (.bool true),
      fun c => c.dropFlag_value m.key, rfl⟩

theorem get?_runCheck_of_ne (f : Form κ) (m : FieldMatch) {n : String} (hn : n ≠ m.matching) :
    (f.runCheck m).1.get? n = f.get? n := by
  obtain ⟨g, -, hrun⟩ := runCheck_fst_eq_modify f m
  rw [hrun, get?_modify, if_neg hn]

theorem values_runCheck (f : Form κ) (m : FieldMatch) (n : String) :
    ((f.runCheck m).1.get? n).map (·.value) = (f.get? n).map (·.value) := by
  obtain ⟨g, hg, hrun⟩ := runCheck_fst_eq_modify f m
  rw [hrun, get?_modify]
  split
  · next heq =>
    subst heq
    cases f.get? m.matching <;> simp [hg]
  · rfl

theorem errors_runCheck (f : Form κ) (m : FieldMatch) : (f.runCheck m).1.errors = f.errors := by
  obtain ⟨g, -, hrun⟩ := runCheck_fst_eq_modify f m
  rw [hrun]
  rfl

/-- **One check keeps both channels in agreement and touches nothing else.** For every form
and field match `(control, matching, key)`: no control but the flagged one changes, no value
changes, and the group's errors stay; with a control missing the check reports nothing and
changes nothing; with both present it reports `{key: true}` exactly when the values differ.
When the flagged control's validators do not look at the key, it carries the key afterwards
exactly when the check reports (unless its validators report that key), and, when it was up
to date, every other key keeps its metadata. -/
theorem runCheck_spec (f : Form κ) (m : FieldMatch) :
    (∀ n, n ≠ m.matching → (f.runCheck m).1.get? n = f.get? n) ∧
      (∀ n, ((f.runCheck m).1.get? n).map (·.value) = (f.get? n).map (·.value)) ∧
      (f.runCheck m).1.errors = f.errors ∧
      ((f.get? m.control = none ∨ f.get? m.matching = none) → f.runCheck m = (f, none)) ∧
      ∀ p o, f.get? m.control = some p → f.get? m.matching = some o →
        (f.runCheck m).2 = (if p.value.same o.value then none else some (Errors.flag m.key)) ∧
        ∃ o', (f.runCheck m).1.get? m.matching = some o' ∧
          ((∀ v ∈ o.validators, v.Ignores m.key) →
            (o.fresh.find? m.key = none → (o'.hasError m.key = true ↔ (f.runCheck m).2.isSome)) ∧
            (o.revalidate = o → ∀ k, k ≠ m.key → o'.errors.find? k = o.errors.find? k)) := by
  refine ⟨fun n hn => get?_runCheck_of_ne f m hn, values_runCheck f m, errors_runCheck f m,
    runCheck_of_missing, fun p o hp ho => ⟨runCheck_snd hp ho, _, get?_runCheck_matching hp ho,
    fun hign => ⟨fun hfresh => ?_, fun hrev k hk => ?_⟩⟩⟩
  · -- the flag is there exactly on a mismatch, the validators not reporting its key
    rw [runCheck_snd hp ho]
    split
    · have hnone : (o.dropFlag m.key).errors.find? m.key = none := by
        rw [Control.find?_dropFlag_self, Control.fresh_clearError hign, hfresh, ite_self]
      simp [Control.hasError, StrMap.contains, hnone]
    · simp [Control.hasError, StrMap.contains, Control.setError]
  · -- an up-to-date control keeps every key but the flag's
    have hcur := Control.current_of_revalidate_eq hrev
    split
    · exact hcur.find?_dropFlag_of_ne hign hk
    · simp only [Control.setError, StrMap.find?_insert, if_neg hk]
      exact hcur.find?_dropFlag_of_ne hign hk

-- The comparison is exact: the integer `1` equals neither the string `"1"` nor the binary64
-- number `1.0`, `null` equals itself, and the two binary64 zeros are equal.
example : (Json.int 1).same (.str "1") = false := by decide
example : (Json.int 1).same (.float ⟨0x3FF0000000000000⟩) = false := by decide
example : Json.null.same .null = true := by decide
example : (Json.float ⟨0⟩).same (.float ⟨0x8000000000000000⟩) = true := by decide

/-- Two controls that differ, the flagged one carrying an error set by hand and a `required`
validator. -/
def serverFlagged : Form FieldMatch :=
  { controls := [("password", Control.create (.str "s3cret!!") []),
      ("confirmPassword",
        { Control.create (.str "other") [.required] with errors := Errors.flag "server" })],
    checks := [{ control := "password", matching := "confirmPassword" }] }

/-- The check on two different passwords flags the confirmation, keeps its other error, and
changes nothing else; the confirmation's validator does not look at the key. -/
theorem runCheck_spec_serverFlagged :
    (∀ o, serverFlagged.get? "confirmPassword" = some o →
      ∀ v ∈ o.validators, v.Ignores "mismatch") ∧
      let m : FieldMatch := { control := "password", matching := "confirmPassword" }
      (∀ n, n ≠ m.matching → (serverFlagged.runCheck m).1.get? n = serverFlagged.get? n) ∧
      (∀ n, ((serverFlagged.runCheck m).1.get? n).map (·.value) =
        (serverFlagged.get? n).map (·.value)) ∧
      (serverFlagged.runCheck m).1.errors = serverFlagged.errors ∧
      ((serverFlagged.get? m.control = none ∨ serverFlagged.get? m.matching = none) →
        serverFlagged.runCheck m = (serverFlagged, none)) ∧
      ∀ p o, serverFlagged.get? m.control = some p → serverFlagged.get? m.matching = some o →
        (serverFlagged.runCheck m).2 =
          (if p.value.same o.value then none else some (Errors.flag m.key)) ∧
        ∃ o', (serverFlagged.runCheck m).1.get? m.matching = some o' ∧
          ((∀ v ∈ o.validators, v.Ignores m.key) →
            (o.fresh.find? m.key = none →
              (o'.hasError m.key = true ↔ (serverFlagged.runCheck m).2.isSome)) ∧
            (o.revalidate = o → ∀ k, k ≠ m.key → o'.errors.find? k = o.errors.find? k)) := by
  have hign : ∀ o, serverFlagged.get? "confirmPassword" = some o →
      ∀ v ∈ o.validators, v.Ignores "mismatch" := by
    intro o ho v hv
    have hget : serverFlagged.get? "confirmPassword" =
        some { Control.create (.str "other") [.required] with
          errors := Errors.flag "server" } := rfl
    rw [hget] at ho
    cases ho
    rw [List.mem_singleton.mp hv]
    exact (Validator.readsValue_ofValue _).ignores _
  exact ⟨hign, runCheck_spec serverFlagged _⟩

/-! ### Two checks -/

theorem mismatch_eq {f : Form κ} {m : FieldMatch} {p o : Control}
    (hp : f.get? m.control = some p) (ho : f.get? m.matching = some o) :
    f.mismatch m = !p.value.same o.value := by
  simp [mismatch, hp, ho]

/-- A check after a change `g` of the flagged control, values kept, is the check itself when
taking the flag off undoes `g`. -/
theorem runCheck_modify_of_dropFlag {f : Form κ} {m : FieldMatch} {p o : Control}
    (hp : f.get? m.control = some p) (ho : f.get? m.matching = some o) {g : Control → Control}
    (hg : ∀ c, (g c).value = c.value) (hdrop : (g o).dropFlag m.key = o.dropFlag m.key) :
    (f.modify m.matching g).runCheck m = f.runCheck m := by
  -- the control compared against keeps its value, also when it is the flagged one
  obtain ⟨p', hp', hval⟩ : ∃ p', (f.modify m.matching g).get? m.control = some p' ∧
      p'.value = p.value := by
    rw [get?_modify]
    split
    · next heq =>
      have hpo : p = o := by
        rw [heq, ho] at hp
        exact (Option.some.inj hp).symm
      subst hpo
      exact ⟨g p, by rw [ho]; rfl, hg p⟩
    · exact ⟨p, hp, rfl⟩
  have ho' : (f.modify m.matching g).get? m.matching = some (g o) := by
    simp [get?_modify, ho]
  rw [runCheck_eq_of_dropFlag hp' ho' hdrop, runCheck_eq_of_dropFlag hp ho rfl, hval, hg,
    modify_modify, modify_modify]
  rfl

section UpToDate

variable {f : Form κ} {m : FieldMatch}
  (hcur : ∀ o, f.get? m.matching = some o → o.Current ∧ ∀ v ∈ o.validators, v.Ignores m.key)
include hcur

/-- **A second check repeats the first.** On a form whose flagged control is up to date and
has validators that do not look at the key, the second run of a check gives the same report
and the same form as the first. -/
theorem runCheck_runCheck : (f.runCheck m).1.runCheck m = f.runCheck m := by
  rcases hp : f.get? m.control with _ | p
  · rw [runCheck_of_missing (.inl hp)]
    exact runCheck_of_missing (.inl hp)
  rcases ho : f.get? m.matching with _ | o
  · rw [runCheck_of_missing (.inr ho)]
    exact runCheck_of_missing (.inr ho)
  -- after the first run the flagged control is unflagged, so taking the flag off undoes the run
  obtain ⟨hcurrent, hign⟩ := hcur o ho
  have hun := hcurrent.unflagged_dropFlag hign
  have hign' : ∀ v ∈ (o.dropFlag m.key).validators, v.Ignores m.key := by
    rwa [Control.dropFlag_validators]
  have hfst := congrArg Prod.fst (runCheck_eq hp ho)
  split at hfst
  · rw [hfst, runCheck_modify_of_dropFlag hp ho (·.dropFlag_value m.key) (hun.dropFlag_eq hign')]
  · rw [hfst, runCheck_modify_of_dropFlag (g := fun c => (c.dropFlag m.key).setError m.key (.bool true))
      hp ho (·.dropFlag_value m.key) (hun.dropFlag_setError hign' _)]

/-- The flagged control stays up to date through a check exactly unless the values differ
and its validators report the key with metadata other than `true`. -/
theorem upToDate_after_runCheck_iff :
    (∀ o', (f.runCheck m).1.get? m.matching = some o' → o'.revalidate = o') ↔
      ∀ o x, f.mismatch m = true → f.get? m.matching = some o → o.fresh.find? m.key = some x →
        x = .bool true := by
  rcases hp : f.get? m.control with _ | p
  · -- nothing changes, and nothing mismatches
    have hmis : f.mismatch m = false := by simp [mismatch, hp]
    rw [runCheck_of_missing (.inl hp), hmis]
    refine iff_of_true (fun o' ho' => ?_) (fun _ _ h => absurd h (by simp))
    exact Control.revalidate_eq_self (hcur o' ho').1
  rcases ho : f.get? m.matching with _ | o
  · rw [runCheck_of_missing (.inr ho), ho]
    exact iff_of_true (fun _ h => absurd h (by simp)) (fun _ _ _ h => absurd h (by simp))
  obtain ⟨hcurrent, hign⟩ := hcur o ho
  have hun := hcurrent.unflagged_dropFlag hign
  have hign' : ∀ v ∈ (o.dropFlag m.key).validators, v.Ignores m.key := by
    rwa [Control.dropFlag_validators]
  rw [get?_runCheck_matching hp ho, mismatch_eq hp ho]
  by_cases hsame : p.value.same o.value = true
  · -- no flag is set: the control is left unflagged
    rw [if_pos hsame]
    refine iff_of_true (fun o' ho' => ?_) (fun _ _ hmis => absurd hmis (by simp [hsame]))
    cases ho'
    exact Control.revalidate_eq_self hun.current
  · -- the flag is set: up to date exactly when the validators agree with it
    have hmis : (!p.value.same o.value) = true := by simpa using hsame
    simp only [if_neg hsame, Option.some.injEq, forall_eq', hmis, true_implies]
    rw [hun.revalidate_setError_iff hign', hcurrent.fresh_dropFlag hign]
    constructor
    · rintro h _ x rfl hx
      exact h x hx
    · intro h x
      exact h o x rfl

end UpToDate

/-- **The check is idempotent.** On a form whose flagged control is up to date (a
revalidation would leave it as it is) and has validators that do not look at the key,
running the check twice gives the same report and the same form, values, errors and own keys
of every control, as running it once. The flagged control stays up to date through the
check, except exactly when the values differ and its own validators report the key with
metadata other than `true`. -/
theorem runCheck_idempotent (f : Form κ) (m : FieldMatch)
    (hcur : ∀ o, f.get? m.matching = some o →
      o.revalidate = o ∧ ∀ v ∈ o.validators, v.Ignores m.key) :
    (f.runCheck m).1.runCheck m = f.runCheck m ∧
      ((∀ o', (f.runCheck m).1.get? m.matching = some o' → o'.revalidate = o') ↔
        ∀ o x, f.mismatch m = true → f.get? m.matching = some o →
          o.fresh.find? m.key = some x → x = .bool true) := by
  have hcur' : ∀ o, f.get? m.matching = some o →
      o.Current ∧ ∀ v ∈ o.validators, v.Ignores m.key :=
    fun o ho => ⟨Control.revalidate_eq_self_iff.mp (hcur o ho).1, (hcur o ho).2⟩
  exact ⟨runCheck_runCheck hcur', upToDate_after_runCheck_iff hcur'⟩

/-- Two different values, the flagged control carrying its validator's `required` under the
field match's own key: the check repeats itself, and the control stays up to date because
`required` reports `true`. -/
def requiredClash : Form FieldMatch :=
  { controls := [("password", Control.create (.str "x") []),
      ("confirmPassword", (Control.create (.str "") [.required]).revalidate)],
    checks := [{ control := "password", matching := "confirmPassword", key := "required" }] }

/-- A control built from validators that read only the value and then revalidated is left
as it is by a further revalidation, and its validators look at no key. -/
theorem upToDate_revalidate_create {x : Json} {vs : List Validator}
    (h : ∀ v ∈ vs, v.ReadsValue) (key : String) :
    (Control.create x vs).revalidate.revalidate = (Control.create x vs).revalidate ∧
      ∀ v ∈ (Control.create x vs).revalidate.validators, v.Ignores key :=
  ⟨Control.revalidate_eq_self (Control.current_revalidate h), fun v hv => (h v hv).ignores key⟩

theorem runCheck_idempotent_requiredClash :
    let m : FieldMatch := ⟨"password", "confirmPassword", "required"⟩
    (∀ o, requiredClash.get? m.matching = some o →
        o.revalidate = o ∧ ∀ v ∈ o.validators, v.Ignores m.key) ∧
      (requiredClash.runCheck m).1.runCheck m = requiredClash.runCheck m ∧
      ((∀ o', (requiredClash.runCheck m).1.get? m.matching = some o' → o'.revalidate = o') ↔
        ∀ o x, requiredClash.mismatch m = true → requiredClash.get? m.matching = some o →
          o.fresh.find? m.key = some x → x = .bool true) := by
  have hcur : ∀ o, requiredClash.get? "confirmPassword" = some o →
      o.revalidate = o ∧ ∀ v ∈ o.validators, v.Ignores "required" := by
    intro o ho
    have hget : requiredClash.get? "confirmPassword" =
        some (Control.create (.str "") [.required]).revalidate := rfl
    rw [hget] at ho
    cases ho
    refine upToDate_revalidate_create (fun v hv => ?_) _
    rw [List.mem_singleton.mp hv]
    exact Validator.readsValue_ofValue _
  exact ⟨hcur, runCheck_idempotent requiredClash _ hcur⟩

/-- A form whose field match flags `b` under `minlength`, the key of `b`'s own validator. -/
def minLengthClash : Form FieldMatch :=
  { controls := [("a", Control.create (.str "abc") []),
      ("b", (Control.create (.str "ab") [.minLength 3]).revalidate)],
    checks := [{ control := "a", matching := "b", key := "minlength" }] }

/-- A check does not always keep the flagged control up to date: `b` is up to date, the check
writes `minlength: true` over its validator's `minlength` report, and revalidating `b` would
put that report back. -/
theorem runCheck_flags_validator_key :
    (∀ o, minLengthClash.get? "b" = some o →
        o.revalidate = o ∧ ∀ v ∈ o.validators, v.Ignores "minlength") ∧
      ∃ o', (minLengthClash.runCheck ⟨"a", "b", "minlength"⟩).1.get? "b" = some o' ∧
        o'.revalidate ≠ o' := by
  have hreads : ∀ v ∈ [Validator.minLength 3], v.ReadsValue := by
    intro v hv
    rw [List.mem_singleton.mp hv]
    exact Validator.readsValue_ofValue _
  have hb : ((Control.create (.str "ab") [.minLength 3]).revalidate).Current :=
    Control.current_revalidate hreads
  have hign : ∀ v ∈ ((Control.create (.str "ab") [.minLength 3]).revalidate).validators,
      v.Ignores "minlength" := fun v hv => (hreads v hv).ignores _
  have hign' : ∀ v ∈ (((Control.create (.str "ab") [.minLength 3]).revalidate).dropFlag
      "minlength").validators, v.Ignores "minlength" := fun v hv => (hreads v hv).ignores _
  have hget : minLengthClash.get? "b" = some (Control.create (.str "ab") [.minLength 3]).revalidate :=
    rfl
  refine ⟨fun o ho => ?_, _, get?_runCheck_matching (m := ⟨"a", "b", "minlength"⟩)
    (p := Control.create (.str "abc") []) rfl hget, ?_⟩
  · rw [hget] at ho
    cases ho
    exact upToDate_revalidate_create hreads _
  · -- the values differ, so the flag goes over the validator's report
    rw [if_neg (by decide), ne_eq, (hb.unflagged_dropFlag hign).revalidate_setError_iff hign',
      hb.fresh_dropFlag hign]
    intro h
    have hfresh : ((Control.create (.str "ab") [.minLength 3]).revalidate).fresh.find? "minlength" =
        some (Validator.lengthInfo 3 2) := rfl
    have hflag := h _ hfresh
    simp [Validator.lengthInfo] at hflag

end Form

end SwitchAdmin
