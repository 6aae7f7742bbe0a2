import SwitchAdmin.Proofs.FieldMatch

/-!
# Revalidation and errors written from outside

A control's errors come from two sides: its validators, and writes from outside (`setError`,
`mergeErrors`: a group's field match, feedback from a server). A revalidation removes the keys
its validators produced at their previous run (`ownKeys`) and writes what they produce now.
`clearError` also takes its key out of `ownKeys`; the writes from outside do not.

So the validators own a key from the run that produced it until the key is cleared, and a
write from outside does not take it over. Take a control after its previous run and any
operations up to the next run (`Control.run`, with no revalidation among them):

* a key the previous run produced and that no `clearError` removed since is replaced as a
  whole by the next run: it is there exactly when the validators produce it again, with their
  metadata, even if it was written from outside in between (`revalidate_replaces_own_key`);
* any other key written from outside and not cleared since is still there after the next run,
  with the metadata written, unless the validators now produce it, when it takes theirs
  (`revalidate_keeps_outside_write`).

`revalidate_outside_errors` states both. The first case loses a write from outside:
`revalidate_drops_server_required` is the control of a required field that reported `required`
at its previous run, got `required` from a server, and then a value; the next run drops the
server's error.

Both rest on one fact per operation: what it does to the validators' keys
(`mem_ownKeys_apply`) and to the error under a key it does not touch
(`find?_apply_of_not_touches`).
-/

namespace SwitchAdmin

namespace Control

/-! ### Operations on a control -/

/-- One operation on a form control. -/
inductive Op where
  /-- Replaces the value without revalidating. -/
  | setValue (v : Json)
  /-- Writes one error from outside. -/
  | setError (key : String) (info : Json)
  /-- Writes the errors of a map from outside. -/
  | mergeErrors (found : Errors)
  /-- Removes one error, also from the validators' own keys. -/
  | clearError (key : String)
  /-- Runs the validators again. -/
  | revalidate

/-- Applies one operation. -/
def apply (c : Control) : Op → Control
  | .setValue v => c.setValue v
  | .setError key info => c.setError key info
  | .mergeErrors found => c.mergeErrors found
  | .clearError key => c.clearError key
  | .revalidate => c.revalidate

/-- Applies operations in turn. -/
def run (c : Control) (ops : List Op) : Control := ops.foldl apply c

@[simp]
theorem run_nil (c : Control) : c.run [] = c := rfl

@[simp]
theorem run_cons (c : Control) (op : Op) (ops : List Op) :
    c.run (op :: ops) = (c.apply op).run ops := rfl

theorem run_append (c : Control) (ops ops' : List Op) :
    c.run (ops ++ ops') = (c.run ops).run ops' := List.foldl_append

namespace Op

/-- `op.Writes k v`: the operation writes `k ↦ v` from outside. -/
def Writes (k : String) (v : Json) : Op → Prop
  | .setError key info => key = k ∧ info = v
  | .mergeErrors found => found.find? k = some v
  | _ => False

/-- `op.Touches k`: the operation may change the error under `k` or who owns it. -/
def Touches (k : String) : Op → Prop
  | .setValue _ => False
  | .setError key _ => key = k
  | .mergeErrors found => found.find? k ≠ none
  | .clearError key => key = k
  | .revalidate => True

theorem Writes.ne_revalidate {w : Op} {k : String} {v : Json} (hw : w.Writes k v) :
    w ≠ .revalidate := by
  rintro rfl
  exact hw.elim

theorem ne_revalidate_of_not_touches {op : Op} {k : String} (h : ¬ op.Touches k) :
    op ≠ .revalidate := by
  rintro rfl
  exact h trivial

end Op

/-! ### One operation at a time -/

/-- Between two runs, the validators keep a key until it is cleared. -/
theorem mem_ownKeys_apply {c : Control} {op : Op}
    (hop : op ≠ .revalidate) (k : String) :
    k ∈ (c.apply op).ownKeys ↔ k ∈ c.ownKeys ∧ op ≠ .clearError k := by
  cases op with
  | setValue v => simp [apply, Control.setValue]
  | setError key info => simp [apply, Control.setError]
  | mergeErrors found => simp [apply, Control.mergeErrors]
  | clearError key =>
    simp only [apply, Control.clearError, List.mem_filter, bne_iff_ne, ne_eq, Op.clearError.injEq]
    exact and_congr_right fun _ => not_congr eq_comm
  | revalidate => exact absurd rfl hop

/-- An operation that does not touch `k` leaves the error under `k` as it was. -/
theorem find?_apply_of_not_touches {c : Control} {op : Op} {k : String}
    (h : ¬ op.Touches k) : (c.apply op).errors.find? k = c.errors.find? k := by
  cases op with
  | setValue v => rfl
  | setError key info =>
    have hne : k ≠ key := fun e => h e.symm
    simp [apply, Control.setError, hne]
  | mergeErrors found =>
    have hnone : found.find? k = none := Classical.not_not.mp h
    simp only [apply, Control.mergeErrors]
    rw [StrMap.find?_union, hnone, Option.none_or]
  | clearError key =>
    have hne : k ≠ key := fun e => h e.symm
    simp only [apply, Control.clearError]
    rw [StrMap.find?_erase, if_neg hne]
  | revalidate => exact absurd trivial h

/-- A write from outside leaves what it wrote. -/
theorem find?_apply_of_writes {c : Control} {w : Op} {k : String} {v : Json}
    (hw : w.Writes k v) : (c.apply w).errors.find? k = some v := by
  cases w with
  | setError key info =>
    obtain ⟨rfl, rfl⟩ := hw
    simp [apply, Control.setError]
  | mergeErrors found =>
    simp only [apply, Control.mergeErrors]
    rw [StrMap.find?_union, hw, Option.some_or]
  | setValue _ | clearError _ | revalidate => exact hw.elim

/-! ### Runs between two revalidations -/

/-- The validators' keys after operations without a revalidation: those of the previous run
that no operation cleared. -/
theorem mem_ownKeys_run {c : Control} {ops : List Op}
    (hops : ∀ op ∈ ops, op ≠ .revalidate) (k : String) :
    k ∈ (c.run ops).ownKeys ↔ k ∈ c.ownKeys ∧ Op.clearError k ∉ ops := by
  induction ops generalizing c with
  | nil => simp
  | cons op ops ih =>
    have hop := hops op List.mem_cons_self
    rw [run_cons, ih fun o ho => hops o (List.mem_cons_of_mem _ ho),
      mem_ownKeys_apply hop, List.mem_cons, not_or, and_assoc]
    exact and_congr_right fun _ => and_congr_left fun _ => ne_comm

/-- Operations that do not touch `k` leave the error under `k` as it was. -/
theorem find?_run_of_not_touches {c : Control} {ops : List Op} {k : String}
    (hops : ∀ op ∈ ops, ¬ op.Touches k) : (c.run ops).errors.find? k = c.errors.find? k := by
  induction ops generalizing c with
  | nil => rfl
  | cons op ops ih =>
    rw [run_cons, ih fun o ho => hops o (List.mem_cons_of_mem _ ho),
      find?_apply_of_not_touches (hops op List.mem_cons_self)]

/-! ### The next revalidation -/

/-- **The validators' keys are replaced as a whole.** A key of the previous run that no
operation since cleared is, after the next run, exactly what the validators now report
under it, whatever was written there from outside in between. -/
theorem revalidate_replaces_own_key {c : Control} {ops : List Op}
    (hops : ∀ op ∈ ops, op ≠ .revalidate) {k : String} (hk : k ∈ c.ownKeys)
    (hclear : Op.clearError k ∉ ops) :
    (c.run ops).revalidate.errors.find? k = (c.run ops).fresh.find? k := by
  rw [find?_revalidate, if_pos ((mem_ownKeys_run hops k).mpr ⟨hk, hclear⟩),
    Option.or_none]

/-- **Other writes from outside survive the next run.** A key written from outside and not
touched since, which the previous run did not produce or which was cleared before the write,
keeps what was written, unless the validators now report it, when it takes their report. -/
theorem revalidate_keeps_outside_write {c : Control} {before after : List Op} {w : Op} {k : String} {v : Json}
    (hbefore : ∀ op ∈ before, op ≠ .revalidate) (hw : w.Writes k v)
    (hafter : ∀ op ∈ after, ¬ op.Touches k) (hother : k ∉ c.ownKeys ∨ Op.clearError k ∈ before) :
    (c.run (before ++ w :: after)).revalidate.errors.find? k =
      ((c.run (before ++ w :: after)).fresh.find? k).or (some v) := by
  have hops : ∀ op ∈ before ++ w :: after, op ≠ .revalidate := by
    intro op hop
    rcases List.mem_append.mp hop with hop | hop
    · exact hbefore op hop
    · rcases List.mem_cons.mp hop with rfl | hop
      · exact hw.ne_revalidate
      · exact Op.ne_revalidate_of_not_touches (hafter op hop)
  -- the validators no longer own `k` when the next run starts
  have hown : k ∉ (c.run (before ++ w :: after)).ownKeys := by
    rw [mem_ownKeys_run hops k, not_and, Classical.not_not]
    intro hk
    exact List.mem_append_left _ (hother.resolve_left (not_not_intro hk))
  have hvalue : (c.run (before ++ w :: after)).errors.find? k = some v := by
    rw [run_append, run_cons, find?_run_of_not_touches hafter, find?_apply_of_writes hw]
  rw [find?_revalidate, if_neg hown, hvalue]

/-- Server feedback under a key of its own survives a revalidation that drops the required
error, as in the control of a required field that is filled in. -/
example : ((create (.str "") [.required]).revalidate.run
    [.setError "server" (.str "taken"), .setValue (.str "admin"), .revalidate]).errors.keys =
      ["server"] := by
  decide +kernel

/-- **Revalidation and errors written from outside.** For a control after its previous run and
operations up to the next run: a key the previous run produced and nothing cleared since is
exactly what the validators now report, and any other key written from outside and not
touched since keeps what was written unless the validators now report it. -/
theorem revalidate_outside_errors {c : Control} {ops : List Op}
    (hops : ∀ op ∈ ops, op ≠ .revalidate) (k : String) :
    (k ∈ c.ownKeys ∧ Op.clearError k ∉ ops →
      (c.run ops).revalidate.errors.find? k = (c.run ops).fresh.find? k) ∧
    (∀ before w after v, ops = before ++ w :: after → w.Writes k v →
      (∀ op ∈ after, ¬ op.Touches k) → (k ∉ c.ownKeys ∨ Op.clearError k ∈ before) →
      (c.run ops).revalidate.errors.find? k = ((c.run ops).fresh.find? k).or (some v)) := by
  refine ⟨fun hk => revalidate_replaces_own_key hops hk.1 hk.2, ?_⟩
  rintro before w after v rfl hw hafter hother
  exact revalidate_keeps_outside_write
    (fun op hop => hops op (List.mem_append_left _ hop)) hw hafter hother

/-- The control of a required field after its first run on an empty value. -/
def requiredField : Control := (create (.str "") [.required]).revalidate

/-- A server reports `required`, then the field is filled in. -/
def serverFeedback : List Op := [.setError "required" (.str "server"), .setValue (.str "admin")]

theorem revalidate_outside_errors_requiredField :
    (∀ op ∈ serverFeedback, op ≠ .revalidate) ∧
    ("required" ∈ requiredField.ownKeys ∧ Op.clearError "required" ∉ serverFeedback →
      (requiredField.run serverFeedback).revalidate.errors.find? "required" =
        (requiredField.run serverFeedback).fresh.find? "required") ∧
    (∀ before w after v, serverFeedback = before ++ w :: after → w.Writes "required" v →
      (∀ op ∈ after, ¬ op.Touches "required") →
      ("required" ∉ requiredField.ownKeys ∨ Op.clearError "required" ∈ before) →
      (requiredField.run serverFeedback).revalidate.errors.find? "required" =
        ((requiredField.run serverFeedback).fresh.find? "required").or (some v)) := by
  have hops : ∀ op ∈ serverFeedback, op ≠ .revalidate := by
    simp [serverFeedback]
  exact ⟨hops, revalidate_outside_errors hops "required"⟩

/-- **A write from outside lost.** The required field's previous run produced `required`; a
server then writes `required` and the field is filled in. The validators no longer report
`required`, and the next run drops the server's error with it. -/
theorem revalidate_drops_server_required :
    (requiredField.run serverFeedback).hasError "required" = true ∧
    (requiredField.run serverFeedback).fresh.contains "required" = false ∧
    (requiredField.run serverFeedback).revalidate.hasError "required" = false := by
  decide +kernel

end Control

end SwitchAdmin
