import SwitchAdmin.Data.StrMap

/-!
# Laws of string-keyed maps

The look-up laws that rest on the order a `StrMap` carries:

* `find?_erase`: erasing a key removes exactly that key;
* `find?_union`: a union looks in the right map first, then in the left;
* `eq_of_find?_eq`: two maps with the same look-ups are equal.

The other laws here (erasing several keys, writing one value under several keys, erasing a
key just written) are read off these.

So the look-ups say everything about a map, and an equation between maps can be proved key
by key.
-/

namespace SwitchAdmin

namespace StrMap

variable {α : Type}

/-! ### Entry lists -/

theorem lookupEntry_eq_none {k : String} {es : List (String × α)} (h : ∀ p ∈ es, p.1 ≠ k) :
    lookupEntry k es = none := by
  induction es with
  | nil => rfl
  | cons p rest ih =>
    obtain ⟨k', v'⟩ := p
    have hk : k ≠ k' := fun e => h (k', v') List.mem_cons_self e.symm
    simp only [lookupEntry, hk, if_false]
    exact ih fun q hq => h q (List.mem_cons_of_mem _ hq)

theorem mem_of_lookupEntry {k : String} {v : α} {es : List (String × α)}
    (h : lookupEntry k es = some v) : (k, v) ∈ es := by
  induction es with
  | nil => cases h
  | cons p rest ih =>
    obtain ⟨k', v'⟩ := p
    simp only [lookupEntry] at h
    split at h
    · rename_i hk
      cases h
      subst hk
      exact List.mem_cons_self
    · exact List.mem_cons_of_mem _ (ih h)

/-- In a sorted list, the key of the first entry does not occur again. -/
theorem lookupEntry_tail_of_sorted {k : String} {v : α} {rest : List (String × α)}
    (h : Sorted ((k, v) :: rest)) : lookupEntry k rest = none :=
  lookupEntry_eq_none fun p hp => (String.ne_of_lt ((List.pairwise_cons.mp h).1 p hp)).symm

theorem lookupEntry_eraseEntry_of_ne {key k : String} (es : List (String × α)) (h : k ≠ key) :
    lookupEntry k (eraseEntry key es) = lookupEntry k es := by
  induction es with
  | nil => rfl
  | cons q rest ih =>
    obtain ⟨k', v'⟩ := q
    simp only [eraseEntry]
    split
    · rename_i heq
      subst heq
      simp [lookupEntry, h]
    · simp only [lookupEntry, ih]

/-! ### Look-ups -/

theorem find?_erase (m : StrMap α) (key k : String) :
    (m.erase key).find? k = if k = key then none else m.find? k := by
  split
  · rename_i heq
    subst heq
    exact lookupEntry_eraseEntry_self k m.entries
      (List.Pairwise.imp String.ne_of_lt (List.pairwise_map.mpr m.sorted))
  · exact lookupEntry_eraseEntry_of_ne m.entries ‹_›

theorem find?_insertAll (m : StrMap α) {pairs : List (String × α)} (h : Sorted pairs) (k : String) :
    (m.insertAll pairs).find? k = (lookupEntry k pairs).or (m.find? k) := by
  induction pairs generalizing m with
  | nil => rfl
  | cons p rest ih =>
    obtain ⟨k', v'⟩ := p
    have hrest : Sorted rest := (List.pairwise_cons.mp h).2
    simp only [insertAll, List.foldl_cons] at ih ⊢
    rw [ih _ hrest, find?_insert]
    by_cases hk : k = k'
    · subst hk
      simp [lookupEntry, lookupEntry_tail_of_sorted h]
    · simp [lookupEntry, hk]

/-- A union looks in the right map first, then in the left. -/
theorem find?_union (m n : StrMap α) (k : String) :
    (m.union n).find? k = (n.find? k).or (m.find? k) :=
  find?_insertAll m n.sorted k

theorem isEmpty_iff (m : StrMap α) : m.isEmpty = true ↔ ∀ k, m.find? k = none := by
  obtain ⟨_ | ⟨⟨k', v'⟩, rest⟩, _⟩ := m
  · simp [isEmpty, find?, lookupEntry]
  · simp only [isEmpty, List.isEmpty_cons, Bool.false_eq_true, false_iff]
    intro h
    simpa [find?, lookupEntry] using h k'

/-- Two maps with the same look-ups are equal. -/
theorem eq_of_find?_eq {m n : StrMap α} (h : ∀ k, m.find? k = n.find? k) : m = n := by
  obtain ⟨es, hm⟩ := m
  obtain ⟨fs, hn⟩ := n
  simp only [find?] at h
  congr
  induction es generalizing fs with
  | nil =>
    cases fs with
    | nil => rfl
    | cons q rest =>
      have := h q.1
      simp [lookupEntry] at this
  | cons p ps ih =>
    obtain ⟨k, v⟩ := p
    cases fs with
    | nil =>
      have := h k
      simp [lookupEntry] at this
    | cons q rest =>
      obtain ⟨k', v'⟩ := q
      -- the smallest keys agree: each list's head key is found in the other
      have hkey : k = k' := by
        refine Classical.byContradiction fun hne => ?_
        have h1 : (k', v') ∈ ps := by
          have := h k'
          simp only [lookupEntry, Ne.symm hne, if_false] at this
          exact mem_of_lookupEntry this
        have h2 : (k, v) ∈ rest := by
          have := h k
          simp only [lookupEntry, hne, if_false] at this
          exact mem_of_lookupEntry this.symm
        exact String.lt_asymm ((List.pairwise_cons.mp hm).1 _ h1) ((List.pairwise_cons.mp hn).1 _ h2)
      subst hkey
      have hval : v = v' := by simpa [lookupEntry] using h k
      subst hval
      have htails : ∀ j, lookupEntry j ps = lookupEntry j rest := by
        intro j
        by_cases hj : j = k
        · subst hj
          rw [lookupEntry_tail_of_sorted hm, lookupEntry_tail_of_sorted hn]
        · simpa [lookupEntry, hj] using h j
      rw [ih (List.pairwise_cons.mp hm).2 _ (List.pairwise_cons.mp hn).2 htails]

theorem mem_keys_iff (m : StrMap α) (k : String) : k ∈ m.keys ↔ m.find? k ≠ none := by
  obtain ⟨es, hs⟩ := m
  simp only [keys, find?]
  clear hs
  induction es with
  | nil => simp [lookupEntry]
  | cons p rest ih =>
    obtain ⟨k', v'⟩ := p
    by_cases hk : k = k'
    · subst hk
      simp [lookupEntry]
    · simp [lookupEntry, hk, ih]

/-- Erasing keys one after another removes exactly those keys. -/
theorem find?_foldl_erase (m : StrMap α) (ks : List String) (k : String) :
    (ks.foldl StrMap.erase m).find? k = if k ∈ ks then none else m.find? k := by
  induction ks generalizing m with
  | nil => simp
  | cons k' ks ih =>
    rw [List.foldl_cons, ih, find?_erase]
    by_cases hk : k = k' <;> simp [hk]

theorem insertAll_cons (m : StrMap α) (p : String × α) (ps : List (String × α)) :
    m.insertAll (p :: ps) = (m.insert p.1 p.2).insertAll ps := rfl

/-- Writing one value under the keys of a list: a key gets it exactly when some item names
it. -/
theorem find?_insertAll_const {β : Type} (m : StrMap α) (xs : List β) (key : β → String)
    (x : α) (k : String) :
    (m.insertAll (xs.map fun b => (key b, x))).find? k =
      if xs.any (fun b => key b == k) then some x else m.find? k := by
  induction xs generalizing m with
  | nil => simp [insertAll]
  | cons b bs ih =>
    rw [List.map_cons, insertAll_cons, ih, find?_insert]
    by_cases hk : key b = k
    · simp [hk]
    · simp [hk, Ne.symm hk]

/-- Erasing a key that is not there changes nothing. -/
theorem erase_of_find?_eq_none {m : StrMap α} {k : String} (h : m.find? k = none) :
    m.erase k = m :=
  eq_of_find?_eq fun k' => by
    rw [find?_erase]
    split
    · next heq => rw [heq, h]
    · rfl

/-- Writing a key and then erasing it is erasing it. -/
theorem erase_insert_self (m : StrMap α) (k : String) (v : α) :
    (m.insert k v).erase k = m.erase k :=
  eq_of_find?_eq fun k' => by
    rw [find?_erase, find?_erase, find?_insert]
    by_cases hk : k' = k <;> simp [hk]

/-- Writing the value a key already holds changes nothing. -/
theorem insert_of_find?_eq {m : StrMap α} {k : String} {v : α} (hv : m.find? k = some v) :
    m.insert k v = m :=
  eq_of_find?_eq fun k' => by
    rw [find?_insert]
    split
    · next heq => rw [heq, hv]
    · rfl

end StrMap

end SwitchAdmin
