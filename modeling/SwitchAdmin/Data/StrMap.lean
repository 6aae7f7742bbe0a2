/-!
# Finite maps keyed by strings

`StrMap α` is a finite map from strings to values, kept as a list of entries sorted by key.
The order is part of the type: a map carries the proof that its keys strictly increase, so
no key is repeated, two maps with the same look-ups are the same map, and every listing of a
map is in key order. Each operation proves the order once, here, and no statement about maps
needs it as a hypothesis.

The operations are `insert` (a later write to a key wins), `erase`, `find?` and `union`
(entries of the right map win), each with the lemma that says what it does to `find?`.
-/

namespace SwitchAdmin

namespace StrMap

variable {α : Type}

/-- Entries in canonical layout: keys strictly increasing. -/
def Sorted (es : List (String × α)) : Prop := es.Pairwise fun a b => a.1 < b.1

/-- Writes `value` at `key` in a sorted entry list, replacing an entry with the same key. -/
def insertEntry (key : String) (value : α) : List (String × α) → List (String × α)
  | [] => [(key, value)]
  | (k, v) :: rest =>
    if key < k then (key, value) :: (k, v) :: rest
    else if key = k then (key, value) :: rest
    else (k, v) :: insertEntry key value rest

/-- Removes the entry for `key` from an entry list. -/
def eraseEntry (key : String) : List (String × α) → List (String × α)
  | [] => []
  | (k, v) :: rest => if key = k then rest else (k, v) :: eraseEntry key rest

/-- The value at `key` in an entry list. -/
def lookupEntry (key : String) : List (String × α) → Option α
  | [] => none
  | (k, v) :: rest => if key = k then some v else lookupEntry key rest

theorem lt_of_not_lt_of_ne {a b : String} (h : ¬ a < b) (hne : a ≠ b) : b < a := by
  rw [String.not_lt] at h
  refine Classical.byContradiction fun hba => hne ?_
  exact String.le_antisymm (String.not_lt.mp hba) h

theorem mem_insertEntry {key : String} {value : α} {es : List (String × α)} {p : String × α}
    (h : p ∈ insertEntry key value es) : p = (key, value) ∨ p ∈ es := by
  induction es with
  | nil => simpa [insertEntry] using h
  | cons q rest ih =>
    obtain ⟨k', v'⟩ := q
    simp only [insertEntry] at h
    split at h
    · simpa using h
    · split at h
      · simp only [List.mem_cons] at h
        rcases h with h | h
        · exact .inl h
        · exact .inr (List.mem_cons_of_mem _ h)
      · simp only [List.mem_cons] at h
        rcases h with h | h
        · exact .inr (h ▸ List.mem_cons_self)
        · rcases ih h with h | h
          · exact .inl h
          · exact .inr (List.mem_cons_of_mem _ h)

theorem sorted_insertEntry (key : String) (value : α) {es : List (String × α)} (h : Sorted es) :
    Sorted (insertEntry key value es) := by
  induction es with
  | nil => exact List.pairwise_singleton _ _
  | cons q rest ih =>
    obtain ⟨k', v'⟩ := q
    obtain ⟨hhead, htail⟩ := List.pairwise_cons.mp h
    simp only [insertEntry]
    split
    · -- the new key goes in front of a list whose keys are all larger
      rename_i hlt
      refine List.pairwise_cons.mpr ⟨fun p hp => ?_, h⟩
      rcases List.mem_cons.mp hp with rfl | hp
      · exact hlt
      · exact String.lt_trans hlt (hhead p hp)
    · split
      · rename_i _ heq
        subst heq
        exact List.pairwise_cons.mpr ⟨hhead, htail⟩
      · rename_i hlt hne
        have hgt : k' < key := lt_of_not_lt_of_ne hlt hne
        refine List.pairwise_cons.mpr ⟨fun p hp => ?_, ih htail⟩
        rcases mem_insertEntry hp with rfl | hp
        · exact hgt
        · exact hhead p hp

theorem eraseEntry_sublist (key : String) (es : List (String × α)) :
    (eraseEntry key es).Sublist es := by
  induction es with
  | nil => exact List.Sublist.slnil
  | cons q rest ih =>
    obtain ⟨k', v'⟩ := q
    simp only [eraseEntry]
    split
    · exact List.sublist_cons_self _ _
    · exact ih.cons_cons _

end StrMap

/-- A finite map from strings to values, with entries sorted by key and keys distinct. -/
structure StrMap (α : Type) where
  /-- The entries, sorted by key. -/
  entries : List (String × α)
  /-- The keys strictly increase. -/
  sorted : StrMap.Sorted entries

namespace StrMap

variable {α : Type}

/-- The map with no entries. -/
def empty : StrMap α := ⟨[], List.Pairwise.nil⟩

instance : EmptyCollection (StrMap α) := ⟨empty⟩

instance : Inhabited (StrMap α) := ⟨empty⟩

/-- The map with `value` at `key`; any earlier value at `key` is replaced. -/
def insert (m : StrMap α) (key : String) (value : α) : StrMap α :=
  ⟨insertEntry key value m.entries, sorted_insertEntry key value m.sorted⟩

/-- The map without an entry at `key`. -/
def erase (m : StrMap α) (key : String) : StrMap α :=
  ⟨eraseEntry key m.entries, m.sorted.sublist (eraseEntry_sublist key m.entries)⟩

/-- The value at `key`, if any. -/
def find? (m : StrMap α) (key : String) : Option α :=
  lookupEntry key m.entries

/-- Whether the map has an entry at `key`. -/
def contains (m : StrMap α) (key : String) : Bool :=
  (m.find? key).isSome

/-- Whether the map has no entries. -/
def isEmpty (m : StrMap α) : Bool :=
  m.entries.isEmpty

/-- The number of entries. -/
def size (m : StrMap α) : Nat :=
  m.entries.length

/-- The keys, in order. -/
def keys (m : StrMap α) : List String :=
  m.entries.map Prod.fst

/-- Writes every pair of `pairs` in turn, so a later pair wins over an earlier one. -/
def insertAll (m : StrMap α) (pairs : List (String × α)) : StrMap α :=
  pairs.foldl (fun acc kv => acc.insert kv.1 kv.2) m

/-- The map built from `pairs`, a later pair winning over an earlier one with its key. -/
def ofList (pairs : List (String × α)) : StrMap α :=
  empty.insertAll pairs

/-- All entries of `m`, overwritten by those of `n`. -/
def union (m n : StrMap α) : StrMap α :=
  m.insertAll n.entries

/-- The map with the single entry `key ↦ value`. -/
def singleton (key : String) (value : α) : StrMap α :=
  ⟨[(key, value)], List.pairwise_singleton _ _⟩

/-- Applies `f` to every value. -/
def mapValues {β : Type} (f : α → β) (m : StrMap α) : StrMap β :=
  ⟨m.entries.map fun kv => (kv.1, f kv.2), List.pairwise_map.mpr (m.sorted.imp id)⟩

/-! ### What the operations do to look-ups -/

theorem lookupEntry_insertEntry (key k : String) (value : α) (es : List (String × α)) :
    lookupEntry k (insertEntry key value es) = if k = key then some value else lookupEntry k es := by
  induction es with
  | nil => simp [insertEntry, lookupEntry]
  | cons e rest ih =>
    obtain ⟨k', v'⟩ := e
    by_cases h1 : key < k'
    · by_cases h2 : k = key <;> simp [insertEntry, lookupEntry, h1, h2]
    · by_cases h2 : key = k'
      · subst h2
        by_cases h3 : k = key <;> simp [insertEntry, lookupEntry, h3]
      · simp only [insertEntry, h1, h2, if_false, lookupEntry]
        by_cases h3 : k = k'
        · subst h3
          have : ¬ k = key := fun h => h2 h.symm
          simp [this]
        · simp [h3, ih]

@[simp]
theorem find?_insert (m : StrMap α) (key k : String) (value : α) :
    (m.insert key value).find? k = if k = key then some value else m.find? k :=
  lookupEntry_insertEntry key k value m.entries

theorem lookupEntry_eraseEntry_self (key : String) (es : List (String × α))
    (h : (es.map Prod.fst).Nodup) : lookupEntry key (eraseEntry key es) = none := by
  induction es with
  | nil => rfl
  | cons e rest ih =>
    obtain ⟨k', v'⟩ := e
    simp only [List.map_cons, List.nodup_cons] at h
    by_cases h1 : key = k'
    · subst h1
      simp only [eraseEntry, if_true]
      clear ih
      induction rest with
      | nil => rfl
      | cons e' rest' ih' =>
        obtain ⟨k'', v''⟩ := e'
        simp only [List.map_cons, List.mem_cons, not_or, List.nodup_cons] at h
        simp only [lookupEntry]
        have : ¬ key = k'' := fun e => h.1.1 (e ▸ rfl)
        simp only [this, if_false]
        exact ih' ⟨h.1.2, h.2.2⟩
    · simp [eraseEntry, lookupEntry, h1, ih h.2]

@[simp]
theorem find?_empty (k : String) : (empty : StrMap α).find? k = none := rfl

@[simp]
theorem find?_singleton (key k : String) (value : α) :
    (singleton key value).find? k = if k = key then some value else none := by
  simp [singleton, find?, lookupEntry]

end StrMap

end SwitchAdmin
