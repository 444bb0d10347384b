/-
# LinkOwnership.OrderedMap -- a map that keeps the order of its keys

An `OrderedMap` lists its entries in the order in which their keys first came.
`insert` gives a key that is present a new value where it stands, and appends one that is
not: `get?_insert` says what is found afterwards, `keys_insert_of_mem` and `keys_insert_of_not_mem`
say where.  Two maps are `Same` when they find the same value for every key, whatever
their orders; `same` decides it (`same_iff`).
-/

namespace LinkOwnership

set_option autoImplicit false

/-- Entries with distinct keys, in order of arrival. -/
structure OrderedMap (κ υ : Type) where
  entries : List (κ × υ)
  distinct : (entries.map Prod.fst).Nodup

namespace OrderedMap

variable {κ υ : Type}

theorem ext {m₁ m₂ : OrderedMap κ υ} (h : m₁.entries = m₂.entries) : m₁ = m₂ := by
  cases m₁; cases m₂; cases h; rfl

instance [DecidableEq κ] [DecidableEq υ] : DecidableEq (OrderedMap κ υ) := fun m₁ m₂ =>
  decidable_of_iff (m₁.entries = m₂.entries) ⟨ext, fun h => h ▸ rfl⟩

def empty : OrderedMap κ υ := ⟨[], List.nodup_nil⟩

instance : EmptyCollection (OrderedMap κ υ) := ⟨empty⟩

instance : Inhabited (OrderedMap κ υ) := ⟨empty⟩

def keys (m : OrderedMap κ υ) : List κ := m.entries.map Prod.fst

def size (m : OrderedMap κ υ) : Nat := m.entries.length

variable [DecidableEq κ]

/-- The entries after `key` has been given `value`. -/
def insertEntry (key : κ) (value : υ) : List (κ × υ) → List (κ × υ)
  | [] => [(key, value)]
  | (k, v) :: rest => if k = key then (k, value) :: rest else (k, v) :: insertEntry key value rest

theorem keys_insertEntry (key : κ) (value : υ) (entries : List (κ × υ)) :
    (insertEntry key value entries).map Prod.fst =
      if key ∈ entries.map Prod.fst then entries.map Prod.fst
      else entries.map Prod.fst ++ [key] := by
  induction entries with
  | nil => rfl
  | cons entry rest ih =>
      obtain ⟨k, v⟩ := entry
      by_cases h : k = key
      · simp [insertEntry, h]
      · have h' : key ≠ k := fun e => h e.symm
        simp only [insertEntry, h, if_false, List.map_cons, ih, List.mem_cons, h', false_or]
        split <;> simp

theorem lookup_insertEntry (key : κ) (value : υ) (entries : List (κ × υ)) (k : κ) :
    (insertEntry key value entries).lookup k =
      if k = key then some value else entries.lookup k := by
  induction entries with
  | nil =>
      by_cases h : k = key
      · simp [insertEntry, h]
      · have apart : (k == key) = false := by simpa using h
        simp [insertEntry, List.lookup_cons, h, apart]
  | cons entry rest ih =>
      obtain ⟨k', v'⟩ := entry
      by_cases h : k' = key
      · subst h
        by_cases hk : k = k'
        · simp [insertEntry, hk]
        · have apart : (k == k') = false := by simpa using hk
          simp [insertEntry, List.lookup_cons, hk, apart]
      · by_cases hk : k = k'
        · subst hk; simp [insertEntry, h]
        · have apart : (k == k') = false := by simpa using hk
          simp [insertEntry, h, List.lookup_cons, apart, ih]

theorem nodup_insertEntry (key : κ) (value : υ) {entries : List (κ × υ)}
    (distinct : (entries.map Prod.fst).Nodup) :
    ((insertEntry key value entries).map Prod.fst).Nodup := by
  rw [keys_insertEntry]
  split
  · exact distinct
  · rename_i absent
    rw [List.nodup_append]
    refine ⟨distinct, by simp, ?_⟩
    intro a ha b hb
    rw [List.mem_singleton] at hb
    subst hb
    exact fun e => absent (e ▸ ha)

/-- Give `key` the value `value`, where it stands or at the end. -/
def insert (m : OrderedMap κ υ) (key : κ) (value : υ) : OrderedMap κ υ :=
  ⟨insertEntry key value m.entries, nodup_insertEntry key value m.distinct⟩

def get? (m : OrderedMap κ υ) (key : κ) : Option υ := m.entries.lookup key

def contains (m : OrderedMap κ υ) (key : κ) : Bool := (m.get? key).isSome

/-- Entries inserted one after the other: a key keeps its first place and takes its last value. -/
def ofList (entries : List (κ × υ)) : OrderedMap κ υ :=
  entries.foldl (fun m entry => m.insert entry.1 entry.2) empty

theorem get?_insert (m : OrderedMap κ υ) (key : κ) (value : υ) (k : κ) :
    (m.insert key value).get? k = if k = key then some value else m.get? k :=
  lookup_insertEntry key value m.entries k

theorem keys_insert_of_mem {m : OrderedMap κ υ} {key : κ} (value : υ) (h : key ∈ m.keys) :
    (m.insert key value).keys = m.keys := by
  simp only [keys, insert, keys_insertEntry]
  exact if_pos h

theorem keys_insert_of_not_mem {m : OrderedMap κ υ} {key : κ} (value : υ) (h : key ∉ m.keys) :
    (m.insert key value).keys = m.keys ++ [key] := by
  simp only [keys, insert, keys_insertEntry]
  exact if_neg h

/-- Each finds what the other finds. -/
def Same (m₁ m₂ : OrderedMap κ υ) : Prop := ∀ k, m₁.get? k = m₂.get? k

/-- Whether two maps find the same values: no key of either has another value in the other. -/
def same [DecidableEq υ] (m₁ m₂ : OrderedMap κ υ) : Bool :=
  m₁.keys.all (fun k => m₁.get? k = m₂.get? k) && m₂.keys.all (fun k => m₁.get? k = m₂.get? k)

theorem get?_eq_none_of_not_mem {m : OrderedMap κ υ} {k : κ} (h : k ∉ m.keys) :
    m.get? k = none := by
  rw [get?, List.lookup_eq_none_iff]
  intro entry hentry
  have : entry.1 ∈ m.keys := List.mem_map_of_mem hentry
  simpa using fun e : k = entry.1 => h (e ▸ this)

theorem same_iff [DecidableEq υ] (m₁ m₂ : OrderedMap κ υ) : m₁.same m₂ = true ↔ m₁.Same m₂ := by
  simp only [same, Bool.and_eq_true, List.all_eq_true, decide_eq_true_eq]
  constructor
  · rintro ⟨left, right⟩ k
    by_cases h₁ : k ∈ m₁.keys
    · exact left k h₁
    · by_cases h₂ : k ∈ m₂.keys
      · exact right k h₂
      · rw [get?_eq_none_of_not_mem h₁, get?_eq_none_of_not_mem h₂]
  · exact fun h => ⟨fun k _ => h k, fun k _ => h k⟩

end OrderedMap

end LinkOwnership
