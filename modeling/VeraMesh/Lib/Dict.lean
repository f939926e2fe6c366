import Mathlib.Data.List.Nodup
import Mathlib.Data.List.Basic

/-!
# Insertion-ordered dictionaries

A dictionary with unique keys whose iteration order is the order of first insertion: assigning to
a present key replaces the value in place, assigning to an absent key appends. This is the
dictionary of Python 3.7 and later, and, read up to order, the map of Go.

`Dict.get?` is characterised after every operation (`get?_set_self`, `get?_set_ne`,
`get?_erase_self`, `get?_erase_ne`, `get?_filter`), and so is the number of entries.
-/

/-- An association list with pairwise distinct keys, oldest entry first. -/
structure Dict (κ α : Type*) where
  /-- The entries in iteration order. -/
  entries : List (κ × α)
  /-- No key occurs twice. -/
  nodup : (entries.map Prod.fst).Nodup

namespace Dict

variable {κ α : Type*}

@[ext]
theorem ext {d e : Dict κ α} (h : d.entries = e.entries) : d = e := by
  cases d; cases e; cases h; rfl

instance [DecidableEq κ] [DecidableEq α] : DecidableEq (Dict κ α) := fun d e =>
  decidable_of_iff (d.entries = e.entries) ⟨Dict.ext, fun h => h ▸ rfl⟩

/-- The dictionary without entries. -/
def empty : Dict κ α := ⟨[], List.nodup_nil⟩

instance : Inhabited (Dict κ α) := ⟨empty⟩

/-- The keys in iteration order. -/
def keys (d : Dict κ α) : List κ := d.entries.map Prod.fst

/-- The values in iteration order. -/
def values (d : Dict κ α) : List α := d.entries.map Prod.snd

/-- The number of entries. -/
def size (d : Dict κ α) : ℕ := d.entries.length

/-- Apply a function to all values. -/
def mapValues {β : Type*} (f : α → β) (d : Dict κ α) : Dict κ β where
  entries := d.entries.map fun e => (e.1, f e.2)
  nodup := by simpa only [List.map_map, Function.comp_def] using d.nodup

/-- Keep the entries that satisfy `p`. -/
def filter (p : κ → α → Bool) (d : Dict κ α) : Dict κ α where
  entries := d.entries.filter fun e => p e.1 e.2
  nodup := d.nodup.sublist ((List.filter_sublist).map Prod.fst)

theorem size_filter_le (p : κ → α → Bool) (d : Dict κ α) : (d.filter p).size ≤ d.size :=
  List.length_filter_le ..

section Lookup

variable [DecidableEq κ]

/-- The value stored at `k`, if any. -/
def get? (d : Dict κ α) (k : κ) : Option α := d.entries.lookup k

/-- Drop the entry at `k`, if any. -/
def erase (d : Dict κ α) (k : κ) : Dict κ α := d.filter fun k' _ => decide (k' ≠ k)

/-- `k` is a key of the dictionary. -/
def contains (d : Dict κ α) (k : κ) : Bool := (d.get? k).isSome

@[simp]
theorem get?_empty (k : κ) : (empty : Dict κ α).get? k = none := rfl

private theorem lookup_eq_some_iff {l : List (κ × α)} (h : (l.map Prod.fst).Nodup) (k : κ)
    (v : α) : l.lookup k = some v ↔ (k, v) ∈ l := by
  induction l with
  | nil => simp
  | cons e l ih =>
    obtain ⟨k', v'⟩ := e
    rw [List.map_cons, List.nodup_cons] at h
    by_cases hk : k = k'
    · subst hk
      have hnot : (k, v) ∉ l := fun hmem => h.1 (List.mem_map.mpr ⟨_, hmem, rfl⟩)
      simp [hnot, eq_comm]
    · have hbeq : (k == k') = false := by simpa using hk
      rw [List.lookup_cons, hbeq]
      simp [ih h.2, hk]

/-- A stored entry is what the lookup of its key returns. -/
theorem get?_eq_some_iff {d : Dict κ α} {k : κ} {v : α} :
    d.get? k = some v ↔ (k, v) ∈ d.entries :=
  lookup_eq_some_iff d.nodup k v

theorem get?_eq_none_iff {d : Dict κ α} {k : κ} : d.get? k = none ↔ k ∉ d.keys := by
  rw [Option.eq_none_iff_forall_ne_some]
  simp only [ne_eq, get?_eq_some_iff, keys, List.mem_map, Prod.exists, exists_and_right,
    exists_eq_right, not_exists]

theorem mem_values {d : Dict κ α} {v : α} : v ∈ d.values ↔ ∃ k, d.get? k = some v := by
  simp only [values, List.mem_map, Prod.exists, exists_eq_right, get?_eq_some_iff]

theorem mem_keys {d : Dict κ α} {k : κ} : k ∈ d.keys ↔ ∃ v, d.get? k = some v := by
  simp only [keys, List.mem_map, Prod.exists, exists_and_right, exists_eq_right, get?_eq_some_iff]

theorem contains_eq_true_iff {d : Dict κ α} {k : κ} :
    d.contains k = true ↔ ∃ v, d.get? k = some v :=
  Option.isSome_iff_exists

theorem contains_eq_false_iff {d : Dict κ α} {k : κ} :
    d.contains k = false ↔ d.get? k = none := by
  simp [contains]

@[simp]
theorem get?_mapValues {β : Type*} (f : α → β) (d : Dict κ α) (k : κ) :
    (d.mapValues f).get? k = (d.get? k).map f := by
  show (d.entries.map fun e => (e.1, f e.2)).lookup k = (d.entries.lookup k).map f
  induction d.entries with
  | nil => rfl
  | cons e l ih =>
    rw [List.map_cons, List.lookup_cons, List.lookup_cons, ih]
    cases k == e.1 <;> rfl

/-- Filtering keeps exactly the bindings that satisfy the predicate. -/
theorem get?_filter {d : Dict κ α} {p : κ → α → Bool} {k : κ} {v : α} :
    (d.filter p).get? k = some v ↔ d.get? k = some v ∧ p k v = true := by
  simp only [get?_eq_some_iff, filter, List.mem_filter]

@[simp]
theorem get?_erase_self (d : Dict κ α) (k : κ) : (d.erase k).get? k = none := by
  rw [Option.eq_none_iff_forall_ne_some]
  intro v hv
  simpa using (get?_filter.mp hv).2

theorem get?_erase_ne (d : Dict κ α) {k k' : κ} (h : k' ≠ k) :
    (d.erase k).get? k' = d.get? k' := by
  refine Option.ext fun v => ?_
  rw [erase, get?_filter]
  simp [h]

/-- Erasing removes the binding of one key. -/
theorem get?_erase (d : Dict κ α) (k k' : κ) :
    (d.erase k).get? k' = if k' = k then none else d.get? k' := by
  by_cases h : k' = k
  · rw [if_pos h, h, get?_erase_self]
  · rw [if_neg h, get?_erase_ne d h]

/-- The entries of `d` with the value at `k` replaced, order kept. -/
private def replaceEntries (k : κ) (v : α) (l : List (κ × α)) : List (κ × α) :=
  l.map fun e => if e.1 = k then (k, v) else e

private theorem keys_replaceEntries (k : κ) (v : α) (l : List (κ × α)) :
    (replaceEntries k v l).map Prod.fst = l.map Prod.fst := by
  rw [replaceEntries, List.map_map]
  refine List.map_congr_left fun e _ => ?_
  by_cases h : e.1 = k <;> simp [h]

/-- Assign `v` to `k`: in place if `k` is present, at the end otherwise. -/
def set (d : Dict κ α) (k : κ) (v : α) : Dict κ α :=
  if h : k ∈ d.keys then
    ⟨replaceEntries k v d.entries, by rw [keys_replaceEntries]; exact d.nodup⟩
  else
    ⟨d.entries ++ [(k, v)], by
      rw [List.map_append, List.map_singleton]
      exact d.nodup.append (List.nodup_singleton k) (by simpa [keys] using h)⟩

private theorem mem_set (d : Dict κ α) (k k' : κ) (v v' : α) :
    (k', v') ∈ (d.set k v).entries ↔
      (k' = k ∧ v' = v) ∨ (k' ≠ k ∧ (k', v') ∈ d.entries) := by
  unfold set
  split
  next h =>
    simp only [replaceEntries, List.mem_map, Prod.exists]
    constructor
    · rintro ⟨a, b, hab, heq⟩
      by_cases ha : a = k
      · rw [if_pos ha, Prod.mk.injEq] at heq
        exact Or.inl ⟨heq.1.symm, heq.2.symm⟩
      · rw [if_neg ha, Prod.mk.injEq] at heq
        obtain ⟨rfl, rfl⟩ := heq
        exact Or.inr ⟨ha, hab⟩
    · rintro (⟨rfl, rfl⟩ | ⟨hne, hmem⟩)
      · obtain ⟨b, hb⟩ := mem_keys.mp h
        exact ⟨_, b, get?_eq_some_iff.mp hb, if_pos rfl⟩
      · exact ⟨k', v', hmem, if_neg hne⟩
  next h =>
    have hfresh : ∀ b, (k, b) ∉ d.entries := fun b hb =>
      h (mem_keys.mpr ⟨b, get?_eq_some_iff.mpr hb⟩)
    simp only [List.mem_append, List.mem_singleton, Prod.mk.injEq]
    constructor
    · rintro (hmem | hnew)
      · refine Or.inr ⟨?_, hmem⟩
        rintro rfl
        exact hfresh _ hmem
      · exact Or.inl hnew
    · rintro (hnew | ⟨-, hmem⟩)
      · exact Or.inr hnew
      · exact Or.inl hmem

@[simp]
theorem get?_set_self (d : Dict κ α) (k : κ) (v : α) : (d.set k v).get? k = some v := by
  rw [get?_eq_some_iff, mem_set]
  exact Or.inl ⟨rfl, rfl⟩

theorem get?_set_ne (d : Dict κ α) {k k' : κ} (v : α) (h : k' ≠ k) :
    (d.set k v).get? k' = d.get? k' := by
  refine Option.ext fun v' => ?_
  rw [get?_eq_some_iff, mem_set, get?_eq_some_iff]
  simp [h]

/-- Assigning changes the binding of one key. -/
theorem get?_set (d : Dict κ α) (k k' : κ) (v : α) :
    (d.set k v).get? k' = if k' = k then some v else d.get? k' := by
  by_cases h : k' = k
  · rw [if_pos h, h, get?_set_self]
  · rw [if_neg h, get?_set_ne d v h]

/-- Assigning to a fresh key adds one entry. -/
theorem size_set_of_get?_eq_none {d : Dict κ α} {k : κ} (h : d.get? k = none) (v : α) :
    (d.set k v).size = d.size + 1 := by
  rw [set, dif_neg (get?_eq_none_iff.mp h)]
  simp [size]

/-- Assigning to a present key keeps the number of entries. -/
theorem size_set_of_get?_eq_some {d : Dict κ α} {k : κ} {w : α} (h : d.get? k = some w) (v : α) :
    (d.set k v).size = d.size := by
  rw [set, dif_pos (mem_keys.mpr ⟨w, h⟩)]
  simp [size, replaceEntries]

theorem size_erase_le (d : Dict κ α) (k : κ) : (d.erase k).size ≤ d.size :=
  size_filter_le ..

/-- The dictionary of a list of bindings, later bindings of a key overriding earlier ones. -/
def ofList (l : List (κ × α)) : Dict κ α := l.foldl (fun d e => d.set e.1 e.2) empty

/-- Assigning bindings of other keys keeps a binding. -/
theorem get?_foldl_set_of_forall_ne {l : List (κ × α)} {k : κ} (h : ∀ e ∈ l, e.1 ≠ k)
    (d : Dict κ α) : (l.foldl (fun d e => d.set e.1 e.2) d).get? k = d.get? k := by
  induction l generalizing d with
  | nil => rfl
  | cons e l ih =>
    rw [List.foldl_cons, ih fun e' he' => h e' (List.mem_cons_of_mem _ he'),
      get?_set_ne _ _ (h e List.mem_cons_self).symm]

theorem get?_ofList_eq_none {l : List (κ × α)} {k : κ} (h : ∀ e ∈ l, e.1 ≠ k) :
    (ofList l).get? k = none :=
  get?_foldl_set_of_forall_ne h empty

/-- Assign every binding of `e`, in order: Python's `{**d, **e}`. -/
def update (d e : Dict κ α) : Dict κ α := e.entries.foldl (fun d e => d.set e.1 e.2) d

private theorem get?_foldl_set (l : List (κ × α)) (h : (l.map Prod.fst).Nodup) (d : Dict κ α)
    (k : κ) :
    (l.foldl (fun d e => d.set e.1 e.2) d).get? k = ((l.lookup k).or (d.get? k)) := by
  induction l generalizing d with
  | nil => rfl
  | cons e l ih =>
    obtain ⟨k', v⟩ := e
    rw [List.map_cons, List.nodup_cons] at h
    rw [List.foldl_cons, ih h.2]
    by_cases hk : k = k'
    · subst hk
      have hnone : l.lookup k = none := by
        rw [Option.eq_none_iff_forall_ne_some]
        intro w hw
        exact h.1 (List.mem_map.mpr ⟨_, (lookup_eq_some_iff h.2 k w).mp hw, rfl⟩)
      simp [hnone]
    · have hbeq : (k == k') = false := by simpa using hk
      rw [List.lookup_cons, hbeq, get?_set_ne d v hk]

/-- After an update a key has its new binding, or its old one if there is no new one. -/
theorem get?_update (d e : Dict κ α) (k : κ) :
    (d.update e).get? k = (e.get? k).or (d.get? k) :=
  get?_foldl_set e.entries e.nodup d k

end Lookup

end Dict
