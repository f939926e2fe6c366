import Mathlib.Data.List.Sort
import VeraMesh.Python.Value

/-!
# Canonical JSON

The agent writes JSON with sorted member names, no white space and ASCII characters only, so the
text of a value is determined by the value with the members of every object sorted, and determines
it. `PyValue.sortKeys` is that value. It stands for the text wherever the agent stores a text or
takes its digest: reading the text back gives it again.
-/

namespace VeraMesh.Python

mutual

/-- Equality of values, member by member. -/
def PyValue.beq : PyValue → PyValue → Bool
  | .none, .none => true
  | .bool a, .bool b => a == b
  | .int a, .int b => a == b
  | .float a, .float b => a == b
  | .str a, .str b => a == b
  | .list l, .list m => beqList l m
  | .dict d, .dict e => beqMembers d e
  | _, _ => false

/-- Equality of lists of values. -/
def beqList : List PyValue → List PyValue → Bool
  | [], [] => true
  | v :: l, w :: m => v.beq w && beqList l m
  | _, _ => false

/-- Equality of lists of members. -/
def beqMembers : List (String × PyValue) → List (String × PyValue) → Bool
  | [], [] => true
  | (k, v) :: d, (k', w) :: e => k == k' && v.beq w && beqMembers d e
  | _, _ => false

end

mutual

theorem PyValue.beq_iff : ∀ v w : PyValue, v.beq w = true ↔ v = w
  | .none, w => by cases w <;> simp [PyValue.beq]
  | .bool a, w => by cases w <;> simp [PyValue.beq]
  | .int a, w => by cases w <;> simp [PyValue.beq]
  | .float a, w => by cases w <;> simp [PyValue.beq]
  | .str a, w => by cases w <;> simp [PyValue.beq]
  | .list l, w => by cases w <;> simp [PyValue.beq, beqList_iff l]
  | .dict d, w => by cases w <;> simp [PyValue.beq, beqMembers_iff d]

theorem beqList_iff : ∀ l m : List PyValue, beqList l m = true ↔ l = m
  | [], m => by cases m <;> simp [beqList]
  | v :: l, m => by cases m <;> simp [beqList, PyValue.beq_iff v, beqList_iff l]

theorem beqMembers_iff : ∀ d e : List (String × PyValue), beqMembers d e = true ↔ d = e
  | [], e => by cases e <;> simp [beqMembers]
  | (k, v) :: d, e => by
    cases e with
    | nil => simp [beqMembers]
    | cons member e =>
      obtain ⟨k', w⟩ := member
      simp [beqMembers, PyValue.beq_iff v, beqMembers_iff d]

end

instance : DecidableEq PyValue := fun v w => decidable_of_iff _ (v.beq_iff w)

mutual

/-- The value with the members of every object in the order of their names. -/
def PyValue.sortKeys : PyValue → PyValue
  | .list l => .list (sortKeysList l)
  | .dict d => .dict ((sortKeysMembers d).insertionSort fun a b => a.1 ≤ b.1)
  | v => v

/-- `PyValue.sortKeys` on each item. -/
def sortKeysList : List PyValue → List PyValue
  | [] => []
  | v :: l => v.sortKeys :: sortKeysList l

/-- `PyValue.sortKeys` on each member. -/
def sortKeysMembers : List (String × PyValue) → List (String × PyValue)
  | [] => []
  | (k, v) :: d => (k, v.sortKeys) :: sortKeysMembers d

end

/-- `json.dumps(d, sort_keys=True, separators=(",", ":"), ensure_ascii=True)`. -/
def dumpsSorted (d : Dict String PyValue) : PyValue := (PyValue.dict d.entries).sortKeys

theorem dumpsSorted_eq (d : Dict String PyValue) :
    dumpsSorted d = .dict ((sortKeysMembers d.entries).insertionSort fun a b => a.1 ≤ b.1) := by
  rw [dumpsSorted, PyValue.sortKeys]

theorem mem_sortKeysMembers {d : List (String × PyValue)} {k : String} {w : PyValue} :
    (k, w) ∈ sortKeysMembers d ↔ ∃ v, (k, v) ∈ d ∧ v.sortKeys = w := by
  induction d with
  | nil => simp [sortKeysMembers]
  | cons member d ih =>
    obtain ⟨k', v⟩ := member
    simp only [sortKeysMembers, List.mem_cons, Prod.mk.injEq, ih]
    constructor
    · rintro (⟨rfl, rfl⟩ | ⟨u, hu, rfl⟩)
      · exact ⟨v, Or.inl ⟨rfl, rfl⟩, rfl⟩
      · exact ⟨u, Or.inr hu, rfl⟩
    · rintro ⟨u, ⟨rfl, rfl⟩ | hu, rfl⟩
      · exact Or.inl ⟨rfl, rfl⟩
      · exact Or.inr ⟨u, hu, rfl⟩

theorem sortKeys_eq_str_iff {v : PyValue} {s : String} : v.sortKeys = .str s ↔ v = .str s := by
  cases v <;> simp [PyValue.sortKeys]

/-- Objects with one canonical text have the same string members. -/
theorem get?_str_of_dumpsSorted_eq {d e : Dict String PyValue} (h : dumpsSorted d = dumpsSorted e)
    {k s : String} (hget : d.get? k = some (.str s)) : e.get? k = some (.str s) := by
  rw [dumpsSorted_eq, dumpsSorted_eq, PyValue.dict.injEq] at h
  have hmem : (k, PyValue.str s) ∈ sortKeysMembers d.entries :=
    mem_sortKeysMembers.mpr ⟨_, Dict.get?_eq_some_iff.mp hget, sortKeys_eq_str_iff.mpr rfl⟩
  rw [← List.mem_insertionSort (fun a b => a.1 ≤ b.1), h, List.mem_insertionSort,
    mem_sortKeysMembers] at hmem
  obtain ⟨v, hv, hsort⟩ := hmem
  rw [sortKeys_eq_str_iff.mp hsort] at hv
  exact Dict.get?_eq_some_iff.mpr hv

end VeraMesh.Python
