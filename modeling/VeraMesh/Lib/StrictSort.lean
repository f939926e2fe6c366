import Mathlib.Data.List.Forall2
import Mathlib.Data.List.Sort

/-!
# Sorting by a relation that is strict on a list

Insertion sort is determined by its result when the result is strictly ordered: then nothing has to
be known of the relation outside of the list, not even that it is transitive or total.

Pairwise facts carry over between lists that are related element by element.
-/

namespace List

variable {α : Type*} {r : α → α → Prop} [DecidableRel r]

/-- An element passes what it is not related to, and stops at the first that it is related to. -/
theorem orderedInsert_eq_append {x : α} {before after : List α} (hbefore : ∀ a ∈ before, ¬r x a)
    (hafter : ∀ a ∈ after, r x a) :
    (before ++ after).orderedInsert r x = before ++ x :: after := by
  induction before with
  | nil =>
    cases after with
    | nil => rfl
    | cons a after => exact orderedInsert_cons_of_le r after (hafter a mem_cons_self)
  | cons a before ih =>
    rw [forall_mem_cons] at hbefore
    rw [cons_append, orderedInsert, if_neg hbefore.1, ih hbefore.2, cons_append]

/-- A strictly ordered permutation of a list is what insertion sort makes of the list. -/
theorem insertionSort_eq_of_strict {l sorted : List α} (hperm : sorted.Perm l)
    (hsorted : sorted.Pairwise fun a b => r a b ∧ ¬r b a) : l.insertionSort r = sorted := by
  induction l generalizing sorted with
  | nil => rw [hperm.eq_nil, insertionSort_nil]
  | cons x l ih =>
    -- take `x` out of the result, and what is left is the result for `l`
    obtain ⟨before, after, rfl⟩ := append_of_mem (hperm.mem_iff.mpr mem_cons_self)
    have hrest : (before ++ after).Perm l := (perm_cons x).mp (perm_middle.symm.trans hperm)
    obtain ⟨hbefore, hafter, hacross⟩ := pairwise_append.mp hsorted
    obtain ⟨hx, hafter⟩ := pairwise_cons.mp hafter
    have hpair : (before ++ after).Pairwise fun a b => r a b ∧ ¬r b a :=
      pairwise_append.mpr ⟨hbefore, hafter, fun a ha b hb => hacross a ha b (mem_cons_of_mem x hb)⟩
    rw [insertionSort_cons, ih hrest hpair]
    exact orderedInsert_eq_append (fun a ha => (hacross a ha x mem_cons_self).2)
      fun a ha => (hx a ha).1

section Forall₂

variable {β : Type*} {R : α → β → Prop} {l : List α} {u : List β}

theorem Forall₂.forall_left {P : α → Prop} (h : Forall₂ R l u) (hP : ∀ a b, R a b → P a) :
    ∀ a ∈ l, P a := by
  induction h with
  | nil => exact fun a ha => absurd ha not_mem_nil
  | cons hab _ ih => exact forall_mem_cons.mpr ⟨hP _ _ hab, ih⟩

theorem Forall₂.exists_left (h : Forall₂ R l u) : ∀ b ∈ u, ∃ a ∈ l, R a b := by
  induction h with
  | nil => exact fun b hb => absurd hb not_mem_nil
  | cons hab _ ih =>
    refine forall_mem_cons.mpr ⟨⟨_, mem_cons_self, hab⟩, fun b hb => ?_⟩
    obtain ⟨a, ha, hab'⟩ := ih b hb
    exact ⟨a, mem_cons_of_mem _ ha, hab'⟩

/-- A pairwise fact about one list holds of the related one. -/
theorem Forall₂.pairwise {S : α → α → Prop} {T : β → β → Prop} (h : Forall₂ R l u)
    (hl : l.Pairwise S) (hST : ∀ {a a' b b'}, R a b → R a' b' → S a a' → T b b') :
    u.Pairwise T := by
  induction h with
  | nil => exact Pairwise.nil
  | @cons a b l u hab hrest ih =>
    obtain ⟨ha, hl⟩ := pairwise_cons.mp hl
    refine pairwise_cons.mpr ⟨fun b' hb' => ?_, ih hl⟩
    obtain ⟨a', ha', ha'b'⟩ := hrest.exists_left b' hb'
    exact hST hab ha'b' (ha a' ha')

end Forall₂

end List
