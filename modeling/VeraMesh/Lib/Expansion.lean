import Mathlib.Data.List.Infix
import Mathlib.Data.List.TakeDrop

/-!
# Matching in an expanded text

Every character of a text is replaced by a text of its own, and a needle is looked for in the result.
The position where it is found is one in the expanded text. When is it the position of the first
character of the original from which the expanded rest begins with the needle?

## Main results

* `firstMatch_iff_aligned`: if and only if no character before it expands, or, where the needle is
  found inside an expansion, the original has a match of its own at that position.
-/

namespace Expansion

variable {α β : Type} (f : α → List β) (needle : List β)

/-- The needle occurs in the text at `k`, and nowhere before. -/
def FirstAt (text : List β) (k : ℕ) : Prop :=
  needle <+: text.drop k ∧ ∀ j < k, ¬needle <+: text.drop j

/-- The expansion of the text from `j` on begins with the needle, and from no earlier character. -/
def FirstMatch (text : List α) (j : ℕ) : Prop :=
  j < text.length ∧ needle <+: (text.drop j).flatMap f ∧
    ∀ i < j, ¬needle <+: (text.drop i).flatMap f

/-- Where the needle is first found from the character `c` on, after the part `u` of its expansion:

* if it is found at the beginning of the expansion, no character before expands to several;
* if it is found inside, the text has a match at a later character, and there are as many characters
  before the first such as there are expanded ones before the place where the needle is found. -/
def Aligned (text : List α) : Prop :=
  ∀ before c after u v, text = before ++ c :: after → f c = u ++ v → v ≠ [] →
    FirstAt needle (text.flatMap f) ((before.flatMap f).length + u.length) →
      if u = [] then ∀ d ∈ before, (f d).length = 1
      else ∃ mid rest, after = mid ++ rest ∧ rest ≠ [] ∧ needle <+: rest.flatMap f ∧
        (∀ i < mid.length, ¬needle <+: (after.drop i).flatMap f) ∧
          before.length + 1 + mid.length = (before.flatMap f).length + u.length

variable {f needle} {text : List α} {k : ℕ}

theorem FirstAt.eq {text : List β} {k k' : ℕ} (h : FirstAt needle text k)
    (h' : FirstAt needle text k') : k = k' := by
  rcases lt_trichotomy k k' with hlt | heq | hgt
  · exact absurd h.1 (h'.2 k hlt)
  · exact heq
  · exact absurd h'.1 (h.2 k' hgt)

/-- The expansion of the rest of a text is the rest of its expansion. -/
theorem drop_flatMap (before after : List α) :
    ((before ++ after).flatMap f).drop (before.flatMap f).length = after.flatMap f := by
  rw [List.flatMap_append, List.drop_left]

/-- A match at a character is an occurrence in the expansion. -/
theorem not_match_of_firstAt (h : FirstAt needle (text.flatMap f) k) {i : ℕ}
    (hi : ((text.take i).flatMap f).length < k) : ¬needle <+: (text.drop i).flatMap f := by
  have hnone := h.2 _ hi
  rwa [← drop_flatMap (f := f) (text.take i), List.take_append_drop]

theorem length_le_flatMap (hf : ∀ a, f a ≠ []) (l : List α) : l.length ≤ (l.flatMap f).length := by
  induction l with
  | nil => exact Nat.zero_le _
  | cons a l ih =>
    have hpos := List.length_pos_iff.mpr (hf a)
    rw [List.flatMap_cons, List.length_append, List.length_cons]
    omega

/-- A text keeps its length if and only if each of its characters does. -/
theorem length_flatMap_eq_iff (hf : ∀ a, f a ≠ []) (l : List α) :
    (l.flatMap f).length = l.length ↔ ∀ a ∈ l, (f a).length = 1 := by
  induction l with
  | nil => simp
  | cons a l ih =>
    have hpos := List.length_pos_iff.mpr (hf a)
    have hle := length_le_flatMap hf l
    rw [List.flatMap_cons, List.length_append, List.length_cons, List.forall_mem_cons, ← ih]
    omega

theorem length_flatMap_take_le (text : List α) {i j : ℕ} (h : i ≤ j) :
    ((text.take i).flatMap f).length ≤ ((text.take j).flatMap f).length := by
  have hsplit : text.take j = text.take i ++ (text.take j).drop i := by
    conv_lhs => rw [← List.take_append_drop i (text.take j), List.take_take, Nat.min_eq_left h]
  rw [hsplit, List.flatMap_append, List.length_append]
  exact Nat.le_add_right _ _

/-- Every position of the expansion belongs to the expansion of a character. -/
theorem exists_split {k : ℕ} (h : k < (text.flatMap f).length) :
    ∃ before c after u v, text = before ++ c :: after ∧ f c = u ++ v ∧ v ≠ [] ∧
      k = (before.flatMap f).length + u.length := by
  induction text generalizing k with
  | nil => exact absurd h (Nat.not_lt_zero k)
  | cons a text ih =>
    rw [List.flatMap_cons, List.length_append] at h
    rcases lt_or_ge k (f a).length with hhere | hlater
    · refine ⟨[], a, text, (f a).take k, (f a).drop k, rfl, (List.take_append_drop k _).symm, ?_, ?_⟩
      · exact List.ne_nil_of_length_pos (by rw [List.length_drop]; omega)
      · rw [List.flatMap_nil, List.length_take]
        simp only [List.length_nil]
        omega
    · obtain ⟨before, c, after, u, v, rfl, hc, hv, hk⟩ := ih (k := k - (f a).length) (by omega)
      refine ⟨a :: before, c, after, u, v, rfl, hc, hv, ?_⟩
      rw [List.flatMap_cons, List.length_append]
      omega

section Split

variable {before after : List α} {c : α} {u : List β}

/-- Where the needle is found at the beginning of an expansion. -/
theorem firstMatch_iff_of_begins (hf : ∀ a, f a ≠ [])
    (h : FirstAt needle ((before ++ c :: after).flatMap f) (before.flatMap f).length) :
    FirstMatch f needle (before ++ c :: after) (before.flatMap f).length ↔
      ∀ d ∈ before, (f d).length = 1 := by
  have hle := length_le_flatMap hf before
  have hhere : needle <+: (c :: after).flatMap f := by
    rw [← drop_flatMap (f := f) before]
    exact h.1
  rw [← length_flatMap_eq_iff hf]
  constructor
  · rintro ⟨-, -, hnone⟩
    -- the character itself is a match, so the position is not behind it
    have hnot : ¬before.length < (before.flatMap f).length := fun hlt =>
      hnone before.length hlt (by rw [List.drop_left]; exact hhere)
    omega
  · intro hsame
    rw [hsame]
    refine ⟨by simp, by rw [List.drop_left]; exact hhere, fun i hi => ?_⟩
    apply not_match_of_firstAt h
    have hkeep : ∀ d ∈ before.take i, (f d).length = 1 := fun d hd =>
      (length_flatMap_eq_iff hf before).mp hsame d (List.mem_of_mem_take hd)
    have hlength := (length_flatMap_eq_iff hf (before.take i)).mpr hkeep
    rw [List.take_append_of_le_length hi.le, hlength, hsame, List.length_take]
    omega

/-- Where the needle is found inside an expansion. -/
theorem firstMatch_iff_of_inside (hf : ∀ a, f a ≠ []) (hu : u ≠ [])
    (h : FirstAt needle ((before ++ c :: after).flatMap f) ((before.flatMap f).length + u.length)) :
    FirstMatch f needle (before ++ c :: after) ((before.flatMap f).length + u.length) ↔
      ∃ mid rest, after = mid ++ rest ∧ rest ≠ [] ∧ needle <+: rest.flatMap f ∧
        (∀ i < mid.length, ¬needle <+: (after.drop i).flatMap f) ∧
          before.length + 1 + mid.length = (before.flatMap f).length + u.length := by
  have hle := length_le_flatMap hf before
  have hpos := List.length_pos_iff.mpr hu
  -- what follows the character
  have hafter : ∀ i, (before ++ c :: after).drop (before.length + 1 + i) = after.drop i := by
    intro i
    rw [show before.length + 1 + i = before.length + (i + 1) by omega, List.drop_append,
      List.drop_of_length_le (by omega), List.nil_append]
    simp
  constructor
  · rintro ⟨hlt, hmatch, hnone⟩
    obtain ⟨m, hm⟩ : ∃ m, (before.flatMap f).length + u.length = before.length + 1 + m :=
      ⟨(before.flatMap f).length + u.length - (before.length + 1), by omega⟩
    rw [hm] at hlt hmatch hnone
    rw [List.length_append, List.length_cons] at hlt
    have hlength : (after.take m).length = m := by
      rw [List.length_take]
      omega
    rw [hafter] at hmatch
    refine ⟨after.take m, after.drop m, (List.take_append_drop m after).symm, ?_, hmatch, ?_, ?_⟩
    · exact List.ne_nil_of_length_pos (by rw [List.length_drop]; omega)
    · intro i hi
      rw [hlength] at hi
      rw [← hafter i]
      exact hnone _ (by omega)
    · rw [hlength, hm]
  · rintro ⟨mid, rest, rfl, hrest, hmatch, hnone, hcount⟩
    rw [← hcount] at h ⊢
    refine ⟨?_, ?_, fun i hi => ?_⟩
    · have hlast := List.length_pos_iff.mpr hrest
      simp only [List.length_append, List.length_cons]
      omega
    · rw [hafter, List.drop_left]
      exact hmatch
    · rcases le_or_gt i before.length with hfront | hbehind
      · -- up to the character nothing is found before the inside of its expansion
        apply not_match_of_firstAt h
        have hshort : ((before ++ c :: (mid ++ rest)).take i).flatMap f =
            (before.take i).flatMap f := by
          rw [List.take_append_of_le_length hfront]
        have hfold := length_flatMap_take_le (f := f) before hfront
        rw [List.take_length] at hfold
        rw [hshort]
        omega
      · obtain ⟨m, rfl⟩ : ∃ m, i = before.length + 1 + m := ⟨i - (before.length + 1), by omega⟩
        rw [hafter]
        exact hnone m (by omega)

end Split

/-- **The position in the expansion is the position of the first match** if and only if the text is
aligned. -/
theorem firstMatch_iff_aligned (hf : ∀ a, f a ≠ []) (hneedle : needle ≠ []) :
    (∀ k, FirstAt needle (text.flatMap f) k → FirstMatch f needle text k) ↔
      Aligned f needle text := by
  constructor
  · intro h before c after u v htext hc hv hfirst
    have hmatch := h _ hfirst
    subst htext
    split_ifs with hu
    · subst hu
      exact (firstMatch_iff_of_begins hf hfirst).mp hmatch
    · exact (firstMatch_iff_of_inside hf hu hfirst).mp hmatch
  · intro h k hfirst
    have hlt : k < (text.flatMap f).length := by
      have hlength := hfirst.1.length_le
      have hpos := List.length_pos_iff.mpr hneedle
      rw [List.length_drop] at hlength
      omega
    obtain ⟨before, c, after, u, v, rfl, hc, hv, rfl⟩ := exists_split hlt
    have hcond := h before c after u v rfl hc hv hfirst
    split_ifs at hcond with hu
    · subst hu
      exact (firstMatch_iff_of_begins hf hfirst).mpr hcond
    · exact (firstMatch_iff_of_inside hf hu hfirst).mpr hcond

/-- A text whose characters do not expand is aligned. -/
theorem aligned_of_length_eq (hf : ∀ a ∈ text, (f a).length = 1) : Aligned f needle text := by
  rintro before c after u v rfl hc hv -
  have hone := hf c (by simp)
  rw [hc, List.length_append] at hone
  have hpos := List.length_pos_iff.mpr hv
  have hu : u = [] := List.eq_nil_of_length_eq_zero (by omega)
  rw [if_pos hu]
  exact fun d hd => hf d (by simp [hd])

end Expansion
