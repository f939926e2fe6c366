import VeraMesh.Lib.Delimited

/-!
# Prefix codes

An encoding of values as lists is a prefix code if a code shows where it ends, whatever follows it.
Then values written one after another can be told apart again (`IsPrefixCode.zipWith_flatten`).

A delimiter that does not occur in the code makes a prefix code (`IsPrefixCode.delimited`), and so
does the size of the code put in front of it (`IsPrefixCode.sized`).
-/

variable {α β γ : Type*}

/-- A code, followed by anything, can be decoded in one way only. -/
def IsPrefixCode (enc : α → List β) : Prop :=
  ∀ ⦃a b x y⦄, enc a ++ x = enc b ++ y → a = b ∧ x = y

namespace IsPrefixCode

variable {enc : α → List β}

theorem injective (h : IsPrefixCode enc) : Function.Injective enc := by
  intro a b hab
  have happ : enc a ++ [] = enc b ++ [] := by rw [hab]
  exact (h happ).1

/-- Fixed text around the code does no harm. -/
theorem affix (h : IsPrefixCode enc) (front back : List β) :
    IsPrefixCode fun a => front ++ enc a ++ back := by
  intro a b x y hab
  simp only [List.append_assoc, List.append_cancel_left_eq] at hab
  obtain ⟨rfl, hrest⟩ := h hab
  exact ⟨rfl, List.append_cancel_left hrest⟩

/-- A delimiter that no code contains shows where a code ends. -/
theorem delimited {f : α → List β} (hinj : Function.Injective f) {sep : β}
    (hsep : ∀ a, sep ∉ f a) : IsPrefixCode fun a => f a ++ [sep] := by
  intro a b x y hab
  have hcons : f a ++ sep :: x = f b ++ sep :: y := by simpa using hab
  obtain ⟨hf, rfl⟩ := eq_of_append_sep (hsep a) (hsep b) hcons
  exact ⟨hinj hf, rfl⟩

/-- The total size of the elements, written first, shows where a list ends. -/
theorem sized {header : ℕ → List β} (hheader : IsPrefixCode header) {size : β → ℕ}
    (hsize : ∀ b, 0 < size b) : IsPrefixCode fun l : List β => header ((l.map size).sum) ++ l := by
  -- two prefixes of one list that have the same size are equal
  have hkey : ∀ l m x y : List β, (l.map size).sum = (m.map size).sum → l ++ x = m ++ y → l = m := by
    intro l
    induction l with
    | nil =>
      intro m x y hsum _
      cases m with
      | nil => rfl
      | cons b m =>
        have hb := hsize b
        simp at hsum
        omega
    | cons c l ih =>
      intro m x y hsum happ
      cases m with
      | nil =>
        have hc := hsize c
        simp at hsum
        omega
      | cons b m =>
        obtain ⟨rfl, htail⟩ := List.cons.inj happ
        have hsum' : (l.map size).sum = (m.map size).sum := by simpa using hsum
        rw [ih m x y hsum' htail]
  intro a b x y hab
  simp only [List.append_assoc] at hab
  obtain ⟨hsum, happ⟩ := hheader hab
  obtain rfl := hkey a b x y hsum happ
  exact ⟨rfl, List.append_cancel_left happ⟩

/-- Values of prefix codes, one for each index, can be told apart when written in a row. -/
theorem zipWith_flatten {enc : γ → α → List β} (h : ∀ c, IsPrefixCode (enc c)) (cs : List γ)
    {l m : List α} (hl : l.length = cs.length) (hm : m.length = cs.length)
    (heq : (List.zipWith enc cs l).flatten = (List.zipWith enc cs m).flatten) : l = m := by
  induction cs generalizing l m with
  | nil => rw [List.length_eq_zero_iff.mp hl, List.length_eq_zero_iff.mp hm]
  | cons c cs ih =>
    obtain ⟨a, l, rfl⟩ := List.exists_cons_of_length_eq_add_one hl
    obtain ⟨b, m, rfl⟩ := List.exists_cons_of_length_eq_add_one hm
    simp only [List.zipWith_cons_cons, List.flatten_cons] at heq
    obtain ⟨rfl, htail⟩ := h c heq
    rw [ih (by simpa using hl) (by simpa using hm) htail]

end IsPrefixCode

/-- The decimal digits of a number name it. -/
theorem toDigits_injective : Function.Injective (Nat.toDigits 10) := by
  intro m n hmn
  have hm : Nat.ofDigitChars 10 (Nat.toDigits 10 m) 0 = m := Nat.ofDigitChars_ten_toDigits
  have hn : Nat.ofDigitChars 10 (Nat.toDigits 10 n) 0 = n := Nat.ofDigitChars_ten_toDigits
  rw [← hm, ← hn, hmn]

theorem not_mem_toDigits {c : Char} (hc : c.isDigit = false) (n : ℕ) : c ∉ Nat.toDigits 10 n := by
  intro hmem
  have hdigit : c.isDigit = true := Nat.isDigit_of_mem_toDigits (by decide) (by decide) hmem
  rw [hc] at hdigit
  cases hdigit

/-- Non-empty words without the separator can be read back from their joined text. -/
theorem intercalate_injective [DecidableEq α] {sep : α} {l m : List (List α)}
    (hl : ∀ a ∈ l, a ≠ [] ∧ sep ∉ a) (hm : ∀ a ∈ m, a ≠ [] ∧ sep ∉ a)
    (h : [sep].intercalate l = [sep].intercalate m) : l = m := by
  have hne : ∀ l : List (List α), l ≠ [] → (∀ a ∈ l, a ≠ [] ∧ sep ∉ a) →
      [sep].intercalate l ≠ [] := by
    intro l hl hwords hnil
    obtain ⟨a, l, rfl⟩ := List.exists_cons_of_ne_nil hl
    have ha := (hwords a List.mem_cons_self).1
    cases l <;> simp_all [List.intercalate]
  by_cases hl0 : l = []
  · by_contra hlm
    have hm0 : m ≠ [] := fun heq => hlm (hl0.trans heq.symm)
    refine hne m hm0 hm ?_
    rw [← h, hl0]
    rfl
  · by_cases hm0 : m = []
    · refine absurd ?_ (hne l hl0 hl)
      rw [h, hm0]
      rfl
    · rw [← List.splitOn_intercalate sep (fun a ha => (hl a ha).2) hl0,
        ← List.splitOn_intercalate sep (fun a ha => (hm a ha).2) hm0, h]
