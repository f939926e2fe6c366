import Mathlib

/-!
# UTF-8 and order

An encoding keeps the order if the codes of two elements compare like the elements, whatever follows
them (`IsOrderCode`). Texts then compare like their codes, and sorting may be done on either side
(`IsOrderCode.map_insertionSort`). UTF-8 is such an encoding of characters: words compared byte by
byte are in the order of their code points.

## Main results

* `IsOrderCode.flatMap_lt_iff`, `IsOrderCode.flatMap_injective`: codes of lists.
* `isOrderCode_utf8EncodeChar`: UTF-8 keeps the order of code points.
* `map_insertionSort_utf8`: sorting by code points and sorting by bytes agree.
-/

variable {α β : Type*}

/-- Codes compare like what they stand for, whatever follows them. -/
def IsOrderCode [LT α] [LT β] (enc : α → List β) : Prop :=
  ∀ ⦃a b⦄, a < b → ∀ x y, enc a ++ x < enc b ++ y

namespace IsOrderCode

/-- The code of a smaller list is smaller. -/
theorem flatMap_lt [LT α] [LT β] {enc : α → List β} (h : IsOrderCode enc) (hne : ∀ a, enc a ≠ [])
    {l m : List α} (hlm : l < m) : l.flatMap enc < m.flatMap enc := by
  induction hlm with
  | @nil a l =>
    obtain ⟨b, bs, hb⟩ := List.exists_cons_of_ne_nil (hne a)
    rw [List.flatMap_nil, List.flatMap_cons, hb]
    exact List.Lex.nil
  | rel hab =>
    rw [List.flatMap_cons, List.flatMap_cons]
    exact h hab _ _
  | cons _ ih =>
    rw [List.flatMap_cons, List.flatMap_cons]
    exact List.append_left_lt ih

variable [LinearOrder α] [LT β] [Std.Asymm (α := β) (· < ·)] {enc : α → List β}

/-- Lists compare like their codes. -/
theorem flatMap_lt_iff (h : IsOrderCode enc) (hne : ∀ a, enc a ≠ []) {l m : List α} :
    l.flatMap enc < m.flatMap enc ↔ l < m := by
  constructor
  · intro hcodes
    rcases lt_trichotomy l m with hlt | rfl | hgt
    · exact hlt
    · exact absurd hcodes (List.lt_asymm hcodes)
    · exact absurd hcodes (List.lt_asymm (h.flatMap_lt hne hgt))
  · exact h.flatMap_lt hne

/-- A list can be read back from its code. -/
theorem flatMap_injective (h : IsOrderCode enc) (hne : ∀ a, enc a ≠ []) :
    Function.Injective fun l : List α => l.flatMap enc := by
  intro l m hlm
  dsimp only at hlm
  rcases lt_trichotomy l m with hlt | heq | hgt
  · have hcodes := h.flatMap_lt hne hlt
    rw [hlm] at hcodes
    exact absurd hcodes (List.lt_asymm hcodes)
  · exact heq
  · have hcodes := h.flatMap_lt hne hgt
    rw [hlm] at hcodes
    exact absurd hcodes (List.lt_asymm hcodes)

end IsOrderCode

/-! ## UTF-8 -/

/-- UTF-8 keeps the order of code points. -/
theorem isOrderCode_utf8EncodeChar : IsOrderCode String.utf8EncodeChar := by
  have hltByte : ∀ a b : ℕ, UInt8.ofNat a < UInt8.ofNat b ↔ a % 256 < b % 256 := fun a b => by
    rw [UInt8.lt_iff_toNat_lt, UInt8.toNat_ofNat', UInt8.toNat_ofNat']
  have heqByte : ∀ a b : ℕ, UInt8.ofNat a = UInt8.ofNat b ↔ a % 256 = b % 256 := fun a b => by
    rw [← UInt8.toNat_inj, UInt8.toNat_ofNat', UInt8.toNat_ofNat']
  intro c d hcd x y
  have hlt : c.val.toNat < d.val.toNat := hcd
  have hmax : d.val.toNat < 0x110000 := by
    rcases d.valid with hlow | ⟨-, hhigh⟩
    · exact lt_trans hlow (by decide)
    · exact hhigh
  simp only [String.utf8EncodeChar]
  generalize c.val.toNat = v at hlt
  generalize d.val.toNat = w at hlt hmax
  -- a longer code begins with a larger byte; codes of one length compare as numbers
  split_ifs <;> simp only [List.cons_append, List.nil_append, List.cons_lt_cons_iff, hltByte,
    heqByte]
  all_goals try omega
  by_cases hhead : v / 4096 = w / 4096
  · omega
  · have hsmaller : v / 4096 < w / 4096 := lt_of_le_of_ne (Nat.div_le_div_right hlt.le) hhead
    have hv : v / 262144 = v / 4096 / 64 := by rw [Nat.div_div_eq_div_mul]
    have hw : w / 262144 = w / 4096 / 64 := by rw [Nat.div_div_eq_div_mul]
    have hbound : w / 4096 < 512 := by omega
    rw [hv, hw]
    clear hv hw
    generalize v / 4096 = v' at *
    generalize w / 4096 = w' at *
    omega

/-- The bytes of a text. -/
def utf8 (text : List Char) : List UInt8 := text.flatMap String.utf8EncodeChar

theorem utf8_append (l m : List Char) : utf8 (l ++ m) = utf8 l ++ utf8 m := List.flatMap_append

theorem utf8_flatten (l : List (List Char)) : utf8 l.flatten = (l.map utf8).flatten := by
  induction l with
  | nil => rfl
  | cons a l ih => rw [List.flatten_cons, utf8_append, ih, List.map_cons, List.flatten_cons]

theorem utf8_intercalate (sep : List Char) (l : List (List Char)) :
    utf8 (sep.intercalate l) = (utf8 sep).intercalate (l.map utf8) := by
  have hmap : (l.intersperse sep).map utf8 = (l.map utf8).intersperse (utf8 sep) := by
    induction l with
    | nil => rfl
    | cons a l ih =>
      cases l with
      | nil => rfl
      | cons b l =>
        rw [List.intersperse_cons_cons, List.map_cons, List.map_cons, ih]
        rfl
  rw [List.intercalate, List.intercalate, utf8_flatten, hmap]

theorem utf8EncodeChar_ne_nil (c : Char) : String.utf8EncodeChar c ≠ [] := by
  apply List.ne_nil_of_length_pos
  rw [String.length_utf8EncodeChar]
  exact c.utf8Size_pos

theorem utf8_injective : Function.Injective utf8 :=
  isOrderCode_utf8EncodeChar.flatMap_injective utf8EncodeChar_ne_nil

/-- A byte below 128 in the code of a text is a character of the text. -/
theorem mem_of_mem_utf8 {c : Char} (hc : c.val.toNat < 128) {text : List Char}
    (h : UInt8.ofNat c.val.toNat ∈ utf8 text) : c ∈ text := by
  obtain ⟨d, hd, hmem⟩ := List.mem_flatMap.mp h
  have heqByte : ∀ a b : ℕ, UInt8.ofNat a = UInt8.ofNat b ↔ a % 256 = b % 256 := fun a b => by
    rw [← UInt8.toNat_inj, UInt8.toNat_ofNat', UInt8.toNat_ofNat']
  have hsame : c.val.toNat = d.val.toNat := by
    simp only [String.utf8EncodeChar] at hmem
    -- all bytes of a longer code are at least 128
    split_ifs at hmem <;>
      simp only [List.mem_cons, List.not_mem_nil, or_false, heqByte] at hmem <;> omega
  rwa [Char.ext (UInt32.toNat_inj.mp hsame)]

theorem length_utf8 (text : List Char) : (utf8 text).length = (text.map Char.utf8Size).sum := by
  rw [utf8, List.length_flatMap]
  simp only [String.length_utf8EncodeChar]

theorem utf8_toList_inj {s t : String} : utf8 s.toList = utf8 t.toList ↔ s = t :=
  utf8_injective.eq_iff.trans String.toList_inj

/-- Strings compare like their bytes. -/
theorem utf8_toList_le_iff {s t : String} : utf8 s.toList ≤ utf8 t.toList ↔ s ≤ t := by
  rw [← List.not_lt, ← String.not_lt, String.lt_iff_toList_lt]
  exact not_congr (isOrderCode_utf8EncodeChar.flatMap_lt_iff utf8EncodeChar_ne_nil)

/-- Sorting strings by code points is sorting them by bytes. -/
theorem map_insertionSort_utf8 (l : List String) :
    (l.insertionSort (· ≤ ·)).map (fun s => utf8 s.toList) =
      (l.map fun s => utf8 s.toList).insertionSort (· ≤ ·) :=
  List.map_insertionSort _ _ _ l fun _ _ _ _ => utf8_toList_le_iff.symm

/-- Removing duplicates is the same before and after encoding. -/
theorem map_dedup_utf8 (l : List String) :
    l.dedup.map (fun s => utf8 s.toList) = (l.map fun s => utf8 s.toList).dedup :=
  (List.dedup_map_of_injective (fun _ _ => utf8_toList_inj.mp) l).symm
