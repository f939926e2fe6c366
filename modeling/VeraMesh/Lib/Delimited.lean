import Mathlib

/-!
# Delimited lists

Facts about lists cut at a delimiter `sep`.

* `SegmentLE sep`: the order "equal to, or extended by `sep` and more", i.e. the ancestor order of
  paths whose segments are separated by `sep`. It is a preorder whose down-sets are chains
  (`SegmentLE.comparable`): two ancestors of one path are ancestors of one another.
* `eq_of_append_sep`: the part before the first `sep` and the part after it are determined by
  the whole list.
* `splitOn_append_of_not_mem`, `intercalate_sep_inj`: how cutting and joining go together.
* `flatMap_sep_prefix_iff`: words closed by `sep` begin a list of such words exactly if they are its
  first words.
-/

variable {α : Type*}

/-- `a` equals `b`, or `b` goes on after `a` with `sep`: `a` is `b` or an ancestor of `b`. -/
def SegmentLE (sep : α) (a b : List α) : Prop := b = a ∨ a ++ [sep] <+: b

instance [DecidableEq α] (sep : α) (a b : List α) : Decidable (SegmentLE sep a b) :=
  inferInstanceAs (Decidable (_ ∨ _))

namespace SegmentLE

variable {sep : α} {a b c : List α}

/-- The order in one form: `a` closed by `sep` is a prefix of `b` closed by `sep`. -/
theorem iff_append_sep : SegmentLE sep a b ↔ a ++ [sep] <+: b ++ [sep] := by
  constructor
  · rintro (rfl | h)
    · exact List.prefix_refl _
    · exact h.trans (List.prefix_append b [sep])
  · rintro ⟨r, hr⟩
    rcases List.eq_nil_or_concat r with rfl | ⟨r', x, rfl⟩
    · rw [List.append_nil] at hr
      exact Or.inl (List.append_cancel_right hr).symm
    · rw [List.concat_eq_append, ← List.append_assoc] at hr
      exact Or.inr ⟨r', (List.append_inj' hr rfl).1⟩

@[refl]
theorem refl (a : List α) : SegmentLE sep a a := Or.inl rfl

@[trans]
theorem trans (hab : SegmentLE sep a b) (hbc : SegmentLE sep b c) : SegmentLE sep a c := by
  rw [iff_append_sep] at hab hbc ⊢
  exact hab.trans hbc

/-- Two ancestors of the same list are comparable. -/
theorem comparable (hac : SegmentLE sep a c) (hbc : SegmentLE sep b c) :
    SegmentLE sep a b ∨ SegmentLE sep b a := by
  rw [iff_append_sep] at hac hbc
  simp only [iff_append_sep]
  exact List.prefix_or_prefix_of_prefix hac hbc

/-- Two ancestors of comparable lists are comparable. -/
theorem comparable_of_comparable {a' b' : List α} (ha : SegmentLE sep a a')
    (hb : SegmentLE sep b b') (h : SegmentLE sep a' b' ∨ SegmentLE sep b' a') :
    SegmentLE sep a b ∨ SegmentLE sep b a := by
  rcases h with h | h
  · exact comparable (ha.trans h) hb
  · exact comparable ha (hb.trans h)

end SegmentLE

/-- A list is cut at its first delimiter in one way only. -/
theorem eq_of_append_sep {sep : α} {a b x y : List α} (ha : sep ∉ a) (hb : sep ∉ b)
    (h : a ++ sep :: x = b ++ sep :: y) : a = b ∧ x = y := by
  induction a generalizing b with
  | nil =>
    cases b with
    | nil => exact ⟨rfl, (List.cons.inj h).2⟩
    | cons d b => exact absurd (List.cons.inj h).1 fun heq => hb (heq ▸ List.mem_cons_self)
  | cons d a ih =>
    cases b with
    | nil => exact absurd (List.cons.inj h).1 fun heq => ha (heq ▸ List.mem_cons_self)
    | cons d' b =>
      obtain ⟨rfl, htail⟩ := List.cons.inj h
      obtain ⟨rfl, rfl⟩ := ih (fun hm => ha (List.mem_cons_of_mem _ hm))
        (fun hm => hb (List.mem_cons_of_mem _ hm)) htail
      exact ⟨rfl, rfl⟩

/-- Words without delimiters, each closed by one, begin with words exactly if these come first. -/
theorem flatMap_sep_prefix_iff {sep : α} {l m : List (List α)} (hl : ∀ a ∈ l, sep ∉ a)
    (hm : ∀ a ∈ m, sep ∉ a) :
    l.flatMap (· ++ [sep]) <+: m.flatMap (· ++ [sep]) ↔ l <+: m := by
  induction l generalizing m with
  | nil => simp
  | cons a l ih =>
    cases m with
    | nil => simp
    | cons b m =>
      rw [List.forall_mem_cons] at hl hm
      rw [List.cons_prefix_cons, ← ih hl.2 hm.2]
      constructor
      · rintro ⟨rest, hrest⟩
        have hcut : a ++ sep :: (l.flatMap (· ++ [sep]) ++ rest) =
            b ++ sep :: m.flatMap (· ++ [sep]) := by simpa using hrest
        obtain ⟨rfl, htail⟩ := eq_of_append_sep hl.1 hm.1 hcut
        exact ⟨rfl, rest, htail⟩
      · rintro ⟨rfl, rest, hrest⟩
        exact ⟨rest, by simp [← hrest]⟩

/-! ## Cut lists -/

section SplitOn

variable [BEq α] [LawfulBEq α] {sep : α} {a b s t : List α} {l m : List (List α)}

/-- No piece has the delimiter. -/
theorem not_mem_of_mem_splitOn (h : a ∈ s.splitOn sep) : sep ∉ a := by
  induction s generalizing a with
  | nil =>
    obtain rfl : a = [] := by simpa using h
    exact List.not_mem_nil
  | cons c s ih =>
    obtain ⟨first, rest, hsplit⟩ := List.exists_cons_of_ne_nil (List.splitOn_ne_nil sep s)
    rw [List.splitOn_cons_eq_if_modifyHead, hsplit] at h
    rw [hsplit] at ih
    split_ifs at h with hc
    · rcases List.mem_cons.mp h with rfl | h
      · exact List.not_mem_nil
      · exact ih h
    · rw [List.modifyHead_cons] at h
      rcases List.mem_cons.mp h with rfl | h
      · rw [List.mem_cons, not_or]
        exact ⟨fun heq => hc (beq_iff_eq.mpr heq.symm), ih List.mem_cons_self⟩
      · exact ih (List.mem_cons_of_mem _ h)

/-- Pieces without delimiters are told by the joined list. -/
theorem intercalate_sep_inj (hl : ∀ a ∈ l, sep ∉ a) (hm : ∀ a ∈ m, sep ∉ a) (hlne : l ≠ [])
    (hmne : m ≠ []) : [sep].intercalate l = [sep].intercalate m ↔ l = m := by
  refine ⟨fun h => ?_, fun h => by rw [h]⟩
  have hsplit := congrArg (List.splitOn sep) h
  rwa [List.splitOn_intercalate sep hl hlne, List.splitOn_intercalate sep hm hmne] at hsplit

/-- The first piece, and what comes after its delimiter. -/
theorem eq_of_splitOn_cons_cons (h : s.splitOn sep = a :: b :: l) :
    s = a ++ sep :: [sep].intercalate (b :: l) ∧
      ([sep].intercalate (b :: l)).splitOn sep = b :: l := by
  have hjoin : [sep].intercalate (s.splitOn sep) = s := List.intercalate_splitOn sep
  have hpieces : ∀ c ∈ b :: l, sep ∉ c := fun c hc =>
    not_mem_of_mem_splitOn (h ▸ List.mem_cons_of_mem a hc)
  refine ⟨?_, List.splitOn_intercalate sep hpieces (List.cons_ne_nil _ _)⟩
  rw [← hjoin, h, List.intercalate_cons_cons]
  simp

theorem intercalate_sep_append {α : Type*} {sep : α} {l m : List (List α)} (hl : l ≠ [])
    (hm : m ≠ []) :
    [sep].intercalate (l ++ m) = [sep].intercalate l ++ sep :: [sep].intercalate m := by
  induction l with
  | nil => exact absurd rfl hl
  | cons a l ih =>
    cases l with
    | nil =>
      rw [List.singleton_append, List.intercalate_cons_of_ne_nil hm, List.intercalate_singleton]
      simp
    | cons b l =>
      have hrest := ih (List.cons_ne_nil b l)
      rw [List.cons_append] at hrest
      rw [List.cons_append, List.cons_append, List.intercalate_cons_cons,
        List.intercalate_cons_cons, hrest]
      simp

/-- What is appended without a delimiter goes to the last piece. -/
theorem splitOn_append_of_not_mem (h : s.splitOn sep = l ++ [a]) (ht : sep ∉ t) :
    (s ++ t).splitOn sep = l ++ [a ++ t] := by
  induction s generalizing l a with
  | nil =>
    rw [List.splitOn_nil] at h
    have hlength := congrArg List.length h
    obtain rfl : l = [] := List.eq_nil_of_length_eq_zero (by simpa using hlength)
    obtain rfl : [] = a := (List.cons.inj h).1
    exact List.splitOn_eq_singleton ht
  | cons c s ih =>
    obtain ⟨front, last, hfront⟩ :=
      (List.eq_nil_or_concat (s.splitOn sep)).resolve_left (List.splitOn_ne_nil sep s)
    rw [List.concat_eq_append] at hfront
    have hrest := ih hfront
    rw [List.cons_append, List.splitOn_cons_eq_if_modifyHead, hrest]
    rw [List.splitOn_cons_eq_if_modifyHead, hfront] at h
    split_ifs at h ⊢ with hc
    · rw [← List.cons_append] at h
      obtain ⟨rfl, hlast⟩ := List.append_inj' h rfl
      rw [(List.cons.inj hlast).1, List.cons_append]
    · -- the character goes to the first piece, which may be the last one
      cases front with
      | nil =>
        rw [List.nil_append, List.modifyHead_cons] at h
        have hlength := congrArg List.length h
        obtain rfl : l = [] := List.eq_nil_of_length_eq_zero (by simpa using hlength)
        rw [← (List.cons.inj h).1]
        rfl
      | cons first front =>
        rw [List.cons_append, List.modifyHead_cons, ← List.cons_append] at h
        obtain ⟨rfl, hlast⟩ := List.append_inj' h rfl
        rw [(List.cons.inj hlast).1]
        rfl

end SplitOn
