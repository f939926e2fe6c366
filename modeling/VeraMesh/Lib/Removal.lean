import VeraMesh.Lib.Occurrence

/-!
# Removing a word from a text

A word is removed from a text by putting another word, the mark, in place of its occurrences. This
leaves no occurrence of it when none can reach from the text into the mark (`Apart`).

* `not_isInfix_replace_self`: the removed word is gone.
* `not_isInfix_replace`: no other word that is apart from the mark comes up.
* `intercalate_segments`: the text is its segments with the word between them.
-/

namespace Occurrence

variable {α : Type*}

/-- Occurrences of the word do not touch the mark: its ends are not in the word, and the word is not
between them. -/
def Apart (word mark : List α) : Prop :=
  ∃ first mid last, mark = first :: (mid ++ [last]) ∧ first ∉ word ∧ last ∉ word ∧ ¬word <:+: mid

/-! ## Occurrences in joined texts -/

/-- A word does not reach over an element that it does not have. -/
theorem isInfix_append_cons {word a b : List α} {c : α} (hc : c ∉ word)
    (h : word <:+: a ++ c :: b) :
    word <:+: a ∨ word <:+: b := by
  have hempty : ∀ w, w <+: c :: b → c ∉ w → w = [] := by
    intro w hw hcw
    cases w with
    | nil => rfl
    | cons x w =>
      rw [List.cons_prefix_cons] at hw
      exact absurd (hw.1 ▸ List.mem_cons_self) hcw
  rcases List.infix_append_iff.mp h with ha | hb | ⟨t₁, t₂, rfl, hsuffix, hpre⟩
  · exact .inl ha
  · rcases List.infix_cons_iff.mp hb with hb | hb
    · rw [hempty word hb hc]
      exact .inl (List.nil_infix)
    · exact .inr hb
  · rw [List.mem_append, not_or] at hc
    rw [hempty t₂ hpre hc.2, List.append_nil]
    exact .inl hsuffix.isInfix

/-- A word that is in none of the texts is not in their union. -/
theorem not_isInfix_intercalate {word mark : List α} (hword : word ≠ []) (hapart : Apart word mark)
    {texts : List (List α)} (htexts : ∀ text ∈ texts, ¬word <:+: text) :
    ¬word <:+: mark.intercalate texts := by
  obtain ⟨first, mid, last, rfl, hfirst, hlast, hmid⟩ := hapart
  induction texts with
  | nil => exact fun h => hword (List.eq_nil_of_infix_nil h)
  | cons text texts ih =>
    rw [List.forall_mem_cons] at htexts
    cases texts with
    | nil =>
      rw [List.intercalate_singleton]
      exact htexts.1
    | cons next texts =>
      -- An occurrence is in the text before the mark, inside of the mark, or behind it.
      rw [List.intercalate_cons_cons, List.append_assoc, List.cons_append, List.append_assoc,
        List.singleton_append]
      intro h
      rcases isInfix_append_cons hfirst h with h | h
      · exact htexts.1 h
      · rcases isInfix_append_cons hlast h with h | h
        · exact hmid h
        · exact ih htexts.2 h

/-! ## Segments -/

variable [DecidableEq α] {old new : List α}

/-- The first segment begins the text. -/
theorem isPrefix_of_segments (hold : old ≠ []) {text s : List α} {ss : List (List α)}
    (h : segments id old text = s :: ss) : s <+: text := by
  have hjoin := interleave_segments_spans id hold text
  rw [h] at hjoin
  cases hspans : spans id old text with
  | nil =>
    rw [hspans] at hjoin
    exact ⟨ss.flatten, hjoin⟩
  | cons o os =>
    rw [hspans, interleave, List.append_assoc] at hjoin
    exact ⟨_, hjoin⟩

theorem isInfix_of_mem_segments (hold : old ≠ []) (text : List α) :
    ∀ segment ∈ segments id old text, segment <:+: text := by
  induction text using scan_induction id hold with
  | nil =>
    intro segment hsegment
    obtain rfl := List.mem_singleton.mp hsegment
    exact List.infix_rfl
  | occurs l h ih =>
    rw [segments_of_occurs hold h, List.forall_mem_cons]
    exact ⟨List.nil_infix, fun segment hsegment =>
      (ih segment hsegment).trans (List.drop_suffix _ _).isInfix⟩
  | passes x rest h ih =>
    obtain ⟨s, ss, hss⟩ := List.exists_cons_of_ne_nil (segments_ne_nil id hold rest)
    have hs := isPrefix_of_segments hold hss
    rw [hss, List.forall_mem_cons] at ih
    rw [segments_of_passes h, hss, List.modifyHead_cons, List.forall_mem_cons]
    refine ⟨(List.cons_prefix_cons.mpr ⟨rfl, hs⟩).isInfix, fun segment hsegment => ?_⟩
    exact (ih.2 segment hsegment).trans (List.suffix_cons x rest).isInfix

/-- The word is not in a segment. -/
theorem not_isInfix_of_mem_segments (hold : old ≠ []) (text : List α) :
    ∀ segment ∈ segments id old text, ¬old <:+: segment := by
  induction text using scan_induction id hold with
  | nil =>
    intro segment hsegment h
    rw [List.mem_singleton.mp hsegment] at h
    exact hold (List.eq_nil_of_infix_nil h)
  | occurs l h ih =>
    rw [segments_of_occurs hold h, List.forall_mem_cons]
    exact ⟨fun h => hold (List.eq_nil_of_infix_nil h), ih⟩
  | passes x rest h ih =>
    obtain ⟨s, ss, hss⟩ := List.exists_cons_of_ne_nil (segments_ne_nil id hold rest)
    have hs := isPrefix_of_segments hold hss
    rw [hss, List.forall_mem_cons] at ih
    rw [segments_of_passes h, hss, List.modifyHead_cons, List.forall_mem_cons]
    refine ⟨fun hsegment => ?_, ih.2⟩
    -- An occurrence at the beginning of the segment is one that the scan would have found.
    rcases List.infix_cons_iff.mp hsegment with hstart | hinside
    · apply h
      rw [List.map_id]
      exact hstart.trans (List.cons_prefix_cons.mpr ⟨rfl, hs⟩)
    · exact ih.1 hinside

/-! ## Replacements -/

theorem replace_eq_intercalate_segments (hold : old ≠ []) (text : List α) :
    replace old new text = new.intercalate (segments id old text) := by
  have h : replace old new (text.map id) =
      new.intercalate ((segments id old text).map (List.map id)) :=
    replace_eq_intercalate id hold text
  rwa [List.map_id, List.map_id_fun, List.map_id] at h

theorem replace_self (hold : old ≠ []) (text : List α) : replace old old text = text := by
  induction text using scan_induction id hold with
  | nil => rfl
  | occurs l h ih =>
    rw [List.map_id] at h
    obtain ⟨rest, rfl⟩ := h
    rw [List.drop_left] at ih
    rw [replace_of_occurs hold ⟨rest, rfl⟩, List.drop_left, ih]
  | passes x rest h ih =>
    rw [List.map_id] at h
    rw [replace_of_passes h, ih]

/-- The text is its segments with the word between them. -/
theorem intercalate_segments (hold : old ≠ []) (text : List α) :
    old.intercalate (segments id old text) = text := by
  rw [← replace_eq_intercalate_segments hold, replace_self hold]

/-- The removed word is gone. -/
theorem not_isInfix_replace_self (hold : old ≠ []) (hapart : Apart old new) (text : List α) :
    ¬old <:+: replace old new text := by
  rw [replace_eq_intercalate_segments hold]
  exact not_isInfix_intercalate hold hapart (not_isInfix_of_mem_segments hold text)

/-- A word that is apart from the mark does not come up. -/
theorem not_isInfix_replace (hold : old ≠ []) {word text : List α} (hword : word ≠ [])
    (hapart : Apart word new) (h : ¬word <:+: text) : ¬word <:+: replace old new text := by
  rw [replace_eq_intercalate_segments hold]
  refine not_isInfix_intercalate hword hapart fun segment hsegment hinfix => h ?_
  exact hinfix.trans (isInfix_of_mem_segments hold text segment hsegment)

end Occurrence
