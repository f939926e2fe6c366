import Mathlib.Data.List.Basic

/-!
# Occurrences of a word in a text

The occurrences of a word are those that a scan from the left finds, which goes on behind each of
them. They are counted (`count`) and replaced (`replace`), and they cut the text into segments
with the occurrences between them (`segments`, `spans`).

The elements of a text may carry more than what is compared, which is their `key`.
-/

namespace Occurrence

variable {α β : Type*} [DecidableEq α]

/-! ## Scans

A scan passes `skip` elements of the last occurrence before it goes on. -/

/-- The number of occurrences. -/
def countFrom (old : List α) : (skip : ℕ) → List α → ℕ
  | _, [] => 0
  | skip + 1, _ :: rest => countFrom old skip rest
  | 0, c :: rest =>
    if old <+: c :: rest then countFrom old (old.length - 1) rest + 1 else countFrom old 0 rest

def count (old text : List α) : ℕ := countFrom old 0 text

/-- The text with `new` in place of each occurrence. -/
def replaceFrom (old new : List α) : (skip : ℕ) → List α → List α
  | _, [] => []
  | skip + 1, _ :: rest => replaceFrom old new skip rest
  | 0, c :: rest =>
    if old <+: c :: rest then new ++ replaceFrom old new (old.length - 1) rest
    else c :: replaceFrom old new 0 rest

def replace (old new text : List α) : List α := replaceFrom old new 0 text

variable (key : β → α)

/-- What is before, between and behind the occurrences. -/
def segmentsFrom (old : List α) : (skip : ℕ) → List β → List (List β)
  | _, [] => [[]]
  | skip + 1, _ :: rest => segmentsFrom old skip rest
  | 0, x :: rest =>
    if old <+: (x :: rest).map key then [] :: segmentsFrom old (old.length - 1) rest
    else (segmentsFrom old 0 rest).modifyHead (x :: ·)

def segments (old : List α) (l : List β) : List (List β) := segmentsFrom key old 0 l

/-- The occurrences. -/
def spansFrom (old : List α) : (skip : ℕ) → List β → List (List β)
  | _, [] => []
  | skip + 1, _ :: rest => spansFrom old skip rest
  | 0, x :: rest =>
    if old <+: (x :: rest).map key then
      (x :: rest).take old.length :: spansFrom old (old.length - 1) rest
    else spansFrom old 0 rest

def spans (old : List α) (l : List β) : List (List β) := spansFrom key old 0 l

/-- Segments with spans between them. -/
def interleave : List (List β) → List (List β) → List β
  | s :: ss, o :: os => s ++ o ++ interleave ss os
  | ss, [] => ss.flatten
  | [], _ => []

/-! ## Rounds -/

section Rounds

variable {key : β → α} {old new : List α} {x : β} {rest : List β}

theorem countFrom_eq_drop (skip : ℕ) (text : List α) :
    countFrom old skip text = count old (text.drop skip) := by
  induction text generalizing skip with
  | nil => rw [List.drop_nil]; cases skip <;> rfl
  | cons c text ih =>
    cases skip with
    | zero => rfl
    | succ skip => exact ih skip

theorem replaceFrom_eq_drop (skip : ℕ) (text : List α) :
    replaceFrom old new skip text = replace old new (text.drop skip) := by
  induction text generalizing skip with
  | nil => rw [List.drop_nil]; cases skip <;> rfl
  | cons c text ih =>
    cases skip with
    | zero => rfl
    | succ skip => exact ih skip

theorem segmentsFrom_eq_drop (skip : ℕ) (l : List β) :
    segmentsFrom key old skip l = segments key old (l.drop skip) := by
  induction l generalizing skip with
  | nil => rw [List.drop_nil]; cases skip <;> rfl
  | cons x l ih =>
    cases skip with
    | zero => rfl
    | succ skip => exact ih skip

theorem spansFrom_eq_drop (skip : ℕ) (l : List β) :
    spansFrom key old skip l = spans key old (l.drop skip) := by
  induction l generalizing skip with
  | nil => rw [List.drop_nil]; cases skip <;> rfl
  | cons x l ih =>
    cases skip with
    | zero => rfl
    | succ skip => exact ih skip

omit [DecidableEq α] in
theorem drop_length_cons (hold : old ≠ []) (a : γ) (l : List γ) :
    l.drop (old.length - 1) = (a :: l).drop old.length := by
  obtain ⟨n, hn⟩ := Nat.exists_eq_succ_of_ne_zero (mt List.length_eq_zero_iff.mp hold)
  rw [hn]
  rfl

theorem count_of_occurs (hold : old ≠ []) {text : List α} (h : old <+: text) :
    count old text = count old (text.drop old.length) + 1 := by
  cases text with
  | nil => exact absurd (List.prefix_nil.mp h) hold
  | cons c text =>
    rw [count, countFrom, if_pos h, countFrom_eq_drop, drop_length_cons hold c]

theorem count_of_passes {c : α} {text : List α} (h : ¬old <+: c :: text) :
    count old (c :: text) = count old text := by
  rw [count, countFrom, if_neg h]
  rfl

theorem replace_of_occurs (hold : old ≠ []) {text : List α} (h : old <+: text) :
    replace old new text = new ++ replace old new (text.drop old.length) := by
  cases text with
  | nil => exact absurd (List.prefix_nil.mp h) hold
  | cons c text =>
    rw [replace, replaceFrom, if_pos h, replaceFrom_eq_drop, drop_length_cons hold c]

theorem replace_of_passes {c : α} {text : List α} (h : ¬old <+: c :: text) :
    replace old new (c :: text) = c :: replace old new text := by
  rw [replace, replaceFrom, if_neg h]
  rfl

theorem segments_of_occurs (hold : old ≠ []) {l : List β} (h : old <+: l.map key) :
    segments key old l = [] :: segments key old (l.drop old.length) := by
  cases l with
  | nil => exact absurd (List.prefix_nil.mp h) hold
  | cons x l =>
    rw [segments, segmentsFrom, if_pos h, segmentsFrom_eq_drop, drop_length_cons hold x]

theorem segments_of_passes (h : ¬old <+: (x :: rest).map key) :
    segments key old (x :: rest) = (segments key old rest).modifyHead (x :: ·) := by
  rw [segments, segmentsFrom, if_neg h]
  rfl

theorem spans_of_occurs (hold : old ≠ []) {l : List β} (h : old <+: l.map key) :
    spans key old l = l.take old.length :: spans key old (l.drop old.length) := by
  cases l with
  | nil => exact absurd (List.prefix_nil.mp h) hold
  | cons x l =>
    rw [spans, spansFrom, if_pos h, spansFrom_eq_drop, drop_length_cons hold x]

theorem spans_of_passes (h : ¬old <+: (x :: rest).map key) :
    spans key old (x :: rest) = spans key old rest := by
  rw [spans, spansFrom, if_neg h]
  rfl

variable (key) in
/-- Induction along a scan. -/
theorem scan_induction (hold : old ≠ []) {motive : List β → Prop} (nil : motive [])
    (occurs : ∀ l, old <+: l.map key → motive (l.drop old.length) → motive l)
    (passes : ∀ x rest, ¬old <+: (x :: rest).map key → motive rest → motive (x :: rest))
    (l : List β) : motive l := by
  induction hlength : l.length using Nat.strongRecOn generalizing l with
  | ind n ih =>
    have hpos := List.length_pos_iff.mpr hold
    cases l with
    | nil => exact nil
    | cons x rest =>
      rw [List.length_cons] at hlength
      by_cases h : old <+: (x :: rest).map key
      · apply occurs _ h
        apply ih _ _ _ rfl
        rw [List.length_drop, List.length_cons]
        omega
      · exact passes x rest h (ih rest.length (by omega) rest rfl)

end Rounds

/-! ## Segments -/

section Segments

variable (key : β → α) {old new : List α}

theorem segments_ne_nil (hold : old ≠ []) (l : List β) : segments key old l ≠ [] := by
  induction l using scan_induction key hold with
  | nil => exact List.cons_ne_nil _ _
  | occurs l h ih =>
    rw [segments_of_occurs hold h]
    exact List.cons_ne_nil _ _
  | passes x rest h ih =>
    obtain ⟨s, ss, hss⟩ := List.exists_cons_of_ne_nil ih
    rw [segments_of_passes h, hss]
    exact List.cons_ne_nil _ _

/-- What is counted are the spans. -/
theorem length_spans (hold : old ≠ []) (l : List β) :
    (spans key old l).length = count old (l.map key) := by
  induction l using scan_induction key hold with
  | nil => rfl
  | occurs l h ih =>
    rw [spans_of_occurs hold h, count_of_occurs hold h, List.length_cons, ih, List.map_drop]
  | passes x rest h ih =>
    rw [spans_of_passes h, ih]
    exact (count_of_passes h).symm

/-- There is a segment before each span, and one at the end. -/
theorem length_segments (hold : old ≠ []) (l : List β) :
    (segments key old l).length = (spans key old l).length + 1 := by
  induction l using scan_induction key hold with
  | nil => rfl
  | occurs l h ih =>
    rw [segments_of_occurs hold h, spans_of_occurs hold h, List.length_cons, ih, List.length_cons]
  | passes x rest h ih =>
    rw [segments_of_passes h, spans_of_passes h, List.length_modifyHead, ih]

/-- A span is an occurrence of the word. -/
theorem map_of_mem_spans (hold : old ≠ []) (l : List β) :
    ∀ span ∈ spans key old l, span.map key = old := by
  induction l using scan_induction key hold with
  | nil =>
    intro span hspan
    cases hspan
  | occurs l h ih =>
    rw [spans_of_occurs hold h, List.forall_mem_cons]
    refine ⟨?_, ih⟩
    rw [List.map_take]
    exact (List.prefix_iff_eq_take.mp h).symm
  | passes x rest h ih => rwa [spans_of_passes h]

/-- The segments and the spans make up the text. -/
theorem interleave_segments_spans (hold : old ≠ []) (l : List β) :
    interleave (segments key old l) (spans key old l) = l := by
  induction l using scan_induction key hold with
  | nil => rfl
  | occurs l h ih =>
    rw [segments_of_occurs hold h, spans_of_occurs hold h, interleave, ih, List.nil_append,
      List.take_append_drop]
  | passes x rest h ih =>
    obtain ⟨s, ss, hss⟩ := List.exists_cons_of_ne_nil (segments_ne_nil key hold rest)
    rw [hss] at ih
    rw [segments_of_passes h, spans_of_passes h, hss, List.modifyHead_cons]
    cases hspans : spans key old rest with
    | nil =>
      rw [hspans] at ih
      exact congrArg (x :: ·) ih
    | cons o os =>
      rw [hspans] at ih
      exact congrArg (x :: ·) ih

/-- What is replaced are the spans, and the segments stay as they are. -/
theorem replace_eq_intercalate (hold : old ≠ []) (l : List β) :
    replace old new (l.map key) = new.intercalate ((segments key old l).map (List.map key)) := by
  induction l using scan_induction key hold with
  | nil => rfl
  | occurs l h ih =>
    have hne : (segments key old (l.drop old.length)).map (List.map key) ≠ [] := by
      rw [Ne, List.map_eq_nil_iff]
      exact segments_ne_nil key hold _
    rw [replace_of_occurs hold h, segments_of_occurs hold h, List.map_cons,
      List.intercalate_cons_of_ne_nil hne, ← ih, List.map_drop]
    rfl
  | passes x rest h ih =>
    obtain ⟨s, ss, hss⟩ := List.exists_cons_of_ne_nil (segments_ne_nil key hold rest)
    rw [hss, List.map_cons] at ih
    rw [List.map_cons, replace_of_passes h, ih, segments_of_passes h, hss,
      List.modifyHead_cons, List.map_cons, List.map_cons, List.intercalate_cons_cons_left]

/-- Nothing is in a segment that is not in the text. -/
theorem mem_of_mem_segments (hold : old ≠ []) (l : List β) :
    ∀ segment ∈ segments key old l, ∀ x ∈ segment, x ∈ l := by
  induction l using scan_induction key hold with
  | nil =>
    intro segment hsegment x hx
    rw [List.mem_singleton.mp hsegment] at hx
    exact hx
  | occurs l h ih =>
    rw [segments_of_occurs hold h, List.forall_mem_cons]
    refine ⟨fun x hx => absurd hx List.not_mem_nil, ?_⟩
    intro segment hsegment x hx
    exact List.mem_of_mem_drop (ih segment hsegment x hx)
  | passes y rest h ih =>
    obtain ⟨s, ss, hss⟩ := List.exists_cons_of_ne_nil (segments_ne_nil key hold rest)
    rw [hss, List.forall_mem_cons] at ih
    rw [segments_of_passes h, hss, List.modifyHead_cons, List.forall_mem_cons]
    refine ⟨?_, fun segment hsegment x hx => List.mem_cons_of_mem _ (ih.2 segment hsegment x hx)⟩
    intro x hx
    rcases List.mem_cons.mp hx with rfl | hx
    · exact List.mem_cons_self
    · exact List.mem_cons_of_mem _ (ih.1 x hx)

end Segments

/-! ## Joined lists -/

section Joined

variable {γ : Type*}

omit [DecidableEq α]

theorem flatMap_intercalate (f : α → List γ) (sep : List α) (l : List (List α)) :
    (sep.intercalate l).flatMap f = (sep.flatMap f).intercalate (l.map (List.flatMap f)) := by
  induction l with
  | nil => rfl
  | cons a l ih =>
    cases l with
    | nil => rw [List.intercalate_singleton, List.map_singleton, List.intercalate_singleton]
    | cons b l =>
      rw [List.intercalate_cons_cons, List.flatMap_append, List.flatMap_append, ih]
      exact List.intercalate_cons_cons.symm

theorem map_intercalate (f : α → γ) (sep : List α) (l : List (List α)) :
    (sep.intercalate l).map f = (sep.map f).intercalate (l.map (List.map f)) := by
  induction l with
  | nil => rfl
  | cons a l ih =>
    cases l with
    | nil => rw [List.intercalate_singleton, List.map_singleton, List.intercalate_singleton]
    | cons b l =>
      rw [List.intercalate_cons_cons, List.map_append, List.map_append, ih]
      exact List.intercalate_cons_cons.symm

theorem mem_intercalate_of_mem {sep : List α} {l : List (List α)} {s : List α} (hs : s ∈ l) {x : α}
    (hx : x ∈ s) : x ∈ sep.intercalate l := by
  induction l with
  | nil => cases hs
  | cons a l ih =>
    cases l with
    | nil =>
      rw [List.mem_singleton.mp hs] at hx
      rwa [List.intercalate_singleton]
    | cons b l =>
      rw [List.intercalate_cons_cons, List.mem_append, List.mem_append]
      rcases List.mem_cons.mp hs with rfl | hs
      · exact Or.inl (Or.inl hx)
      · exact Or.inr (ih hs)

/-- The separator is between two lists. -/
theorem mem_intercalate_of_mem_sep {sep : List α} {l : List (List α)} (hl : 2 ≤ l.length) {x : α}
    (hx : x ∈ sep) : x ∈ sep.intercalate l := by
  rcases l with _ | ⟨a, _ | ⟨b, l⟩⟩
  · cases hl
  · cases Nat.lt_irrefl _ hl
  · rw [List.intercalate_cons_cons, List.mem_append, List.mem_append]
    exact Or.inl (Or.inr hx)

theorem mem_intercalate {sep : List α} {l : List (List α)} {x : α} (hx : x ∈ sep.intercalate l) :
    x ∈ sep ∨ ∃ s ∈ l, x ∈ s := by
  induction l with
  | nil => cases hx
  | cons a l ih =>
    cases l with
    | nil =>
      rw [List.intercalate_singleton] at hx
      exact Or.inr ⟨a, List.mem_singleton_self a, hx⟩
    | cons b l =>
      rw [List.intercalate_cons_cons, List.mem_append, List.mem_append] at hx
      rcases hx with (hx | hx) | hx
      · exact Or.inr ⟨a, List.mem_cons_self, hx⟩
      · exact Or.inl hx
      · rcases ih hx with hsep | ⟨s, hs, hxs⟩
        · exact Or.inl hsep
        · exact Or.inr ⟨s, List.mem_cons_of_mem _ hs, hxs⟩

theorem flatMap_interleave (f : α → List γ) (ss os : List (List α)) :
    (interleave ss os).flatMap f =
      interleave (ss.map (List.flatMap f)) (os.map (List.flatMap f)) := by
  induction ss generalizing os with
  | nil => cases os <;> rfl
  | cons s ss ih =>
    cases os with
    | nil =>
      show (s :: ss).flatten.flatMap f = ((s :: ss).map (List.flatMap f)).flatten
      rw [List.flatten_eq_flatMap, List.flatMap_assoc, List.flatten_eq_flatMap, List.flatMap_map]
      rfl
    | cons o os =>
      rw [interleave, List.flatMap_append, List.flatMap_append, ih]
      rfl

end Joined

end Occurrence
