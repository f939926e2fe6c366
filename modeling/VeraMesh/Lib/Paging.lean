import Mathlib.Data.List.Basic

/-!
# Pages of a list

A source gives a list in pages: asked at an offset, it gives the elements from there on, as many as
the page may have, and the offset to go on at. A caller that follows the offsets gets the list, once
(`IsPaged.follow_eq`). An element may fail to be made; then the caller gets the first failure.
-/

/-- `max` elements from an offset on. -/
def window {α : Type} (offset max : ℕ) (l : List α) : List α := (l.drop offset).take max

section Window

variable {α : Type} {offset max : ℕ}

theorem window_nil : window offset max ([] : List α) = [] := by
  rw [window, List.drop_nil, List.take_nil]

theorem window_zero_cons (a : α) (l : List α) : window 0 (max + 1) (a :: l) = a :: window 0 max l :=
  rfl

theorem window_succ_cons (a : α) (l : List α) :
    window (offset + 1) max (a :: l) = window offset max l :=
  rfl

/-- A part that is left out, or that fills the window up to some place. -/
theorem window_append (l m : List α) :
    window offset max (l ++ m) =
      window offset max l ++ window (offset - l.length) (max - (l.length - offset)) m := by
  rw [window, List.drop_append, List.take_append, List.length_drop]
  rfl

/-- A window that ends within the first part. -/
theorem window_append_of_le {l : List α} (h : offset + max ≤ l.length) (m : List α) :
    window offset max (l ++ m) = window offset max l := by
  rw [window_append, Nat.sub_eq_zero_of_le (show max ≤ l.length - offset by omega), window.eq_def _ 0,
    List.take_zero, List.append_nil]

theorem length_window (l : List α) :
    (window offset max l).length = min max (l.length - offset) := by
  rw [window, List.length_take, List.length_drop]

/-- All that is left. -/
theorem window_of_le {l : List α} (h : l.length ≤ offset + max) :
    window offset max l = l.drop offset :=
  List.take_of_length_le (by rw [List.length_drop]; omega)

theorem drop_eq_window_append (offset max : ℕ) (l : List α) :
    l.drop offset = window offset max l ++ l.drop (offset + max) := by
  rw [window, ← List.drop_drop, List.take_append_drop]

end Window

variable {ε κ ι : Type}

/-- The elements that a caller gets that follows the offsets, for at most `calls` calls. -/
def followPages (ask : ℕ → ℕ → Except ε (List ι × Option ℕ)) :
    (calls i offset : ℕ) → List ι → Except ε (Option (List ι))
  | 0, _, _, _ => .ok none
  | calls + 1, i, offset, got =>
    match ask i offset with
    | .error err => .error err
    | .ok (page, none) => .ok (some (got ++ page))
    | .ok (page, some next) => followPages ask calls (i + 1) next (got ++ page)

/-- The source gives the elements of `l`, made by `make`, in pages of `max i` elements. -/
structure IsPaged (l : List κ) (make : κ → Except ε ι) (max : ℕ → ℕ)
    (ask : ℕ → ℕ → Except ε (List ι × Option ℕ)) : Prop where
  /-- An element of the page cannot be made. -/
  ask_error : ∀ {i offset err}, (window offset (max i) l).mapM make = .error err →
    ask i offset = .error err
  ask_ok : ∀ {i offset page}, (window offset (max i) l).mapM make = .ok page →
    ∃ next, ask i offset = .ok (page, next) ∧
      -- at the end, or on behind the page
      (next = none → l.length ≤ offset + max i) ∧
      ∀ n, next = some n → n = offset + page.length ∧ page ≠ []

theorem mapM_append_except (make : κ → Except ε ι) (l m : List κ) :
    (l ++ m).mapM make = (l.mapM make).bind fun a => (m.mapM make).bind fun b => .ok (a ++ b) := by
  rw [List.mapM_append]
  rfl

theorem mapM_nil_except (make : κ → Except ε ι) : ([] : List κ).mapM make = .ok [] := rfl

theorem mapM_cons_except (make : κ → Except ε ι) (a : κ) (l : List κ) :
    (a :: l).mapM make = (make a).bind fun b => (l.mapM make).bind fun rest => .ok (b :: rest) := by
  rw [List.mapM_cons]
  rfl

theorem length_of_mapM_ok {make : κ → Except ε ι} {l : List κ} {page : List ι}
    (h : l.mapM make = .ok page) : page.length = l.length := by
  induction l generalizing page with
  | nil =>
    obtain rfl := Except.ok.inj h
    rfl
  | cons a l ih =>
    rw [List.mapM_cons] at h
    cases hmake : make a with
    | error err =>
      rw [hmake] at h
      cases h
    | ok b =>
      rw [hmake] at h
      cases hrest : l.mapM make with
      | error err =>
        rw [hrest] at h
        cases h
      | ok rest =>
        rw [hrest] at h
        obtain rfl := Except.ok.inj h
        rw [List.length_cons, List.length_cons, ih hrest]

/-- Elements that need not be made. -/
theorem mapM_ok (l : List ι) : l.mapM (Except.ok : ι → Except ε ι) = .ok l := by
  induction l with
  | nil => rfl
  | cons a l ih =>
    rw [mapM_cons_except, ih]
    rfl

/-- A mapping succeeds if and only if it does for each element. -/
theorem mapM_eq_ok_iff {make : κ → Except ε ι} {l : List κ} :
    (∃ page, l.mapM make = .ok page) ↔ ∀ a ∈ l, ∃ b, make a = .ok b := by
  induction l with
  | nil => exact ⟨fun _ a ha => absurd ha List.not_mem_nil, fun _ => ⟨[], rfl⟩⟩
  | cons a l ih =>
    rw [List.forall_mem_cons, ← ih, List.mapM_cons]
    constructor
    · rintro ⟨page, hpage⟩
      cases hmake : make a with
      | error err =>
        rw [hmake] at hpage
        cases hpage
      | ok b =>
        rw [hmake] at hpage
        cases hrest : l.mapM make with
        | error err =>
          rw [hrest] at hpage
          cases hpage
        | ok rest => exact ⟨⟨b, rfl⟩, rest, rfl⟩
    · rintro ⟨⟨b, hmake⟩, rest, hrest⟩
      rw [hmake, hrest]
      exact ⟨_, rfl⟩

/-- The offset behind a page that is not empty, if more may be there. -/
def nextOffset (truncated : Bool) (offset : ℕ) (page : List ι) : Option ℕ :=
  if truncated && !page.isEmpty then some (offset + page.length) else none

theorem nextOffset_eq_some_iff {truncated : Bool} {offset n : ℕ} {page : List ι} :
    nextOffset truncated offset page = some n ↔
      truncated = true ∧ page ≠ [] ∧ n = offset + page.length := by
  rw [nextOffset]
  cases truncated <;> cases page <;> simp [eq_comm]

namespace IsPaged

variable {l : List κ} {make : κ → Except ε ι} {max : ℕ → ℕ}
  {ask : ℕ → ℕ → Except ε (List ι × Option ℕ)}

/-- It is enough that an answer that is not truncated leaves nothing out. An empty page is at the
end of the list. -/
theorem of_truncated (hmax : ∀ i, 1 ≤ max i)
    (herror : ∀ {i offset err}, (window offset (max i) l).mapM make = .error err →
      ask i offset = .error err)
    (hok : ∀ {i offset page}, (window offset (max i) l).mapM make = .ok page →
      ∃ truncated, ask i offset = .ok (page, nextOffset truncated offset page) ∧
        (truncated = false → l.length ≤ offset + max i)) : IsPaged l make max ask := by
  refine ⟨herror, fun {i offset page} hpage => ?_⟩
  obtain ⟨truncated, hask, hall⟩ := hok hpage
  refine ⟨_, hask, fun hnone => ?_, fun n hn => ?_⟩
  · by_cases htruncated : truncated = true
    · have hempty : page = [] := by
        by_contra hne
        rw [nextOffset_eq_some_iff.mpr ⟨htruncated, hne, rfl⟩] at hnone
        cases hnone
      have hlength := length_of_mapM_ok hpage
      rw [hempty, length_window, List.length_nil] at hlength
      have hone := hmax i
      omega
    · exact hall ((Bool.not_eq_true _).mp htruncated)
  · obtain ⟨-, hne, rfl⟩ := nextOffset_eq_some_iff.mp hn
    exact ⟨rfl, hne⟩

/-- A caller gets what is left from its offset on, with enough calls. -/
theorem follow_from (h : IsPaged l make max ask) {calls i offset : ℕ} {got : List ι}
    (hoffset : offset ≤ l.length) (hcalls : l.length - offset < calls) :
    followPages ask calls i offset got =
      ((l.drop offset).mapM make).bind fun rest => .ok (some (got ++ rest)) := by
  induction calls generalizing i offset got with
  | zero => omega
  | succ calls ih =>
    rw [followPages]
    cases hpage : (window offset (max i) l).mapM make with
    | error err =>
      rw [h.ask_error hpage, drop_eq_window_append offset (max i) l, mapM_append_except, hpage]
      rfl
    | ok page =>
      obtain ⟨next, hask, hend, hnext⟩ := h.ask_ok hpage
      rw [hask]
      cases next with
      | none =>
        have hall := hend rfl
        rw [window_of_le hall] at hpage
        rw [hpage]
        rfl
      | some n =>
        obtain ⟨rfl, hne⟩ := hnext n rfl
        have hlength := length_of_mapM_ok hpage
        have hpos := List.length_pos_iff.mpr hne
        rw [length_window] at hlength
        dsimp only
        rw [ih (by omega) (by omega)]
        -- the page is full, or it is the rest
        have hdrop : l.drop offset = window offset (max i) l ++ l.drop (offset + page.length) := by
          rw [drop_eq_window_append offset (max i) l]
          rcases Nat.le_total (max i) (l.length - offset) with hfull | hrest
          · rw [hlength, Nat.min_eq_left hfull]
          · rw [List.drop_eq_nil_of_le (show l.length ≤ offset + max i by omega),
              List.drop_eq_nil_of_le (show l.length ≤ offset + page.length by omega)]
        rw [hdrop, mapM_append_except, hpage]
        show Except.bind _ _ = Except.bind _ _
        cases (l.drop (offset + page.length)).mapM make with
        | error err => rfl
        | ok rest =>
          show Except.ok (some (got ++ page ++ rest)) = .ok (some (got ++ (page ++ rest)))
          rw [List.append_assoc]

/-- A caller that begins at the front gets the list, once. -/
theorem follow_eq (h : IsPaged l make max ask) :
    followPages ask (l.length + 1) 0 0 [] = (l.mapM make).map some := by
  rw [h.follow_from (Nat.zero_le _) (by omega), List.drop_zero]
  cases l.mapM make <;> rfl

end IsPaged
