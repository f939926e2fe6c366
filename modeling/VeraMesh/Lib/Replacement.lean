import Mathlib.Data.List.Nodup
import Mathlib.Logic.Function.Basic

/-!
# Replacing several cells, and undoing it

Cells are replaced one after the other until a replacement fails, and then those that succeeded are
replaced once more, by what they held. A replacement may also fail after the cell has its new
content, and then nobody knows of the change.

* `landed`: the replacements that change their cell. `marked`: those that are known to.
* `writeAll_undo_eq_iff`: the cells hold in the end what they held in the beginning if and only if
  every replacement that changed its cell is undone.
-/

namespace Replacement

/-- How the replacement of a cell ends. -/
inductive Ending where
  /-- It fails, with the cell as it was. -/
  | refused
  /-- It fails, with the cell replaced. -/
  | torn
  | done
  deriving DecidableEq

/-- A replacement: a cell, its content, and its new content. -/
structure Change (ι β : Type) where
  cell : ι
  before : β
  after : β

variable {ι β : Type}

/-- The replacements that change their cell. -/
def landed (ending : ι → Ending) : List (Change ι β) → List (Change ι β)
  | [] => []
  | change :: changes =>
    match ending change.cell with
    | .done => change :: landed ending changes
    | .torn => [change]
    | .refused => []

/-- The replacements that succeed. -/
def marked (ending : ι → Ending) : List (Change ι β) → List (Change ι β)
  | [] => []
  | change :: changes =>
    match ending change.cell with
    | .done => change :: marked ending changes
    | .torn | .refused => []

/-- All replacements succeed. -/
def AllDone (ending : ι → Ending) (changes : List (Change ι β)) : Prop :=
  ∀ change ∈ changes, ending change.cell = .done

instance (ending : ι → Ending) (changes : List (Change ι β)) :
    Decidable (AllDone ending changes) := by
  unfold AllDone
  infer_instance

section Cons

variable {ending : ι → Ending} {change : Change ι β}

theorem landed_cons_of_done (h : ending change.cell = .done) (changes : List (Change ι β)) :
    landed ending (change :: changes) = change :: landed ending changes := by
  rw [landed, h]

theorem marked_cons_of_done (h : ending change.cell = .done) (changes : List (Change ι β)) :
    marked ending (change :: changes) = change :: marked ending changes := by
  rw [marked, h]

theorem marked_cons_of_ne (h : ending change.cell ≠ .done) (changes : List (Change ι β)) :
    marked ending (change :: changes) = [] := by
  rw [marked]
  split
  · exact absurd ‹_› h
  · rfl
  · rfl

theorem allDone_cons {changes : List (Change ι β)} :
    AllDone ending (change :: changes) ↔ ending change.cell = .done ∧ AllDone ending changes :=
  List.forall_mem_cons

end Cons

theorem landed_sublist (ending : ι → Ending) (changes : List (Change ι β)) :
    (landed ending changes).Sublist changes := by
  induction changes with
  | nil => exact List.Sublist.refl []
  | cons change changes ih =>
    rw [landed]
    split
    · exact ih.cons_cons change
    · exact (List.nil_sublist changes).cons_cons change
    · exact List.nil_sublist _

theorem marked_sublist_landed (ending : ι → Ending) (changes : List (Change ι β)) :
    (marked ending changes).Sublist (landed ending changes) := by
  induction changes with
  | nil => exact List.Sublist.refl []
  | cons change changes ih =>
    rw [marked, landed]
    cases ending change.cell with
    | done => exact ih.cons_cons change
    | torn => exact List.nil_sublist _
    | refused => exact List.Sublist.refl []

theorem landed_eq_self {ending : ι → Ending} {changes : List (Change ι β)}
    (h : AllDone ending changes) : landed ending changes = changes := by
  induction changes with
  | nil => rfl
  | cons change changes ih =>
    rw [landed, h change List.mem_cons_self]
    exact congrArg _ (ih fun c hc => h c (List.mem_cons_of_mem change hc))

theorem marked_eq_self {ending : ι → Ending} {changes : List (Change ι β)}
    (h : AllDone ending changes) : marked ending changes = changes := by
  induction changes with
  | nil => rfl
  | cons change changes ih =>
    rw [marked, h change List.mem_cons_self]
    exact congrArg _ (ih fun c hc => h c (List.mem_cons_of_mem change hc))

/-! ## Contents -/

variable [DecidableEq ι]

/-- The replacements of some of the cells are found again by their cells. -/
theorem filter_cell_mem {l m : List (Change ι β)} (hnodup : (l.map Change.cell).Nodup)
    (h : m.Sublist l) : (l.filter fun change => decide (change.cell ∈ m.map Change.cell)) = m := by
  induction h with
  | slnil => rfl
  | @cons m l change h ih =>
    rw [List.map_cons, List.nodup_cons] at hnodup
    have hnotin : change.cell ∉ m.map Change.cell := fun hmem =>
      hnodup.1 ((h.map Change.cell).subset hmem)
    rw [List.filter_cons_of_neg (by simpa using hnotin), ih hnodup.2]
  | @cons_cons m l change h ih =>
    rw [List.map_cons, List.nodup_cons] at hnodup
    rw [List.filter_cons_of_pos (by simp)]
    refine congrArg _ (Eq.trans (List.filter_congr fun other hother => ?_) (ih hnodup.2))
    have hne : other.cell ≠ change.cell := fun heq =>
      hnodup.1 (heq ▸ List.mem_map_of_mem hother)
    rw [List.map_cons, decide_eq_decide, List.mem_cons, or_iff_right hne]

/-- Write into the cells of the replacements, in order. -/
def writeAll (content : Change ι β → β) (changes : List (Change ι β)) (cells : ι → β) : ι → β :=
  changes.foldl (fun cells change => Function.update cells change.cell (content change)) cells

/-- The cells after a replacement that ends so. -/
def Ending.write (ending : Ending) (cells : ι → β) (i : ι) (b : β) : ι → β :=
  match ending with
  | .refused => cells
  | .torn | .done => Function.update cells i b

variable {content : Change ι β → β} {changes : List (Change ι β)} {cells : ι → β}

@[simp]
theorem writeAll_nil : writeAll content [] cells = cells := rfl

@[simp]
theorem writeAll_cons (change : Change ι β) :
    writeAll content (change :: changes) cells =
      writeAll content changes (Function.update cells change.cell (content change)) := rfl

/-- The replacements stop with one that does not succeed. -/
theorem writeAll_landed_cons_of_ne {ending : ι → Ending} {change : Change ι β}
    (h : ending change.cell ≠ .done) :
    writeAll content (landed ending (change :: changes)) cells =
      (ending change.cell).write cells change.cell (content change) := by
  rw [landed]
  split
  · exact absurd ‹_› h
  · rename_i hending
    rw [hending]
    rfl
  · rename_i hending
    rw [hending]
    rfl

theorem writeAll_apply_of_forall_ne {i : ι} (h : ∀ change ∈ changes, change.cell ≠ i) :
    writeAll content changes cells i = cells i := by
  induction changes generalizing cells with
  | nil => rfl
  | cons change changes ih =>
    rw [writeAll_cons, ih fun c hc => h c (List.mem_cons_of_mem change hc),
      Function.update_of_ne (h change List.mem_cons_self).symm]

theorem writeAll_apply_of_mem (hnodup : (changes.map Change.cell).Nodup) {change : Change ι β}
    (h : change ∈ changes) : writeAll content changes cells change.cell = content change := by
  induction changes generalizing cells with
  | nil => cases h
  | cons c changes ih =>
    rw [List.map_cons, List.nodup_cons] at hnodup
    rw [writeAll_cons]
    rcases List.mem_cons.mp h with rfl | h
    · rw [writeAll_apply_of_forall_ne, Function.update_self]
      intro c hc hcell
      exact hnodup.1 (List.mem_map.mpr ⟨c, hc, hcell⟩)
    · exact ih hnodup.2 h

variable (hnodup : (changes.map Change.cell).Nodup)
  (hbefore : ∀ change ∈ changes, cells change.cell = change.before)

include hnodup hbefore

/-- Replacements are without trace if and only if they write what the cells hold already. -/
theorem writeAll_after_eq_iff :
    writeAll Change.after changes cells = cells ↔
      ∀ change ∈ changes, change.before = change.after := by
  constructor
  · intro h change hchange
    have hcell : writeAll Change.after changes cells change.cell = change.after :=
      writeAll_apply_of_mem hnodup hchange
    rw [← hbefore change hchange, ← hcell, h]
  · intro h
    ext i
    by_cases hi : ∃ change ∈ changes, change.cell = i
    · obtain ⟨change, hchange, rfl⟩ := hi
      rw [writeAll_apply_of_mem hnodup hchange, hbefore change hchange, h change hchange]
    · push Not at hi
      exact writeAll_apply_of_forall_ne hi

/-- Undoing replacements leaves no trace of them if and only if it undoes every one that changed
anything. -/
theorem writeAll_undo_eq_iff {undone : List (Change ι β)} (hundone : undone.Sublist changes) :
    writeAll Change.before undone (writeAll Change.after changes cells) = cells ↔
      ∀ change ∈ changes, change.before = change.after ∨ change ∈ undone := by
  have hnodup' : (undone.map Change.cell).Nodup := hnodup.sublist (hundone.map Change.cell)
  constructor
  · intro h change hchange
    by_cases hmem : change ∈ undone
    · exact Or.inr hmem
    · left
      -- nothing is written into its cell after its new content
      have hne : ∀ c ∈ undone, c.cell ≠ change.cell := by
        intro c hc hcell
        rw [List.inj_on_of_nodup_map hnodup (hundone.subset hc) hchange hcell] at hc
        exact hmem hc
      have hcell := congrFun h change.cell
      rw [writeAll_apply_of_forall_ne hne, writeAll_apply_of_mem hnodup hchange,
        hbefore change hchange] at hcell
      exact hcell.symm
  · intro h
    ext i
    by_cases hi : ∃ change ∈ undone, change.cell = i
    · obtain ⟨change, hchange, rfl⟩ := hi
      rw [writeAll_apply_of_mem hnodup' hchange, hbefore change (hundone.subset hchange)]
    · push Not at hi
      rw [writeAll_apply_of_forall_ne hi]
      by_cases hi' : ∃ change ∈ changes, change.cell = i
      · obtain ⟨change, hchange, rfl⟩ := hi'
        rw [writeAll_apply_of_mem hnodup hchange, hbefore change hchange]
        rcases h change hchange with heq | hmem
        · exact heq.symm
        · exact absurd rfl (hi change hmem)
      · push Not at hi'
        exact writeAll_apply_of_forall_ne hi'

end Replacement
