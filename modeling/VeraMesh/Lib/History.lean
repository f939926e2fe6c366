import Mathlib.Data.List.Basic

/-!
# Histories

A history is a list of events, oldest first. `Throughout P` says that every event of a history is
in the relation `P` to what came before it. It is shown one event at a time (`throughout_concat`).

`latest f` is the last value that `f` reads from an event.
-/

namespace History

variable {α β : Type}

/-- Every event of the history satisfies `P` together with the history before it. -/
def Throughout (P : List α → α → Prop) (l : List α) : Prop :=
  ∀ before event after, l = before ++ event :: after → P before event

theorem throughout_nil {P : List α → α → Prop} : Throughout P [] := by
  intro before event after h
  simp at h

/-- A history with one more event. -/
theorem throughout_concat {P : List α → α → Prop} {l : List α} {a : α} :
    Throughout P (l ++ [a]) ↔ Throughout P l ∧ P l a := by
  constructor
  · intro h
    refine ⟨fun before event after hl => h before event (after ++ [a]) ?_, h l a [] rfl⟩
    rw [hl, List.append_assoc, List.cons_append]
  · rintro ⟨hl, ha⟩ before event after heq
    rcases List.eq_nil_or_concat after with rfl | ⟨after, last, rfl⟩
    · obtain ⟨rfl, hevent⟩ := List.append_inj' heq rfl
      obtain rfl := List.singleton_inj.mp hevent
      exact ha
    · have hassoc : l ++ [a] = (before ++ event :: after) ++ [last] := by simpa using heq
      exact hl before event after (List.append_inj' hassoc rfl).1

theorem Throughout.imp {P Q : List α → α → Prop} {l : List α} (h : Throughout P l)
    (hPQ : ∀ before event, P before event → Q before event) : Throughout Q l :=
  fun before event after hl => hPQ before event (h before event after hl)

/-- The last value that `f` reads from an event. -/
def latest (f : α → Option β) (l : List α) : Option β := (l.filterMap f).getLast?

@[simp]
theorem latest_nil (f : α → Option β) : latest f [] = none := rfl

/-- An event from which something is read overrides the ones before. -/
theorem latest_concat (f : α → Option β) (l : List α) (a : α) :
    latest f (l ++ [a]) = (f a).or (latest f l) := by
  unfold latest
  rw [List.filterMap_append]
  cases hfa : f a with
  | none => simp [hfa]
  | some b => simp [hfa]

end History
