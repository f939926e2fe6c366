import Mathlib.Data.List.SplitOn
import Mathlib.Tactic

/-!
# Quoted words

Words in quotes, with a separator between each two. A reader that knows no escapes gets the words
back if none of them has the quote in it.

* `readWords_quoteWords`: the round trip.
-/

namespace Quoting

variable {α : Type*} {quote sep : α}

/-- A word in quotes. -/
def quoted (quote : α) (word : List α) : List α := quote :: (word ++ [quote])

def quoteWords (quote sep : α) (words : List (List α)) : List α :=
  [sep].intercalate (words.map (quoted quote))

/-- Where a reader is. -/
inductive Reading (α : Type*) where
  /-- Before the quote that opens a word. -/
  | opening
  /-- In a word, after some of its characters. -/
  | word (start : List α)
  /-- After the quote that closes a word. -/
  | closed

/-- Read words from some point on. -/
def readFrom [DecidableEq α] (quote sep : α) : Reading α → List α → Option (List (List α))
  | .opening, [] => none
  | .opening, c :: rest => if c = quote then readFrom quote sep (.word []) rest else none
  | .word _, [] => none
  | .word start, c :: rest =>
    if c = quote then (start :: ·) <$> readFrom quote sep .closed rest
    else readFrom quote sep (.word (start ++ [c])) rest
  | .closed, [] => some []
  | .closed, c :: rest => if c = sep then readFrom quote sep .opening rest else none

/-- Read quoted words. -/
def readWords [DecidableEq α] (quote sep : α) (text : List α) : Option (List (List α)) :=
  readFrom quote sep .opening text

variable [DecidableEq α]

/-- A word is read up to its closing quote. -/
theorem readFrom_word {start word rest : List α} (h : quote ∉ word) :
    readFrom quote sep (.word start) (word ++ quote :: rest) =
      ((start ++ word) :: ·) <$> readFrom quote sep .closed rest := by
  induction word generalizing start with
  | nil => rw [List.nil_append, readFrom, if_pos rfl, List.append_nil]
  | cons c word ih =>
    obtain ⟨hc, hword⟩ := not_or.mp (List.mem_cons.not.mp h)
    rw [List.cons_append, readFrom, if_neg (Ne.symm hc), ih hword, List.append_assoc]
    rfl

theorem readFrom_quoted {word rest : List α} (h : quote ∉ word) :
    readFrom quote sep .opening (quoted quote word ++ rest) =
      (word :: ·) <$> readFrom quote sep .closed rest := by
  rw [quoted, List.cons_append, List.append_assoc, readFrom, if_pos rfl]
  exact readFrom_word h

/-- Quoted words are read back. -/
theorem readWords_quoteWords {words : List (List α)} (hne : words ≠ [])
    (h : ∀ word ∈ words, quote ∉ word) :
    readWords quote sep (quoteWords quote sep words) = some words := by
  obtain ⟨first, words, rfl⟩ := List.exists_cons_of_ne_nil hne
  induction words generalizing first with
  | nil =>
    have hread : readFrom quote sep .opening (quoted quote first) = some [first] := by
      rw [← List.append_nil (quoted quote first), readFrom_quoted (h first List.mem_cons_self)]
      rfl
    rw [readWords, quoteWords, List.map_singleton, List.intercalate_singleton, hread]
  | cons second words ih =>
    obtain ⟨hfirst, hrest⟩ := List.forall_mem_cons.mp h
    have hsplit : quoteWords quote sep (first :: second :: words) =
        quoted quote first ++ sep :: quoteWords quote sep (second :: words) := by
      simp [quoteWords, List.intercalate]
    rw [readWords, hsplit, readFrom_quoted hfirst, readFrom, if_pos rfl]
    have hread := ih second (by simp) hrest
    rw [readWords] at hread
    rw [hread]
    rfl

end Quoting
