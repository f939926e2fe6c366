import VeraMesh.Python.Value

/-!
# Path selection

`select_path` of `synchrony.py`: among the current, authenticated and healthy paths the one with
the smallest key (mode, round-trip time, path id), the first of them on a tie.
-/

namespace VeraMesh

open Python

/-- How a path reaches the workstation. -/
inductive PathMode where
  | directStream
  | edgeStream
  | durableRelay
  deriving DecidableEq

/-- `int(mode)`. -/
def PathMode.value : PathMode → ℕ
  | .directStream => 0
  | .edgeStream => 1
  | .durableRelay => 2

/-- `mode.name`. -/
def PathMode.name : PathMode → String
  | .directStream => "DIRECT_STREAM"
  | .edgeStream => "EDGE_STREAM"
  | .durableRelay => "DURABLE_RELAY"

theorem PathMode.value_injective : Function.Injective PathMode.value := by
  intro a b h
  cases a <;> cases b <;> first | rfl | cases h

/-- The last observation of a path, with the checks of `__post_init__`. -/
structure PathObservation where
  pathId : String
  mode : PathMode
  authenticated : Bool
  healthy : Bool
  observedAtMs : ℤ
  rttMs : Option PyFloat
  pathId_ne : pathId ≠ "" := by decide
  observedAtMs_nonneg : 0 ≤ observedAtMs := by decide
  rttMs_nonneg : ∀ rtt ∈ rttMs, rtt.lt 0 = false := by decide
  deriving DecidableEq

namespace PathObservation

/-- Why a path is passed over, `none` if it is eligible. -/
def rejection (item : PathObservation) (nowMs maxAgeMs : ℤ) : Option String :=
  if item.observedAtMs > nowMs then some "CLOCK_FUTURE"
  else if nowMs - item.observedAtMs > maxAgeMs then some "STALE"
  else if !item.authenticated then some "UNAUTHENTICATED"
  else if !item.healthy then some "UNHEALTHY"
  else none

/-- `key(a) < key(b)` for the key `(int(mode), inf if rtt_ms is None else rtt_ms, path_id)`.
Tuples are compared at the first place where they differ. -/
def keyLt (a b : PathObservation) : Bool :=
  let rttA := a.rttMs.getD .posInf
  let rttB := b.rttMs.getD .posInf
  if a.mode ≠ b.mode then decide (a.mode.value < b.mode.value)
  else if !rttA.eq rttB then rttA.lt rttB
  else decide (a.pathId < b.pathId)

theorem rejection_eq_none_iff {item : PathObservation} {nowMs maxAgeMs : ℤ} :
    item.rejection nowMs maxAgeMs = none ↔
      (item.observedAtMs ≤ nowMs ∧ nowMs - item.observedAtMs ≤ maxAgeMs) ∧
        item.authenticated = true ∧ item.healthy = true := by
  unfold rejection
  split_ifs with hfuture hstale hauth hhealthy
  · simp only [false_iff]
    omega
  · simp only [false_iff]
    omega
  · simp_all
  · simp_all
  · refine iff_of_true rfl ⟨⟨not_lt.mp hfuture, not_lt.mp hstale⟩, ?_, ?_⟩
    · simpa using hauth
    · simpa using hhealthy

/-- The round-trip time in the key. -/
def rttKey (item : PathObservation) : PyFloat := item.rttMs.getD .posInf

/-- The path `a` comes before `b` by mode priority, then by round-trip time, a missing one last, then
by path id. -/
def Before (a b : PathObservation) : Prop :=
  a.mode.value < b.mode.value ∨ a.mode = b.mode ∧
    (a.rttKey.lt b.rttKey = true ∨ a.rttKey.eq b.rttKey = true ∧ a.pathId < b.pathId)

/-- The keys are compared lexicographically. -/
theorem keyLt_iff {a b : PathObservation} : a.keyLt b = true ↔ a.Before b := by
  unfold Before keyLt
  dsimp only
  rw [← rttKey, ← rttKey]
  by_cases hmode : a.mode = b.mode
  · rw [if_neg (not_not.mpr hmode)]
    cases heq : a.rttKey.eq b.rttKey with
    | false => simp [hmode]
    | true =>
      have hlt : a.rttKey.lt b.rttKey = false := by
        rw [Bool.eq_false_iff]
        exact fun hlt => by simp [PyFloat.eq_false_of_lt hlt] at heq
      simp [hmode, hlt]
  · rw [if_pos hmode]
    simp [hmode]

/-- The order of the keys is transitive. A round-trip time that is no number is in no relation. -/
theorem keyLt_trans {a b c : PathObservation} (hab : a.keyLt b = true) (hbc : b.keyLt c = true) :
    a.keyLt c = true := by
  rw [keyLt_iff, Before] at *
  rcases hab with hab | ⟨hmode, hab⟩
  · rcases hbc with hbc | ⟨hmode, -⟩
    · exact Or.inl (hab.trans hbc)
    · exact Or.inl (hmode ▸ hab)
  · rcases hbc with hbc | ⟨hmode', hbc⟩
    · exact Or.inl (hmode ▸ hbc)
    · refine Or.inr ⟨hmode.trans hmode', ?_⟩
      rcases hab with hab | ⟨heq, hab⟩
      · have hle : b.rttKey.le c.rttKey = true := by
          rcases hbc with hbc | ⟨heq, -⟩
          · exact (Bool.and_eq_true_iff.mp hbc).1
          · exact (Bool.and_eq_true_iff.mp heq).1
        exact Or.inl (PyFloat.lt_of_lt_of_le hab hle)
      · rcases hbc with hbc | ⟨heq', hbc⟩
        · exact Or.inl (PyFloat.lt_of_le_of_lt (Bool.and_eq_true_iff.mp heq).1 hbc)
        · exact Or.inr ⟨PyFloat.eq_trans heq heq', hab.trans hbc⟩

theorem keyLt_irrefl (a : PathObservation) : a.keyLt a = false := by
  rw [Bool.eq_false_iff]
  intro h
  rcases keyLt_iff.mp h with h | ⟨-, h | ⟨-, h⟩⟩
  · exact lt_irrefl _ h
  · simp [PyFloat.lt] at h
  · exact lt_irrefl _ h

theorem keyLt_asymm {a b : PathObservation} (h : a.keyLt b = true) : b.keyLt a = false := by
  rw [Bool.eq_false_iff]
  exact fun h' => Bool.eq_false_iff.mp a.keyLt_irrefl (keyLt_trans h h')

/-- Two paths with round-trip times that are numbers, and with different ids, are comparable. -/
theorem keyLt_or_keyLt {a b : PathObservation} (ha : a.rttKey ≠ .nan) (hb : b.rttKey ≠ .nan)
    (hne : a.pathId ≠ b.pathId) : a.keyLt b = true ∨ b.keyLt a = true := by
  rw [keyLt_iff, keyLt_iff, Before, Before]
  rcases lt_trichotomy a.mode.value b.mode.value with hmode | hmode | hmode
  · exact Or.inl (Or.inl hmode)
  · have hmode := PathMode.value_injective hmode
    cases hab : a.rttKey.le b.rttKey with
    | false =>
      have hba := (PyFloat.le_total ha hb).resolve_left (by simp [hab])
      exact Or.inr (Or.inr ⟨hmode.symm, Or.inl (by simp [PyFloat.lt, hba, hab])⟩)
    | true =>
      cases hba : b.rttKey.le a.rttKey with
      | false => exact Or.inl (Or.inr ⟨hmode, Or.inl (by simp [PyFloat.lt, hba, hab])⟩)
      | true =>
        rcases lt_or_gt_of_ne hne with hlt | hlt
        · exact Or.inl (Or.inr ⟨hmode, Or.inr ⟨by simp [PyFloat.eq, hba, hab], hlt⟩⟩)
        · exact Or.inr (Or.inr ⟨hmode.symm, Or.inr ⟨by simp [PyFloat.eq, hba, hab], hlt⟩⟩)
  · exact Or.inr (Or.inl hmode)

end PathObservation

/-- The outcome of a selection. -/
structure PathDecision where
  selected : Option PathObservation
  rejected : List (String × String)
  deriving DecidableEq

/-- The better of two items, the earlier one on a tie. -/
def PathObservation.better (best next : PathObservation) : PathObservation :=
  if next.keyLt best then next else best

/-- `min(items, key=...)`: the first item that no later one is smaller than. -/
def minByKey : List PathObservation → Option PathObservation
  | [] => none
  | item :: rest => some (rest.foldl PathObservation.better item)

private theorem foldl_better_mem (l : List PathObservation) (init : PathObservation) :
    l.foldl PathObservation.better init ∈ init :: l := by
  induction l generalizing init with
  | nil => exact List.mem_cons_self
  | cons next l ih =>
    have hmem := ih (init.better next)
    have hbetter : init.better next = init ∨ init.better next = next := by
      unfold PathObservation.better
      split
      · exact Or.inr rfl
      · exact Or.inl rfl
    rcases List.mem_cons.mp hmem with heq | hin
    · rw [List.foldl_cons, heq]
      rcases hbetter with h | h <;> simp [h]
    · exact List.mem_cons_of_mem _ (List.mem_cons_of_mem _ hin)

theorem mem_of_minByKey {items : List PathObservation} {best : PathObservation}
    (h : minByKey items = some best) : best ∈ items := by
  cases items with
  | nil => cases h
  | cons item rest =>
    rw [minByKey, Option.some.injEq] at h
    exact h ▸ foldl_better_mem rest item

/-- Going through the items, the best one only gets better, and no item is before it. -/
private theorem foldl_better_spec (l : List PathObservation) (init : PathObservation) :
    (l.foldl PathObservation.better init = init ∨
      (l.foldl PathObservation.better init).keyLt init = true) ∧
      ∀ item ∈ l, item.keyLt (l.foldl PathObservation.better init) = false := by
  induction l generalizing init with
  | nil => exact ⟨Or.inl rfl, by simp⟩
  | cons next l ih =>
    obtain ⟨hbest, hrest⟩ := ih (init.better next)
    rw [List.foldl_cons]
    generalize l.foldl PathObservation.better (init.better next) = best at *
    rw [List.forall_mem_cons]
    unfold PathObservation.better at hbest
    split_ifs at hbest with hlt
    · rcases hbest with rfl | hbest
      · exact ⟨Or.inr hlt, PathObservation.keyLt_irrefl _, hrest⟩
      · exact ⟨Or.inr (PathObservation.keyLt_trans hbest hlt),
          PathObservation.keyLt_asymm hbest, hrest⟩
    · refine ⟨hbest, ?_, hrest⟩
      rw [Bool.eq_false_iff]
      rcases hbest with rfl | hbest
      · exact hlt
      · exact fun h => hlt (PathObservation.keyLt_trans h hbest)

/-- No item is before the one that is chosen. -/
theorem not_keyLt_minByKey {items : List PathObservation} {best : PathObservation}
    (h : minByKey items = some best) : ∀ item ∈ items, item.keyLt best = false := by
  cases items with
  | nil => cases h
  | cons first rest =>
    rw [minByKey, Option.some.injEq] at h
    obtain ⟨hbest, hrest⟩ := foldl_better_spec rest first
    rw [h] at hbest hrest
    refine List.forall_mem_cons.mpr ⟨?_, hrest⟩
    rcases hbest with rfl | hbest
    · exact PathObservation.keyLt_irrefl best
    · exact PathObservation.keyLt_asymm hbest

theorem minByKey_eq_none_iff {items : List PathObservation} :
    minByKey items = none ↔ items = [] := by
  cases items <;> simp [minByKey]

/-- `select_path`. -/
def selectPath (observations : List PathObservation) (nowMs maxAgeMs : ℤ) :
    Except PyError PathDecision :=
  if nowMs < 0 ∨ maxAgeMs < 0 then .error ⟨.valueError, "time values must be non-negative"⟩
  else
    .ok
      { selected := minByKey (observations.filter fun item =>
          (item.rejection nowMs maxAgeMs).isNone)
        rejected := observations.filterMap fun item =>
          (item.rejection nowMs maxAgeMs).map fun reason => (item.pathId, reason) }

/-- A selected path is one of those offered, and it is eligible. -/
theorem selectPath_ok {observations : List PathObservation} {nowMs maxAgeMs : ℤ}
    {decision : PathDecision} (h : selectPath observations nowMs maxAgeMs = .ok decision)
    {item : PathObservation} (hsel : decision.selected = some item) :
    item ∈ observations ∧ item.rejection nowMs maxAgeMs = none := by
  unfold selectPath at h
  split_ifs at h
  cases h
  have hmem := mem_of_minByKey hsel
  simpa using hmem

/-- No eligible path is before the selected one. -/
theorem selectPath_best {observations : List PathObservation} {nowMs maxAgeMs : ℤ}
    {decision : PathDecision} (h : selectPath observations nowMs maxAgeMs = .ok decision)
    {best : PathObservation} (hsel : decision.selected = some best) {item : PathObservation}
    (hitem : item ∈ observations) (heligible : item.rejection nowMs maxAgeMs = none) :
    item.keyLt best = false := by
  unfold selectPath at h
  split_ifs at h
  cases h
  exact not_keyLt_minByKey hsel item (List.mem_filter.mpr ⟨hitem, by simp [heligible]⟩)

/-- No path is selected only if none is eligible. -/
theorem selectPath_none {observations : List PathObservation} {nowMs maxAgeMs : ℤ}
    {decision : PathDecision} (h : selectPath observations nowMs maxAgeMs = .ok decision)
    (hsel : decision.selected = none) {item : PathObservation} (hitem : item ∈ observations) :
    item.rejection nowMs maxAgeMs ≠ none := by
  unfold selectPath at h
  split_ifs at h
  cases h
  intro heligible
  have hempty := List.filter_eq_nil_iff.mp (minByKey_eq_none_iff.mp hsel) item hitem
  simp [heligible] at hempty

end VeraMesh
