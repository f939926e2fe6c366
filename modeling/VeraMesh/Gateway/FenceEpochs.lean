import VeraMesh.Gateway.LaneInvariant
import VeraMesh.Lib.PackedCounter

/-!
# The fences of the logical read lanes

A logical fence is a counter below the bits of the epoch that the controller draws when it starts.

## Main results

* `Controller.allocateFences_spec`: the fences of a sequence of allocations are those of consecutive
  counters under one epoch.
* `Controller.ofEpoch_run`: in every run a controller records lanes under fences of its epoch only.
* `Controller.logicalFences_separate`: the fences of an epoch grow, are exact in JSON, are those of no
  other epoch, and are refused after a restart under another epoch.
-/

namespace VeraMesh.Gateway

/-- What is done with a controller. -/
inductive ControllerEvent where
  | call (operation : String) (body : GoMap)
  | machineInfo
  | close

namespace Controller

open PackedCounter

/-- `n` calls of `allocateFenceLocked` in a row, with the fences that they hand out. -/
def allocateFences (w : World) : ℕ → Controller → List ℤ × Controller
  | 0, c => ([], c)
  | n + 1, c =>
    match c.allocateFence w with
    | (.error _, c) => allocateFences w n c
    | (.ok fence, c) =>
      let (fences, c) := allocateFences w n c
      (fence :: fences, c)

/-- The epoch has no fence left. -/
def Exhausted (c : Controller) : Prop := c.fenceEpoch ≠ 0 ∧ 2 ^ 21 - 1 ≤ c.nextFence

/-- `Close`, without its report. -/
def shutdown (c : Controller) : Controller := { c with paths := .empty, readLanes := .empty }

def react (w : World) (c : Controller) : ControllerEvent → Controller
  | .call operation body => (c.call w operation body).2
  | .machineInfo => (c.machineInfo w).2
  | .close => c.shutdown

def reactAll (w : World) (c : Controller) (events : List ControllerEvent) : Controller :=
  events.foldl (react w) c

/-- The fence is one of the epoch. -/
def OfEpoch (epoch : ℕ) (fence : ℤ) : Prop :=
  ∃ counter, 1 ≤ counter ∧ counter < 2 ^ 21 ∧ fence = (pack 21 epoch counter : ℕ)

variable {w : World} {c : Controller}

/-! ## One allocation -/

theorem maskEpoch_lt (raw : Fin (2 ^ 32)) : maskEpoch raw < 2 ^ 31 := by
  have hmask : raw.val &&& (2 ^ 31 - 1) ≤ 2 ^ 31 - 1 := Nat.and_le_right
  unfold maskEpoch
  dsimp only
  split_ifs <;> omega

theorem maskEpoch_ne_zero (raw : Fin (2 ^ 32)) : maskEpoch raw ≠ 0 := by
  unfold maskEpoch
  dsimp only
  split_ifs with h
  · exact one_ne_zero
  · exact h

theorem allocateFence_of_exhausted (h : c.Exhausted) :
    ∃ err, c.allocateFence w = (.error err, c) := by
  refine ⟨⟨"logical read fence space exhausted for gateway incarnation", none⟩, ?_⟩
  simp only [allocateFence, if_pos h.1, if_pos h.2]

theorem allocateFence_of_not_exhausted (hepoch : c.fenceEpoch ≠ 0) (h : c.nextFence < 2 ^ 21 - 1) :
    c.allocateFence w = (.ok (pack 21 c.fenceEpoch (c.nextFence + 1) : ℕ),
      { c with nextFence := c.nextFence + 1 }) := by
  simp only [allocateFence, if_pos hepoch, if_neg (not_le.mpr h), pack]

/-- A controller without an epoch draws one first. -/
theorem allocateFence_of_no_epoch (h : c.fenceEpoch = 0) :
    c.allocateFence w =
      match w.epoch c.counter with
      | .error err => (.error err, c.tick)
      | .ok raw => ({ c.tick with fenceEpoch := maskEpoch raw } : Controller).allocateFence w := by
  cases hdraw : w.epoch c.counter with
  | error err => simp only [allocateFence, h, ne_eq, not_true_eq_false, if_false, hdraw]
  | ok raw =>
    simp only [allocateFence, h, ne_eq, not_true_eq_false, if_false, hdraw, maskEpoch_ne_zero,
      not_false_eq_true, if_true]

/-- What an allocation does: it fails and hands out no counter, or it hands out the next one under
the epoch, which is the one that the controller had if it had one. -/
theorem allocateFence_cases (h : c.fenceEpoch < 2 ^ 31) :
    ∃ outcome c', c.allocateFence w = (outcome, c') ∧ c'.fenceEpoch < 2 ^ 31 ∧
      (c.fenceEpoch ≠ 0 → c'.fenceEpoch = c.fenceEpoch) ∧
      ((∃ err, outcome = .error err ∧ c'.nextFence = c.nextFence) ∨
        c'.fenceEpoch ≠ 0 ∧ c'.nextFence = c.nextFence + 1 ∧ c'.nextFence < 2 ^ 21 ∧
          outcome = .ok (pack 21 c'.fenceEpoch c'.nextFence : ℕ)) := by
  -- under an epoch only the counter decides
  have hdrawn : ∀ c : Controller, c.fenceEpoch < 2 ^ 31 → c.fenceEpoch ≠ 0 →
      ∃ outcome c', c.allocateFence w = (outcome, c') ∧ c'.fenceEpoch = c.fenceEpoch ∧
        ((∃ err, outcome = .error err ∧ c'.nextFence = c.nextFence) ∨
          c'.nextFence = c.nextFence + 1 ∧ c'.nextFence < 2 ^ 21 ∧
            outcome = .ok (pack 21 c'.fenceEpoch c'.nextFence : ℕ)) := by
    intro c _ hepoch
    rcases lt_or_ge c.nextFence (2 ^ 21 - 1) with hleft | hfull
    · refine ⟨_, _, allocateFence_of_not_exhausted hepoch hleft, rfl, Or.inr ⟨rfl, ?_, rfl⟩⟩
      show c.nextFence + 1 < 2 ^ 21
      omega
    · obtain ⟨err, herr⟩ := allocateFence_of_exhausted (w := w) ⟨hepoch, hfull⟩
      exact ⟨_, _, herr, rfl, Or.inl ⟨err, rfl, rfl⟩⟩
  by_cases hepoch : c.fenceEpoch = 0
  · rw [allocateFence_of_no_epoch hepoch]
    cases w.epoch c.counter with
    | error err => exact ⟨_, _, rfl, h, absurd hepoch, Or.inl ⟨err, rfl, rfl⟩⟩
    | ok raw =>
      obtain ⟨outcome, c', heq, hsame, hcases⟩ :=
        hdrawn { c.tick with fenceEpoch := maskEpoch raw } (maskEpoch_lt raw) (maskEpoch_ne_zero raw)
      refine ⟨outcome, c', heq, hsame ▸ maskEpoch_lt raw, absurd hepoch, ?_⟩
      exact hcases.imp_right fun hok => ⟨hsame ▸ maskEpoch_ne_zero raw, hok⟩
  · obtain ⟨outcome, c', heq, hsame, hcases⟩ := hdrawn c h hepoch
    refine ⟨outcome, c', heq, hsame ▸ h, fun _ => hsame, ?_⟩
    exact hcases.imp_right fun hok => ⟨hsame ▸ hepoch, hok⟩

/-! ## A sequence of allocations -/

/-- The fences of `count` consecutive counters. -/
def consecutive (epoch start count : ℕ) : List ℤ :=
  (List.range count).map fun i => ((pack 21 epoch (start + 1 + i) : ℕ) : ℤ)

theorem consecutive_succ (epoch start count : ℕ) :
    consecutive epoch start (count + 1) =
      ((pack 21 epoch (start + 1) : ℕ) : ℤ) :: consecutive epoch (start + 1) count := by
  rw [consecutive, List.range_succ_eq_map, List.map_cons, List.map_map]
  congr 1
  apply List.map_congr_left
  intro i _
  show ((pack 21 epoch (start + 1 + (i + 1)) : ℕ) : ℤ) = (pack 21 epoch (start + 1 + 1 + i) : ℕ)
  rw [Nat.add_right_comm (start + 1) 1 i, Nat.add_assoc (start + 1)]

theorem mem_consecutive {epoch start count : ℕ} {fence : ℤ}
    (hfits : count ≠ 0 → start + count < 2 ^ 21) (h : fence ∈ consecutive epoch start count) :
    OfEpoch epoch fence := by
  obtain ⟨i, hi, rfl⟩ := List.mem_map.mp h
  have hlt := List.mem_range.mp hi
  have hbound := hfits (by omega)
  exact ⟨start + 1 + i, by omega, by omega, rfl⟩

theorem pairwise_consecutive {epoch start count : ℕ} (hfits : count ≠ 0 → start + count < 2 ^ 21) :
    (consecutive epoch start count).Pairwise (· < ·) := by
  rw [consecutive, List.pairwise_map]
  refine (List.pairwise_lt_range).imp_of_mem fun {i j} _ hj hij => ?_
  have hlt := List.mem_range.mp hj
  have hbound := hfits (by omega)
  have hpack : pack 21 epoch (start + 1 + i) < pack 21 epoch (start + 1 + j) :=
    pack_lt_pack (by omega) (by omega)
  exact_mod_cast hpack

/-- **What a sequence of allocations hands out**: the fences of consecutive counters, under the epoch
that the controller has in the end. -/
theorem allocateFences_spec (n : ℕ) (h : c.fenceEpoch < 2 ^ 31) :
    (allocateFences w n c).2.fenceEpoch < 2 ^ 31 ∧
      (c.fenceEpoch ≠ 0 → (allocateFences w n c).2.fenceEpoch = c.fenceEpoch) ∧
      ∃ count, (count ≠ 0 → c.nextFence + count < 2 ^ 21) ∧
        (allocateFences w n c).1 =
          consecutive (allocateFences w n c).2.fenceEpoch c.nextFence count := by
  induction n generalizing c with
  | zero => exact ⟨h, fun _ => rfl, 0, absurd rfl, rfl⟩
  | succ n ih =>
    obtain ⟨outcome, c', heq, hbound, hsame, hcases⟩ := allocateFence_cases (w := w) h
    obtain ⟨hbound', hsame', count, hfits, hfences⟩ := ih hbound
    rcases hcases with ⟨err, rfl, hnext⟩ | ⟨hepoch, hnext, hlt, rfl⟩
    · have hstep : allocateFences w (n + 1) c = allocateFences w n c' := by
        simp only [allocateFences, heq]
      rw [hstep]
      refine ⟨hbound', fun hne => ?_, count, hnext ▸ hfits, hnext ▸ hfences⟩
      rw [hsame' (hsame hne ▸ hne), hsame hne]
    · have hstep : allocateFences w (n + 1) c =
          (((pack 21 c'.fenceEpoch c'.nextFence : ℕ) : ℤ) :: (allocateFences w n c').1,
            (allocateFences w n c').2) := by
        simp only [allocateFences, heq]
      rw [hstep]
      refine ⟨hbound', fun hne => (hsame' hepoch).trans (hsame hne), count + 1, ?_, ?_⟩
      · intro _
        by_cases hcount : count = 0
        · omega
        · have hlast := hfits hcount
          omega
      · show _ :: (allocateFences w n c').1 = _
        rw [consecutive_succ, hfences, hsame' hepoch, hnext]

/-- Under an epoch an allocation only fails when no fence is left. -/
theorem length_allocateFences (n : ℕ) (h : c.fenceEpoch ≠ 0) :
    (allocateFences w n c).1.length = min n (2 ^ 21 - 1 - c.nextFence) := by
  induction n generalizing c with
  | zero => simp [allocateFences]
  | succ n ih =>
    rcases lt_or_ge c.nextFence (2 ^ 21 - 1) with hleft | hfull
    · simp only [allocateFences, allocateFence_of_not_exhausted h hleft, List.length_cons]
      rw [ih (c := { c with nextFence := c.nextFence + 1 }) h]
      dsimp only
      omega
    · obtain ⟨err, herr⟩ := allocateFence_of_exhausted (w := w) ⟨h, hfull⟩
      simp only [allocateFences, herr]
      rw [ih h]
      omega

/-! ## Epochs -/

theorem OfEpoch.bounds {epoch : ℕ} {fence : ℤ} (h : OfEpoch epoch fence) (hepoch : epoch < 2 ^ 31) :
    1 ≤ fence ∧ fence ≤ 2 ^ 52 - 1 := by
  obtain ⟨counter, hpos, hlt, rfl⟩ := h
  have hlower : counter ≤ pack 21 epoch counter := le_pack
  have hupper : pack 21 epoch counter < 2 ^ (31 + 21) := pack_lt hlt hepoch
  omega

theorem OfEpoch.eq {epoch epoch' : ℕ} {fence : ℤ} (h : OfEpoch epoch fence)
    (h' : OfEpoch epoch' fence) : epoch = epoch' := by
  obtain ⟨counter, -, hlt, rfl⟩ := h
  obtain ⟨counter', -, hlt', heq⟩ := h'
  exact epoch_eq_of_pack_eq hlt hlt' (by exact_mod_cast heq)

/-- The controller is in the epoch, and records lanes under fences of it only. -/
structure InEpoch (epoch : ℕ) (c : Controller) : Prop where
  fenceEpoch : c.fenceEpoch = epoch
  recorded : ∀ laneID lane, c.readLanes.get? laneID = some lane → OfEpoch epoch lane.fence

theorem laneInvariant_inEpoch (epoch : ℕ) :
    LaneInvariant (InEpoch epoch) fun lane => OfEpoch epoch lane.fence where
  congr h hsame := ⟨hsame.fenceEpoch.trans h.fenceEpoch, by
    rw [hsame.readLanes]
    exact h.recorded⟩
  erase h hr he := by
    refine ⟨he.trans h.fenceEpoch, fun laneID lane hget => ?_⟩
    rw [hr] at hget
    exact h.recorded laneID lane (Dict.get?_filter.mp hget).1
  setLane {c lane} h hQ := by
    refine ⟨h.fenceEpoch, fun laneID lane' hl => ?_⟩
    have hget : (c.readLanes.set lane.laneID lane).get? laneID = some lane' := hl
    rw [Dict.get?_set] at hget
    split_ifs at hget with heq
    · injection hget with hlane
      exact hlane ▸ hQ
    · exact h.recorded laneID lane' hget
  of_get h hget := h.recorded _ _ hget
  stable hQ _ hfence := by rw [hfence]; exact hQ

/-- Allocating a fence stays in the epoch, and the fence is one of it. -/
theorem InEpoch.allocateFence {epoch : ℕ} (h : InEpoch epoch c) (hne : epoch ≠ 0)
    (hbound : epoch < 2 ^ 31) :
    InEpoch epoch (c.allocateFence w).2 ∧
      ∀ fence, (c.allocateFence w).1 = .ok fence → OfEpoch epoch fence := by
  obtain ⟨rfl, hrecorded⟩ := h
  obtain ⟨outcome, c', heq, -, hsame, hcases⟩ := allocateFence_cases (w := w) hbound
  have hlanes := readLanes_allocateFence (w := w) c
  rw [heq] at hlanes ⊢
  refine ⟨⟨hsame hne, by rw [hlanes]; exact hrecorded⟩, fun fence hfence => ?_⟩
  rcases hcases with ⟨err, rfl, -⟩ | ⟨-, hnext, hlt, rfl⟩
  · cases hfence
  · injection hfence with hfence
    exact ⟨c'.nextFence, by omega, hlt, by rw [← hfence, hsame hne]⟩

/-- One event stays in the epoch. -/
theorem InEpoch.react {epoch : ℕ} (h : InEpoch epoch c) (hne : epoch ≠ 0) (hbound : epoch < 2 ^ 31)
    (event : ControllerEvent) : InEpoch epoch (c.react w event) := by
  cases event with
  | call operation body =>
    apply (laneInvariant_inEpoch epoch).call h
    intro _ _ c' h'
    obtain ⟨hkeep, hfence⟩ := h'.allocateFence (w := w) hne hbound
    exact ⟨hkeep, fun fence hok lane _ hlane => hlane ▸ hfence fence hok⟩
  | machineInfo => exact (laneInvariant_inEpoch epoch).machineInfo h
  | close => exact ⟨h.fenceEpoch, by simp [Controller.react, shutdown]⟩

/-- **A whole run stays in the epoch** that was drawn at its start. -/
theorem inEpoch_run (cfg : Config) (raw : Fin (2 ^ 32)) (events : List ControllerEvent) :
    InEpoch (maskEpoch raw) ((create cfg raw).reactAll w events) := by
  have hstart : InEpoch (maskEpoch raw) (create cfg raw) := ⟨rfl, by simp [create]⟩
  unfold reactAll
  generalize create cfg raw = c at hstart
  induction events generalizing c with
  | nil => exact hstart
  | cons event events ih =>
    exact ih _ (hstart.react (maskEpoch_ne_zero raw) (maskEpoch_lt raw) event)

/-- A controller refuses the fences of every other epoch. -/
theorem InEpoch.refuses {epoch epoch' : ℕ} {fence : ℤ} (h : InEpoch epoch' c)
    (hfence : OfEpoch epoch fence) (hne : epoch' ≠ epoch) (laneID : String) :
    (c.hasLogicalReadLane w laneID fence).1 = false := by
  unfold hasLogicalReadLane requireLogicalReadLane
  cases hget : c.readLanes.get? laneID with
  | none => rfl
  | some lane =>
    have hother : lane.fence ≠ fence := by
      rintro rfl
      exact hne ((h.recorded laneID lane hget).eq hfence)
    simp only [if_pos hother]

/-- The fences that a sequence of allocations hands out under an epoch grow, lie between 1 and
`2 ^ 52 - 1`, and are those of no other epoch; the sequence hands out all that the epoch has left, and
then fails and changes nothing. After a restart under another epoch a fence handed out before, whether
by such a sequence or in a run of the controller, is refused for every lane.

An epoch is what `newFenceEpoch` draws, and 0 as long as nothing is drawn. -/
theorem logicalFences_separate (w : World) (c : Controller) (epoch : Fin (2 ^ 31)) (n : ℕ) :
    let (fences, last) := allocateFences w n { c with fenceEpoch := epoch }
    fences.Pairwise (· < ·) ∧
      (∀ fence ∈ fences, 1 ≤ fence ∧ fence ≤ 2 ^ 52 - 1) ∧
      (epoch ≠ 0 → last.fenceEpoch = epoch ∧ fences.length = min n (2 ^ 21 - 1 - c.nextFence)) ∧
      (last.Exhausted → ∃ err, last.allocateFence w = (.error err, last)) ∧
      (∀ (w' : World) (c' : Controller) (epoch' : Fin (2 ^ 31)) (n' : ℕ),
        let (fences', last') := allocateFences w' n' { c' with fenceEpoch := epoch' }
        last'.fenceEpoch ≠ last.fenceEpoch → fences.Disjoint fences') ∧
      ∀ (w' : World) (cfg : Config) (raw : Fin (2 ^ 32)) (events : List ControllerEvent)
        (laneID : String),
        let restarted := (create cfg raw).reactAll w' events
        (maskEpoch raw ≠ last.fenceEpoch → ∀ fence ∈ fences,
          (restarted.hasLogicalReadLane w' laneID fence).1 = false) ∧
        ∀ (cfg₀ : Config) (raw₀ : Fin (2 ^ 32)) (events₀ : List ControllerEvent),
          maskEpoch raw ≠ maskEpoch raw₀ → ∀ laneID₀ lane,
            ((create cfg₀ raw₀).reactAll w events₀).readLanes.get? laneID₀ = some lane →
              (restarted.hasLogicalReadLane w' laneID lane.fence).1 = false := by
  obtain ⟨hbound, hsame, count, hfits, hfences⟩ :=
    allocateFences_spec (w := w) (c := { c with fenceEpoch := epoch }) n epoch.isLt
  have hlength := length_allocateFences (w := w) (c := { c with fenceEpoch := epoch }) n
  generalize allocateFences w n { c with fenceEpoch := epoch } = s at *
  obtain ⟨fences, last⟩ := s
  dsimp only at *
  subst hfences
  have hof : ∀ fence ∈ consecutive last.fenceEpoch c.nextFence count,
      OfEpoch last.fenceEpoch fence := fun fence hmem => mem_consecutive hfits hmem
  refine ⟨pairwise_consecutive hfits, fun fence hmem => (hof fence hmem).bounds hbound, ?_,
    allocateFence_of_exhausted, ?_, ?_⟩
  · intro hne
    have hpos : (epoch : ℕ) ≠ 0 := fun hzero => hne (Fin.ext hzero)
    exact ⟨hsame hpos, hlength hpos⟩
  · intro w' c' epoch' n'
    obtain ⟨-, -, count', hfits', hfences'⟩ :=
      allocateFences_spec (w := w') (c := { c' with fenceEpoch := epoch' }) n' epoch'.isLt
    intro hother fence hmem hmem'
    rw [hfences'] at hmem'
    exact hother ((mem_consecutive hfits' hmem').eq (hof fence hmem))
  · intro w' cfg raw events laneID
    have hrestarted := inEpoch_run (w := w') cfg raw events
    refine ⟨fun hother fence hmem => hrestarted.refuses (hof fence hmem) hother laneID, ?_⟩
    intro cfg₀ raw₀ events₀ hother laneID₀ lane hget
    exact hrestarted.refuses ((inEpoch_run cfg₀ raw₀ events₀).recorded laneID₀ lane hget) hother laneID

end Controller

end VeraMesh.Gateway
