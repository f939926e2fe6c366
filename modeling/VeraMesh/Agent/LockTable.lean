import Mathlib.Data.List.Count
import VeraMesh.Agent.LaneLocks

/-!
# What the lock table holds

The count of a lane is the number of the coroutines that hold or wait for its lock, and of those that
were cancelled while they waited: `lock.acquire()` stands before the `try`, so nobody counts them out.

## Main results

* `LaneLocks.Counted.run`: the table after a run, by what happened in it.
* `LaneLocks.lockTable_run`: exclusion in every run, and no entry of an idle lane in every run in which
  no waiting coroutine is cancelled.
-/

namespace VeraMesh

/-- What a task does in `_lane_operation`. It is suspended there while it waits for the lock and
while it is inside, and can be cancelled in both cases. -/
inductive LockEvent where
  | enter (task : ℕ) (laneId : String)
  | acquire (task : ℕ)
  | exit (task : ℕ)
  | cancel (task : ℕ)

namespace LaneLocks

/-- One event, `none` if it cannot happen. -/
def step (s : LaneLocks) : LockEvent → Option LaneLocks
  | .enter task laneId => if s.frames.contains task then none else some (s.enter task laneId)
  | .acquire task => s.acquire task
  | .exit task =>
    match s.frames.get? task with
    | none => none
    | some frame => if frame.inside then some (s.exit task) else none
  | .cancel task => if s.frames.contains task then some (s.cancel task) else none

/-- A run. -/
def run (s : LaneLocks) (events : List LockEvent) : Option LaneLocks := events.foldlM step s

/-- The lane of a coroutine that the event cancels while it waits for the lock. -/
def abandons (s : LaneLocks) : LockEvent → Option String
  | .cancel task =>
    match s.frames.get? task with
    | none => none
    | some frame => if frame.inside then none else some frame.laneId
  | _ => none

/-- The lanes of all coroutines that a run cancels while they wait. -/
def abandoned (s : LaneLocks) : List LockEvent → List String
  | [] => []
  | event :: events =>
    match s.step event with
    | none => []
    | some s' => (s.abandons event).toList ++ s'.abandoned events

/-- How often a lane is counted: for its users, and for the waits that were `lost`. -/
def uses (lost : List String) (s : LaneLocks) (laneId : String) : ℕ :=
  (s.users laneId).card + lost.count laneId

/-- The tables have an entry for each lane that is counted. -/
structure Counted (lost : List String) (s : LaneLocks) : Prop where
  inv : Inv s
  locks_eq_none : ∀ laneId, s.laneLocks.get? laneId = none ↔ s.uses lost laneId = 0
  users_eq : ∀ laneId, s.laneLockUsers.get? laneId =
    if s.uses lost laneId = 0 then none else some (s.uses lost laneId : ℤ)

variable {s s' : LaneLocks} {task : ℕ} {laneId : String} {lost : List String}

theorem users_congr (h : s'.frames = s.frames) : s'.users = s.users := by
  funext laneId
  rw [users, users, h]

theorem Counted.empty : Counted [] LaneLocks.empty := by
  have huses : ∀ laneId, LaneLocks.empty.uses [] laneId = 0 := fun _ => rfl
  refine ⟨Inv.empty, fun laneId => ?_, fun laneId => ?_⟩
  · exact iff_of_true rfl (huses laneId)
  · rw [if_pos (huses laneId)]
    rfl

/-- Entering counts one more user. -/
theorem Counted.enter (h : Counted lost s) (hfree : s.frames.get? task = none) :
    Counted lost (s.enter task laneId) := by
  obtain ⟨lock, hframes, husers, htable⟩ := enter_cases s task laneId
  have hnot : task ∉ s.users laneId := by
    rw [mem_users, hfree]
    rintro ⟨frame, hframe, -⟩
    cases hframe
  have huses : ∀ id, (s.enter task laneId).uses lost id =
      if id = laneId then s.uses lost id + 1 else s.uses lost id := by
    intro id
    have hset := users_set s task ⟨laneId, lock, false⟩ id hfree
    have hsame : (s.enter task laneId).users id = _ := congrFun (users_congr
      (s := { s with frames := s.frames.set task ⟨laneId, lock, false⟩ }) hframes) id
    unfold uses
    rw [hsame, hset]
    by_cases hid : id = laneId
    · subst hid
      rw [if_pos rfl, if_pos rfl, Finset.card_insert_of_notMem hnot]
      omega
    · rw [if_neg (Ne.symm hid), if_neg hid]
  refine ⟨h.inv.enter hfree, fun id => ?_, fun id => ?_⟩
  · rw [huses]
    by_cases hid : id = laneId
    · subst hid
      rw [if_pos rfl]
      refine iff_of_false ?_ (Nat.succ_ne_zero _)
      rcases htable with ⟨hget, heq, -⟩ | ⟨-, -, heq, -⟩
      · rw [heq, hget]
        exact Option.some_ne_none lock
      · rw [heq, Dict.get?_set_self]
        exact Option.some_ne_none lock
    · rw [if_neg hid, ← h.locks_eq_none]
      rcases htable with ⟨-, heq, -⟩ | ⟨-, -, heq, -⟩
      · rw [heq]
      · rw [heq, Dict.get?_set_ne _ _ hid]
  · rw [huses, husers]
    by_cases hid : id = laneId
    · subst hid
      rw [if_pos rfl, if_neg (Nat.succ_ne_zero _), Dict.get?_set_self, h.users_eq]
      split_ifs with hnone
      · rw [hnone]
        rfl
      · rw [Option.getD_some]
        push_cast
        rfl
    · rw [if_neg hid, Dict.get?_set_ne _ _ hid, h.users_eq]

theorem Counted.acquire (h : Counted lost s) (hacquire : s.acquire task = some s') :
    Counted lost s' := by
  have hinv := h.inv.acquire hacquire
  cases hframe : s.frames.get? task with
  | none =>
    unfold LaneLocks.acquire at hacquire
    rw [hframe] at hacquire
    cases hacquire
  | some frame =>
    obtain ⟨-, -, rfl⟩ := acquire_eq_some hframe hacquire
    -- the users of a lane are the same
    have huses : ∀ id, uses lost { s with frames := s.frames.set task { frame with inside := true } }
        id = s.uses lost id := by
      intro id
      have hsame : users { s with frames := s.frames.set task { frame with inside := true } } id =
          s.users id := by
        ext i
        rw [mem_users, mem_users]
        show (∃ f, (s.frames.set task _).get? i = some f ∧ f.laneId = id) ↔ _
        rw [Dict.get?_set]
        by_cases hi : i = task
        · subst hi
          simp [hframe]
        · rw [if_neg hi]
      rw [uses, hsame, uses]
    refine ⟨hinv, fun id => ?_, fun id => ?_⟩
    · rw [huses]
      exact h.locks_eq_none id
    · rw [huses]
      exact h.users_eq id

/-- Dropping a user counts one less. -/
theorem card_users_erase {frame : LaneFrame} (hframe : s.frames.get? task = some frame) (id : String) :
    (users { s with frames := s.frames.erase task } id).card =
      if id = frame.laneId then (s.users id).card - 1 else (s.users id).card := by
  rw [users_erase]
  split_ifs with hid
  · exact Finset.card_erase_of_mem (mem_users.mpr ⟨frame, hframe, hid.symm⟩)
  · rw [Finset.erase_eq_of_notMem]
    rw [mem_users, hframe]
    rintro ⟨f, hf, hlane⟩
    obtain rfl := Option.some.inj hf
    exact hid hlane.symm

theorem card_users_pos {frame : LaneFrame} (hframe : s.frames.get? task = some frame) :
    0 < (s.users frame.laneId).card :=
  Finset.card_pos.mpr ⟨task, mem_users.mpr ⟨frame, hframe, rfl⟩⟩

theorem Counted.exit (h : Counted lost s) {frame : LaneFrame}
    (hframe : s.frames.get? task = some frame) : Counted lost (s.exit task) := by
  have hpos := card_users_pos hframe
  have huses : ∀ id, (s.exit task).uses lost id =
      if id = frame.laneId then s.uses lost id - 1 else s.uses lost id := by
    intro id
    have hsame : (s.exit task).users id = _ := congrFun (users_congr
      (s := { s with frames := s.frames.erase task }) (frames_exit s task)) id
    rw [uses, hsame, card_users_erase hframe, uses]
    split_ifs with hid
    · subst hid
      omega
    · rfl
  have hcount : (s.laneLockUsers.get? frame.laneId).getD 1 = s.uses lost frame.laneId := by
    have hne : s.uses lost frame.laneId ≠ 0 := by
      unfold uses
      omega
    rw [h.users_eq, if_neg hne, Option.getD_some]
  have hlock := h.inv.lock_eq hframe
  -- the entry goes with the last one that is counted
  by_cases hlast : s.uses lost frame.laneId = 1
  · have hexit : s.exit task = { s with
        laneLocks := s.laneLocks.erase frame.laneId
        laneLockUsers := s.laneLockUsers.erase frame.laneId
        frames := s.frames.erase task } := by
      unfold LaneLocks.exit
      simp only [hframe, hcount, hlast, hlock, if_true]
      rfl
    refine ⟨h.inv.exit task, fun id => ?_, fun id => ?_⟩
    · rw [huses, hexit]
      dsimp only
      rw [Dict.get?_erase]
      split_ifs with hid
      · subst hid
        exact iff_of_true rfl (by omega)
      · exact h.locks_eq_none id
    · rw [huses, hexit]
      dsimp only
      rw [Dict.get?_erase]
      split_ifs with hid hzero hzero
      · rfl
      · subst hid
        omega
      · rw [h.users_eq, if_pos hzero]
      · rw [h.users_eq, if_neg hzero]
  · have hmore : 2 ≤ s.uses lost frame.laneId := by
      unfold uses at hlast ⊢
      omega
    have hexit : s.exit task = { s with
        laneLockUsers := s.laneLockUsers.set frame.laneId ((s.uses lost frame.laneId : ℤ) - 1)
        frames := s.frames.erase task } := by
      unfold LaneLocks.exit
      simp only [hframe, hcount]
      rw [if_neg (by omega)]
    refine ⟨h.inv.exit task, fun id => ?_, fun id => ?_⟩
    · rw [huses, hexit]
      have hold := h.locks_eq_none id
      dsimp only
      split_ifs with hid
      · subst hid
        rw [hold]
        omega
      · exact hold
    · rw [huses, hexit]
      dsimp only
      rw [Dict.get?_set]
      split_ifs with hid hzero hzero
      · subst hid
        omega
      · subst hid
        congr 1
        omega
      · rw [h.users_eq, if_pos hzero]
      · rw [h.users_eq, if_neg hzero]

/-- A cancelled wait is no longer one of a user, and is counted all the same. -/
theorem Counted.abandon (h : Counted lost s) {frame : LaneFrame}
    (hframe : s.frames.get? task = some frame) :
    Counted (frame.laneId :: lost) { s with frames := s.frames.erase task } := by
  have hpos := card_users_pos hframe
  have huses : ∀ id, uses (frame.laneId :: lost) { s with frames := s.frames.erase task } id =
      s.uses lost id := by
    intro id
    rw [uses, card_users_erase hframe, uses]
    by_cases hid : id = frame.laneId
    · subst hid
      rw [if_pos rfl, List.count_cons_self]
      omega
    · rw [if_neg hid, List.count_cons_of_ne (Ne.symm hid)]
  refine ⟨h.inv.drop task, fun id => ?_, fun id => ?_⟩
  · rw [huses]
    exact h.locks_eq_none id
  · rw [huses]
    exact h.users_eq id

theorem Counted.perm {lost' : List String} (h : Counted lost s) (hperm : lost.Perm lost') :
    Counted lost' s := by
  have huses : ∀ id, s.uses lost' id = s.uses lost id := by
    intro id
    rw [uses, uses, hperm.count_eq]
  refine ⟨h.inv, fun id => ?_, fun id => ?_⟩
  · rw [huses]
    exact h.locks_eq_none id
  · rw [huses]
    exact h.users_eq id

/-- One event. -/
theorem Counted.step (h : Counted lost s) {event : LockEvent} (hstep : s.step event = some s') :
    Counted ((s.abandons event).toList ++ lost) s' := by
  cases event with
  | enter task laneId =>
    simp only [LaneLocks.step] at hstep
    split_ifs at hstep with hbusy
    obtain rfl := Option.some.inj hstep
    exact h.enter (Dict.contains_eq_false_iff.mp (Bool.eq_false_iff.mpr hbusy))
  | acquire task => exact h.acquire hstep
  | exit task =>
    simp only [LaneLocks.step] at hstep
    cases hframe : s.frames.get? task with
    | none => simp [hframe] at hstep
    | some frame =>
      simp only [hframe] at hstep
      split_ifs at hstep
      obtain rfl := Option.some.inj hstep
      exact h.exit hframe
  | cancel task =>
    simp only [LaneLocks.step] at hstep
    split_ifs at hstep with hbusy
    obtain rfl := Option.some.inj hstep
    obtain ⟨frame, hframe⟩ := Dict.contains_eq_true_iff.mp hbusy
    simp only [abandons, LaneLocks.cancel, hframe]
    split_ifs with hinside
    · exact h.exit hframe
    · exact h.abandon hframe

/-- **A whole run**: the tables count the users, and the waits that the run cancelled. -/
theorem Counted.run {events : List LockEvent} (h : Counted lost s) (hrun : s.run events = some s') :
    Counted (s.abandoned events ++ lost) s' := by
  induction events generalizing s lost with
  | nil =>
    obtain rfl := Option.some.inj hrun
    exact h
  | cons event events ih =>
    rw [LaneLocks.run, List.foldlM_cons] at hrun
    cases hstep : s.step event with
    | none =>
      rw [hstep] at hrun
      cases hrun
    | some s₁ =>
      rw [hstep] at hrun
      have hrest := ih (h.step hstep) hrun
      rw [abandoned, hstep]
      apply hrest.perm
      dsimp only
      rw [← List.append_assoc]
      exact List.perm_append_comm.append_right lost

/-- No task holds or waits for the lock of the lane. -/
def Idle (s : LaneLocks) (laneId : String) : Prop :=
  ∀ task frame, s.frames.get? task = some frame → frame.laneId ≠ laneId

/-- What is expected of the tables. -/
structure Exact (s : LaneLocks) : Prop where
  /-- At most one task is inside the lock of a lane. -/
  exclusive : ∀ laneId task₁ task₂, s.Inside task₁ laneId → s.Inside task₂ laneId → task₁ = task₂
  /-- All tasks that hold or wait for the lock of a lane have the same lock object. -/
  same_lock : ∀ task₁ task₂ frame₁ frame₂, s.frames.get? task₁ = some frame₁ →
    s.frames.get? task₂ = some frame₂ → frame₁.laneId = frame₂.laneId → frame₁.lock = frame₂.lock
  /-- A lane that is idle has no entry. -/
  no_entry : ∀ laneId, s.Idle laneId →
    s.laneLocks.get? laneId = none ∧ s.laneLockUsers.get? laneId = none

/-- An idle lane has no entry if and only if no wait for its lock was cancelled. -/
theorem Counted.no_entry_iff (h : Counted lost s) (hidle : s.Idle laneId) :
    s.laneLocks.get? laneId = none ∧ s.laneLockUsers.get? laneId = none ↔ laneId ∉ lost := by
  have hnobody : s.users laneId = ∅ := by
    rw [Finset.eq_empty_iff_forall_notMem]
    intro task hmem
    obtain ⟨frame, hframe, hlane⟩ := mem_users.mp hmem
    exact hidle task frame hframe hlane
  have huses : s.uses lost laneId = lost.count laneId := by
    rw [uses, hnobody, Finset.card_empty, Nat.zero_add]
  rw [h.locks_eq_none, h.users_eq, huses, ← List.count_eq_zero]
  constructor
  · exact And.left
  · intro hzero
    exact ⟨hzero, if_pos hzero⟩

/-- In a run that cancels no task while it waits for a lock the tables are as expected in every state.
In general they are if and only if no lane that is idle now is one whose lock a task waited for when it
was cancelled. -/
theorem lockTable_run (events : List LockEvent) (s : LaneLocks) (h : empty.run events = some s) :
    (empty.abandoned events = [] → s.Exact) ∧
      (s.Exact ↔ ∀ laneId ∈ empty.abandoned events, ¬s.Idle laneId) := by
  have hcounted := Counted.empty.run h
  rw [List.append_nil] at hcounted
  have hexact : s.Exact ↔ ∀ laneId ∈ empty.abandoned events, ¬s.Idle laneId := by
    constructor
    · intro hs laneId hlost hidle
      exact (hcounted.no_entry_iff hidle).mp (hs.no_entry laneId hidle) hlost
    · intro hlost
      refine ⟨fun _ _ _ => hcounted.inv.inside_unique, ?_, fun laneId hidle => ?_⟩
      · intro task₁ task₂ frame₁ frame₂ hget₁ hget₂ hlane
        have hlock := hcounted.inv.lock_eq hget₁
        rw [hlane, hcounted.inv.lock_eq hget₂] at hlock
        exact (Option.some.inj hlock).symm
      · apply (hcounted.no_entry_iff hidle).mpr
        exact fun hmem => hlost laneId hmem hidle
  refine ⟨fun hnone => hexact.mpr ?_, hexact⟩
  rw [hnone]
  exact nofun

/-- A task waits for a lock that another one holds, and is cancelled. -/
def cancelledWait : List LockEvent :=
  [.enter 1 "lane", .acquire 1, .enter 2 "lane", .cancel 2, .exit 1]

theorem lockTable_run_one_task :
    ((empty.abandoned [.enter 1 "lane", .acquire 1, .exit 1]) = [] →
        Exact ⟨.empty, .empty, .empty, 1⟩) ∧
      (Exact ⟨.empty, .empty, .empty, 1⟩ ↔
        ∀ laneId ∈ empty.abandoned [.enter 1 "lane", .acquire 1, .exit 1],
          ¬Idle ⟨.empty, .empty, .empty, 1⟩ laneId) :=
  lockTable_run [.enter 1 "lane", .acquire 1, .exit 1] ⟨.empty, .empty, .empty, 1⟩ rfl

/-- No task is left, and the lane has its entry for ever. -/
theorem not_lockTable_run :
    ∃ s, empty.run cancelledWait = some s ∧ ¬s.Exact := by
  refine ⟨_, rfl, fun h => ?_⟩
  have hnone := (h.no_entry "lane" (by rintro task frame ⟨⟩)).1
  cases hnone

end LaneLocks

end VeraMesh
