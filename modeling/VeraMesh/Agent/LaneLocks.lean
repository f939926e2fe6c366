import Mathlib.Data.Finset.Card
import VeraMesh.Lib.Dict

/-!
# The lane locks

`VeraPortAgent._lane_operation` of `protocol.py`: a table with one lock for each lane in use and a
count of the coroutines that hold or wait for it. A coroutine enters (`enter`), gets the lock when
it is free (`acquire`), and leaves (`exit`), which drops the lock when nobody else counts on it. The
table is changed under a guard that is never held across a wait, so entering and leaving are one
step each.

* `Inv.inside_unique`: at most one coroutine is inside the operation of a lane.
-/

namespace VeraMesh

/-- A coroutine in `_lane_operation`. -/
structure LaneFrame where
  laneId : String
  /-- The lock object that it holds or waits for. -/
  lock : ℕ
  /-- It has acquired the lock. -/
  inside : Bool

/-- The tables of `VeraPortAgent` with the coroutines that use them. -/
structure LaneLocks where
  /-- `_lane_locks`. -/
  laneLocks : Dict String ℕ
  /-- `_lane_lock_users`. -/
  laneLockUsers : Dict String ℤ
  /-- The suspended coroutines, by task. -/
  frames : Dict ℕ LaneFrame
  /-- The next lock object. -/
  nextLock : ℕ

namespace LaneLocks

/-- No lane is in use. -/
def empty : LaneLocks := ⟨.empty, .empty, .empty, 0⟩

/-- Whether a coroutine holds the lock object. -/
def locked (s : LaneLocks) (lock : ℕ) : Bool :=
  s.frames.values.any fun frame => frame.inside && frame.lock == lock

/-- The first block under the guard. -/
def enter (s : LaneLocks) (task : ℕ) (laneId : String) : LaneLocks :=
  let users := s.laneLockUsers.set laneId ((s.laneLockUsers.get? laneId).getD 0 + 1)
  match s.laneLocks.get? laneId with
  | some lock =>
    { s with
      laneLockUsers := users
      frames := s.frames.set task ⟨laneId, lock, false⟩ }
  | none =>
    { laneLocks := s.laneLocks.set laneId s.nextLock
      laneLockUsers := users
      frames := s.frames.set task ⟨laneId, s.nextLock, false⟩
      nextLock := s.nextLock + 1 }

/-- `await lock.acquire()` returns. -/
def acquire (s : LaneLocks) (task : ℕ) : Option LaneLocks :=
  match s.frames.get? task with
  | none => none
  | some frame =>
    if frame.inside || s.locked frame.lock then none
    else some { s with frames := s.frames.set task { frame with inside := true } }

/-- The `finally` block. -/
def exit (s : LaneLocks) (task : ℕ) : LaneLocks :=
  match s.frames.get? task with
  | none => s
  | some frame =>
    let remaining := (s.laneLockUsers.get? frame.laneId).getD 1 - 1
    let frames := s.frames.erase task
    if remaining ≤ 0 then
      { s with
        laneLocks :=
          if s.laneLocks.get? frame.laneId = some frame.lock then s.laneLocks.erase frame.laneId
          else s.laneLocks
        laneLockUsers := s.laneLockUsers.erase frame.laneId
        frames := frames }
    else { s with laneLockUsers := s.laneLockUsers.set frame.laneId remaining, frames := frames }

/-- A cancellation. While the coroutine waits for the lock it is raised outside of `try`. -/
def cancel (s : LaneLocks) (task : ℕ) : LaneLocks :=
  match s.frames.get? task with
  | none => s
  | some frame => if frame.inside then s.exit task else { s with frames := s.frames.erase task }

/-- The task is inside the operation of the lane. -/
def Inside (s : LaneLocks) (task : ℕ) (laneId : String) : Prop :=
  ∃ frame, s.frames.get? task = some frame ∧ frame.laneId = laneId ∧ frame.inside = true

/-- The tasks that hold or wait for the lock of a lane. -/
def users (s : LaneLocks) (laneId : String) : Finset ℕ :=
  (s.frames.filter fun _ frame => frame.laneId = laneId).keys.toFinset

theorem mem_users {s : LaneLocks} {laneId : String} {task : ℕ} :
    task ∈ s.users laneId ↔ ∃ frame, s.frames.get? task = some frame ∧ frame.laneId = laneId := by
  simp [users, Dict.mem_keys, Dict.get?_filter]

/-- The invariant. -/
structure Inv (s : LaneLocks) : Prop where
  /-- Whoever uses a lane has the lock object of the table. -/
  lock_eq : ∀ {task frame}, s.frames.get? task = some frame →
    s.laneLocks.get? frame.laneId = some frame.lock
  /-- Lanes have different lock objects, all of them made before. -/
  lock_lt : ∀ {laneId lock}, s.laneLocks.get? laneId = some lock → lock < s.nextLock
  lock_inj : ∀ {laneId₁ laneId₂ lock}, s.laneLocks.get? laneId₁ = some lock →
    s.laneLocks.get? laneId₂ = some lock → laneId₁ = laneId₂
  /-- The count is at least the number of users. -/
  card_le : ∀ laneId, ((s.users laneId).card : ℤ) ≤ (s.laneLockUsers.get? laneId).getD 0
  /-- One task at a time holds a lock object. -/
  holder : ∀ {task₁ task₂ frame₁ frame₂}, s.frames.get? task₁ = some frame₁ →
    s.frames.get? task₂ = some frame₂ → frame₁.inside = true → frame₂.inside = true →
    frame₁.lock = frame₂.lock → task₁ = task₂

variable {s s' : LaneLocks} {task : ℕ} {laneId : String}

theorem Inv.empty : Inv empty := by
  constructor <;> simp [LaneLocks.empty, users, Dict.filter, Dict.empty, Dict.keys, Dict.get?]

/-- Two tasks inside the operation of one lane are one task. -/
theorem Inv.inside_unique (h : Inv s) {task₁ task₂ : ℕ} (h₁ : s.Inside task₁ laneId)
    (h₂ : s.Inside task₂ laneId) : task₁ = task₂ := by
  obtain ⟨frame₁, hget₁, hlane₁, hin₁⟩ := h₁
  obtain ⟨frame₂, hget₂, hlane₂, hin₂⟩ := h₂
  apply h.holder hget₁ hget₂ hin₁ hin₂
  have hlock₁ := h.lock_eq hget₁
  rw [hlane₁, ← hlane₂, h.lock_eq hget₂] at hlock₁
  exact (Option.some.inj hlock₁).symm

theorem users_set (s : LaneLocks) (task : ℕ) (frame : LaneFrame) (laneId : String)
    (hfree : s.frames.get? task = none) :
    users { s with frames := s.frames.set task frame } laneId =
      if frame.laneId = laneId then insert task (s.users laneId) else s.users laneId := by
  ext other
  rw [mem_users]
  show (∃ f, (s.frames.set task frame).get? other = some f ∧ f.laneId = laneId) ↔ _
  by_cases hother : other = task
  · subst hother
    have hnot : other ∉ s.users laneId := by
      rw [mem_users, hfree]
      simp
    by_cases hlane : frame.laneId = laneId <;> simp [Dict.get?_set_self, hlane, hnot]
  · rw [Dict.get?_set_ne _ _ hother, ← mem_users]
    by_cases hlane : frame.laneId = laneId <;> simp [hlane, hother]

theorem users_erase (s : LaneLocks) (task : ℕ) (laneId : String) :
    users { s with frames := s.frames.erase task } laneId = (s.users laneId).erase task := by
  ext other
  rw [mem_users, Finset.mem_erase, mem_users]
  show (∃ f, (s.frames.erase task).get? other = some f ∧ f.laneId = laneId) ↔ _
  by_cases hother : other = task
  · subst hother
    simp
  · simp [Dict.get?_erase_ne _ hother, hother]

/-- Entering adds one user, with the lock object of the lane. -/
theorem enter_cases (s : LaneLocks) (task : ℕ) (laneId : String) :
    ∃ lock, (s.enter task laneId).frames = s.frames.set task ⟨laneId, lock, false⟩ ∧
      (s.enter task laneId).laneLockUsers =
        s.laneLockUsers.set laneId ((s.laneLockUsers.get? laneId).getD 0 + 1) ∧
      (s.laneLocks.get? laneId = some lock ∧ (s.enter task laneId).laneLocks = s.laneLocks ∧
          (s.enter task laneId).nextLock = s.nextLock ∨
        s.laneLocks.get? laneId = none ∧ lock = s.nextLock ∧
          (s.enter task laneId).laneLocks = s.laneLocks.set laneId lock ∧
          (s.enter task laneId).nextLock = s.nextLock + 1) := by
  unfold enter
  cases hlock : s.laneLocks.get? laneId with
  | some lock => exact ⟨lock, rfl, rfl, Or.inl ⟨rfl, rfl, rfl⟩⟩
  | none => exact ⟨s.nextLock, rfl, rfl, Or.inr ⟨rfl, rfl, rfl, rfl⟩⟩

theorem Inv.enter (h : Inv s) (hfree : s.frames.get? task = none) :
    Inv (s.enter task laneId) := by
  obtain ⟨lock, hframes, husers, htable⟩ := enter_cases s task laneId
  have hlock : (s.enter task laneId).laneLocks.get? laneId = some lock := by
    rcases htable with ⟨hget, heq, -⟩ | ⟨-, -, heq, -⟩
    · rw [heq, hget]
    · rw [heq, Dict.get?_set_self]
  have hkeep : ∀ {id old}, s.laneLocks.get? id = some old →
      (s.enter task laneId).laneLocks.get? id = some old := by
    intro id old hget
    rcases htable with ⟨-, heq, -⟩ | ⟨hnone, -, heq, -⟩
    · rw [heq, hget]
    · rw [heq, Dict.get?_set_ne, hget]
      rintro rfl
      rw [hnone] at hget
      cases hget
  refine ⟨fun {i frame} hi => ?_, fun {id old} hget => ?_, fun {id₁ id₂ old} h₁ h₂ => ?_,
    fun id => ?_, fun {i₁ i₂ f₁ f₂} h₁ h₂ hin₁ hin₂ => ?_⟩
  · rw [hframes, Dict.get?_set] at hi
    by_cases htask : i = task
    · rw [if_pos htask] at hi
      obtain rfl := Option.some.inj hi
      exact hlock
    · rw [if_neg htask] at hi
      exact hkeep (h.lock_eq hi)
  · rcases htable with ⟨-, heq, hnext⟩ | ⟨-, rfl, heq, hnext⟩
    · rw [heq] at hget
      rw [hnext]
      exact h.lock_lt hget
    · rw [heq, Dict.get?_set] at hget
      rw [hnext]
      split_ifs at hget
      · cases hget
        omega
      · have hlt := h.lock_lt hget
        omega
  · rcases htable with ⟨-, heq, -⟩ | ⟨-, rfl, heq, -⟩
    · rw [heq] at h₁ h₂
      exact h.lock_inj h₁ h₂
    · -- the new lock object is above all others
      rw [heq, Dict.get?_set] at h₁ h₂
      split_ifs at h₁ h₂ with hid₁ hid₂ hid₂
      · rw [hid₁, hid₂]
      · cases h₁
        exact absurd (h.lock_lt h₂) (lt_irrefl _)
      · cases h₂
        exact absurd (h.lock_lt h₁) (lt_irrefl _)
      · exact h.lock_inj h₁ h₂
  · have hset := users_set s task ⟨laneId, lock, false⟩ id hfree
    have hsame : (s.enter task laneId).users id =
        users { s with frames := s.frames.set task ⟨laneId, lock, false⟩ } id := by
      simp only [users, hframes]
    rw [hsame, hset, husers, Dict.get?_set]
    have hle := h.card_le id
    by_cases hid : id = laneId
    · subst hid
      simp only [if_true, Option.getD_some]
      have hcard := Finset.card_insert_le task (s.users id)
      omega
    · rw [if_neg (Ne.symm hid), if_neg hid]
      exact hle
  · rw [hframes, Dict.get?_set] at h₁ h₂
    intro hlocks
    split_ifs at h₁ h₂
    · cases h₁
      cases hin₁
    · cases h₁
      cases hin₁
    · cases h₂
      cases hin₂
    · exact h.holder h₁ h₂ hin₁ hin₂ hlocks

/-- Acquiring puts the task inside, if nobody is. -/
theorem acquire_eq_some {frame : LaneFrame} (hframe : s.frames.get? task = some frame)
    (h : s.acquire task = some s') :
    frame.inside = false ∧ s.locked frame.lock = false ∧
      s' = { s with frames := s.frames.set task { frame with inside := true } } := by
  unfold acquire at h
  rw [hframe] at h
  dsimp only at h
  split_ifs at h with hcond
  rw [Bool.or_eq_true, not_or, Bool.not_eq_true, Bool.not_eq_true] at hcond
  exact ⟨hcond.1, hcond.2, (Option.some.inj h).symm⟩

theorem Inv.acquire (h : Inv s) (hacquire : s.acquire task = some s') : Inv s' := by
  cases hframe : s.frames.get? task with
  | none =>
    unfold LaneLocks.acquire at hacquire
    simp [hframe] at hacquire
  | some frame =>
    obtain ⟨-, hfree, rfl⟩ := acquire_eq_some hframe hacquire
    have hother : ∀ {i f}, s.frames.get? i = some f → f.inside = true → f.lock ≠ frame.lock := by
      intro i f hi hin hlock
      have hall : ∀ g ∈ s.frames.values, ¬(g.inside && g.lock == frame.lock) = true := by
        simpa [locked] using hfree
      exact hall f (Dict.mem_values.mpr ⟨i, hi⟩) (by simp [hin, hlock])
    have husers : ∀ id, users { s with frames := s.frames.set task { frame with inside := true } }
        id = s.users id := by
      intro id
      ext i
      rw [mem_users, mem_users]
      show (∃ f, (s.frames.set task _).get? i = some f ∧ f.laneId = id) ↔ _
      rw [Dict.get?_set]
      by_cases hi : i = task
      · subst hi
        simp [hframe]
      · rw [if_neg hi]
    refine ⟨fun {i f} hi => ?_, h.lock_lt, h.lock_inj, fun id => ?_,
      fun {i₁ i₂ f₁ f₂} h₁ h₂ hin₁ hin₂ hlocks => ?_⟩
    · rw [Dict.get?_set] at hi
      have hlock := h.lock_eq hframe
      split_ifs at hi
      · cases hi
        exact hlock
      · exact h.lock_eq hi
    · rw [husers]
      exact h.card_le id
    · rw [Dict.get?_set] at h₁ h₂
      split_ifs at h₁ h₂ with ht₁ ht₂ ht₂
      · rw [ht₁, ht₂]
      · cases h₁
        exact absurd hlocks.symm (hother h₂ hin₂)
      · cases h₂
        exact absurd hlocks (hother h₁ hin₁)
      · exact h.holder h₁ h₂ hin₁ hin₂ hlocks

/-- Dropping a coroutine keeps the invariant, also if the count stays. -/
theorem Inv.drop (h : Inv s) (task : ℕ) : Inv { s with frames := s.frames.erase task } where
  lock_eq {i f} hi := by
    rw [Dict.get?_erase] at hi
    split_ifs at hi
    exact h.lock_eq hi
  lock_lt := h.lock_lt
  lock_inj := h.lock_inj
  card_le id := by
    rw [users_erase]
    have hcard := Finset.card_erase_le (s := s.users id) (a := task)
    have hle := h.card_le id
    show ((s.users id).erase task).card ≤ (s.laneLockUsers.get? id).getD 0
    omega
  holder {i₁ i₂ f₁ f₂} h₁ h₂ := by
    rw [Dict.get?_erase] at h₁ h₂
    split_ifs at h₁ h₂
    exact h.holder h₁ h₂

theorem Inv.exit (h : Inv s) (task : ℕ) : Inv (s.exit task) := by
  unfold LaneLocks.exit
  cases hframe : s.frames.get? task with
  | none => exact h
  | some frame =>
    have hdrop := h.drop task
    have hmem : task ∈ s.users frame.laneId := mem_users.mpr ⟨frame, hframe, rfl⟩
    have hle := h.card_le frame.laneId
    have hpos := Finset.card_pos.mpr ⟨task, hmem⟩
    have herase : ((s.users frame.laneId).erase task).card + 1 = (s.users frame.laneId).card :=
      Finset.card_erase_add_one hmem
    -- a user is counted, so the default of the lookup plays no part
    have hcount : (s.laneLockUsers.get? frame.laneId).getD 1 =
        (s.laneLockUsers.get? frame.laneId).getD 0 := by
      cases hget : s.laneLockUsers.get? frame.laneId with
      | none =>
        rw [hget, Option.getD_none] at hle
        omega
      | some count => rfl
    dsimp only
    rw [hcount]
    split_ifs with hremaining hlock
    · -- nobody else uses the lane
      have hnobody : ∀ {i f}, (s.frames.erase task).get? i = some f → f.laneId ≠ frame.laneId := by
        intro i f hi hlane
        have hi' : i ∈ (s.users frame.laneId).erase task := by
          rw [← users_erase]
          exact mem_users.mpr ⟨f, hi, hlane⟩
        have hcard := Finset.card_pos.mpr ⟨i, hi'⟩
        omega
      refine ⟨fun {i f} hi => ?_, fun {id lock} hget => ?_, fun {id₁ id₂ lock} h₁ h₂ => ?_,
        fun id => ?_, hdrop.holder⟩
      · rw [Dict.get?_erase_ne _ (hnobody hi)]
        exact hdrop.lock_eq hi
      · rw [Dict.get?_erase] at hget
        split_ifs at hget
        exact h.lock_lt hget
      · rw [Dict.get?_erase] at h₁ h₂
        split_ifs at h₁ h₂
        exact h.lock_inj h₁ h₂
      · have husers := users_erase s task id
        show ((users { s with frames := s.frames.erase task } id).card : ℤ) ≤
          ((s.laneLockUsers.erase frame.laneId).get? id).getD 0
        rw [Dict.get?_erase]
        by_cases hid : id = frame.laneId
        · subst hid
          rw [if_pos rfl, husers, Option.getD_none]
          omega
        · rw [if_neg hid]
          exact hdrop.card_le id
    · exact absurd (h.lock_eq hframe) hlock
    · refine ⟨hdrop.lock_eq, h.lock_lt, h.lock_inj, fun id => ?_, hdrop.holder⟩
      show ((users { s with frames := s.frames.erase task } id).card : ℤ) ≤
        ((s.laneLockUsers.set frame.laneId _).get? id).getD 0
      rw [Dict.get?_set]
      by_cases hid : id = frame.laneId
      · subst hid
        rw [if_pos rfl, users_erase, Option.getD_some]
        omega
      · rw [if_neg hid]
        exact hdrop.card_le id

theorem Inv.cancel (h : Inv s) (task : ℕ) : Inv (s.cancel task) := by
  unfold LaneLocks.cancel
  split
  · exact h
  · split_ifs
    · exact h.exit task
    · exact h.drop task

/-! ## Who is inside -/

theorem frames_exit (s : LaneLocks) (task : ℕ) : (s.exit task).frames = s.frames.erase task := by
  unfold exit
  cases hframe : s.frames.get? task with
  | none =>
    -- there is nothing to drop
    apply Dict.ext
    show _ = s.frames.entries.filter _
    rw [List.filter_eq_self.mpr]
    rintro ⟨i, f⟩ hmem
    simp only [decide_eq_true_eq]
    rintro rfl
    rw [Dict.get?_eq_some_iff.mpr hmem] at hframe
    cases hframe
  | some frame =>
    dsimp only
    split_ifs <;> rfl

theorem frames_cancel (s : LaneLocks) (task : ℕ) :
    (s.cancel task).frames = s.frames.erase task := by
  unfold cancel
  cases hframe : s.frames.get? task with
  | none =>
    have hexit := frames_exit s task
    unfold exit at hexit
    simpa only [hframe] using hexit
  | some frame =>
    dsimp only
    split_ifs
    · exact frames_exit s task
    · rfl

end LaneLocks

end VeraMesh
