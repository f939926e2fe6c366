import VeraMesh.Lib.Except
import Mathlib.Logic.Function.Basic

/-!
# Attempts

Work on a state that may raise an exception. An exception ends the work and leaves the state as it
is at that point: nothing is undone.

* `Attempt.exec_bind`, `Attempt.exec_rescue`, `Attempt.exec_tryCatch`, `Attempt.exec_ensure`: the
  rules of execution.
* `Attempt.Keeps`: work that a part of the state takes no part in, with a rule for every way to
  build it.
* `Attempt.Logs`: work that appends entries of some kind to a log.
-/

/-- Work on a state `σ` that returns an `α` or raises an `ε`. -/
abbrev Attempt (ε σ : Type) := ExceptT ε (StateM σ)

namespace Attempt

variable {ε σ α β γ : Type} {t : Attempt ε σ α} {f : α → Attempt ε σ β}

/-- The outcome of the work, and the state after it. -/
def exec (t : Attempt ε σ α) (s : σ) : Except ε α × σ := (ExceptT.run t).run s

/-- Work that leaves the state alone. -/
def ofResult : Except ε α → Attempt ε σ α
  | .ok a => pure a
  | .error err => throw err

/-- `try: t except: handler`, where what `handler` raises may be of another type. -/
def rescue {ε' : Type} (t : Attempt ε σ α) (handler : ε → Attempt ε' σ α) : Attempt ε' σ α :=
  fun s => match t.exec s with
    | (.ok a, s') => (.ok a, s')
    | (.error err, s') => (handler err).exec s'

/-- The outcome of the work, as a value. -/
def settle (t : Attempt ε σ α) : Attempt ε σ (Except ε α) :=
  rescue (Except.ok <$> t) fun err => pure (.error err)

/-- `try: t finally: cleanup`. What `cleanup` raises takes the place of the outcome. -/
def ensure (t : Attempt ε σ α) (cleanup : Attempt ε σ Unit) : Attempt ε σ α := do
  let outcome ← t.settle
  cleanup
  ofResult outcome

/-! ## Execution -/

theorem exec_bind (t : Attempt ε σ α) (f : α → Attempt ε σ β) (s : σ) :
    (t >>= f).exec s = match t.exec s with
      | (.ok a, s') => (f a).exec s'
      | (.error err, s') => (.error err, s') := by
  show (ExceptT.run (t >>= f)).run s = _
  rw [ExceptT.run_bind, StateT.run_bind]
  show (t.exec s >>= fun p => StateT.run _ p.2 : Id _) = _
  generalize t.exec s = r
  rcases r with ⟨err | a, s'⟩ <;> rfl

theorem exec_rescue {ε' : Type} (t : Attempt ε σ α) (handler : ε → Attempt ε' σ α) (s : σ) :
    (t.rescue handler).exec s = match t.exec s with
      | (.ok a, s') => (.ok a, s')
      | (.error err, s') => (handler err).exec s' := rfl

theorem exec_tryCatch (t : Attempt ε σ α) (handler : ε → Attempt ε σ α) (s : σ) :
    (tryCatch t handler).exec s = match t.exec s with
      | (.ok a, s') => (.ok a, s')
      | (.error err, s') => (handler err).exec s' := by
  cases h : t.exec s with
  | mk r s' =>
    have hrun : StateT.run t s = (r, s') := h
    simp only [exec, tryCatch, tryCatchThe, MonadExceptOf.tryCatch, ExceptT.tryCatch, ExceptT.mk]
    rw [ExceptT.run, StateT.run_bind, hrun]
    cases r <;> rfl

@[simp]
theorem exec_pure (a : α) (s : σ) : (pure a : Attempt ε σ α).exec s = (.ok a, s) := rfl

@[simp]
theorem exec_throw (err : ε) (s : σ) : (throw err : Attempt ε σ α).exec s = (.error err, s) := rfl

@[simp]
theorem exec_get (s : σ) : (get : Attempt ε σ σ).exec s = (.ok s, s) := rfl

@[simp]
theorem exec_modify (g : σ → σ) (s : σ) :
    (modify g : Attempt ε σ PUnit).exec s = (.ok PUnit.unit, g s) := rfl

@[simp]
theorem exec_ofResult (r : Except ε α) (s : σ) : (ofResult r : Attempt ε σ α).exec s = (r, s) := by
  cases r <;> rfl

@[simp]
theorem exec_settle (t : Attempt ε σ α) (s : σ) :
    t.settle.exec s = (.ok (t.exec s).1, (t.exec s).2) := by
  rw [settle, exec_rescue, map_eq_pure_bind, exec_bind]
  rcases t.exec s with ⟨err | a, s'⟩ <;> rfl

/-- The cleanup runs on the state that the work leaves, however it ends. -/
theorem exec_ensure (t : Attempt ε σ α) (cleanup : Attempt ε σ Unit) (s : σ) :
    (t.ensure cleanup).exec s = match cleanup.exec (t.exec s).2 with
      | (.ok (), s') => ((t.exec s).1, s')
      | (.error err, s') => (.error err, s') := by
  rw [ensure, exec_bind, exec_settle]
  dsimp only
  rw [exec_bind]
  rcases cleanup.exec (t.exec s).2 with ⟨err | u, s'⟩
  · rfl
  · simp only [exec_ofResult]

/-! ## What work keeps -/

/-- The work leaves what `view` shows of the state as it is. -/
def Keeps (view : σ → γ) (t : Attempt ε σ α) : Prop := ∀ s, view (t.exec s).2 = view s

variable {view : σ → γ}

theorem keeps_pure (a : α) : Keeps view (pure a : Attempt ε σ α) := fun _ => rfl

theorem keeps_throw (err : ε) : Keeps view (throw err : Attempt ε σ α) := fun _ => rfl

theorem keeps_get : Keeps view (get : Attempt ε σ σ) := fun _ => rfl

theorem keeps_ofResult (r : Except ε α) : Keeps view (ofResult r : Attempt ε σ α) := by
  intro s
  rw [exec_ofResult]

theorem keeps_modify {g : σ → σ} (h : ∀ s, view (g s) = view s) :
    Keeps view (modify g : Attempt ε σ PUnit) := h

theorem Keeps.bind (ht : Keeps view t) (hf : ∀ a, Keeps view (f a)) : Keeps view (t >>= f) := by
  intro s
  have hs := ht s
  rw [exec_bind]
  revert hs
  rcases t.exec s with ⟨err | a, s'⟩ <;> intro hs
  · exact hs
  · exact (hf a s').trans hs

theorem Keeps.tryCatch {handler : ε → Attempt ε σ α} (ht : Keeps view t)
    (hhandler : ∀ err, Keeps view (handler err)) : Keeps view (tryCatch t handler) := by
  intro s
  have hs := ht s
  rw [exec_tryCatch]
  revert hs
  rcases t.exec s with ⟨err | a, s'⟩ <;> intro hs
  · exact (hhandler err s').trans hs
  · exact hs

theorem Keeps.ensure {cleanup : Attempt ε σ Unit} (ht : Keeps view t)
    (hcleanup : Keeps view cleanup) : Keeps view (t.ensure cleanup) := by
  intro s
  have hs := hcleanup (t.exec s).2
  rw [exec_ensure]
  revert hs
  rcases cleanup.exec (t.exec s).2 with ⟨err | u, s'⟩ <;> intro hs <;> exact hs.trans (ht s)

theorem Keeps.settle (ht : Keeps view t) : Keeps view t.settle := by
  intro s
  rw [exec_settle]
  exact ht s

/-! ## What work logs -/

/-- The work appends entries with the property `P` to a log. -/
def Logs (log : σ → List γ) (P : γ → Prop) (t : Attempt ε σ α) : Prop :=
  ∀ s, ∃ new, log (t.exec s).2 = log s ++ new ∧ ∀ c ∈ new, P c

variable {log : σ → List γ} {P Q : γ → Prop}

/-- Work that keeps the log appends nothing. -/
theorem Keeps.logs (h : Keeps log t) : Logs log P t := by
  intro s
  exact ⟨[], by rw [h s, List.append_nil], by simp⟩

theorem Logs.bind (ht : Logs log P t) (hf : ∀ a, Logs log P (f a)) : Logs log P (t >>= f) := by
  intro s
  obtain ⟨new, hlog, hnew⟩ := ht s
  rw [exec_bind]
  revert hlog
  rcases t.exec s with ⟨err | a, s'⟩ <;> intro hlog
  · exact ⟨new, hlog, hnew⟩
  · obtain ⟨new', hlog', hnew'⟩ := hf a s'
    refine ⟨new ++ new', ?_, List.forall_mem_append.mpr ⟨hnew, hnew'⟩⟩
    show log ((f a).exec s').2 = _
    rw [hlog', hlog, List.append_assoc]

theorem Logs.settle (ht : Logs log P t) : Logs log P t.settle := by
  intro s
  rw [exec_settle]
  exact ht s

theorem Logs.mono (ht : Logs log P t) (h : ∀ c, P c → Q c) : Logs log Q t := by
  intro s
  obtain ⟨new, hlog, hnew⟩ := ht s
  exact ⟨new, hlog, fun c hc => h c (hnew c hc)⟩

end Attempt
