import Mathlib.Data.List.Basic
import Mathlib.Logic.Relation

/-!
# Coroutines over a shared state

A cooperative scheduler runs one task at a time. A task keeps the processor until it waits, so
everything between two of its waits is one step of the whole system, and any number of steps of the
others can come while it waits.

A `Coroutine` is the program of one task: it reads and updates the shared state, waits, and ends by
returning or raising. A `System` is the state with the tasks started so far, and `Step` is what can
happen next: a task is started, a waiting task is resumed with an answer, or the environment moves.

`Contract` and `Meets` are rely and guarantee reasoning for such systems: an invariant of the state,
and for every task what the others leave alone while it waits.

## Main results

* `meets_bind`, `meets_tryCatch`: the rules for sequencing and for handlers.
* `Contract.Covers.inv`: when every task meets the contract, the invariant holds in every
  state of every run.
* `Discipline.covers`, `Upholds.bind`: the same for one relation that all tasks keep, with
  postconditions.
* `Path.reachable`, `Reachable.eval`: the progress of one task alone is part of a run.
* `Reachable.awaits`: what no program waits for, no task of a run waits for.
-/

/-- A program of a task over a shared state of type `σ`. It waits for things described by `ι`, where
a wait for `i` ends with an answer of type `ρ i`, raises errors of type `ε` and returns an `α`. -/
inductive Coroutine (σ ι : Type) (ρ : ι → Type) (ε α : Type) where
  | ret (a : α)
  | raise (err : ε)
  /-- Update the state. The rest gets the state before the update. -/
  | act (update : σ → σ) (next : σ → Coroutine σ ι ρ ε α)
  /-- Wait for `i`. The rest gets the answer. -/
  | await (i : ι) (next : ρ i → Coroutine σ ι ρ ε α)

namespace Coroutine

variable {σ ι : Type} {ρ : ι → Type} {ε α β : Type}

/-- Run `x`, then `f` on what it returns. -/
protected def bind (x : Coroutine σ ι ρ ε α) (f : α → Coroutine σ ι ρ ε β) :
    Coroutine σ ι ρ ε β :=
  match x with
  | ret a => f a
  | raise err => raise err
  | act update next => act update fun s => (next s).bind f
  | await i next => await i fun r => (next r).bind f

/-- Run `x`, then `handle` on what it raises. -/
protected def tryCatch (x : Coroutine σ ι ρ ε α) (handle : ε → Coroutine σ ι ρ ε α) :
    Coroutine σ ι ρ ε α :=
  match x with
  | ret a => ret a
  | raise err => handle err
  | act update next => act update fun s => (next s).tryCatch handle
  | await i next => await i fun r => (next r).tryCatch handle

instance : Monad (Coroutine σ ι ρ ε) where
  pure := ret
  bind := Coroutine.bind

instance : MonadExceptOf ε (Coroutine σ ι ρ ε) where
  throw := raise
  tryCatch := Coroutine.tryCatch

/-- The shared state as it is now. -/
def read : Coroutine σ ι ρ ε σ := act id ret

/-- Update the shared state. -/
def update (f : σ → σ) : Coroutine σ ι ρ ε Unit := act f fun _ => ret ()

/-- Return or raise what a computation comes to. -/
def ofResult : Except ε α → Coroutine σ ι ρ ε α
  | .ok a => ret a
  | .error err => raise err

/-- Run a function of the state that does not wait. -/
def sync (f : σ → Except ε α × σ) : Coroutine σ ι ρ ε α :=
  act (fun s => (f s).2) fun s => ofResult (f s).1

/-- Wait for `i` and return the answer. -/
def answer (i : ι) : Coroutine σ ι ρ ε (ρ i) := await i ret

/-- Run up to the next wait, or to the end. -/
def settle : Coroutine σ ι ρ ε α → σ → Coroutine σ ι ρ ε α × σ
  | act update next, s => (next s).settle (update s)
  | c, s => (c, s)

/-- At a wait or at the end. -/
def Settled : Coroutine σ ι ρ ε α → Prop
  | act _ _ => False
  | _ => True

/-- What a program at a wait waits for. -/
def waiting : Coroutine σ ι ρ ε α → Option ι
  | await i _ => some i
  | _ => none

theorem settled_settle (c : Coroutine σ ι ρ ε α) (s : σ) : (c.settle s).1.Settled := by
  induction c generalizing s with
  | ret a => trivial
  | raise err => trivial
  | act update next ih => exact ih s (update s)
  | await i next ih => trivial

/-! ## Systems of tasks -/

/-- The shared state and the tasks in the order of their start, each at a wait or at its end. -/
structure System (σ ι : Type) (ρ : ι → Type) (ε α : Type) where
  state : σ
  tasks : List (Coroutine σ ι ρ ε α)

/-- How a system can be driven. -/
structure Driver (σ ι : Type) (ρ : ι → Type) (ε α : Type) where
  /-- The program that may be started as task number `t`. -/
  calls : σ → ℕ → Coroutine σ ι ρ ε α → Prop
  /-- The answers a waiting task can be resumed with. -/
  answers : σ → (i : ι) → ρ i → Prop
  /-- What the environment can do to the state. -/
  environment : σ → σ → Prop

/-- One step of a system. -/
inductive Step (d : Driver σ ι ρ ε α) : System σ ι ρ ε α → System σ ι ρ ε α → Prop
  /-- A task is started and runs up to its first wait. -/
  | call {s tasks c} (h : d.calls s tasks.length c) :
      Step d ⟨s, tasks⟩ ⟨(c.settle s).2, tasks ++ [(c.settle s).1]⟩
  /-- A waiting task is resumed and runs up to its next wait. -/
  | resume {s tasks t i next r} (ht : tasks[t]? = some (await i next)) (h : d.answers s i r) :
      Step d ⟨s, tasks⟩ ⟨((next r).settle s).2, tasks.set t ((next r).settle s).1⟩
  | environment {s s' tasks} (h : d.environment s s') : Step d ⟨s, tasks⟩ ⟨s', tasks⟩

/-- The systems that runs from `init` without tasks come to. -/
def Reachable (d : Driver σ ι ρ ε α) (init : σ) (sys : System σ ι ρ ε α) : Prop :=
  Relation.ReflTransGen (Step d) ⟨init, []⟩ sys

/-! ## Rely and guarantee -/

/-- An invariant of the shared state, and what each task may count on while it waits. -/
structure Contract (σ ι : Type) (ρ : ι → Type) where
  Inv : σ → Prop
  /-- How the state can change while task `t` waits. -/
  Rely : ℕ → σ → σ → Prop
  /-- The answers a wait can end with. -/
  answers : σ → (i : ι) → ρ i → Prop
  refl : ∀ t s, Rely t s s
  trans : ∀ t {s₁ s₂ s₃}, Rely t s₁ s₂ → Rely t s₂ s₃ → Rely t s₁ s₃

/-- What task `t` owes to the invariant and to the other tasks when it changes the state. -/
def Contract.Guarantee (P : Contract σ ι ρ) (t : ℕ) (s s' : σ) : Prop :=
  P.Inv s' ∧ ∀ t' ≠ t, P.Rely t' s s'

theorem Contract.guarantee_self {P : Contract σ ι ρ} {t : ℕ} {s : σ} (hs : P.Inv s) :
    P.Guarantee t s s := ⟨hs, fun t' _ => P.refl t' s⟩

theorem Contract.Guarantee.trans {P : Contract σ ι ρ} {t : ℕ} {s₁ s₂ s₃ : σ}
    (h₁ : P.Guarantee t s₁ s₂) (h₂ : P.Guarantee t s₂ s₃) : P.Guarantee t s₁ s₃ :=
  ⟨h₂.1, fun t' ht' => P.trans t' (h₁.2 t' ht') (h₂.2 t' ht')⟩

/-- Started in `s`, the program of task `t` keeps the contract. It returns only what `Q` allows and
raises only what `E` allows. -/
def Meets (P : Contract σ ι ρ) (t : ℕ) :
    Coroutine σ ι ρ ε α → (α → σ → Prop) → (ε → σ → Prop) → σ → Prop
  | ret a, Q, _, s => Q a s
  | raise err, _, E, s => E err s
  | act update next, Q, E, s =>
      P.Guarantee t s (update s) ∧ Meets P t (next s) Q E (update s)
  | await i next, Q, E, s =>
      ∀ s' r, P.Rely t s s' → P.Inv s' → P.answers s' i r → Meets P t (next r) Q E s'

section Rules

variable {P : Contract σ ι ρ} {t : ℕ} {Q : α → σ → Prop} {E : ε → σ → Prop} {s : σ}

@[simp]
theorem meets_pure {a : α} : Meets P t (pure a : Coroutine σ ι ρ ε α) Q E s ↔ Q a s := Iff.rfl

@[simp]
theorem meets_throw {err : ε} :
    Meets P t (throw err : Coroutine σ ι ρ ε α) Q E s ↔ E err s := Iff.rfl

/-- Reading changes nothing. -/
@[simp]
theorem meets_read {Q : σ → σ → Prop} :
    Meets P t (read : Coroutine σ ι ρ ε σ) Q E s ↔ P.Guarantee t s s ∧ Q s s := Iff.rfl

@[simp]
theorem meets_update {f : σ → σ} {Q : Unit → σ → Prop} :
    Meets P t (update f : Coroutine σ ι ρ ε Unit) Q E s ↔
      P.Guarantee t s (f s) ∧ Q () (f s) := Iff.rfl

@[simp]
theorem meets_answer {i : ι} {Q : ρ i → σ → Prop} :
    Meets P t (answer i : Coroutine σ ι ρ ε (ρ i)) Q E s ↔
      ∀ s' r, P.Rely t s s' → P.Inv s' → P.answers s' i r → Q r s' := Iff.rfl

theorem meets_ofResult {x : Except ε α} :
    Meets P t (ofResult x : Coroutine σ ι ρ ε α) Q E s ↔
      (∀ a, x = .ok a → Q a s) ∧ ∀ err, x = .error err → E err s := by
  cases x with
  | ok a => simp [ofResult, Meets]
  | error err => simp [ofResult, Meets]

/-- A function that does not wait owes what it does to the state. -/
theorem meets_sync {f : σ → Except ε α × σ} :
    Meets P t (sync f : Coroutine σ ι ρ ε α) Q E s ↔
      P.Guarantee t s (f s).2 ∧
        (∀ a, (f s).1 = .ok a → Q a (f s).2) ∧ ∀ err, (f s).1 = .error err → E err (f s).2 :=
  and_congr_right fun _ => meets_ofResult

/-- The rule for sequencing. -/
theorem meets_bind {x : Coroutine σ ι ρ ε α} {f : α → Coroutine σ ι ρ ε β} {Q : β → σ → Prop} :
    Meets P t (x >>= f) Q E s ↔ Meets P t x (fun a => Meets P t (f a) Q E) E s := by
  change Meets P t (x.bind f) Q E s ↔ _
  induction x generalizing s with
  | ret a => exact Iff.rfl
  | raise err => exact Iff.rfl
  | act update next ih => exact and_congr_right fun _ => ih s
  | await i next ih =>
    exact forall₂_congr fun _ r => forall₃_congr fun _ _ _ => ih r

/-- The rule for handlers. -/
theorem meets_tryCatch {x : Coroutine σ ι ρ ε α} {handle : ε → Coroutine σ ι ρ ε α} :
    Meets P t (tryCatch x handle) Q E s ↔
      Meets P t x Q (fun err => Meets P t (handle err) Q E) s := by
  change Meets P t (x.tryCatch handle) Q E s ↔ _
  induction x generalizing s with
  | ret a => exact Iff.rfl
  | raise err => exact Iff.rfl
  | act update next ih => exact and_congr_right fun _ => ih s
  | await i next ih =>
    exact forall₂_congr fun _ r => forall₃_congr fun _ _ _ => ih r

/-- The rule of consequence. The postconditions need only follow where the invariant holds. -/
theorem Meets.imp {c : Coroutine σ ι ρ ε α} {Q' : α → σ → Prop} {E' : ε → σ → Prop}
    (h : Meets P t c Q E s) (hs : P.Inv s) (hQ : ∀ a s', P.Inv s' → Q a s' → Q' a s')
    (hE : ∀ err s', P.Inv s' → E err s' → E' err s') : Meets P t c Q' E' s := by
  induction c generalizing s with
  | ret a => exact hQ a s hs h
  | raise err => exact hE err s hs h
  | act update next ih => exact ⟨h.1, ih s h.2 h.1.1⟩
  | await i next ih => exact fun s' r hrely hs' hr => ih r (h s' r hrely hs' hr) hs'

/-- The contract holds of what is left of a task at its next wait or at its end, and the way there
is guaranteed to the others. -/
theorem Meets.settle {c : Coroutine σ ι ρ ε α} (h : Meets P t c Q E s) (hs : P.Inv s) :
    P.Guarantee t s (c.settle s).2 ∧ Meets P t (c.settle s).1 Q E (c.settle s).2 := by
  induction c generalizing s with
  | ret a => exact ⟨P.guarantee_self hs, h⟩
  | raise err => exact ⟨P.guarantee_self hs, h⟩
  | act update next ih =>
    obtain ⟨hfirst, hrest⟩ := h
    obtain ⟨hnext, hleft⟩ := ih s hrest hfirst.1
    exact ⟨hfirst.trans hnext, hleft⟩
  | await i next ih => exact ⟨P.guarantee_self hs, h⟩

/-- A task at a wait or at its end still meets the contract after a step of the others. -/
theorem Meets.rely {c : Coroutine σ ι ρ ε α} {s' : σ} (hwait : c.Settled)
    (h : Meets P t c (fun _ _ => True) (fun _ _ => True) s) (hrely : P.Rely t s s') :
    Meets P t c (fun _ _ => True) (fun _ _ => True) s' := by
  cases c with
  | ret a => trivial
  | raise err => trivial
  | act update next => exact hwait.elim
  | await i next => exact fun s'' r hs'' => h s'' r (P.trans t hrely hs'')

end Rules

/-- The tasks of a driver keep the contract, and so does its environment. -/
structure Contract.Covers (P : Contract σ ι ρ) (d : Driver σ ι ρ ε α) : Prop where
  calls : ∀ {s t c}, P.Inv s → d.calls s t c →
    Meets P t c (fun _ _ => True) (fun _ _ => True) s
  answers : ∀ {s i r}, d.answers s i r → P.answers s i r
  environment : ∀ {s s'}, P.Inv s → d.environment s s' → P.Inv s' ∧ ∀ t, P.Rely t s s'

/-- The invariant of a whole system: the state's, and what every task still owes. -/
structure Contract.Kept (P : Contract σ ι ρ) (sys : System σ ι ρ ε α) : Prop where
  inv : P.Inv sys.state
  settled : ∀ {t : ℕ} {c : Coroutine σ ι ρ ε α}, sys.tasks[t]? = some c → c.Settled
  meets : ∀ {t : ℕ} {c : Coroutine σ ι ρ ε α}, sys.tasks[t]? = some c →
    Meets P t c (fun _ _ => True) (fun _ _ => True) sys.state

variable {P : Contract σ ι ρ} {d : Driver σ ι ρ ε α} {sys sys' : System σ ι ρ ε α}

/-- A task of a list with one more task is an old one or the new one. -/
private theorem eq_of_getElem?_append_singleton {γ : Type} {l : List γ} {a b : γ} {n : ℕ}
    (h : (l ++ [a])[n]? = some b) : l[n]? = some b ∨ n = l.length ∧ b = a := by
  rw [List.getElem?_append] at h
  split_ifs at h with hn
  · exact Or.inl h
  · obtain ⟨hlt, heq⟩ := List.getElem?_eq_some_iff.mp h
    have hzero : n - l.length = 0 := by simpa using hlt
    exact Or.inr ⟨by omega, by simpa [hzero] using heq.symm⟩

/-- A task of a list with one task replaced is another one or the replacement. -/
private theorem eq_of_getElem?_set {γ : Type} {l : List γ} {a b : γ} {m n : ℕ}
    (h : (l.set m a)[n]? = some b) : n ≠ m ∧ l[n]? = some b ∨ n = m ∧ b = a := by
  rw [List.getElem?_set] at h
  split_ifs at h with hmn hlt
  · exact Or.inr ⟨hmn.symm, by simpa using h.symm⟩
  · exact Or.inl ⟨Ne.symm hmn, h⟩

/-- One step keeps the invariant of the system. -/
theorem Contract.Covers.step (hd : P.Covers d) (hkept : P.Kept sys) (h : Step d sys sys') :
    P.Kept sys' := by
  cases h with
  | @call s tasks c hcall =>
    obtain ⟨hguarantee, hleft⟩ := (hd.calls hkept.inv hcall).settle hkept.inv
    refine ⟨hguarantee.1, fun {t c'} ht => ?_, fun {t c'} ht => ?_⟩
    · rcases eq_of_getElem?_append_singleton ht with hold | ⟨-, rfl⟩
      · exact hkept.settled hold
      · exact settled_settle c s
    · rcases eq_of_getElem?_append_singleton ht with hold | ⟨rfl, rfl⟩
      · have hlt : t < tasks.length := (List.getElem?_eq_some_iff.mp hold).1
        exact (hkept.meets hold).rely (hkept.settled hold) (hguarantee.2 t (Nat.ne_of_lt hlt))
      · exact hleft
  | @resume s tasks t i next r ht hr =>
    have hmeets := hkept.meets ht s r (P.refl t s) hkept.inv (hd.answers hr)
    obtain ⟨hguarantee, hleft⟩ := hmeets.settle hkept.inv
    refine ⟨hguarantee.1, fun {t' c'} ht' => ?_, fun {t' c'} ht' => ?_⟩
    · rcases eq_of_getElem?_set ht' with ⟨-, hold⟩ | ⟨-, rfl⟩
      · exact hkept.settled hold
      · exact settled_settle (next r) s
    · rcases eq_of_getElem?_set ht' with ⟨hne, hold⟩ | ⟨rfl, rfl⟩
      · exact (hkept.meets hold).rely (hkept.settled hold) (hguarantee.2 t' hne)
      · exact hleft
  | @environment s s' tasks henv =>
    obtain ⟨hinv, hrely⟩ := hd.environment hkept.inv henv
    exact ⟨hinv, hkept.settled, fun {t c} ht => (hkept.meets ht).rely (hkept.settled ht) (hrely t)⟩

/-- In every run of tasks that keep the contract the invariant holds. -/
theorem Contract.Covers.inv (hd : P.Covers d) {init : σ} (hinit : P.Inv init)
    (h : Reachable d init sys) : P.Inv sys.state := by
  have hkept : P.Kept sys := by
    induction h with
    | refl => exact ⟨hinit, by simp, by simp⟩
    | tail _ hstep ih => exact hd.step ih hstep
  exact hkept.inv

/-! ## A common relation

When all tasks and the environment move the state along one relation, a task can count on it also
across its own steps. -/

/-- An invariant, and a relation that every step keeps. -/
structure Discipline (σ ι : Type) (ρ : ι → Type) where
  Inv : σ → Prop
  Rel : σ → σ → Prop
  answers : σ → (i : ι) → ρ i → Prop
  refl : ∀ s, Rel s s
  trans : ∀ {s₁ s₂ s₃}, Rel s₁ s₂ → Rel s₂ s₃ → Rel s₁ s₃

/-- The contract under which every task relies on the relation. -/
def Discipline.contract (D : Discipline σ ι ρ) : Contract σ ι ρ where
  Inv := D.Inv
  Rely _ := D.Rel
  answers := D.answers
  refl _ := D.refl
  trans _ := D.trans

/-- Started in `s`, the program keeps the discipline, and what it returns satisfies `Q` with the
state at the end. -/
def Upholds (D : Discipline σ ι ρ) (t : ℕ) (c : Coroutine σ ι ρ ε α) (s : σ)
    (Q : α → σ → Prop) : Prop :=
  Meets D.contract t c (fun a s' => D.Rel s s' ∧ Q a s') (fun _ s' => D.Rel s s') s

namespace Upholds

variable {D : Discipline σ ι ρ} {t : ℕ} {s : σ} {Q : α → σ → Prop}

protected theorem pure {a : α} (h : Q a s) : Upholds D t (pure a : Coroutine σ ι ρ ε α) s Q :=
  ⟨D.refl s, h⟩

protected theorem throw {err : ε} : Upholds D t (throw err : Coroutine σ ι ρ ε α) s Q := D.refl s

protected theorem read {Q : σ → σ → Prop} (hs : D.Inv s) (h : Q s s) :
    Upholds D t (read : Coroutine σ ι ρ ε σ) s Q :=
  ⟨⟨hs, fun _ _ => D.refl s⟩, D.refl s, h⟩

protected theorem update {f : σ → σ} {Q : Unit → σ → Prop} (hinv : D.Inv (f s))
    (hrel : D.Rel s (f s)) (h : Q () (f s)) :
    Upholds D t (update f : Coroutine σ ι ρ ε Unit) s Q :=
  ⟨⟨hinv, fun _ _ => hrel⟩, hrel, h⟩

protected theorem ofResult {x : Except ε α} (h : ∀ a, x = .ok a → Q a s) :
    Upholds D t (ofResult x : Coroutine σ ι ρ ε α) s Q :=
  meets_ofResult.mpr ⟨fun a ha => ⟨D.refl s, h a ha⟩, fun _ _ => D.refl s⟩

protected theorem sync {f : σ → Except ε α × σ} (hinv : D.Inv (f s).2) (hrel : D.Rel s (f s).2)
    (h : ∀ a, (f s).1 = .ok a → Q a (f s).2) :
    Upholds D t (sync f : Coroutine σ ι ρ ε α) s Q :=
  meets_sync.mpr ⟨⟨hinv, fun _ _ => hrel⟩, fun a ha => ⟨hrel, h a ha⟩, fun _ _ => hrel⟩

protected theorem answer {i : ι} {Q : ρ i → σ → Prop}
    (h : ∀ s' r, D.Rel s s' → D.Inv s' → D.answers s' i r → Q r s') :
    Upholds D t (answer i : Coroutine σ ι ρ ε (ρ i)) s Q :=
  fun s' r hrel hinv hr => ⟨hrel, h s' r hrel hinv hr⟩

/-- The rule for sequencing. -/
protected theorem bind {x : Coroutine σ ι ρ ε α} {f : α → Coroutine σ ι ρ ε β}
    {Q' : β → σ → Prop} (hs : D.Inv s) (hx : Upholds D t x s Q)
    (hf : ∀ a s', D.Inv s' → D.Rel s s' → Q a s' → Upholds D t (f a) s' Q') :
    Upholds D t (x >>= f) s Q' := by
  refine meets_bind.mpr (hx.imp hs (fun a s' hinv h => ?_) fun _ _ _ h => h)
  exact (hf a s' hinv h.1 h.2).imp hinv (fun b s'' _ h' => ⟨D.trans h.1 h'.1, h'.2⟩)
    fun _ _ _ h' => D.trans h.1 h'

/-- The rule for handlers. -/
protected theorem tryCatch {x : Coroutine σ ι ρ ε α} {handle : ε → Coroutine σ ι ρ ε α}
    (hs : D.Inv s) (hx : Upholds D t x s Q)
    (hhandle : ∀ err s', D.Inv s' → D.Rel s s' → Upholds D t (handle err) s' Q) :
    Upholds D t (tryCatch x handle) s Q := by
  refine meets_tryCatch.mpr (hx.imp hs (fun _ _ _ h => h) fun err s' hinv hrel => ?_)
  exact (hhandle err s' hinv hrel).imp hinv (fun a s'' _ h' => ⟨D.trans hrel h'.1, h'.2⟩)
    fun _ _ _ h' => D.trans hrel h'

/-- The rule of consequence. -/
protected theorem imp {c : Coroutine σ ι ρ ε α} {Q' : α → σ → Prop} (hs : D.Inv s)
    (hc : Upholds D t c s Q) (h : ∀ a s', D.Inv s' → D.Rel s s' → Q a s' → Q' a s') :
    Upholds D t c s Q' :=
  Meets.imp hc hs (fun a s' hinv h' => ⟨h'.1, h a s' hinv h'.1 h'.2⟩) fun _ _ _ h' => h'

end Upholds

/-- Tasks that keep the discipline meet its contract. -/
theorem Discipline.covers {D : Discipline σ ι ρ}
    (hcalls : ∀ s t c, D.Inv s → d.calls s t c → Upholds D t c s fun _ _ => True)
    (hanswers : ∀ s i r, d.answers s i r → D.answers s i r)
    (henv : ∀ s s', D.Inv s → d.environment s s' → D.Inv s' ∧ D.Rel s s') :
    D.contract.Covers d where
  calls hs hcall :=
    Meets.imp (hcalls _ _ _ hs hcall) hs (fun _ _ _ _ => trivial) fun _ _ _ _ => trivial
  answers := hanswers _ _ _
  environment hs h := ⟨(henv _ _ hs h).1, fun _ => (henv _ _ hs h).2⟩

/-! ## One task alone -/

/-- Alone, a task at `c` in state `s` can get to `c'` in state `s'`. -/
inductive Path (answers : σ → (i : ι) → ρ i → Prop) :
    Coroutine σ ι ρ ε α → σ → Coroutine σ ι ρ ε α → σ → Prop
  | refl {c s} : Path answers c s c s
  | act {update next s c' s'} (h : Path answers (next s) (update s) c' s') :
      Path answers (act update next) s c' s'
  | await {i next s r c' s'} (hr : answers s i r) (h : Path answers (next r) s c' s') :
      Path answers (await i next) s c' s'

namespace Path

variable {answers : σ → (i : ι) → ρ i → Prop} {s s' s'' : σ}

/-- The way of a sequence: its first part returns, and the second goes on. -/
theorem bind {x : Coroutine σ ι ρ ε α} {a : α} {f : α → Coroutine σ ι ρ ε β}
    {c : Coroutine σ ι ρ ε β} (hx : Path answers x s (ret a) s')
    (hf : Path answers (f a) s' c s'') : Path answers (x >>= f) s c s'' := by
  generalize hc : ret a = last at hx
  induction hx with
  | refl => exact hc ▸ hf
  | act h ih => exact act (ih hf hc)
  | await hr h ih => exact await hr (ih hf hc)

/-- The way of a sequence that is still in its first part. -/
theorem bind_left {x x' : Coroutine σ ι ρ ε α} (f : α → Coroutine σ ι ρ ε β)
    (hx : Path answers x s x' s') : Path answers (x >>= f) s (x' >>= f) s' := by
  induction hx with
  | refl => exact refl
  | act h ih => exact act ih
  | await hr h ih => exact await hr ih

/-- The way of a program with a handler that has not raised yet. -/
theorem tryCatch_left {x x' : Coroutine σ ι ρ ε α} (handle : ε → Coroutine σ ι ρ ε α)
    (hx : Path answers x s x' s') :
    Path answers (tryCatch x handle) s (tryCatch x' handle) s' := by
  induction hx with
  | refl => exact refl
  | act h ih => exact act ih
  | await hr h ih => exact await hr ih

/-- The way of a program with a handler: it raises, and the handler goes on. -/
theorem tryCatch_raise {x c : Coroutine σ ι ρ ε α} {err : ε} {handle : ε → Coroutine σ ι ρ ε α}
    (hx : Path answers x s (raise err) s') (hhandle : Path answers (handle err) s' c s'') :
    Path answers (tryCatch x handle) s c s'' := by
  generalize hc : raise err = last at hx
  induction hx with
  | refl => exact hc ▸ hhandle
  | act h ih => exact act (ih hhandle hc)
  | await hr h ih => exact await hr (ih hhandle hc)

/-- On its way alone, a task that meets a contract keeps the invariant. -/
theorem inv {t : ℕ} {c c' : Coroutine σ ι ρ ε α} {Q : α → σ → Prop} {E : ε → σ → Prop}
    (hpath : Path answers c s c' s') (hanswers : ∀ s i r, answers s i r → P.answers s i r)
    (hs : P.Inv s) (h : Meets P t c Q E s) : P.Inv s' := by
  induction hpath with
  | refl => exact hs
  | act hpath ih => exact ih h.1.1 h.2
  | @await i next s r c' s' hr hpath ih =>
    exact ih hs (h s r (P.refl t s) hs (hanswers s i r hr))

/-- A task that gets somewhere alone gets there in a run, between steps of the others. -/
theorem reachable {c c' : Coroutine σ ι ρ ε α} {init : σ} {tasks : List (Coroutine σ ι ρ ε α)}
    (hanswers : ∀ s i r, answers s i r → d.answers s i r)
    (hpath : Path answers c s c' s')
    (hstart : Reachable d init ⟨(c.settle s).2, tasks ++ [(c.settle s).1]⟩) :
    Reachable d init ⟨(c'.settle s').2, tasks ++ [(c'.settle s').1]⟩ := by
  induction hpath with
  | refl => exact hstart
  | act h ih => exact ih hstart
  | @await i next s r c' s' hr h ih =>
    refine ih (hstart.tail ?_)
    have hlast : (tasks ++ [Coroutine.await i next])[tasks.length]? =
        some (Coroutine.await i next) := by simp
    have hstep := Step.resume (s := s) hlast (hanswers s i r hr)
    simpa [settle] using hstep

end Path

/-- Run alone to the end, with `reply` for an answer to every wait. -/
def eval (reply : σ → (i : ι) → ρ i) : Coroutine σ ι ρ ε α → σ → Except ε α × σ
  | ret a, s => (.ok a, s)
  | raise err, s => (.error err, s)
  | act update next, s => (next s).eval reply (update s)
  | await i next, s => (next (reply s i)).eval reply s

section Eval

variable {reply : σ → (i : ι) → ρ i} {s : σ}

@[simp]
theorem eval_pure (a : α) : eval reply (pure a : Coroutine σ ι ρ ε α) s = (.ok a, s) := rfl

@[simp]
theorem eval_throw (err : ε) :
    eval reply (throw err : Coroutine σ ι ρ ε α) s = (.error err, s) := rfl

@[simp]
theorem eval_read : eval reply (read : Coroutine σ ι ρ ε σ) s = (.ok s, s) := rfl

@[simp]
theorem eval_update (f : σ → σ) :
    eval reply (update f : Coroutine σ ι ρ ε Unit) s = (.ok (), f s) := rfl

@[simp]
theorem eval_answer (i : ι) :
    eval reply (answer i : Coroutine σ ι ρ ε (ρ i)) s = (.ok (reply s i), s) := rfl

@[simp]
theorem eval_ofResult (x : Except ε α) :
    eval reply (ofResult x : Coroutine σ ι ρ ε α) s = (x, s) := by
  cases x <;> rfl

@[simp]
theorem eval_sync (f : σ → Except ε α × σ) :
    eval reply (sync f : Coroutine σ ι ρ ε α) s = f s :=
  eval_ofResult (s := (f s).2) (f s).1

theorem eval_bind (x : Coroutine σ ι ρ ε α) (f : α → Coroutine σ ι ρ ε β) :
    eval reply (x >>= f) s =
      match eval reply x s with
      | (.ok a, s') => eval reply (f a) s'
      | (.error err, s') => (.error err, s') := by
  change eval reply (x.bind f) s = _
  induction x generalizing s with
  | ret a => rfl
  | raise err => rfl
  | act update next ih => exact ih s
  | await i next ih => exact ih (reply s i)

theorem eval_tryCatch (x : Coroutine σ ι ρ ε α) (handle : ε → Coroutine σ ι ρ ε α) :
    eval reply (tryCatch x handle) s =
      match eval reply x s with
      | (.ok a, s') => (.ok a, s')
      | (.error err, s') => eval reply (handle err) s' := by
  change eval reply (x.tryCatch handle) s = _
  induction x generalizing s with
  | ret a => rfl
  | raise err => rfl
  | act update next ih => exact ih s
  | await i next ih => exact ih (reply s i)

/-- The way of a task that runs alone to its end. -/
theorem path_eval (reply : σ → (i : ι) → ρ i) (c : Coroutine σ ι ρ ε α) (s : σ) :
    Path (fun s i r => r = reply s i) c s (ofResult (c.eval reply s).1) (c.eval reply s).2 := by
  induction c generalizing s with
  | ret a => exact .refl
  | raise err => exact .refl
  | act update next ih => exact .act (ih s (update s))
  | await i next ih => exact .await rfl (ih (reply s i) s)

/-- A call that is started and runs alone to its end is part of a run. -/
theorem Reachable.eval {init : σ} {tasks : List (Coroutine σ ι ρ ε α)}
    (h : Reachable d init ⟨s, tasks⟩) {c : Coroutine σ ι ρ ε α} (hcall : d.calls s tasks.length c)
    (hreply : ∀ s i, d.answers s i (reply s i)) :
    Reachable d init ⟨(c.eval reply s).2, tasks ++ [ofResult (c.eval reply s).1]⟩ := by
  have hstart := h.tail (Step.call hcall)
  have hend := (path_eval reply c s).reachable (fun s i r hr => hr ▸ hreply s i) hstart
  cases hresult : (c.eval reply s).1 with
  | ok a => simpa [hresult, ofResult, settle] using hend
  | error err => simpa [hresult, ofResult, settle] using hend

/-- Run alone, with `reply` for an answer to every wait, up to the first wait with `stop`. -/
def evalUntil (stop : ι → Bool) (reply : σ → (i : ι) → ρ i) :
    Coroutine σ ι ρ ε α → σ → Coroutine σ ι ρ ε α × σ
  | ret a, s => (ret a, s)
  | raise err, s => (raise err, s)
  | act update next, s => (next s).evalUntil stop reply (update s)
  | await i next, s =>
    if stop i then (await i next, s) else (next (reply s i)).evalUntil stop reply s

theorem settle_evalUntil (stop : ι → Bool) (c : Coroutine σ ι ρ ε α) (s : σ) :
    (c.evalUntil stop reply s).1.settle (c.evalUntil stop reply s).2 =
      c.evalUntil stop reply s := by
  induction c generalizing s with
  | ret a => rfl
  | raise err => rfl
  | act update next ih => exact ih s (update s)
  | await i next ih =>
    rw [evalUntil]
    split_ifs
    · rfl
    · exact ih (reply s i) s

/-- The way of a task that runs alone to a wait. -/
theorem path_evalUntil (stop : ι → Bool) (reply : σ → (i : ι) → ρ i) (c : Coroutine σ ι ρ ε α)
    (s : σ) :
    Path (fun s i r => r = reply s i) c s (c.evalUntil stop reply s).1
      (c.evalUntil stop reply s).2 := by
  induction c generalizing s with
  | ret a => exact .refl
  | raise err => exact .refl
  | act update next ih => exact .act (ih s (update s))
  | await i next ih =>
    rw [evalUntil]
    split_ifs
    · exact .refl
    · exact .await rfl (ih (reply s i) s)

/-- A call that is started and runs alone to a wait is part of a run. -/
theorem Reachable.evalUntil {init : σ} {tasks : List (Coroutine σ ι ρ ε α)}
    (h : Reachable d init ⟨s, tasks⟩) {c : Coroutine σ ι ρ ε α} (hcall : d.calls s tasks.length c)
    (hreply : ∀ s i, d.answers s i (reply s i)) (stop : ι → Bool) :
    Reachable d init
      ⟨(c.evalUntil stop reply s).2, tasks ++ [(c.evalUntil stop reply s).1]⟩ := by
  have hstart := h.tail (Step.call hcall)
  have hend := (path_evalUntil stop reply c s).reachable (fun s i r hr => hr ▸ hreply s i) hstart
  rwa [settle_evalUntil] at hend

end Eval

/-! ## What a task can wait for -/

/-- Whatever the state and the answers are, every wait of the program is for an `i` with `W i`. -/
def Awaits (W : ι → Prop) : Coroutine σ ι ρ ε α → Prop
  | ret _ => True
  | raise _ => True
  | act _ next => ∀ s, Awaits W (next s)
  | await i next => W i ∧ ∀ r, Awaits W (next r)

namespace Awaits

variable {W W' : ι → Prop}

protected theorem pure (a : α) : Awaits W (pure a : Coroutine σ ι ρ ε α) := trivial

protected theorem throw (err : ε) : Awaits W (throw err : Coroutine σ ι ρ ε α) := trivial

protected theorem read : Awaits W (read : Coroutine σ ι ρ ε σ) := fun _ => trivial

protected theorem update (f : σ → σ) : Awaits W (update f : Coroutine σ ι ρ ε Unit) :=
  fun _ => trivial

protected theorem ofResult (x : Except ε α) : Awaits W (ofResult x : Coroutine σ ι ρ ε α) := by
  cases x <;> trivial

protected theorem sync (f : σ → Except ε α × σ) : Awaits W (sync f : Coroutine σ ι ρ ε α) :=
  fun s => .ofResult (f s).1

protected theorem answer {i : ι} (h : W i) : Awaits W (answer i : Coroutine σ ι ρ ε (ρ i)) :=
  ⟨h, fun _ => trivial⟩

/-- The rule for sequencing. -/
protected theorem bind {x : Coroutine σ ι ρ ε α} {f : α → Coroutine σ ι ρ ε β}
    (hx : Awaits W x) (hf : ∀ a, Awaits W (f a)) : Awaits W (x >>= f) := by
  change Awaits W (x.bind f)
  induction x with
  | ret a => exact hf a
  | raise err => trivial
  | act update next ih => exact fun s => ih s (hx s)
  | await i next ih => exact ⟨hx.1, fun r => ih r (hx.2 r)⟩

protected theorem map {x : Coroutine σ ι ρ ε α} {f : α → β} (hx : Awaits W x) :
    Awaits W (f <$> x) := hx.bind fun a => .pure (f a)

/-- Nothing follows what is raised. -/
theorem throw_bind {err : ε} {f : α → Coroutine σ ι ρ ε β} : Awaits W (throw err >>= f) := trivial

/-- The rule for a sequence that begins with a function of the state. -/
theorem sync_bind {g : σ → Except ε α × σ} {f : α → Coroutine σ ι ρ ε β}
    (hf : ∀ s a, (g s).1 = .ok a → Awaits W (f a)) : Awaits W (sync g >>= f) := by
  intro s
  change Awaits W ((ofResult (g s).1 : Coroutine σ ι ρ ε α).bind f)
  cases hresult : (g s).1 with
  | ok a => exact hf s a hresult
  | error err => trivial

/-- The rule for handlers. -/
protected theorem tryCatch {x : Coroutine σ ι ρ ε α} {handle : ε → Coroutine σ ι ρ ε α}
    (hx : Awaits W x) (hhandle : ∀ err, Awaits W (handle err)) :
    Awaits W (tryCatch x handle) := by
  change Awaits W (x.tryCatch handle)
  induction x with
  | ret a => trivial
  | raise err => exact hhandle err
  | act update next ih => exact fun s => ih s (hx s)
  | await i next ih => exact ⟨hx.1, fun r => ih r (hx.2 r)⟩

/-- The rule of consequence. -/
protected theorem imp {c : Coroutine σ ι ρ ε α} (h : Awaits W c) (hW : ∀ i, W i → W' i) :
    Awaits W' c := by
  induction c with
  | ret a => trivial
  | raise err => trivial
  | act update next ih => exact fun s => ih s (h s)
  | await i next ih => exact ⟨hW i h.1, fun r => ih r (h.2 r)⟩

theorem settle {c : Coroutine σ ι ρ ε α} (h : Awaits W c) (s : σ) : Awaits W (c.settle s).1 := by
  induction c generalizing s with
  | ret a => trivial
  | raise err => trivial
  | act update next ih => exact ih s (h s) (update s)
  | await i next ih => exact h

end Awaits

/-- In every run of programs that wait only for `W`, so do all tasks. -/
theorem Reachable.awaits {W : ι → Prop} (hcalls : ∀ s t c, d.calls s t c → Awaits W c) {init : σ}
    (h : Reachable d init sys) : ∀ c ∈ sys.tasks, Awaits W c := by
  induction h with
  | refl => simp
  | tail _ hstep ih =>
    cases hstep with
    | @call s tasks c hcall =>
      intro c' hc'
      rcases List.mem_append.mp hc' with hold | hnew
      · exact ih c' hold
      · rw [List.mem_singleton.mp hnew]
        exact (hcalls _ _ _ hcall).settle s
    | @resume s tasks t i next r ht hr =>
      intro c' hc'
      rcases List.mem_or_eq_of_mem_set hc' with hold | rfl
      · exact ih c' hold
      · have hwait : Awaits W (await i next) := ih _ (List.mem_of_getElem? ht)
        exact (hwait.2 r).settle s
    | environment henv => exact ih

theorem Awaits.of_waiting {W : ι → Prop} {c : Coroutine σ ι ρ ε α} (h : Awaits W c) {i : ι}
    (hi : c.waiting = some i) : W i := by
  cases c with
  | ret a => cases hi
  | raise err => cases hi
  | act update next => cases hi
  | await i' next =>
    obtain rfl : i' = i := Option.some.inj hi
    exact h.1

/-! ## Parts of a larger state -/

section Zoom

variable {τ κ : Type} {π : κ → Type} (get : σ → τ) (put : τ → σ → σ) (wrap : κ → ι)
  (unwrap : ∀ k, ρ (wrap k) → π k)

/-- A program over a part of the state. -/
def zoom : Coroutine τ κ π ε α → Coroutine σ ι ρ ε α
  | ret a => ret a
  | raise err => raise err
  | act update next => act (fun s => put (update (get s)) s) fun s => (next (get s)).zoom
  | await k next => await (wrap k) fun r => (next (unwrap k r)).zoom

/-- A program over a part waits for what it waits for alone. -/
theorem Awaits.zoom {W : ι → Prop} {c : Coroutine τ κ π ε α} (h : Awaits (W ∘ wrap) c) :
    Awaits W (c.zoom get put wrap unwrap) := by
  induction c with
  | ret a => trivial
  | raise err => trivial
  | act update next ih => exact fun s => ih (get s) (h (get s))
  | await k next ih => exact ⟨h.1, fun r => ih (unwrap k r) (h.2 (unwrap k r))⟩

/-- A program over a part keeps a contract that does not depend on the part. -/
theorem meets_zoom {t : ℕ} (hput : ∀ s x, P.Inv s → P.Guarantee t s (put x s))
    (c : Coroutine τ κ π ε α) {s : σ} (hs : P.Inv s) :
    Meets P t (c.zoom get put wrap unwrap) (fun _ _ => True) (fun _ _ => True) s := by
  induction c generalizing s with
  | ret a => trivial
  | raise err => trivial
  | act update next ih =>
    have hguarantee := hput s (update (get s)) hs
    exact ⟨hguarantee, ih (get s) hguarantee.1⟩
  | await k next ih => exact fun s' r _ hs' _ => ih (unwrap k r) hs'

end Zoom

end Coroutine
