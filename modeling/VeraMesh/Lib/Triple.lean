import VeraMesh.Lib.Coroutine

/-!
# Triples for coroutines

`Triple P t A c B E`: started where the invariant and `A` hold, the program `c` of task `t` keeps
the contract `P`, returns only where `B` holds and raises only where `E` holds. The assertions of a
task have to be stable under what the others do while it waits.

* `Triple.bind`, `Triple.attempt`, `Triple.ensure`: the rules for sequencing, for outcomes as values
  and for cleanups.
* `Triple.answer`: the rule for waits, which needs a stable assertion.
* `Triple.eval`: where a task gets to alone, whatever its waits end with.
-/

namespace Coroutine

variable {σ ι : Type} {ρ : ι → Type} {ε α β : Type}

/-- The outcome of a program, as a value. -/
def attempt (c : Coroutine σ ι ρ ε α) : Coroutine σ ι ρ ε (Except ε α) :=
  tryCatch (c >>= fun a => pure (.ok a)) fun err => pure (.error err)

/-- `try: c finally: cleanup`. What `cleanup` raises takes the place of the outcome. -/
def ensure (c : Coroutine σ ι ρ ε α) (cleanup : Coroutine σ ι ρ ε Unit) : Coroutine σ ι ρ ε α := do
  let outcome ← attempt c
  cleanup
  ofResult outcome

/-- What holds after either outcome. -/
def Either (B : α → σ → Prop) (E : ε → σ → Prop) : Except ε α → σ → Prop
  | .ok a => B a
  | .error err => E err

/-- The assertion survives what the others do. -/
def Stable (P : Contract σ ι ρ) (t : ℕ) (A : σ → Prop) : Prop :=
  ∀ s s', P.Inv s' → P.Rely t s s' → A s → A s'

-- A structure, so that no elaborator runs the program to see whether a triple is a function.
structure Triple (P : Contract σ ι ρ) (t : ℕ) (A : σ → Prop) (c : Coroutine σ ι ρ ε α)
    (B : α → σ → Prop) (E : ε → σ → Prop) : Prop where
  run : ∀ s, P.Inv s → A s → Meets P t c B E s

variable {P : Contract σ ι ρ} {t : ℕ} {A A' : σ → Prop} {B B' : α → σ → Prop} {E E' : ε → σ → Prop}
  {c : Coroutine σ ι ρ ε α}

theorem stable_true : Stable P t fun _ => True := fun _ _ _ _ _ => trivial

namespace Triple

protected theorem pure {a : α} (h : ∀ s, P.Inv s → A s → B a s) :
    Triple P t A (pure a : Coroutine σ ι ρ ε α) B E := ⟨h⟩

protected theorem throw {err : ε} (h : ∀ s, P.Inv s → A s → E err s) :
    Triple P t A (throw err : Coroutine σ ι ρ ε α) B E := ⟨h⟩

protected theorem ofResult {x : Except ε α} (hok : ∀ a, x = .ok a → ∀ s, P.Inv s → A s → B a s)
    (herror : ∀ err, x = .error err → ∀ s, P.Inv s → A s → E err s) :
    Triple P t A (ofResult x : Coroutine σ ι ρ ε α) B E :=
  ⟨fun s hs hA => meets_ofResult.mpr
    ⟨fun a ha => hok a ha s hs hA, fun err h => herror err h s hs hA⟩⟩

/-- Reading changes nothing. -/
protected theorem read {B : σ → σ → Prop} (h : ∀ s, P.Inv s → A s → B s s) :
    Triple P t A (read : Coroutine σ ι ρ ε σ) B E :=
  ⟨fun s hs hA => ⟨P.guarantee_self hs, h s hs hA⟩⟩

protected theorem update {f : σ → σ} {B : Unit → σ → Prop}
    (h : ∀ s, P.Inv s → A s → P.Guarantee t s (f s) ∧ B () (f s)) :
    Triple P t A (update f : Coroutine σ ι ρ ε Unit) B E := ⟨h⟩

/-- The rule for waits. -/
protected theorem answer {i : ι} {B : ρ i → σ → Prop} (hstable : Stable P t A)
    (h : ∀ s r, P.Inv s → A s → P.answers s i r → B r s) :
    Triple P t A (answer i : Coroutine σ ι ρ ε (ρ i)) B E :=
  ⟨fun s _ hA s' r hrely hs' hr => h s' r hs' (hstable s s' hs' hrely hA) hr⟩

/-- A wait that ends with a value or an error, and tells nothing by it. -/
protected theorem wait {i : ι} {f : ρ i → Except ε α} (hstable : Stable P t A) :
    Triple P t A (answer i >>= fun r => ofResult (f r)) (fun _ => A) fun _ => A :=
  ⟨fun _ _ hA _ _ hrely hs' _ =>
    have hend := hstable _ _ hs' hrely hA
    meets_ofResult.mpr ⟨fun _ _ => hend, fun _ _ => hend⟩⟩

/-- The rule for sequencing. -/
protected theorem bind {f : α → Coroutine σ ι ρ ε β} {C : β → σ → Prop} (hc : Triple P t A c B E)
    (hf : ∀ a, Triple P t (B a) (f a) C E) : Triple P t A (c >>= f) C E :=
  ⟨fun s hs hA => meets_bind.mpr
    ((hc.run s hs hA).imp hs (fun a s' hs' hB => (hf a).run s' hs' hB) fun _ _ _ h => h)⟩

/-- The rule of consequence. -/
protected theorem conseq (hc : Triple P t A c B E) (hA : ∀ s, P.Inv s → A' s → A s)
    (hB : ∀ a s, P.Inv s → B a s → B' a s) (hE : ∀ err s, P.Inv s → E err s → E' err s) :
    Triple P t A' c B' E' :=
  ⟨fun s hs hA' => (hc.run s hs (hA s hs hA')).imp hs hB hE⟩

protected theorem post (hc : Triple P t A c B E) (hB : ∀ a s, P.Inv s → B a s → B' a s) :
    Triple P t A c B' E := hc.conseq (fun _ _ h => h) hB fun _ _ _ h => h

protected theorem of_raises (hc : Triple P t A c B E)
    (hE : ∀ err s, P.Inv s → E err s → E' err s) : Triple P t A c B E' :=
  hc.conseq (fun _ _ h => h) (fun _ _ _ h => h) hE

protected theorem pre (hc : Triple P t A c B E) (hA : ∀ s, P.Inv s → A' s → A s) :
    Triple P t A' c B E := hc.conseq hA (fun _ _ _ h => h) fun _ _ _ h => h

/-- The rule for handlers. -/
protected theorem tryCatch {handle : ε → Coroutine σ ι ρ ε α} (hc : Triple P t A c B E)
    (hhandle : ∀ err, Triple P t (E err) (handle err) B E') :
    Triple P t A (tryCatch c handle) B E' :=
  ⟨fun s hs hA => meets_tryCatch.mpr
    ((hc.run s hs hA).imp hs (fun _ _ _ h => h) fun err s' hs' hE => (hhandle err).run s' hs' hE)⟩

/-- The rule for outcomes as values. -/
protected theorem attempt (hc : Triple P t A c B E) :
    Triple P t A (attempt c) (Either B E) E' :=
  Triple.tryCatch (hc.bind fun _ => Triple.pure fun _ _ h => h) fun _ => Triple.pure fun _ _ h => h

/-- The rule for cleanups. -/
protected theorem ensure {cleanup : Coroutine σ ι ρ ε Unit} (hc : Triple P t A c B E)
    (hok : ∀ a, Triple P t (B a) cleanup (fun _ => B' a) E')
    (herror : ∀ err, Triple P t (E err) cleanup (fun _ => E' err) E') :
    Triple P t A (ensure c cleanup) B' E' := by
  refine Triple.bind hc.attempt fun outcome => ?_
  cases outcome with
  | ok a =>
    refine (hok a).bind fun _ => Triple.ofResult ?_ (by simp)
    rintro b hb s - h
    exact Except.ok.inj hb ▸ h
  | error err =>
    refine (herror err).bind fun _ => Triple.ofResult (by simp) ?_
    rintro e he s - h
    exact Except.error.inj he ▸ h

/-- A case distinction in the program. -/
protected theorem ite {p : Prop} [Decidable p] {c' : Coroutine σ ι ρ ε α}
    (hpos : p → Triple P t A c B E) (hneg : ¬p → Triple P t A c' B E) :
    Triple P t A (if p then c else c') B E := by
  by_cases hp : p
  · rw [if_pos hp]
    exact hpos hp
  · rw [if_neg hp]
    exact hneg hp

/-- A fact about the values at hand, taken out of the assertion. -/
protected theorem of_pre {p : Prop} (h : p → Triple P t A c B E) :
    Triple P t (fun s => p ∧ A s) c B E :=
  ⟨fun s hs hA => (h hA.1).run s hs hA.2⟩

/-- What follows from the invariant and the assertion may be used for the whole program. -/
protected theorem of_inv (h : ∀ s, P.Inv s → A s → Triple P t A c B E) : Triple P t A c B E :=
  ⟨fun s hs hA => (h s hs hA).run s hs hA⟩

/-- The state that the program starts in may be named. -/
protected theorem of_start (h : ∀ s, P.Inv s → A s → Triple P t (· = s) c B E) :
    Triple P t A c B E :=
  ⟨fun s hs hA => (h s hs hA).run s hs rfl⟩

/-- What is known to exist may be named. -/
protected theorem exists_pre {γ : Type} {A : γ → σ → Prop} (h : ∀ x, Triple P t (A x) c B E) :
    Triple P t (fun s => ∃ x, A x s) c B E :=
  ⟨fun s hs hA => (h hA.choose).run s hs hA.choose_spec⟩

/-- The rule for sequencing after a program that tells something about what it returns. -/
protected theorem bind_fact {f : α → Coroutine σ ι ρ ε β} {Q : α → Prop} {C : β → σ → Prop}
    (hc : Triple P t A c (fun a s => Q a ∧ B a s) E)
    (hf : ∀ a, Q a → Triple P t (B a) (f a) C E) : Triple P t A (c >>= f) C E :=
  hc.bind fun a => Triple.of_pre (hf a)

end Triple

/-- A program that keeps the contract from every state. -/
theorem Triple.meets (hc : Triple P t (fun _ => True) c B E) {s : σ} (hs : P.Inv s) :
    Meets P t c (fun _ _ => True) (fun _ _ => True) s :=
  (hc.run s hs trivial).imp hs (fun _ _ _ _ => trivial) fun _ _ _ _ => trivial

/-! ## A task that nobody interferes with -/

/-- Nothing happens while task 0 waits, and its waits may end in any way. -/
def Contract.alone (σ ι : Type) (ρ : ι → Type) : Contract σ ι ρ where
  Inv _ := True
  Rely t s s' := t = 0 → s' = s
  answers _ _ _ := True
  refl _ _ _ := rfl
  trans _ := fun h₁ h₂ h => (h₂ h).trans (h₁ h)

theorem stable_alone (A : σ → Prop) : Stable (.alone σ ι ρ) 0 A :=
  fun _ _ _ hsame h => hsame rfl ▸ h

/-- Alone a task may do to the state what it likes. -/
theorem Contract.guarantee_alone (s s' : σ) : (Contract.alone σ ι ρ).Guarantee 0 s s' :=
  ⟨trivial, fun _ ht h => absurd h ht⟩

/-- Where a task gets to alone. -/
theorem Triple.eval (hc : Triple (.alone σ ι ρ) 0 A c B E) (reply : σ → (i : ι) → ρ i) {s : σ}
    (hs : A s) : Either B E (c.eval reply s).1 (c.eval reply s).2 := by
  have hmeets : Meets (.alone σ ι ρ) 0 c B E s := hc.run s trivial hs
  clear hc hs
  induction c generalizing s with
  | ret a => exact hmeets
  | raise err => exact hmeets
  | act update next ih => exact ih s hmeets.2
  | await i next ih => exact ih _ (hmeets s (reply s i) (fun _ => rfl) trivial trivial)

end Coroutine
