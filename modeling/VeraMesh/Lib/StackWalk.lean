import Mathlib

/-!
# Walks with a stack

A loop takes the last node of a stack, goes through its entries, and pushes a node for some of them.
It may stop at any entry. Such a loop is a fold over one list of entries (`StackWalk.run_eq`): those
of the first node, then all those below its children, the last of them first, and so on.
-/

/-- What a loop does after an entry: it goes on, or it stops with a result. -/
inductive Turn (σ ρ : Type) where
  | go (s : σ)
  | stop (r : ρ)

namespace Turn

variable {σ τ ρ : Type}

/-- Go on with something else, unless the loop has stopped. -/
def andThen (t : Turn σ ρ) (f : σ → Turn τ ρ) : Turn τ ρ :=
  match t with
  | go s => f s
  | stop r => stop r

/-- What the loop ends with, where stopping is either a result or a failure. -/
def outcome {ε : Type} : Turn σ (Except ε σ) → Except ε σ
  | go s => .ok s
  | stop r => r

end Turn

/-- A loop over a list that may stop. -/
def foldTurns {ε σ ρ : Type} (body : ε → σ → Turn σ ρ) : List ε → σ → Turn σ ρ
  | [], s => .go s
  | e :: es, s => (body e s).andThen (foldTurns body es)

theorem foldTurns_append {ε σ ρ : Type} (body : ε → σ → Turn σ ρ) (l m : List ε) (s : σ) :
    foldTurns body (l ++ m) s = (foldTurns body l s).andThen (foldTurns body m) := by
  induction l generalizing s with
  | nil => rfl
  | cons e l ih =>
    rw [List.cons_append, foldTurns, foldTurns]
    cases body e s with
    | go s => exact ih s
    | stop r => rfl

/-- What a walk goes through. -/
structure StackWalk (δ ε : Type) where
  entries : δ → List ε
  /-- The node that is pushed for an entry. -/
  child : δ → ε → Option δ
  /-- How deep it can go below a node. -/
  rank : δ → ℕ
  rank_child : ∀ {d e c}, child d e = some c → rank c < rank d

namespace StackWalk

variable {δ ε σ ρ : Type} (w : StackWalk δ ε) (body : δ × ε → σ → Turn σ ρ)

/-- The loop over the entries of a node. -/
def scan (d : δ) : List ε → List δ → σ → Turn (List δ × σ) ρ
  | [], stack, s => .go (stack, s)
  | e :: es, stack, s =>
    match body (d, e) s with
    | .stop r => .stop r
    | .go s => scan d es ((w.child d e).toList ++ stack) s

/-- The loop over the stack, for `fuel` nodes at most. -/
def run : (fuel : ℕ) → List δ → σ → Option (Turn σ ρ)
  | _, [], s => some (.go s)
  | 0, _ :: _, _ => none
  | fuel + 1, d :: stack, s =>
    match w.scan body d (w.entries d) stack s with
    | .stop r => some (.stop r)
    | .go (stack, s) => run fuel stack s

/-! ## The order of a walk -/

/-- The nodes that are pushed, the last one first. -/
def children (d : δ) : List δ := ((w.entries d).filterMap (w.child d)).reverse

/-- The entries at and below a node, at most `n` levels deep. -/
def visitsTo : (n : ℕ) → δ → List (δ × ε)
  | 0, d => (w.entries d).map (d, ·)
  | n + 1, d => (w.entries d).map (d, ·) ++ (w.children d).flatMap (visitsTo n)

/-- The entries at and below a node, in the order of the walk. -/
def visits (d : δ) : List (δ × ε) := w.visitsTo (w.rank d) d

/-- The number of nodes at and below a node, at most `n` levels deep. -/
def sizeTo : (n : ℕ) → δ → ℕ
  | 0, _ => 1
  | n + 1, d => ((w.children d).map (sizeTo n)).sum + 1

/-- The number of nodes at and below a node. -/
def size (d : δ) : ℕ := w.sizeTo (w.rank d) d

variable {w}

theorem rank_lt_of_mem_children {d c : δ} (h : c ∈ w.children d) : w.rank c < w.rank d := by
  rw [children, List.mem_reverse, List.mem_filterMap] at h
  obtain ⟨e, -, he⟩ := h
  exact w.rank_child he

theorem children_of_rank {d : δ} (h : w.rank d = 0) : w.children d = [] := by
  rw [List.eq_nil_iff_forall_not_mem]
  intro c hc
  have hlt := rank_lt_of_mem_children hc
  omega

/-- More levels than there are make no difference. -/
theorem visitsTo_eq {n : ℕ} {d : δ} (h : w.rank d ≤ n) : w.visitsTo n d = w.visits d := by
  have hstep : ∀ n d, w.rank d ≤ n → w.visitsTo (n + 1) d = w.visitsTo n d := by
    intro n
    induction n with
    | zero =>
      intro d hd
      rw [visitsTo, visitsTo, children_of_rank (Nat.le_zero.mp hd), List.flatMap_nil,
        List.append_nil]
    | succ n ih =>
      intro d hd
      rw [visitsTo, visitsTo]
      congr 1
      apply List.flatMap_congr
      intro c hc
      have hlt := rank_lt_of_mem_children hc
      exact ih c (by omega)
  induction n, h using Nat.le_induction with
  | base => rfl
  | succ n hn ih => rw [hstep n d hn, ih]

theorem sizeTo_eq {n : ℕ} {d : δ} (h : w.rank d ≤ n) : w.sizeTo n d = w.size d := by
  have hstep : ∀ n d, w.rank d ≤ n → w.sizeTo (n + 1) d = w.sizeTo n d := by
    intro n
    induction n with
    | zero =>
      intro d hd
      rw [sizeTo, sizeTo, children_of_rank (Nat.le_zero.mp hd)]
      rfl
    | succ n ih =>
      intro d hd
      rw [sizeTo, sizeTo]
      congr 2
      apply List.map_congr_left
      intro c hc
      have hlt := rank_lt_of_mem_children hc
      exact ih c (by omega)
  induction n, h using Nat.le_induction with
  | base => rfl
  | succ n hn ih => rw [hstep n d hn, ih]

/-- First the entries of the node, then what is below its children. -/
theorem visits_eq (d : δ) :
    w.visits d = (w.entries d).map (d, ·) ++ (w.children d).flatMap w.visits := by
  rw [← visitsTo_eq (Nat.le_succ (w.rank d)), visitsTo]
  congr 1
  apply List.flatMap_congr
  intro c hc
  exact visitsTo_eq (Nat.le_of_lt (rank_lt_of_mem_children hc))

theorem size_eq (d : δ) : w.size d = ((w.children d).map w.size).sum + 1 := by
  rw [← sizeTo_eq (Nat.le_succ (w.rank d)), sizeTo]
  congr 2
  apply List.map_congr_left
  intro c hc
  exact sizeTo_eq (Nat.le_of_lt (rank_lt_of_mem_children hc))

/-! ## The walk as a fold -/

/-- The loop over the entries of a node pushes its children. -/
theorem scan_eq (d : δ) (es : List ε) (stack : List δ) (s : σ) :
    w.scan body d es stack s = (foldTurns body (es.map (d, ·)) s).andThen fun s =>
      .go ((es.filterMap (w.child d)).reverse ++ stack, s) := by
  induction es generalizing stack s with
  | nil => rfl
  | cons e es ih =>
    rw [scan, List.map_cons, foldTurns]
    cases body (d, e) s with
    | stop r => rfl
    | go s =>
      show w.scan body d es ((w.child d e).toList ++ stack) s = (foldTurns _ _ _).andThen _
      rw [ih, List.filterMap_cons]
      cases w.child d e with
      | none => rfl
      | some c => simp only [Option.toList_some, List.reverse_cons, List.append_assoc]

/-- The walk is a fold over the entries in its order, and it ends. -/
theorem run_eq {stack : List δ} {fuel : ℕ} (s : σ) (hfuel : (stack.map w.size).sum ≤ fuel) :
    w.run body fuel stack s = some (foldTurns body (stack.flatMap w.visits) s) := by
  induction fuel generalizing stack s with
  | zero =>
    cases stack with
    | nil => rfl
    | cons d stack =>
      rw [List.map_cons, List.sum_cons, size_eq] at hfuel
      omega
  | succ fuel ih =>
    cases stack with
    | nil => rfl
    | cons d stack =>
      rw [run, scan_eq, List.flatMap_cons, visits_eq, List.append_assoc, foldTurns_append]
      cases foldTurns body ((w.entries d).map (d, ·)) s with
      | stop r => rfl
      | go s =>
        have hnext : ((w.children d ++ stack).map w.size).sum ≤ fuel := by
          rw [List.map_cons, List.sum_cons, size_eq] at hfuel
          rw [List.map_append, List.sum_append]
          omega
        show w.run body fuel (w.children d ++ stack) s = _
        rw [ih s hnext, List.flatMap_append]
        rfl

/-- The loop with as much fuel as it takes. -/
def exec (w : StackWalk δ ε) (body : δ × ε → σ → Turn σ ρ) (stack : List δ) (s : σ) : Turn σ ρ :=
  (w.run body (stack.map w.size).sum stack s).get (by rw [run_eq body s (Nat.le_refl _)]; rfl)

theorem exec_eq (stack : List δ) (s : σ) :
    w.exec body stack s = foldTurns body (stack.flatMap w.visits) s := by
  simp only [exec, run_eq body s (Nat.le_refl _), Option.get_some]

end StackWalk
