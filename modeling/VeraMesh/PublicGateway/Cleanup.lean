import Mathlib.Data.Int.Notation
import Mathlib.Data.List.Basic

/-!
# Cleanup of lanes

What a public call does to lanes, without regard to the facade that makes it: which lanes it opens
and closes, which it leaves to a process lease, and what it comes to.

## Main definitions

* `Settled`: every lane is closed exactly once after it was opened, or held by a lease.
* `Cleaned`: the lanes of a call are settled, and what the call comes to does not depend on how
  closing ends, up to the notes on failures.
-/

namespace VeraMesh

/-- What one request of a facade means for its lanes. A failure to close leaves a note `ν`. -/
inductive LaneRequest (ν : Type) where
  /-- `lane.open` returned a fence. -/
  | opened (lane : String) (fence : ℤ)
  | closed (lane : String) (fence : ℤ) (failure : Option ν)
  | other

/-- What a public call comes to. -/
structure CallOutcome (ε ρ ν : Type) where
  result : Except ε ρ
  laneRequests : List (LaneRequest ν)
  /-- The lanes and fences of the lease whose handle the call returns. -/
  leased : String → ℤ → Prop

namespace LaneRequest

variable {ν : Type}

/-- The request is an attempt to close a lane under a fence. -/
def closes (lane : String) (fence : ℤ) : LaneRequest ν → Bool
  | closed lane' fence' _ => lane' == lane && fence' == fence
  | _ => false

/-- The note on a failure to close. -/
def failure : LaneRequest ν → Option ν
  | closed _ _ failure => failure
  | _ => none

/-- The request opened a lane. -/
def opens : LaneRequest ν → Bool
  | opened _ _ => true
  | _ => false

/-- Every lane that was opened is closed exactly once afterwards, or leased. -/
def Settled (leased : String → ℤ → Prop) : List (LaneRequest ν) → Prop
  | [] => True
  | opened lane fence :: rest =>
    (rest.countP (closes lane fence) = 1 ∨ leased lane fence) ∧ Settled leased rest
  | _ :: rest => Settled leased rest

variable {leased : String → ℤ → Prop} {l : List (LaneRequest ν)} {lane : String} {fence : ℤ}

/-- Nothing is left to do for a call that opens no lane. -/
theorem settled_of_not_opens (h : ∀ c ∈ l, c.opens = false) : Settled leased l := by
  induction l with
  | nil => trivial
  | cons c l ih =>
    obtain ⟨hc, hl⟩ := List.forall_mem_cons.mp h
    cases c with
    | opened lane fence => cases hc
    | closed lane fence failure => exact ih hl
    | other => exact ih hl

theorem not_opens_of_other (h : ∀ c ∈ l, c = other) : ∀ c ∈ l, c.opens = false := by
  intro c hc
  rw [h c hc]
  rfl

theorem countP_closes (h : ∀ c ∈ l, c = other) (lane : String) (fence : ℤ) :
    l.countP (closes lane fence) = 0 := by
  rw [List.countP_eq_zero]
  intro c hc
  rw [h c hc]
  exact Bool.false_ne_true

/-- A lane that is opened, used and closed. -/
theorem settled_bracket (h : ∀ c ∈ l, c = other) (failure : Option ν) :
    Settled leased (opened lane fence :: (l ++ [closed lane fence failure])) := by
  refine ⟨Or.inl ?_, settled_of_not_opens ?_⟩
  · rw [List.countP_append, countP_closes h]
    simp [closes]
  · rw [List.forall_mem_append, List.forall_mem_singleton]
    exact ⟨not_opens_of_other h, rfl⟩

/-- A lane that is opened and leased. -/
theorem settled_leased (h : ∀ c ∈ l, c = other) (hleased : leased lane fence) :
    Settled leased (opened lane fence :: l) :=
  ⟨Or.inr hleased, settled_of_not_opens (not_opens_of_other h)⟩

/-- A lane that is opened and neither closed nor leased. -/
theorem not_settled (h : ∀ c ∈ l, c = other) (hleased : ¬leased lane fence) :
    ¬Settled leased (opened lane fence :: l) := by
  rintro ⟨hcount | hmore, -⟩
  · rw [countP_closes h] at hcount
    cases hcount
  · exact hleased hmore

theorem filterMap_failure (h : ∀ c ∈ l, c = other) : l.filterMap failure = [] := by
  rw [List.filterMap_eq_nil_iff]
  intro c hc
  rw [h c hc]
  rfl

end LaneRequest

/-- The lanes of a call are cleaned up in the surroundings `e`. In the surroundings `e'` closing may
end in another way. -/
structure Cleaned {E ε ρ ν : Type} (OtherwiseAlike : E → E → Prop) (attach : ρ → ν → ρ)
    (call : E → CallOutcome ε ρ ν) (e : E) : Prop where
  settled : LaneRequest.Settled (call e).leased (call e).laneRequests
  /-- A call that opens a lane comes to the same however closing ends, up to the notes. -/
  independent : (∃ c ∈ (call e).laneRequests, c.opens = true) → ∃ own : Except ε ρ,
    ∀ e', OtherwiseAlike e e' → (call e').result =
      own.map fun r => ((call e').laneRequests.filterMap LaneRequest.failure).foldl attach r

namespace Cleaned

variable {E ε ρ ν : Type} {OtherwiseAlike : E → E → Prop} {attach : ρ → ν → ρ}
  {call : E → CallOutcome ε ρ ν} {e : E} {l : List (LaneRequest ν)}

/-- There is nothing to clean up. -/
theorem of_not_opens (h : ∀ c ∈ (call e).laneRequests, c.opens = false) :
    Cleaned OtherwiseAlike attach call e := by
  refine ⟨LaneRequest.settled_of_not_opens h, ?_⟩
  rintro ⟨c, hc, hopens⟩
  rw [h c hc] at hopens
  cases hopens

/-- A call that opens a lane, works under it and closes it. -/
theorem of_bracket (lane : String) (fence : ℤ) (own : Except ε ρ) (failure : E → Option ν)
    (hl : ∀ c ∈ l, c = .other) (hrefl : OtherwiseAlike e e)
    (hcalls : ∀ e', OtherwiseAlike e e' →
      (call e').laneRequests = .opened lane fence :: (l ++ [.closed lane fence (failure e')]))
    (hresult : ∀ e', OtherwiseAlike e e' →
      (call e').result = own.map fun r => (failure e').toList.foldl attach r) :
    Cleaned OtherwiseAlike attach call e := by
  constructor
  · rw [hcalls e hrefl]
    exact LaneRequest.settled_bracket hl _
  · intro _
    refine ⟨own, fun e' he' => ?_⟩
    have hfailures : (call e').laneRequests.filterMap LaneRequest.failure =
        (failure e').toList := by
      rw [hcalls e' he', List.filterMap_cons_none rfl, List.filterMap_append,
        LaneRequest.filterMap_failure hl, List.nil_append, List.filterMap_cons]
      cases hfailure : failure e' <;> simp [LaneRequest.failure]
    rw [hfailures, hresult e' he']

/-- A call that opens a lane and leaves it to the lease whose handle it returns. -/
theorem of_leased (lane : String) (fence : ℤ) (own : Except ε ρ) (hl : ∀ c ∈ l, c = .other)
    (hrefl : OtherwiseAlike e e) (hleased : (call e).leased lane fence)
    (hcalls : ∀ e', OtherwiseAlike e e' → (call e').laneRequests = .opened lane fence :: l)
    (hresult : ∀ e', OtherwiseAlike e e' → (call e').result = own) :
    Cleaned OtherwiseAlike attach call e := by
  constructor
  · rw [hcalls e hrefl]
    exact LaneRequest.settled_leased hl hleased
  · intro _
    refine ⟨own, fun e' he' => ?_⟩
    rw [hcalls e' he', hresult e' he', List.filterMap_cons_none rfl,
      LaneRequest.filterMap_failure hl]
    cases own <;> rfl

end Cleaned

end VeraMesh
