import VeraMesh.Gateway.LaneCleanup
import VeraMesh.PublicGateway.PublicTools

/-!
# Cleanup of lanes by both facades

The methods of the Go facade clean up their lanes, whatever the controller answers. So do the public
tools of the reference facade, except that `start_process` draws the id of the lease after the
process has been started, where nothing closes the lane any more.

## Main results

* `facadeCall_cleansUp_iff`: a call cleans up its lanes unless it `StartsUnleased`.
-/

namespace VeraMesh

open PublicGateway Python

/-- A public tool call of one of the two facades, with what the other side answers to it. -/
inductive FacadeCall : Type 1 where
  /-- `PublicWorkstationFacade`. -/
  | reference (rt : Runtime) (tool : PublicTool) (f : PublicWorkstationFacade)
      (outcomes : Outcomes)
  /-- `Facade` of `facade.go`. -/
  | gateway {σ : Type} (method : Gateway.FacadeMethod) (random : ℕ → String)
      (f : Gateway.Facade σ) (api : Gateway.ControllerAPI σ)

namespace FacadeCall

/-- Every lane that the call opens is closed exactly once or leased, and what the call comes to does
not depend on how closing ends, up to the note on a failure. -/
def CleansUp : FacadeCall → Prop
  | reference rt tool f outcomes => tool.CleansUp rt f outcomes
  | gateway method random f api => method.CleansUp random f api

/-- A process is started and then there is no id for its lease. -/
def StartsUnleased : FacadeCall → Prop
  | reference rt tool f outcomes => PublicGateway.StartsUnleased rt outcomes f tool
  | gateway .. => False

end FacadeCall

/-- **A public tool call cleans up its lanes exactly if it does not start a process that is then
refused an id.** -/
theorem facadeCall_cleansUp_iff (call : FacadeCall) : call.CleansUp ↔ ¬call.StartsUnleased := by
  cases call with
  | reference rt tool f outcomes => exact PublicTool.cleansUp_iff rt tool f outcomes
  | gateway method random f api => exact iff_of_true (method.cleansUp random f api) id

namespace FacadeCall

/-- A response of the workstation. -/
def okResponse (result : List (String × PyValue)) : Except Raised PyValue :=
  .ok (.dict [("ok", .bool true), ("result", .dict result)])

/-- The lane is opened, the runtime is started, and so is the process. -/
def startOutcomes : Outcomes where
  close _ := okResponse []
  answer
    | 0 => okResponse [("fencing_token", .int 1)]
    | 1 => .ok .none
    | _ => okResponse [("process_handle", .str "p")]
  info _ := .ok .empty

/-- The factory has an id for the lane and one for the task. -/
def twoIds : PublicWorkstationFacade where
  actorTag := "a"
  idFactory n := .ok (.str (if n < 2 then "id" else ""))
  processes := .empty
  ids := 0
  closed := 0
  asked := 0
  informed := 0
  calls := []

/-- The empty id is refused when the process is running. -/
theorem not_cleansUp :
    ¬(reference (.ascii false) (.startProcess ["sh"] "/w" 60) twoIds startOutcomes).CleansUp := by
  intro h
  refine (PublicTool.cleansUp_iff _ _ _ _).mp h ⟨⟨_, rfl⟩, ⟨("public-lane:a:id", 1), ?_⟩,
    ⟨.ofList [("process_handle", .str "p")], "p", rfl, ?_⟩,
    .valueError "id_factory must return a non-empty string", ?_⟩
  all_goals decide +kernel

end FacadeCall

end VeraMesh
