import VeraMesh.Gateway.MCPServer
import VeraMesh.Gateway.Routing

/-!
# The operations of an advertised tool

`ToolSupported` decides from a table which tools the gateway advertises; which operations a tool hands
to the controller is written in the facade. `list_processes` hands on `process.status`, once for each
process, where the table asks for `process.list`.

## Main results

* `Facade.callsWithin_iff`: an advertised tool stays within the operations of the configuration if and
  only if it is not `list_processes` for some process without `process.status`.
-/

namespace VeraMesh.Gateway

/-! ## The operations of a configuration -/

/-- `operationCapabilities`. -/
def operationCapabilities : Dict String (List String) := .ofList
  [("fs.read_text", ["fs.read"]), ("fs.read_bytes", ["fs.read"]), ("fs.stat", ["fs.read"]),
    ("fs.list_dir", ["fs.read"]), ("fs.search", ["fs.read"]), ("fs.search_content", ["fs.read"]),
    ("fs.write_text", ["fs.write"]), ("fs.append_text", ["fs.write"]), ("fs.mkdir", ["fs.write"]),
    ("fs.move", ["fs.write"]), ("fs.replace_text", ["fs.read", "fs.write"]),
    ("process.exec", ["process.exec"]), ("process.start", ["process.exec"]),
    ("process.list", ["process.inspect"]), ("process.status", ["process.inspect"]),
    ("process.output", ["process.inspect"]), ("process.input", ["process.interact"]),
    ("process.terminate", ["process.control"])]

/-- `allowedOperations`. -/
def allowedOperations : List String :=
  ["lane.list", "lane.open", "lane.renew", "lane.close"] ++ operationCapabilities.keys

/-- The capabilities of one operation, in the loop of `Validate`. -/
def requireCapabilities (cfg : Config) (op : String) : List String → Except GoError Unit
  | [] => .ok ()
  | cap :: caps =>
    if cap ∈ cfg.requestedCapabilities then requireCapabilities cfg op caps
    else .error ⟨op ++ " requires requested capability " ++ cap, none⟩

/-- The loop over the operations in `Validate`. -/
def validateOperations (cfg : Config) : List String → Except GoError Unit
  | [] => .ok ()
  | op :: ops =>
    if op ∉ allowedOperations then .error ⟨"unknown gateway operation: " ++ op, none⟩
    else do
      requireCapabilities cfg op ((operationCapabilities.get? op).getD [])
      validateOperations cfg ops

/-- The part of `Validate` that is about capabilities and operations. -/
def Config.validate (cfg : Config) : Except GoError Unit :=
  if cfg.requestedCapabilities = [] ∨ cfg.gatewayOperations = [] then
    .error ⟨"requested capabilities and gateway operations must be non-empty", none⟩
  else validateOperations cfg cfg.gatewayOperations

/-- What the handler of a tool hands to `Controller.Call`, cleanup included. -/
def ToolPolicy.issues (policy : ToolPolicy) : List String :=
  if policy.name = "computer_info" then []
  else if policy.name = "list_processes" then ["process.status"]
  else if policy.name = "release_process" then ["lane.close"]
  else if policy.name ∈ ["process_status", "process_output", "process_input", "terminate_process"]
    then [policy.operation]
  else ["lane.open", policy.operation, "lane.close"]

/-- The table of `ToolSupported` covers what the handlers issue, but for the status of processes. -/
theorem mem_operations_of_issues {cfg : Config} {policy : ToolPolicy} (hpolicy : policy ∈ PublicTools)
    (hsupported : toolSupported cfg policy = true)
    (hstatus : policy.name = "list_processes" → "process.status" ∈ cfg.gatewayOperations) :
    ∀ op ∈ policy.issues, op ∈ cfg.gatewayOperations := by
  simp only [PublicTools, List.mem_cons, List.not_mem_nil, or_false] at hpolicy
  unfold toolSupported at hsupported
  rcases hpolicy with rfl | rfl | rfl | rfl | rfl | rfl | rfl | rfl | rfl | rfl | rfl | rfl | rfl |
    rfl | rfl | rfl | rfl | rfl | rfl | rfl <;>
  · simp [ToolPolicy.issues] at hsupported hstatus ⊢
    try tauto

namespace Facade

variable {σ : Type} {api : ControllerAPI σ} {random : ℕ → String} {f : Facade σ} {ops : List String}

/-! ## What an action issues -/

/-- Whatever the state, the action hands no other operations to the controller. -/
def Issues (ops : List String) (action : Facade σ → Except GoError GoMap × Facade σ) : Prop :=
  ∀ f : Facade σ, ∃ sent, (action f).2.calls = f.calls ++ sent ∧ ∀ call ∈ sent, call.operation ∈ ops

/-- Two things done one after the other. -/
theorem sent_trans {f₁ f₂ f₃ : Facade σ}
    (h : ∃ sent, f₂.calls = f₁.calls ++ sent ∧ ∀ call ∈ sent, call.operation ∈ ops)
    (h' : ∃ sent, f₃.calls = f₂.calls ++ sent ∧ ∀ call ∈ sent, call.operation ∈ ops) :
    ∃ sent, f₃.calls = f₁.calls ++ sent ∧ ∀ call ∈ sent, call.operation ∈ ops := by
  obtain ⟨sent, hcalls, hsent⟩ := h
  obtain ⟨sent', hcalls', hsent'⟩ := h'
  refine ⟨sent ++ sent', ?_, ?_⟩
  · rw [hcalls', hcalls, List.append_assoc]
  · simpa only [List.forall_mem_append] using ⟨hsent, hsent'⟩

variable (api) in
theorem sent_call {operation : String} (hop : operation ∈ ops) (f : Facade σ) (body : GoMap) :
    ∃ sent, (f.call api operation body).2.calls = f.calls ++ sent ∧
      ∀ call ∈ sent, call.operation ∈ ops :=
  ⟨_, rfl, by simpa using hop⟩

variable (api random) in
theorem sent_openLane (hopen : "lane.open" ∈ ops) (f : Facade σ) (capabilities : List String)
    (claims : List GoValue) (ttlS : Float64) (task : String) :
    ∃ sent, (f.openLane api random capabilities claims ttlS task).2.calls = f.calls ++ sent ∧
      ∀ call ∈ sent, call.operation ∈ ops :=
  ⟨_, rfl, by simpa using hopen⟩

variable (api) in
theorem sent_closeLane (hclose : "lane.close" ∈ ops) (f : Facade σ) (laneID : String) (fence : ℤ) :
    ∃ sent, (f.closeLane api laneID fence).2.calls = f.calls ++ sent ∧
      ∀ call ∈ sent, call.operation ∈ ops :=
  sent_call api hclose f _

theorem sent_nil (f : Facade σ) :
    ∃ sent, f.calls = f.calls ++ sent ∧ ∀ call ∈ sent, call.operation ∈ ops :=
  ⟨[], (List.append_nil _).symm, nofun⟩

theorem issues_claimed {operation : String} (hopen : "lane.open" ∈ ops) (hop : operation ∈ ops)
    (hclose : "lane.close" ∈ ops) {capabilities : List String}
    {claims : Except GoError (List GoValue)} {body : GoMap} {task : String} :
    Issues ops (claimed api random operation capabilities claims body task) := by
  intro f
  cases claims with
  | error err => exact sent_nil f
  | ok claims =>
    have hlane := sent_openLane api random hopen f capabilities claims 300 task
    show ∃ sent, (f.ephemeral api random operation capabilities claims body task).2.calls = _ ∧ _
    unfold ephemeral
    split
    next hres =>
      rw [hres] at hlane
      exact hlane
    next hres =>
      rw [hres] at hlane
      have hdone := fun body => sent_trans hlane (sent_call api hop _ body)
      dsimp only
      split
      · exact sent_trans (hdone _) (sent_closeLane api hclose _ _ _)
      · split <;> exact sent_trans (hdone _) (sent_closeLane api hclose _ _ _)

theorem issues_startProcess (hopen : "lane.open" ∈ ops) (hop : "process.start" ∈ ops)
    (hclose : "lane.close" ∈ ops) {argv : List String} {cwd : String} {maxRuntimeS : Float64} :
    Issues ops (startProcess api random argv cwd maxRuntimeS) := by
  intro f
  unfold startProcess
  split
  · exact sent_nil f
  next claim _ =>
    have hlane := sent_openLane api random hopen f
      ["process.exec", "process.inspect", "process.interact", "process.control"] [claim]
      (processTTL maxRuntimeS) "start-process"
    split
    next hres =>
      rw [hres] at hlane
      exact hlane
    next hres =>
      rw [hres] at hlane
      have hdone := fun body => sent_trans hlane (sent_call api hop _ body)
      dsimp only
      split
      · exact sent_trans (hdone _) (sent_closeLane api hclose _ _ _)
      · exact hdone _

theorem issues_processOperation {operation handle : String} {body : GoMap} (hop : operation ∈ ops) :
    Issues ops (processOperation api operation handle body) := by
  intro f
  unfold processOperation
  split
  · exact sent_nil f
  · exact sent_call api hop f _

theorem issues_releaseProcess (hclose : "lane.close" ∈ ops) (handle : String) :
    Issues ops (releaseProcess api handle) := by
  intro f
  unfold releaseProcess
  split
  · exact sent_nil f
  next lease _ =>
    have hclosed := sent_closeLane api hclose f lease.laneID lease.fencingToken
    dsimp only
    split <;> exact hclosed

variable (api) in
theorem sent_statusOf (hop : "process.status" ∈ ops) (handles : List String) (f : Facade σ) :
    ∃ sent, (statusOf api handles f).2.calls = f.calls ++ sent ∧
      ∀ call ∈ sent, call.operation ∈ ops := by
  induction handles generalizing f with
  | nil => exact sent_nil f
  | cons handle handles ih =>
    exact sent_trans (issues_processOperation hop f) (ih (f.processStatus api handle).2)

/-- Every public tool issues the operations of its row. -/
theorem toolAction_issues {policy : ToolPolicy} (h : policy ∈ PublicTools)
    (hops : ∀ op ∈ policy.issues, op ∈ ops) (a : GoMap) :
    Yields (toolAction api random policy.name a) (Issues ops) := by
  simp only [PublicTools, List.mem_cons, List.not_mem_nil, or_false] at h
  rcases h with rfl | rfl | rfl | rfl | rfl | rfl | rfl | rfl | rfl | rfl | rfl | rfl | rfl | rfl |
    rfl | rfl | rfl | rfl | rfl | rfl <;>
    simp [ToolPolicy.issues] at hops
  case _ => exact .pure sent_nil
  case _ => exact .bind fun _ => .pure (issues_claimed hops.1 hops.2.1 hops.2.2)
  case _ =>
    exact .bind fun _ => .bind fun _ => .bind fun _ => .bind fun _ => .pure
      (issues_claimed hops.1 hops.2.1 hops.2.2)
  case _ => exact .bind fun _ => .pure (issues_claimed hops.1 hops.2.1 hops.2.2)
  case _ =>
    exact .bind fun _ => .bind fun _ => .bind fun _ => .pure
      (issues_claimed hops.1 hops.2.1 hops.2.2)
  case _ =>
    refine .bind fun _ => .bind fun _ => .pure ?_
    unfold searchFiles onPath
    exact issues_claimed hops.1 hops.2.1 hops.2.2
  case _ =>
    refine .bind fun _ => .bind fun _ => .pure ?_
    unfold searchContent onPath
    exact issues_claimed hops.1 hops.2.1 hops.2.2
  case _ => exact .bind fun _ => .bind fun _ => .pure (issues_claimed hops.1 hops.2.1 hops.2.2)
  case _ => exact .bind fun _ => .bind fun _ => .pure (issues_claimed hops.1 hops.2.1 hops.2.2)
  case _ => exact .bind fun _ => .bind fun _ => .pure (issues_claimed hops.1 hops.2.1 hops.2.2)
  case _ => exact .bind fun _ => .bind fun _ => .pure (issues_claimed hops.1 hops.2.1 hops.2.2)
  case _ =>
    refine .bind fun _ => .bind fun _ => .bind fun _ => .pure ?_
    unfold replaceText onPath
    exact issues_claimed hops.1 hops.2.1 hops.2.2
  case _ =>
    exact .bind fun _ => .bind fun _ => .bind fun _ => .pure
      (issues_claimed hops.1 hops.2.1 hops.2.2)
  case _ =>
    exact .bind fun _ => .bind fun _ => .bind fun _ => .pure
      (issues_startProcess hops.1 hops.2.1 hops.2.2)
  case _ => exact .pure fun f => sent_statusOf api hops _ f
  case _ => exact .bind fun _ => .pure (issues_processOperation hops)
  case _ =>
    exact .bind fun _ => .bind fun _ => .bind fun _ => .bind fun _ => .pure
      (issues_processOperation hops)
  case _ =>
    exact .bind fun _ => .bind fun _ => .bind fun _ => .pure (issues_processOperation hops)
  case _ => exact .bind fun _ => .bind fun _ => .pure (issues_processOperation hops)
  case _ => exact .bind fun _ => .pure (issues_releaseProcess hops _)

/-! ## The ceiling -/

/-- From one state to the other, no operation is handed to the controller that the configuration does
not enable. -/
def CallsWithin (cfg : Config) (f f' : Facade σ) : Prop :=
  ∃ sent, f'.calls = f.calls ++ sent ∧ ∀ call ∈ sent, call.operation ∈ cfg.gatewayOperations

variable (api) in
/-- `list_processes` asks for the status of a process, if there is one. -/
theorem exists_status_of_listProcesses (h : f.processes.keys ≠ []) :
    ∃ call rest, (f.listProcesses api).2.calls = f.calls ++ call :: rest ∧
      call.operation = "process.status" := by
  have hsorted : f.sortedHandles ≠ [] := by
    intro hnil
    have hlength := List.length_insertionSort (· ≤ ·) f.processes.keys
    rw [show f.processes.keys.insertionSort (· ≤ ·) = [] from hnil] at hlength
    exact h (List.eq_nil_of_length_eq_zero hlength.symm)
  obtain ⟨handle, handles, hhandles⟩ := List.exists_cons_of_ne_nil hsorted
  have hmem : handle ∈ f.processes.keys := by
    have hhere : handle ∈ f.sortedHandles := hhandles ▸ List.mem_cons_self
    exact (List.mem_insertionSort _).mp hhere
  obtain ⟨lease, hlease⟩ := Dict.mem_keys.mp hmem
  have hfirst : ∃ call : OperationCall, (f.processStatus api handle).2.calls = f.calls ++ [call] ∧
      call.operation = "process.status" := by
    unfold processStatus processOperation Facade.lease
    simp only [hlease]
    exact ⟨_, rfl, rfl⟩
  obtain ⟨call, hcall, hop⟩ := hfirst
  obtain ⟨rest, hrest, -⟩ := sent_statusOf api (List.mem_singleton_self "process.status")
    handles (f.processStatus api handle).2
  refine ⟨call, rest, ?_, hop⟩
  show (statusOf api f.sortedHandles f).2.calls = _
  rw [hhandles]
  show (statusOf api handles (f.processStatus api handle).2).2.calls = _
  rw [hrest, hcall, List.append_assoc, List.singleton_append]

/-- **An advertised tool stays within the operations that the configuration enables**, whatever its
arguments, if and only if it is another tool than `list_processes`, or no process is in the table, or
`process.status` is enabled. -/
theorem callsWithin_iff {cfg : Config} {policy : ToolPolicy} (hpolicy : policy ∈ PublicTools)
    (hsupported : toolSupported cfg policy = true) (f : Facade σ) (a : GoMap) :
    CallsWithin cfg f (f.dispatchTool api random policy.name a).2 ↔
      (policy.name = "list_processes" → f.processes.keys ≠ [] →
        "process.status" ∈ cfg.gatewayOperations) := by
  constructor
  · rintro ⟨sent, hsent, hwithin⟩ hname hprocesses
    obtain ⟨call, rest, hcalls, hop⟩ := exists_status_of_listProcesses api hprocesses
    rw [hname] at hsent
    have hsame : f.calls ++ call :: rest = f.calls ++ sent := hcalls.symm.trans hsent
    obtain rfl := List.append_cancel_left hsame
    exact hop ▸ hwithin call List.mem_cons_self
  · intro hstatus
    unfold dispatchTool
    cases haction : toolAction api random policy.name a with
    | error err => exact sent_nil f
    | ok action =>
      obtain ⟨sent, hsent, hissues⟩ :=
        toolAction_issues hpolicy (fun op hop => hop) a action haction f
      refine ⟨sent, hsent, fun call hcall => ?_⟩
      by_cases hlist : policy.name = "list_processes" ∧ f.processes.keys = []
      · -- no process is asked for
        rw [hlist.1] at haction
        obtain rfl : listProcesses api = action := Except.ok.inj haction
        have hhandles : f.sortedHandles = [] := by
          rw [sortedHandles, hlist.2]
          rfl
        have hnone : (listProcesses api f).2.calls = f.calls := by
          show (statusOf api f.sortedHandles f).2.calls = _
          rw [hhandles]
          rfl
        obtain rfl : sent = [] := by
          rw [hnone] at hsent
          exact List.append_cancel_left ((List.append_nil _).trans hsent).symm
        cases hcall
      · apply mem_operations_of_issues hpolicy hsupported _ _ (hissues call hcall)
        exact fun hname => hstatus hname fun hnil => hlist ⟨hname, hnil⟩

/-! A configuration that enables the list of processes and not their status, and a workstation that
starts every process. -/

def listOnlyConfig : Config where
  requestedCapabilities := ["process.control", "process.exec", "process.inspect", "process.interact"]
  gatewayOperations := ["lane.close", "lane.open", "process.list", "process.start"]
  endpoints := [⟨"direct", "DIRECT_STREAM", true⟩]
  maxPathAgeMS := 5000

def startingWorld : World :=
  { Controller.exampleWorld with
    answer := fun _ _ _ => .ok (.ofList [("ok", .bool true), ("result",
      .map [("fencing_token", .number "7"), ("process_handle", .str "p1")])]) }

/-- The facade after it has started a process. -/
def facadeWithProcess : Facade Controller :=
  (Facade.create (.create listOnlyConfig ⟨3, by decide⟩) "0123456789abcdef").run (Controller.api startingWorld)
    (fun _ => "0b") [.tool "start_process"
      (.ofList [("argv", .list [.str "sleep"]), ("cwd", .str "/srv")])]

def listPolicy : ToolPolicy :=
  ⟨"list_processes", "process.list", ["computer.process"], ["process.inspect"], true⟩

theorem callsWithin_iff_startedProcess :
    CallsWithin listOnlyConfig facadeWithProcess
        (facadeWithProcess.dispatchTool (Controller.api startingWorld) (fun _ => "0b")
          "list_processes" .empty).2 ↔
      ("list_processes" = "list_processes" → facadeWithProcess.processes.keys ≠ [] →
        "process.status" ∈ listOnlyConfig.gatewayOperations) :=
  @callsWithin_iff Controller (Controller.api startingWorld) (fun _ => "0b") listOnlyConfig listPolicy
    (by decide) (by decide +kernel) facadeWithProcess .empty

/-- The configuration is valid and `list_processes` is advertised, and for the started process the
tool hands `process.status` to the controller, which refuses it. -/
theorem not_callsWithin :
    listOnlyConfig.validate = .ok () ∧ toolSupported listOnlyConfig listPolicy = true ∧
      ¬CallsWithin listOnlyConfig facadeWithProcess
        (facadeWithProcess.dispatchTool (Controller.api startingWorld) (fun _ => "0b")
          listPolicy.name .empty).2 := by
  refine ⟨by decide +kernel, by decide +kernel, ?_⟩
  rintro ⟨sent, hsent, hwithin⟩
  have hprocesses : facadeWithProcess.processes.keys ≠ [] := by decide +kernel
  obtain ⟨call, rest, hcalls, hop⟩ :=
    exists_status_of_listProcesses (Controller.api startingWorld) hprocesses
  have hsame : facadeWithProcess.calls ++ call :: rest = facadeWithProcess.calls ++ sent :=
    hcalls.symm.trans hsent
  obtain rfl := List.append_cancel_left hsame
  have hmem := hwithin call List.mem_cons_self
  rw [hop] at hmem
  exact absurd hmem (by decide)

end Facade

end VeraMesh.Gateway
