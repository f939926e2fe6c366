import VeraMesh.Gateway.WorkBridge

/-!
# The MCP gateway

The table of public tools of `policy.go` and `MCPGateway` of `mcp_server.go`, which takes a tool call
to WorkBridge or, through the facade of the caller, to VeraPort. All facades share one controller.
-/

namespace VeraMesh.Gateway

/-! ## Policies -/

/-- `ToolPolicy`, without what only describes the tool to a client. -/
structure ToolPolicy where
  name : String
  operation : String
  scopes : List String
  capabilities : List String
  readOnly : Bool
  deriving DecidableEq

/-- `PublicTools`. -/
def PublicTools : List ToolPolicy :=
  [⟨"computer_info", "machine.info", ["computer.profile"], [], true⟩,
    ⟨"read_file", "fs.read_text", ["computer.read"], ["fs.read"], true⟩,
    ⟨"read_bytes", "fs.read_bytes", ["computer.read"], ["fs.read"], true⟩,
    ⟨"stat_path", "fs.stat", ["computer.read"], ["fs.read"], true⟩,
    ⟨"list_directory", "fs.list_dir", ["computer.read"], ["fs.read"], true⟩,
    ⟨"search_files", "fs.search", ["computer.read"], ["fs.read"], true⟩,
    ⟨"search_content", "fs.search_content", ["computer.read"], ["fs.read"], true⟩,
    ⟨"write_file", "fs.write_text", ["computer.write"], ["fs.write"], false⟩,
    ⟨"append_file", "fs.append_text", ["computer.write"], ["fs.write"], false⟩,
    ⟨"make_directory", "fs.mkdir", ["computer.write"], ["fs.write"], false⟩,
    ⟨"move_path", "fs.move", ["computer.write"], ["fs.write"], false⟩,
    ⟨"replace_text", "fs.replace_text", ["computer.read", "computer.write"],
      ["fs.read", "fs.write"], false⟩,
    ⟨"run_process", "process.exec", ["computer.process"], ["process.exec"], false⟩,
    ⟨"start_process", "process.start", ["computer.process"],
      ["process.exec", "process.inspect", "process.interact", "process.control"], false⟩,
    ⟨"list_processes", "process.list", ["computer.process"], ["process.inspect"], true⟩,
    ⟨"process_status", "process.status", ["computer.process"], ["process.inspect"], true⟩,
    ⟨"process_output", "process.output", ["computer.process"], ["process.inspect"], true⟩,
    ⟨"process_input", "process.input", ["computer.process"], ["process.interact"], false⟩,
    ⟨"terminate_process", "process.terminate", ["computer.process"],
      ["process.control", "process.inspect"], false⟩,
    ⟨"release_process", "gateway.release_process", ["computer.process"], ["process.control"],
      false⟩]

/-- `ToolSupported`. -/
def toolSupported (cfg : Config) (p : ToolPolicy) : Bool :=
  let ops := cfg.gatewayOperations
  if p.name = "computer_info" then true
  else if "lane.open" ∉ ops then false
  else if "lane.close" ∉ ops then false
  else if ¬p.capabilities.all (· ∈ cfg.requestedCapabilities) then false
  else if p.operation = "gateway.release_process" then
    "process.start" ∈ ops && "process.terminate" ∈ ops
  else if p.name ∈ ["list_processes", "process_status", "process_output", "process_input",
      "terminate_process"] then
    "process.start" ∈ ops && p.operation ∈ ops
  else p.operation ∈ ops

/-! ## The gateway -/

structure TokenInfo where
  userID : String
  scopes : List String

structure CallToolRequest where
  token : Option TokenInfo
  /-- What `decodeArguments` makes of the arguments. -/
  arguments : Except GoError GoMap

/-- What a tool call returns. -/
inductive ToolResult where
  /-- `successToolResult`, where the result can be encoded. -/
  | success (result : GoMap)
  /-- `errorToolResult`. -/
  | error (code message : String)
  /-- `authErrorToolResult`. -/
  | authError (code message : String) (scopes : List String)

/-- The texts of the random bytes that the `newID` of the facades draws, one after another. They are
hexadecimal, and none is drawn twice. -/
structure RandomIDs where
  text : ℕ → String
  no_colon : ∀ n, ':' ∉ (text n).toList
  injective : Function.Injective text

/-- One course of events outside the gateway. -/
structure Surroundings where
  world : World
  ids : RandomIDs
  /-- What `call` returns for the WorkBridge request with the given number. -/
  workBridge : ℕ → WorkBridgeRequest → Except GoError GoMap
  /-- The first sixteen hexadecimal digits of SHA-256. -/
  actorTag : String → String
  /-- `json.Marshal`. -/
  marshal : GoMap → Except GoError String

structure MCPGateway (u : Unicode) where
  controller : Controller
  workbridge : Option (WorkBridgeClient u)
  issuer : String
  /-- The facades by their actors. Their controller is the gateway's. -/
  facades : Dict String (Facade Unit)
  /-- The number of ids that the facades drew. -/
  idsDrawn : ℕ
  /-- The requests made to WorkBridge. -/
  workBridgeSent : List WorkBridgeRequest

/-- `successToolResult`. -/
def successToolResult (s : Surroundings) (result : GoMap) : ToolResult :=
  match s.marshal result with
  | .error err => .error "RESULT_ENCODING_ERROR" err.message
  | .ok _ => .success result

/-- `missingScopes`. -/
def missingScopes (granted required : List String) : List String :=
  (required.filter (· ∉ granted)).insertionSort (· ≤ ·)

/-- `NewFacade`. -/
def newFacade (s : Surroundings) (actorID : String) : Except GoError (Facade Unit) :=
  let actorID := String.ofList (trimSpace actorID.toList)
  if actorID = "" then .error ⟨"controller and actor_id are required", none⟩
  else .ok (.create () (s.actorTag actorID))

/-- The facade over a controller, when the facades have drawn `n` ids. -/
def Facade.attach (f : Facade Unit) (c : Controller) (n : ℕ) : Facade Controller :=
  { f with controller := c, counter := n }

/-- The facade without its controller. -/
def Facade.detach (f : Facade Controller) : Facade Unit := { f with controller := () }

namespace MCPGateway

variable {u : Unicode} (s : Surroundings)

/-- `newMCPGateway`. -/
def create (cfg : Config) (raw : Fin (2 ^ 32)) (workbridge : Option (WorkBridgeClient u))
    (issuer : String) : MCPGateway u :=
  ⟨.create cfg raw, workbridge, issuer, .empty, 0, []⟩

/-- `facade`. -/
def facade (g : MCPGateway u) (actor : String) : Except GoError (Facade Unit) :=
  match g.facades.get? actor with
  | some existing => .ok existing
  | none => newFacade s actor

/-- The gateway after the facade of the actor was at work. -/
def store (g : MCPGateway u) (actor : String) (f : Facade Controller) : MCPGateway u :=
  { g with controller := f.controller, idsDrawn := f.counter,
           facades := g.facades.set actor f.detach }

/-- The part of `callTool` that tries WorkBridge. -/
def callWorkBridge (g : MCPGateway u) (policy : ToolPolicy) (args : GoMap) :
    Option ToolResult × MCPGateway u :=
  match g.workbridge with
  | none => (none, g)
  | some w =>
    if !w.canHandlePublic policy.name args then (none, g)
    else
      let (result, sent) := w.callPublic (s.workBridge g.workBridgeSent.length) policy.name args
      let g := { g with workBridgeSent := g.workBridgeSent ++ sent }
      match result with
      | .ok out => (some (successToolResult s out), g)
      | .error err =>
        -- only a read falls back, and only where VeraPort supports the tool
        if !policy.readOnly || !toolSupported g.controller.cfg policy then
          (some (.error "WORKBRIDGE_UPSTREAM_ERROR" err.message), g)
        else (none, g)

/-- The part of `callTool` that uses VeraPort. -/
def callVeraPort (g : MCPGateway u) (policy : ToolPolicy) (userID : String) (args : GoMap) :
    ToolResult × MCPGateway u :=
  if !toolSupported g.controller.cfg policy then
    (.error "BACKEND_UNAVAILABLE" "no backend can preserve this tool's semantics", g)
  else
    let actor := g.issuer ++ "|" ++ userID
    match g.facade s actor with
    | .error err => (.error "PUBLIC_GATEWAY_ERROR" err.message, g)
    | .ok facade =>
      let (result, f) := (facade.attach g.controller g.idsDrawn).dispatchTool
        (Controller.api s.world) s.ids.text policy.name args
      match result with
      | .error err =>
        (.error (err.remoteCode.getD "PUBLIC_GATEWAY_ERROR") err.message, g.store actor f)
      | .ok result => (successToolResult s result, g.store actor f)

/-- `callTool`. -/
def callTool (g : MCPGateway u) (policy : ToolPolicy) (req : CallToolRequest) :
    ToolResult × MCPGateway u :=
  match req.token with
  | none => (.authError "invalid_token" "VeraMesh OAuth token is required" policy.scopes, g)
  | some token =>
    let missing := missingScopes token.scopes policy.scopes
    if trimSpace token.userID.toList = [] then
      (.authError "invalid_token" "OAuth resource-owner subject is required" policy.scopes, g)
    else if missing ≠ [] then
      (.authError "insufficient_scope"
        ("Additional VeraMesh permission required: " ++ ", ".intercalate missing) policy.scopes, g)
    else match req.arguments with
      | .error err => (.error "INVALID_ARGUMENTS" err.message, g)
      | .ok args =>
        match g.callWorkBridge s policy args with
        | (some result, g) => (result, g)
        | (none, g) => g.callVeraPort s policy token.userID args

/-- The loop of `Close`. -/
def closeFacades : List String → MCPGateway u → MCPGateway u
  | [], g => g
  | actor :: actors, g =>
    match g.facades.get? actor with
    | none => closeFacades actors g
    | some f =>
      closeFacades actors
        (g.store actor ((f.attach g.controller g.idsDrawn).close (Controller.api s.world)).2)

/-- `Close`, without its report. -/
def close (g : MCPGateway u) : MCPGateway u :=
  closeFacades s (g.facades.keys.insertionSort (· ≤ ·)) g

/-- What happens to a gateway. -/
inductive Event where
  | call (policy : ToolPolicy) (registered : policy ∈ PublicTools) (req : CallToolRequest)
  | close

/-- The gateway after an event. -/
def step (g : MCPGateway u) : Event → MCPGateway u
  | .call policy _ req => (g.callTool s policy req).2
  | .close => g.close s

/-- The gateway after a run of events. -/
def run (g : MCPGateway u) (events : List Event) : MCPGateway u := events.foldl (step s) g

end MCPGateway

/-! ## What the tools do -/

/-- Every result of the computation fulfils `P`. -/
def Yields {ε α : Type} (x : Except ε α) (P : α → Prop) : Prop := ∀ a, x = .ok a → P a

theorem Yields.bind {ε α β : Type} {x : Except ε α} {f : α → Except ε β} {P : β → Prop}
    (h : ∀ a, Yields (f a) P) : Yields (x >>= f) P := by
  intro b hb
  obtain ⟨a, -, hf⟩ := Except.bind_eq_ok.mp hb
  exact h a b hf

theorem Yields.pure {ε α : Type} {a : α} {P : α → Prop} (h : P a) :
    Yields (pure a : Except ε α) P := by
  intro b hb
  rw [← Except.pure_eq_ok.mp hb]
  exact h

namespace Facade

variable {σ : Type} (api : ControllerAPI σ) (random : ℕ → String)

/-- What a public tool can do, by its policy. -/
inductive PolicyAction (policy : ToolPolicy) : (Facade σ → Except GoError GoMap × Facade σ) → Prop
  | info (h : policy.readOnly = true) : PolicyAction policy (computerInfo api)
  | own {operation capabilities claims body task} (h : policy.operation = operation)
      (hother : operation ≠ "gateway.release_process") :
      PolicyAction policy (claimed api random operation capabilities claims body task)
  | start {argv cwd maxRuntimeS} (h : policy.operation = "process.start") :
      PolicyAction policy (startProcess api random argv cwd maxRuntimeS)
  | process {operation handle body} (h : policy.operation = operation)
      (hother : operation ≠ "gateway.release_process") :
      PolicyAction policy (processOperation api operation handle body)
  | release {handle} (h : policy.operation = "gateway.release_process") :
      PolicyAction policy (releaseProcess api handle)
  | list (h : policy.readOnly = true) : PolicyAction policy (listProcesses api)

variable {api random}

/-- Every public tool runs the operation of its policy. -/
theorem toolAction_policy {policy : ToolPolicy} (h : policy ∈ PublicTools) (a : GoMap) :
    Yields (toolAction api random policy.name a) (PolicyAction api random policy) := by
  simp only [PublicTools, List.mem_cons, List.not_mem_nil, or_false] at h
  rcases h with rfl | rfl | rfl | rfl | rfl | rfl | rfl | rfl | rfl | rfl | rfl | rfl | rfl | rfl |
    rfl | rfl | rfl | rfl | rfl | rfl
  case _ => exact .pure (.info rfl)
  case _ => exact .bind fun _ => .pure (.own rfl (by decide))
  case _ => exact .bind fun _ => .bind fun _ => .bind fun _ => .bind fun _ => .pure (.own rfl (by decide))
  case _ => exact .bind fun _ => .pure (.own rfl (by decide))
  case _ => exact .bind fun _ => .bind fun _ => .bind fun _ => .pure (.own rfl (by decide))
  case _ =>
    refine .bind fun _ => .bind fun _ => .pure ?_
    unfold searchFiles onPath
    exact .own rfl (by decide)
  case _ =>
    refine .bind fun _ => .bind fun _ => .pure ?_
    unfold searchContent onPath
    exact .own rfl (by decide)
  case _ => exact .bind fun _ => .bind fun _ => .pure (.own rfl (by decide))
  case _ => exact .bind fun _ => .bind fun _ => .pure (.own rfl (by decide))
  case _ => exact .bind fun _ => .bind fun _ => .pure (.own rfl (by decide))
  case _ => exact .bind fun _ => .bind fun _ => .pure (.own rfl (by decide))
  case _ =>
    refine .bind fun _ => .bind fun _ => .bind fun _ => .pure ?_
    unfold replaceText onPath
    exact .own rfl (by decide)
  case _ => exact .bind fun _ => .bind fun _ => .bind fun _ => .pure (.own rfl (by decide))
  case _ => exact .bind fun _ => .bind fun _ => .bind fun _ => .pure (.start rfl)
  case _ => exact .pure (.list rfl)
  case _ => exact .bind fun _ => .pure (.process rfl (by decide))
  case _ => exact .bind fun _ => .bind fun _ => .bind fun _ => .bind fun _ => .pure (.process rfl (by decide))
  case _ => exact .bind fun _ => .bind fun _ => .bind fun _ => .pure (.process rfl (by decide))
  case _ => exact .bind fun _ => .bind fun _ => .pure (.process rfl (by decide))
  case _ => exact .bind fun _ => .pure (.release rfl)

end Facade

end VeraMesh.Gateway
