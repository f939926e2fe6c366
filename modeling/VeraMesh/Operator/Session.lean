import VeraMesh.Agent.Upgrade
import VeraMesh.Lib.Occurrence
import VeraMesh.Lib.Triple
import VeraMesh.Python.Path

/-!
# The Responses operator

`openai_responses_veramesh_operator.py` lets a person talk to a model that uses the tools of the
workstation. The service keeps nothing, so that every request carries the whole conversation. The
model asks for approval of a tool call by an item of its output, and the person's answer is an item
of the next request.

The requests to the service, the person's decisions and the person's lines are waits here.

* `OperatorSession.advance`: one prompt up to the answer that needs no approval.
* `interact`: the loop of the command line.
-/

namespace VeraMesh.Operator

open Python Except Coroutine

/-- The exceptions of the operator: `OperatorError` with its subclasses, and others. -/
inductive OperatorFailure where
  | operator (message : String)
  | raised (err : PyError)

/-! ## The configuration -/

def laneTools : List String :=
  ["machine_info", "lane_list", "lane_open", "lane_renew", "lane_close"]

def readTools : List String :=
  ["fs_read_text", "fs_read_bytes", "fs_stat", "fs_list_dir", "fs_search", "fs_search_content"]

def writeTools : List String :=
  ["fs_write_text", "fs_append_text", "fs_mkdir", "fs_move", "fs_replace_text"]

def processTools : List String :=
  ["process_exec", "process_start", "process_list", "process_status", "process_output",
    "process_input", "process_terminate"]

/-- `PROFILES`. -/
def profiles : Dict String (List String) :=
  .ofList [("read", laneTools ++ readTools), ("filesystem", laneTools ++ readTools ++ writeTools),
    ("build", laneTools ++ readTools ++ writeTools ++ processTools)]

def readonlyAutoApproveTools : List String :=
  ["machine_info", "lane_list", "fs_read_text", "fs_read_bytes", "fs_stat", "fs_list_dir",
    "fs_search", "fs_search_content", "process_list", "process_status", "process_output"]

structure OperatorConfig where
  apiKey : String
  tunnelId : String
  model : String
  serverLabel : String
  profile : String
  autoApproveReadonly : Bool
  timeoutS : PyFloat

namespace OperatorConfig

variable (config : OperatorConfig)

/-- `validate`. -/
def validate : Except OperatorFailure Unit := do
  require (isBlank config.apiKey = false) (.operator "OPENAI_API_KEY is required")
  require (isBlank config.tunnelId = false)
    (.operator "VERAMESH_TUNNEL_ID is required, or use --tunnel-config")
  require ((profiles.get? config.profile).isSome = true)
    (.operator ("unknown profile: " ++ config.profile))
  require (isBlank config.model = false) (.operator "model must not be empty")
  require (PyFloat.le (.finite 5) config.timeoutS && config.timeoutS.le (.finite 900))
    (.operator "timeout must be in 5..900 seconds")

/-- `PROFILES[config.profile]`. -/
def allowedTools : List String := (profiles.get? config.profile).getD []

/-- `approval_policy`. -/
def approvalPolicy : PyValue :=
  if config.autoApproveReadonly then
    .dict [("never", .dict [("tool_names",
      .list ((readonlyAutoApproveTools.filter (· ∈ config.allowedTools)).map .str))])]
  else .str "always"

/-- `build_mcp_tool`. -/
def mcpTool : PyValue :=
  .dict [("type", .str "mcp"), ("server_label", .str config.serverLabel),
    ("server_description", .str ("Private VeraMesh MCP bridge to Patrick's Lappy. Tool " ++
      "availability does not expand VeraPort authority.")),
    ("tunnel_id", .str config.tunnelId),
    ("allowed_tools", .list (config.allowedTools.map .str)),
    ("require_approval", config.approvalPolicy)]

/-- `redact_text`. -/
def redactText (text : String) : String :=
  [config.apiKey, config.tunnelId].foldl (fun result secret =>
    if secret = "" then result
    else String.ofList (Occurrence.replace secret.toList "<redacted>".toList result.toList)) text

end OperatorConfig

/-! ## Items -/

/-- `user_input_item`. -/
def userInputItem (text : String) : PyValue :=
  .dict [("role", .str "user"), ("content", .str text)]

/-- What the person makes of a request: whether it is approved, and a reason. -/
abbrev Verdict := Bool × Option String

/-- `approval_response_item`. -/
def approvalResponseItem (requestId : String) (verdict : Verdict) : PyValue :=
  let item : List (String × PyValue) :=
    [("type", .str "mcp_approval_response"), ("approval_request_id", .str requestId),
      ("approve", .bool verdict.1)]
  match verdict.2 with
  | some reason => if reason = "" then .dict item else .dict (item ++ [("reason", .str reason)])
  | none => .dict item

/-- `response_output`. -/
def responseOutput (response : PyValue) : Except OperatorFailure (List PyValue) :=
  match (response.member? "output").getD (.list []) with
  | .list items => .ok (items.filter PyValue.isDict)
  | _ => .error (.operator "response.output must be a list")

/-- Whether an item asks for approval. -/
def isApprovalRequest (item : PyValue) : Bool :=
  item.member? "type" == some (.str "mcp_approval_request")

/-- The id of a request that has one. -/
def requestId? (request : PyValue) : Option String :=
  match request.member? "id" with
  | some (.str id) => if id = "" then none else some id
  | _ => none

/-! ## Sessions -/

/-- A request of the model and the person's verdict. -/
abbrev Decision := PyValue × Verdict

structure OperatorSession where
  transcript : List PyValue := []
  lastResponse : Option PyValue := none
  /-- The verdicts since the conversation began. -/
  decisions : List Decision := []
  /-- The conversations that were sent, each with the verdicts up to then. -/
  sent : List (List Decision × List PyValue) := []

/-- What the session waits for. -/
inductive OperatorAwait where
  /-- `POST /v1/responses`. -/
  | create (payload : PyValue)
  | decide (request : PyValue)

/-- How a request to the service ends. -/
inductive HttpOutcome where
  | httpError (code : ℤ) (body : String)
  | urlError (reason : String)
  | raised (err : PyError)
  | body (text : String)

abbrev OperatorAwait.Answer : OperatorAwait → Type
  | create _ => HttpOutcome
  | decide _ => Except PyError Verdict

abbrev OperatorTask := Coroutine OperatorSession OperatorAwait OperatorAwait.Answer OperatorFailure

/-- What an operator is set up with. -/
structure OperatorSetup where
  config : OperatorConfig
  /-- `OPERATOR_INSTRUCTIONS`. -/
  instructions : String
  maxApprovalRounds : ℕ := 32
  /-- `json.loads(body)`. -/
  loads : String → Except PyError PyValue

namespace OperatorSetup

variable (setup : OperatorSetup)

/-- `_payload`. -/
def payload (transcript : List PyValue) : PyValue :=
  .dict [("model", .str setup.config.model), ("store", .bool false),
    ("instructions", .str setup.instructions), ("tools", .list [setup.config.mcpTool]),
    ("input", .list transcript)]

/-- What `ResponsesTransport.create` makes of the service's answer. -/
def readAnswer : HttpOutcome → Except OperatorFailure PyValue
  | .httpError code body =>
    .error (.operator ("OpenAI Responses API returned HTTP " ++ toString code ++ ": " ++
      setup.config.redactText body))
  | .urlError reason => .error (.operator ("OpenAI Responses API connection failed: " ++ reason))
  | .raised err => .error (.raised err)
  | .body text =>
    match setup.loads text with
    | .error err =>
      if err.cls = .jsonDecodeError then
        .error (.operator "OpenAI Responses API returned non-JSON output")
      else .error (.raised err)
    | .ok value =>
      if value.isDict then .ok value
      else .error (.operator "OpenAI Responses API response must be a JSON object")

/-- The answer of the service. -/
def post (payload : PyValue) : OperatorTask HttpOutcome := answer (OperatorAwait.create payload)

/-- The person's verdict. -/
def verdictOn (request : PyValue) : OperatorTask (Except PyError Verdict) :=
  answer (OperatorAwait.decide request)

/-- Send the conversation. -/
def create : OperatorTask PyValue := do
  let s ← read
  update fun s => { s with sent := s.sent ++ [(s.decisions, s.transcript)] }
  ofResult (setup.readAnswer (← post (setup.payload s.transcript)))

/-- Have the person decide on the requests. -/
def decideAll : List PyValue → OperatorTask Unit
  | [] => pure ()
  | request :: requests => do
    match requestId? request with
    | none => throw (.operator "MCP approval request missing id")
    | some id =>
      match ← verdictOn request with
      | .error err => throw (.raised err)
      | .ok verdict =>
        update fun s => { s with
          transcript := s.transcript ++ [approvalResponseItem id verdict]
          decisions := s.decisions ++ [(request, verdict)] }
        decideAll requests

/-- One request to the service, with the approvals that the answer asks for. -/
def turn : OperatorTask (PyValue × List PyValue) := do
  let response ← setup.create
  update fun s => { s with lastResponse := some response }
  let emitted ← ofResult (responseOutput response)
  update fun s => { s with transcript := s.transcript ++ emitted }
  return (response, emitted.filter isApprovalRequest)

/-- `_advance_until_settled`, with a number of approval rounds left. -/
def advance : ℕ → OperatorTask PyValue
  | 0 => do
    let (response, approvals) ← setup.turn
    if approvals.isEmpty then return response
    throw (.operator "too many consecutive MCP approval rounds")
  | left + 1 => do
    let (response, approvals) ← setup.turn
    if approvals.isEmpty then return response
    decideAll approvals
    advance left

/-- `send`. -/
def send (prompt : String) : OperatorTask PyValue := do
  let prompt := String.ofList (strip prompt.toList)
  if prompt = "" then throw (.operator "prompt must not be empty")
  update fun s => { s with transcript := s.transcript ++ [userInputItem prompt] }
  setup.advance setup.maxApprovalRounds

end OperatorSetup

end VeraMesh.Operator
