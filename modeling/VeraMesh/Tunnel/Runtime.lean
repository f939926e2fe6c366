import VeraMesh.Agent.Upgrade
import VeraMesh.Lib.Triple
import VeraMesh.Python.Path

/-!
# The tunnel runtime service

`tunnel_runtime_service.py`: the configuration of the service, the commands it runs, and
`run_until_stop`, which keeps the tunnel client's managed runtime going until it is told to stop.

Every command and every wait for the stop event is a wait here, so that commands can end in any way,
one after another. A history says what has happened.

* `TunnelRuntimeServiceConfig.fromDict`: reading the configuration.
* `TunnelHost.runUntilStop`: the service.
-/

namespace VeraMesh.Tunnel

open Python Except Coroutine

/-- The exceptions of the service: `TunnelRuntimeServiceError`, and others. -/
inductive TunnelError where
  | service (message : String)
  | raised (err : PyError)

/-! ## The configuration -/

structure TunnelRuntimeServiceConfig where
  tunnelClient : String
  tunnelClientSha256 : String
  runtimeAlias : String
  tunnelId : String
  runtimeApiKeyFile : String
  controllerConfig : String
  mcpExecutable : String
  mcpExecutableSha256 : String
  profileDir : String
  stateDir : String
  mcpEntrypoint : Option String
  mcpEntrypointSha256 : Option String
  mcpArguments : List String
  statusIntervalS : PyFloat
  commandTimeoutS : PyFloat

/-- `_ALIAS_RE.fullmatch`. -/
def isAlias (s : String) : Bool :=
  match s.toList with
  | [] => false
  | c :: rest => c.isAlphanum && decide (rest.length ≤ 127) &&
      rest.all fun c => c.isAlphanum || c == '.' || c == '_' || c == '-'

/-- `re.fullmatch(r"[0-9a-f]{64}", digest)`. -/
def isDigest (s : String) : Bool :=
  decide (s.toList.length = 64) &&
    s.toList.all fun c => c.isDigit || (decide ('a' ≤ c) && decide (c ≤ 'f'))

/-- `any(ch in value for ch in "\x00\r\n'")`. -/
def isUnquotable (s : String) : Bool :=
  s.toList.any fun c => c == '\x00' || c == '\r' || c == '\n' || c == '\''

/-- `str(v).strip()`. -/
def stripped (rt : Runtime) (v : PyValue) : String := String.ofList (strip (rt.str v).toList)

namespace TunnelRuntimeServiceConfig

/-- The digests, with the names of their fields. -/
def digestItems (c : TunnelRuntimeServiceConfig) : List (String × String) :=
  [("tunnel_client_sha256", c.tunnelClientSha256),
    ("mcp_executable_sha256", c.mcpExecutableSha256)] ++
    c.mcpEntrypointSha256.toList.map fun digest => ("mcp_entrypoint_sha256", digest)

/-- The words of the MCP command, with their labels. -/
def labelledWords (c : TunnelRuntimeServiceConfig) : List (String × String) :=
  [("mcp_executable", c.mcpExecutable), ("mcp_entrypoint", c.mcpEntrypoint.getD "")] ++
    c.mcpArguments.zipIdx.map fun (item, index) =>
      ("mcp_arguments[" ++ toString index ++ "]", item)

/-- `validate_static`. -/
def validateStatic (c : TunnelRuntimeServiceConfig) : Except TunnelError Unit := do
  require (isAlias c.runtimeAlias = true)
    (.service "alias must use letters, numbers, '.', '_' or '-'")
  require (c.tunnelId ≠ "" ∧ c.tunnelId.toList.length ≤ 256 ∧
      (c.tunnelId.toList.any fun ch => isSpace ch || decide (ch.toNat < 32)) = false)
    (.service "tunnel_id must be a bounded non-whitespace identifier")
  c.digestItems.forM fun (name, digest) =>
    require (isDigest digest = true)
      (.service (name ++ " must be 64 lowercase hex characters"))
  c.labelledWords.forM fun (label, value) =>
    require ((value ≠ "" && isUnquotable value) = false)
      (.service (label ++ " cannot contain NUL, CR, LF, or single quote"))
  require (PyFloat.le (.finite 1) c.statusIntervalS && c.statusIntervalS.le (.finite 300))
    (.service "status_interval_s must be in 1..300")
  require (PyFloat.le (.finite 5) c.commandTimeoutS && c.commandTimeoutS.le (.finite 300))
    (.service "command_timeout_s must be in 5..300")

/-- The fields that have to be there. -/
def requiredFields : List String :=
  ["tunnel_client", "tunnel_client_sha256", "alias", "tunnel_id", "runtime_api_key_file",
    "controller_config", "mcp_executable", "mcp_executable_sha256", "profile_dir", "state_dir"]

/-- The arguments of the MCP command. -/
def argumentsOf : PyValue → Except TunnelError (List String)
  | .list items => items.mapM fun
      | .str s => .ok s
      | _ => .error (.service "mcp_arguments must be an array of strings")
  | _ => .error (.service "mcp_arguments must be an array of strings")

/-- The value of an optional field, where `None` is as good as no value. -/
def optionalField (value : Dict String PyValue) (key : String) : Option PyValue :=
  match value.get? key with
  | some .none => none
  | found => found

variable (rt : Runtime) (resolve : String → Except PyError String)

/-- `Path(str(v)).expanduser().resolve()`. -/
def pathOf (v : PyValue) : Except TunnelError String := (resolve (rt.str v)).mapError .raised

/-- `float(v)`. -/
def floatOf (v : PyValue) : Except TunnelError PyFloat := (rt.float v).mapError .raised

/-- `str(v).strip().lower()`. -/
def digestOf (v : PyValue) : String := rt.lower (stripped rt v)

/-- `from_dict`. -/
def fromDict : PyValue → Except TunnelError TunnelRuntimeServiceConfig
  | .dict members => do
    let value := Dict.ofList members
    require (value.get? "schema" = some (.str "VERAMESH_TUNNEL_RUNTIME_SERVICE_V1"))
      (.service "wrong tunnel runtime config schema")
    let missing := requiredFields.filter fun key => (value.get? key).isNone
    require (missing = []) (.service ("missing required fields: " ++ rt.reprStrList missing))
    let field := fun key => getD value key .none
    let arguments ← argumentsOf (getD value "mcp_arguments" (.list []))
    let entrypoint := optionalField value "mcp_entrypoint"
    let entrypointSha256 := optionalField value "mcp_entrypoint_sha256"
    require (entrypoint.isNone = entrypointSha256.isNone)
      (.service "mcp_entrypoint and mcp_entrypoint_sha256 must be supplied together")
    let c : TunnelRuntimeServiceConfig :=
      { tunnelClient := ← pathOf rt resolve (field "tunnel_client")
        tunnelClientSha256 := digestOf rt (field "tunnel_client_sha256")
        runtimeAlias := stripped rt (field "alias")
        tunnelId := stripped rt (field "tunnel_id")
        runtimeApiKeyFile := ← pathOf rt resolve (field "runtime_api_key_file")
        controllerConfig := ← pathOf rt resolve (field "controller_config")
        mcpExecutable := ← pathOf rt resolve (field "mcp_executable")
        mcpExecutableSha256 := digestOf rt (field "mcp_executable_sha256")
        profileDir := ← pathOf rt resolve (field "profile_dir")
        stateDir := ← pathOf rt resolve (field "state_dir")
        mcpEntrypoint := ← entrypoint.mapM (pathOf rt resolve)
        mcpEntrypointSha256 := entrypointSha256.map (digestOf rt)
        mcpArguments := arguments
        statusIntervalS := ← floatOf rt (getD value "status_interval_s" (.float (.finite 5)))
        commandTimeoutS := ← floatOf rt (getD value "command_timeout_s" (.float (.finite 60))) }
    c.validateStatic
    return c
  | _ => .error (.service "config must be a JSON object")

end TunnelRuntimeServiceConfig

/-! ## Commands -/

/-- `_tunnel_quote_argument`. -/
def tunnelQuoteArgument (value : String) : Except TunnelError String :=
  if value = "" ∨ isUnquotable value = true then
    .error (.service "MCP command argument cannot be represented safely")
  else .ok ("'" ++ value ++ "'")

namespace TunnelRuntimeServiceConfig

/-- The words of the MCP command. -/
def mcpWords (c : TunnelRuntimeServiceConfig) : List String :=
  c.mcpExecutable :: (c.mcpEntrypoint.toList ++ c.mcpArguments)

/-- `mcp_command`. -/
def mcpCommand (c : TunnelRuntimeServiceConfig) : Except TunnelError String :=
  (" ".intercalate ·) <$> c.mcpWords.mapM tunnelQuoteArgument

/-- `connect_args`. -/
def connectArgs (c : TunnelRuntimeServiceConfig) : Except TunnelError (List String) :=
  c.mcpCommand.map fun command =>
    [c.tunnelClient, "runtimes", "connect", "--alias", c.runtimeAlias, "--tunnel-id", c.tunnelId,
      "--runtime-api-key", "file:" ++ c.runtimeApiKeyFile, "--profile", c.runtimeAlias,
      "--profile-dir", c.profileDir, "--mcp-command", command]

/-- `status_args`. -/
def statusArgs (c : TunnelRuntimeServiceConfig) : List String :=
  [c.tunnelClient, "runtimes", "status", c.runtimeAlias, "--json"]

/-- `stop_args`. -/
def stopArgs (c : TunnelRuntimeServiceConfig) : List String :=
  [c.tunnelClient, "runtimes", "stop", c.runtimeAlias, "--json"]

/-- `runtime_environment`. -/
def runtimeEnvironment (c : TunnelRuntimeServiceConfig) (base : Dict String String) :
    Dict String String :=
  let env := (base.erase "CONTROL_PLANE_API_KEY").erase "OPENAI_API_KEY"
  let env := env.set "TUNNEL_CLIENT_PROFILE_DIR" c.profileDir
  let env := env.set "TUNNEL_CLIENT_STATE_DIR" c.stateDir
  let env := env.set "VERAPORT_CONTROLLER_CONFIG" c.controllerConfig
  let env := env.set "VERAPORT_MCP_TRANSPORT" "stdio"
  if c.mcpEntrypoint.isSome then env.set "DC_REMOTE_DEVICE" "true" else env

end TunnelRuntimeServiceConfig

/-- What is run: arguments, environment and working directory. -/
structure Command where
  args : List String
  env : Dict String String
  cwd : String

/-- How a command ends: with an exception of the runner, or with a return code and its output. -/
inductive CommandResult where
  | raised (err : PyError)
  | completed (returncode : ℤ) (stdout : String)

structure RuntimeStatus where
  processRunning : Bool
  healthy : Bool
  ready : Bool
  deriving DecidableEq

namespace RuntimeStatus

def usable (s : RuntimeStatus) : Bool := s.processRunning && s.healthy

end RuntimeStatus

/-! ## The service -/

/-- What the service has done so far. -/
inductive TunnelEvent where
  /-- A reading of the status. It is `fresh` right after a connection. -/
  | status (fresh : Bool) (found : Except TunnelError RuntimeStatus)
  | connect (outcome : Except TunnelError Unit)
  | stop (outcome : Except TunnelError Unit)
  /-- A wait for the stop event, and whether it was set. -/
  | wait (stopped : Bool)

/-- What the service waits for. -/
inductive TunnelAwait where
  | command (c : Command)
  | stopEvent (timeoutS : PyFloat)

abbrev TunnelAwait.Answer : TunnelAwait → Type
  | command _ => CommandResult
  | stopEvent _ => Bool

abbrev TunnelTask := Coroutine (List TunnelEvent) TunnelAwait TunnelAwait.Answer TunnelError

/-- The host of the service. -/
structure TunnelHost where
  runtime : Runtime
  resolve : String → Except PyError String
  /-- What reading the configuration file comes to. -/
  source : Except PyError PyValue
  /-- `json.loads(stdout)`. -/
  loads : String → Except PyError PyValue
  environ : Dict String String
  isFile : String → Bool
  isDir : String → Bool
  /-- `_sha256_file`. -/
  sha256 : String → Except PyError String
  /-- What `validate_service_materials` comes to. -/
  materials : TunnelRuntimeServiceConfig → Except PyError Unit

/-- `validate_runtime_files`. -/
def TunnelRuntimeServiceConfig.validateRuntimeFiles (c : TunnelRuntimeServiceConfig)
    (host : TunnelHost) : Except TunnelError Unit := do
  let entrypoint := c.mcpEntrypoint.toList
  let requiredFiles := [(c.tunnelClient, "tunnel-client executable"),
    (c.mcpExecutable, "managed MCP runtime executable"),
    (c.runtimeApiKeyFile, "runtime API key file"),
    (c.controllerConfig, "VeraPort controller config")] ++
    entrypoint.map fun path => (path, "managed MCP entrypoint")
  requiredFiles.forM fun (path, label) =>
    require (host.isFile path = true) (.service (label ++ " missing: " ++ path))
  let hashedFiles := [(c.tunnelClient, c.tunnelClientSha256, "tunnel-client executable"),
    (c.mcpExecutable, c.mcpExecutableSha256, "managed MCP runtime executable")] ++
    (entrypoint.zip c.mcpEntrypointSha256.toList).map fun (path, digest) =>
      (path, digest, "managed MCP entrypoint")
  hashedFiles.forM fun (path, expected, label) => do
    let digest ← (host.sha256 path).mapError .raised
    require (digest = expected) (.service (label ++ " SHA-256 mismatch"))
  [(c.profileDir, "tunnel profile directory"), (c.stateDir, "tunnel state directory")].forM
    fun (path, label) =>
      require (host.isDir path = true) (.service (label ++ " missing: " ++ path))

namespace TunnelHost

variable (host : TunnelHost) (c : TunnelRuntimeServiceConfig)

/-- `load`. -/
def load : Except TunnelError TunnelRuntimeServiceConfig :=
  match host.source with
  | .ok value => TunnelRuntimeServiceConfig.fromDict host.runtime host.resolve value
  | .error err =>
    if isOSError err ∨ err.cls = .unicodeError ∨ err.cls = .jsonDecodeError then
      .error (.service ("cannot read strict UTF-8 JSON config: " ++ err.message))
    else .error (.raised err)

/-- How a command ends. -/
def issue (command : Command) : TunnelTask CommandResult := answer (TunnelAwait.command command)

/-- `stop_event.wait(timeout)`. -/
def waitForStop (timeoutS : PyFloat) : TunnelTask Bool := answer (TunnelAwait.stopEvent timeoutS)

/-- `_run`, up to the command's output. -/
def run (args : List String) : TunnelTask String := do
  match ← issue ⟨args, c.runtimeEnvironment host.environ, c.stateDir⟩ with
  | .raised err => throw (.raised err)
  | .completed returncode stdout =>
    if returncode ≠ 0 then
      throw (.service ("tunnel-client command failed rc=" ++ toString returncode))
    else pure stdout

/-- Put a step on record, and let it end as it did. -/
def recorded {α : Type} (event : Except TunnelError α → TunnelEvent) (step : TunnelTask α) :
    TunnelTask α := do
  let outcome ← attempt step
  update (· ++ [event outcome])
  ofResult outcome

/-- `type(payload.get(key)) is bool`. -/
def boolMember (payload : Dict String PyValue) (key : String) : Except TunnelError Bool :=
  match payload.get? key with
  | some (.bool b) => .ok b
  | _ => .error (.service ("tunnel-client status missing exact bool " ++ key))

/-- The status in a command's output. -/
def parseStatus (stdout : String) : Except TunnelError RuntimeStatus :=
  match host.loads stdout with
  | .error err =>
    if err.cls = .jsonDecodeError then
      .error (.service "tunnel-client status did not return JSON")
    else .error (.raised err)
  | .ok (.dict members) => do
    let payload := Dict.ofList members
    return ⟨← boolMember payload "process_running", ← boolMember payload "healthy",
      ← boolMember payload "ready"⟩
  | .ok _ => .error (.service "tunnel-client status JSON must be an object")

/-- `read_status`. -/
def readStatus (fresh : Bool) : TunnelTask RuntimeStatus :=
  recorded (.status fresh) do
    let stdout ← host.run c c.statusArgs
    ofResult (host.parseStatus stdout)

/-- `stop_runtime`. -/
def stopRuntime : TunnelTask Unit :=
  recorded .stop do
    let _ ← host.run c c.stopArgs

/-- `connect_runtime`. -/
def connectRuntime : TunnelTask Unit :=
  recorded .connect do
    let args ← ofResult c.connectArgs
    let _ ← host.run c args

/-- `except TunnelRuntimeServiceError`, with the value that is used instead. -/
def orElse {α : Type} (step : TunnelTask α) (default : α) : TunnelTask α :=
  tryCatch step fun
    | .service _ => pure default
    | err => throw err

/-- `read_status`, or `None`. -/
def pollStatus : TunnelTask (Option RuntimeStatus) := orElse (some <$> host.readStatus c false) none

/-- Bring the runtime back. -/
def restore (message : String) (status : Option RuntimeStatus) : TunnelTask Unit := do
  if (status.map (·.processRunning)).getD false then orElse (host.stopRuntime c) ()
  host.connectRuntime c
  let status ← host.readStatus c true
  if ¬status.usable then throw (.service message)

/-- Read the status, and bring the runtime back unless it is usable. -/
def check (message : String) : TunnelTask Unit := do
  let status ← host.pollStatus c
  if (status.map (·.usable)).getD false then pure () else host.restore c message status

/-- The loop, for a number of rounds. It returns whether the service was told to stop. -/
def serve : ℕ → TunnelTask Bool
  | 0 => return false
  | rounds + 1 => do
    let stopped ← waitForStop c.statusIntervalS
    update (· ++ [.wait stopped])
    if stopped then return true
    host.check c "managed tunnel runtime remained unhealthy after reconnect"
    serve rounds

/-- The `finally`. -/
def finish : TunnelTask Unit := tryCatch (host.stopRuntime c) fun _ => pure ()

/-- The `try` with its `finally`. Where the rounds are over, the service goes on. -/
def supervise (rounds : ℕ) : TunnelTask Bool := do
  let outcome ← attempt do
    host.check c "managed tunnel runtime did not become running and healthy"
    host.serve c rounds
  match outcome with
  | .ok false => return false
  | outcome => do
    host.finish c
    ofResult outcome

/-- What comes before the first command. -/
def prepare (validateAcl : Bool) : Except TunnelError TunnelRuntimeServiceConfig := do
  let c ← host.load
  c.validateRuntimeFiles host
  if validateAcl then (host.materials c).mapError .raised
  return c

/-- `run_until_stop`, for a number of rounds of its loop. -/
def runUntilStop (validateAcl : Bool) (rounds : ℕ) : TunnelTask Bool := do
  let c ← ofResult (host.prepare validateAcl)
  host.supervise c rounds

end TunnelHost

end VeraMesh.Tunnel
