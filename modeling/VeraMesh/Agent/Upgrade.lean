import Mathlib.Data.Finset.Insert
import VeraMesh.Agent.FileEffects
import VeraMesh.Lib.Attempt
import VeraMesh.Python.Json

/-!
# The upgrades of an installation

`upgrade_tunnel_controller_readwrite` (`controller_capability_upgrade.py`) and
`upgrade_tunnel_controller_full_control` (`controller_full_control_upgrade.py`) raise what the
tunnel controller may do: they rewrite the trust file of the workstation, the configuration of the
controller and, for full control, that of the service.

Every call of the operating system may fail, in every combination: `UpgradeFaults` has the exception
of each. What only reads files is left open (`UpgradeHost`): the loaders of the configurations and
of the identities, and the JSON codec.
-/

namespace VeraMesh

open Python Except

/-! ## Files -/

/-- The configuration files, which are different files. -/
inductive ConfigFile where
  | trust
  | controller
  | service
  deriving DecidableEq

/-- The files around an upgrade. -/
inductive UpgradeFile where
  | config (file : ConfigFile)
  | backup (file : ConfigFile)
  /-- The temporary file of the replacement under way, whose name is new. -/
  | temp
  /-- The recovery lock. -/
  | lock
  deriving DecidableEq

/-- The exceptions of the steps of an upgrade. -/
inductive UpgradeError where
  /-- An exception of the operating system, of a loader or of a built-in function. -/
  | raised (err : PyError)
  /-- `ControllerCapabilityUpgradeError`. -/
  | capabilityUpgrade (message : String)
  /-- `FullControlUpgradeError`. -/
  | fullControlUpgrade (message : String)
  /-- `ControllerRecoveryError`. -/
  | recovery (message : String)

/-- `str(exc)`. -/
def UpgradeError.message : UpgradeError → String
  | raised err => err.message
  | capabilityUpgrade message | fullControlUpgrade message | recovery message => message

/-- The exceptions of an upgrade as a whole. -/
inductive UpgradeFailure where
  /-- The exception of a step. -/
  | failed (err : UpgradeError)
  /-- The error of a rollback that failed: the upgrade, and the exception of the rollback. -/
  | rollbackFailed (upgrade : String) (cause : UpgradeError)

/-- `str(exc)`. -/
def UpgradeFailure.message : UpgradeFailure → String
  | failed err => err.message
  | rollbackFailed upgrade cause =>
    upgrade ++ " upgrade failed and rollback also failed; manual reconciliation required: " ++
      cause.message

/-- The files, and the flags `trust_changed`, `controller_changed` and `service_changed`. -/
structure UpgradeState where
  files : UpgradeFile → Option (List UInt8)
  changed : ConfigFile → Bool

/-- The contents of the configuration files. -/
abbrev ConfigFiles := ConfigFile → Option (List UInt8)

/-- What the configuration files hold. -/
def UpgradeState.configs (s : UpgradeState) : ConfigFiles := fun file => s.files (.config file)

abbrev UpgradeTask := Attempt UpgradeError UpgradeState

namespace UpgradeTask

/-- A call of the operating system, with the exception it raises. -/
def call : Option PyError → UpgradeTask Unit
  | none => pure ()
  | some err => throw (.raised err)

/-- A file has a new content, or none. -/
def setFile (file : UpgradeFile) (content : Option (List UInt8)) : UpgradeTask Unit :=
  modify fun s => { s with files := Function.update s.files file content }

/-- `harden_private_file(path)`, on Windows only. -/
def hardenOnWindows (nt : Bool) (fault : Option PyError) : UpgradeTask Unit :=
  if nt then call fault else pure ()

end UpgradeTask

/-! ## Writing files -/

/-- The exceptions of `_write_new`. -/
structure WriteFaults where
  mkdir : Option PyError
  /-- A file of that name exists. -/
  occupied : Bool
  create : Option PyError
  /-- A failed write may have written something. -/
  write : Option (PyError × List UInt8)
  unlink : Option PyError

/-- The exceptions of `_write_or_verify`. -/
structure BackupFaults where
  probe : Option PyError
  /-- The path exists and is no file. -/
  irregular : Bool
  read : Option PyError
  new : WriteFaults
  harden : Option PyError

/-- The exceptions of `_atomic_replace`, with the random part of the temporary name. -/
structure ReplaceFaults where
  hex : String
  new : WriteFaults
  hardenTemp : Option PyError
  replace : Option PyError
  hardenTarget : Option PyError
  /-- `temp.exists()`. -/
  probe : Option PyError
  unlink : Option PyError

/-- The exceptions of `_acquire_recovery_lock`. -/
structure LockFaults where
  mkdir : Option PyError
  create : Option PyError
  write : Option PyError
  harden : Option PyError
  unlink : Option PyError

namespace UpgradeTask

/-- The handler of `_write_new`. -/
def discardNew (fault : Option PyError) (file : UpgradeFile) (err : PyError) :
    UpgradeTask Unit := do
  match fault with
  | none => setFile file none
  | some err' => if err'.cls ≠ .fileNotFoundError then throw (.raised err')
  throw (.raised err)

/-- `_write_new`. -/
def writeNew (faults : WriteFaults) (file : UpgradeFile) (path : String) (payload : List UInt8) :
    UpgradeTask Unit := do
  call faults.mkdir
  if faults.occupied then
    throw (.capabilityUpgrade ("refusing to overwrite existing file: " ++ path))
  call faults.create
  match faults.write with
  | none => setFile file (some payload)
  | some (err, written) => do
    setFile file (some written)
    discardNew faults.unlink file err

/-- `_write_or_verify`. -/
def writeOrVerify (nt : Bool) (faults : BackupFaults) (file : ConfigFile) (path : String)
    (payload : List UInt8) : UpgradeTask Unit := do
  call faults.probe
  match (← get).files (.backup file) with
  | some content => do
    call faults.read
    if faults.irregular ∨ content ≠ payload then
      throw (.capabilityUpgrade ("existing backup diverges: " ++ path))
  | none => do
    writeNew faults.new (.backup file) path payload
    hardenOnWindows nt faults.harden

/-- The `finally` of `_atomic_replace`. -/
def discardTemp (faults : ReplaceFaults) : UpgradeTask Unit := do
  call faults.probe
  if ((← get).files .temp).isSome then
    match faults.unlink with
    | none => setFile .temp none
    | some err => if ¬ isOSError err then throw (.raised err)

/-- The steps of `_atomic_replace` once the temporary file is written. -/
def moveTemp (nt : Bool) (faults : ReplaceFaults) (file : ConfigFile) : UpgradeTask Unit := do
  hardenOnWindows nt faults.hardenTemp
  call faults.replace
  let content := (← get).files .temp
  setFile (.config file) content
  setFile .temp none
  hardenOnWindows nt faults.hardenTarget

/-- `_atomic_replace`. -/
def atomicReplace (nt : Bool) (faults : ReplaceFaults) (file : ConfigFile) (path : String)
    (payload : List UInt8) : UpgradeTask Unit := do
  writeNew faults.new .temp (path ++ ".tmp-" ++ faults.hex) payload
  (moveTemp nt faults file).ensure (discardTemp faults)

/-- The lock that `_acquire_recovery_lock` writes. -/
def lockPayload (pid : ℕ) : List UInt8 :=
  ("\x7b\"pid\": " ++ toString pid ++
    ", \"schema\": \"VERAPORT_CONTROLLER_RECOVERY_LOCK_V1\"\x7d\n").toUTF8.toList

/-- The handler of `_acquire_recovery_lock`. -/
def discardLock (fault : Option PyError) (path : String) (err : UpgradeError) :
    UpgradeTask Unit := do
  match fault with
  | none => setFile .lock none
  | some err' =>
    if isOSError err' then
      throw (.recovery ("controller trust recovery lock setup failed and the lock " ++
        "could not be cleaned up: " ++ path))
    else throw (.raised err')
  throw err

/-- `_acquire_recovery_lock`. -/
def acquireRecoveryLock (nt : Bool) (faults : LockFaults) (path : String) (pid : ℕ) :
    UpgradeTask Unit := do
  call faults.mkdir
  if ((← get).files .lock).isSome then
    throw (.recovery ("controller trust recovery lock already exists; " ++
      "another recovery may be active or a prior recovery requires " ++
      "explicit reconciliation: " ++ path))
  call faults.create
  setFile .lock (some (lockPayload pid))
  tryCatch
    (do
      call faults.write
      hardenOnWindows nt faults.harden)
    (discardLock faults.unlink path)

/-- `_release_recovery_lock`. -/
def releaseRecoveryLock (fault : Option PyError) (path : String) : UpgradeTask Unit :=
  match fault with
  | none => setFile .lock none
  | some err =>
    if err.cls = .fileNotFoundError then pure ()
    else if isOSError err then
      throw (.recovery ("controller trust recovery lock could not be released: " ++ path))
    else throw (.raised err)

end UpgradeTask

/-! ## What the upgrades read -/

/-- What an upgrade uses of `WindowsServiceConfig`. -/
structure UpgradeService where
  controllerTrust : String
  allowProcessExec : Bool

/-- What an upgrade uses of `ControllerConfig`. -/
structure UpgradeController where
  requestedCapabilities : Finset String
  gatewayOperations : Finset String

/-- The host of an upgrade. -/
structure UpgradeHost where
  runtime : Runtime
  pid : ℕ
  /-- `str(service_path)`. -/
  servicePath : String
  /-- `str(controller_path)`. -/
  controllerPath : String
  /-- `hashlib.sha256(payload).hexdigest()`. -/
  sha256 : List UInt8 → String
  /-- `json.loads(raw.decode("utf-8"))`. -/
  loads : List UInt8 → Except PyError PyValue
  /-- `(json.dumps(value, indent=2, sort_keys=True) + "\n").encode("utf-8")`. -/
  dumps : PyValue → Except PyError (List UInt8)
  /-- `WindowsServiceConfig.load` of a file that may be missing. -/
  service : Option (List UInt8) → Except PyError UpgradeService
  /-- `ControllerConfig.load`. -/
  controller : Option (List UInt8) → Except PyError UpgradeController
  /-- `load_identity(...).capability_policy.get`. -/
  capabilityPolicy : Option (List UInt8) → Except PyError (String → Option (Finset String))

/-- The exceptions of an upgrade, call by call. -/
structure UpgradeFaults where
  service : Option PyError
  runtimeFiles : Option PyError
  controller : Option PyError
  /-- The principal of the controller's private key, or why it cannot be loaded. -/
  controllerKey : Except String String
  identity : Option PyError
  /-- `path.read_bytes()` before the lock is held, and under the lock. -/
  read : ConfigFile → Option PyError
  reread : ConfigFile → Option PyError
  lock : LockFaults
  backup : ConfigFile → BackupFaults
  replace : ConfigFile → ReplaceFaults
  afterService : Option PyError
  afterRuntimeFiles : Option PyError
  afterIdentity : Option PyError
  afterController : Option PyError
  rollback : ConfigFile → ReplaceFaults
  release : Option PyError

/-- The two upgrades. -/
inductive Upgrade where
  | readwrite
  | fullControl
  deriving DecidableEq

/-- `WRITE_OPERATIONS`. -/
def upgradeWriteOperations : List String :=
  ["fs.write_text", "fs.append_text", "fs.mkdir", "fs.move", "fs.replace_text"]

/-- `PROCESS_OPERATIONS`. -/
def upgradeProcessOperations : List String :=
  ["process.exec", "process.start", "process.list", "process.status", "process.output",
    "process.input", "process.terminate"]

namespace Upgrade

/-- The error class of the upgrade. -/
def fail : Upgrade → String → UpgradeError
  | readwrite => .capabilityUpgrade
  | fullControl => .fullControlUpgrade

/-- The configuration files that the upgrade replaces. -/
def files : Upgrade → List ConfigFile
  | readwrite => [.trust, .controller]
  | fullControl => [.trust, .controller, .service]

/-- `TARGET_CAPABILITIES`. -/
def targetCapabilities : Upgrade → Finset String
  | readwrite => {"fs.read", "fs.write"}
  | fullControl =>
    {"fs.read", "fs.write", "process.exec", "process.inspect", "process.interact",
      "process.control"}

/-- `sorted(TARGET_CAPABILITIES)`. -/
def sortedTarget : Upgrade → List String
  | readwrite => ["fs.read", "fs.write"]
  | fullControl =>
    ["fs.read", "fs.write", "process.control", "process.exec", "process.inspect",
      "process.interact"]

/-- `ALLOWED_SOURCE_CAPABILITIES`. -/
def sourceCapabilities : Upgrade → List (Finset String)
  | readwrite => [{"fs.read"}, targetCapabilities .readwrite]
  | fullControl => [{"fs.read"}, {"fs.read", "fs.write"}, targetCapabilities .fullControl]

/-- The operations that the upgrade makes the gateway offer. -/
def operations : Upgrade → List String
  | readwrite => upgradeWriteOperations
  | fullControl => upgradeWriteOperations ++ upgradeProcessOperations

/-- The name of the upgrade in its rollback error. -/
def rollbackName : Upgrade → String
  | readwrite => "read/write"
  | fullControl => "full-control"

/-- What comes between the name of a file and the digest in the name of its backup. -/
def backupTag : Upgrade → String
  | readwrite => ".pre-chatgpt-readwrite-"
  | fullControl => ".pre-chatgpt-fullcontrol-"

/-- The message for a ceiling that the upgrade does not start from. -/
def ceilingMessage : Upgrade → String
  | readwrite =>
    "tunnel controller capability ceiling must be exactly fs.read " ++
      "or exactly fs.read+fs.write before this bounded upgrade"
  | fullControl =>
    "tunnel controller capability ceiling is outside the bounded " ++
      "fs.read -> fs.read+fs.write -> full-control upgrade chain"

/-- The message for requested capabilities that the upgrade does not start from. -/
def requestedMessage : Upgrade → String
  | readwrite =>
    "controller config requested_capabilities must be exactly fs.read or exactly fs.read+fs.write"
  | fullControl => "controller requested_capabilities are outside the bounded upgrade chain"

/-- The message for a file that is no longer what was read. -/
def changedMessage : Upgrade → ConfigFile → String
  | readwrite, .trust => "controller trust changed before upgrade; refusing blind retry"
  | readwrite, _ => "controller config changed before upgrade; refusing blind retry"
  | fullControl, .trust => "controller trust changed before upgrade"
  | fullControl, .controller => "controller config changed before upgrade"
  | fullControl, .service => "service config changed before upgrade"

/-- Only the read/write upgrade refuses a service that runs processes. -/
def admitService : Upgrade → UpgradeService → Except UpgradeError Unit
  | readwrite, service =>
    require (service.allowProcessExec = false) (.capabilityUpgrade
      "refusing filesystem-only upgrade while VeraPort process execution is enabled")
  | fullControl, _ => .ok ()

/-- Only the read/write upgrade refuses a controller with process operations. -/
def admitOperations : Upgrade → String → UpgradeController → Except UpgradeError Unit
  | readwrite, message, config =>
    require (∀ op ∈ config.gatewayOperations, startsWith op "process." = false)
      (.capabilityUpgrade message)
  | fullControl, _, _ => .ok ()

end Upgrade

/-! ## Documents -/

namespace Python.PyValue

/-- `value.get(key)` for a value that may be a dictionary. -/
def member? (v : PyValue) (key : String) : Option PyValue :=
  match v with
  | .dict members => members.lookup key
  | _ => none

/-- `value[key] = item` for a dictionary. -/
def withMember (v : PyValue) (key : String) (item : PyValue) : PyValue :=
  match v with
  | .dict members => .dict ((Dict.ofList members).set key item).entries
  | v => v

/-- `isinstance(value, dict)`. -/
def isDict : PyValue → Bool
  | .dict _ => true
  | _ => false

end Python.PyValue

/-- A configuration file as it was read. -/
structure ConfigDocument where
  doc : PyValue
  raw : List UInt8

/-- What an upgrade finds before it takes the lock. -/
structure UpgradePlan where
  principal : String
  ceiling : Finset String
  trustPath : String
  trust : ConfigDocument
  controller : ConfigDocument
  /-- The service configuration, where it is upgraded too. -/
  service : Option ConfigDocument

namespace UpgradeHost

/-- A call of the operating system that reads, with the exception it raises. -/
def readCall : Option PyError → Except UpgradeError Unit
  | none => .ok ()
  | some err => .error (.raised err)

/-- `path.read_bytes()`. -/
def readBytes (fault : Option PyError) (content : Option (List UInt8)) :
    Except UpgradeError (List UInt8) := do
  readCall fault
  match content with
  | some raw => return raw
  | none => .error (.raised ⟨.fileNotFoundError, "No such file or directory"⟩)

variable (host : UpgradeHost)

/-- Load a configuration file. -/
def load {α : Type} (loader : Option (List UInt8) → Except PyError α) (fault : Option PyError)
    (content : Option (List UInt8)) : Except UpgradeError α := do
  readCall fault
  (loader content).mapError .raised

/-- `_strict_json`. -/
def strictJson (fault : Option PyError) (content : Option (List UInt8))
    (path expectedSchema : String) : Except UpgradeError ConfigDocument := do
  let raw ← readBytes fault content
  match host.loads raw with
  | .error _ => .error (.capabilityUpgrade ("cannot parse strict UTF-8 JSON: " ++ path))
  | .ok doc => do
    require (doc.member? "schema" = some (.str expectedSchema))
      (.capabilityUpgrade ("wrong schema in " ++ path ++ ": expected " ++ expectedSchema))
    return ⟨doc, raw⟩

/-- `_load_service_document`. -/
def loadServiceDocument (fault : Option PyError) (content : Option (List UInt8)) :
    Except UpgradeError ConfigDocument := do
  let raw ← readBytes fault content
  match host.loads raw with
  | .error _ =>
    .error (.fullControlUpgrade ("cannot parse VeraPort service config: " ++ host.servicePath))
  | .ok doc => do
    require (doc.isDict = true) (.fullControlUpgrade "VeraPort service config must be object")
    return ⟨doc, raw⟩

end UpgradeHost

/-- An entry of the trust list is one of the principal. -/
def isEntryOf (principal : String) (entry : PyValue) : Bool :=
  entry.member? "principal" == some (.str principal)

namespace Upgrade

variable (upgrade : Upgrade) (host : UpgradeHost) (faults : UpgradeFaults)

/-- The checks of the trust list. -/
def checkTrust (plan : UpgradePlan) : Except UpgradeError Unit := do
  match plan.trust.doc.member? "controllers" with
  | some (.list entries) =>
    match entries.filter (isEntryOf plan.principal) with
    | [entry] => do
      let caps ← ((entry.member? "capabilities").getD (.list [])).iterate.mapError .raised
      require ((caps.map host.runtime.str).toFinset = plan.ceiling)
        (upgrade.fail "controller trust JSON and loaded capability policy disagree")
    | _ => .error (upgrade.fail "tunnel controller principal must have exactly one trust entry")
  | _ => .error (upgrade.fail "controller trust list is invalid")

/-- The service configuration, where the upgrade replaces it too. -/
def serviceDocument (content : Option (List UInt8)) : Except UpgradeError (Option ConfigDocument) :=
  match upgrade with
  | readwrite => .ok none
  | fullControl => (host.loadServiceDocument (faults.read .service) content).map some

/-- The upgrade up to the lock. -/
def inspect (configs : ConfigFiles) : Except UpgradeError UpgradePlan := do
  let service ← UpgradeHost.load host.service faults.service (configs .service)
  UpgradeHost.readCall faults.runtimeFiles
  upgrade.admitService service
  let config ← UpgradeHost.load host.controller faults.controller (configs .controller)
  let principal ← faults.controllerKey.mapError .capabilityUpgrade
  let policy ← UpgradeHost.load host.capabilityPolicy faults.identity (configs .trust)
  match policy principal with
  | none => .error (upgrade.fail "tunnel controller is not enrolled in VeraPort trust")
  | some ceiling => do
    require (ceiling ∈ upgrade.sourceCapabilities) (upgrade.fail upgrade.ceilingMessage)
    require (config.requestedCapabilities ∈ upgrade.sourceCapabilities)
      (upgrade.fail upgrade.requestedMessage)
    upgrade.admitOperations "controller config unexpectedly contains process operations" config
    let trust ← host.strictJson (faults.read .trust) (configs .trust) service.controllerTrust
      "VERAPORT_CONTROLLER_TRUST_V1"
    let controller ← host.strictJson (faults.read .controller) (configs .controller)
      host.controllerPath "VERAPORT_CONTROLLER_MCP_CONFIG_V1"
    let serviceDoc ← upgrade.serviceDocument host faults (configs .service)
    let plan : UpgradePlan :=
      ⟨principal, ceiling, service.controllerTrust, trust, controller, serviceDoc⟩
    upgrade.checkTrust host plan
    return plan

/-! ## The new contents -/

/-- The controller's entry with the target capabilities. -/
def grant (principal : String) (entry : PyValue) : PyValue :=
  if isEntryOf principal entry then
    entry.withMember "capabilities" (.list (upgrade.sortedTarget.map .str))
  else entry

/-- What the trust file is to hold, if not what it holds. -/
def desiredTrust (plan : UpgradePlan) : Except UpgradeError (Option (List UInt8)) :=
  if plan.ceiling = upgrade.targetCapabilities then .ok none
  else
    let entries := match plan.trust.doc.member? "controllers" with
      | some (.list entries) => entries
      | _ => []
    let doc := plan.trust.doc.withMember "controllers"
      (.list (entries.map (upgrade.grant plan.principal)))
    ((host.dumps doc).map some).mapError .raised

/-- `desired_ops`: the operations offered now, and those of the upgrade that are missing. -/
def desiredOperations (offered : List PyValue) : List PyValue :=
  upgrade.operations.foldl
    (fun ops op => if PyValue.str op ∈ ops then ops else ops ++ [.str op]) offered

/-- What the controller configuration is to hold, if not what it holds. -/
def desiredController (plan : UpgradePlan) : Except UpgradeError (Option (List UInt8)) := do
  let doc := plan.controller.doc
  let offered ← ((doc.member? "gateway_operations").getD (.list [])).iterate.mapError .raised
  let doc := doc.withMember "requested_capabilities" (.list (upgrade.sortedTarget.map .str))
  let doc := doc.withMember "gateway_operations" (.list (upgrade.desiredOperations offered))
  let payload ← (host.dumps doc).mapError .raised
  return if payload = plan.controller.raw then none else some payload

/-- What the service configuration is to hold, if not what it holds. -/
def desiredService (service : ConfigDocument) : Except UpgradeError (Option (List UInt8)) :=
  if service.doc.member? "allow_process_exec" = some (.bool true) then .ok none
  else
    ((host.dumps (service.doc.withMember "allow_process_exec" (.bool true))).map some).mapError
      .raised

end Upgrade

/-- The part of the transaction for one configuration file. -/
structure UpgradeStep where
  file : ConfigFile
  path : String
  raw : List UInt8
  /-- What the file is to hold, if not `raw`. -/
  desired : Except UpgradeError (Option (List UInt8))

namespace Upgrade

variable (upgrade : Upgrade) (host : UpgradeHost) (faults : UpgradeFaults)

/-- The transaction, file by file. -/
def steps (plan : UpgradePlan) : List UpgradeStep :=
  [⟨.trust, plan.trustPath, plan.trust.raw, upgrade.desiredTrust host plan⟩,
    ⟨.controller, host.controllerPath, plan.controller.raw,
      upgrade.desiredController host plan⟩] ++
    plan.service.toList.map fun service =>
      ⟨.service, host.servicePath, service.raw, desiredService host service⟩

/-- The path of the backup of a file. -/
def backupPath (step : UpgradeStep) : String :=
  step.path ++ upgrade.backupTag ++ String.ofList ((host.sha256 step.raw).toList.take 12) ++ ".bak"

/-! ## The transaction -/

/-- The files are still what was read. -/
def recheck (configs : ConfigFiles) : List UpgradeStep → Except UpgradeError Unit
  | [] => .ok ()
  | step :: steps => do
    let raw ← UpgradeHost.readBytes (faults.reread step.file) (configs step.file)
    require (raw = step.raw) (upgrade.fail (upgrade.changedMessage step.file))
    recheck configs steps

/-- Back the files up. -/
def backUp : List UpgradeStep → UpgradeTask Unit
  | [] => pure ()
  | step :: steps => do
    UpgradeTask.writeOrVerify host.runtime.nt (faults.backup step.file) step.file
      (upgrade.backupPath host step) step.raw
    backUp steps

/-- Replace the files that are to change, and set their flags. -/
def replaceFiles : List UpgradeStep → UpgradeTask Unit
  | [] => pure ()
  | step :: steps => do
    match ← Attempt.ofResult step.desired with
    | none => pure ()
    | some payload => do
      UpgradeTask.atomicReplace host.runtime.nt (faults.replace step.file) step.file step.path
        payload
      modify fun s => { s with changed := Function.update s.changed step.file true }
    replaceFiles steps

/-- Write back the files whose flags are set. -/
def rollback : List UpgradeStep → UpgradeTask Unit
  | [] => pure ()
  | step :: steps => do
    if (← get).changed step.file then
      UpgradeTask.atomicReplace host.runtime.nt (faults.rollback step.file) step.file step.path
        step.raw
    rollback steps

variable (configs : ConfigFiles)

/-- The controller's capabilities in the trust file are those of the upgrade. -/
def verifyIdentity (message principal : String) : Except UpgradeError Unit := do
  let policy ← UpgradeHost.load host.capabilityPolicy faults.afterIdentity (configs .trust)
  require ((policy principal).getD ∅ = upgrade.targetCapabilities) (upgrade.fail message)

/-- The checks of the new controller configuration. -/
def verifyController (requested missing : String) : Except UpgradeError Unit := do
  let config ← UpgradeHost.load host.controller faults.afterController (configs .controller)
  require (config.requestedCapabilities = upgrade.targetCapabilities) (upgrade.fail requested)
  let missingOps := upgrade.operations.filter fun op => op ∉ config.gatewayOperations
  require (missingOps = [])
    (upgrade.fail (missing ++ host.runtime.reprStrList (sortedSet missingOps)))
  upgrade.admitOperations "post-upgrade controller unexpectedly gained process operations" config

/-- The checks of the new service configuration. -/
def verifyService : Except UpgradeError Unit := do
  let service ← UpgradeHost.load host.service faults.afterService (configs .service)
  UpgradeHost.readCall faults.afterRuntimeFiles
  require (service.allowProcessExec = true)
    (.fullControlUpgrade "post-upgrade VeraPort local process policy is still disabled")

/-- The checks after the replacements. -/
def verify (principal : String) : Except UpgradeError Unit :=
  match upgrade with
  | readwrite => do
    readwrite.verifyIdentity host faults configs
      "post-upgrade tunnel controller trust is not exactly fs.read+fs.write" principal
    readwrite.verifyController host faults configs
      "post-upgrade controller requested_capabilities are not exact"
      "post-upgrade controller is missing write operations: "
  | fullControl => do
    verifyService host faults configs
    fullControl.verifyIdentity host faults configs
      "post-upgrade controller trust is not exact full-control capability set" principal
    fullControl.verifyController host faults configs
      "post-upgrade controller requested capabilities are not exact"
      "post-upgrade controller is missing operations: "

/-- What an upgrade returns. -/
structure Report where
  controllerPrincipal : String
  capabilitiesBefore : Finset String
  capabilitiesAfter : List String
  operations : List String
  processExecutionEnabled : Bool
  changed : ConfigFile → Bool
  serviceRestartRequired : Bool
  tunnelRestartRequired : Bool
  /-- The backups, file by file. -/
  backups : List (ConfigFile × String)

/-- The report of the upgrade, with the flags at its end. -/
def report (plan : UpgradePlan) (changed : ConfigFile → Bool) : Report where
  controllerPrincipal := plan.principal
  capabilitiesBefore := plan.ceiling
  capabilitiesAfter := upgrade.sortedTarget
  operations := upgrade.operations
  processExecutionEnabled := upgrade = fullControl
  changed := changed
  serviceRestartRequired :=
    match upgrade with
    | readwrite => changed .trust
    | fullControl => changed .trust || changed .service
  tunnelRestartRequired :=
    match upgrade with
    | readwrite => changed .controller
    | fullControl => changed .controller || changed .trust || changed .service
  backups := (upgrade.steps host plan).map fun step => (step.file, upgrade.backupPath host step)

/-- The body of the `try`. -/
def transaction (plan : UpgradePlan) : UpgradeTask Report := do
  Attempt.ofResult (upgrade.recheck faults (← get).configs (upgrade.steps host plan))
  upgrade.backUp host faults (upgrade.steps host plan)
  replaceFiles host faults (upgrade.steps host plan)
  Attempt.ofResult (upgrade.verify host faults (← get).configs plan.principal)
  return upgrade.report host plan (← get).changed

/-- The handler of the `try`. -/
def recover (plan : UpgradePlan) (err : UpgradeError) :
    Attempt UpgradeFailure UpgradeState Report := do
  (rollback host faults (upgrade.steps host plan)).rescue fun cause =>
    throw (.rollbackFailed upgrade.rollbackName cause)
  throw (.failed err)

/-- The path of the recovery lock. -/
def lockPath (plan : UpgradePlan) : String := plan.trustPath ++ ".recovery.lock"

/-- A step whose exception nobody handles. -/
def unhandled {α : Type} (t : UpgradeTask α) : Attempt UpgradeFailure UpgradeState α :=
  t.rescue fun err => throw (.failed err)

/-- The upgrade, once it knows what to do. -/
def carryOut (plan : UpgradePlan) : Attempt UpgradeFailure UpgradeState Report := do
  unhandled (UpgradeTask.acquireRecoveryLock host.runtime.nt faults.lock (lockPath plan) host.pid)
  ((upgrade.transaction host faults plan).rescue (upgrade.recover host faults plan)).ensure
    (unhandled (UpgradeTask.releaseRecoveryLock faults.release (lockPath plan)))

/-- `upgrade_tunnel_controller_readwrite` and `upgrade_tunnel_controller_full_control`. -/
def run : Attempt UpgradeFailure UpgradeState Report := do
  let plan ← unhandled (Attempt.ofResult (upgrade.inspect host faults (← get).configs))
  upgrade.carryOut host faults plan

end Upgrade

end VeraMesh
