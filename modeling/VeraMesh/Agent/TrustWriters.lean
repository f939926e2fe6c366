import VeraMesh.Agent.Identity
import VeraMesh.Lib.Triple

/-!
# The writers of the trust file

Three programs rewrite the trust file of an installation: `ensure_readonly_controller`
(`controller_recovery.py`), which enrols a new controller for reading, and the two upgrades, which
raise what the tunnel controller may do. Any number of them may run at once, each in a process of
its own. They exclude each other by a lock file that is created exclusively and removed at the end.

Here every call of the operating system is a wait, so that any steps of the other processes come
between two calls of one, and every call may fail. A process that is killed is one that is never
resumed.

* `Recovery.ensureReadonlyController`: a recovery.
* `Upgrade.live`: an upgrade. What it computes from what it has read is as in `Upgrade.run`.
-/

namespace VeraMesh

open Python Except Coroutine

/-! ## The disk -/

/-- The files that the writers share. -/
inductive SharedFile where
  | config (file : ConfigFile)
  /-- The recovery lock. -/
  | lock
  /-- The temporary file of a writer. Its name is random, and no other file has it. -/
  | temp (writer : ℕ)
  /-- A backup, or the key or the marker of a generated controller. -/
  | other (path : String)
  deriving DecidableEq

/-- The files, and what has become of the lock and of the trust file. -/
structure Disk where
  files : SharedFile → Option (List UInt8)
  /-- The writer whose lock file is there. -/
  holder : Option ℕ := none
  /-- What the trust file held whenever the lock was released, oldest first. -/
  settled : List (Option (List UInt8)) := []
  /-- The controllers that recoveries have returned. -/
  reported : List String := []

namespace Disk

/-- What the trust file holds. -/
def trust (s : Disk) : Option (List UInt8) := s.files (.config .trust)

def setFile (s : Disk) (file : SharedFile) (content : Option (List UInt8)) : Disk :=
  { s with files := Function.update s.files file content }

/-- `os.replace` of the temporary file of a writer. -/
def replace (s : Disk) (writer : ℕ) (file : ConfigFile) : Disk :=
  (s.setFile (.config file) (s.files (.temp writer))).setFile (.temp writer) none

/-- A writer creates the lock. -/
def lock (s : Disk) (writer : ℕ) : Disk :=
  { s.setFile .lock (some []) with holder := some writer }

/-- The lock is removed before anything was written under it. -/
def unlock (s : Disk) : Disk := { s.setFile .lock none with holder := none }

/-- The lock is removed at the end of a transaction. -/
def release (s : Disk) : Disk := { s.unlock with settled := s.settled ++ [s.trust] }

/-- A recovery returns with a controller. -/
def report (s : Disk) (principal : String) : Disk :=
  { s with reported := s.reported ++ [principal] }

end Disk

/-! ## Calls -/

/-- The calls of a writer that others can come before. -/
inductive DiskCall where
  | call
  | unlink (file : SharedFile)
  /-- The answer of `path.exists()` and `path.is_file()` as far as it does not depend on the files
  here: whether there is something at the path that is no file. -/
  | probe
  /-- A failed write may have written something. -/
  | write
  | generateKey
  /-- `uuid.uuid4().hex`. -/
  | randomHex
  deriving DecidableEq

/-- How a call ends. -/
abbrev DiskCall.Answer (PrivateKey : Type) : DiskCall → Type
  | call | unlink _ => Option PyError
  | probe => Except PyError Bool
  | write => Option (PyError × List UInt8)
  | generateKey => PrivateKey
  | randomHex => String

/-- The program of a writer. -/
abbrev WriterTask (PrivateKey : Type) :=
  Coroutine Disk DiskCall (DiskCall.Answer PrivateKey) UpgradeFailure

namespace WriterTask

variable {PrivateKey α : Type}

/-- How the next call ends. -/
def outcome : WriterTask PrivateKey (Option PyError) := answer DiskCall.call

/-- How the removal of a file ends. -/
def unlinking (file : SharedFile) : WriterTask PrivateKey (Option PyError) :=
  answer (DiskCall.unlink file)

/-- What is at a path, other than a file. -/
def probe : WriterTask PrivateKey (Except PyError Bool) := answer DiskCall.probe

/-- How the next write ends. -/
def writing : WriterTask PrivateKey (Option (PyError × List UInt8)) := answer DiskCall.write

/-- `ec.generate_private_key(ec.SECP256R1())`. -/
def generateKey : WriterTask PrivateKey PrivateKey := answer DiskCall.generateKey

/-- `uuid.uuid4().hex`. -/
def randomHex : WriterTask PrivateKey String := answer DiskCall.randomHex

/-- A call that either succeeds or raises. -/
def call : WriterTask PrivateKey Unit := do
  match ← outcome with
  | none => pure ()
  | some err => throw (.failed (.raised err))

/-- Whether there is something at a path that is no file. -/
def irregular : WriterTask PrivateKey Bool := do
  match ← probe with
  | .error err => throw (.failed (.raised err))
  | .ok found => return found

/-- `if condition: raise err`. -/
def refuseIf (condition : Bool) (err : UpgradeFailure) : WriterTask PrivateKey Unit :=
  if condition then throw err else pure ()

/-- What a computation comes to. -/
def ofStep (x : Except UpgradeError α) : WriterTask PrivateKey α := ofResult (x.mapError .failed)

/-- Read a configuration file with a function of the call and of what the file holds. -/
def readWith (reader : Option PyError → Option (List UInt8) → Except UpgradeError α)
    (file : ConfigFile) : WriterTask PrivateKey α := do
  let fault ← outcome
  let s ← read
  ofStep (reader fault (s.files (.config file)))

/-- Whether there is a file, and whether there is something else in its place. -/
def lookup (file : SharedFile) : WriterTask PrivateKey (Option (List UInt8) × Bool) := do
  let irregular ← irregular
  return ((← read).files file, irregular)

/-- `harden_private_file(path)` and the like, where they are made. -/
def hardenIf (condition : Bool) : WriterTask PrivateKey Unit :=
  if condition then call else pure ()

/-- Write to a file that was just created. A failed write removes it again. -/
def fill (file : SharedFile) (payload : List UInt8) : WriterTask PrivateKey Unit := do
  match ← writing with
  | none => update (·.setFile file (some payload))
  | some (err, written) =>
    update (·.setFile file (some written))
    match ← unlinking file with
    | none => update (·.setFile file none)
    | some err' =>
      refuseIf (err'.cls != .fileNotFoundError) (.failed (.raised err'))
    throw (.failed (.raised err))

/-- `_write_new`, with the exception for a path that is taken. -/
def writeNew (file : SharedFile) (taken : UpgradeError) (payload : List UInt8) :
    WriterTask PrivateKey Unit := do
  -- `path.parent.mkdir`, and then `os.open` with `O_EXCL`
  call
  let irregular ← irregular
  let s ← read
  refuseIf (irregular || (s.files file).isSome) (.failed taken)
  update (·.setFile file (some []))
  fill file payload

/-- The `finally` of `_atomic_replace` and of `_atomic_replace_private`. -/
def discardTemp (writer : ℕ) : WriterTask PrivateKey Unit := do
  if (← lookup (.temp writer)).1.isSome then
    match ← unlinking (.temp writer) with
    | none => update (·.setFile (.temp writer) none)
    | some err => if ¬ isOSError err then throw (.failed (.raised err))

/-- `_atomic_replace` and `_atomic_replace_private`, with the exception for a path that is taken. -/
def atomicReplace (nt : Bool) (writer : ℕ) (taken : String → UpgradeError) (file : ConfigFile)
    (path : String) (payload : List UInt8) : WriterTask PrivateKey Unit := do
  let hex ← randomHex
  writeNew (.temp writer) (taken (path ++ ".tmp-" ++ hex)) payload
  ensure
    (do
      hardenIf nt
      call
      update (·.replace writer file)
      hardenIf nt)
    (discardTemp writer)

/-- Write the lock that was just created. -/
def fillLock (nt : Bool) (pid : ℕ) : WriterTask PrivateKey Unit := do
  match ← writing with
  | none => update (·.setFile .lock (some (UpgradeTask.lockPayload pid)))
  | some (err, written) =>
    update (·.setFile .lock (some written))
    throw (.failed (.raised err))
  hardenIf nt

/-- The handler of `_acquire_recovery_lock`. -/
def discardLock (path : String) (err : UpgradeFailure) : WriterTask PrivateKey Unit := do
  match ← unlinking .lock with
  | none => update (·.unlock)
  | some err' =>
    if isOSError err' then
      throw (.failed (.recovery ("controller trust recovery lock setup failed and the lock " ++
        "could not be cleaned up: " ++ path)))
    else throw (.failed (.raised err'))
  throw err

/-- `_acquire_recovery_lock`. -/
def acquireRecoveryLock (nt : Bool) (writer pid : ℕ) (path : String) :
    WriterTask PrivateKey Unit := do
  -- `path.parent.mkdir`, and then `os.open` with `O_EXCL`
  call
  let irregular ← irregular
  let s ← read
  refuseIf (irregular || (s.files .lock).isSome) (.failed (.recovery
    ("controller trust recovery lock already exists; " ++
      "another recovery may be active or a prior recovery requires " ++
      "explicit reconciliation: " ++ path)))
  update (·.lock writer)
  tryCatch (fillLock nt pid) (discardLock path)

/-- `_release_recovery_lock`. -/
def releaseRecoveryLock (path : String) : WriterTask PrivateKey Unit := do
  match ← unlinking .lock with
  | none => update (·.release)
  | some err =>
    if err.cls = .fileNotFoundError then pure ()
    else if isOSError err then
      throw (.failed (.recovery
        ("controller trust recovery lock could not be released: " ++ path)))
    else throw (.failed (.raised err))

/-- `_write_or_verify`, with the exceptions for a file that diverges and for a path that is taken.
It returns whether the file was created. -/
def writeOrVerify (file : SharedFile) (diverges taken : UpgradeError) (payload : List UInt8) :
    WriterTask PrivateKey Bool := do
  let (content, irregular) ← lookup file
  if content.isSome || irregular then
    refuseIf irregular (.failed diverges)
    call
    let s ← read
    refuseIf (s.files file != some payload) (.failed diverges)
    return false
  else
    writeNew file taken payload
    return true

end WriterTask

/-! ## Installations -/

/-- An installation, and what its programs use of the host. -/
structure Installation (PrivateKey PublicKey : Type) where
  runtime : Runtime
  codec : JsonCodec
  keys : KeyFiles PrivateKey PublicKey
  /-- `str(service_path)`. -/
  servicePath : String
  /-- `str(controller_path)`. -/
  controllerPath : String
  /-- `str(service_path.parent)`. -/
  root : String
  /-- Whether a resolved path is below the root. -/
  inside : String → Bool
  /-- What the file of the workstation key holds. -/
  workstationKey : Option (List UInt8)
  /-- `hashlib.sha256(payload).hexdigest()`. -/
  sha256 : List UInt8 → String
  /-- `WindowsServiceConfig.load` of a file that may be missing. The trust file it names is the
  installation's, whatever else becomes of the configuration. -/
  service : Option (List UInt8) → Except PyError UpgradeService
  /-- `ControllerConfig.load`. -/
  controller : Option (List UInt8) → Except PyError UpgradeController

/-- The part of the digest in the name of a backup. -/
def digestTag (digest : String) : String := String.ofList (digest.toList.take 12)

namespace Installation

variable {PrivateKey PublicKey : Type} (inst : Installation PrivateKey PublicKey)

/-- `load_identity` of files that may be missing or unreadable. -/
def identity (workstationKey content : Option (List UInt8)) :
    Except PyError (LoadedIdentity PrivateKey PublicKey) :=
  loadIdentity inst.runtime inst.codec inst.keys workstationKey content

/-- The controllers in a trust file. -/
def trustList (content : Option (List UInt8)) : Except PyError (TrustList PublicKey) :=
  loadTrust inst.runtime inst.codec inst.keys content

/-- What an upgrade reads here. -/
def upgradeHost (pid : ℕ) : UpgradeHost where
  runtime := inst.runtime
  pid := pid
  servicePath := inst.servicePath
  controllerPath := inst.controllerPath
  sha256 := inst.sha256
  loads := inst.codec.loads
  dumps := inst.codec.dumps
  service := inst.service
  controller := inst.controller
  capabilityPolicy content :=
    (inst.identity inst.workstationKey content).map fun identity => identity.capabilityPolicy.get?

/-- The principal of a controller's private key. -/
def principal (key : PrivateKey) : String :=
  principalId inst.keys.crypto (inst.keys.publicKey key) "controller"

end Installation

/-- What is left of a file that cannot be read. -/
def readable (fault : Option PyError) (content : Option (List UInt8)) : Option (List UInt8) :=
  if fault.isNone then content else none

/-! ## Recovery -/

/-- `ControllerRecoveryError`. -/
def recoveryError (message : String) : UpgradeFailure := .failed (.recovery message)

/-- `READ_ONLY_CAPABILITIES`. -/
def readOnlyCapabilities : Finset String := {"fs.read"}

/-- The arguments of a recovery, with resolved paths. -/
structure Recovery where
  preferred : String
  generated : String
  hardenWindowsAcl : Bool
  pid : ℕ

inductive RecoveryMode where
  | reusedEnrolledController
  | reusedEnrolledReadonlyController
  | enrolledNewReadonlyController
  deriving DecidableEq

/-- What a recovery returns, without what is the same in every report. -/
structure RecoveryReport where
  mode : RecoveryMode
  controllerPrivateKey : String
  controllerPrincipal : String
  controllerKeyId : String
  preferredStatus : String
  generatedPrivateKeyCreated : Bool := false
  trustBeforeSha256 : String
  trustAfterSha256 : String
  trustBackup : Option String := none
  serviceRestartRequired : Bool := false

/-- What the trust file turned out to be. -/
structure TrustDocument where
  doc : PyValue
  entries : List PyValue
  raw : List UInt8

namespace Recovery

open WriterTask

variable {PrivateKey PublicKey : Type} (r : Recovery) (inst : Installation PrivateKey PublicKey)
  (writer : ℕ)

/-- `load_identity`. -/
def loadIdentity : WriterTask PrivateKey (LoadedIdentity PrivateKey PublicKey) := do
  let keyFault ← outcome
  readWith (fun fault content =>
    (inst.identity (readable keyFault inst.workstationKey) (readable fault content)).mapError
      .raised) .trust

/-- `_trust_document`. -/
def trustDocument (fault : Option PyError) (content : Option (List UInt8)) :
    Except UpgradeError TrustDocument := do
  let raw ← UpgradeHost.readBytes fault content
  match inst.codec.loads raw with
  | .error err =>
    if err.cls = .unicodeError ∨ err.cls = .jsonDecodeError then
      .error (.recovery "controller trust is not strict UTF-8 JSON")
    else .error (.raised err)
  | .ok doc => do
    require (doc.member? "schema" = some (.str "VERAPORT_CONTROLLER_TRUST_V1"))
      (.recovery "wrong controller trust schema")
    match doc.member? "controllers" with
    | some (.list (entry :: entries)) => return ⟨doc, entry :: entries, raw⟩
    | _ => .error (.recovery "controller trust list must be non-empty")

/-- `_inside`. -/
def requireInside (path label : String) : Except UpgradeError Unit :=
  require (inst.inside path = true) (.recovery
    (label ++ " must stay inside existing VeraMesh root " ++ inst.root ++ ": " ++ path))

/-- `_load_private`. -/
def loadPrivate (path : String) : WriterTask PrivateKey PrivateKey := do
  let fault ← outcome
  let s ← read
  match (readable fault (s.files (.other path))).map inst.keys.loadPrivateKey with
  | some (.p256 key) => return key
  | some .otherKind => throw (recoveryError "controller private key must be EC P-256")
  | _ => throw (recoveryError ("cannot load controller private key: " ++ path))

/-- `_recovery_marker`. -/
def recoveryMarker (key : PrivateKey) : PyValue :=
  .dict [("schema", .str "VERAPORT_CONTROLLER_RECOVERY_MARKER_V1"),
    ("controller_private_key", .str r.generated),
    ("controller_principal", .str (inst.principal key)),
    ("controller_key_id", .str (inst.keys.crypto.keyId (inst.keys.publicKey key))),
    ("capabilities", .list [.str "fs.read"])]

/-- `marker_path`. -/
def markerPath : String := r.generated ++ ".recovery.json"

/-- `_validate_marker`. -/
def validateMarker (key : PrivateKey) : WriterTask PrivateKey Unit := do
  let fault ← outcome
  let s ← read
  match (readable fault (s.files (.other r.markerPath))).map inst.codec.loads with
  | some (.ok marker) =>
    refuseIf (marker.sortKeys != (r.recoveryMarker inst key).sortKeys)
      (recoveryError "existing generated controller key has no matching recovery marker")
  | _ => throw (recoveryError "cannot read controller recovery marker")

/-- A report without changes. -/
def reused (mode : RecoveryMode) (path : String) (key : PrivateKey) (status digest : String) :
    RecoveryReport where
  mode := mode
  controllerPrivateKey := path
  controllerPrincipal := inst.principal key
  controllerKeyId := inst.keys.crypto.keyId (inst.keys.publicKey key)
  preferredStatus := status
  trustBeforeSha256 := digest
  trustAfterSha256 := digest

/-- The part for the preferred key: the report if it is reused, or its status. -/
def tryPreferred (before : LoadedIdentity PrivateKey PublicKey) (digest : String) :
    WriterTask PrivateKey (RecoveryReport ⊕ String) := do
  let (content, irregular) ← lookup (.other r.preferred)
  if content.isNone || irregular then return .inr "missing"
  let key ← loadPrivate inst r.preferred
  match before.capabilityPolicy.get? (inst.principal key) with
  | none => return .inr "present_but_not_enrolled"
  | some ceiling =>
    if ceiling = readOnlyCapabilities then
      return .inl (reused inst .reusedEnrolledController r.preferred key "enrolled" digest)
    else if "fs.read" ∉ ceiling then return .inr "enrolled_without_fs_read"
    else return .inr "enrolled_but_broader_than_fs_read"

/-- A message about a path that is taken. -/
def refusing (path : String) : UpgradeError :=
  .recovery ("refusing to overwrite existing file: " ++ path)

/-- Make the key and its marker. -/
def generate : WriterTask PrivateKey PrivateKey := do
  let (marker, irregular) ← lookup (.other r.markerPath)
  refuseIf (marker.isSome || irregular)
    (recoveryError "controller recovery marker exists without its private key")
  call
  hardenIf (inst.runtime.nt && r.hardenWindowsAcl)
  let key ← generateKey
  writeNew (.other r.generated) (refusing r.generated) (inst.keys.privatePem key)
  let payload ← ofStep ((inst.codec.dumps (r.recoveryMarker inst key)).mapError .raised)
  writeNew (.other r.markerPath) (refusing r.markerPath) payload
  hardenIf (inst.runtime.nt && r.hardenWindowsAcl)
  hardenIf (inst.runtime.nt && r.hardenWindowsAcl)
  return key

/-- The part for the generated key: the report if it is reused, or the key to enrol and whether it
is new. -/
def obtainKey (before : LoadedIdentity PrivateKey PublicKey) (status digest : String) :
    WriterTask PrivateKey (RecoveryReport ⊕ PrivateKey × Bool) := do
  let (content, irregular) ← lookup (.other r.generated)
  if content.isSome || irregular then
    refuseIf irregular
      (recoveryError ("generated controller path is not a file: " ++ r.generated))
    let key ← loadPrivate inst r.generated
    match before.capabilityPolicy.get? (inst.principal key) with
    | some ceiling =>
      refuseIf (ceiling != readOnlyCapabilities)
        (recoveryError ("generated controller is enrolled with a capability ceiling " ++
          "other than exactly fs.read"))
      return .inl (reused inst .reusedEnrolledReadonlyController r.generated key status digest)
    | none =>
      let (marker, irregular) ← lookup (.other r.markerPath)
      refuseIf (marker.isNone || irregular)
        (recoveryError ("generated controller key already exists but is not enrolled and " ++
          "has no recovery marker"))
      r.validateMarker inst key
      return .inr (key, false)
  else
    return .inr (← r.generate inst, true)

/-- `trust_doc` with the new entry. -/
def enrolled (trust : TrustDocument) (key : PrivateKey) : PyValue :=
  trust.doc.withMember "controllers"
    (.list (trust.entries ++ [newEntry inst.keys (inst.keys.publicKey key) ["fs.read"]]))

/-- The checks after the replacement. -/
def verifyEnrolled (before after : LoadedIdentity PrivateKey PublicKey) (key : PrivateKey) :
    Except UpgradeError Unit := do
  require ((after.allowedControllers.get? (inst.principal key)).isSome = true)
    (.recovery "new controller missing after trust update")
  require (after.capabilityPolicy.get? (inst.principal key) = some readOnlyCapabilities)
    (.recovery "new controller capability ceiling is not exactly fs.read")
  require (∀ name ∈ before.allowedControllers.keys, name ∈ after.allowedControllers.keys)
    (.recovery "existing controller entry disappeared during recovery")

/-- Enrol the key. -/
def enrol (trustPath : String) (trust : TrustDocument)
    (before : LoadedIdentity PrivateKey PublicKey) (status : String) (key : PrivateKey)
    (new : Bool) : WriterTask PrivateKey RecoveryReport := do
  let digest := inst.sha256 trust.raw
  let latest ← readWith UpgradeHost.readBytes .trust
  refuseIf (inst.sha256 latest != digest)
    (recoveryError "controller trust changed during recovery; refusing blind retry")
  let backup := trustPath ++ ".pre-chatgpt-readonly-" ++ digestTag digest ++ ".bak"
  let _ ← writeOrVerify (.other backup)
    (.recovery ("existing recovery artifact diverges: " ++ backup)) (refusing backup) trust.raw
  hardenIf (inst.runtime.nt && r.hardenWindowsAcl)
  let payload ← ofStep ((inst.codec.dumps (enrolled inst trust key)).mapError .raised)
  atomicReplace inst.runtime.nt writer refusing .trust trustPath payload
  let after ← loadIdentity inst
  ofStep (verifyEnrolled inst before after key)
  let last ← readWith UpgradeHost.readBytes .trust
  return { reused inst .enrolledNewReadonlyController r.generated key status digest with
    generatedPrivateKeyCreated := new
    trustAfterSha256 := inst.sha256 last
    trustBackup := some backup
    serviceRestartRequired := true }

/-- `_ensure_readonly_controller_locked`. -/
def locked : WriterTask PrivateKey RecoveryReport := do
  let service ← readWith (UpgradeHost.load inst.service) .service
  call
  ofStep (requireInside inst r.preferred "preferred_controller_private_key_path")
  ofStep (requireInside inst r.generated "generated_controller_private_key_path")
  refuseIf (r.preferred == r.generated)
    (recoveryError "preferred and generated controller paths must be distinct")
  let before ← loadIdentity inst
  let trust ← readWith (trustDocument inst) .trust
  let digest := inst.sha256 trust.raw
  match ← r.tryPreferred inst before digest with
  | .inl report => return report
  | .inr status =>
    match ← r.obtainKey inst before status digest with
    | .inl report => return report
    | .inr (key, new) => r.enrol inst writer service.controllerTrust trust before status key new

/-- `ensure_readonly_controller`. -/
def ensureReadonlyController : WriterTask PrivateKey RecoveryReport := do
  let service ← readWith (UpgradeHost.load inst.service) .service
  let lockPath := service.controllerTrust ++ ".recovery.lock"
  acquireRecoveryLock inst.runtime.nt writer r.pid lockPath
  let report ← ensure (r.locked inst writer) (releaseRecoveryLock lockPath)
  update (·.report report.controllerPrincipal)
  return report

end Recovery

/-! ## Upgrades -/

namespace Upgrade

open WriterTask

variable {PrivateKey PublicKey : Type} (upgrade : Upgrade)
  (inst : Installation PrivateKey PublicKey) (pid : ℕ) (writer : ℕ)

/-- `_write_new` of a path that is taken. -/
def refusing (path : String) : UpgradeError :=
  .capabilityUpgrade ("refusing to overwrite existing file: " ++ path)

/-- The service configuration, where the upgrade replaces it too. -/
def liveServiceDocument : WriterTask PrivateKey (Option ConfigDocument) :=
  match upgrade with
  | readwrite => pure none
  | fullControl => do return some (← readWith (inst.upgradeHost pid).loadServiceDocument .service)

/-- The upgrade up to the lock, with what loading the controller's private key comes to: its
principal, or the message of the exception. -/
def liveInspect (controllerKey : Except String String) : WriterTask PrivateKey UpgradePlan := do
  let host := inst.upgradeHost pid
  let service ← readWith (UpgradeHost.load host.service) .service
  call
  ofStep (upgrade.admitService service)
  let config ← readWith (UpgradeHost.load host.controller) .controller
  let principal ← ofStep (controllerKey.mapError .capabilityUpgrade)
  let policy ← readWith (UpgradeHost.load host.capabilityPolicy) .trust
  match policy principal with
  | none => throw (.failed (upgrade.fail "tunnel controller is not enrolled in VeraPort trust"))
  | some ceiling => do
    ofStep (require (upgrade.sourceCapabilities.contains ceiling = true)
      (upgrade.fail upgrade.ceilingMessage))
    ofStep (require (upgrade.sourceCapabilities.contains config.requestedCapabilities = true)
      (upgrade.fail upgrade.requestedMessage))
    ofStep (upgrade.admitOperations "controller config unexpectedly contains process operations"
      config)
    let trust ← readWith (fun fault content => host.strictJson fault content
      service.controllerTrust "VERAPORT_CONTROLLER_TRUST_V1") .trust
    let controller ← readWith (fun fault content => host.strictJson fault content
      host.controllerPath "VERAPORT_CONTROLLER_MCP_CONFIG_V1") .controller
    let serviceDoc ← upgrade.liveServiceDocument inst pid
    let plan : UpgradePlan :=
      ⟨principal, ceiling, service.controllerTrust, trust, controller, serviceDoc⟩
    ofStep (upgrade.checkTrust host plan)
    return plan

/-- The files are still what was read. -/
def liveRecheck : List UpgradeStep → WriterTask PrivateKey Unit
  | [] => pure ()
  | step :: steps => do
    let raw ← readWith UpgradeHost.readBytes step.file
    ofStep (require (raw = step.raw) (upgrade.fail (upgrade.changedMessage step.file)))
    liveRecheck steps

/-- Back the files up. -/
def liveBackUp : List UpgradeStep → WriterTask PrivateKey Unit
  | [] => pure ()
  | step :: steps => do
    let path := upgrade.backupPath (inst.upgradeHost pid) step
    let created ← writeOrVerify (.other path)
      (.capabilityUpgrade ("existing backup diverges: " ++ path)) (refusing path) step.raw
    hardenIf (inst.runtime.nt && created)
    liveBackUp steps

/-- Replace one file if it is to change, and say whether it is. -/
def liveReplace (step : UpgradeStep) : WriterTask PrivateKey Bool := do
  match ← ofStep step.desired with
  | none => return false
  | some payload => do
    atomicReplace inst.runtime.nt writer refusing step.file step.path payload
    return true

/-- Replace the files that are to change. It returns the flags and how it ended. -/
def liveReplaceFiles : List UpgradeStep → (ConfigFile → Bool) →
    WriterTask PrivateKey ((ConfigFile → Bool) × Except UpgradeFailure Unit)
  | [], changed => return (changed, .ok ())
  | step :: steps, changed => do
    match ← Coroutine.attempt (liveReplace inst writer step) with
    | .error err => return (changed, .error err)
    | .ok replaced =>
      liveReplaceFiles steps (if replaced then Function.update changed step.file true else changed)

/-- Write back the files whose flags are set. -/
def liveRollback (changed : ConfigFile → Bool) : List UpgradeStep → WriterTask PrivateKey Unit
  | [] => pure ()
  | step :: steps => do
    if changed step.file then
      atomicReplace inst.runtime.nt writer refusing step.file step.path step.raw
    liveRollback changed steps

/-- The controller's capabilities in the trust file are those of the upgrade. -/
def liveVerifyIdentity (message principal : String) : WriterTask PrivateKey Unit := do
  let policy ← readWith (UpgradeHost.load (inst.upgradeHost pid).capabilityPolicy) .trust
  ofStep (require ((policy principal).getD ∅ = upgrade.targetCapabilities) (upgrade.fail message))

/-- The checks of the new controller configuration. -/
def liveVerifyController (requested missing : String) : WriterTask PrivateKey Unit := do
  let config ← readWith (UpgradeHost.load inst.controller) .controller
  ofStep (require (config.requestedCapabilities = upgrade.targetCapabilities)
    (upgrade.fail requested))
  let missingOps := upgrade.operations.filter fun op => op ∉ config.gatewayOperations
  ofStep (require (missingOps = [])
    (upgrade.fail (missing ++ inst.runtime.reprStrList (sortedSet missingOps))))
  ofStep (upgrade.admitOperations "post-upgrade controller unexpectedly gained process operations"
    config)

/-- The checks of the new service configuration. -/
def liveVerifyService : WriterTask PrivateKey Unit := do
  let service ← readWith (UpgradeHost.load inst.service) .service
  call
  ofStep (require (service.allowProcessExec = true)
    (.fullControlUpgrade "post-upgrade VeraPort local process policy is still disabled"))

/-- The checks after the replacements. -/
def liveVerify (principal : String) : WriterTask PrivateKey Unit :=
  match upgrade with
  | readwrite => do
    readwrite.liveVerifyIdentity inst pid
      "post-upgrade tunnel controller trust is not exactly fs.read+fs.write" principal
    readwrite.liveVerifyController inst
      "post-upgrade controller requested_capabilities are not exact"
      "post-upgrade controller is missing write operations: "
  | fullControl => do
    liveVerifyService inst
    fullControl.liveVerifyIdentity inst pid
      "post-upgrade controller trust is not exact full-control capability set" principal
    fullControl.liveVerifyController inst
      "post-upgrade controller requested capabilities are not exact"
      "post-upgrade controller is missing operations: "

/-- The body of the `try`: the flags at its end, and how it ended. -/
def liveBody (plan : UpgradePlan) :
    WriterTask PrivateKey ((ConfigFile → Bool) × Except UpgradeFailure Unit) := do
  let steps := upgrade.steps (inst.upgradeHost pid) plan
  match ← Coroutine.attempt (do upgrade.liveRecheck steps; upgrade.liveBackUp inst pid steps) with
  | .error err => return (fun _ => false, .error err)
  | .ok () =>
    let (changed, replaced) ← liveReplaceFiles inst writer steps fun _ => false
    match replaced with
    | .error err => return (changed, .error err)
    | .ok () => return (changed, ← Coroutine.attempt (upgrade.liveVerify inst pid plan.principal))

/-- The error of a rollback that failed. -/
def rollbackFailure : UpgradeFailure → UpgradeFailure
  | .failed cause => .rollbackFailed upgrade.rollbackName cause
  | failure => failure

/-- The `try` with its handler. -/
def liveTransaction (plan : UpgradePlan) : WriterTask PrivateKey Report := do
  let (changed, ended) ← upgrade.liveBody inst pid writer plan
  match ended with
  | .ok () => return upgrade.report (inst.upgradeHost pid) plan changed
  | .error err =>
    tryCatch (liveRollback inst writer changed (upgrade.steps (inst.upgradeHost pid) plan))
      fun cause => throw (upgrade.rollbackFailure cause)
    throw err

/-- `upgrade_tunnel_controller_readwrite` and `upgrade_tunnel_controller_full_control`. -/
def live (controllerKey : Except String String) : WriterTask PrivateKey Report := do
  let plan ← upgrade.liveInspect inst pid controllerKey
  acquireRecoveryLock inst.runtime.nt writer pid (lockPath plan)
  ensure (upgrade.liveTransaction inst pid writer plan) (releaseRecoveryLock (lockPath plan))

end Upgrade

end VeraMesh
