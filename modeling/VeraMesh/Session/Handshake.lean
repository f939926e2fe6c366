import VeraMesh.Lib.Dict
import VeraMesh.Lib.Except
import VeraMesh.Lib.PrefixCode
import VeraMesh.Python.Error
import VeraMesh.Session.Messages

/-!
# The hot-session handshake

`hot_session.py`: the three messages of the handshake, what is signed, and the checks that each side
makes. Signed bytes are UTF-8 text and are given as characters, with their sizes in bytes.

A message is a record of text, numbers and lists of text: a JSON value of another kind in one of its
places makes the receiver raise before it accepts anything.

## Main results

* `ClientAuth.signatureBase_injective`, `ServerAccept.signatureBase_injective`: the signed text
  determines every signed field, the capabilities up to what their joined text leaves open.
* `accept_ok`, `verifyServerAccept_ok`: everything that was checked before a binding was made.
-/

namespace VeraMesh

open Python Except

/-! ## Signed text -/

/-- `_field`. -/
def field (name : String) (value : List Char) : List Char :=
  name.toList ++ '=' :: (Nat.toDigits 10 (value.map Char.utf8Size).sum ++ [':'] ++ value) ++ ['\n']

/-- The fields of a signature base, one after another. -/
def fields (names : List String) (values : List (List Char)) : List Char :=
  (List.zipWith field names values).flatten

/-- `_capabilities`. -/
def capabilitiesText (values : List String) : List Char :=
  [','].intercalate ((sortedSet values).map String.toList)

/-- `str(n)`. -/
def intText : ℤ → List Char
  | .ofNat n => Nat.toDigits 10 n
  | .negSucc n => '-' :: Nat.toDigits 10 (n + 1)

/-- A capability name: not empty, and without commas (`hot-session-profile.md`). -/
def IsCapabilityName (name : String) : Prop := name ≠ "" ∧ ',' ∉ name.toList

section SignedText

theorem isPrefixCode_field (name : String) : IsPrefixCode (field name) := by
  have hheader : IsPrefixCode fun n : ℕ => Nat.toDigits 10 n ++ [':'] :=
    .delimited toDigits_injective fun n => not_mem_toDigits (by decide) n
  have hsized := IsPrefixCode.sized hheader fun c : Char => c.utf8Size_pos
  intro a b x y hab
  refine hsized.affix (name.toList ++ ['=']) ['\n'] (a := a) (b := b) (x := x) (y := y) ?_
  simpa [field] using hab

theorem fields_injective {names : List String} {l m : List (List Char)}
    (hl : l.length = names.length) (hm : m.length = names.length)
    (h : fields names l = fields names m) : l = m :=
  IsPrefixCode.zipWith_flatten isPrefixCode_field names hl hm h

theorem intText_injective : Function.Injective intText := by
  have hminus : ∀ n : ℕ, '-' ∉ Nat.toDigits 10 n := fun n => not_mem_toDigits (by decide) n
  intro m n h
  cases m with
  | ofNat m =>
    cases n with
    | ofNat n => rw [toDigits_injective (show Nat.toDigits 10 m = Nat.toDigits 10 n from h)]
    | negSucc n =>
      refine absurd ?_ (hminus m)
      rw [show Nat.toDigits 10 m = '-' :: _ from h]
      exact List.mem_cons_self
  | negSucc m =>
    cases n with
    | ofNat n =>
      refine absurd ?_ (hminus n)
      rw [← show '-' :: _ = Nat.toDigits 10 n from h]
      exact List.mem_cons_self
    | negSucc n =>
      have hdigits : Nat.toDigits 10 (m + 1) = Nat.toDigits 10 (n + 1) := List.cons_injective h
      rw [Nat.succ_injective (toDigits_injective hdigits)]

/-- The joined text of capability names determines the set of names. -/
theorem capabilitiesText_injective {l m : List String} (hl : ∀ c ∈ l, IsCapabilityName c)
    (hm : ∀ c ∈ m, IsCapabilityName c) (h : capabilitiesText l = capabilitiesText m) :
    l.toFinset = m.toFinset := by
  have hwords : ∀ l : List String, (∀ c ∈ l, IsCapabilityName c) →
      ∀ a ∈ (sortedSet l).map String.toList, a ≠ [] ∧ ',' ∉ a := by
    intro l hl a ha
    obtain ⟨c, hc, rfl⟩ := List.mem_map.mp ha
    obtain ⟨hne, hcomma⟩ := hl c (mem_sortedSet.mp hc)
    exact ⟨fun hnil => hne (String.toList_inj.mp hnil), hcomma⟩
  have hmap := intercalate_injective (hwords l hl) (hwords m hm) h
  have hsorted : sortedSet l = sortedSet m :=
    List.map_injective_iff.mpr (fun a b => String.toList_inj.mp) hmap
  ext c
  rw [List.mem_toFinset, List.mem_toFinset, ← mem_sortedSet, hsorted, mem_sortedSet]

end SignedText

/-! ## Messages -/

/-- What the handshake uses of cryptography, over P-256 public keys (the functions refuse keys of
another curve). -/
structure Crypto (PublicKey : Type) where
  /-- `key_id`: the SHA-256 of the encoded key, in hexadecimal. -/
  keyId : PublicKey → String
  /-- No two keys with one digest are known. -/
  keyId_injective : Function.Injective keyId
  /-- Whether `_verify_p1363` passes. -/
  verify : PublicKey → String → List Char → Bool

structure ServerChallenge where
  protocolVersion : String
  workstationPrincipal : String
  workstationKeyId : String
  challenge : String
  deriving DecidableEq

structure ClientAuth where
  protocolVersion : String
  controllerPrincipal : String
  controllerKeyId : String
  workstationPrincipal : String
  serverChallenge : String
  clientNonce : String
  requestedCapabilities : List String
  signature : String
  deriving DecidableEq

structure ServerAccept where
  protocolVersion : String
  sessionId : String
  controllerPrincipal : String
  workstationPrincipal : String
  workstationKeyId : String
  serverChallenge : String
  clientNonce : String
  grantedCapabilities : List String
  expiresAtMs : ℤ
  signature : String
  deriving DecidableEq

/-- `DOMAIN_CLIENT`. -/
def domainClient : String := "veramesh-veraport-v1/session-client-auth\n"

/-- `DOMAIN_SERVER`. -/
def domainServer : String := "veramesh-veraport-v1/session-server-accept\n"

/-- The names of the fields that a controller signs. -/
def clientFields : List String :=
  ["protocol_version", "controller_principal", "controller_key_id", "workstation_principal",
    "server_challenge", "client_nonce", "requested_capabilities"]

/-- The names of the fields that a workstation signs. -/
def serverFields : List String :=
  ["protocol_version", "session_id", "controller_principal", "workstation_principal",
    "workstation_key_id", "server_challenge", "client_nonce", "granted_capabilities",
    "expires_at_ms"]

/-- The fields that a controller signs. -/
def ClientAuth.signedValues (c : ClientAuth) : List (List Char) :=
  [c.protocolVersion.toList, c.controllerPrincipal.toList, c.controllerKeyId.toList,
    c.workstationPrincipal.toList, c.serverChallenge.toList, c.clientNonce.toList,
    capabilitiesText c.requestedCapabilities]

/-- The fields that a workstation signs. -/
def ServerAccept.signedValues (a : ServerAccept) : List (List Char) :=
  [a.protocolVersion.toList, a.sessionId.toList, a.controllerPrincipal.toList,
    a.workstationPrincipal.toList, a.workstationKeyId.toList, a.serverChallenge.toList,
    a.clientNonce.toList, capabilitiesText a.grantedCapabilities, intText a.expiresAtMs]

/-- `ClientAuth.signature_base`. -/
def ClientAuth.signatureBase (c : ClientAuth) : List Char :=
  domainClient.toList ++ fields clientFields c.signedValues

/-- `ServerAccept.signature_base`. -/
def ServerAccept.signatureBase (a : ServerAccept) : List Char :=
  domainServer.toList ++ fields serverFields a.signedValues

section SignatureBase

/-- What a controller signed can be read from the signed text. -/
theorem ClientAuth.signatureBase_injective {c d : ClientAuth}
    (h : c.signatureBase = d.signatureBase) :
    c.controllerPrincipal = d.controllerPrincipal ∧
      c.workstationPrincipal = d.workstationPrincipal ∧ c.serverChallenge = d.serverChallenge ∧
      c.clientNonce = d.clientNonce ∧
      capabilitiesText c.requestedCapabilities = capabilitiesText d.requestedCapabilities := by
  have hvalues : c.signedValues = d.signedValues :=
    fields_injective rfl rfl (List.append_cancel_left h)
  simp only [signedValues, List.cons.injEq, String.toList_inj] at hvalues
  obtain ⟨-, hcontroller, -, hworkstation, hchallenge, hnonce, hcaps, -⟩ := hvalues
  exact ⟨hcontroller, hworkstation, hchallenge, hnonce, hcaps⟩

/-- What a workstation signed can be read from the signed text. -/
theorem ServerAccept.signatureBase_injective {a b : ServerAccept}
    (h : a.signatureBase = b.signatureBase) :
    a.sessionId = b.sessionId ∧ a.controllerPrincipal = b.controllerPrincipal ∧
      a.workstationPrincipal = b.workstationPrincipal ∧
      capabilitiesText a.grantedCapabilities = capabilitiesText b.grantedCapabilities ∧
      a.expiresAtMs = b.expiresAtMs := by
  have hvalues : a.signedValues = b.signedValues :=
    fields_injective rfl rfl (List.append_cancel_left h)
  simp only [signedValues, List.cons.injEq, String.toList_inj] at hvalues
  obtain ⟨-, hsession, hcontroller, hworkstation, -, -, -, hcaps, hexpires, -⟩ := hvalues
  exact ⟨hsession, hcontroller, hworkstation, hcaps, intText_injective hexpires⟩

/-- The two kinds of messages are signed in different domains. -/
theorem ClientAuth.signatureBase_ne (c : ClientAuth) (a : ServerAccept) :
    c.signatureBase ≠ a.signatureBase := by
  intro h
  -- the domains differ in the first letter after "session-"
  have hletter := congrArg (fun l => l[29]?) h
  have hclient : (domainClient.toList)[29]? = some 'c' := by decide
  have hserver : (domainServer.toList)[29]? = some 's' := by decide
  rw [ClientAuth.signatureBase, ServerAccept.signatureBase] at hletter
  have hclientLength : 29 < domainClient.toList.length := by decide
  have hserverLength : 29 < domainServer.toList.length := by decide
  simp only [List.getElem?_append_left hclientLength, List.getElem?_append_left hserverLength,
    hclient, hserver] at hletter
  exact absurd hletter (by decide)

end SignatureBase

/-! ## The controller's side -/

variable {PublicKey : Type} (crypto : Crypto PublicKey)

/-- `principal_id`. -/
def principalId (key : PublicKey) (kind : String) : String := kind ++ ":" ++ crypto.keyId key

theorem principalId_injective (kind : String) :
    Function.Injective fun key => principalId crypto key kind := by
  intro a b h
  have hlist := congrArg String.toList h
  simp only [principalId, String.toList_append, List.append_cancel_left_eq] at hlist
  exact crypto.keyId_injective (String.toList_inj.mp hlist)

/-- `ServerChallenge.create`, with the text of the random bytes. -/
def ServerChallenge.create (key : PublicKey) (challenge : String) : ServerChallenge where
  protocolVersion := "veraport-v1"
  workstationPrincipal := principalId crypto key "workstation"
  workstationKeyId := crypto.keyId key
  challenge := challenge

/-- `ClientAuth.create`, with the text of the random bytes and the signature it makes. -/
def ClientAuth.create (key : PublicKey) (workstationPrincipal serverChallenge : String)
    (requestedCapabilities : List String) (clientNonce signature : String) : ClientAuth where
  protocolVersion := "veraport-v1"
  controllerPrincipal := principalId crypto key "controller"
  controllerKeyId := crypto.keyId key
  workstationPrincipal := workstationPrincipal
  serverChallenge := serverChallenge
  clientNonce := clientNonce
  requestedCapabilities := sortedSet requestedCapabilities
  signature := signature

/-- `binascii.a2b_base64` of a list of characters, as far as the number of decoded bytes goes. The
counters are the place in the group of four, the padding characters of the group, and the bytes. -/
def a2bLength : List Char → ℕ → ℕ → ℕ → Except PyError ℕ
  | [], quad, _, bytes =>
    if quad = 0 then .ok bytes
    else if quad = 1 then
      .error ⟨.binasciiError, s!"Invalid base64-encoded string: number of data characters " ++
        s!"({bytes / 3 * 4 + 1}) cannot be 1 more than a multiple of 4"⟩
    else .error ⟨.binasciiError, "Incorrect padding"⟩
  | c :: cs, quad, pads, bytes =>
    if c = '=' then
      if quad < 2 then a2bLength cs quad pads bytes
      else if 4 ≤ quad + (pads + 1) then .ok bytes
      else a2bLength cs quad (pads + 1) bytes
    else if c.isAlphanum ∨ c ∈ ['+', '/', '-', '_'] then
      a2bLength cs ((quad + 1) % 4) 0 (if quad = 0 then bytes else bytes + 1)
    else a2bLength cs quad pads bytes

/-- `len(b64u_decode(value))`. -/
def b64uLength (value : String) : Except PyError ℕ :=
  let s := value.toList
  if s.any fun c => 128 ≤ c.toNat then
    .error ⟨.unicodeEncodeError, "'ascii' codec can't encode characters"⟩
  else a2bLength (s ++ List.replicate ((4 - s.length % 4) % 4) '=') 0 0 0

/-- The check of both nonces. -/
def requireNonces (challenge clientNonce : String) : Except PyError Unit := do
  require ((← b64uLength challenge) = 32)
    ⟨.challengeMismatch, "session nonces must be exactly 32 bytes"⟩
  require ((← b64uLength clientNonce) = 32)
    ⟨.challengeMismatch, "session nonces must be exactly 32 bytes"⟩

/-- The checks that `verify_server_accept` makes. -/
def checkServerAccept (challenge : ServerChallenge) (client : ClientAuth) (accept : ServerAccept)
    (workstationKey : PublicKey) (nowMs : ℤ) : Except PyError Unit := do
  require (challenge.protocolVersion = "veraport-v1" ∧ client.protocolVersion = "veraport-v1" ∧
      accept.protocolVersion = "veraport-v1")
    ⟨.sessionAuthError, "protocol_version must be veraport-v1"⟩
  requireNonces challenge.challenge client.clientNonce
  require (accept.workstationPrincipal = principalId crypto workstationKey "workstation")
    ⟨.principalMismatch, "server accept principal does not match pinned workstation key"⟩
  require (accept.workstationKeyId = crypto.keyId workstationKey)
    ⟨.keyMismatch, "server accept key id does not match pinned workstation key"⟩
  require (accept.controllerPrincipal = client.controllerPrincipal)
    ⟨.principalMismatch, "server accept bound a different controller"⟩
  require (accept.serverChallenge = challenge.challenge ∧ accept.clientNonce = client.clientNonce)
    ⟨.challengeMismatch, "server accept does not bind both session nonces"⟩
  require (accept.grantedCapabilities.toFinset ⊆ client.requestedCapabilities.toFinset)
    ⟨.capabilityEscalation, "server granted capability not requested by controller"⟩
  require (nowMs < accept.expiresAtMs) ⟨.sessionAuthError, "server accept is expired"⟩
  require (crypto.verify workstationKey accept.signature accept.signatureBase = true)
    ⟨.signatureInvalid, "P-256 signature verification failed"⟩

/-- `verify_server_accept`. -/
def verifyServerAccept (challenge : ServerChallenge) (client : ClientAuth) (accept : ServerAccept)
    (workstationKey : PublicKey) (nowMs : ℤ) : Except PyError SessionBinding := do
  checkServerAccept crypto challenge client accept workstationKey nowMs
  return {
    sessionId := accept.sessionId
    controllerPrincipal := accept.controllerPrincipal
    workstationPrincipal := accept.workstationPrincipal
    grantedCapabilities := accept.grantedCapabilities.toFinset
    expiresAtMs := accept.expiresAtMs }

/-! ## The workstation's side -/

/-- `WorkstationAuthenticator`. -/
structure WorkstationAuthenticator (PublicKey : Type) where
  workstationKey : PublicKey
  allowedControllers : Dict String PublicKey
  capabilityPolicy : Dict String (Finset String)
  /-- The ceilings are sets of capability names. -/
  isCapabilityName : ∀ principal ceiling, capabilityPolicy.get? principal = some ceiling →
    ∀ name ∈ ceiling, IsCapabilityName name

namespace WorkstationAuthenticator

variable (w : WorkstationAuthenticator PublicKey)

/-- The ceiling of a controller's capabilities. -/
def ceiling (principal : String) : Finset String := (w.capabilityPolicy.get? principal).getD ∅

/-- The key under which the controller is enrolled, if `accept` finds it in order. -/
def enrolledKey (client : ClientAuth) : Except PyError PublicKey :=
  match w.allowedControllers.get? client.controllerPrincipal with
  | none => .error ⟨.principalMismatch, "controller principal is not enrolled"⟩
  | some key => do
    require (crypto.keyId key = client.controllerKeyId)
      ⟨.keyMismatch, "controller key id does not match enrolled principal"⟩
    require (principalId crypto key "controller" = client.controllerPrincipal)
      ⟨.principalMismatch, "controller principal does not match enrolled key"⟩
    return key

/-- The checks that `accept` makes. -/
def checkClient (challenge : ServerChallenge) (client : ClientAuth) (ttlMs : ℤ) :
    Except PyError Unit := do
  require (challenge.protocolVersion = "veraport-v1" ∧ client.protocolVersion = "veraport-v1")
    ⟨.sessionAuthError, "protocol_version must be veraport-v1"⟩
  requireNonces challenge.challenge client.clientNonce
  require (challenge.workstationPrincipal = principalId crypto w.workstationKey "workstation")
    ⟨.principalMismatch, "challenge is for a different workstation"⟩
  require (challenge.workstationKeyId = crypto.keyId w.workstationKey)
    ⟨.keyMismatch, "challenge key does not match workstation"⟩
  require (client.workstationPrincipal = principalId crypto w.workstationKey "workstation")
    ⟨.principalMismatch, "client targeted a different workstation"⟩
  require (client.serverChallenge = challenge.challenge)
    ⟨.challengeMismatch, "client did not bind the current workstation challenge"⟩
  let key ← w.enrolledKey crypto client
  require (crypto.verify key client.signature client.signatureBase = true)
    ⟨.signatureInvalid, "P-256 signature verification failed"⟩
  require (client.requestedCapabilities.toFinset ⊆ w.ceiling client.controllerPrincipal)
    ⟨.capabilityEscalation, "requested capability exceeds local controller policy"⟩
  require (0 < ttlMs) ⟨.valueError, "ttl_ms must be positive"⟩

/-- `accept`, with the texts of the random bytes and of the signature it makes. -/
def accept (challenge : ServerChallenge) (client : ClientAuth) (nowMs ttlMs : ℤ)
    (sessionId signature : String) : Except PyError (ServerAccept × SessionBinding) := do
  w.checkClient crypto challenge client ttlMs
  let principal := principalId crypto w.workstationKey "workstation"
  return ({
    protocolVersion := "veraport-v1"
    sessionId := sessionId
    controllerPrincipal := client.controllerPrincipal
    workstationPrincipal := principal
    workstationKeyId := crypto.keyId w.workstationKey
    serverChallenge := challenge.challenge
    clientNonce := client.clientNonce
    grantedCapabilities := sortedSet client.requestedCapabilities
    expiresAtMs := nowMs + ttlMs
    signature := signature }, {
    sessionId := sessionId
    controllerPrincipal := client.controllerPrincipal
    workstationPrincipal := principal
    grantedCapabilities := client.requestedCapabilities.toFinset
    expiresAtMs := nowMs + ttlMs })

variable {crypto w}

/-- The key that `accept` verifies with is that of the controller it binds. -/
theorem enrolledKey_ok {client : ClientAuth} {key : PublicKey}
    (h : w.enrolledKey crypto client = .ok key) :
    principalId crypto key "controller" = client.controllerPrincipal := by
  unfold enrolledKey at h
  split at h
  · cases h
  · simp only [bind_eq_ok, pure_eq_ok, require_eq_ok] at h
    obtain ⟨-, -, -, hprincipal, rfl⟩ := h
    exact hprincipal

/-- What is known about an accepted client. -/
theorem accept_ok {challenge : ServerChallenge} {client : ClientAuth} {nowMs ttlMs : ℤ}
    {sessionId signature : String} {serverAccept : ServerAccept} {binding : SessionBinding}
    (h : w.accept crypto challenge client nowMs ttlMs sessionId signature =
      .ok (serverAccept, binding)) :
    (∃ key, principalId crypto key "controller" = client.controllerPrincipal ∧
      crypto.verify key client.signature client.signatureBase = true) ∧
    client.workstationPrincipal = principalId crypto w.workstationKey "workstation" ∧
    client.serverChallenge = challenge.challenge ∧
    client.requestedCapabilities.toFinset ⊆ w.ceiling client.controllerPrincipal ∧
    binding.controllerPrincipal = client.controllerPrincipal ∧
    binding.grantedCapabilities = client.requestedCapabilities.toFinset ∧
    binding = ⟨serverAccept.sessionId, serverAccept.controllerPrincipal,
      serverAccept.workstationPrincipal, serverAccept.grantedCapabilities.toFinset,
      serverAccept.expiresAtMs⟩ := by
  simp only [accept, checkClient, bind_eq_ok, pure_eq_ok, require_eq_ok] at h
  obtain ⟨-, ⟨-, -, -, -, -, -, -, -, -, hworkstation, -, hchallenge, key, hkey, -, hverify, -,
    hceiling, -⟩, heq⟩ := h
  obtain ⟨rfl, rfl⟩ := Prod.mk.inj heq
  refine ⟨⟨key, enrolledKey_ok hkey, hverify⟩, hworkstation, hchallenge, hceiling, rfl, rfl, ?_⟩
  have hset : (sortedSet client.requestedCapabilities).toFinset =
      client.requestedCapabilities.toFinset := by
    ext c
    rw [List.mem_toFinset, List.mem_toFinset, mem_sortedSet]
  rw [hset]

end WorkstationAuthenticator

/-- What is known about an accept that the controller verified. -/
theorem verifyServerAccept_ok {crypto : Crypto PublicKey} {challenge : ServerChallenge}
    {client : ClientAuth} {accept : ServerAccept} {workstationKey : PublicKey} {nowMs : ℤ}
    {binding : SessionBinding}
    (h : verifyServerAccept crypto challenge client accept workstationKey nowMs = .ok binding) :
    crypto.verify workstationKey accept.signature accept.signatureBase = true ∧
    accept.grantedCapabilities.toFinset ⊆ client.requestedCapabilities.toFinset ∧
    binding = ⟨accept.sessionId, accept.controllerPrincipal, accept.workstationPrincipal,
      accept.grantedCapabilities.toFinset, accept.expiresAtMs⟩ := by
  simp only [verifyServerAccept, checkServerAccept, bind_eq_ok, pure_eq_ok, require_eq_ok] at h
  obtain ⟨-, ⟨-, -, -, -, -, -, -, -, -, -, -, -, -, hgranted, -, -, hverify⟩, rfl⟩ := h
  exact ⟨hverify, hgranted, rfl⟩

end VeraMesh
