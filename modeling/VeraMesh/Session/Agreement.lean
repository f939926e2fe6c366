import VeraMesh.Session.Network

/-!
# Who a session is with

`open_tls_session` signs whatever workstation the challenge names, and compares only the accept
message with its pinned key. A workstation that a controller connects to can therefore hand on the
challenge of another one, which then accepts the controller.

## Main results

* `networkInv_of_run`: every verified signature of an honest party was made by it.
* `agreement`: a session that a controller opens was created by its pinned workstation, always; a
  session that a workstation accepts was meant for it if no controller signs a challenge that names
  a workstation other than its pinned one.
-/

namespace VeraMesh

open Python

namespace Network

variable {PublicKey : Type} {crypto : Crypto PublicKey} {p : Parties PublicKey}
  {n n' : Network PublicKey}

/-! ## Agreement -/

/-- A workstation that bound a session to an honest controller had that controller open a session
with it, over the same challenge and for the same capabilities. -/
def AcceptedAgrees (crypto : Crypto PublicKey) (p : Parties PublicKey) (n : Network PublicKey) :
    Prop :=
  ∀ s ∈ n.served, ∀ client accept binding, s.outcome = some (client, .ok (accept, binding)) →
    ∀ key ∈ p.controllers, binding.controllerPrincipal = principalId crypto key "controller" →
      ∃ r ∈ n.opened, r.arguments.controllerKey = key ∧
        r.arguments.workstationKey = s.workstation.workstationKey ∧
        r.clientAuth.serverChallenge = s.challenge.challenge ∧
        r.arguments.requestedCapabilities.toFinset = binding.grantedCapabilities

/-- A session that a controller opened with an honest workstation was created by it. -/
def OpenedAgrees (p : Parties PublicKey) (n : Network PublicKey) : Prop :=
  ∀ r ∈ n.opened, ∀ binding, r.outcome = some (.ok binding) →
    ∀ w ∈ p.workstations, r.arguments.workstationKey = w.workstationKey →
      ∃ s ∈ n.served, s.workstation.workstationKey = w.workstationKey ∧
        ∃ client accept, s.outcome = some (client, .ok (accept, binding))

/-- A controller signs for no honest workstation but its pinned one. -/
def NamesPinned (crypto : Crypto PublicKey) (p : Parties PublicKey) :
    HandshakeEvent PublicKey → Prop
  | .authenticate arguments challenge _ _ => ∀ w ∈ p.workstations,
      challenge.workstationPrincipal = principalId crypto w.workstationKey "workstation" →
        arguments.workstationKey = w.workstationKey
  | _ => True

/-! ## The invariant -/

/-- What is known about a connection: whatever was accepted on it was signed. -/
structure ServedInv (crypto : Crypto PublicKey) (p : Parties PublicKey) (n : Network PublicKey)
    (s : ServedConnection PublicKey) : Prop where
  honest : s.workstation ∈ p.workstations
  accepted : ∀ client accept binding, s.outcome = some (client, .ok (accept, binding)) →
    (∃ nowMs ttlMs sessionId signature, s.workstation.accept crypto s.challenge client nowMs ttlMs
      sessionId signature = .ok (accept, binding)) ∧
    n.Unforged crypto p client.signature client.signatureBase

/-- What is known about a run: what it signed, and that what it verified was signed. -/
structure OpenedInv (crypto : Crypto PublicKey) (p : Parties PublicKey) (n : Network PublicKey)
    (r : OpenRun PublicKey) : Prop where
  honest : r.arguments.controllerKey ∈ p.controllers
  signed : ∃ clientNonce signature,
    r = { openRun crypto r.arguments r.challenge clientNonce signature with outcome := r.outcome }
  verified : ∀ binding, r.outcome = some (.ok binding) → ∃ accept nowMs,
    verifyServerAccept crypto r.challenge r.clientAuth accept r.arguments.workstationKey nowMs =
      .ok binding ∧
    n.Unforged crypto p accept.signature accept.signatureBase

structure NetworkInv (crypto : Crypto PublicKey) (p : Parties PublicKey) (n : Network PublicKey) :
    Prop where
  served : ∀ s ∈ n.served, ServedInv crypto p n s
  opened : ∀ r ∈ n.opened, OpenedInv crypto p n r

/-- What was signed stays signed. -/
def SignsMore (n n' : Network PublicKey) : Prop := ∀ key text, n.Signed key text → n'.Signed key text

theorem Unforged.mono {signature : String} {text : List Char} (hm : SignsMore n n')
    (h : n.Unforged crypto p signature text) : n'.Unforged crypto p signature text :=
  fun key hkey hverify => hm key text (h key hkey hverify)

theorem ServedInv.mono {s : ServedConnection PublicKey} (hm : SignsMore n n')
    (h : ServedInv crypto p n s) : ServedInv crypto p n' s := by
  refine ⟨h.honest, fun client accept binding ho => ?_⟩
  obtain ⟨haccept, hunforged⟩ := h.accepted client accept binding ho
  exact ⟨haccept, hunforged.mono hm⟩

theorem OpenedInv.mono {r : OpenRun PublicKey} (hm : SignsMore n n')
    (h : OpenedInv crypto p n r) : OpenedInv crypto p n' r := by
  refine ⟨h.honest, h.signed, fun binding ho => ?_⟩
  obtain ⟨accept, nowMs, hverify, hunforged⟩ := h.verified binding ho
  exact ⟨accept, nowMs, hverify, hunforged.mono hm⟩

theorem mem_modify {α : Type} {f : α → α} {l : List α} {i : ℕ} {b : α} (h : b ∈ l.modify i f) :
    b ∈ l ∨ ∃ a ∈ l, b = f a := by
  obtain ⟨j, hj⟩ := List.mem_iff_getElem?.mp h
  rw [List.getElem?_modify] at hj
  obtain ⟨a, ha, hab⟩ := Option.map_eq_some_iff.mp hj
  have hmem : a ∈ l := List.mem_of_getElem? ha
  by_cases hij : i = j
  · rw [if_pos hij] at hab
    exact Or.inr ⟨a, hmem, hab.symm⟩
  · rw [if_neg hij] at hab
    exact Or.inl (hab ▸ hmem)

/-- An element is still there after a modification, or what it was modified to. -/
theorem mem_modify_or {α : Type} {f : α → α} {l : List α} {a : α} (i : ℕ) (ha : a ∈ l) :
    a ∈ l.modify i f ∨ f a ∈ l.modify i f := by
  obtain ⟨j, hj⟩ := List.mem_iff_getElem?.mp ha
  by_cases hij : i = j
  · refine Or.inr (List.mem_iff_getElem?.mpr ⟨j, ?_⟩)
    simp [hj, hij]
  · refine Or.inl (List.mem_iff_getElem?.mpr ⟨j, ?_⟩)
    simp [hj, hij]

theorem handleClient_of_some {client : ClientAuth} {nowMs ttlMs : ℤ} {sessionId signature : String}
    {s : ServedConnection PublicKey}
    {outcome : ClientAuth × Except PyError (ServerAccept × SessionBinding)}
    (h : s.outcome = some outcome) :
    handleClient crypto client nowMs ttlMs sessionId signature s = s := by
  simp only [handleClient, h]

/-- Handling the accept message only adds an outcome. -/
theorem handleAccept_eq (crypto : Crypto PublicKey) (accept : ServerAccept) (nowMs : ℤ)
    (r : OpenRun PublicKey) :
    handleAccept crypto accept nowMs r =
      { r with outcome := (handleAccept crypto accept nowMs r).outcome } := by
  unfold handleAccept
  split <;> rfl

theorem signsMore_step (n : Network PublicKey) (event : HandshakeEvent PublicKey) :
    SignsMore n (n.step crypto event) := by
  rintro key text (⟨r, hr, hkey, htext⟩ | ⟨s, hs, hkey, client, accept, binding, hout, htext⟩)
  · -- a controller's signature: its run may get an outcome
    refine Or.inl ?_
    cases event with
    | challenge => exact ⟨r, hr, hkey, htext⟩
    | authenticate => exact ⟨r, List.mem_append_left _ hr, hkey, htext⟩
    | accept => exact ⟨r, hr, hkey, htext⟩
    | verify i accept nowMs =>
      rcases mem_modify_or (f := handleAccept crypto accept nowMs) i hr with hmem | hmem
      · exact ⟨r, hmem, hkey, htext⟩
      · rw [handleAccept_eq] at hmem
        exact ⟨_, hmem, hkey, htext⟩
  · -- a workstation's signature: the connection has its outcome already
    refine Or.inr ?_
    cases event with
    | challenge =>
      exact ⟨s, List.mem_append_left _ hs, hkey, client, accept, binding, hout, htext⟩
    | authenticate => exact ⟨s, hs, hkey, client, accept, binding, hout, htext⟩
    | accept i client' nowMs ttlMs sessionId signature =>
      rcases mem_modify_or (f := handleClient crypto client' nowMs ttlMs sessionId signature) i hs
        with hmem | hmem
      · exact ⟨s, hmem, hkey, client, accept, binding, hout, htext⟩
      · rw [handleClient_of_some hout] at hmem
        exact ⟨s, hmem, hkey, client, accept, binding, hout, htext⟩
    | verify => exact ⟨s, hs, hkey, client, accept, binding, hout, htext⟩

theorem networkInv_init : NetworkInv crypto p init :=
  ⟨by simp [init], by simp [init]⟩

theorem ServedInv.handleClient {s : ServedConnection PublicKey} (h : ServedInv crypto p n s)
    {client : ClientAuth} (hu : n.Unforged crypto p client.signature client.signatureBase)
    (nowMs ttlMs : ℤ) (sessionId signature : String) :
    ServedInv crypto p n (handleClient crypto client nowMs ttlMs sessionId signature s) := by
  unfold Network.handleClient
  split
  · exact h
  · refine ⟨h.honest, fun client' accept binding ho => ?_⟩
    obtain ⟨rfl, haccept⟩ := Prod.mk.inj (Option.some.inj ho)
    exact ⟨⟨nowMs, ttlMs, sessionId, signature, haccept⟩, hu⟩

theorem OpenedInv.handleAccept {r : OpenRun PublicKey} (h : OpenedInv crypto p n r)
    {accept : ServerAccept} (hu : n.Unforged crypto p accept.signature accept.signatureBase)
    (nowMs : ℤ) : OpenedInv crypto p n (handleAccept crypto accept nowMs r) := by
  unfold Network.handleAccept
  split
  · exact h
  · obtain ⟨clientNonce, signature, hsigned⟩ := h.signed
    refine ⟨h.honest, ⟨clientNonce, signature, ?_⟩, fun binding ho => ?_⟩
    · rw [hsigned]
      rfl
    · exact ⟨accept, nowMs, Option.some.inj ho, hu⟩

/-- One possible step keeps the invariant. -/
theorem NetworkInv.step (h : NetworkInv crypto p n) {event : HandshakeEvent PublicKey}
    (hposs : n.Possible crypto p event) : NetworkInv crypto p (n.step crypto event) := by
  have hm : SignsMore n (n.step crypto event) := signsMore_step n event
  refine ⟨fun s hs => ServedInv.mono hm ?_, fun r hr => OpenedInv.mono hm ?_⟩
  · cases event with
    | challenge w nonce =>
      rcases List.mem_append.mp hs with hold | hnew
      · exact h.served s hold
      · obtain rfl := List.mem_singleton.mp hnew
        exact ⟨hposs, by simp⟩
    | authenticate => exact h.served s hs
    | accept i client nowMs ttlMs sessionId signature =>
      rcases mem_modify hs with hold | ⟨s', hs', rfl⟩
      · exact h.served s hold
      · exact (h.served s' hs').handleClient hposs nowMs ttlMs sessionId signature
    | verify => exact h.served s hs
  · cases event with
    | challenge => exact h.opened r hr
    | authenticate arguments challenge clientNonce signature =>
      rcases List.mem_append.mp hr with hold | hnew
      · exact h.opened r hold
      · obtain rfl := List.mem_singleton.mp hnew
        exact ⟨hposs, ⟨clientNonce, signature, rfl⟩, by simp [openRun]⟩
    | accept => exact h.opened r hr
    | verify i accept nowMs =>
      rcases mem_modify hr with hold | ⟨r', hr', rfl⟩
      · exact h.opened r hold
      · exact (h.opened r' hr').handleAccept hposs nowMs

theorem networkInv_of_run (events : List (HandshakeEvent PublicKey)) (h : NetworkInv crypto p n)
    (hposs : PossibleRun crypto p n events) : NetworkInv crypto p (n.run crypto events) := by
  induction events generalizing n with
  | nil => exact h
  | cons event events ih => exact ih (h.step hposs.1) hposs.2

/-! ## What the signatures say -/

theorem WorkstationAuthenticator.isCapabilityName_ceiling
    {w : WorkstationAuthenticator PublicKey} {principal name : String}
    (h : name ∈ w.ceiling principal) : IsCapabilityName name := by
  unfold WorkstationAuthenticator.ceiling at h
  cases hget : w.capabilityPolicy.get? principal with
  | none => simp [hget] at h
  | some ceiling =>
    rw [hget] at h
    exact w.isCapabilityName principal ceiling hget name h

/-- A session that a controller opens with an honest workstation was created by it. -/
theorem NetworkInv.openedAgrees (h : NetworkInv crypto p n) : OpenedAgrees p n := by
  intro r hr binding ho w hw hpin
  have hinv := h.opened r hr
  obtain ⟨accept, nowMs, hverify, hunforged⟩ := hinv.verified binding ho
  obtain ⟨hsig, hgranted, hbinding⟩ := verifyServerAccept_ok hverify
  have hsigned : n.Signed w.workstationKey accept.signatureBase :=
    hunforged w.workstationKey (Or.inr ⟨w, hw, rfl⟩) (hpin ▸ hsig)
  rcases hsigned with ⟨r', -, -, htext⟩ | ⟨s, hs, hkey, client, accept', binding', hout, htext⟩
  · -- what controllers sign is in another domain
    exact absurd htext (ClientAuth.signatureBase_ne _ _)
  · obtain ⟨⟨_, _, _, _, haccept⟩, -⟩ := (h.served s hs).accepted client accept' binding' hout
    obtain ⟨-, -, -, hceiling, -, hcreated, hbinding'⟩ :=
      WorkstationAuthenticator.accept_ok haccept
    obtain ⟨hsession, hcontroller, hworkstation, hcaps, hexpires⟩ :=
      ServerAccept.signatureBase_injective htext
    have hnames : ∀ c ∈ accept.grantedCapabilities, IsCapabilityName c := by
      intro c hc
      obtain ⟨_, _, hopen⟩ := hinv.signed
      have hrequested : c ∈ r.clientAuth.requestedCapabilities :=
        List.mem_toFinset.mp (hgranted (List.mem_toFinset.mpr hc))
      rw [hopen] at hrequested
      exact r.arguments.isCapabilityName c (mem_sortedSet.mp hrequested)
    have hnames' : ∀ c ∈ accept'.grantedCapabilities, IsCapabilityName c := by
      intro c hc
      have hmem : c ∈ binding'.grantedCapabilities := by
        rw [hbinding']
        exact List.mem_toFinset.mpr hc
      rw [hcreated] at hmem
      exact WorkstationAuthenticator.isCapabilityName_ceiling (hceiling hmem)
    have hset := capabilitiesText_injective hnames' hnames hcaps
    have heq : binding' = binding := by
      rw [hbinding', hbinding, hsession, hcontroller, hworkstation, hexpires, hset]
    exact ⟨s, hs, hkey, client, accept', heq ▸ hout⟩

/-- No run signs a challenge of an honest workstation that it did not pin. -/
def OpenedPinned (crypto : Crypto PublicKey) (p : Parties PublicKey) (n : Network PublicKey) :
    Prop :=
  ∀ r ∈ n.opened, ∀ w ∈ p.workstations,
    r.challenge.workstationPrincipal = principalId crypto w.workstationKey "workstation" →
      r.arguments.workstationKey = w.workstationKey

theorem openedPinned_of_run (events : List (HandshakeEvent PublicKey))
    (h : OpenedPinned crypto p n) (hnames : ∀ e ∈ events, NamesPinned crypto p e) :
    OpenedPinned crypto p (n.run crypto events) := by
  induction events generalizing n with
  | nil => exact h
  | cons event events ih =>
    rw [List.forall_mem_cons] at hnames
    refine ih (fun r hr w hw hprincipal => ?_) hnames.2
    cases event with
    | challenge => exact h r hr w hw hprincipal
    | authenticate arguments challenge clientNonce signature =>
      rcases List.mem_append.mp hr with hold | hnew
      · exact h r hold w hw hprincipal
      · obtain rfl := List.mem_singleton.mp hnew
        exact hnames.1 w hw hprincipal
    | accept => exact h r hr w hw hprincipal
    | verify i accept nowMs =>
      rcases mem_modify hr with hold | ⟨r', hr', rfl⟩
      · exact h r hold w hw hprincipal
      · rw [handleAccept_eq] at hprincipal ⊢
        exact h r' hr' w hw hprincipal

/-- A session that a workstation accepts was meant for it, if controllers sign for their pinned
workstations only. -/
theorem NetworkInv.acceptedAgrees (h : NetworkInv crypto p n) (hpinned : OpenedPinned crypto p n) :
    AcceptedAgrees crypto p n := by
  intro s hs client accept binding hout key hkey hprincipal
  have hinv := h.served s hs
  obtain ⟨⟨_, _, _, _, haccept⟩, hunforged⟩ := hinv.accepted client accept binding hout
  obtain ⟨⟨key', hkey', hverify⟩, hworkstation, hchallenge, hceiling, hbound, hgranted, -⟩ :=
    WorkstationAuthenticator.accept_ok haccept
  obtain rfl : key' = key :=
    principalId_injective crypto "controller" (hkey'.trans (hbound.symm.trans hprincipal))
  rcases hunforged key' (Or.inl hkey) hverify with
    ⟨r, hr, hrkey, htext⟩ | ⟨s', -, -, client', accept', binding', -, htext⟩
  · obtain ⟨-, hprincipal', hchallenge', -, hcaps⟩ := ClientAuth.signatureBase_injective htext
    obtain ⟨_, _, hopen⟩ := (h.opened r hr).signed
    have hnamed : r.challenge.workstationPrincipal =
        principalId crypto s.workstation.workstationKey "workstation" := by
      rw [← hworkstation, ← hprincipal', hopen]
      rfl
    have hrequested : r.clientAuth.requestedCapabilities =
        sortedSet r.arguments.requestedCapabilities := by
      rw [hopen]
      rfl
    have hset : r.clientAuth.requestedCapabilities.toFinset =
        client.requestedCapabilities.toFinset := by
      refine capabilitiesText_injective (fun c hc => ?_) (fun c hc => ?_) hcaps
      · rw [hrequested] at hc
        exact r.arguments.isCapabilityName c (mem_sortedSet.mp hc)
      · exact WorkstationAuthenticator.isCapabilityName_ceiling
          (hceiling (List.mem_toFinset.mpr hc))
    refine ⟨r, hr, hrkey, hpinned r hr s.workstation hinv.honest hnamed,
      hchallenge'.trans hchallenge, ?_⟩
    rw [hgranted, ← hset, hrequested]
    ext c
    rw [List.mem_toFinset, List.mem_toFinset, mem_sortedSet]
  · exact absurd htext.symm (ClientAuth.signatureBase_ne _ _)

/-- **Agreement of the handshake.** In every run in which no signature of an honest party is forged,
a session that a controller opens with an honest workstation was created by it; and in every such
run in which controllers sign challenges of their pinned workstations only, a session that a
workstation binds to an honest controller was meant for it. -/
theorem agreement (crypto : Crypto PublicKey) (p : Parties PublicKey)
    (events : List (HandshakeEvent PublicKey)) (hposs : PossibleRun crypto p init events) :
    OpenedAgrees p (run crypto init events) ∧
      ((∀ e ∈ events, NamesPinned crypto p e) →
        AcceptedAgrees crypto p (run crypto init events)) := by
  have hinv := networkInv_of_run events networkInv_init hposs
  refine ⟨hinv.openedAgrees, fun hnames => hinv.acceptedAgrees ?_⟩
  exact openedPinned_of_run events (by simp [OpenedPinned, init]) hnames

/-! ## A handshake that is relayed -/

/-- Keys stand for their digests, and signatures show the key and the text. -/
def exampleCrypto : Crypto String where
  keyId key := key
  keyId_injective _ _ h := h
  verify key signature text := signature.toList == key.toList ++ '|' :: text

/-- The signature of the example scheme. -/
def exampleSign (key : String) (text : List Char) : String := .ofList (key.toList ++ '|' :: text)

def exampleWorkstation : WorkstationAuthenticator String where
  workstationKey := "w"
  allowedControllers := .ofList [("controller:c", "c")]
  capabilityPolicy := .ofList [("controller:c", {"fs.read"})]
  isCapabilityName := by
    intro principal ceiling hget name hname
    obtain rfl : {"fs.read"} = ceiling := by
      by_cases h : principal = "controller:c"
      · subst h
        exact Option.some.inj hget
      · rw [Dict.get?_ofList_eq_none (by simpa using Ne.symm h)] at hget
        cases hget
    obtain rfl := Finset.mem_singleton.mp hname
    exact ⟨by decide, by decide⟩

def exampleParties : Parties String := ⟨["c"], [exampleWorkstation]⟩

/-- The controller opens a session with the workstation of the pinned key. -/
def exampleArguments (pinned : String) : OpenArguments String where
  controllerKey := "c"
  workstationKey := pinned
  requestedCapabilities := ["fs.read"]
  isCapabilityName := by simp [IsCapabilityName]

/-- 32 random bytes. -/
def exampleNonce : String := "AAAAAAAAAAAAAAAAAAAAAAAAAAAAAAAAAAAAAAAAAAA"

def exampleChallenge : ServerChallenge := .create exampleCrypto "w" exampleNonce

def exampleUnsignedClient : ClientAuth :=
  .create exampleCrypto "c" exampleChallenge.workstationPrincipal exampleNonce ["fs.read"]
    exampleNonce ""

def exampleClient : ClientAuth :=
  { exampleUnsignedClient with signature := exampleSign "c" exampleUnsignedClient.signatureBase }

def exampleUnsignedAccept : ServerAccept :=
  ⟨"veraport-v1", "s", "controller:c", "workstation:w", "w", exampleNonce, exampleNonce,
    ["fs.read"], 300000, ""⟩

def exampleAccept : ServerAccept :=
  { exampleUnsignedAccept with signature := exampleSign "w" exampleUnsignedAccept.signatureBase }

/-- The challenge of the workstation reaches the controller that pinned a key, and the answers of
both reach the other. -/
def exampleEvents (pinned : String) : List (HandshakeEvent String) :=
  [.challenge exampleWorkstation exampleNonce,
    .authenticate (exampleArguments pinned) exampleChallenge exampleNonce exampleClient.signature,
    .accept 0 exampleClient 0 300000 "s" exampleAccept.signature,
    .verify 0 exampleAccept 0]


def exampleBinding : SessionBinding :=
  ⟨"s", "controller:c", "workstation:w", {"fs.read"}, 300000⟩

/-- What the workstation made of the handshake. -/
def exampleServed : ServedConnection String :=
  ⟨exampleWorkstation, exampleChallenge, some (exampleClient, .ok (exampleAccept, exampleBinding))⟩

theorem exampleCrypto_verify_exampleSign {key key' : String} {text : List Char} :
    exampleCrypto.verify key (exampleSign key' text) text = true ↔ key' = key := by
  simp [exampleCrypto, exampleSign, String.toList_inj]

theorem exampleClient_signature :
    exampleClient.signature = exampleSign "c" exampleClient.signatureBase := by
  have hbase : exampleClient.signatureBase = exampleUnsignedClient.signatureBase := by
    simp only [ClientAuth.signatureBase, ClientAuth.signedValues, exampleClient]
  rw [hbase]
  simp only [exampleClient]

theorem checkClient_exampleClient :
    exampleWorkstation.checkClient exampleCrypto exampleChallenge exampleClient 300000 =
      .ok () := by
  have hverify : exampleCrypto.verify "c" exampleClient.signature exampleClient.signatureBase =
      true := by
    rw [exampleClient_signature, exampleCrypto_verify_exampleSign]
  have hnonces : requireNonces exampleChallenge.challenge exampleClient.clientNonce = .ok () := by
    decide +kernel
  have hkey : exampleWorkstation.enrolledKey exampleCrypto exampleClient = .ok "c" := by
    decide +kernel
  simp only [WorkstationAuthenticator.checkClient, Except.bind_eq_ok, Except.require_eq_ok,
    exists_const]
  refine ⟨⟨rfl, rfl⟩, (), hnonces, rfl, rfl, rfl, rfl, "c", hkey, hverify, ?_, ?_⟩
  · decide +kernel
  · decide

theorem accept_exampleClient :
    exampleWorkstation.accept exampleCrypto exampleChallenge exampleClient 0 300000 "s"
      exampleAccept.signature = .ok (exampleAccept, exampleBinding) := by
  rw [WorkstationAuthenticator.accept, checkClient_exampleClient]
  rfl

/-- The workstation handles the client's message before the controller hears from it. -/
theorem run_exampleEvents_take (pinned : String) :
    run exampleCrypto init ((exampleEvents pinned).take 3) = ⟨[exampleServed],
      [openRun exampleCrypto (exampleArguments pinned) exampleChallenge exampleNonce
        exampleClient.signature]⟩ := by
  rw [exampleServed, ← accept_exampleClient]
  rfl

theorem exampleAccept_signature :
    exampleAccept.signature = exampleSign "w" exampleAccept.signatureBase := by
  have hbase : exampleAccept.signatureBase = exampleUnsignedAccept.signatureBase := by
    simp only [ServerAccept.signatureBase, ServerAccept.signedValues, exampleAccept]
  rw [hbase]
  simp only [exampleAccept]

/-- The example run forges nothing. -/
theorem possibleRun_exampleEvents (pinned : String) :
    PossibleRun exampleCrypto exampleParties init (exampleEvents pinned) := by
  refine ⟨List.mem_singleton.mpr rfl, List.mem_singleton.mpr rfl, ?_, ?_, trivial⟩
  · intro key hkey hverify
    rw [exampleClient_signature, exampleCrypto_verify_exampleSign] at hverify
    subst hverify
    exact Or.inl ⟨_, List.mem_singleton.mpr rfl, rfl, rfl⟩
  · intro key hkey hverify
    rw [exampleAccept_signature, exampleCrypto_verify_exampleSign] at hverify
    subst hverify
    have hrun := run_exampleEvents_take pinned
    refine Or.inr ⟨exampleServed, ?_, rfl, _, _, _, rfl, rfl⟩
    show exampleServed ∈ (run exampleCrypto init ((exampleEvents pinned).take 3)).served
    rw [hrun]
    exact List.mem_singleton.mpr rfl

theorem agreement_exampleEvents :
    OpenedAgrees exampleParties (run exampleCrypto init (exampleEvents "w")) ∧
      AcceptedAgrees exampleCrypto exampleParties (run exampleCrypto init (exampleEvents "w")) := by
  have h := agreement exampleCrypto exampleParties (exampleEvents "w")
    (possibleRun_exampleEvents "w")
  refine ⟨h.1, h.2 ?_⟩
  simp [exampleEvents, NamesPinned, exampleParties, exampleArguments, exampleWorkstation]

/-- A workstation with the key `d`, to which the controller connects, hands on the challenge of the
workstation `w`, which then holds a session of the controller. -/
theorem not_acceptedAgrees_exampleEvents :
    PossibleRun exampleCrypto exampleParties init (exampleEvents "d") ∧
      ¬AcceptedAgrees exampleCrypto exampleParties (run exampleCrypto init (exampleEvents "d")) := by
  refine ⟨possibleRun_exampleEvents "d", fun h => ?_⟩
  have hrun : run exampleCrypto init (exampleEvents "d") =
      step exampleCrypto (run exampleCrypto init ((exampleEvents "d").take 3))
        (.verify 0 exampleAccept 0) := rfl
  rw [hrun, run_exampleEvents_take] at h
  obtain ⟨r, hr, -, hpinned, -⟩ := h exampleServed (List.mem_singleton.mpr rfl) exampleClient
    exampleAccept exampleBinding rfl "c" (List.mem_singleton.mpr rfl) rfl
  obtain rfl := List.mem_singleton.mp hr
  -- the controller's run is with the key that it pinned
  rw [handleAccept_eq] at hpinned
  exact absurd hpinned (by decide)

end Network

end VeraMesh
