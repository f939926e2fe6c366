import VeraMesh.Session.Agreement
import VeraMesh.Veraport.Crypto

/-!
# Go clients and Python workstations

`client.go`: `Dial` from its first frame on. Any number of dials run against any number of
workstations at the same time, on a network that belongs to an attacker: each frame that is read is
whatever the attacker makes it. Out of reach are signatures of the workstations' keys (`Unforged`),
and random texts that were drawn before (`Fresh`). Who can sign for a controller does not matter
here.

## Main results

* `dial_agrees`: a binding that `Dial` returns was created by the pinned workstation, for this dial
  and no other.
-/

namespace VeraMesh.Veraport

open Except

variable {PublicKey : Type}

/-! ## Dialing -/

/-- What `Dial` is called with, as far as it decides about frames. -/
structure ClientConfig (PublicKey : Type) where
  /-- The public half of the controller's key. -/
  controllerKey : PublicKey
  /-- The pinned key. -/
  workstationKey : PublicKey
  requestedCapabilities : List GoString
  isCapabilityName : ∀ name ∈ requestedCapabilities, IsCapabilityName name

/-- `Dial`, from the challenge frame to the client frame, with the text of the random bytes and the
signature it makes. -/
def answerChallenge (crypto : SharedCrypto PublicKey) (cfg : ClientConfig PublicKey)
    (challenge : ServerChallenge) (nonce signature : GoString) : Except GoString ClientAuth := do
  require (challenge.workstationPrincipal = principalID crypto cfg.workstationKey "workstation" ∧
      challenge.workstationKeyId = keyID crypto cfg.workstationKey)
    (text "server challenge does not match pinned workstation key")
  createClientAuth crypto cfg.controllerKey challenge cfg.requestedCapabilities nonce signature

/-- A dial that has sent its client frame. -/
structure DialRun (PublicKey : Type) where
  config : ClientConfig PublicKey
  challenge : ServerChallenge
  auth : ClientAuth
  /-- What `VerifyServerAccept` made of the accept frame. -/
  outcome : Option (Except GoString SessionBinding)

/-- All dials and served connections so far. -/
structure DialNetwork (PublicKey : Type) where
  served : List (ServedConnection PublicKey)
  dialed : List (DialRun PublicKey)

/-- One step of a dial or of a workstation, with the frame it reads and the random texts it
draws. -/
inductive DialEvent (PublicKey : Type) where
  /-- A workstation challenges a new connection. -/
  | challenge (workstation : WorkstationAuthenticator PublicKey) (nonce : String)
  /-- A dial reads a challenge and answers it, or fails. -/
  | dial (config : ClientConfig PublicKey) (challenge : ServerChallenge)
      (nonce signature : GoString)
  /-- The workstation of connection `i` handles a client message. -/
  | accept (i : ℕ) (client : VeraMesh.ClientAuth) (nowMs ttlMs : ℤ) (sessionId signature : String)
  /-- Dial `i` handles an accept frame. -/
  | verify (i : ℕ) (accept : ServerAccept) (nowMs : Int64)

namespace DialNetwork

variable (crypto : SharedCrypto PublicKey) (workstations : List (WorkstationAuthenticator PublicKey))

/-- Before the first handshake. -/
def init : DialNetwork PublicKey := ⟨[], []⟩

/-- The dial after its accept frame. -/
def handleAccept (accept : ServerAccept) (nowMs : Int64) (r : DialRun PublicKey) :
    DialRun PublicKey :=
  match r.outcome with
  | some _ => r
  | none => { r with outcome := some (verifyServerAccept crypto r.challenge r.auth accept
      r.config.workstationKey nowMs) }

/-- The network after a step. -/
def step (n : DialNetwork PublicKey) : DialEvent PublicKey → DialNetwork PublicKey
  | .challenge w nonce =>
    { n with served := n.served ++ [⟨w, .create crypto.toCrypto w.workstationKey nonce, none⟩] }
  | .dial config challenge nonce signature =>
    match answerChallenge crypto config challenge nonce signature with
    | .error _ => n
    | .ok auth => { n with dialed := n.dialed ++ [⟨config, challenge, auth, none⟩] }
  | .accept i client nowMs ttlMs sessionId signature =>
    let handle := Network.handleClient crypto.toCrypto client nowMs ttlMs sessionId signature
    { n with served := n.served.modify i handle }
  | .verify i accept nowMs =>
    let handle := handleAccept crypto accept nowMs
    { n with dialed := n.dialed.modify i handle }

/-- The bytes were signed with the key, by a dial or a workstation. -/
def Signed (n : DialNetwork PublicKey) (key : PublicKey) (bytes : GoString) : Prop :=
  (∃ r ∈ n.dialed, r.config.controllerKey = key ∧ r.auth.signatureBase = bytes) ∨
    ∃ s ∈ n.served, s.workstation.workstationKey = key ∧ ∃ client accept binding,
      s.outcome = some (client, .ok (accept, binding)) ∧ accept.signatureBytes = bytes

/-- No one forges a signature of a workstation. -/
def Unforged (n : DialNetwork PublicKey) (signature bytes : GoString) : Prop :=
  ∀ w ∈ workstations, crypto.verifyP1363 w.workstationKey signature bytes = true →
    n.Signed w.workstationKey bytes

/-- What can happen next: workstations take part as such, random texts are new, and the attacker
forges none of the workstations' signatures. -/
def Possible (n : DialNetwork PublicKey) : DialEvent PublicKey → Prop
  | .challenge w _ => w ∈ workstations
  | .dial _ _ nonce _ => ∀ r ∈ n.dialed, r.auth.clientNonce ≠ nonce
  | .accept _ _ _ _ sessionId _ => ∀ s ∈ n.served, ∀ client accept binding,
    s.outcome = some (client, .ok (accept, binding)) → binding.sessionId ≠ sessionId
  | .verify _ accept _ => n.Unforged crypto workstations accept.signature accept.signatureBase

/-- The network after a run of steps. -/
def run (n : DialNetwork PublicKey) (events : List (DialEvent PublicKey)) : DialNetwork PublicKey :=
  events.foldl (step crypto) n

/-- Every step of the run is possible where it happens. -/
def PossibleRun : DialNetwork PublicKey → List (DialEvent PublicKey) → Prop
  | _, [] => True
  | n, event :: events => n.Possible crypto workstations event ∧
    PossibleRun (n.step crypto event) events

end DialNetwork

/-! ## Agreement -/

/-- The Go binding has the values of the Python one. -/
structure SessionBinding.Matches (binding : SessionBinding) (created : VeraMesh.SessionBinding) :
    Prop where
  sessionId : binding.sessionId = text created.sessionId
  controllerPrincipal : binding.controllerPrincipal = text created.controllerPrincipal
  workstationPrincipal : binding.workstationPrincipal = text created.workstationPrincipal
  grantedCapabilities : binding.grantedCapabilities = created.grantedCapabilities.image text
  expiresAtMs : binding.expiresAtMs.toInt = created.expiresAtMs

/-- A binding that a dial with an honest pinned workstation returned was created by that workstation
for the nonce and the challenge of the dial, and grants no more than was requested. -/
def Agrees (workstations : List (WorkstationAuthenticator PublicKey)) (n : DialNetwork PublicKey) :
    Prop :=
  ∀ r ∈ n.dialed, ∀ binding, r.outcome = some (.ok binding) →
    ∀ w ∈ workstations, r.config.workstationKey = w.workstationKey →
      binding.grantedCapabilities ⊆ r.config.requestedCapabilities.toFinset ∧
      ∃ s ∈ n.served, s.workstation.workstationKey = w.workstationKey ∧
        text s.challenge.challenge = r.challenge.challenge ∧
        ∃ client accept created, s.outcome = some (client, .ok (accept, created)) ∧
          text client.clientNonce = r.auth.clientNonce ∧ binding.Matches created

/-- No two dials with honest pinned workstations returned the same binding. -/
def Distinct (workstations : List (WorkstationAuthenticator PublicKey))
    (n : DialNetwork PublicKey) : Prop :=
  ∀ (i j : ℕ) (r q : DialRun PublicKey) (binding : SessionBinding), n.dialed[i]? = some r →
    n.dialed[j]? = some q → r.outcome = some (.ok binding) → q.outcome = some (.ok binding) →
    (∃ w ∈ workstations, r.config.workstationKey = w.workstationKey) →
    (∃ w ∈ workstations, q.config.workstationKey = w.workstationKey) → i = j

namespace DialNetwork

variable {crypto : SharedCrypto PublicKey}
  {workstations : List (WorkstationAuthenticator PublicKey)} {n : DialNetwork PublicKey}

/-! ## What stays -/

/-- Handling the accept frame only adds an outcome. -/
theorem handleAccept_eq (crypto : SharedCrypto PublicKey) (accept : ServerAccept) (nowMs : Int64)
    (r : DialRun PublicKey) :
    handleAccept crypto accept nowMs r =
      { r with outcome := (handleAccept crypto accept nowMs r).outcome } := by
  unfold handleAccept
  split <;> rfl

/-- What was signed stays signed. -/
theorem Signed.step {key : PublicKey} {bytes : GoString} (h : n.Signed key bytes)
    (event : DialEvent PublicKey) : (n.step crypto event).Signed key bytes := by
  rcases h with ⟨r, hr, hkey, hbytes⟩ | ⟨s, hs, hkey, client, accept, binding, hout, hbytes⟩
  · -- signed by a dial: it may get an outcome
    refine Or.inl ?_
    cases event with
    | challenge => exact ⟨r, hr, hkey, hbytes⟩
    | dial config challenge nonce signature =>
      unfold DialNetwork.step
      dsimp only
      split
      · exact ⟨r, hr, hkey, hbytes⟩
      · exact ⟨r, List.mem_append_left _ hr, hkey, hbytes⟩
    | accept => exact ⟨r, hr, hkey, hbytes⟩
    | verify i accept nowMs =>
      rcases Network.mem_modify_or (f := handleAccept crypto accept nowMs) i hr with hmem | hmem
      · exact ⟨r, hmem, hkey, hbytes⟩
      · rw [handleAccept_eq] at hmem
        exact ⟨_, hmem, hkey, hbytes⟩
  · -- signed by a workstation: the connection has its outcome already
    refine Or.inr ?_
    cases event with
    | challenge =>
      exact ⟨s, List.mem_append_left _ hs, hkey, client, accept, binding, hout, hbytes⟩
    | dial config challenge nonce signature =>
      unfold DialNetwork.step
      dsimp only
      split <;> exact ⟨s, hs, hkey, client, accept, binding, hout, hbytes⟩
    | accept i client' nowMs ttlMs sessionId signature =>
      rcases Network.mem_modify_or (f := Network.handleClient crypto.toCrypto client' nowMs ttlMs
        sessionId signature) i hs with hmem | hmem
      · exact ⟨s, hmem, hkey, client, accept, binding, hout, hbytes⟩
      · rw [Network.handleClient_of_some hout] at hmem
        exact ⟨s, hmem, hkey, client, accept, binding, hout, hbytes⟩
    | verify => exact ⟨s, hs, hkey, client, accept, binding, hout, hbytes⟩

/-- What was not forged stays so. -/
theorem Unforged.step {signature bytes : GoString}
    (h : n.Unforged crypto workstations signature bytes) (event : DialEvent PublicKey) :
    (n.step crypto event).Unforged crypto workstations signature bytes :=
  fun w hw hverify => (h w hw hverify).step event

/-! ## The invariant -/

/-- What is known about a connection: whatever was accepted on it passed the checks. -/
structure ServedInv (crypto : SharedCrypto PublicKey)
    (workstations : List (WorkstationAuthenticator PublicKey)) (s : ServedConnection PublicKey) :
    Prop where
  honest : s.workstation ∈ workstations
  accepted : ∀ client accept binding, s.outcome = some (client, .ok (accept, binding)) →
    ∃ nowMs ttlMs sessionId signature, s.workstation.accept crypto.toCrypto s.challenge client
      nowMs ttlMs sessionId signature = .ok (accept, binding)

/-- What is known about a dial: what it sent, and that what it verified was signed. -/
structure DialedInv (crypto : SharedCrypto PublicKey)
    (workstations : List (WorkstationAuthenticator PublicKey)) (n : DialNetwork PublicKey)
    (r : DialRun PublicKey) : Prop where
  sent : ∃ nonce signature,
    answerChallenge crypto r.config r.challenge nonce signature = .ok r.auth
  verified : ∀ binding, r.outcome = some (.ok binding) → ∃ accept nowMs,
    verifyServerAccept crypto r.challenge r.auth accept r.config.workstationKey nowMs =
      .ok binding ∧
    n.Unforged crypto workstations accept.signature accept.signatureBase

/-- The session that was created on the connection. -/
def created (s : ServedConnection PublicKey) : Option VeraMesh.SessionBinding :=
  match s.outcome with
  | some (_, .ok (_, binding)) => some binding
  | _ => none

/-- Session ids are drawn once. -/
def SessionsDistinct (n : DialNetwork PublicKey) : Prop :=
  ∀ (i j : ℕ) (s t : ServedConnection PublicKey) (b c : VeraMesh.SessionBinding),
    n.served[i]? = some s → n.served[j]? = some t → created s = some b → created t = some c →
    b.sessionId = c.sessionId → i = j

/-- Nonces of dials are drawn once. -/
def NoncesDistinct (n : DialNetwork PublicKey) : Prop :=
  ∀ (i j : ℕ) (r q : DialRun PublicKey), n.dialed[i]? = some r → n.dialed[j]? = some q →
    r.auth.clientNonce = q.auth.clientNonce → i = j

structure Inv (crypto : SharedCrypto PublicKey)
    (workstations : List (WorkstationAuthenticator PublicKey)) (n : DialNetwork PublicKey) :
    Prop where
  served : ∀ s ∈ n.served, ServedInv crypto workstations s
  dialed : ∀ r ∈ n.dialed, DialedInv crypto workstations n r
  sessions : SessionsDistinct n
  nonces : NoncesDistinct n

theorem inv_init : Inv crypto workstations init :=
  ⟨by simp [init], by simp [init], by simp [SessionsDistinct, init], by simp [NoncesDistinct, init]⟩

theorem created_eq_some {s : ServedConnection PublicKey} {binding : VeraMesh.SessionBinding}
    (h : created s = some binding) :
    ∃ client accept, s.outcome = some (client, .ok (accept, binding)) := by
  unfold created at h
  split at h
  · next client accept binding' hout =>
    obtain rfl := Option.some.inj h
    exact ⟨client, accept, hout⟩
  · cases h

theorem DialedInv.step {r : DialRun PublicKey} (h : DialedInv crypto workstations n r)
    (event : DialEvent PublicKey) : DialedInv crypto workstations (n.step crypto event) r := by
  refine ⟨h.sent, fun binding hout => ?_⟩
  obtain ⟨accept, nowMs, hverify, hunforged⟩ := h.verified binding hout
  exact ⟨accept, nowMs, hverify, hunforged.step event⟩

theorem ServedInv.handleClient {s : ServedConnection PublicKey}
    (h : ServedInv crypto workstations s) (client : VeraMesh.ClientAuth) (nowMs ttlMs : ℤ)
    (sessionId signature : String) : ServedInv crypto workstations
      (Network.handleClient crypto.toCrypto client nowMs ttlMs sessionId signature s) := by
  unfold Network.handleClient
  split
  · exact h
  · refine ⟨h.honest, fun client' accept binding hout => ?_⟩
    obtain ⟨rfl, haccept⟩ := Prod.mk.inj (Option.some.inj hout)
    exact ⟨nowMs, ttlMs, sessionId, signature, haccept⟩

theorem DialedInv.handleAccept {r : DialRun PublicKey} (h : DialedInv crypto workstations n r)
    {accept : ServerAccept}
    (hunforged : n.Unforged crypto workstations accept.signature accept.signatureBase)
    (nowMs : Int64) :
    DialedInv crypto workstations n (handleAccept crypto accept nowMs r) := by
  unfold DialNetwork.handleAccept
  split
  · exact h
  · refine ⟨h.sent, fun binding hout => ⟨accept, nowMs, Option.some.inj hout, hunforged⟩⟩

/-- Where a list element was modified, and where not. -/
theorem getElem?_modify_cases {α : Type} {f : α → α} {l : List α} {i j : ℕ} {b : α}
    (h : (l.modify i f)[j]? = some b) : l[j]? = some b ∨ i = j ∧ ∃ a, l[j]? = some a ∧ b = f a := by
  rw [List.getElem?_modify] at h
  obtain ⟨a, ha, hab⟩ := Option.map_eq_some_iff.mp h
  by_cases hij : i = j
  · rw [if_pos hij] at hab
    exact Or.inr ⟨hij, a, ha, hab.symm⟩
  · rw [if_neg hij] at hab
    exact Or.inl (hab ▸ ha)

/-- A new element is behind the old ones. -/
theorem getElem?_append_singleton_cases {α : Type} {l : List α} {a b : α} {j : ℕ}
    (h : (l ++ [a])[j]? = some b) : l[j]? = some b ∨ j = l.length ∧ b = a := by
  rw [List.getElem?_append] at h
  split_ifs at h with hlt
  · exact Or.inl h
  · rw [List.getElem?_singleton] at h
    split_ifs at h with hzero
    exact Or.inr ⟨by omega, (Option.some.inj h).symm⟩

/-- Each session id in the connections is that of a session created before, or the one just
drawn. -/
theorem created_handleClient {s : ServedConnection PublicKey} {client : VeraMesh.ClientAuth}
    {nowMs ttlMs : ℤ} {sessionId signature : String} {binding : VeraMesh.SessionBinding}
    (h : created (Network.handleClient crypto.toCrypto client nowMs ttlMs sessionId signature s) =
      some binding) : created s = some binding ∨ binding.sessionId = sessionId := by
  cases hout : s.outcome with
  | some outcome =>
    rw [Network.handleClient_of_some hout] at h
    exact Or.inl h
  | none =>
    obtain ⟨client', accept, hout'⟩ := created_eq_some h
    simp only [Network.handleClient, hout] at hout'
    obtain ⟨rfl, haccept⟩ := Prod.mk.inj (Option.some.inj hout')
    simp only [WorkstationAuthenticator.accept, bind_eq_ok, pure_eq_ok] at haccept
    obtain ⟨-, -, heq⟩ := haccept
    obtain ⟨rfl, rfl⟩ := Prod.mk.inj heq
    exact Or.inr rfl

/-- A session in the connections was there before, or has the id just drawn. -/
theorem created_modify {client : VeraMesh.ClientAuth} {nowMs ttlMs : ℤ}
    {sessionId signature : String} {i j : ℕ} {s : ServedConnection PublicKey}
    {binding : VeraMesh.SessionBinding}
    (hs : (n.served.modify i (Network.handleClient crypto.toCrypto client nowMs ttlMs sessionId
      signature))[j]? = some s) (hcreated : created s = some binding) :
    (∃ s₀, n.served[j]? = some s₀ ∧ created s₀ = some binding) ∨
      i = j ∧ binding.sessionId = sessionId := by
  rcases getElem?_modify_cases hs with hold | ⟨hij, s₀, hs₀, rfl⟩
  · exact Or.inl ⟨s, hold, hcreated⟩
  · rcases created_handleClient hcreated with hbefore | hdrawn
    · exact Or.inl ⟨s₀, hs₀, hbefore⟩
    · exact Or.inr ⟨hij, hdrawn⟩

theorem SessionsDistinct.accept (h : SessionsDistinct n) {client : VeraMesh.ClientAuth}
    {nowMs ttlMs : ℤ} {sessionId signature : String} {i : ℕ}
    (hfresh : ∀ s ∈ n.served, ∀ client accept binding,
      s.outcome = some (client, .ok (accept, binding)) → binding.sessionId ≠ sessionId) :
    SessionsDistinct (n.step crypto (.accept i client nowMs ttlMs sessionId signature)) := by
  have hold : ∀ (j : ℕ) (s : ServedConnection PublicKey) (b : VeraMesh.SessionBinding),
      n.served[j]? = some s → created s = some b → b.sessionId ≠ sessionId := by
    intro j s b hs hcreated
    obtain ⟨client, accept, hout⟩ := created_eq_some hcreated
    exact hfresh s (List.mem_of_getElem? hs) client accept b hout
  intro j k s t b c hs ht hb hc hsame
  rcases created_modify hs hb with ⟨s₀, hs₀, hb₀⟩ | ⟨hj, hbdrawn⟩
  · rcases created_modify ht hc with ⟨t₀, ht₀, hc₀⟩ | ⟨-, hcdrawn⟩
    · exact h j k s₀ t₀ b c hs₀ ht₀ hb₀ hc₀ hsame
    · exact absurd (hsame.trans hcdrawn) (hold j s₀ b hs₀ hb₀)
  · rcases created_modify ht hc with ⟨t₀, ht₀, hc₀⟩ | ⟨hk, -⟩
    · exact absurd (hsame.symm.trans hbdrawn) (hold k t₀ c ht₀ hc₀)
    · exact hj.symm.trans hk

theorem SessionsDistinct.challenge (h : SessionsDistinct n)
    (w : WorkstationAuthenticator PublicKey) (nonce : String) :
    SessionsDistinct (n.step crypto (.challenge w nonce)) := by
  have hold : ∀ (j : ℕ) (s : ServedConnection PublicKey) (b : VeraMesh.SessionBinding),
      (n.step crypto (.challenge w nonce)).served[j]? = some s → created s = some b →
        n.served[j]? = some s := by
    intro j s b hs hcreated
    rcases getElem?_append_singleton_cases hs with hs | ⟨-, rfl⟩
    · exact hs
    · cases hcreated
  exact fun j k s t b c hs ht hb hc hsame =>
    h j k s t b c (hold j s b hs hb) (hold k t c ht hc) hb hc hsame

theorem NoncesDistinct.dial (h : NoncesDistinct n) {config : ClientConfig PublicKey}
    {challenge : ServerChallenge} {nonce signature : GoString} {auth : ClientAuth}
    (hanswer : answerChallenge crypto config challenge nonce signature = .ok auth)
    (hfresh : ∀ r ∈ n.dialed, r.auth.clientNonce ≠ nonce) :
    NoncesDistinct { n with dialed := n.dialed ++ [⟨config, challenge, auth, none⟩] } := by
  have hnonce : auth.clientNonce = nonce := by
    simp only [answerChallenge, bind_eq_ok, require_eq_ok] at hanswer
    obtain ⟨-, -, hcreate⟩ := hanswer
    exact (createClientAuth_ok hcreate).2.1
  intro i j r q hr hq hsame
  rcases getElem?_append_singleton_cases hr with hr | ⟨hi, rfl⟩
  · rcases getElem?_append_singleton_cases hq with hq | ⟨-, rfl⟩
    · exact h i j r q hr hq hsame
    · exact absurd (hsame.trans hnonce) (hfresh r (List.mem_of_getElem? hr))
  · rcases getElem?_append_singleton_cases hq with hq | ⟨hj, -⟩
    · exact absurd (hsame.symm.trans hnonce) (hfresh q (List.mem_of_getElem? hq))
    · exact hi.trans hj.symm

theorem NoncesDistinct.verify (h : NoncesDistinct n) (i : ℕ) (accept : ServerAccept)
    (nowMs : Int64) : NoncesDistinct (n.step crypto (.verify i accept nowMs)) := by
  have hold : ∀ (j : ℕ) (r : DialRun PublicKey),
      (n.step crypto (.verify i accept nowMs)).dialed[j]? = some r →
        ∃ r₀, n.dialed[j]? = some r₀ ∧ r₀.auth = r.auth := by
    intro j r hr
    rcases getElem?_modify_cases hr with hr | ⟨-, r₀, hr₀, rfl⟩
    · exact ⟨r, hr, rfl⟩
    · refine ⟨r₀, hr₀, ?_⟩
      rw [handleAccept_eq]
  intro j k r q hr hq hsame
  obtain ⟨r₀, hr₀, hr⟩ := hold j r hr
  obtain ⟨q₀, hq₀, hq⟩ := hold k q hq
  exact h j k r₀ q₀ hr₀ hq₀ (by rw [hr, hq, hsame])

/-- One possible step keeps the invariant. -/
theorem Inv.step (h : Inv crypto workstations n) {event : DialEvent PublicKey}
    (hposs : n.Possible crypto workstations event) :
    Inv crypto workstations (n.step crypto event) := by
  have hdialed : ∀ r ∈ n.dialed, DialedInv crypto workstations (n.step crypto event) r :=
    fun r hr => (h.dialed r hr).step event
  cases event with
  | challenge w nonce =>
    refine ⟨fun s hs => ?_, hdialed, h.sessions.challenge w nonce, h.nonces⟩
    rcases List.mem_append.mp hs with hold | hnew
    · exact h.served s hold
    · obtain rfl := List.mem_singleton.mp hnew
      exact ⟨hposs, by simp⟩
  | dial config challenge nonce signature =>
    cases hanswer : answerChallenge crypto config challenge nonce signature with
    | error err =>
      -- the dial fails before it sends anything
      have hsame : n.step crypto (.dial config challenge nonce signature) = n := by
        simp only [DialNetwork.step, hanswer]
      rwa [hsame]
    | ok auth =>
      have hnext : n.step crypto (.dial config challenge nonce signature) =
          { n with dialed := n.dialed ++ [⟨config, challenge, auth, none⟩] } := by
        simp only [DialNetwork.step, hanswer]
      rw [hnext] at hdialed ⊢
      refine ⟨h.served, fun r hr => ?_, h.sessions, h.nonces.dial hanswer hposs⟩
      rcases List.mem_append.mp hr with hold | hnew
      · exact hdialed r hold
      · obtain rfl := List.mem_singleton.mp hnew
        exact ⟨⟨nonce, signature, hanswer⟩, by simp⟩
  | accept i client nowMs ttlMs sessionId signature =>
    refine ⟨fun s hs => ?_, hdialed, h.sessions.accept hposs, h.nonces⟩
    rcases Network.mem_modify hs with hold | ⟨s₀, hs₀, rfl⟩
    · exact h.served s hold
    · exact (h.served s₀ hs₀).handleClient client nowMs ttlMs sessionId signature
  | verify i accept nowMs =>
    refine ⟨h.served, fun r hr => ?_, h.sessions, h.nonces.verify i accept nowMs⟩
    rcases Network.mem_modify hr with hold | ⟨r₀, hr₀, rfl⟩
    · exact hdialed r hold
    · exact (hdialed r₀ hr₀).handleAccept (hposs.step _) nowMs

theorem Inv.run (events : List (DialEvent PublicKey)) (h : Inv crypto workstations n)
    (hposs : PossibleRun crypto workstations n events) :
    Inv crypto workstations (n.run crypto events) := by
  induction events generalizing n with
  | nil => exact h
  | cons event events ih => exact ih (h.step hposs.1) hposs.2

/-! ## What the signatures say -/

/-- What a workstation created is what it signed, for the nonce it was sent and its own challenge,
and names capabilities of its policy only. -/
theorem ServedInv.created {s : ServedConnection PublicKey} (h : ServedInv crypto workstations s)
    {client : VeraMesh.ClientAuth} {accept : VeraMesh.ServerAccept}
    {binding : VeraMesh.SessionBinding}
    (hout : s.outcome = some (client, .ok (accept, binding))) :
    accept.serverChallenge = s.challenge.challenge ∧ accept.clientNonce = client.clientNonce ∧
      binding = ⟨accept.sessionId, accept.controllerPrincipal, accept.workstationPrincipal,
        accept.grantedCapabilities.toFinset, accept.expiresAtMs⟩ ∧
      ∀ name ∈ accept.grantedCapabilities, VeraMesh.IsCapabilityName name := by
  obtain ⟨nowMs, ttlMs, sessionId, signature, haccept⟩ := h.accepted client accept binding hout
  obtain ⟨-, -, -, hceiling, -, hgranted, hbinding⟩ := WorkstationAuthenticator.accept_ok haccept
  have hfields : accept.serverChallenge = s.challenge.challenge ∧
      accept.clientNonce = client.clientNonce := by
    simp only [WorkstationAuthenticator.accept, bind_eq_ok, pure_eq_ok] at haccept
    obtain ⟨-, -, heq⟩ := haccept
    obtain ⟨rfl, -⟩ := Prod.mk.inj heq
    exact ⟨rfl, rfl⟩
  refine ⟨hfields.1, hfields.2, hbinding, fun name hname => ?_⟩
  have hmem : name ∈ binding.grantedCapabilities := by
    rw [hbinding]
    exact List.mem_toFinset.mpr hname
  rw [hgranted] at hmem
  exact Network.WorkstationAuthenticator.isCapabilityName_ceiling (hceiling hmem)

/-- A dial asks for the capabilities of its configuration, with its nonce and the challenge it
read. -/
theorem DialedInv.asked {r : DialRun PublicKey} (h : DialedInv crypto workstations n r) :
    r.auth.requestedCapabilities = normalizeCapabilities r.config.requestedCapabilities := by
  obtain ⟨nonce, signature, hanswer⟩ := h.sent
  simp only [answerChallenge, bind_eq_ok, require_eq_ok] at hanswer
  obtain ⟨-, -, hcreate⟩ := hanswer
  exact (createClientAuth_ok hcreate).2.2

theorem Inv.agrees (h : Inv crypto workstations n) : Agrees workstations n := by
  intro r hr binding hout w hw hpin
  have hinv := h.dialed r hr
  obtain ⟨accept, nowMs, hverify, hunforged⟩ := hinv.verified binding hout
  obtain ⟨hchallenge, hnonce, hrequested, hsig, hbinding⟩ := verifyServerAccept_ok hverify
  rw [hinv.asked] at hrequested
  have hasked : ∀ name ∈ accept.grantedCapabilities, name ∈ r.config.requestedCapabilities :=
    fun name hname => mem_normalizeCapabilities.mp (hrequested name hname)
  have hsubset : binding.grantedCapabilities ⊆ r.config.requestedCapabilities.toFinset := by
    rw [hbinding]
    exact fun name hname => List.mem_toFinset.mpr (hasked name (List.mem_toFinset.mp hname))
  refine ⟨hsubset, ?_⟩
  rcases hunforged w hw (hpin ▸ hsig) with
    ⟨q, -, -, hbytes⟩ | ⟨s, hs, hkey, client, accept', created, hout', hbytes⟩
  · -- what dials sign is in another domain
    exact absurd hbytes (ClientAuth.signatureBase_ne _ _)
  · obtain ⟨hchallenge', hnonce', hcreated, hnames'⟩ := (h.served s hs).created hout'
    obtain ⟨hsession, hcontroller, hworkstation, hsame, hsameNonce, hcaps, hexpires⟩ :=
      ServerAccept.fields_of_signatureBytes
        (fun name hname => r.config.isCapabilityName name (hasked name hname)) hnames' hbytes
    refine ⟨s, hs, hkey, ?_, client, accept', created, hout', ?_, ?_⟩
    · rw [← hchallenge', ← hsame, hchallenge]
    · rw [← hnonce', ← hsameNonce, hnonce]
    · rw [hbinding, hcreated]
      exact ⟨hsession, hcontroller, hworkstation, hcaps, hexpires⟩

theorem Inv.distinct (h : Inv crypto workstations n) : Distinct workstations n := by
  intro i j r q binding hr hq hrout hqout ⟨w, hw, hwpin⟩ ⟨v, hv, hvpin⟩
  obtain ⟨-, s, hs, -, -, client, accept, created, hsout, hrnonce, hrmatch⟩ :=
    h.agrees r (List.mem_of_getElem? hr) binding hrout w hw hwpin
  obtain ⟨-, t, ht, -, -, client', accept', created', htout, hqnonce, hqmatch⟩ :=
    h.agrees q (List.mem_of_getElem? hq) binding hqout v hv hvpin
  obtain ⟨k, hk⟩ := List.mem_iff_getElem?.mp hs
  obtain ⟨l, hl⟩ := List.mem_iff_getElem?.mp ht
  -- one session id, so one connection, which answered one nonce
  have hsession : created.sessionId = created'.sessionId :=
    utf8_toList_inj.mp (hrmatch.sessionId.symm.trans hqmatch.sessionId)
  have hsame : k = l := h.sessions k l s t created created' hk hl
    (by simp [DialNetwork.created, hsout]) (by simp [DialNetwork.created, htout]) hsession
  subst hsame
  obtain rfl := Option.some.inj (hk.symm.trans hl)
  obtain ⟨rfl, -⟩ := Prod.mk.inj (Option.some.inj (hsout.symm.trans htout))
  exact h.nonces i j r q hr hq (hrnonce.symm.trans hqnonce)

end DialNetwork

/-- **Agreement of dials and workstations.** In every run in which no signature of a workstation is
forged and random texts are new, a binding that a dial with an honest pinned workstation returns was
created by that workstation for the nonce and the challenge of the dial, with the same values, and
grants no more than was requested; and no two such dials return the same binding. -/
theorem dial_agrees (crypto : SharedCrypto PublicKey)
    (workstations : List (WorkstationAuthenticator PublicKey))
    (events : List (DialEvent PublicKey))
    (hposs : DialNetwork.PossibleRun crypto workstations .init events) :
    Agrees workstations (DialNetwork.init.run crypto events) ∧
      Distinct workstations (DialNetwork.init.run crypto events) := by
  have hinv := DialNetwork.inv_init.run events hposs
  exact ⟨hinv.agrees, hinv.distinct⟩

/-! ## A dial -/

/-- Keys stand for their digests, and signatures show the key and the text, in both languages. -/
def exampleCrypto : SharedCrypto String where
  toCrypto := Network.exampleCrypto
  verifyP1363 key signature bytes := signature == text key ++ (text "|" ++ bytes)

def exampleConfig : ClientConfig String where
  controllerKey := "c"
  workstationKey := "w"
  requestedCapabilities := [text "fs.read"]
  isCapabilityName name hname := by
    obtain rfl := List.mem_singleton.mp hname
    exact isCapabilityName_text ⟨by decide, by decide⟩

/-- The challenge frame of the workstation. -/
def exampleChallenge : ServerChallenge where
  frameType := text "server_challenge"
  protocolVersion := text "veraport-v1"
  workstationPrincipal := text "workstation:w"
  workstationKeyId := text "w"
  challenge := text Network.exampleNonce

/-- A dial in which all frames arrive. -/
def exampleEvents : List (DialEvent String) :=
  [.challenge Network.exampleWorkstation Network.exampleNonce,
    .dial exampleConfig exampleChallenge (text Network.exampleNonce)
      (text Network.exampleClient.signature),
    .accept 0 Network.exampleClient 0 300000 "s" Network.exampleAccept.signature,
    .verify 0 (.ofPython Network.exampleAccept 300000) 0]

/-- The dial sends the message that the workstation accepts. -/
theorem answerChallenge_exampleConfig :
    answerChallenge exampleCrypto exampleConfig exampleChallenge (text Network.exampleNonce)
      (text Network.exampleClient.signature) = .ok (.ofPython Network.exampleClient) := by
  have hprincipal : text "controller:c" = principalID exampleCrypto "c" "controller" := by
    decide +kernel
  have hlength : rawURLLength (text Network.exampleNonce) = some 32 := by decide +kernel
  simp only [answerChallenge, createClientAuth, bind_eq_ok, require_eq_ok, pure_eq_ok, exists_const]
  refine ⟨⟨by decide +kernel, rfl⟩, ⟨rfl, rfl⟩, hlength, ?_⟩
  simp only [ClientAuth.ofPython, ← hprincipal, exampleConfig, exampleChallenge]
  rfl

/-- The signature of the example scheme verifies in Go as well. -/
theorem verifyP1363_exampleAccept :
    exampleCrypto.verifyP1363 "w" (ServerAccept.ofPython Network.exampleAccept 300000).signature
      (ServerAccept.ofPython Network.exampleAccept 300000).signatureBase = true := by
  have hbytes : (ServerAccept.ofPython Network.exampleAccept 300000).signatureBase =
      utf8 Network.exampleAccept.signatureBase := by
    rw [ServerAccept.signatureBase_ofPython rfl, VeraMesh.ServerAccept.signatureBytes_eq]
  have htext : text Network.exampleAccept.signature =
      text "w" ++ (text "|" ++ utf8 Network.exampleAccept.signatureBase) := by
    rw [Network.exampleAccept_signature, Network.exampleSign, text, String.toList_ofList,
      utf8_append, ← List.singleton_append, utf8_append]
    rfl
  have hsignature : (ServerAccept.ofPython Network.exampleAccept 300000).signature =
      text Network.exampleAccept.signature := by rw [ServerAccept.ofPython]
  rw [hbytes, hsignature, htext]
  exact beq_self_eq_true _

/-- The workstation handles the message of the dial before the dial hears from it. -/
theorem run_exampleEvents_take :
    DialNetwork.init.run exampleCrypto (exampleEvents.take 3) = ⟨[Network.exampleServed],
      [⟨exampleConfig, exampleChallenge, .ofPython Network.exampleClient, none⟩]⟩ := by
  have hdial : ∀ n : DialNetwork String, n.step exampleCrypto (.dial exampleConfig exampleChallenge
      (text Network.exampleNonce) (text Network.exampleClient.signature)) = { n with
        dialed := n.dialed ++
          [⟨exampleConfig, exampleChallenge, .ofPython Network.exampleClient, none⟩] } := by
    intro n
    simp only [DialNetwork.step, answerChallenge_exampleConfig]
  rw [Network.exampleServed, ← Network.accept_exampleClient]
  simp only [DialNetwork.run, exampleEvents, List.take, List.foldl_cons, List.foldl_nil, hdial]
  rfl

/-- The example run forges nothing, and draws nothing twice. -/
theorem possibleRun_exampleEvents :
    DialNetwork.PossibleRun exampleCrypto [Network.exampleWorkstation] .init exampleEvents := by
  refine ⟨List.mem_singleton.mpr rfl, by simp [DialNetwork.Possible, DialNetwork.step,
    DialNetwork.init], ?_, ?_, trivial⟩
  · simp [DialNetwork.Possible, DialNetwork.step, DialNetwork.init, answerChallenge_exampleConfig]
  · intro w hw _
    obtain rfl := List.mem_singleton.mp hw
    have hsigned : Network.exampleAccept.signatureBytes =
        (ServerAccept.ofPython Network.exampleAccept 300000).signatureBase :=
      (ServerAccept.signatureBase_ofPython rfl).symm
    have hrun := run_exampleEvents_take
    refine Or.inr ⟨Network.exampleServed, ?_, rfl, _, _, _, rfl, hsigned⟩
    show Network.exampleServed ∈
      (DialNetwork.init.run exampleCrypto (exampleEvents.take 3)).served
    rw [hrun]
    exact List.mem_singleton.mpr rfl

/-- The dial of the example run returns a binding. -/
theorem outcome_exampleEvents :
    ∃ r binding, (DialNetwork.init.run exampleCrypto exampleEvents).dialed = [r] ∧
      r.outcome = some (.ok binding) ∧ r.config.workstationKey = "w" := by
  have hrun : DialNetwork.init.run exampleCrypto exampleEvents =
      (DialNetwork.init.run exampleCrypto (exampleEvents.take 3)).step exampleCrypto
        (.verify 0 (.ofPython Network.exampleAccept 300000) 0) := rfl
  have hverify : verifyServerAccept exampleCrypto exampleChallenge
      (.ofPython Network.exampleClient) (.ofPython Network.exampleAccept 300000) "w" 0 =
        .ok ⟨text "s", text "controller:c", text "workstation:w", {text "fs.read"}, 300000⟩ := by
    have hprincipal : text "workstation:w" = principalID exampleCrypto "w" "workstation" := by
      decide +kernel
    simp only [verifyServerAccept, bind_eq_ok, require_eq_ok, pure_eq_ok, exists_const,
      grantedSet_eq_ok]
    refine ⟨rfl, ⟨rfl, rfl, rfl⟩, ⟨hprincipal, rfl, hprincipal, rfl⟩, rfl, ⟨rfl, rfl⟩,
      {text "fs.read"}, ⟨?_, rfl⟩, by decide, ?_⟩
    · have hgranted : (ServerAccept.ofPython Network.exampleAccept 300000).grantedCapabilities =
          (ClientAuth.ofPython Network.exampleClient).requestedCapabilities := rfl
      rw [hgranted]
      exact fun name hname => hname
    · exact ⟨verifyP1363_exampleAccept, rfl⟩
  rw [hrun, run_exampleEvents_take]
  exact ⟨_, _, rfl, congrArg some hverify, rfl⟩

theorem dial_agrees_exampleEvents :
    (∃ r binding, (DialNetwork.init.run exampleCrypto exampleEvents).dialed = [r] ∧
      r.outcome = some (.ok binding) ∧ r.config.workstationKey = "w") ∧
    Agrees [Network.exampleWorkstation] (DialNetwork.init.run exampleCrypto exampleEvents) ∧
    Distinct [Network.exampleWorkstation] (DialNetwork.init.run exampleCrypto exampleEvents) :=
  ⟨outcome_exampleEvents, dial_agrees exampleCrypto [Network.exampleWorkstation] exampleEvents
    possibleRun_exampleEvents⟩

end VeraMesh.Veraport
