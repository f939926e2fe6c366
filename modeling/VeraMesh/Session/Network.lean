import VeraMesh.Session.Handshake

/-!
# Handshakes on a network

Any number of honest controllers and workstations run handshakes with anyone, at the same time. The
network belongs to an attacker, who also plays all dishonest parties: each message that an honest
party reads is whatever the attacker makes it. Only signatures of honest keys are out of reach
(`Unforged`): one that verifies was made by a holder of the key.

`serve_tls_connection` and `open_tls_session` are cut at their waits: a workstation sends its
challenge and later handles one client message, a controller reads a challenge, signs, and later
handles one accept message.
-/

namespace VeraMesh

open Python

/-- What a controller calls `open_tls_session` with. -/
structure OpenArguments (PublicKey : Type) where
  /-- The public half of the controller's key. -/
  controllerKey : PublicKey
  /-- The pinned key. -/
  workstationKey : PublicKey
  requestedCapabilities : List String
  isCapabilityName : ∀ name ∈ requestedCapabilities, IsCapabilityName name

/-- The honest parties. -/
structure Parties (PublicKey : Type) where
  controllers : List PublicKey
  workstations : List (WorkstationAuthenticator PublicKey)

/-- The key belongs to an honest party. -/
def Parties.Honest {PublicKey : Type} (p : Parties PublicKey) (key : PublicKey) : Prop :=
  key ∈ p.controllers ∨ ∃ w ∈ p.workstations, w.workstationKey = key

/-- A connection served by an honest workstation. -/
structure ServedConnection (PublicKey : Type) where
  workstation : WorkstationAuthenticator PublicKey
  challenge : ServerChallenge
  /-- The client message that was handled, and what `accept` made of it. -/
  outcome : Option (ClientAuth × Except PyError (ServerAccept × SessionBinding))

/-- A run of `open_tls_session` of an honest controller. -/
structure OpenRun (PublicKey : Type) where
  arguments : OpenArguments PublicKey
  challenge : ServerChallenge
  clientAuth : ClientAuth
  /-- What `verify_server_accept` made of the accept message. -/
  outcome : Option (Except PyError SessionBinding)

/-- All handshakes so far. -/
structure Network (PublicKey : Type) where
  served : List (ServedConnection PublicKey)
  opened : List (OpenRun PublicKey)

/-- One step of an honest party, with the messages it reads and the random texts it draws. -/
inductive HandshakeEvent (PublicKey : Type) where
  /-- A workstation challenges a new connection. -/
  | challenge (workstation : WorkstationAuthenticator PublicKey) (nonce : String)
  /-- A controller reads a challenge and signs. -/
  | authenticate (arguments : OpenArguments PublicKey) (challenge : ServerChallenge)
      (clientNonce signature : String)
  /-- The workstation of connection `i` handles a client message. -/
  | accept (i : ℕ) (client : ClientAuth) (nowMs ttlMs : ℤ) (sessionId signature : String)
  /-- The controller of run `i` handles an accept message. -/
  | verify (i : ℕ) (accept : ServerAccept) (nowMs : ℤ)

namespace Network

variable {PublicKey : Type} (crypto : Crypto PublicKey) (p : Parties PublicKey)

/-- Before the first handshake. -/
def init : Network PublicKey := ⟨[], []⟩

/-- The connection after its client message. -/
def handleClient (client : ClientAuth) (nowMs ttlMs : ℤ) (sessionId signature : String)
    (s : ServedConnection PublicKey) : ServedConnection PublicKey :=
  match s.outcome with
  | some _ => s
  | none => { s with outcome := some (client,
      s.workstation.accept crypto s.challenge client nowMs ttlMs sessionId signature) }

/-- The run after its accept message. -/
def handleAccept (accept : ServerAccept) (nowMs : ℤ) (r : OpenRun PublicKey) : OpenRun PublicKey :=
  match r.outcome with
  | some _ => r
  | none => { r with outcome := some (verifyServerAccept crypto r.challenge r.clientAuth accept
      r.arguments.workstationKey nowMs) }

/-- The run that begins with a challenge. -/
def openRun (arguments : OpenArguments PublicKey) (challenge : ServerChallenge)
    (clientNonce signature : String) : OpenRun PublicKey where
  arguments := arguments
  challenge := challenge
  clientAuth := .create crypto arguments.controllerKey challenge.workstationPrincipal
    challenge.challenge arguments.requestedCapabilities clientNonce signature
  outcome := none

/-- The network after a step. -/
def step (n : Network PublicKey) : HandshakeEvent PublicKey → Network PublicKey
  | .challenge w nonce =>
    { n with served := n.served ++ [⟨w, .create crypto w.workstationKey nonce, none⟩] }
  | .authenticate arguments challenge clientNonce signature =>
    { n with opened := n.opened ++ [openRun crypto arguments challenge clientNonce signature] }
  | .accept i client nowMs ttlMs sessionId signature =>
    let handle := handleClient crypto client nowMs ttlMs sessionId signature
    { n with served := n.served.modify i handle }
  | .verify i accept nowMs =>
    let handle := handleAccept crypto accept nowMs
    { n with opened := n.opened.modify i handle }

/-- The text was signed with the key, by an honest party. -/
def Signed (n : Network PublicKey) (key : PublicKey) (text : List Char) : Prop :=
  (∃ r ∈ n.opened, r.arguments.controllerKey = key ∧ r.clientAuth.signatureBase = text) ∨
    ∃ s ∈ n.served, s.workstation.workstationKey = key ∧ ∃ client accept binding,
      s.outcome = some (client, .ok (accept, binding)) ∧ accept.signatureBase = text

/-- No one forges a signature of an honest party. -/
def Unforged (n : Network PublicKey) (signature : String) (text : List Char) : Prop :=
  ∀ key, p.Honest key → crypto.verify key signature text = true → n.Signed key text

/-- What can happen next: only the honest parties take part as such, and the attacker forges none of
their signatures. -/
def Possible (n : Network PublicKey) : HandshakeEvent PublicKey → Prop
  | .challenge w _ => w ∈ p.workstations
  | .authenticate arguments _ _ _ => arguments.controllerKey ∈ p.controllers
  | .accept _ client _ _ _ _ => n.Unforged crypto p client.signature client.signatureBase
  | .verify _ accept _ => n.Unforged crypto p accept.signature accept.signatureBase

/-- The network after a run of steps. -/
def run (n : Network PublicKey) (events : List (HandshakeEvent PublicKey)) : Network PublicKey :=
  events.foldl (step crypto) n

/-- Every step of the run is possible where it happens. -/
def PossibleRun : Network PublicKey → List (HandshakeEvent PublicKey) → Prop
  | _, [] => True
  | n, event :: events => n.Possible crypto p event ∧ PossibleRun (n.step crypto event) events

end Network

end VeraMesh
