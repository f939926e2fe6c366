import VeraMesh.Tunnel.Runtime

/-!
# The service under supervision

However the commands of the tunnel runtime service end, and whenever it is told to stop:

* It is idle only after the runtime was seen running and healthy (`Follows.idle`).
* It connects only if the last status said that the runtime is gone or could not be read, or after
  it has tried to stop a runtime that was not healthy.
* It ends only because it is told to, or for one of a few failures (`Fatal`), and then with one last
  attempt to stop the runtime (`supervision`).
-/

namespace VeraMesh.Tunnel

open Python Except Coroutine

/-! ## Histories -/

/-- Which event may come after which. -/
inductive Follows : TunnelEvent → TunnelEvent → Prop
  | idle {fresh s stopped} (h : s.usable = true) :
      Follows (.status fresh (.ok s)) (.wait stopped)
  | poll {found} : Follows (.wait false) (.status false found)
  /-- A runtime that is there without being healthy is stopped. -/
  | stop {s outcome} (hrunning : s.processRunning = true) (husable : s.usable = false) :
      Follows (.status false (.ok s)) (.stop outcome)
  | reconnect {s outcome} (hgone : s.processRunning = false) :
      Follows (.status false (.ok s)) (.connect outcome)
  | reconnectUnknown {message outcome} :
      Follows (.status false (.error (.service message))) (.connect outcome)
  | reconnectStopped {outcome} : Follows (.stop (.ok ())) (.connect outcome)
  /-- A failure to stop is not taken for one to connect. -/
  | reconnectAnyway {message outcome} :
      Follows (.stop (.error (.service message))) (.connect outcome)
  | confirm {found} : Follows (.connect (.ok ())) (.status true found)

/-- Every event may come after the one before, and the first is a reading of the status. -/
structure Supervised (h : List TunnelEvent) : Prop where
  chain : h.IsChain Follows
  first : ∀ e ∈ h.head?, ∃ found, e = .status false found

/-- The failures that end the service. -/
inductive Fatal : TunnelEvent → TunnelError → Prop
  | poll {cause} : Fatal (.status false (.error (.raised cause))) (.raised cause)
  | stop {cause} : Fatal (.stop (.error (.raised cause))) (.raised cause)
  | connect {err} : Fatal (.connect (.error err)) err
  | confirm {err} : Fatal (.status true (.error err)) err
  | unusable {s message} (h : s.usable = false) : Fatal (.status true (.ok s)) (.service message)

/-- The service is idle: the runtime was just seen running and healthy. -/
def Serving (h : List TunnelEvent) : Prop :=
  Supervised h ∧ ∃ fresh s, h.getLast? = some (.status fresh (.ok s)) ∧ s.usable = true

/-- The service was just told to stop. -/
def Stopped (h : List TunnelEvent) : Prop := Supervised h ∧ h.getLast? = some (.wait true)

/-- The last event ends the service. -/
def Failed (err : TunnelError) (h : List TunnelEvent) : Prop :=
  Supervised h ∧ ∃ e, h.getLast? = some e ∧ Fatal e err

/-- What the service has done when its loop is where the outcome says. -/
def Supervision : Except TunnelError Bool → List TunnelEvent → Prop
  | .ok false, h => Serving h
  | .ok true, h => ∃ body outcome, h = body ++ [.stop outcome] ∧ Stopped body
  | .error err, h => ∃ body outcome, h = body ++ [.stop outcome] ∧ Failed err body

/-- The service is about to read the status. -/
def Polls (h : List TunnelEvent) : Prop :=
  Supervised h ∧ ∀ e ∈ h.getLast?, e = .wait false

theorem polls_nil : Polls [] := ⟨⟨.nil, by simp⟩, by simp⟩

/-- One more event. -/
theorem Supervised.concat {h : List TunnelEvent} {e last : TunnelEvent} (hs : Supervised h)
    (hlast : h.getLast? = some last) (hfollows : Follows last e) : Supervised (h ++ [e]) := by
  have hne : h ≠ [] := by
    rintro rfl
    simp at hlast
  refine ⟨List.isChain_append.mpr ⟨hs.chain, .singleton e, fun a ha b hb => ?_⟩, fun a ha => ?_⟩
  · rw [hlast] at ha
    rw [← Option.some.inj ha, ← Option.some.inj hb]
    exact hfollows
  · rw [List.head?_append_of_ne_nil _ hne] at ha
    exact hs.first a ha

/-- A reading of the status, where it is due. -/
theorem Polls.concat {h : List TunnelEvent} (hp : Polls h)
    (found : Except TunnelError RuntimeStatus) : Supervised (h ++ [.status false found]) := by
  cases hlast : h.getLast? with
  | none =>
    rw [List.getLast?_eq_none_iff.mp hlast]
    exact ⟨.singleton _, by simp⟩
  | some last =>
    refine hp.1.concat hlast ?_
    rw [hp.2 last hlast]
    exact .poll

/-! ## The steps of the service -/

namespace TunnelHost

variable (host : TunnelHost) (c : TunnelRuntimeServiceConfig)

/-- Nothing interferes with the service. -/
abbrev Keeps {α : Type} (A : List TunnelEvent → Prop) (step : TunnelTask α)
    (B : α → List TunnelEvent → Prop) (E : TunnelError → List TunnelEvent → Prop) : Prop :=
  Triple (.alone (List TunnelEvent) TunnelAwait TunnelAwait.Answer) 0 A step B E

/-- A step that leaves the history to others. -/
def Silent {α : Type} (step : TunnelTask α) : Prop :=
  ∀ A, Keeps A step (fun _ => A) fun _ => A

theorem silent_ofResult {α : Type} (x : Except TunnelError α) : Silent (ofResult x) :=
  fun _ => .ofResult (fun _ _ _ _ h => h) fun _ _ _ _ h => h

theorem silent_run (args : List String) : Silent (host.run c args) := by
  intro A
  refine Triple.bind (.answer (stable_alone A) fun _ _ _ h _ => h) fun result => ?_
  cases result with
  | raised err => exact .throw fun _ _ h => h
  | completed returncode stdout =>
    exact Triple.ite (fun _ => .throw fun _ _ h => h) fun _ => .pure fun _ _ h => h

/-- A recorded step adds its event. -/
theorem keeps_recorded {α : Type} {event : Except TunnelError α → TunnelEvent}
    {step : TunnelTask α} (hstep : Silent step) (h : List TunnelEvent) :
    Keeps (· = h) (recorded event step) (fun a => (· = h ++ [event (.ok a)]))
      fun err => (· = h ++ [event (.error err)]) := by
  have hattempt : Keeps (· = h) (attempt step) (fun _ => (· = h))
      fun err => (· = h ++ [event (.error err)]) :=
    (hstep (· = h)).attempt.post fun outcome s _ hs => by cases outcome <;> exact hs
  refine hattempt.bind fun outcome => ?_
  refine Triple.bind (B := fun _ => (· = h ++ [event outcome])) ?_ fun _ => ?_
  · refine .update fun s _ hs => ⟨Contract.guarantee_alone _ _, ?_⟩
    rw [hs]
  · refine .ofResult (fun a ha s _ hs => ?_) fun err herr s _ hs => ?_
    · rw [← ha]
      exact hs
    · rw [← herr]
      exact hs

theorem keeps_readStatus (fresh : Bool) (h : List TunnelEvent) :
    Keeps (· = h) (host.readStatus c fresh) (fun s => (· = h ++ [.status fresh (.ok s)]))
      fun err => (· = h ++ [.status fresh (.error err)]) :=
  keeps_recorded (fun A => (silent_run host c _ A).bind fun _ => silent_ofResult _ A) h

theorem keeps_stopRuntime (h : List TunnelEvent) :
    Keeps (· = h) (host.stopRuntime c) (fun _ => (· = h ++ [.stop (.ok ())]))
      fun err => (· = h ++ [.stop (.error err)]) :=
  keeps_recorded (fun A => (silent_run host c _ A).bind fun _ => .pure fun _ _ hs => hs) h

theorem keeps_connectRuntime (h : List TunnelEvent) :
    Keeps (· = h) (host.connectRuntime c) (fun _ => (· = h ++ [.connect (.ok ())]))
      fun err => (· = h ++ [.connect (.error err)]) := by
  refine keeps_recorded (fun A => ?_) h
  refine (silent_ofResult _ A).bind fun args => ?_
  exact (silent_run host c args A).bind fun _ => .pure fun _ _ hs => hs

/-- After `restore` the runtime is usable, or the service ends. -/
theorem keeps_reconnect (message : String) {h : List TunnelEvent} {last : TunnelEvent}
    (hs : Supervised h) (hlast : h.getLast? = some last)
    (hfollows : ∀ outcome, Follows last (.connect outcome)) :
    Keeps (· = h)
      (do
        host.connectRuntime c
        let status ← host.readStatus c true
        if ¬status.usable then throw (.service message))
      (fun _ => Serving) Failed := by
  have hconnect : ∀ outcome, Supervised (h ++ [.connect outcome]) :=
    fun outcome => hs.concat hlast (hfollows outcome)
  have hconfirm : ∀ found, Supervised (h ++ [.connect (.ok ())] ++ [.status true found]) :=
    fun found => (hconnect _).concat List.getLast?_concat .confirm
  refine Triple.bind ((keeps_connectRuntime host c h).conseq (fun _ _ hs => hs)
    (fun _ _ _ hs => hs) fun err s _ hs => ?_) fun _ => ?_
  · rw [hs]
    exact ⟨hconnect _, _, List.getLast?_concat, .connect⟩
  refine Triple.bind ((keeps_readStatus host c true _).conseq (fun _ _ hs => hs)
    (fun _ _ _ hs => hs) fun err s _ hs => ?_) fun status => ?_
  · rw [hs]
    exact ⟨hconfirm _, _, List.getLast?_concat, .confirm⟩
  refine Triple.ite (fun husable => .throw fun s _ hs => ?_) fun husable => .pure fun s _ hs => ?_
  · rw [hs]
    exact ⟨hconfirm _, _, List.getLast?_concat, .unusable (Bool.eq_false_iff.mpr husable)⟩
  · rw [hs]
    exact ⟨hconfirm _, true, status, List.getLast?_concat, not_not.mp husable⟩

theorem keeps_restore (message : String) {h : List TunnelEvent} {last : TunnelEvent}
    (hs : Supervised h) (hlast : h.getLast? = some last)
    (status : Option RuntimeStatus)
    (hstop : (status.map (·.processRunning)).getD false = true →
      ∀ outcome, Follows last (.stop outcome))
    (hconnect : (status.map (·.processRunning)).getD false = false →
      ∀ outcome, Follows last (.connect outcome)) :
    Keeps (· = h) (host.restore c message status) (fun _ => Serving) Failed := by
  refine Triple.ite (fun hrunning => ?_) fun hrunning => ?_
  · have hstopped : ∀ outcome, Supervised (h ++ [.stop outcome]) :=
      fun outcome => hs.concat hlast (hstop hrunning outcome)
    refine Triple.bind (B := fun _ h' => ∃ outcome, h' = h ++ [.stop outcome] ∧
      ∀ next, Follows (.stop outcome) (.connect next)) ?_ fun _ => ?_
    · refine Triple.tryCatch (E := fun err => (· = h ++ [.stop (.error err)]))
        ((keeps_stopRuntime host c h).post fun _ s _ hs => ⟨_, hs, fun _ => .reconnectStopped⟩)
        fun err => ?_
      cases err with
      | service text => exact .pure fun s _ hs => ⟨_, hs, fun _ => .reconnectAnyway⟩
      | raised cause =>
        refine .throw fun s _ hs => ?_
        rw [hs]
        exact ⟨hstopped _, _, List.getLast?_concat, .stop⟩
    · refine .of_start ?_
      rintro s - ⟨outcome, rfl, hnext⟩
      exact keeps_reconnect host c message (hstopped outcome) List.getLast?_concat hnext
  · exact keeps_reconnect host c message hs hlast (hconnect (Bool.eq_false_iff.mpr hrunning))

/-- A reading of the status that may fail. -/
theorem keeps_pollStatus (h : List TunnelEvent) :
    Keeps (· = h) (host.pollStatus c)
      (fun found h' => (∃ s, found = some s ∧ h' = h ++ [.status false (.ok s)]) ∨
        ∃ message, found = none ∧ h' = h ++ [.status false (.error (.service message))])
      fun err h' => ∃ cause, err = .raised cause ∧
        h' = h ++ [.status false (.error (.raised cause))] := by
  refine Triple.tryCatch (E := fun err => (· = h ++ [.status false (.error err)])) ?_
    fun err => ?_
  · exact (keeps_readStatus host c false h).bind fun s => .pure fun _ _ hs => .inl ⟨s, rfl, hs⟩
  · cases err with
    | service message => exact .pure fun _ _ hs => .inr ⟨message, rfl, hs⟩
    | raised cause => exact .throw fun _ _ hs => ⟨cause, rfl, hs⟩

/-- A check leaves a usable runtime, or the service ends. -/
theorem keeps_check (message : String) :
    Keeps Polls (host.check c message) (fun _ => Serving) Failed := by
  refine .of_start fun h _ hpolls => ?_
  refine Triple.bind ((keeps_pollStatus host c h).conseq (fun _ _ hs => hs) (fun _ _ _ hs => hs)
    fun err s _ hs => ?_) fun found => ?_
  · obtain ⟨cause, rfl, rfl⟩ := hs
    exact ⟨hpolls.concat _, _, List.getLast?_concat, .poll⟩
  · refine Triple.ite (fun husable => .pure fun h' _ hs => ?_) fun husable => ?_
    · rcases hs with ⟨s, rfl, rfl⟩ | ⟨text, rfl, -⟩
      · exact ⟨hpolls.concat _, false, s, List.getLast?_concat, husable⟩
      · cases husable
    · refine .of_start ?_
      rintro h' - (⟨s, rfl, rfl⟩ | ⟨text, rfl, rfl⟩)
      · refine keeps_restore host c message (hpolls.concat _) List.getLast?_concat (some s)
          (fun hrunning _ => ?_) (fun hgone _ => .reconnect hgone)
        exact .stop hrunning (Bool.eq_false_iff.mpr husable)
      · exact keeps_restore host c message (hpolls.concat _) List.getLast?_concat none
          (by simp) (fun _ _ => .reconnectUnknown)

/-- The loop: one round, and then by induction any number of them. -/
theorem keeps_serve (rounds : ℕ) :
    Keeps Serving (host.serve c rounds)
      (fun told h => if told = true then Stopped h else Serving h) Failed := by
  induction rounds with
  | zero => exact .pure fun _ _ hs => hs
  | succ rounds ih =>
    refine .of_start fun h _ hserving => ?_
    obtain ⟨hs, fresh, s, hlast, husable⟩ := hserving
    have hwait : ∀ stopped, Supervised (h ++ [.wait stopped]) :=
      fun stopped => hs.concat hlast (.idle husable)
    refine Triple.bind (.answer (stable_alone (· = h)) fun _ _ _ hs _ => hs) fun stopped => ?_
    refine Triple.bind (B := fun _ => (· = h ++ [.wait stopped]))
      (.update fun s _ hs => ⟨Contract.guarantee_alone _ _, by rw [hs]⟩) fun _ => ?_
    refine Triple.ite (fun hstopped => .pure fun s _ hs => ?_) fun hstopped => ?_
    · rw [hs, if_pos rfl, hstopped]
      exact ⟨hwait _, List.getLast?_concat⟩
    · refine Triple.bind ((keeps_check host c _).pre fun s _ hs => ?_) fun _ => ih
      rw [hs, Bool.eq_false_iff.mpr hstopped]
      exact ⟨hwait _, by simp⟩

/-- The last attempt to stop the runtime does no harm. -/
theorem keeps_finish (h : List TunnelEvent) :
    Keeps (· = h) (host.finish c) (fun _ h' => ∃ outcome, h' = h ++ [.stop outcome])
      fun _ _ => False :=
  Triple.tryCatch ((keeps_stopRuntime host c h).post fun _ _ _ hs => ⟨_, hs⟩)
    fun _ => .pure fun _ _ hs => ⟨_, hs⟩

theorem keeps_supervise (rounds : ℕ) :
    Keeps Polls (host.supervise c rounds) (fun told => Supervision (.ok told))
      fun err => Supervision (.error err) := by
  refine Triple.bind
    (Triple.attempt ((keeps_check host c _).bind fun _ => keeps_serve host c rounds))
    fun outcome => ?_
  have hfinish : ∀ outcome : Except TunnelError Bool, ∀ A : List TunnelEvent → Prop,
      Keeps A (do host.finish c; ofResult outcome)
        (fun told h' => outcome = .ok told ∧ ∃ h stop, h' = h ++ [.stop stop] ∧ A h)
        fun err h' => outcome = .error err ∧ ∃ h stop, h' = h ++ [.stop stop] ∧ A h := by
    intro outcome A
    refine .of_start fun h _ hA => ?_
    refine Triple.bind ((keeps_finish host c h).conseq (fun _ _ hs => hs) (fun _ _ _ hs => hs)
      fun _ _ _ hs => hs.elim) fun _ => ?_
    refine .ofResult (fun told htold s _ hs => ⟨htold, ?_⟩) fun err herr s _ hs => ⟨herr, ?_⟩
    · obtain ⟨stop, rfl⟩ := hs
      exact ⟨h, stop, rfl, hA⟩
    · obtain ⟨stop, rfl⟩ := hs
      exact ⟨h, stop, rfl, hA⟩
  cases outcome with
  | error err =>
    refine (hfinish (.error err) _).conseq (fun _ _ hs => hs) (fun told _ _ hs => ?_)
      fun err' _ _ hs => ?_
    · cases hs.1
    · obtain ⟨herr, h, stop, rfl, hfailed⟩ := hs
      rw [← Except.error.inj herr]
      exact ⟨h, stop, rfl, hfailed⟩
  | ok told =>
    cases told with
    | false => exact .pure fun _ _ hs => hs
    | true =>
      refine (hfinish (.ok true) _).conseq (fun _ _ hs => hs) (fun told _ _ hs => ?_)
        fun err' _ _ hs => ?_
      · obtain ⟨htold, h, stop, rfl, hstopped⟩ := hs
        rw [← Except.ok.inj htold]
        exact ⟨h, stop, rfl, hstopped⟩
      · cases hs.1

/-- Whatever the commands end with and whenever the service is told to stop: a service that cannot
be prepared runs no command, and what any other one does is in order. -/
theorem supervision (validateAcl : Bool) (rounds : ℕ)
    (reply : List TunnelEvent → (i : TunnelAwait) → TunnelAwait.Answer i) :
    (∃ err, host.prepare validateAcl = .error err ∧
      (host.runUntilStop validateAcl rounds).eval reply [] = (.error err, [])) ∨
    (host.prepare validateAcl).isOk = true ∧
      Supervision ((host.runUntilStop validateAcl rounds).eval reply []).1
        ((host.runUntilStop validateAcl rounds).eval reply []).2 := by
  rw [runUntilStop, eval_bind, eval_ofResult]
  cases hprepare : host.prepare validateAcl with
  | error err => exact .inl ⟨err, rfl, rfl⟩
  | ok c =>
    refine .inr ⟨rfl, ?_⟩
    have hend := (keeps_supervise host c rounds).eval reply polls_nil
    dsimp only
    revert hend
    cases ((host.supervise c rounds).eval reply []).1 with
    | ok told => exact id
    | error err => exact id

end TunnelHost

end VeraMesh.Tunnel
