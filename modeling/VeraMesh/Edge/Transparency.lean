import VeraMesh.Edge.LiveEdge

/-!
# Byte transparency of the live edge

What one side receives is always a beginning of what has come from the other side. `_accept` waits
for the first of its two pumps to end and then cancels the other one, so all bytes arrive exactly
when the other pump has nothing left to forward at that moment.

* `Pump.Sound`: where the bytes of a direction are.
* `Pump.forwarded_of_stopped`: a pump that has ended or was cancelled forwards nothing more.
* `relay_transparent`: the bytes that a finished connection has delivered.
-/

namespace VeraMesh

variable {config : LiveEdgeConfig}

namespace Pump

variable {sent : List UInt8} {p p' : Pump}

/-- Where the bytes of a direction are. -/
structure Sound (sent : List UInt8) (p : Pump) : Prop where
  received_eq : p.received = p.forwarded ++ p.buffer
  received_initial : p.received <+: sent
  eof : p.eof = true → p.received = sent
  returned : p.stage = .halfClosing ∨ p.stage = .returned → p.eof = true ∧ p.buffer = []

theorem sound_init (sent : List UInt8) : Sound sent {} where
  received_eq := rfl
  received_initial := List.nil_prefix
  eof h := by cases h
  returned h := by simp at h

/-- A direction delivers a beginning of what has come. -/
theorem Sound.delivered_initial (h : p.Sound sent) : p.delivered <+: p.received := by
  rw [h.received_eq, forwarded, List.append_assoc]
  exact List.prefix_append _ _

/-- The next bytes that come are the next bytes of the stream. -/
theorem append_take_drop_initial {received : List UInt8} (h : received <+: sent) (n : ℕ) :
    received ++ (sent.drop received.length).take n <+: sent := by
  obtain ⟨rest, rfl⟩ := h
  rw [List.drop_left]
  exact (List.prefix_append_right_inj received).mpr (List.take_prefix n rest)

/-- Sending from the buffer of the transport does not change what was written. -/
theorem forwarded_flush (p : Pump) (n : ℕ) :
    p.delivered ++ p.outgoing.take n ++ p.outgoing.drop n = p.forwarded := by
  rw [List.append_assoc, List.take_append_drop, forwarded]

/-- One event keeps the bytes in their places. -/
theorem Sound.step (hp : p.Sound sent) {event : PumpEvent}
    (h : p.step config sent event = some p') : p'.Sound sent := by
  cases event with
  | arrive n =>
    simp only [Pump.step, Option.ite_none_right_eq_some, Option.some.injEq] at h
    obtain ⟨hopen, rfl⟩ := h
    refine ⟨?_, append_take_drop_initial hp.received_initial n, fun heof => ?_, fun hstage => ?_⟩
    · simp [hp.received_eq, forwarded]
    · exact absurd (hopen.symm.trans heof) Bool.false_ne_true
    · exact absurd hopen (by simp [(hp.returned hstage).1])
  | arriveEof =>
    simp only [Pump.step, Option.ite_none_right_eq_some, Option.some.injEq] at h
    obtain ⟨⟨-, hall⟩, rfl⟩ := h
    exact ⟨hp.received_eq, hp.received_initial, fun _ => hall,
      fun hstage => ⟨rfl, (hp.returned hstage).2⟩⟩
  | forwardChunk =>
    simp only [Pump.step, Option.ite_none_right_eq_some, Option.some.injEq] at h
    obtain ⟨-, rfl⟩ := h
    refine ⟨?_, hp.received_initial, hp.eof, by simp⟩
    simp [hp.received_eq, forwarded]
  | drained =>
    simp only [Pump.step] at h
    split_ifs at h with hchunk hhalf
    · rw [← Option.some.inj h]
      exact ⟨hp.received_eq, hp.received_initial, hp.eof, by simp⟩
    · rw [← Option.some.inj h]
      simp only [runs, Bool.and_eq_true, beq_iff_eq] at hhalf
      exact ⟨hp.received_eq, hp.received_initial, hp.eof, fun _ => hp.returned (Or.inl hhalf.1)⟩
  | forwardEof supported =>
    simp only [Pump.step, Option.ite_none_right_eq_some, Option.some.injEq] at h
    obtain ⟨⟨-, hempty, heof⟩, rfl⟩ := h
    exact ⟨hp.received_eq, hp.received_initial, hp.eof, fun _ => ⟨heof, hempty⟩⟩
  | cancelled =>
    simp only [Pump.step, Option.ite_none_right_eq_some, Option.some.injEq] at h
    obtain ⟨-, rfl⟩ := h
    exact ⟨hp.received_eq, hp.received_initial, hp.eof, by simp⟩
  | fail =>
    simp only [Pump.step, Option.ite_none_right_eq_some, Option.some.injEq] at h
    obtain ⟨-, rfl⟩ := h
    exact ⟨hp.received_eq, hp.received_initial, hp.eof, by simp⟩
  | flush n =>
    simp only [Pump.step, Option.some.injEq] at h
    subst h
    refine ⟨?_, hp.received_initial, hp.eof, hp.returned⟩
    rw [forwarded, forwarded_flush]
    exact hp.received_eq

theorem Sound.stop (hp : p.Sound sent) : p.stop.Sound sent :=
  ⟨hp.received_eq, hp.received_initial, hp.eof, hp.returned⟩

/-- A pump that returned has forwarded all bytes of its side. -/
theorem Sound.forwarded_of_returned (hp : p.Sound sent) (h : p.stage = .returned) :
    p.forwarded = sent := by
  obtain ⟨heof, hempty⟩ := hp.returned (Or.inr h)
  have hall := hp.eof heof
  rwa [hp.received_eq, hempty, List.append_nil] at hall

/-- The pump has ended or has to stop at its next resumption. -/
def Stopped (p : Pump) : Prop := p.cancelling = true ∨ p.stage.done = true

theorem stopped_stop (p : Pump) : p.stop.Stopped := by
  rcases hdone : p.stage.done with _ | _
  · exact Or.inl (by simp [stop, hdone])
  · exact Or.inr hdone

theorem Stopped.runs_eq_false (hp : p.Stopped) {stage : PumpStage} (h : stage.done = false) :
    p.runs stage = false := by
  rcases hp with hcancel | hdone
  · simp [runs, hcancel]
  · have hne : p.stage ≠ stage := by
      rintro rfl
      rw [hdone] at h
      cases h
    simp [runs, hne]

/-- A stopped pump stays stopped, and what it has written stays what it was. -/
theorem forwarded_of_stopped (hp : p.Stopped) {event : PumpEvent}
    (h : p.step config sent event = some p') : p'.Stopped ∧ p'.forwarded = p.forwarded := by
  have hreading : p.runs .reading = false := hp.runs_eq_false rfl
  have hdraining : p.runs .draining = false := hp.runs_eq_false rfl
  have hhalfClosing : p.runs .halfClosing = false := hp.runs_eq_false rfl
  cases event with
  | arrive n =>
    simp only [Pump.step, Option.ite_none_right_eq_some, Option.some.injEq] at h
    obtain ⟨-, rfl⟩ := h
    exact ⟨hp, rfl⟩
  | arriveEof =>
    simp only [Pump.step, Option.ite_none_right_eq_some, Option.some.injEq] at h
    obtain ⟨-, rfl⟩ := h
    exact ⟨hp, rfl⟩
  | forwardChunk => simp [Pump.step, hreading] at h
  | drained => simp [Pump.step, hdraining, hhalfClosing] at h
  | forwardEof supported => simp [Pump.step, hreading] at h
  | cancelled =>
    simp only [Pump.step, Option.ite_none_right_eq_some, Option.some.injEq] at h
    obtain ⟨-, rfl⟩ := h
    exact ⟨Or.inr rfl, rfl⟩
  | fail =>
    simp only [Pump.step, Option.ite_none_right_eq_some, Option.some.injEq] at h
    obtain ⟨-, rfl⟩ := h
    exact ⟨Or.inr rfl, rfl⟩
  | flush n =>
    simp only [Pump.step, Option.some.injEq] at h
    subst h
    exact ⟨hp, forwarded_flush p n⟩

end Pump

namespace Relay

variable {sent : Side → List UInt8} {s s' t : Relay} {events : List RelayEvent}

/-- An event of one direction is an event of its pump and leaves the other pump alone. -/
theorem step_pump {side : Side} {event : PumpEvent}
    (h : s.step config sent (.pump side event) = some s') :
    s.allows side event = true ∧ s'.stage = s.stage ∧ (s.ioError = true → s'.ioError = true) ∧
      ∃ p, (s.pump side).step config (sent side) event = some p ∧
        s'.pump = Function.update s.pump side p := by
  simp only [step, Option.ite_none_right_eq_some, Option.map_eq_some_iff] at h
  obtain ⟨hallowed, p, hp, rfl⟩ := h
  exact ⟨hallowed, rfl, fun herror => by simp [herror], p, hp, rfl⟩

/-- What a step of `_accept` does. -/
theorem step_accept {event : RelayEvent} (hevent : ∀ side e, event ≠ .pump side e)
    (h : s.step config sent event = some s') :
    (s.ioError = true → s'.ioError = true) ∧
      (s.stage = .connecting ∧ s'.pump = s.pump ∧ s'.stage = .relaying ∨
        s.stage = .connecting ∧ s'.pump = s.pump ∧ s'.ioError = true ∨
        event = .stop ∧ s.stage = .relaying ∧ s'.stage = .stopping ∧
          s'.pump = (fun side => (s.pump side).stop) ∨
        s.stage = .stopping ∧ s'.pump = s.pump ∧ s'.stage = .closing ∨
        s.stage = .closing ∧ s'.pump = s.pump ∧ s'.stage = .ended ∧
          ((∀ side, (s.pump side).outgoing = []) ∨ s'.ioError = true)) := by
  cases event with
  | pump side e => exact absurd rfl (hevent side e)
  | connect | connectFailed | stop | close | finish | breakDown =>
    simp only [step, Option.ite_none_right_eq_some, Option.some.injEq] at h
    obtain ⟨hguard, rfl⟩ := h
    simp [hguard]

/-- The bytes are in their places, and a connection that has ended well has sent what was
written. -/
structure Sound (sent : Side → List UInt8) (s : Relay) : Prop where
  pump : ∀ side, (s.pump side).Sound (sent side)
  flushed : s.stage = .ended → s.ioError = false → ∀ side, (s.pump side).outgoing = []

theorem sound_init (sent : Side → List UInt8) : Sound sent {} where
  pump side := Pump.sound_init (sent side)
  flushed h := by cases h

/-- After the end, the transports have only to send what they hold. -/
theorem outgoing_of_ended {side : Side} {event : PumpEvent} {p : Pump} (hstage : s.stage = .ended)
    (hallowed : s.allows side event = true)
    (hp : (s.pump side).step config (sent side) event = some p)
    (hflushed : (s.pump side).outgoing = []) : p.outgoing = [] := by
  cases event with
  | flush n =>
    simp only [Pump.step, Option.some.injEq] at hp
    rw [← hp, hflushed, List.drop_nil]
  | arrive | arriveEof | forwardChunk | drained | forwardEof | cancelled | fail =>
    simp [allows, hstage] at hallowed

theorem Sound.step (hs : s.Sound sent) {event : RelayEvent}
    (h : s.step config sent event = some s') : s'.Sound sent := by
  by_cases hevent : ∃ side e, event = .pump side e
  · obtain ⟨side, e, rfl⟩ := hevent
    obtain ⟨hallowed, hstage, herror, p, hp, hpump⟩ := step_pump h
    refine ⟨fun side' => ?_, fun hended hok side' => ?_⟩
    · rw [hpump]
      rcases eq_or_ne side' side with rfl | hne
      · rw [Function.update_self]
        exact (hs.pump side').step hp
      · rw [Function.update_of_ne hne]
        exact hs.pump side'
    · rw [hstage] at hended
      have hok' : s.ioError = false := by
        by_contra hfail
        exact absurd (herror (by simpa using hfail)) (by simp [hok])
      have hflushed := hs.flushed hended hok'
      rw [hpump]
      rcases eq_or_ne side' side with rfl | hne
      · rw [Function.update_self]
        exact outgoing_of_ended hended hallowed hp (hflushed side')
      · rw [Function.update_of_ne hne]
        exact hflushed side'
  · obtain ⟨-, hcases⟩ := step_accept (fun side e he => hevent ⟨side, e, he⟩) h
    rcases hcases with ⟨-, hpump, hstage⟩ | ⟨-, hpump, herror⟩ | ⟨-, -, hstage, hpump⟩ |
      ⟨-, hpump, hstage⟩ | ⟨-, hpump, -, hsent | herror⟩
    · exact ⟨fun side => hpump ▸ hs.pump side, fun hended => by simp [hstage] at hended⟩
    · exact ⟨fun side => hpump ▸ hs.pump side, fun _ hok => by simp [herror] at hok⟩
    · exact ⟨fun side => hpump ▸ (hs.pump side).stop, fun hended => by simp [hstage] at hended⟩
    · exact ⟨fun side => hpump ▸ hs.pump side, fun hended => by simp [hstage] at hended⟩
    · exact ⟨fun side => hpump ▸ hs.pump side, fun _ _ side => hpump ▸ hsent side⟩
    · exact ⟨fun side => hpump ▸ hs.pump side, fun _ hok => by simp [herror] at hok⟩

theorem Sound.run (hs : s.Sound sent) (h : s.run config sent events = some t) : t.Sound sent := by
  induction events generalizing s with
  | nil =>
    rw [← Option.some.inj h]
    exact hs
  | cons event events ih =>
    obtain ⟨s', hstep, hrest⟩ := Option.bind_eq_some_iff.mp h
    exact ih (hs.step hstep) hrest

/-- An error stays. -/
theorem ioError_of_run (h : s.run config sent events = some t) (hs : s.ioError = true) :
    t.ioError = true := by
  induction events generalizing s with
  | nil => rwa [← Option.some.inj h]
  | cons event events ih =>
    obtain ⟨s', hstep, hrest⟩ := Option.bind_eq_some_iff.mp h
    apply ih hrest
    by_cases hevent : ∃ side e, event = .pump side e
    · obtain ⟨side, e, rfl⟩ := hevent
      exact (step_pump hstep).2.2.1 hs
    · exact (step_accept (fun side e he => hevent ⟨side, e, he⟩) hstep).1 hs

/-- `_accept` has stopped the pumps. -/
structure Stopped (s : Relay) : Prop where
  stage : s.stage ≠ .connecting ∧ s.stage ≠ .relaying
  pump : ∀ side, (s.pump side).Stopped

/-- After the pumps were stopped, `_accept` only closes the writers. -/
theorem step_of_stopped (hstage : s.stage ≠ .connecting ∧ s.stage ≠ .relaying) {event : RelayEvent}
    (hevent : ∀ side e, event ≠ .pump side e) (h : s.step config sent event = some s') :
    s'.pump = s.pump ∧ s'.stage ≠ .connecting ∧ s'.stage ≠ .relaying := by
  obtain ⟨-, hcases⟩ := step_accept hevent h
  rcases hcases with ⟨hbefore, -⟩ | ⟨hbefore, -⟩ | ⟨-, hbefore, -⟩ | ⟨-, hpump, hafter⟩ |
    ⟨-, hpump, hafter, -⟩
  · exact absurd hbefore hstage.1
  · exact absurd hbefore hstage.1
  · exact absurd hbefore hstage.2
  · exact ⟨hpump, by simp [hafter]⟩
  · exact ⟨hpump, by simp [hafter]⟩

/-- Once the pumps are stopped, they have written what they have written. -/
theorem Stopped.step (hs : s.Stopped) {event : RelayEvent}
    (h : s.step config sent event = some s') :
    s'.Stopped ∧ ∀ side, (s'.pump side).forwarded = (s.pump side).forwarded := by
  by_cases hevent : ∃ side e, event = .pump side e
  · obtain ⟨side, e, rfl⟩ := hevent
    obtain ⟨-, hstage, -, p, hp, hpump⟩ := step_pump h
    obtain ⟨hstopped, hforwarded⟩ := Pump.forwarded_of_stopped (hs.pump side) hp
    refine ⟨⟨hstage ▸ hs.stage, fun side' => ?_⟩, fun side' => ?_⟩
    · rw [hpump]
      rcases eq_or_ne side' side with rfl | hne
      · rwa [Function.update_self]
      · rw [Function.update_of_ne hne]
        exact hs.pump side'
    · rw [hpump]
      rcases eq_or_ne side' side with rfl | hne
      · rwa [Function.update_self]
      · rw [Function.update_of_ne hne]
  · obtain ⟨hpump, hstage⟩ := step_of_stopped hs.stage (fun side e he => hevent ⟨side, e, he⟩) h
    exact ⟨⟨hstage, hpump ▸ hs.pump⟩, fun side => by rw [hpump]⟩

theorem Stopped.run (hs : s.Stopped) (h : s.run config sent events = some t) :
    t.Stopped ∧ ∀ side, (t.pump side).forwarded = (s.pump side).forwarded := by
  induction events generalizing s with
  | nil =>
    rw [← Option.some.inj h]
    exact ⟨hs, fun _ => rfl⟩
  | cons event events ih =>
    obtain ⟨s', hstep, hrest⟩ := Option.bind_eq_some_iff.mp h
    obtain ⟨hs', hforwarded⟩ := hs.step hstep
    obtain ⟨ht, hforwarded'⟩ := ih hs' hrest
    exact ⟨ht, fun side => (hforwarded' side).trans (hforwarded side)⟩

/-- What the pumps have written when they are stopped is all that they write. -/
theorem forwarded_of_stop {before after : List RelayEvent}
    (hbefore : s.run config sent before = some s')
    (h : s.run config sent (before ++ .stop :: after) = some t) (side : Side) :
    (t.pump side).forwarded = (s'.pump side).forwarded := by
  rw [run, List.foldlM_append, ← run, hbefore] at h
  have hrest : s'.run config sent (.stop :: after) = some t := h
  obtain ⟨s₁, hstop, hafter⟩ := Option.bind_eq_some_iff.mp hrest
  simp only [step, Option.ite_none_right_eq_some, Option.some.injEq] at hstop
  obtain ⟨-, rfl⟩ := hstop
  have hstopped : Stopped { s' with stage := .stopping, pump := fun side => (s'.pump side).stop } :=
    ⟨by simp, fun side => Pump.stopped_stop (s'.pump side)⟩
  exact (hstopped.run hafter).2 side

/-- A connection that got past its relaying without an error was stopped on the way. -/
theorem exists_stop (hs : s.stage = .connecting ∨ s.stage = .relaying)
    (h : s.run config sent events = some t)
    (ht : t.stage ≠ .connecting ∧ t.stage ≠ .relaying) (hok : t.ioError = false) :
    ∃ before after s', events = before ++ .stop :: after ∧
      s.run config sent before = some s' := by
  induction events generalizing s with
  | nil =>
    rw [← Option.some.inj h] at ht
    exact (hs.elim ht.1 ht.2).elim
  | cons event events ih =>
    obtain ⟨s₁, hstep, hrest⟩ := Option.bind_eq_some_iff.mp h
    have hcontinue : s₁.stage = .connecting ∨ s₁.stage = .relaying →
        ∃ before after s', event :: events = before ++ .stop :: after ∧
          s.run config sent before = some s' := by
      intro hs₁
      obtain ⟨before, after, s', rfl, hbefore⟩ := ih hs₁ hrest
      refine ⟨event :: before, after, s', rfl, ?_⟩
      exact Option.bind_eq_some_iff.mpr ⟨s₁, hstep, hbefore⟩
    by_cases hevent : ∃ side e, event = .pump side e
    · obtain ⟨side, e, rfl⟩ := hevent
      exact hcontinue ((step_pump hstep).2.1 ▸ hs)
    · obtain ⟨-, hcases⟩ := step_accept (fun side e he => hevent ⟨side, e, he⟩) hstep
      rcases hcases with ⟨-, -, hstage⟩ | ⟨-, -, herror⟩ | ⟨rfl, -⟩ | ⟨hstage, -⟩ | ⟨hstage, -⟩
      · exact hcontinue (Or.inr hstage)
      · rw [ioError_of_run hrest herror] at hok
        cases hok
      · exact ⟨[], events, s, rfl, rfl⟩
      · simp [hstage] at hs
      · simp [hstage] at hs

end Relay

/-- A connection of the live edge never delivers anything but a beginning of what has come. When it
has ended without an I/O error, it has delivered all bytes that the two sides send before their
end-of-file if and only if, when `_accept` stopped the pumps, a pump that had not returned yet had
nothing left to forward. -/
theorem relay_transparent {sent : Side → List UInt8} {events : List RelayEvent} {t : Relay}
    (h : Relay.run config sent {} events = some t) :
    (∀ side, (t.pump side).delivered <+: (t.pump side).received ∧
      (t.pump side).received <+: sent side) ∧
    (t.stage = .ended → t.ioError = false →
      ((∀ side, (t.pump side).delivered = sent side) ↔
        ∃ before after s, events = before ++ .stop :: after ∧
          Relay.run config sent {} before = some s ∧
            ∀ side, (s.pump side).stage ≠ .returned → (s.pump side).forwarded = sent side)) := by
  have hsound : t.Sound sent := (Relay.sound_init sent).run h
  refine ⟨fun side => ⟨(hsound.pump side).delivered_initial, (hsound.pump side).received_initial⟩,
    fun hended hok => ?_⟩
  have hdelivered : ∀ side, (t.pump side).delivered = (t.pump side).forwarded := by
    intro side
    rw [Pump.forwarded, hsound.flushed hended hok side, List.append_nil]
  constructor
  · intro hall
    obtain ⟨before, after, s, rfl, hbefore⟩ :=
      Relay.exists_stop (Or.inl rfl) h (by simp [hended]) hok
    refine ⟨before, after, s, rfl, hbefore, fun side _ => ?_⟩
    rw [← Relay.forwarded_of_stop hbefore h side, ← hdelivered side, hall side]
  · rintro ⟨before, after, s, rfl, hbefore, hforwarded⟩ side
    have hs : s.Sound sent := (Relay.sound_init sent).run hbefore
    rw [hdelivered side, Relay.forwarded_of_stop hbefore h side]
    by_cases hreturned : (s.pump side).stage = .returned
    · exact (hs.pump side).forwarded_of_returned hreturned
    · exact hforwarded side hreturned

/-! ## A request and its response -/

def exampleRelayConfig : LiveEdgeConfig := ⟨65536, by decide, by decide⟩

/-- A request of two bytes and a response of one byte. -/
def exampleRelayStreams : Side → List UInt8
  | .downstream => [71, 10]
  | .upstream => [50]

/-- The request is forwarded. -/
def exampleRelayRequest : List RelayEvent :=
  [.connect, .pump .downstream (.arrive 2), .pump .downstream .forwardChunk,
    .pump .downstream .drained]

/-- The response is forwarded. -/
def exampleRelayResponse : List RelayEvent :=
  [.pump .upstream (.arrive 1), .pump .upstream .forwardChunk, .pump .upstream .drained]

/-- The downstream side closes, and its pump ends. -/
def exampleRelayHalfClose : List RelayEvent :=
  [.pump .downstream .arriveEof, .pump .downstream (.forwardEof true), .pump .downstream .drained]

/-- `_accept` stops the upstream pump and closes the connection. -/
def exampleRelayShutdown : List RelayEvent :=
  [.stop, .pump .upstream .cancelled, .close, .pump .downstream (.flush 2),
    .pump .upstream (.flush 1), .finish]

/-- The run of these streams. -/
def exampleRelayRun (events : List RelayEvent) : Option Relay :=
  Relay.run exampleRelayConfig exampleRelayStreams {} events

/-- A response that comes before the half-close arrives. -/
theorem relay_transparent_exampleExchange :
    ∃ t, exampleRelayRun (exampleRelayRequest ++ exampleRelayResponse ++ exampleRelayHalfClose ++
        exampleRelayShutdown) = some t ∧
      ∀ side, (t.pump side).delivered = exampleRelayStreams side := by
  have hend : (exampleRelayRun (exampleRelayRequest ++ exampleRelayResponse ++
      exampleRelayHalfClose ++ exampleRelayShutdown)).map (fun t => (t.stage, t.ioError)) =
        some (.ended, false) := by decide
  have hstop : (exampleRelayRun (exampleRelayRequest ++ exampleRelayResponse ++
      exampleRelayHalfClose)).map (fun s => ((s.pump .downstream).forwarded,
        (s.pump .upstream).forwarded)) = some ([71, 10], [50]) := by decide
  obtain ⟨t, ht, hfacts⟩ := Option.map_eq_some_iff.mp hend
  obtain ⟨s, hs, hforwarded⟩ := Option.map_eq_some_iff.mp hstop
  obtain ⟨hstage, hok⟩ := Prod.mk.inj hfacts
  obtain ⟨hdownstream, hupstream⟩ := Prod.mk.inj hforwarded
  refine ⟨t, ht, ((relay_transparent ht).2 hstage hok).mpr ⟨_, _, s, rfl, hs, fun side _ => ?_⟩⟩
  cases side with
  | downstream => exact hdownstream
  | upstream => exact hupstream

/-- A response that comes after the half-close is lost. -/
theorem not_relay_transparent :
    ¬ ∀ (config : LiveEdgeConfig) (sent : Side → List UInt8) (events : List RelayEvent) (t : Relay),
      Relay.run config sent {} events = some t → t.stage = .ended → t.ioError = false →
        ∀ side, (t.pump side).delivered = sent side := by
  intro hall
  have hend : (exampleRelayRun (exampleRelayRequest ++ exampleRelayHalfClose ++
      exampleRelayShutdown)).map (fun t => (t.stage, t.ioError, (t.pump .upstream).delivered)) =
        some (.ended, false, []) := by decide
  obtain ⟨t, ht, hfacts⟩ := Option.map_eq_some_iff.mp hend
  obtain ⟨hstage, hrest⟩ := Prod.mk.inj hfacts
  obtain ⟨hok, hdelivered⟩ := Prod.mk.inj hrest
  have hresponse := hall _ _ _ t ht hstage hok .upstream
  rw [hdelivered] at hresponse
  exact absurd hresponse (by decide)

end VeraMesh
