import VeraMesh.Gateway.Interleaving
import VeraMesh.Gateway.Submission

/-!
# Isolation of the actors' processes

What the facades of a gateway send for the processes of their actors, in every interleaving of tool
calls. The names of lanes and the handles contain ids that one goroutine drew, so no other can bring
them into play: that is what a goroutine relies on between its draws and the lease that it stores.

* `SharedGateway.Isolated`: the invariant of the shared state.
* `SharedGateway.Unused`: what a goroutine knows of a name that it drew.
* `isolationContract`: what the goroutines owe each other.
* `processes_isolated`: what holds in every run.
-/

namespace VeraMesh.Gateway

open Coroutine

/-- The goroutine of an event. -/
def GatewayEvent.task : GatewayEvent → ℕ
  | sent t .. | answered t .. | started t .. | reported t .. => t

/-- The operations on a process that has started. -/
def processOperations : List String :=
  ["process.status", "process.output", "process.input", "process.terminate"]

/-- The operations that run a program under a lane of their own. -/
def startOperations : List String := ["process.start", "process.exec"]

/-- The body has the handle, the lane and the fence of a lease. -/
structure ProcessLease.IsIn (lease : ProcessLease) (body : GoMap) : Prop where
  lane : body.index "lane_id" = .str lease.laneID
  fence : body.index "fencing_token" = .int lease.fencingToken
  handle : body.index "process_handle" = .str lease.internalHandle

namespace SharedGateway

/-- `StartProcess` of the actor's facade made the lease. -/
def Leased (s : SharedGateway) (actor : String) (lease : ProcessLease) : Prop :=
  ∃ t, .started t actor lease ∈ s.history

/-- A close of the lane of the lease was acknowledged to the actor's facade. -/
def Acknowledged (s : SharedGateway) (actor : String) (lease : ProcessLease) : Prop :=
  ∃ t response, .answered t actor "lane.close"
    (Facade.laneBody lease.laneID lease.fencingToken) (.ok response) ∈ s.history ∧
      (response.index "ok").isTrue = true

/-- The gateway has a facade for the actor. -/
def HasFacade (s : SharedGateway) (actor : String) : Prop := ∃ f, s.facades.get? actor = some f

variable (ids : RandomIDs) {s s' s₁ : SharedGateway} {t t' : ℕ} {actor actor' name : String}

/-- Goroutine `t` drew the id in the name. -/
def Owns (s : SharedGateway) (t : ℕ) (name : String) : Prop :=
  ∃ label n, s.drawn[n]? = some t ∧ name = label ++ ":" ++ ids.text n

/-- What goroutine `t` may send on behalf of an actor. -/
structure MaySend (s : SharedGateway) (t : ℕ) (actor operation : String) (body : GoMap) :
    Prop where
  process : operation ∈ processOperations → ∃ lease, s.Leased actor lease ∧ lease.IsIn body
  close : operation = "lane.close" →
    (∃ lease, s.Leased actor lease ∧
      body = Facade.laneBody lease.laneID lease.fencingToken) ∨
    ∃ laneID fence, body = Facade.laneBody laneID fence ∧ Owns ids s t laneID ∧
      ∀ actor' lease, s.Leased actor' lease → lease.laneID ≠ laneID
  start : operation ∈ startOperations → ∃ laneID, body.index "lane_id" = .str laneID ∧
    Owns ids s t laneID ∧
      ∀ actor' lease, s.Leased actor' lease → lease.laneID = laneID → actor' = actor

/-- The invariant of the shared state. -/
structure Isolated (s : SharedGateway) : Prop where
  table : ∀ actor handle lease, (s.processes actor).get? handle = some lease →
    lease.publicHandle = handle ∧ s.Leased actor lease
  owned : ∀ t actor lease, .started t actor lease ∈ s.history →
    Owns ids s t lease.publicHandle ∧ Owns ids s t lease.laneID
  distinct : ∀ actor actor' lease lease', s.Leased actor lease → s.Leased actor' lease' →
    lease.publicHandle = lease'.publicHandle ∨ lease.laneID = lease'.laneID →
      actor = actor' ∧ lease = lease'
  sent : ∀ t actor operation body, .sent t actor operation body ∈ s.history →
    MaySend ids s t actor operation body
  kept : ∀ actor lease, s.Leased actor lease →
    (s.processes actor).get? lease.publicHandle = some lease ∨ s.Acknowledged actor lease
  reported : ∀ t actor handle, .reported t actor handle true ∈ s.history →
    (s.processes actor).get? handle = none ∧ ∃ lease, s.Leased actor lease ∧
      lease.publicHandle = handle ∧ s.Acknowledged actor lease

/-- What goroutine `t` knows of a name that it drew for an actor and has not used up. -/
structure Unused (s : SharedGateway) (t : ℕ) (actor name : String) : Prop where
  owns : Owns ids s t name
  leased : ∀ actor' lease, s.Leased actor' lease →
    lease.publicHandle ≠ name ∧ lease.laneID ≠ name
  close : ∀ t' actor' body, .sent t' actor' "lane.close" body ∈ s.history →
    body.index "lane_id" ≠ .str name
  start : ∀ t' actor' operation body, .sent t' actor' operation body ∈ s.history →
    operation ∈ startOperations → body.index "lane_id" = .str name → actor' = actor

/-- What the other goroutines do. -/
structure Others (t : ℕ) (s s' : SharedGateway) : Prop where
  history : ∃ new, s'.history = s.history ++ new ∧ ∀ event ∈ new, event.task ≠ t
  drawn : s.drawn <+: s'.drawn
  facade : ∀ actor, s.HasFacade actor → s'.HasFacade actor

variable {ids}

/-! ## Names -/

theorem Owns.mono (h : Owns ids s t name) (hdrawn : s.drawn <+: s'.drawn) : Owns ids s' t name := by
  obtain ⟨label, n, hn, rfl⟩ := h
  obtain ⟨rest, hrest⟩ := hdrawn
  refine ⟨label, n, ?_, rfl⟩
  rw [← hrest, List.getElem?_append_left (List.getElem?_eq_some_iff.mp hn).1, hn]

/-- A name tells which id it contains. -/
theorem eq_of_label_append {label label' : String} {n m : ℕ}
    (h : label ++ ":" ++ ids.text n = label' ++ ":" ++ ids.text m) : n = m := by
  have hchars := congrArg (fun name => name.toList.reverse) h
  simp only [String.toList_append, List.reverse_append, List.append_assoc] at hchars
  -- the random text is what follows the last colon
  have hlast : ∀ n, ':' ∉ (ids.text n).toList.reverse := by
    intro n
    rw [List.mem_reverse]
    exact ids.no_colon n
  have htext := (eq_of_append_sep (hlast n) (hlast m) hchars).1
  exact ids.injective (String.toList_injective (List.reverse_injective htext))

/-- A name has one owner. -/
theorem Owns.unique (h : Owns ids s t name) (h' : Owns ids s t' name) : t = t' := by
  obtain ⟨label, n, hn, rfl⟩ := h
  obtain ⟨label', m, hm, heq⟩ := h'
  obtain rfl : n = m := eq_of_label_append heq
  exact Option.some.inj (hn.symm.trans hm)

/-! ## The others -/

namespace Others

protected theorem refl (t : ℕ) (s : SharedGateway) : Others t s s :=
  ⟨⟨[], (List.append_nil _).symm, by simp⟩, List.prefix_rfl, fun _ h => h⟩

protected theorem trans (h : Others t s s₁) (h' : Others t s₁ s') : Others t s s' := by
  obtain ⟨new, hnew, htask⟩ := h.history
  obtain ⟨new', hnew', htask'⟩ := h'.history
  refine ⟨⟨new ++ new', by rw [hnew', hnew, List.append_assoc], fun event hevent => ?_⟩,
    h.drawn.trans h'.drawn, fun actor hactor => h'.facade actor (h.facade actor hactor)⟩
  rcases List.mem_append.mp hevent with hold | hlater
  · exact htask event hold
  · exact htask' event hlater

theorem mem (h : Others t s s') {event : GatewayEvent} (hevent : event ∈ s.history) :
    event ∈ s'.history := by
  obtain ⟨new, hnew, -⟩ := h.history
  rw [hnew]
  exact List.mem_append_left _ hevent

/-- An event of goroutine `t` is an old one. -/
theorem mem_of_task (h : Others t s s') {event : GatewayEvent} (hevent : event ∈ s'.history)
    (htask : event.task = t) : event ∈ s.history := by
  obtain ⟨new, hnew, hothers⟩ := h.history
  rw [hnew] at hevent
  rcases List.mem_append.mp hevent with hold | hlater
  · exact hold
  · exact absurd htask (hothers event hlater)

theorem leased (h : Others t s s') {lease : ProcessLease} (hl : s.Leased actor lease) :
    s'.Leased actor lease := by
  obtain ⟨t', ht'⟩ := hl
  exact ⟨t', h.mem ht'⟩

end Others

/-- The others do not bring a name into play that they did not draw. -/
theorem Unused.others (h : Unused ids s t actor name) (ho : Others t s s')
    (hs' : Isolated ids s') : Unused ids s' t actor name := by
  have howns := h.owns.mono ho.drawn
  have hleased : ∀ actor' lease, s'.Leased actor' lease →
      lease.publicHandle ≠ name ∧ lease.laneID ≠ name := by
    rintro actor' lease ⟨t', ht'⟩
    by_cases htask : t' = t
    · exact h.leased actor' lease ⟨t', ho.mem_of_task ht' htask⟩
    · obtain ⟨hhandle, hlane⟩ := hs'.owned t' actor' lease ht'
      exact ⟨fun heq => htask ((heq ▸ hhandle).unique howns),
        fun heq => htask ((heq ▸ hlane).unique howns)⟩
  refine ⟨howns, hleased, fun t' actor' body hsent hlane => ?_,
    fun t' actor' operation body hsent hop hlane => ?_⟩
  · by_cases htask : t' = t
    · exact h.close t' actor' body (ho.mem_of_task hsent htask) hlane
    · rcases (hs'.sent _ _ _ _ hsent).close rfl with ⟨lease, hl, rfl⟩ |
        ⟨laneID, fence, rfl, howner, -⟩
      · rw [Facade.index_laneBody_lane] at hlane
        exact (hleased actor' lease hl).2 (GoValue.str.inj hlane)
      · rw [Facade.index_laneBody_lane] at hlane
        exact htask ((GoValue.str.inj hlane ▸ howner).unique howns)
  · by_cases htask : t' = t
    · exact h.start t' actor' operation body (ho.mem_of_task hsent htask) hop hlane
    · obtain ⟨laneID, hindex, howner, -⟩ := (hs'.sent _ _ _ _ hsent).start hop
      rw [hlane] at hindex
      exact absurd ((GoValue.str.inj hindex ▸ howner).unique howns) htask

/-! ## One event more -/

section Record

variable {event : GatewayEvent}

theorem mem_record {event' : GatewayEvent} :
    event' ∈ (s.record event).history ↔ event' ∈ s.history ∨ event' = event := by
  rw [record, List.mem_append, List.mem_singleton]

theorem others_record (h : event.task ≠ t) : Others t s (s.record event) :=
  ⟨⟨[event], rfl, by simpa using h⟩, List.prefix_rfl, fun _ h => h⟩

theorem Acknowledged.mono {lease : ProcessLease} (h : s.Acknowledged actor lease)
    (hmem : ∀ event ∈ s.history, event ∈ s'.history) : s'.Acknowledged actor lease := by
  obtain ⟨t, response, ht, hok⟩ := h
  exact ⟨t, response, hmem _ ht, hok⟩

/-- Where no lease is made, what may be sent stays so. -/
theorem MaySend.mono {operation : String} {body : GoMap}
    (h : MaySend ids s t actor operation body) (hdrawn : s.drawn <+: s'.drawn)
    (hleased : ∀ actor lease, s'.Leased actor lease ↔ s.Leased actor lease) :
    MaySend ids s' t actor operation body where
  process hop := by
    obtain ⟨lease, hl, hbody⟩ := h.process hop
    exact ⟨lease, (hleased actor lease).mpr hl, hbody⟩
  close hop := by
    rcases h.close hop with ⟨lease, hl, hbody⟩ | ⟨laneID, fence, hbody, howns, hnone⟩
    · exact Or.inl ⟨lease, (hleased actor lease).mpr hl, hbody⟩
    · exact Or.inr ⟨laneID, fence, hbody, howns.mono hdrawn,
        fun actor' lease hl => hnone actor' lease ((hleased actor' lease).mp hl)⟩
  start hop := by
    obtain ⟨laneID, hlane, howns, hown⟩ := h.start hop
    exact ⟨laneID, hlane, howns.mono hdrawn,
      fun actor' lease hl => hown actor' lease ((hleased actor' lease).mp hl)⟩

/-- The invariant in a state with the same processes and leases. -/
theorem Isolated.congr (hs : Isolated ids s) (hdrawn : s.drawn <+: s'.drawn)
    (hprocesses : ∀ actor, s'.processes actor = s.processes actor)
    (hmem : ∀ event ∈ s.history, event ∈ s'.history)
    (hstarted : ∀ t actor lease, .started t actor lease ∈ s'.history →
      .started t actor lease ∈ s.history)
    (hreported : ∀ t actor handle, .reported t actor handle true ∈ s'.history →
      .reported t actor handle true ∈ s.history ∨ (s.processes actor).get? handle = none ∧
        ∃ lease, s.Leased actor lease ∧ lease.publicHandle = handle ∧ s.Acknowledged actor lease)
    (hsent : ∀ t actor operation body, .sent t actor operation body ∈ s'.history →
      .sent t actor operation body ∈ s.history ∨ MaySend ids s t actor operation body) :
    Isolated ids s' := by
  have hleased : ∀ actor lease, s'.Leased actor lease ↔ s.Leased actor lease := fun actor lease =>
    ⟨fun ⟨t, ht⟩ => ⟨t, hstarted t actor lease ht⟩, fun ⟨t, ht⟩ => ⟨t, hmem _ ht⟩⟩
  refine ⟨fun actor handle lease hget => ?_, fun t actor lease ht => ?_,
    fun actor actor' lease lease' hl hl' => ?_, fun t actor operation body ht => ?_,
    fun actor lease hl => ?_, fun t actor handle ht => ?_⟩
  · rw [hprocesses] at hget
    obtain ⟨hhandle, hl⟩ := hs.table actor handle lease hget
    exact ⟨hhandle, (hleased actor lease).mpr hl⟩
  · obtain ⟨hhandle, hlane⟩ := hs.owned t actor lease (hstarted t actor lease ht)
    exact ⟨hhandle.mono hdrawn, hlane.mono hdrawn⟩
  · exact hs.distinct actor actor' lease lease' ((hleased actor lease).mp hl)
      ((hleased actor' lease').mp hl')
  · rcases hsent t actor operation body ht with hold | hmay
    · exact (hs.sent t actor operation body hold).mono hdrawn hleased
    · exact hmay.mono hdrawn hleased
  · rw [hprocesses]
    exact (hs.kept actor lease ((hleased actor lease).mp hl)).imp id fun hack => hack.mono hmem
  · obtain ⟨hnone, lease, hl, hhandle, hack⟩ :=
      (hreported t actor handle ht).elim (hs.reported t actor handle) id
    exact ⟨(hprocesses actor).symm ▸ hnone, lease, (hleased actor lease).mpr hl, hhandle,
      hack.mono hmem⟩

theorem Isolated.record_sent (hs : Isolated ids s) {operation : String} {body : GoMap}
    (hmay : MaySend ids s t actor operation body) :
    Isolated ids (s.record (.sent t actor operation body)) := by
  refine hs.congr List.prefix_rfl (fun _ => rfl) (fun _ h => mem_record.mpr (Or.inl h))
    (fun t' actor' lease h => ?_) (fun t' actor' handle h => ?_)
    fun t' actor' operation' body' h => ?_
  · exact (mem_record.mp h).resolve_right (by simp)
  · exact Or.inl ((mem_record.mp h).resolve_right (by simp))
  · rcases mem_record.mp h with hold | hnew
    · exact Or.inl hold
    · obtain ⟨rfl, rfl, rfl, rfl⟩ := GatewayEvent.sent.inj hnew
      exact Or.inr hmay

theorem Isolated.record_answered (hs : Isolated ids s) (operation : String) (body : GoMap)
    (response : Except GoError GoMap) :
    Isolated ids (s.record (.answered t actor operation body response)) :=
  hs.congr List.prefix_rfl (fun _ => rfl) (fun _ h => mem_record.mpr (Or.inl h))
    (fun _ _ _ h => (mem_record.mp h).resolve_right (by simp))
    (fun _ _ _ h => Or.inl ((mem_record.mp h).resolve_right (by simp)))
    fun _ _ _ _ h => Or.inl ((mem_record.mp h).resolve_right (by simp))

/-- A report of a release tells the truth. -/
theorem Isolated.record_reported (hs : Isolated ids s) {handle : String} {closed : Bool}
    (hclosed : closed = true → (s.processes actor).get? handle = none ∧ ∃ lease,
      s.Leased actor lease ∧ lease.publicHandle = handle ∧ s.Acknowledged actor lease) :
    Isolated ids (s.record (.reported t actor handle closed)) := by
  refine hs.congr List.prefix_rfl (fun _ => rfl) (fun _ h => mem_record.mpr (Or.inl h))
    (fun _ _ _ h => (mem_record.mp h).resolve_right (by simp)) (fun t' actor' handle' h => ?_)
    fun _ _ _ _ h => Or.inl ((mem_record.mp h).resolve_right (by simp))
  rcases mem_record.mp h with hold | hnew
  · exact Or.inl hold
  · obtain ⟨-, rfl, rfl, hclosed'⟩ := GatewayEvent.reported.inj hnew
    exact Or.inr (hclosed hclosed'.symm)

end Record

/-! ## Ids -/

/-- The state after goroutine `t` drew an id. -/
def draw (s : SharedGateway) (t : ℕ) : SharedGateway := { s with drawn := s.drawn ++ [t] }

theorem Isolated.draw (hs : Isolated ids s) (t : ℕ) : Isolated ids (s.draw t) :=
  hs.congr (List.prefix_append _ _) (fun _ => rfl) (fun _ h => h) (fun _ _ _ h => h)
    (fun _ _ _ h => Or.inl h) fun _ _ _ _ h => Or.inl h

theorem others_draw (s : SharedGateway) (t t' : ℕ) : Others t s (s.draw t') :=
  ⟨⟨[], (List.append_nil _).symm, by simp⟩, List.prefix_append _ _, fun _ h => h⟩

/-- The name with the next id is new. -/
theorem Isolated.unused_draw (hs : Isolated ids s) (t : ℕ) (actor label : String) :
    Unused ids (s.draw t) t actor (label ++ ":" ++ ids.text s.drawn.length) := by
  have hfresh : ∀ t', ¬ Owns ids s t' (label ++ ":" ++ ids.text s.drawn.length) := by
    rintro t' ⟨label', n, hn, heq⟩
    obtain rfl := eq_of_label_append heq
    exact Nat.lt_irrefl _ (List.getElem?_eq_some_iff.mp hn).1
  refine ⟨⟨label, s.drawn.length, List.getElem?_concat_length, rfl⟩, ?_, ?_, ?_⟩
  · rintro actor' lease ⟨t', ht'⟩
    obtain ⟨hhandle, hlane⟩ := hs.owned t' actor' lease ht'
    exact ⟨fun heq => hfresh t' (heq ▸ hhandle), fun heq => hfresh t' (heq ▸ hlane)⟩
  · intro t' actor' body hsent hlane
    rcases (hs.sent _ _ _ _ hsent).close rfl with ⟨lease, ⟨t₁, ht₁⟩, rfl⟩ |
      ⟨laneID, fence, rfl, howner, -⟩
    · rw [Facade.index_laneBody_lane] at hlane
      exact hfresh t₁ (GoValue.str.inj hlane ▸ (hs.owned t₁ actor' lease ht₁).2)
    · rw [Facade.index_laneBody_lane] at hlane
      exact hfresh t' (GoValue.str.inj hlane ▸ howner)
  · intro t' actor' operation body hsent hop hlane
    obtain ⟨laneID, hindex, howner, -⟩ := (hs.sent _ _ _ _ hsent).start hop
    rw [hlane] at hindex
    exact absurd (GoValue.str.inj hindex ▸ howner) (hfresh t')

/-- To draw another id leaves a name unused. -/
theorem Unused.draw (h : Unused ids s t actor name) (t' : ℕ) :
    Unused ids (s.draw t') t actor name :=
  ⟨h.owns.mono (List.prefix_append _ _), h.leased, h.close, h.start⟩

/-! ## Processes -/

section Processes

variable {processes : Dict String ProcessLease} {event : GatewayEvent}

theorem processes_setProcesses (h : s.HasFacade actor) (actor' : String) :
    (s.setProcesses actor processes).processes actor' =
      if actor' = actor then processes else s.processes actor' := by
  obtain ⟨f, hf⟩ := h
  unfold setProcesses SharedGateway.processes
  rw [hf]
  dsimp only
  rw [Dict.get?_set]
  split_ifs
  · rfl
  · rfl

theorem history_setProcesses : (s.setProcesses actor processes).history = s.history := by
  unfold setProcesses
  split
  · rfl
  · rfl

theorem drawn_setProcesses : (s.setProcesses actor processes).drawn = s.drawn := by
  unfold setProcesses
  split
  · rfl
  · rfl

theorem HasFacade.setProcesses (h : s.HasFacade actor') :
    (s.setProcesses actor processes).HasFacade actor' := by
  obtain ⟨f, hf⟩ := h
  unfold SharedGateway.setProcesses
  split
  · exact ⟨f, hf⟩
  · next f₀ hf₀ =>
    by_cases heq : actor' = actor
    · subst heq
      exact ⟨_, Dict.get?_set_self _ _ _⟩
    · exact ⟨f, by rw [Dict.get?_set_ne _ _ heq, hf]⟩

theorem mem_record_setProcesses {event' : GatewayEvent} :
    event' ∈ ((s.setProcesses actor processes).record event).history ↔
      event' ∈ s.history ∨ event' = event := by
  rw [mem_record, history_setProcesses]

theorem others_setProcesses (t : ℕ) : Others t s (s.setProcesses actor processes) :=
  ⟨⟨[], by rw [history_setProcesses, List.append_nil], by simp⟩, by rw [drawn_setProcesses],
    fun _ h => h.setProcesses⟩

/-- A facade without processes has no entry for any handle. -/
theorem processes_eq_empty (h : ¬ s.HasFacade actor) : s.processes actor = .empty := by
  unfold SharedGateway.processes
  cases hf : s.facades.get? actor with
  | none => rfl
  | some f => exact absurd ⟨f, hf⟩ h

theorem setProcesses_eq (h : ¬ s.HasFacade actor) : s.setProcesses actor processes = s := by
  unfold setProcesses
  cases hf : s.facades.get? actor with
  | none => rfl
  | some f => exact absurd ⟨f, hf⟩ h

end Processes

/-- The state after `StartProcess` stored a lease. -/
def storeLease (s : SharedGateway) (t : ℕ) (actor : String) (lease : ProcessLease) :
    SharedGateway :=
  (s.setProcesses actor ((s.processes actor).set lease.publicHandle lease)).record
    (.started t actor lease)

/-- The state after `ReleaseProcess` removed a lease. -/
def removeLease (s : SharedGateway) (actor handle : String) : SharedGateway :=
  s.setProcesses actor ((s.processes actor).erase handle)

theorem drawn_storeLease (s : SharedGateway) (t : ℕ) (actor : String) (lease : ProcessLease) :
    (s.storeLease t actor lease).drawn = s.drawn := drawn_setProcesses

theorem drawn_removeLease (s : SharedGateway) (actor handle : String) :
    (s.removeLease actor handle).drawn = s.drawn := drawn_setProcesses

theorem history_removeLease (s : SharedGateway) (actor handle : String) :
    (s.removeLease actor handle).history = s.history := history_setProcesses

theorem get?_removeLease (s : SharedGateway) (actor handle actor' handle' : String) :
    ((s.removeLease actor handle).processes actor').get? handle' =
      if actor' = actor ∧ handle' = handle then none
      else (s.processes actor').get? handle' := by
  unfold removeLease
  by_cases hfacade : s.HasFacade actor
  · rw [processes_setProcesses hfacade]
    by_cases hactor : actor' = actor
    · rw [if_pos hactor, Dict.get?_erase, hactor]
      simp
    · rw [if_neg hactor, if_neg fun h => hactor h.1]
  · rw [setProcesses_eq hfacade]
    split_ifs with hboth
    · rw [hboth.1, processes_eq_empty hfacade, Dict.get?_empty]
    · rfl

theorem leased_storeLease {lease lease' : ProcessLease} :
    (s.storeLease t actor lease).Leased actor' lease' ↔
      s.Leased actor' lease' ∨ actor' = actor ∧ lease' = lease := by
  constructor
  · rintro ⟨t', ht'⟩
    rcases mem_record_setProcesses.mp ht' with hold | hnew
    · exact Or.inl ⟨t', hold⟩
    · obtain ⟨-, rfl, rfl⟩ := GatewayEvent.started.inj hnew
      exact Or.inr ⟨rfl, rfl⟩
  · rintro (⟨t', ht'⟩ | ⟨rfl, rfl⟩)
    · exact ⟨t', mem_record_setProcesses.mpr (Or.inl ht')⟩
    · exact ⟨t, mem_record_setProcesses.mpr (Or.inr rfl)⟩

theorem leased_removeLease {handle : String} {lease : ProcessLease} :
    (s.removeLease actor handle).Leased actor' lease ↔ s.Leased actor' lease := by
  rw [Leased, history_removeLease, Leased]

/-- A lease with an unused handle and an unused lane is stored. -/
theorem Isolated.storeLease (hs : Isolated ids s) {lease : ProcessLease}
    (hfacade : s.HasFacade actor) (hhandle : Unused ids s t actor lease.publicHandle)
    (hlane : Unused ids s t actor lease.laneID) : Isolated ids (s.storeLease t actor lease) where
  table actor' handle lease' hget := by
    have hget' : ((s.setProcesses actor _).processes actor').get? handle = some lease' := hget
    rw [processes_setProcesses hfacade] at hget'
    rw [leased_storeLease]
    split_ifs at hget' with hactor
    · rw [Dict.get?_set] at hget'
      split_ifs at hget' with heq
      · obtain rfl := Option.some.inj hget'
        exact ⟨heq.symm, Or.inr ⟨hactor, rfl⟩⟩
      · rw [hactor]
        exact (hs.table actor handle lease' hget').imp id Or.inl
    · exact (hs.table actor' handle lease' hget').imp id Or.inl
  owned t' actor' lease' ht' := by
    have hdrawn : s.drawn <+: (s.storeLease t actor lease).drawn := by
      rw [drawn_storeLease]
    rcases mem_record_setProcesses.mp ht' with hold | hnew
    · obtain ⟨hhandle', hlane'⟩ := hs.owned t' actor' lease' hold
      exact ⟨hhandle'.mono hdrawn, hlane'.mono hdrawn⟩
    · obtain ⟨rfl, rfl, rfl⟩ := GatewayEvent.started.inj hnew
      exact ⟨hhandle.owns.mono hdrawn, hlane.owns.mono hdrawn⟩
  distinct actor₁ actor₂ lease₁ lease₂ h₁ h₂ heq := by
    rw [leased_storeLease] at h₁ h₂
    rcases h₁ with h₁ | ⟨rfl, rfl⟩
    · rcases h₂ with h₂ | ⟨rfl, rfl⟩
      · exact hs.distinct _ _ _ _ h₁ h₂ heq
      · rcases heq with heq | heq
        · exact absurd heq (hhandle.leased _ _ h₁).1
        · exact absurd heq (hlane.leased _ _ h₁).2
    · rcases h₂ with h₂ | ⟨rfl, rfl⟩
      · rcases heq with heq | heq
        · exact absurd heq.symm (hhandle.leased _ _ h₂).1
        · exact absurd heq.symm (hlane.leased _ _ h₂).2
      · exact ⟨rfl, rfl⟩
  sent t' actor' operation body ht' := by
    have hold := (mem_record_setProcesses.mp ht').resolve_right (by simp)
    have hmay := hs.sent t' actor' operation body hold
    have hdrawn : s.drawn <+: (s.storeLease t actor lease).drawn := by
      rw [drawn_storeLease]
    refine ⟨fun hop => ?_, fun hop => ?_, fun hop => ?_⟩
    · obtain ⟨lease', hl, hbody⟩ := hmay.process hop
      exact ⟨lease', leased_storeLease.mpr (Or.inl hl), hbody⟩
    · subst hop
      rcases hmay.close rfl with ⟨lease', hl, hbody⟩ | ⟨laneID, fence, hbody, howns, hnone⟩
      · exact Or.inl ⟨lease', leased_storeLease.mpr (Or.inl hl), hbody⟩
      · refine Or.inr ⟨laneID, fence, hbody, howns.mono hdrawn, fun actor₂ lease₂ hl => ?_⟩
        rcases leased_storeLease.mp hl with hl | ⟨rfl, rfl⟩
        · exact hnone actor₂ lease₂ hl
        · rintro rfl
          refine hlane.close _ _ _ hold ?_
          rw [hbody, Facade.index_laneBody_lane]
    · obtain ⟨laneID, hindex, howns, hown⟩ := hmay.start hop
      refine ⟨laneID, hindex, howns.mono hdrawn, fun actor₂ lease₂ hl heq => ?_⟩
      rcases leased_storeLease.mp hl with hl | ⟨rfl, rfl⟩
      · exact hown actor₂ lease₂ hl heq
      · exact (hlane.start _ _ _ _ hold hop (heq ▸ hindex)).symm
  kept actor' lease' hl := by
    show ((s.setProcesses actor _).processes actor').get? _ = _ ∨ _
    rw [processes_setProcesses hfacade]
    rcases leased_storeLease.mp hl with hold | ⟨rfl, rfl⟩
    · refine (hs.kept actor' lease' hold).imp (fun hget => ?_) fun hack =>
        hack.mono fun event hevent => mem_record_setProcesses.mpr (Or.inl hevent)
      split_ifs with hactor
      · rw [Dict.get?_set_ne _ _ (hhandle.leased _ _ hold).1, ← hactor, hget]
      · exact hget
    · rw [if_pos rfl]
      exact Or.inl (Dict.get?_set_self _ _ _)
  reported t' actor' handle ht' := by
    have hold := (mem_record_setProcesses.mp ht').resolve_right (by simp)
    obtain ⟨hnone, lease', hl, rfl, hack⟩ := hs.reported t' actor' handle hold
    refine ⟨?_, lease', leased_storeLease.mpr (Or.inl hl), rfl,
      hack.mono fun event hevent => mem_record_setProcesses.mpr (Or.inl hevent)⟩
    show ((s.setProcesses actor _).processes actor').get? _ = none
    rw [processes_setProcesses hfacade]
    split_ifs with hactor
    · rw [Dict.get?_set_ne _ _ (hhandle.leased _ _ hl).1, ← hactor, hnone]
    · exact hnone

/-- A lease whose close was acknowledged is removed. -/
theorem Isolated.removeLease (hs : Isolated ids s) {handle : String} {lease : ProcessLease}
    (hl : s.Leased actor lease) (hhandle : lease.publicHandle = handle)
    (hack : s.Acknowledged actor lease) : Isolated ids (s.removeLease actor handle) := by
  have hhistory := history_removeLease s actor handle
  have hmem : ∀ event ∈ s.history, event ∈ (s.removeLease actor handle).history :=
    fun event hevent => hhistory ▸ hevent
  have hdrawn : s.drawn <+: (s.removeLease actor handle).drawn := by
    rw [drawn_removeLease]
  refine ⟨fun actor' handle' lease' h' => ?_, fun t' actor' lease' ht' => ?_,
    fun actor₁ actor₂ lease₁ lease₂ h₁ h₂ => ?_, fun t' actor' operation body ht' => ?_,
    fun actor' lease' hl' => ?_, fun t' actor' handle' ht' => ?_⟩
  · rw [get?_removeLease] at h'
    split_ifs at h'
    exact (hs.table actor' handle' lease' h').imp id leased_removeLease.mpr
  · obtain ⟨hhandle', hlane'⟩ := hs.owned t' actor' lease' (hhistory ▸ ht')
    exact ⟨hhandle'.mono hdrawn, hlane'.mono hdrawn⟩
  · exact hs.distinct _ _ _ _ (leased_removeLease.mp h₁) (leased_removeLease.mp h₂)
  · exact (hs.sent _ _ _ _ (hhistory ▸ ht')).mono hdrawn fun _ _ => leased_removeLease
  · rw [get?_removeLease]
    have hl' := leased_removeLease.mp hl'
    by_cases hboth : actor' = actor ∧ lease'.publicHandle = handle
    · -- it is the lease that was released
      obtain ⟨-, rfl⟩ := hs.distinct _ _ _ _ hl hl' (Or.inl (hhandle.trans hboth.2.symm))
      exact Or.inr (hboth.1 ▸ hack.mono hmem)
    · rw [if_neg hboth]
      exact (hs.kept actor' lease' hl').imp id fun hack' => hack'.mono hmem
  · rw [get?_removeLease]
    obtain ⟨hnone, lease', hl', hhandle', hack'⟩ :=
      hs.reported t' actor' handle' (hhistory ▸ ht')
    refine ⟨?_, lease', leased_removeLease.mpr hl', hhandle', hack'.mono hmem⟩
    rw [hnone, ite_self]

/-! ## Calls of the controller -/

/-- What a call of the controller does to the state, where it starts in `s`. -/
def Called (ids : RandomIDs) (f : FacadeRef) (operation : String) (body : GoMap)
    (response : Except GoError GoMap) (s s' : SharedGateway) : Prop :=
  ∃ s₁, Others f.task (s.record (.sent f.task f.actor operation body)) s₁ ∧ Isolated ids s₁ ∧
    s' = s₁.record (.answered f.task f.actor operation body response)

section Called

variable {f : FacadeRef} {operation : String} {body : GoMap} {response : Except GoError GoMap}

/-- A name stays unused over a call that is no close of it and starts nothing under it for another
actor. -/
theorem Unused.called (h : Unused ids s f.task actor name)
    (hcalled : Called ids f operation body response s s')
    (hclose : operation = "lane.close" → body.index "lane_id" ≠ .str name)
    (hstart : operation ∈ startOperations → body.index "lane_id" = .str name → f.actor = actor) :
    Unused ids s' f.task actor name := by
  obtain ⟨s₁, hothers, hs₁, rfl⟩ := hcalled
  have hsent : Unused ids (s.record (.sent f.task f.actor operation body)) f.task actor name := by
    refine ⟨h.owns, ?_, fun t' actor' body' hmem hlane => ?_,
      fun t' actor' operation' body' hmem hop hlane => ?_⟩
    · rintro actor' lease ⟨t', ht'⟩
      exact h.leased actor' lease ⟨t', (mem_record.mp ht').resolve_right (by simp)⟩
    · rcases mem_record.mp hmem with hold | hnew
      · exact h.close t' actor' body' hold hlane
      · obtain ⟨-, -, hop, rfl⟩ := GatewayEvent.sent.inj hnew
        exact hclose hop.symm hlane
    · rcases mem_record.mp hmem with hold | hnew
      · exact h.start t' actor' operation' body' hold hop hlane
      · obtain ⟨-, rfl, rfl, rfl⟩ := GatewayEvent.sent.inj hnew
        exact hstart hop hlane
  obtain ⟨howns, hleased, hclose', hstart'⟩ := hsent.others hothers hs₁
  refine ⟨howns, ?_, fun t' actor' body' hmem => ?_, fun t' actor' operation' body' hmem => ?_⟩
  · rintro actor' lease ⟨t', ht'⟩
    exact hleased actor' lease ⟨t', (mem_record.mp ht').resolve_right (by simp)⟩
  · exact hclose' t' actor' body' ((mem_record.mp hmem).resolve_right (by simp))
  · exact hstart' t' actor' operation' body' ((mem_record.mp hmem).resolve_right (by simp))

theorem HasFacade.called (h : s.HasFacade actor)
    (hcalled : Called ids f operation body response s s') : s'.HasFacade actor := by
  obtain ⟨s₁, hothers, -, rfl⟩ := hcalled
  exact hothers.facade actor h

theorem Called.mem (hcalled : Called ids f operation body response s s') {event : GatewayEvent}
    (hevent : event ∈ s.history) : event ∈ s'.history := by
  obtain ⟨s₁, hothers, -, rfl⟩ := hcalled
  exact mem_record.mpr (Or.inl (hothers.mem (mem_record.mpr (Or.inl hevent))))

theorem Called.answered (hcalled : Called ids f operation body response s s') :
    .answered f.task f.actor operation body response ∈ s'.history := by
  obtain ⟨s₁, -, -, rfl⟩ := hcalled
  exact mem_record.mpr (Or.inr rfl)

theorem Called.leased (hcalled : Called ids f operation body response s s') {lease : ProcessLease}
    (hl : s.Leased actor lease) : s'.Leased actor lease := by
  obtain ⟨t, ht⟩ := hl
  exact ⟨t, hcalled.mem ht⟩

end Called

end SharedGateway

/-! ## The goroutines -/

open SharedGateway

/-- What the goroutines owe each other. -/
def isolationContract (ids : RandomIDs) :
    Contract SharedGateway GatewayWait GatewayWait.Answer where
  Inv := Isolated ids
  Rely := Others
  answers _ _ _ := True
  refl := Others.refl
  trans _ _ _ _ := Others.trans

/-- Started in `s`, a part of goroutine `t` keeps the contract, and what it returns satisfies `Q`
with the state at the end. -/
def Keeps (ids : RandomIDs) (t : ℕ) {α : Type} (c : Goroutine α) (s : SharedGateway)
    (Q : α → SharedGateway → Prop) : Prop :=
  Meets (isolationContract ids) t c Q (fun _ _ => True) s

namespace Keeps

variable {ids : RandomIDs} {t : ℕ} {α β : Type} {s : SharedGateway} {Q : α → SharedGateway → Prop}

protected theorem pure {a : α} (h : Q a s) : Keeps ids t (pure a) s Q := h

protected theorem throw {err : GoError} : Keeps ids t (throw err : Goroutine α) s Q := trivial

protected theorem ofResult {x : Except GoError α} (h : ∀ a, x = .ok a → Q a s) :
    Keeps ids t (ofResult x) s Q :=
  meets_ofResult.mpr ⟨h, fun _ _ => trivial⟩

protected theorem bind {x : Goroutine α} {f : α → Goroutine β} {Q' : β → SharedGateway → Prop}
    (hs : Isolated ids s) (hx : Keeps ids t x s Q)
    (hf : ∀ a s', Isolated ids s' → Q a s' → Keeps ids t (f a) s' Q') :
    Keeps ids t (x >>= f) s Q' :=
  meets_bind.mpr (hx.imp hs (fun a s' hs' hq => hf a s' hs' hq) fun _ _ _ _ => trivial)

protected theorem tryCatch {x : Goroutine α} {handle : GoError → Goroutine α}
    (hs : Isolated ids s) (hx : Keeps ids t x s Q)
    (hhandle : ∀ err s', Isolated ids s' → Keeps ids t (handle err) s' Q) :
    Keeps ids t (tryCatch x handle) s Q :=
  meets_tryCatch.mpr (hx.imp hs (fun _ _ _ hq => hq) fun err s' hs' _ => hhandle err s' hs')

protected theorem imp {x : Goroutine α} {Q' : α → SharedGateway → Prop} (hs : Isolated ids s)
    (hx : Keeps ids t x s Q) (h : ∀ a s', Isolated ids s' → Q a s' → Q' a s') :
    Keeps ids t x s Q' :=
  Meets.imp hx hs h fun _ _ _ _ => trivial

/-- A section under a mutex comes after steps of the others. -/
protected theorem locked {f : SharedGateway → Except GoError α × SharedGateway}
    (h : ∀ s', Others t s s' → Isolated ids s' →
      (Isolated ids (f s').2 ∧ ∀ t' ≠ t, Others t' s' (f s').2) ∧
        ∀ a, (f s').1 = .ok a → Q a (f s').2) :
    Keeps ids t (locked f) s Q := by
  refine meets_bind.mpr (meets_answer.mpr fun s' _ hothers hs' _ => ?_)
  obtain ⟨hguarantee, hresult⟩ := h s' hothers hs'
  exact meets_sync.mpr ⟨hguarantee, hresult, fun _ _ => trivial⟩

/-- A section under a mutex that only reads. -/
theorem reads {f : SharedGateway → Except GoError α}
    (h : ∀ s', Others t s s' → Isolated ids s' → ∀ a, f s' = .ok a → Q a s') :
    Keeps ids t (VeraMesh.Gateway.locked fun s => (f s, s)) s Q :=
  .locked fun s' hothers hs' => ⟨⟨hs', fun t' _ => .refl t' s'⟩, h s' hothers hs'⟩

end Keeps

variable {ids : RandomIDs} {f : FacadeRef} {s : SharedGateway}

/-- A name that is drawn is unused, and names drawn before stay so. -/
theorem keeps_newID (label : String) : Keeps ids f.task (f.newID ids label) s fun name s' =>
    Unused ids s' f.task f.actor name ∧
      (∀ name', Unused ids s f.task f.actor name' → Unused ids s' f.task f.actor name') ∧
      ∀ actor, s.HasFacade actor → s'.HasFacade actor := by
  refine .locked fun s' hothers hs' => ⟨⟨hs'.draw f.task, fun t' _ => others_draw s' t' f.task⟩,
    fun name hname => ?_⟩
  obtain rfl := Except.ok.inj hname
  refine ⟨hs'.unused_draw f.task f.actor _, fun name' hname' => ?_, hothers.facade⟩
  exact (hname'.others hothers hs').draw f.task

theorem keeps_call {operation : String} {body : GoMap} (hs : Isolated ids s)
    (hmay : MaySend ids s f.task f.actor operation body) :
    Keeps ids f.task (f.call operation body) s fun response s' =>
      Called ids f operation body response s s' := by
  have hsent := hs.record_sent hmay
  refine .bind hs (Q := fun _ s' => s' = s.record _) (meets_update.mpr
    ⟨⟨hsent, fun t' ht' => others_record (Ne.symm ht')⟩, rfl⟩) fun _ s₀ _ hs₀ => ?_
  subst hs₀
  refine .bind hsent (Q := fun _ s' => Others f.task _ s')
    (meets_answer.mpr fun s₁ _ hothers _ _ => hothers) fun response s₁ hs₁ hothers => ?_
  refine .bind hs₁ (Q := fun _ s' => s' = s₁.record _) (meets_update.mpr
    ⟨⟨hs₁.record_answered operation body response, fun t' ht' => others_record (Ne.symm ht')⟩,
      rfl⟩) fun _ s₂ _ hs₂ => ?_
  exact .pure ⟨s₁, hothers, hs₁, hs₂⟩

/-- What is neither an operation on a process nor a close nor a start may be sent. -/
theorem maySend_of_other {operation : String} {body : GoMap} {t : ℕ} {actor : String}
    (hprocess : operation ∉ processOperations) (hclose : operation ≠ "lane.close")
    (hstart : operation ∉ startOperations) : MaySend ids s t actor operation body :=
  ⟨fun hop => absurd hop hprocess, fun hop => absurd hop hclose, fun hop => absurd hop hstart⟩

/-- A lane that is opened has an unused name. -/
theorem keeps_openLane (hs : Isolated ids s) (capabilities : List String) (claims : List GoValue)
    (ttlS : Float64) (task : String) :
    Keeps ids f.task (f.openLane ids capabilities claims ttlS task) s fun lane s' =>
      Unused ids s' f.task f.actor lane.1 ∧ ∀ actor, s.HasFacade actor → s'.HasFacade actor := by
  refine .bind hs (keeps_newID "public-lane") fun laneID s₁ hs₁ ⟨hlane, _, hfacade⟩ => ?_
  refine .bind hs₁ (keeps_newID task) fun taskID s₂ hs₂ ⟨_, hkeeps, hfacade'⟩ => ?_
  refine .bind hs₂ (keeps_call hs₂ (maySend_of_other (by decide) (by decide) (by decide)))
    fun response s₃ hs₃ hcalled => ?_
  refine .bind hs₃ (Q := fun _ s' => s' = s₃) (.ofResult fun _ _ => rfl) fun fence s₄ _ hs₄ => ?_
  subst hs₄
  refine .pure ⟨(hkeeps laneID hlane).called hcalled (fun h => absurd h (by decide))
    (fun h => absurd h (by decide)), fun actor hactor => ?_⟩
  exact (hfacade' actor (hfacade actor hactor)).called hcalled

/-- A lane that was opened and is not leased may be closed. -/
theorem maySend_close {laneID : String} (hlane : Unused ids s f.task f.actor laneID) (fence : ℤ) :
    MaySend ids s f.task f.actor "lane.close" (Facade.laneBody laneID fence) :=
  ⟨fun hop => absurd hop (by decide),
    fun _ => Or.inr ⟨laneID, fence, rfl, hlane.owns, fun _ _ hl => (hlane.leased _ _ hl).2⟩,
    fun hop => absurd hop (by decide)⟩

theorem keeps_closeLane {laneID : String} {fence : ℤ} (hs : Isolated ids s)
    (hmay : MaySend ids s f.task f.actor "lane.close" (Facade.laneBody laneID fence)) :
    Keeps ids f.task (f.closeLane laneID fence) s fun cleanup s' => ∃ response,
      cleanup = Facade.closeReport response ∧
        Called ids f "lane.close" (Facade.laneBody laneID fence) response s s' :=
  .bind hs (keeps_call hs hmay) fun response _ _ hcalled => .pure ⟨response, rfl, hcalled⟩

/-- An operation under a lane of its own. Where it starts a program, its body does not name another
lane. -/
theorem keeps_ephemeral (hs : Isolated ids s) {operation : String}
    (hprocess : operation ∉ processOperations) (hclose : operation ≠ "lane.close")
    {body : GoMap} (hstart : operation ∈ startOperations → body.LaneFree)
    (capabilities : List String) (claims : List GoValue) (task : String) :
    Keeps ids f.task (f.ephemeral ids operation capabilities claims body task) s
      fun _ _ => True := by
  refine .bind hs (keeps_openLane hs capabilities claims 300 task)
    fun ⟨laneID, fence⟩ s₁ hs₁ ⟨hlane, _⟩ => ?_
  have hmay : MaySend ids s₁ f.task f.actor operation
      ((Facade.laneBody laneID fence).update body) := by
    refine ⟨fun hop => absurd hop hprocess, fun hop => absurd hop hclose, fun hop => ?_⟩
    refine ⟨laneID, ?_, hlane.owns, fun actor' lease hl heq =>
      absurd heq (hlane.leased actor' lease hl).2⟩
    rw [((hstart hop).index_update _).1, Facade.index_laneBody_lane]
  refine .bind hs₁ (keeps_call hs₁ hmay) fun response s₂ hs₂ hcalled => ?_
  have hlane₂ := hlane.called hcalled (fun hop => absurd hop hclose) fun _ _ => rfl
  refine .bind hs₂ (keeps_closeLane hs₂ (maySend_close hlane₂ fence)) fun cleanup s₃ hs₃ _ => ?_
  refine .bind hs₃ (Q := fun _ _ => True) (.ofResult fun _ _ => trivial) fun result s₄ _ _ => ?_
  split_ifs
  · exact .pure trivial
  · exact .pure trivial

theorem keeps_claimed (hs : Isolated ids s) {operation : String}
    (hprocess : operation ∉ processOperations) (hclose : operation ≠ "lane.close")
    {body : GoMap} (hstart : operation ∈ startOperations → body.LaneFree)
    (capabilities : List String) (claims : Except GoError (List GoValue)) (task : String) :
    Keeps ids f.task (f.claimed ids operation capabilities claims body task) s fun _ _ => True :=
  .bind hs (Q := fun _ _ => True) (.ofResult fun _ _ => trivial) fun claims _ hs' _ =>
    keeps_ephemeral hs' hprocess hclose hstart capabilities claims task

theorem keeps_runProcess (hs : Isolated ids s) (argv : List String) (cwd : String)
    (timeoutS : Float64) :
    Keeps ids f.task (f.runProcess ids argv cwd timeoutS) s fun _ _ => True :=
  keeps_claimed hs (by decide) (by decide) (fun _ => laneFree_ofList (by simp)) _ _ _

/-- The lease of a process that has started is stored under a new handle. -/
theorem keeps_storeLease (hs : Isolated ids s) (hfacade : s.HasFacade f.actor) {laneID : String}
    (hlane : Unused ids s f.task f.actor laneID) (cwd : String) (fence : ℤ) (result : GoMap)
    (internal : String) :
    Keeps ids f.task (f.storeLease ids cwd laneID fence result internal) s fun _ _ => True := by
  refine .bind hs (keeps_newID "job") fun handle s₁ hs₁ ⟨hhandle, hkeeps, hkept⟩ => ?_
  have hlane₁ := hkeeps laneID hlane
  refine .bind hs₁ (Q := fun _ _ => True) (.locked fun s₂ hothers hs₂ => ⟨⟨?_, ?_⟩, fun _ _ =>
    trivial⟩) fun _ s₃ _ _ => .pure trivial
  · show Isolated ids (s₂.storeLease f.task f.actor ⟨handle, internal, laneID, fence, _⟩)
    exact hs₂.storeLease (hothers.facade _ (hkept _ hfacade)) (hhandle.others hothers hs₂)
      (hlane₁.others hothers hs₂)
  · exact fun t' ht' => (others_setProcesses t').trans (others_record (Ne.symm ht'))

theorem keeps_startProcess (hs : Isolated ids s) (hfacade : s.HasFacade f.actor)
    (argv : List String) (cwd : String) (maxRuntimeS : Float64) :
    Keeps ids f.task (f.startProcess ids argv cwd maxRuntimeS) s fun _ _ => True := by
  refine .bind hs (Q := fun _ s' => s' = s) (.ofResult fun _ _ => rfl) fun claim s₀ _ hs₀ => ?_
  subst hs₀
  refine .bind hs (keeps_openLane hs _ [claim] _ "start-process")
    fun ⟨laneID, fence⟩ s₁ hs₁ ⟨hlane, hkeeps⟩ => ?_
  have hbody : GoMap.LaneFree (.ofList [("argv", .list (argv.map .str)), ("cwd", .str cwd),
    ("max_runtime_s", .float maxRuntimeS)]) := laneFree_ofList (by simp)
  have hmay : MaySend ids s₁ f.task f.actor "process.start" ((Facade.laneBody laneID fence).update
      (.ofList [("argv", .list (argv.map .str)), ("cwd", .str cwd),
        ("max_runtime_s", .float maxRuntimeS)])) := by
    refine ⟨fun hop => absurd hop (by decide), fun hop => absurd hop (by decide), fun _ => ?_⟩
    refine ⟨laneID, ?_, hlane.owns, fun actor' lease hl heq =>
      absurd heq (hlane.leased actor' lease hl).2⟩
    rw [(hbody.index_update _).1, Facade.index_laneBody_lane]
  refine .bind hs₁ (keeps_call hs₁ hmay) fun response s₂ hs₂ hcalled => ?_
  have hlane₂ := hlane.called hcalled (fun hop => absurd hop (by decide)) fun _ _ => rfl
  cases Facade.startedHandle response with
  | error err =>
    exact .bind hs₂ (keeps_closeLane hs₂ (maySend_close hlane₂ fence)) fun _ _ _ _ => .throw
  | ok started =>
    exact keeps_storeLease hs₂ ((hkeeps _ hfacade).called hcalled) hlane₂ cwd fence _ _

/-- The lease that is found under a handle is one of the actor's. -/
theorem keeps_lease (handle : String) : Keeps ids f.task (f.lease handle) s fun lease s' =>
    s'.Leased f.actor lease ∧ lease.publicHandle = handle := by
  refine .locked fun s' _ hs' => ?_
  cases hget : (s'.processes f.actor).get? handle with
  | none => exact ⟨⟨hs', fun t' _ => .refl t' s'⟩, nofun⟩
  | some lease =>
    refine ⟨⟨hs', fun t' _ => .refl t' s'⟩, fun lease' hlease' => ?_⟩
    obtain rfl : lease = lease' := Except.ok.inj hlease'
    exact (hs'.table f.actor handle lease hget).symm

/-- An operation on a process carries its lease. -/
theorem keeps_processOperation (hs : Isolated ids s) {operation : String} {body : GoMap}
    (hop : operation ∈ processOperations) (hlane : body.LaneFree)
    (hhandle : body.get? "process_handle" = none) (handle : String) :
    Keeps ids f.task (f.processOperation operation handle body) s fun _ _ => True := by
  have hother : ∀ operation ∈ processOperations,
      operation ≠ "lane.close" ∧ operation ∉ startOperations := by decide
  refine .bind hs (keeps_lease handle) fun lease s₁ hs₁ ⟨hl, _⟩ => ?_
  have hmay : MaySend ids s₁ f.task f.actor operation (((Facade.laneBody lease.laneID
      lease.fencingToken).set "process_handle" (.str lease.internalHandle)).update body) := by
    refine ⟨fun _ => ⟨lease, hl, ?_⟩, fun h => absurd h (hother operation hop).1,
      fun h => absurd h (hother operation hop).2⟩
    obtain ⟨hindex, hindex'⟩ := hlane.index_update ((Facade.laneBody lease.laneID
      lease.fencingToken).set "process_handle" (.str lease.internalHandle))
    refine ⟨hindex.trans ?_, hindex'.trans ?_, ?_⟩
    · simp [Facade.laneBody, GoMap.index, Dict.ofList, Dict.get?_set]
    · simp [Facade.laneBody, GoMap.index, Dict.ofList, Dict.get?_set]
    · rw [GoMap.index, Dict.get?_update, hhandle, Option.none_or, Dict.get?_set_self]
      rfl
  refine .bind hs₁ (keeps_call hs₁ hmay) fun response s₂ hs₂ _ => ?_
  exact .bind hs₂ (Q := fun _ _ => True) (.ofResult fun _ _ => trivial) fun _ _ _ _ =>
    .pure trivial

theorem keeps_processStatus (hs : Isolated ids s) (handle : String) :
    Keeps ids f.task (f.processStatus handle) s fun _ _ => True :=
  keeps_processOperation hs (by decide) ⟨rfl, rfl⟩ rfl handle

/-- A close report says that the lane is closed exactly where the answer acknowledges it. -/
theorem closed_closeReport {response : Except GoError GoMap}
    (h : ((Facade.closeReport response).index "closed").isTrue = true) :
    ∃ answer, response = .ok answer ∧ (answer.index "ok").isTrue = true := by
  cases response with
  | error err => simp [Facade.closeReport, GoMap.index, Dict.ofList, Dict.get?_set,
      GoValue.isTrue] at h
  | ok answer =>
    refine ⟨answer, rfl, ?_⟩
    by_contra hok
    rw [Facade.closeReport, if_neg hok] at h
    simp [GoMap.index, Dict.ofList, Dict.get?_set, GoValue.isTrue] at h

/-- The report of a release is the last step. -/
theorem keeps_report {handle : String} {closed : Bool} {report : GoMap}
    (hs : Isolated ids (s.record (.reported f.task f.actor handle closed))) :
    Keeps ids f.task (do
      update fun s => s.record (.reported f.task f.actor handle closed)
      return report) s fun _ _ => True :=
  meets_bind.mpr (meets_update.mpr ⟨⟨hs, fun _ ht' => others_record (Ne.symm ht')⟩, trivial⟩)

/-- A release removes the lease where the close of its lane was acknowledged. -/
theorem keeps_releaseProcess (hs : Isolated ids s) (handle : String) :
    Keeps ids f.task (f.releaseProcess handle) s fun _ _ => True := by
  refine .bind hs (keeps_lease handle) fun lease s₁ hs₁ ⟨hl, hhandle⟩ => ?_
  have hmay : MaySend ids s₁ f.task f.actor "lane.close"
      (Facade.laneBody lease.laneID lease.fencingToken) :=
    ⟨fun hop => absurd hop (by decide), fun _ => Or.inl ⟨lease, hl, rfl⟩,
      fun hop => absurd hop (by decide)⟩
  refine .bind hs₁ (keeps_closeLane hs₁ hmay) fun cleanup s₂ hs₂ hclosed => ?_
  obtain ⟨response, rfl, hcalled⟩ := hclosed
  by_cases hreport : ((Facade.closeReport response).index "closed").isTrue = true
  · obtain ⟨answer, rfl, hok⟩ := closed_closeReport hreport
    have hack : s₂.Acknowledged f.actor lease := ⟨f.task, answer, hcalled.answered, hok⟩
    have hl₂ := hcalled.leased hl
    simp only [hreport, if_true]
    refine .bind hs₂ (Q := fun _ s' => (s'.processes f.actor).get? handle = none ∧
      s'.Leased f.actor lease ∧ s'.Acknowledged f.actor lease) (.locked fun s₃ hothers hs₃ =>
        ⟨⟨?_, fun t' _ => others_setProcesses t'⟩, fun _ _ => ?_⟩)
      fun _ s₄ hs₄ ⟨hnone, hl₄, hack₄⟩ => ?_
    · exact hs₃.removeLease (hothers.leased hl₂) hhandle
        (hack.mono fun _ hevent => hothers.mem hevent)
    · refine ⟨(get?_removeLease s₃ f.actor handle _ _).trans (if_pos ⟨rfl, rfl⟩),
        leased_removeLease.mpr (hothers.leased hl₂), hack.mono fun _ hevent => ?_⟩
      exact (history_removeLease s₃ f.actor handle).symm ▸ hothers.mem hevent
    · exact keeps_report (hs₄.record_reported fun _ => ⟨hnone, lease, hl₄, hhandle, hack₄⟩)
  · simp only [hreport]
    exact keeps_report (hs₂.record_reported nofun)

theorem keeps_entryOr (hs : Isolated ids s) {entry : GoError → GoValue} {x : Goroutine GoMap}
    {t : ℕ} (hx : Keeps ids t x s fun _ _ => True) :
    Keeps ids t (FacadeRef.entryOr entry x) s fun _ _ => True :=
  .tryCatch hs (.bind hs hx fun _ _ _ _ => .pure trivial) fun _ _ _ => .pure trivial

theorem keeps_statusOf (hs : Isolated ids s) (handles : List String) :
    Keeps ids f.task (f.statusOf handles) s fun _ _ => True := by
  induction handles generalizing s with
  | nil => exact .pure trivial
  | cons handle handles ih =>
    refine .bind hs (keeps_entryOr hs (keeps_processStatus hs handle)) fun _ s₁ hs₁ _ => ?_
    exact .bind hs₁ (ih hs₁) fun _ _ _ _ => .pure trivial

theorem keeps_listProcesses (hs : Isolated ids s) :
    Keeps ids f.task f.listProcesses s fun _ _ => True := by
  refine .bind hs (Q := fun _ _ => True) (.reads fun _ _ _ _ _ => trivial)
    fun handles s₁ hs₁ _ => ?_
  exact .bind hs₁ (keeps_statusOf hs₁ handles) fun _ _ _ _ => .pure trivial

theorem keeps_releaseAll (hs : Isolated ids s) (handles : List String) :
    Keeps ids f.task (f.releaseAll handles) s fun _ _ => True := by
  induction handles generalizing s with
  | nil => exact .pure trivial
  | cons handle handles ih =>
    refine .bind hs (keeps_entryOr hs (keeps_releaseProcess hs handle)) fun _ s₁ hs₁ _ => ?_
    exact .bind hs₁ (ih hs₁) fun _ _ _ _ => .pure trivial

theorem keeps_close (hs : Isolated ids s) : Keeps ids f.task f.close s fun _ _ => True := by
  refine .bind hs (Q := fun _ _ => True) (.reads fun _ _ _ _ _ => trivial)
    fun handles s₁ hs₁ _ => ?_
  exact .bind hs₁ (keeps_releaseAll hs₁ handles) fun _ _ _ _ => .pure trivial

/-- The file tools neither close lanes nor touch processes. -/
theorem FileOperation.text_other (operation : FileOperation) :
    operation.text ∉ processOperations ∧ operation.text ≠ "lane.close" ∧
      operation.text ∉ startOperations := by
  cases operation <;> decide

/-- Every tool keeps the contract. -/
theorem keeps_program (hs : Isolated ids s) (hfacade : s.HasFacade f.actor) (call : ToolCall) :
    Keeps ids f.task (call.program ids f) s fun _ _ => True := by
  cases call with
  | computerInfo => exact meets_answer.mpr fun _ _ _ _ _ => trivial
  | file operation capabilities claims body task =>
    obtain ⟨hprocess, hclose, hstart⟩ := operation.text_other
    exact keeps_claimed hs hprocess hclose (fun hop => absurd hop hstart) capabilities claims task
  | runProcess argv cwd timeoutS => exact keeps_runProcess hs argv cwd timeoutS
  | startProcess argv cwd maxRuntimeS => exact keeps_startProcess hs hfacade argv cwd maxRuntimeS
  | listProcesses => exact keeps_listProcesses hs
  | processStatus handle => exact keeps_processStatus hs handle
  | processOutput handle stdoutOffset stderrOffset maxBytes =>
    exact keeps_processOperation hs (by decide) (laneFree_ofList (by simp))
      (Dict.get?_ofList_eq_none (by simp)) handle
  | processInput handle input appendNewline =>
    exact keeps_processOperation hs (by decide) (laneFree_ofList (by simp))
      (Dict.get?_ofList_eq_none (by simp)) handle
  | terminateProcess handle graceS =>
    exact keeps_processOperation hs (by decide) (laneFree_ofList (by simp))
      (Dict.get?_ofList_eq_none (by simp)) handle
  | releaseProcess handle => exact keeps_releaseProcess hs handle

/-! ## The gateway -/

namespace SharedGateway

variable {surroundings : Surroundings} {actor : String} {a : Facade Unit}

/-- A facade that is made has no processes. -/
theorem processes_eq_empty_of_newFacade (h : newFacade surroundings actor = .ok a) :
    a.processes = .empty := by
  rw [newFacade] at h
  split_ifs at h
  rw [← Except.ok.inj h]
  rfl

/-- To look up a facade, or make it, changes no processes. -/
theorem facade_spec (surroundings : Surroundings) (actor : String) (s : SharedGateway) :
    (∀ actor', (facade surroundings actor s).2.processes actor' = s.processes actor') ∧
      (facade surroundings actor s).2.drawn = s.drawn ∧
      (facade surroundings actor s).2.history = s.history ∧
      (∀ actor', s.HasFacade actor' → (facade surroundings actor s).2.HasFacade actor') ∧
      ∀ a, (facade surroundings actor s).1 = .ok a →
        (facade surroundings actor s).2.HasFacade actor := by
  unfold facade
  cases hget : s.facades.get? actor with
  | some existing =>
    exact ⟨fun _ => rfl, rfl, rfl, fun _ h => h, fun a _ => ⟨existing, hget⟩⟩
  | none =>
    cases hnew : newFacade surroundings actor with
    | error err => exact ⟨fun _ => rfl, rfl, rfl, fun _ h => h, fun a ha => by cases ha⟩
    | ok a =>
      refine ⟨fun actor' => ?_, rfl, rfl, fun actor' h => ?_, fun _ _ => ⟨a, ?_⟩⟩
      · unfold processes
        dsimp only
        rw [Dict.get?_set]
        split_ifs with hactor
        · rw [hactor, hget]
          exact processes_eq_empty_of_newFacade hnew
        · rfl
      · obtain ⟨f, hf⟩ := h
        by_cases hactor : actor' = actor
        · exact ⟨a, by rw [hactor, Dict.get?_set_self]⟩
        · exact ⟨f, by rw [Dict.get?_set_ne _ _ hactor, hf]⟩
      · exact Dict.get?_set_self _ _ _

theorem Isolated.facade (hs : Isolated ids s) (surroundings : Surroundings) (actor : String) :
    Isolated ids (facade surroundings actor s).2 := by
  obtain ⟨hprocesses, hdrawn, hhistory, -⟩ := facade_spec surroundings actor s
  refine hs.congr (by rw [hdrawn]) hprocesses ?_ ?_ ?_ ?_
  · exact fun _ h => hhistory ▸ h
  · exact fun _ _ _ h => hhistory ▸ h
  · exact fun _ _ _ h => Or.inl (hhistory ▸ h)
  · exact fun _ _ _ _ h => Or.inl (hhistory ▸ h)

theorem others_facade (surroundings : Surroundings) (actor : String) (s : SharedGateway) (t : ℕ) :
    Others t s (facade surroundings actor s).2 := by
  obtain ⟨-, hdrawn, hhistory, hfacade, -⟩ := facade_spec surroundings actor s
  exact ⟨⟨[], by rw [hhistory, List.append_nil], by simp⟩, by rw [hdrawn], hfacade⟩

end SharedGateway

namespace MCPGateway

variable {u : Unicode} {g : GatewaySetup u} {t : ℕ} {s : SharedGateway}

theorem keeps_facadeOf (actor : String) :
    Keeps g.surroundings.ids t (facadeOf g t actor) s fun f s' =>
      f.task = t ∧ f.actor = actor ∧ s'.HasFacade f.actor := by
  refine meets_bind.mpr (Keeps.locked fun s₁ _ hs₁ => ⟨⟨hs₁.facade g.surroundings actor,
    fun t' _ => others_facade g.surroundings actor s₁ t'⟩, fun a ha => ?_⟩)
  exact Keeps.pure ⟨rfl, rfl, (facade_spec g.surroundings actor s₁).2.2.2.2 a ha⟩

theorem keeps_tryWorkBridge (hs : Isolated g.surroundings.ids s) (policy : ToolPolicy)
    (args : GoMap) :
    Keeps g.surroundings.ids t (tryWorkBridge g policy args) s fun _ _ => True := by
  unfold tryWorkBridge
  split
  · exact .pure trivial
  · split
    · exact .pure trivial
    · refine .bind hs (Q := fun _ _ => True) (meets_answer.mpr fun _ _ _ _ _ => trivial)
        fun result s₁ _ _ => ?_
      split
      · exact .pure trivial
      · split
        · exact .pure trivial
        · exact .pure trivial

theorem keeps_useVeraPort (hs : Isolated g.surroundings.ids s) (policy : ToolPolicy)
    (userID : String) (args : GoMap) :
    Keeps g.surroundings.ids t (useVeraPort g t policy userID args) s fun _ _ => True := by
  unfold useVeraPort
  split_ifs
  · exact .pure trivial
  · refine .tryCatch hs ?_ fun _ _ _ => .pure trivial
    refine .bind hs (keeps_facadeOf _) fun f s₁ hs₁ ⟨htask, _, hfacade⟩ => ?_
    subst htask
    refine .bind hs₁ (Q := fun _ s' => s' = s₁) (.ofResult fun _ _ => rfl) fun call s₂ _ hs₂ => ?_
    subst hs₂
    exact .bind hs₁ (keeps_program hs₁ hfacade call) fun _ _ _ _ => .pure trivial

theorem keeps_callToolAs (hs : Isolated g.surroundings.ids s) (policy : ToolPolicy)
    (req : CallToolRequest) :
    Keeps g.surroundings.ids t (callToolAs g t policy req) s fun _ _ => True := by
  unfold callToolAs
  split
  · exact .pure trivial
  · split
    · exact .pure trivial
    · dsimp only
      split
      · exact .pure trivial
      · split
        · exact .pure trivial
        · refine .bind hs (keeps_tryWorkBridge hs policy _) fun result s₁ hs₁ _ => ?_
          split
          · exact .pure trivial
          · exact keeps_useVeraPort hs₁ policy _ _

theorem keeps_closeEach (hs : Isolated g.surroundings.ids s) (actors : List (String × String)) :
    Keeps g.surroundings.ids t (closeEach t actors) s fun _ _ => True := by
  induction actors generalizing s with
  | nil => exact .pure trivial
  | cons actor actors ih =>
    exact .bind hs (keeps_close (f := ⟨t, actor.1, actor.2⟩) hs) fun _ _ hs₁ _ => ih hs₁

/-- Every goroutine keeps the contract. -/
theorem keeps_started (hs : Isolated g.surroundings.ids s) {c : Goroutine Unit}
    (hc : Started g t c) : Keeps g.surroundings.ids t c s fun _ _ => True := by
  cases hc with
  | call policy registered req =>
    exact .bind hs (keeps_callToolAs hs policy req) fun _ _ _ _ => .pure trivial
  | close =>
    exact .bind hs (Q := fun _ _ => True) (.reads fun _ _ _ _ _ => trivial)
      fun actors _ hs₁ _ => keeps_closeEach hs₁ actors

end MCPGateway

theorem isolated_init (ids : RandomIDs) : Isolated ids {} where
  table actor handle lease h := by simp [SharedGateway.processes] at h
  owned t actor lease h := by simp at h
  distinct actor actor' lease lease' h := by
    obtain ⟨t, ht⟩ := h
    simp at ht
  sent t actor operation body h := by simp at h
  kept actor lease h := by
    obtain ⟨t, ht⟩ := h
    simp at ht
  reported t actor handle h := by simp at h

theorem isolationContract_covers {u : Unicode} (g : GatewaySetup u) :
    (isolationContract g.surroundings.ids).Covers (gatewayDriver g) where
  calls hs hc := MCPGateway.keeps_started hs hc
  answers _ := trivial
  environment _ h := h.elim

/-- The state of every run is isolated. -/
theorem isolated_of_reachable {u : Unicode} {g : GatewaySetup u}
    {sys : System SharedGateway GatewayWait GatewayWait.Answer GoError Unit}
    (h : Reachable (gatewayDriver g) {} sys) : Isolated g.surroundings.ids sys.state :=
  (isolationContract_covers g).inv (isolated_init _) h

/-- **The processes of the actors are isolated.** In every state of every run: an operation on a
process that is sent for an actor carries a lease that `StartProcess` made in the actor's own
facade, and a close carries such a lease or the lane of no process; a program is started in the lane
of no other actor's process; a handle selects only a lease of the facade that is asked, and none of
another actor; a lease is selectable unless a close of its lane was acknowledged; and a handle that
was reported as released selects nothing any more. -/
theorem processes_isolated {u : Unicode} (g : GatewaySetup u)
    (sys : System SharedGateway GatewayWait GatewayWait.Answer GoError Unit)
    (h : Reachable (gatewayDriver g) {} sys) :
    (∀ t actor operation body, .sent t actor operation body ∈ sys.state.history →
      operation ∈ processOperations → ∃ lease, sys.state.Leased actor lease ∧ lease.IsIn body) ∧
    (∀ t actor body, .sent t actor "lane.close" body ∈ sys.state.history →
      (∃ lease, sys.state.Leased actor lease ∧
        body = Facade.laneBody lease.laneID lease.fencingToken) ∨
      ∃ laneID fence, body = Facade.laneBody laneID fence ∧
        ∀ actor' lease, sys.state.Leased actor' lease → lease.laneID ≠ laneID) ∧
    (∀ t actor operation body, .sent t actor operation body ∈ sys.state.history →
      operation ∈ startOperations → ∃ laneID, body.index "lane_id" = .str laneID ∧
        ∀ actor' lease, sys.state.Leased actor' lease → lease.laneID = laneID →
          actor' = actor) ∧
    (∀ actor handle lease, (sys.state.processes actor).get? handle = some lease →
      lease.publicHandle = handle ∧ sys.state.Leased actor lease ∧
        ∀ actor' lease', sys.state.Leased actor' lease' → lease'.publicHandle = handle →
          actor' = actor ∧ lease' = lease) ∧
    (∀ actor lease, sys.state.Leased actor lease →
      (sys.state.processes actor).get? lease.publicHandle = some lease ∨
        sys.state.Acknowledged actor lease) ∧
    ∀ t actor handle, .reported t actor handle true ∈ sys.state.history →
      (sys.state.processes actor).get? handle = none := by
  have hs := isolated_of_reachable h
  refine ⟨fun t actor operation body hsent => (hs.sent t actor operation body hsent).process,
    fun t actor body hsent => ?_, fun t actor operation body hsent hop => ?_,
    fun actor handle lease hget => ?_, hs.kept,
    fun t actor handle hreported => (hs.reported t actor handle hreported).1⟩
  · refine ((hs.sent t actor _ body hsent).close rfl).imp id ?_
    rintro ⟨laneID, fence, hbody, -, hnone⟩
    exact ⟨laneID, fence, hbody, hnone⟩
  · obtain ⟨laneID, hlane, -, hown⟩ := (hs.sent t actor operation body hsent).start hop
    exact ⟨laneID, hlane, hown⟩
  · obtain ⟨hhandle, hl⟩ := hs.table actor handle lease hget
    exact ⟨hhandle, hl, fun actor' lease' hl' heq =>
      hs.distinct actor' actor lease' lease hl' hl (Or.inl (heq.trans hhandle.symm))⟩

/-! A gateway at which one actor starts a process. -/

def exampleGateway : GatewaySetup asciiUnicode where
  surroundings := MCPGateway.exampleSurroundings
  cfg := { Controller.exampleConfig with
    requestedCapabilities := ["process.exec", "process.inspect", "process.interact",
      "process.control"]
    gatewayOperations := ["lane.open", "lane.close", "process.start", "process.status"] }
  issuer := "issuer"
  workbridge := none

def startProcessPolicy : ToolPolicy :=
  ⟨"start_process", "process.start", ["computer.process"],
    ["process.exec", "process.inspect", "process.interact", "process.control"], false⟩

def exampleStart : CallToolRequest where
  token := some ⟨"user", ["computer.process"]⟩
  arguments := .ok (.ofList [("argv", .list [.str "sleep", .str "9"]), ("cwd", .str "/a")])

/-- A workstation that grants every lane and starts every process. -/
def exampleReply (_ : SharedGateway) : (i : GatewayWait) → i.Answer
  | .turn => ()
  | .call _ _ => .ok (.ofList [("ok", .bool true),
      ("result", .map [("fencing_token", .number "7"), ("process_handle", .str "p1")])])
  | .machineInfo => .empty
  | .callPublic _ _ => .ok .empty

/-- The goroutine of the call. -/
def exampleGoroutine : Goroutine Unit := do
  let _ ← MCPGateway.callToolAs exampleGateway 0 startProcessPolicy exampleStart

/-- The handle of the process selects the lease, and no facade has another one under it. -/
theorem processes_isolated_exampleStart :
    ∃ sys, Reachable (gatewayDriver exampleGateway) {} sys ∧
      ∃ lease, (sys.state.processes "issuer|user").get? "job:00112233445566ff:2" = some lease ∧
        lease.internalHandle = "p1" ∧ sys.state.Leased "issuer|user" lease := by
  have hreach : Reachable (gatewayDriver exampleGateway) {} ⟨{}, []⟩ := .refl
  have hrun : Reachable (gatewayDriver exampleGateway) {}
      ⟨(exampleGoroutine.eval exampleReply {}).2,
        [] ++ [ofResult (exampleGoroutine.eval exampleReply {}).1]⟩ :=
    hreach.eval (.call startProcessPolicy (by decide) exampleStart) fun _ _ => trivial
  have hget : ((exampleGoroutine.eval exampleReply {}).2.processes "issuer|user").get?
      "job:00112233445566ff:2" = some ⟨"job:00112233445566ff:2", "p1",
        "public-lane:00112233445566ff:0", 7, "/a"⟩ := by
    rfl
  obtain ⟨-, -, -, hselects, -⟩ := processes_isolated exampleGateway _ hrun
  exact ⟨_, hrun, _, hget, rfl, (hselects _ _ _ hget).2.1⟩

end VeraMesh.Gateway
