import VeraMesh.Controller.Operations

/-!
# Channel conservation

Whoever has the lock of the runtime is alone with `_live`, the pool and the channels. So it is
enough that every operation that takes the lock leaves them tied to each other: the live endpoints
and the pool hold the same channels, and every other channel is closed. Two operations do not.
`_connect` forgets the new channel when its probe fails, and `close` leaves the closed channels in
the pool.

* `Tied`: the invariant, with the channels that the running operation has in hand.
* `connectionsContract`: what the lock is worth to the task that has it.
* `channels_conserved`: the invariant in every run in which neither of the two happens.
-/

namespace VeraMesh

open Python Coroutine

namespace ChannelPool

variable {pool : ChannelPool}

/-- Registering an endpoint changes nothing under other ids and routes. -/
theorem registered_register (endpoint : PooledEndpoint) (route : String × String)
    (endpointId : String) :
    (pool.register endpoint).registered route endpointId =
      if HotSessionPool.routeKey endpoint.binding = route ∧ endpoint.endpointId = endpointId then
        some endpoint
      else pool.registered route endpointId := by
  unfold register registered
  dsimp only
  by_cases hroute : HotSessionPool.routeKey endpoint.binding = route
  · subst hroute
    rw [Dict.get?_set_self, Option.bind_some, Dict.get?_set]
    by_cases hid : endpointId = endpoint.endpointId
    · rw [if_pos hid, if_pos ⟨rfl, hid.symm⟩]
    · rw [if_neg hid, if_neg fun h => hid h.2.symm]
      cases pool.byRoute.get? (HotSessionPool.routeKey endpoint.binding) with
      | none => rfl
      | some group => rfl
  · rw [Dict.get?_set_ne _ _ (Ne.symm hroute), if_neg fun h => hroute h.1]

/-- What is registered for the route of a removed endpoint. -/
theorem bind_get?_remove {group : Dict String PooledEndpoint} {route : String × String}
    (hgroup : pool.byRoute.get? route = some group) (removed endpointId : String) :
    ((pool.remove route.1 route.2 removed).byRoute.get? route).bind (·.get? endpointId) =
      (group.erase removed).get? endpointId := by
  unfold remove
  simp only [Prod.mk.eta, hgroup]
  by_cases hempty : (group.erase removed).size = 0
  · have hnil : (group.erase removed).entries = [] := List.length_eq_zero_iff.mp hempty
    rw [if_pos hempty, Dict.get?_erase_self, Option.bind_none, Dict.get?, hnil]
    rfl
  · rw [if_neg hempty, Dict.get?_set_self, Option.bind_some]

/-- A removal leaves the other routes alone. -/
theorem get?_remove_ne {route route' : String × String} (hroute : route ≠ route')
    (removed : String) :
    (pool.remove route.1 route.2 removed).byRoute.get? route' = pool.byRoute.get? route' := by
  unfold remove
  simp only [Prod.mk.eta]
  split
  · rfl
  · split_ifs
    · exact Dict.get?_erase_ne _ (Ne.symm hroute)
    · exact Dict.get?_set_ne _ _ (Ne.symm hroute)

/-- Removing an endpoint changes nothing under other ids and routes. -/
theorem registered_remove (route route' : String × String) (removed endpointId : String) :
    (pool.remove route.1 route.2 removed).registered route' endpointId =
      if route = route' ∧ removed = endpointId then none
      else pool.registered route' endpointId := by
  unfold registered
  by_cases hroute : route = route'
  · subst hroute
    cases hgroup : pool.byRoute.get? route with
    | none =>
      have hsame : pool.remove route.1 route.2 removed = pool := by
        unfold remove
        simp only [Prod.mk.eta, hgroup]
      rw [hsame, hgroup, Option.bind_none, ite_self]
    | some group =>
      rw [bind_get?_remove hgroup, Option.bind_some, Dict.get?_erase]
      by_cases hid : removed = endpointId
      · rw [if_pos hid.symm, if_pos ⟨rfl, hid⟩]
      · rw [if_neg (Ne.symm hid), if_neg fun h => hid h.2]
  · rw [get?_remove_ne hroute, if_neg fun h => hroute h.1]

end ChannelPool

/-- The live endpoints and the pool hold the same channels, and every other channel is closed or in
the hands of the operation that runs. -/
structure Tied (c : Connections) (hand : Finset Channel) : Prop where
  key : ∀ {endpointId endpoint}, c.live.get? endpointId = some endpoint →
    endpoint.config.endpointId = endpointId
  pooled : ∀ {endpointId endpoint}, c.live.get? endpointId = some endpoint →
    ∃ item, c.pool.registered (HotSessionPool.routeKey endpoint.binding) endpointId = some item ∧
      item.channel = endpoint.channel
  live : ∀ {route endpointId item}, c.pool.registered route endpointId = some item →
    ∃ endpoint, c.live.get? endpointId = some endpoint ∧
      HotSessionPool.routeKey endpoint.binding = route ∧ endpoint.channel = item.channel
  inj : ∀ {endpointId endpointId' endpoint endpoint'},
    c.live.get? endpointId = some endpoint → c.live.get? endpointId' = some endpoint' →
    endpoint.channel = endpoint'.channel → endpointId = endpointId'
  isOpen : ∀ {endpointId endpoint}, c.live.get? endpointId = some endpoint →
    endpoint.channel < c.opened ∧ endpoint.channel ∉ c.closed ∧ endpoint.channel ∉ hand
  hand_isOpen : ∀ {channel}, channel ∈ hand → channel < c.opened ∧ channel ∉ c.closed
  closed_lt : ∀ {channel}, channel ∈ c.closed → channel < c.opened
  accounted : ∀ {channel}, channel < c.opened → channel ∈ hand ∨ channel ∈ c.closed ∨
    ∃ endpointId endpoint, c.live.get? endpointId = some endpoint ∧ endpoint.channel = channel

section Tied

variable {c : Connections} {hand : Finset Channel}

/-- `open_session` returns a channel. -/
theorem Tied.addChannel (h : Tied c ∅) : Tied c.addChannel {c.opened} where
  key := h.key
  pooled := h.pooled
  live := h.live
  inj := h.inj
  isOpen hlive := by
    obtain ⟨hlt, hclosed, -⟩ := h.isOpen hlive
    refine ⟨Nat.lt_succ_of_lt hlt, hclosed, ?_⟩
    rw [Finset.mem_singleton]
    exact Nat.ne_of_lt hlt
  hand_isOpen hmem := by
    obtain rfl := Finset.mem_singleton.mp hmem
    exact ⟨Nat.lt_succ_self _, fun hclosed => lt_irrefl _ (h.closed_lt hclosed)⟩
  closed_lt hclosed := Nat.lt_succ_of_lt (h.closed_lt hclosed)
  accounted {channel} hlt := by
    rcases Nat.lt_succ_iff_lt_or_eq.mp hlt with hold | rfl
    · exact Or.inr ((h.accounted hold).resolve_left (by simp))
    · exact Or.inl (Finset.mem_singleton_self _)

/-- The channel at hand is closed. -/
theorem Tied.markClosed {channel : Channel} (h : Tied c {channel}) :
    Tied (c.markClosed channel) ∅ where
  key := h.key
  pooled := h.pooled
  live := h.live
  inj := h.inj
  isOpen hlive := by
    obtain ⟨hlt, hclosed, hhand⟩ := h.isOpen hlive
    refine ⟨hlt, fun hmem => ?_, by simp⟩
    rcases Finset.mem_insert.mp hmem with heq | hmem
    · exact hhand (Finset.mem_singleton.mpr heq)
    · exact hclosed hmem
  hand_isOpen hmem := absurd hmem (by simp)
  closed_lt hmem := by
    rcases Finset.mem_insert.mp hmem with rfl | hmem
    · exact (h.hand_isOpen (Finset.mem_singleton_self _)).1
    · exact h.closed_lt hmem
  accounted hlt := by
    rcases h.accounted hlt with hhand | hclosed | hlive
    · rw [Finset.mem_singleton.mp hhand]
      exact Or.inr (Or.inl (Finset.mem_insert_self _ _))
    · exact Or.inr (Or.inl (Finset.mem_insert_of_mem hclosed))
    · exact Or.inr (Or.inr hlive)

/-- An endpoint becomes live and registered, or gets a new path. -/
theorem Tied.put (h : Tied c hand) (endpoint : ConnectedEndpoint) {item : PooledEndpoint}
    (hid : item.endpointId = endpoint.config.endpointId) (hbinding : item.binding = endpoint.binding)
    (hchannel : item.channel = endpoint.channel)
    (hold : ∀ current, c.live.get? endpoint.config.endpointId = some current →
      current.binding = endpoint.binding ∧ current.channel = endpoint.channel)
    (hother : ∀ endpointId current, c.live.get? endpointId = some current →
      current.channel = endpoint.channel → endpointId = endpoint.config.endpointId)
    (hopen : endpoint.channel < c.opened ∧ endpoint.channel ∉ c.closed) :
    Tied ((c.setLive endpoint).register item) (hand.erase endpoint.channel) := by
  have hlive : ∀ endpointId, ((c.setLive endpoint).register item).live.get? endpointId =
      if endpointId = endpoint.config.endpointId then some endpoint
      else c.live.get? endpointId := fun endpointId =>
    Dict.get?_set c.live endpoint.config.endpointId endpointId endpoint
  have hpool : ∀ route endpointId,
      ((c.setLive endpoint).register item).pool.registered route endpointId =
        if HotSessionPool.routeKey endpoint.binding = route ∧
            endpoint.config.endpointId = endpointId then some item
        else c.pool.registered route endpointId := fun route endpointId => by
    rw [← hbinding, ← hid]
    exact ChannelPool.registered_register item route endpointId
  constructor
  case key =>
    intro endpointId current hget
    rw [hlive] at hget
    split_ifs at hget with heq
    · obtain rfl := Option.some.inj hget
      exact heq.symm
    · exact h.key hget
  case pooled =>
    intro endpointId current hget
    rw [hlive] at hget
    split_ifs at hget with heq
    · obtain rfl := Option.some.inj hget
      exact ⟨item, by rw [hpool, if_pos ⟨rfl, heq.symm⟩], hchannel⟩
    · obtain ⟨old, hold', heq'⟩ := h.pooled hget
      exact ⟨old, by rw [hpool, if_neg fun h' => heq h'.2.symm, hold'], heq'⟩
  case live =>
    intro route endpointId found hget
    rw [hpool] at hget
    split_ifs at hget with heq
    · obtain rfl := Option.some.inj hget
      exact ⟨endpoint, by rw [hlive, if_pos heq.2.symm], heq.1, hchannel.symm⟩
    · obtain ⟨current, hcurrent, hroute, heq'⟩ := h.live hget
      -- an endpoint that is registered under this id was live with the same binding
      have hne : endpointId ≠ endpoint.config.endpointId := by
        rintro rfl
        rw [(hold current hcurrent).1] at hroute
        exact heq ⟨hroute, rfl⟩
      exact ⟨current, by rw [hlive, if_neg hne, hcurrent], hroute, heq'⟩
  case inj =>
    intro endpointId endpointId' current current' hget hget' heq
    rw [hlive] at hget hget'
    split_ifs at hget hget' with h₁ h₂ h₂
    · exact h₁.trans h₂.symm
    · obtain rfl := Option.some.inj hget
      exact h₁.trans (hother _ _ hget' heq.symm).symm
    · obtain rfl := Option.some.inj hget'
      exact (hother _ _ hget heq).trans h₂.symm
    · exact h.inj hget hget' heq
  case isOpen =>
    intro endpointId current hget
    rw [hlive] at hget
    split_ifs at hget with heq
    · obtain rfl := Option.some.inj hget
      exact ⟨hopen.1, hopen.2, Finset.notMem_erase _ _⟩
    · obtain ⟨hlt, hclosed, hhand⟩ := h.isOpen hget
      exact ⟨hlt, hclosed, fun hmem => hhand (Finset.mem_of_mem_erase hmem)⟩
  case hand_isOpen =>
    intro channel hmem
    exact h.hand_isOpen (Finset.mem_of_mem_erase hmem)
  case closed_lt => exact h.closed_lt
  case accounted =>
    intro channel hlt
    by_cases heq : channel = endpoint.channel
    · exact Or.inr (Or.inr ⟨endpoint.config.endpointId, endpoint, by rw [hlive, if_pos rfl],
        heq.symm⟩)
    · rcases h.accounted hlt with hhand | hclosed | ⟨endpointId, current, hget, hsame⟩
      · exact Or.inl (Finset.mem_erase.mpr ⟨heq, hhand⟩)
      · exact Or.inr (Or.inl hclosed)
      · have hne : endpointId ≠ endpoint.config.endpointId := by
          rintro rfl
          exact heq (hsame.symm.trans (hold current hget).2)
        exact Or.inr (Or.inr ⟨endpointId, current, by rw [hlive, if_neg hne, hget], hsame⟩)

/-- A live endpoint is taken away and its channel is closed. -/
theorem Tied.discard (h : Tied c ∅) {endpointId : String} {current : ConnectedEndpoint}
    (hcurrent : c.live.get? endpointId = some current) :
    Tied (((c.unregister current.binding endpointId).markClosed current.channel).popLive
      endpointId) ∅ := by
  have hlive : ∀ endpointId', (((c.unregister current.binding endpointId).markClosed
      current.channel).popLive endpointId).live.get? endpointId' =
        if endpointId' = endpointId then none else c.live.get? endpointId' := fun endpointId' =>
    Dict.get?_erase c.live endpointId endpointId'
  have hpool : ∀ route endpointId', (((c.unregister current.binding endpointId).markClosed
      current.channel).popLive endpointId).pool.registered route endpointId' =
        if HotSessionPool.routeKey current.binding = route ∧ endpointId = endpointId' then none
        else c.pool.registered route endpointId' := fun route endpointId' =>
    ChannelPool.registered_remove (HotSessionPool.routeKey current.binding) route endpointId
      endpointId'
  constructor
  case key =>
    intro endpointId' endpoint hget
    rw [hlive] at hget
    split_ifs at hget
    exact h.key hget
  case pooled =>
    intro endpointId' endpoint hget
    rw [hlive] at hget
    split_ifs at hget with hne
    obtain ⟨item, hitem, heq⟩ := h.pooled hget
    exact ⟨item, by rw [hpool, if_neg fun h' => hne h'.2.symm, hitem], heq⟩
  case live =>
    intro route endpointId' item hget
    rw [hpool] at hget
    split_ifs at hget with hne
    obtain ⟨endpoint, hendpoint, hroute, heq⟩ := h.live hget
    have hid : endpointId' ≠ endpointId := by
      rintro rfl
      obtain rfl := Option.some.inj (hcurrent.symm.trans hendpoint)
      exact hne ⟨hroute, rfl⟩
    exact ⟨endpoint, by rw [hlive, if_neg hid, hendpoint], hroute, heq⟩
  case inj =>
    intro endpointId₁ endpointId₂ endpoint₁ endpoint₂ hget₁ hget₂ heq
    rw [hlive] at hget₁ hget₂
    split_ifs at hget₁ hget₂
    exact h.inj hget₁ hget₂ heq
  case isOpen =>
    intro endpointId' endpoint hget
    rw [hlive] at hget
    split_ifs at hget with hne
    obtain ⟨hlt, hclosed, hhand⟩ := h.isOpen hget
    refine ⟨hlt, fun hmem => ?_, hhand⟩
    rcases Finset.mem_insert.mp hmem with heq | hmem
    · exact hne (h.inj hget hcurrent heq)
    · exact hclosed hmem
  case hand_isOpen =>
    intro channel hmem
    exact absurd hmem (by simp)
  case closed_lt =>
    intro channel hmem
    rcases Finset.mem_insert.mp hmem with rfl | hmem
    · exact (h.isOpen hcurrent).1
    · exact h.closed_lt hmem
  case accounted =>
    intro channel hlt
    rcases h.accounted hlt with hhand | hclosed | ⟨endpointId', endpoint, hget, hsame⟩
    · exact absurd hhand (by simp)
    · exact Or.inr (Or.inl (Finset.mem_insert_of_mem hclosed))
    · by_cases hid : endpointId' = endpointId
      · subst hid
        obtain rfl := Option.some.inj (hcurrent.symm.trans hget)
        exact Or.inr (Or.inl (hsame ▸ Finset.mem_insert_self _ _))
      · exact Or.inr (Or.inr ⟨endpointId', endpoint, by rw [hlive, if_neg hid, hget], hsame⟩)

end Tied

/-! ## Careful surroundings -/

/-- The channel of no live endpoint. -/
def Connections.NotLive (c : Connections) (channel : Channel) : Prop :=
  ∀ endpointId endpoint, c.live.get? endpointId = some endpoint → endpoint.channel ≠ channel

/-- The answers under which no channel is lost: `close` gets the lock only while nothing is live,
closing the channel of a live endpoint does not raise, and the probe of a new connection
succeeds. -/
def ControllerRuntime.careful (runtime : ControllerRuntime) (s : RuntimeState) :
    (i : RuntimeAwait) → i.Answer → Prop
  | .lock closing, .ok () =>
    s.connections.lockedBy = none ∧ (closing = true → s.connections.live = .empty)
  | .closeChannel channel, result => ¬s.connections.NotLive channel → result = .ok ()
  | .probe spec channel requestId, result =>
    spec ∈ runtime.config.endpoints → s.connections.NotLive channel →
      ∃ response path, result = .ok response ∧
        (runtime.observe spec requestId response s).1 = .ok path
  | i, answer => answers s i answer

/-- What drives a runtime in careful surroundings. -/
def ControllerRuntime.carefulDriver (runtime : ControllerRuntime) :
    Coroutine.Driver RuntimeState RuntimeAwait RuntimeAwait.Answer PyError (Option Response) :=
  { runtime.driver with answers := runtime.careful }

/-- Whoever has the lock is alone with the connections, and leaves them tied. -/
def connectionsContract (runtime : ControllerRuntime) :
    Contract RuntimeState RuntimeAwait RuntimeAwait.Answer where
  Inv s := s.connections.lockedBy = none → Tied s.connections ∅
  Rely t s s' := s.connections.lockedBy = some t → s'.connections = s.connections
  answers := runtime.careful
  refl _ _ _ := rfl
  trans _ _ _ _ h₁ h₂ hlock := by
    have hfirst := h₁ hlock
    exact (h₂ (hfirst ▸ hlock)).trans hfirst

/-- Task `t` has the lock, and the connections are tied but for the channels at hand. -/
def Held (t : ℕ) (hand : Finset Channel) (s : RuntimeState) : Prop :=
  s.connections.lockedBy = some t ∧ Tied s.connections hand

section Contract

variable {runtime : ControllerRuntime} {t : ℕ} {s s' : RuntimeState} {hand : Finset Channel}

/-- What leaves the connections alone is no matter to the others. -/
theorem guarantee_of_connections_eq (hs : (connectionsContract runtime).Inv s)
    (h : s'.connections = s.connections) : (connectionsContract runtime).Guarantee t s s' := by
  refine ⟨fun hfree => ?_, fun _ _ _ => h⟩
  rw [h] at hfree ⊢
  exact hs hfree

/-- While the lock is taken the invariant asks for nothing. -/
theorem inv_of_locked (hlock : s.connections.lockedBy = some t) :
    (connectionsContract runtime).Inv s := by
  intro hfree
  rw [hlock] at hfree
  cases hfree

/-- What the task with the lock does is no matter to the others. -/
theorem guarantee_of_locked (hlock : s.connections.lockedBy = some t)
    (hlock' : s'.connections.lockedBy = some t) :
    (connectionsContract runtime).Guarantee t s s' := by
  refine ⟨inv_of_locked hlock', fun t' hne hother => ?_⟩
  rw [hlock] at hother
  exact absurd (Option.some.inj hother).symm hne

/-- The rule for a change of the connections by the task with the lock. -/
theorem meets_modify {f : Connections → Connections} {Q : Unit → RuntimeState → Prop}
    {E : PyError → RuntimeState → Prop} (hlock : s.connections.lockedBy = some t)
    (hkeeps : (f s.connections).lockedBy = s.connections.lockedBy) (hQ : Q () (s.modify f)) :
    Meets (connectionsContract runtime) t (update (·.modify f)) Q E s := by
  rw [meets_update]
  exact ⟨guarantee_of_locked hlock (hkeeps.trans hlock), hQ⟩

/-- A wait of the task with the lock finds the connections as they were. -/
theorem connections_of_rely (hlock : s.connections.lockedBy = some t)
    (hrely : (connectionsContract runtime).Rely t s s') : s'.connections = s.connections :=
  hrely hlock

/-- The channel is closed. That does not raise on the channel of a live endpoint. -/
theorem meets_closeChannel (channel : Channel) (hlock : s.connections.lockedBy = some t) :
    Meets (connectionsContract runtime) t (ControllerRuntime.closeChannel channel)
      (fun _ s' => s'.connections = s.connections.markClosed channel)
      (fun _ s' => s'.connections = s.connections.markClosed channel ∧
        s.connections.NotLive channel) s := by
  rw [ControllerRuntime.closeChannel, meets_bind]
  refine meets_modify hlock rfl ?_
  rw [meets_bind, meets_answer]
  intro s' result hrely _ hresult
  have hconn : s'.connections = s.connections.markClosed channel := hrely hlock
  rw [meets_ofResult]
  refine ⟨fun _ _ => hconn, fun err herr => ⟨hconn, ?_⟩⟩
  by_contra hlive
  have hok : result = .ok () := hresult (by rw [hconn]; exact hlive)
  rw [hok] at herr
  cases herr

theorem authenticated_of_pathObservation {spec : EndpointConfig} {observedAtMs : ℤ}
    {rttMs : PyFloat} {path : PathObservation}
    (h : ControllerRuntime.pathObservation spec observedAtMs rttMs = .ok path) :
    spec.endpointId ≠ "" ∧ path.authenticated = true := by
  unfold ControllerRuntime.pathObservation at h
  split_ifs at h with hid hobserved hrtt
  rw [Except.ok.injEq] at h
  exact ⟨hid, h ▸ rfl⟩

theorem authenticated_of_observe {spec : EndpointConfig} {requestId : String} {response : Response}
    {path : PathObservation} (h : (runtime.observe spec requestId response s).1 = .ok path) :
    spec.endpointId ≠ "" ∧ path.authenticated = true := by
  unfold ControllerRuntime.observe at h
  split_ifs at h
  exact authenticated_of_pathObservation h

theorem connections_observe (runtime : ControllerRuntime) (s : RuntimeState) (spec : EndpointConfig)
    (requestId : String) (response : Response) :
    (runtime.observe spec requestId response s).2.connections = s.connections := by
  unfold ControllerRuntime.observe
  split_ifs <;> rfl

/-- A probe leaves the connections alone. It does not raise on the channel of no live endpoint. -/
theorem meets_probe {spec : EndpointConfig} (hspec : spec ∈ runtime.config.endpoints)
    (channel : Channel) (hlock : s.connections.lockedBy = some t) :
    Meets (connectionsContract runtime) t (runtime.probe spec channel)
      (fun path s' => s'.connections = s.connections ∧ spec.endpointId ≠ "" ∧
        path.authenticated = true)
      (fun _ s' => s'.connections = s.connections ∧ ¬s.connections.NotLive channel) s := by
  rw [ControllerRuntime.probe, meets_bind, meets_sync]
  refine ⟨guarantee_of_locked hlock hlock, fun requestId _ => ?_, fun err herr => by cases herr⟩
  generalize hs₁ : (runtime.probeId s).2 = s₁
  have hconn : s₁.connections = s.connections := hs₁ ▸ rfl
  rw [meets_bind, meets_answer]
  intro s₂ result hrely _ hresult
  have hconn₂ : s₂.connections = s.connections :=
    (connections_of_rely (hconn ▸ hlock) hrely).trans hconn
  have hcareful : s₂.connections.NotLive channel → ∃ response path, result = .ok response ∧
      (runtime.observe spec requestId response s₂).1 = .ok path := hresult hspec
  rw [meets_bind, meets_ofResult]
  refine ⟨fun response hok => ?_, fun err herr => ⟨hconn₂, fun hnot => ?_⟩⟩
  · rw [meets_sync]
    have hconn₃ := connections_observe runtime s₂ spec requestId response
    refine ⟨guarantee_of_locked (hconn₂ ▸ hlock) (hconn₃.trans hconn₂ ▸ hlock), fun path hpath =>
      ⟨hconn₃.trans hconn₂, authenticated_of_observe hpath⟩, fun err herr =>
      ⟨hconn₃.trans hconn₂, fun hnot => ?_⟩⟩
    obtain ⟨response', path, hresponse, hpath⟩ := hcareful (hconn₂ ▸ hnot)
    obtain rfl : response = response' := Except.ok.inj (hok.symm.trans hresponse)
    rw [hpath] at herr
    cases herr
  · obtain ⟨response', path, hresponse, -⟩ := hcareful (hconn₂ ▸ hnot)
    rw [hresponse] at herr
    cases herr

theorem sessionEndpoint_ok {spec : EndpointConfig} {path : PathObservation}
    (hid : spec.endpointId ≠ "") (hpath : path.authenticated = true) (binding : SessionBinding)
    (channel : Channel) :
    ∃ item, sessionEndpoint spec binding path channel = .ok item ∧
      item.endpointId = spec.endpointId ∧ item.binding = binding ∧ item.channel = channel := by
  unfold sessionEndpoint
  rw [dif_neg hid, dif_pos hpath]
  exact ⟨_, rfl, rfl, rfl, rfl⟩

/-- A new or probed endpoint goes into `_live` and the pool. -/
theorem meets_setLive_register {spec : EndpointConfig} {binding : SessionBinding}
    {path : PathObservation} {channel : Channel} {endpoint : ConnectedEndpoint}
    (hlock : s.connections.lockedBy = some t) (hid : spec.endpointId ≠ "")
    (hpath : path.authenticated = true)
    (htied : ∀ item : PooledEndpoint, item.endpointId = spec.endpointId → item.binding = binding →
      item.channel = channel → Tied ((s.connections.setLive endpoint).register item) ∅) :
    Meets (connectionsContract runtime) t
      (do
        update (·.modify (·.setLive endpoint))
        ControllerRuntime.register spec binding path channel)
      (fun _ => Held t ∅) (fun _ _ => False) s := by
  obtain ⟨item, hitem, hitemId, hitemBinding, hitemChannel⟩ :=
    sessionEndpoint_ok hid hpath binding channel
  rw [meets_bind]
  refine meets_modify hlock rfl ?_
  rw [ControllerRuntime.register, hitem, meets_bind, meets_ofResult]
  refine ⟨fun item' heq => ?_, fun err herr => by cases herr⟩
  obtain rfl := Except.ok.inj heq
  exact meets_modify hlock rfl ⟨hlock, htied item hitemId hitemBinding hitemChannel⟩

/-- `_connect` for an endpoint that is not live. -/
theorem meets_connect {spec : EndpointConfig} (hspec : spec ∈ runtime.config.endpoints)
    (h : Held t ∅ s)
    (hnone : s.connections.live.get? spec.endpointId = none) :
    Meets (connectionsContract runtime) t (runtime.connect spec) (fun _ => Held t ∅)
      (fun _ => Held t ∅) s := by
  rw [ControllerRuntime.connect, meets_bind, meets_read]
  refine ⟨guarantee_of_locked h.1 h.1, ?_⟩
  split
  · exact h
  · next controllerPrincipal workstationPrincipal _ =>
    rw [meets_bind, meets_answer]
    intro s₁ result hrely _ _
    have hconn₁ := connections_of_rely h.1 hrely
    have h₁ : Held t ∅ s₁ := by
      unfold Held
      rw [hconn₁]
      exact h
    rw [meets_bind, meets_ofResult]
    refine ⟨fun binding _ => ?_, fun _ _ => h₁⟩
    rw [meets_bind, meets_sync]
    refine ⟨guarantee_of_locked h₁.1 h₁.1, fun channel hchannel => ?_, fun err herr => by
      cases herr⟩
    obtain rfl : s₁.connections.opened = channel := Except.ok.inj hchannel
    -- from here on the new channel is at hand
    generalize hs₂ : (ControllerRuntime.newChannel s₁).2 = s₂
    have hconn₂ : s₂.connections = s₁.connections.addChannel := hs₂ ▸ rfl
    have hlock₂ : s₂.connections.lockedBy = some t := hconn₂ ▸ h₁.1
    have h₂ : Tied s₂.connections {s₁.connections.opened} := hconn₂ ▸ h₁.2.addChannel
    have hclose : ∀ exc : PyError, Meets (connectionsContract runtime) t
        (do
          ControllerRuntime.closeChannel s₁.connections.opened
          throw exc) (fun _ : Unit => Held t ∅) (fun _ => Held t ∅) s₂ := by
      intro exc
      rw [meets_bind]
      have hheld : ∀ {s₃ : RuntimeState},
          s₃.connections = s₂.connections.markClosed s₁.connections.opened → Held t ∅ s₃ := by
        intro s₃ hconn₃
        unfold Held
        rw [hconn₃]
        exact ⟨hlock₂, h₂.markClosed⟩
      exact (meets_closeChannel _ hlock₂).imp (inv_of_locked hlock₂) (fun _ _ _ h => hheld h)
        fun _ _ _ h => hheld h.1
    split_ifs
    · exact hclose _
    · exact hclose _
    · rw [meets_bind]
      refine (meets_probe hspec _ hlock₂).imp (inv_of_locked hlock₂) (fun path s₃ _ hprobe => ?_)
        fun err s₃ _ hfail => ?_
      · obtain ⟨hconn₃, hid, hpath⟩ := hprobe
        have hlock₃ : s₃.connections.lockedBy = some t := hconn₃ ▸ hlock₂
        refine (meets_setLive_register hlock₃ hid hpath fun item hitemId hitemBinding
          hitemChannel => ?_).imp (inv_of_locked hlock₃) (fun _ _ _ h => h) fun _ _ _ h => h.elim
        rw [hconn₃]
        have hput := h₂.put ⟨⟨spec, binding, path⟩, s₁.connections.opened⟩
          hitemId hitemBinding hitemChannel (fun current hcurrent => ?_)
          (fun endpointId current hcurrent heq => ?_)
          (h₂.hand_isOpen (Finset.mem_singleton_self _))
        · simpa using hput
        · rw [hconn₂] at hcurrent
          change s₁.connections.live.get? spec.endpointId = some current at hcurrent
          rw [hconn₁, hnone] at hcurrent
          cases hcurrent
        · exact absurd (Finset.mem_singleton.mpr heq) (h₂.isOpen hcurrent).2.2
      · -- the channel at hand is that of no live endpoint, so the probe does not raise
        refine absurd (fun endpointId endpoint hlive heq => ?_) hfail.2
        exact (h₂.isOpen hlive).2.2 (Finset.mem_singleton.mpr heq)

/-- An exception of `_connect` is passed over, or passed on. -/
theorem meets_tryConnect {spec : EndpointConfig} (hspec : spec ∈ runtime.config.endpoints)
    (h : Held t ∅ s)
    (hnone : s.connections.live.get? spec.endpointId = none) :
    Meets (connectionsContract runtime) t (runtime.tryConnect spec) (fun _ => Held t ∅)
      (fun _ => Held t ∅) s := by
  rw [ControllerRuntime.tryConnect, meets_tryCatch]
  refine (meets_connect hspec h hnone).imp (inv_of_locked h.1) (fun _ _ _ h => h) fun exc s' _ h' => ?_
  split_ifs
  · exact h'
  · exact h'

/-- A live endpoint is taken away. -/
theorem meets_discard {spec : EndpointConfig} {current : ConnectedEndpoint} (h : Held t ∅ s)
    (hcurrent : s.connections.live.get? spec.endpointId = some current) :
    Meets (connectionsContract runtime) t (ControllerRuntime.discard spec current)
      (fun _ s' => Held t ∅ s' ∧ s'.connections.live.get? spec.endpointId = none)
      (fun _ _ => False) s := by
  rw [ControllerRuntime.discard, meets_bind]
  refine meets_modify h.1 rfl ?_
  rw [meets_bind]
  refine (meets_closeChannel _ (by exact h.1)).imp (inv_of_locked (by exact h.1))
    (fun _ s' _ hconn => ?_) fun _ _ _ hfail => hfail.2 spec.endpointId current hcurrent rfl
  have hlock : s'.connections.lockedBy = some t := hconn ▸ h.1
  refine meets_modify hlock rfl ⟨⟨hlock, ?_⟩, ?_⟩
  · change Tied (s'.connections.popLive spec.endpointId) ∅
    rw [hconn]
    exact h.2.discard hcurrent
  · exact Dict.get?_erase_self _ _

/-- The probe of a live endpoint. If it raises, nothing has changed. -/
theorem meets_reprobe {spec : EndpointConfig} (hspec : spec ∈ runtime.config.endpoints)
    {current : ConnectedEndpoint} (h : Held t ∅ s)
    (hcurrent : s.connections.live.get? spec.endpointId = some current) :
    Meets (connectionsContract runtime) t (runtime.reprobe spec current) (fun _ => Held t ∅)
      (fun _ s' => s'.connections = s.connections) s := by
  rw [ControllerRuntime.reprobe, meets_bind]
  refine (meets_probe hspec _ h.1).imp (inv_of_locked h.1) (fun path s' _ hprobe => ?_)
    fun _ _ _ hfail => hfail.1
  obtain ⟨hconn, hid, hpath⟩ := hprobe
  have hlock : s'.connections.lockedBy = some t := hconn ▸ h.1
  have hkey : current.config.endpointId = spec.endpointId := h.2.key hcurrent
  refine (meets_setLive_register hlock hid hpath fun item hitemId hitemBinding
    hitemChannel => ?_).imp (inv_of_locked hlock) (fun _ _ _ h => h) fun _ _ _ h => h.elim
  rw [hconn]
  have hput := h.2.put { current with path } (hitemId.trans hkey.symm) hitemBinding
    hitemChannel (fun old hold => ?_) (fun endpointId old hold heq => ?_)
    ⟨(h.2.isOpen hcurrent).1, (h.2.isOpen hcurrent).2.1⟩
  · simpa using hput
  · change s.connections.live.get? current.config.endpointId = some old at hold
    rw [hkey, hcurrent] at hold
    obtain rfl := Option.some.inj hold
    exact ⟨rfl, rfl⟩
  · exact (h.2.inj hold hcurrent heq).trans hkey.symm

/-- One turn of the loop of `_refresh_locked`. -/
theorem meets_refreshEndpoint (now : ℤ) {spec : EndpointConfig}
    (hspec : spec ∈ runtime.config.endpoints) (h : Held t ∅ s) :
    Meets (connectionsContract runtime) t (runtime.refreshEndpoint now spec) (fun _ => Held t ∅)
      (fun _ => Held t ∅) s := by
  rw [ControllerRuntime.refreshEndpoint, meets_bind, meets_read]
  refine ⟨guarantee_of_locked h.1 h.1, ?_⟩
  split
  · next hnone => exact meets_tryConnect hspec h hnone
  · next current hcurrent =>
    have hdiscard : ∀ {s' : RuntimeState}, s'.connections = s.connections →
        Meets (connectionsContract runtime) t (ControllerRuntime.discard spec current)
          (fun _ s' => Held t ∅ s' ∧ s'.connections.live.get? spec.endpointId = none)
          (fun _ _ => False) s' := by
      intro s' hconn
      refine meets_discard ?_ (hconn ▸ hcurrent)
      unfold Held
      rw [hconn]
      exact h
    split_ifs
    · -- the probe succeeds, or the endpoint is taken away and connected again
      rw [meets_bind, meets_tryCatch, meets_bind]
      refine (meets_reprobe hspec h hcurrent).imp (inv_of_locked h.1) (fun _ s' _ h' => ?_)
        fun exc s' _ hconn => ?_
      · exact h'
      · have hlock : s'.connections.lockedBy = some t := hconn ▸ h.1
        split_ifs
        · rw [meets_bind]
          refine (hdiscard hconn).imp (inv_of_locked hlock) (fun _ s'' _ h'' => ?_)
            fun _ _ _ h => h.elim
          exact meets_tryConnect hspec h''.1 h''.2
        · change Held t ∅ s'
          unfold Held
          rw [hconn]
          exact h
    · rw [meets_bind]
      refine (hdiscard rfl).imp (inv_of_locked h.1) (fun _ s' _ h' => ?_) fun _ _ _ h => h.elim
      exact meets_tryConnect hspec h'.1 h'.2

/-- The loop of `_refresh_locked`. -/
theorem meets_refreshEndpoints (now : ℤ) {specs : List EndpointConfig}
    (hspecs : specs ⊆ runtime.config.endpoints) (h : Held t ∅ s) :
    Meets (connectionsContract runtime) t (runtime.refreshEndpoints now specs)
      (fun _ => Held t ∅) (fun _ => Held t ∅) s := by
  induction specs generalizing s with
  | nil => exact h
  | cons spec rest ih =>
    rw [ControllerRuntime.refreshEndpoints, meets_bind]
    obtain ⟨hspec, hrest⟩ := List.cons_subset.mp hspecs
    exact (meets_refreshEndpoint now hspec h).imp (inv_of_locked h.1)
      (fun _ _ _ h' => ih hrest h') fun _ _ _ h' => h'

/-- What `ensure_started` and `refresh_paths` do under the lock. -/
theorem meets_refreshed (h : Held t ∅ s) :
    Meets (connectionsContract runtime) t runtime.refreshed (fun _ => Held t ∅)
      (fun _ => Held t ∅) s := by
  have hload : (runtime.loadIdentities s).2.connections = s.connections := by
    unfold ControllerRuntime.loadIdentities
    split
    · rfl
    · split <;> rfl
  rw [ControllerRuntime.refreshed, meets_bind, meets_sync]
  have h₁ : Held t ∅ (runtime.loadIdentities s).2 := by
    unfold Held
    rw [hload]
    exact h
  refine ⟨guarantee_of_locked h.1 h₁.1, fun _ _ => ?_, fun _ _ => h₁⟩
  rw [meets_bind, ControllerRuntime.refreshLocked, meets_bind, meets_sync]
  refine ⟨guarantee_of_locked h₁.1 h₁.1, fun now _ => ?_, fun err herr => by cases herr⟩
  refine (meets_refreshEndpoints now (List.Subset.refl _) (by exact h₁)).imp (inv_of_locked (by exact h₁.1))
    (fun _ s' _ h' => ?_) fun _ _ _ h' => h'
  rw [meets_bind, meets_read]
  refine ⟨guarantee_of_locked h'.1 h'.1, ?_⟩
  split_ifs
  · exact h'
  · exact h'

/-- The rule for `async with self._lock`. -/
theorem meets_withLock {α : Type} {closing : Bool} {body : RuntimeTask α}
    (hbody : ∀ s, Held t ∅ s → (closing = true → s.connections.live = .empty) →
      Meets (connectionsContract runtime) t body (fun _ => Held t ∅) (fun _ => Held t ∅) s) :
    Meets (connectionsContract runtime) t (ControllerRuntime.withLock closing t body)
      (fun _ _ => True) (fun _ _ => True) s := by
  rw [ControllerRuntime.withLock, meets_bind, meets_answer]
  intro s₁ result _ hinv hresult
  rw [meets_bind, meets_ofResult]
  refine ⟨fun granted hgranted => ?_, fun _ _ => trivial⟩
  subst hgranted
  obtain ⟨hfree, hempty⟩ : s₁.connections.lockedBy = none ∧
      (closing = true → s₁.connections.live = .empty) := hresult
  have htied : Tied s₁.connections ∅ := hinv hfree
  have htaken : Tied (s₁.connections.setLock (some t)) ∅ := ⟨htied.key, htied.pooled, htied.live,
    htied.inj, htied.isOpen, htied.hand_isOpen, htied.closed_lt, htied.accounted⟩
  have hrelease : ∀ {s' : RuntimeState}, Held t ∅ s' →
      (connectionsContract runtime).Guarantee t s' (s'.modify (·.setLock none)) := by
    intro s' h'
    refine ⟨fun _ => ⟨h'.2.key, h'.2.pooled, h'.2.live, h'.2.inj, h'.2.isOpen, h'.2.hand_isOpen,
      h'.2.closed_lt, h'.2.accounted⟩, fun t' hne hother => ?_⟩
    rw [h'.1] at hother
    exact absurd (Option.some.inj hother).symm hne
  rw [meets_bind, meets_update]
  refine ⟨⟨inv_of_locked rfl, fun t' _ hother => ?_⟩, ?_⟩
  · rw [hfree] at hother
    cases hother
  rw [meets_bind, meets_tryCatch]
  have htaken' : Held t ∅ (s₁.modify (·.setLock (some t))) := ⟨rfl, htaken⟩
  refine (hbody _ htaken' hempty).imp (inv_of_locked htaken'.1) (fun _ s' _ h' => ?_)
    fun exc s' _ h' => ?_
  · rw [meets_bind, meets_update]
    exact ⟨hrelease h', trivial⟩
  · rw [meets_bind, meets_update]
    exact ⟨hrelease h', trivial⟩

theorem meets_ensureStarted :
    Meets (connectionsContract runtime) t (runtime.ensureStarted t) (fun _ _ => True)
      (fun _ _ => True) s := by
  refine meets_withLock fun s h _ => ?_
  rw [meets_bind]
  refine (meets_refreshed h).imp (inv_of_locked h.1) (fun _ s' _ h' => ?_) fun _ _ _ h' => h'
  rw [meets_update]
  exact ⟨guarantee_of_locked h'.1 h'.1, h'⟩

/-- `close` while nothing is live. -/
theorem meets_close :
    Meets (connectionsContract runtime) t (ControllerRuntime.close t) (fun _ _ => True)
      (fun _ _ => True) s := by
  refine meets_withLock fun s h hempty => ?_
  rw [meets_bind, meets_read]
  refine ⟨guarantee_of_locked h.1 h.1, ?_⟩
  rw [hempty rfl, meets_bind]
  refine meets_modify h.1 rfl ⟨h.1, ?_⟩
  change Tied ({ s.connections with live := .empty } : Connections) ∅
  rw [← hempty rfl]
  exact h.2

/-! ## The other operations

They leave the connections alone once the runtime is started. -/

/-- Nothing is promised about how a call ends. -/
theorem Meets.trivial_of {α : Type} {c : RuntimeTask α} {Q : α → RuntimeState → Prop}
    {E : PyError → RuntimeState → Prop} (hs : (connectionsContract runtime).Inv s)
    (h : Meets (connectionsContract runtime) t c Q E s) :
    Meets (connectionsContract runtime) t c (fun _ _ => True) (fun _ _ => True) s :=
  h.imp hs (fun _ _ _ _ => trivial) fun _ _ _ _ => trivial

theorem meets_requestLoop (call : HotSessionPool.Call) (requestId operation : String)
    (candidates : List PooledEndpoint) (state : HotSessionPool.RetryState)  :
    Meets (connectionsContract runtime) t
      (ControllerRuntime.requestLoop call requestId operation candidates state) (fun _ _ => True)
      (fun _ _ => True) s := by
  induction hleft : (state.untried (ControllerRuntime.sessions candidates)).length using
    Nat.strong_induction_on generalizing state s with
  | _ left ih =>
    rw [ControllerRuntime.requestLoop]
    split
    · trivial
    · trivial
    · split
      · trivial
      · intro s' answer _ _ _
        beta_reduce
        split
        · rw [meets_ofResult]
          exact ⟨fun _ _ => trivial, fun _ _ => trivial⟩
        · next state' hagain =>
          exact ih _ (hleft ▸ HotSessionPool.turn_again_untried_lt hagain) state' rfl

theorem meets_gatewayCall (operation : String) (body : Request)
    (hs : (connectionsContract runtime).Inv s) :
    Meets (connectionsContract runtime) t (runtime.gatewayCall operation body) (fun _ _ => True)
      (fun _ _ => True) s := by
  rw [ControllerRuntime.gatewayCall, meets_bind, meets_read]
  refine ⟨guarantee_of_connections_eq hs rfl, ?_⟩
  rw [meets_bind, meets_ofResult]
  refine ⟨fun principals _ => ?_, fun _ _ => trivial⟩
  dsimp only
  split_ifs
  · rw [meets_bind, meets_sync]
    have hdrawn : (connectionsContract runtime).Guarantee t s (runtime.drawRequestId s).2 :=
      guarantee_of_connections_eq hs rfl
    refine ⟨hdrawn, fun requestId _ => ?_, fun _ _ => trivial⟩
    split_ifs
    · trivial
    · rw [meets_bind, meets_sync]
      have hnow : (connectionsContract runtime).Guarantee t (runtime.drawRequestId s).2
          (runtime.now (runtime.drawRequestId s).2).2 := guarantee_of_connections_eq hdrawn.1 rfl
      refine ⟨hnow, fun nowMs _ => ?_, fun _ _ => trivial⟩
      rw [ControllerRuntime.poolRequest, meets_bind, meets_ofResult]
      refine ⟨fun _ _ => ?_, fun _ _ => trivial⟩
      rw [meets_bind, meets_read]
      exact ⟨guarantee_of_connections_eq hnow.1 rfl, meets_requestLoop _ _ _ _ _⟩
  · trivial

theorem meets_routed {α : Type} (c : ReadLaneTask α) (hs : (connectionsContract runtime).Inv s) :
    Meets (connectionsContract runtime) t (ControllerRuntime.routed c) (fun _ _ => True)
      (fun _ _ => True) s := by
  rw [ControllerRuntime.routed]
  refine meets_zoom _ _ _ _ (fun s' reads hs' => ?_) c hs
  exact guarantee_of_connections_eq hs' rfl

theorem meets_byOwner (laneId fencingToken : PyValue)
    (mirrored : String → ℤ → ReadLaneTask Response) (operation : String) (body : Request)
    (hs : (connectionsContract runtime).Inv s) :
    Meets (connectionsContract runtime) t
      (ControllerRuntime.byOwner laneId fencingToken mirrored (runtime.gatewayCall operation body))
      (fun _ _ => True) (fun _ _ => True) s := by
  rw [ControllerRuntime.byOwner, meets_bind, meets_read]
  refine ⟨guarantee_of_connections_eq hs rfl, ?_⟩
  split
  · exact meets_routed _ hs
  · exact meets_gatewayCall operation body hs

/-- A call that starts the runtime and goes on without the lock. -/
theorem meets_started {c : RuntimeTask Response} (hs : (connectionsContract runtime).Inv s)
    (h : ∀ s, (connectionsContract runtime).Inv s →
      Meets (connectionsContract runtime) t c (fun _ _ => True) (fun _ _ => True) s) :
    Meets (connectionsContract runtime) t
      (some <$> do
        runtime.ensureStarted t
        c) (fun _ _ => True) (fun _ _ => True) s := by
  have hcall : Meets (connectionsContract runtime) t
      (do
        runtime.ensureStarted t
        c) (fun _ _ => True) (fun _ _ => True) s :=
    meets_bind.mpr (meets_ensureStarted.imp hs (fun _ s' hs' _ => h s' hs') fun _ _ _ h' => h')
  exact meets_bind.mpr (hcall.imp hs (fun _ _ _ _ => trivial) fun _ _ _ h' => h')

theorem meets_run (call : RuntimeCall) (hs : (connectionsContract runtime).Inv s) :
    Meets (connectionsContract runtime) t (call.run runtime t) (fun _ _ => True)
      (fun _ _ => True) s := by
  cases call with
  | ensureStarted =>
    exact meets_bind.mpr (meets_ensureStarted.imp hs (fun _ _ _ _ => trivial) fun _ _ _ h => h)
  | refreshPaths =>
    refine meets_bind.mpr (Meets.imp (meets_withLock fun s h _ => meets_refreshed h) hs
      (fun _ _ _ _ => trivial) fun _ _ _ h => h)
  | close => exact meets_bind.mpr (meets_close.imp hs (fun _ _ _ _ => trivial) fun _ _ _ h => h)
  | listLanes => exact meets_started hs fun s hs' => meets_gatewayCall _ _ hs'
  | openLane args =>
    refine meets_started hs fun s hs' => ?_
    split_ifs
    · exact meets_routed _ hs'
    · exact meets_gatewayCall _ _ hs'
  | renewLane laneId fencingToken ttlS =>
    exact meets_started hs fun s hs' => meets_byOwner _ _ _ _ _ hs'
  | closeLane laneId fencingToken =>
    exact meets_started hs fun s hs' => meets_byOwner _ _ _ _ _ hs'
  | readText laneId fencingToken path encoding =>
    exact meets_started hs fun s hs' => meets_byOwner _ _ _ _ _ hs'
  | readBytes laneId fencingToken path offset maxBytes expectedFileVersion =>
    refine meets_started hs fun s hs' => ?_
    split_ifs
    · exact meets_byOwner _ _ _ _ _ hs'
    · trivial
  | readOperation operation kwargs =>
    refine meets_started hs fun s hs' => ?_
    split_ifs
    · exact meets_byOwner _ _ _ _ _ hs'
    · trivial
    · trivial
    · trivial
  | writeText laneId fencingToken path content encoding =>
    exact meets_started hs fun s hs' => meets_gatewayCall _ _ hs'
  | callOperation operation body =>
    exact meets_bind.mpr ((meets_gatewayCall _ _ hs).imp hs (fun _ _ _ _ => trivial)
      fun _ _ _ h => h)

end Contract

/-! ## Runs -/

/-- A channel is that of exactly one live endpoint and registered under its id, or it was closed and
is registered nowhere. -/
def Connections.Conserved (c : Connections) (channel : Channel) : Prop :=
  (∃ endpointId endpoint, c.live.get? endpointId = some endpoint ∧ endpoint.channel = channel ∧
    (∀ endpointId' endpoint', c.live.get? endpointId' = some endpoint' →
      endpoint'.channel = channel → endpointId' = endpointId) ∧
    (∃ item, c.pool.registered (HotSessionPool.routeKey endpoint.binding) endpointId = some item ∧
      item.channel = channel) ∧
    ∀ route endpointId' item, c.pool.registered route endpointId' = some item →
      item.channel = channel →
      route = HotSessionPool.routeKey endpoint.binding ∧ endpointId' = endpointId) ∨
  channel ∈ c.closed ∧ c.NotLive channel ∧
    ∀ route endpointId item, c.pool.registered route endpointId = some item →
      item.channel ≠ channel

theorem Tied.conserved {c : Connections} (h : Tied c ∅) {channel : Channel}
    (hlt : channel < c.opened) : c.Conserved channel := by
  rcases h.accounted hlt with hhand | hclosed | ⟨endpointId, endpoint, hlive, rfl⟩
  · exact absurd hhand (by simp)
  · refine Or.inr ⟨hclosed, fun endpointId endpoint hlive heq => ?_,
      fun route endpointId item hitem heq => ?_⟩
    · exact (h.isOpen hlive).2.1 (heq ▸ hclosed)
    · obtain ⟨endpoint, hlive, -, hsame⟩ := h.live hitem
      exact (h.isOpen hlive).2.1 (hsame.trans heq ▸ hclosed)
  · refine Or.inl ⟨endpointId, endpoint, hlive, rfl, fun _ _ hlive' heq => h.inj hlive' hlive heq,
      h.pooled hlive, fun route endpointId' item hitem heq => ?_⟩
    obtain ⟨endpoint', hlive', hroute, hsame⟩ := h.live hitem
    obtain rfl := h.inj hlive' hlive (hsame.trans heq)
    obtain rfl := Option.some.inj (hlive'.symm.trans hlive)
    exact ⟨hroute.symm, rfl⟩

theorem tied_init : Tied RuntimeState.init.connections ∅ where
  key h := by cases h
  pooled h := by cases h
  live h := by cases h
  inj h := by cases h
  isOpen h := by cases h
  hand_isOpen h := absurd h (by simp)
  closed_lt h := absurd h (Finset.notMem_empty _)
  accounted h := absurd h (Nat.not_lt_zero _)

/-- In careful surroundings every channel is conserved, whenever no operation has the lock. -/
theorem channels_conserved (runtime : ControllerRuntime)
    {sys : System RuntimeState RuntimeAwait RuntimeAwait.Answer PyError (Option Response)}
    (h : Reachable runtime.carefulDriver .init sys)
    (hfree : sys.state.connections.lockedBy = none) {channel : Channel}
    (hopened : channel < sys.state.connections.opened) :
    sys.state.connections.Conserved channel := by
  have hcovers : (connectionsContract runtime).Covers runtime.carefulDriver := by
    refine ⟨fun {s t c} hs hcall => ?_, fun hr => hr, fun _ henv => henv.elim⟩
    obtain ⟨call, rfl⟩ := hcall
    exact meets_run call hs
  have hinv : (connectionsContract runtime).Inv sys.state :=
    hcovers.inv (fun _ => tied_init) h
  exact (hinv hfree).conserved hopened

/-- As `exampleRuntimeReply`, but `close` gets the lock only while nothing is live. -/
def exampleCarefulReply (s : RuntimeState) : (i : RuntimeAwait) → i.Answer
  | .lock closing =>
    if s.connections.lockedBy = none ∧ (closing = true → s.connections.live = .empty) then .ok ()
    else .error ⟨.cancelledError, ""⟩
  | i => exampleRuntimeReply s i

/-- The runtime of `exampleRuntime` with every operation allowed. -/
def exampleOpenRuntime : ControllerRuntime := exampleRuntime allOperations

theorem careful_exampleCarefulReply (s : RuntimeState) (i : RuntimeAwait) :
    exampleOpenRuntime.careful s i (exampleCarefulReply s i) := by
  cases i with
  | lock closing =>
    unfold exampleCarefulReply
    dsimp only
    split
    · next hfree => exact hfree
    · rfl
  | openSession spec => trivial
  | probe spec channel requestId =>
    intro hspec _
    obtain rfl : spec = (directEndpoint "").config := List.mem_singleton.mp hspec
    refine ⟨_, (directEndpoint "").path, rfl, ?_⟩
    unfold ControllerRuntime.observe
    rw [if_neg (by simp [ControllerRuntime.probeAccepted, isOk, Dict.ofList, Dict.get?_set])]
    rfl
  | closeChannel channel => exact fun _ => rfl
  | pooled channel request => trivial
  | router i => exact answers_exampleReply s.reads i

/-- The state after `refresh_paths` alone. -/
def exampleRefresh (reply : RuntimeState → (i : RuntimeAwait) → i.Answer) : RuntimeState :=
  (eval reply (RuntimeCall.refreshPaths.run exampleOpenRuntime 0) .init).2

/-- A channel is opened, and conserved. -/
theorem channels_conserved_exampleRefresh :
    (exampleRefresh exampleCarefulReply).connections.Conserved 0 := by
  have hinit : Reachable exampleOpenRuntime.carefulDriver .init ⟨.init, []⟩ := .refl
  have hcall : exampleOpenRuntime.carefulDriver.calls .init 0
      (RuntimeCall.refreshPaths.run exampleOpenRuntime 0) := ⟨.refreshPaths, rfl⟩
  exact channels_conserved exampleOpenRuntime (hinit.eval hcall careful_exampleCarefulReply)
    (by decide +kernel) (by decide +kernel)

/-- As `exampleRuntimeReply`, but probes are lost. -/
def exampleLostProbes (s : RuntimeState) : (i : RuntimeAwait) → i.Answer
  | .probe _ _ _ => .error ⟨.streamClosed, ""⟩
  | i => exampleRuntimeReply s i

theorem answers_exampleLostProbes (s : RuntimeState) (i : RuntimeAwait) :
    ControllerRuntime.answers s i (exampleLostProbes s i) := by
  cases i with
  | probe spec channel requestId => trivial
  | _ => exact answers_exampleRuntimeReply s _

/-- The state after `refresh_paths` and `close`. -/
def exampleClosed : RuntimeState :=
  (eval exampleRuntimeReply (RuntimeCall.close.run exampleOpenRuntime 1)
    (exampleRefresh exampleRuntimeReply)).2

theorem not_conserved {c : Connections} {channel : Channel} (hempty : c.live = .empty)
    (hlost : channel ∈ c.closed → ∃ route endpointId item,
      c.pool.registered route endpointId = some item ∧ item.channel = channel) :
    ¬c.Conserved channel := by
  rintro (⟨endpointId, endpoint, hlive, -⟩ | ⟨hclosed, -, hnowhere⟩)
  · rw [hempty] at hlive
    cases hlive
  · obtain ⟨route, endpointId, item, hitem, heq⟩ := hlost hclosed
    exact hnowhere route endpointId item hitem heq

/-- After a lost probe the new channel is neither live nor closed. After `close` the channel of a
live endpoint is closed and still registered. -/
theorem not_channels_conserved :
    (∃ sys, Reachable exampleOpenRuntime.driver .init sys ∧ sys.state = exampleRefresh
        exampleLostProbes ∧ sys.state.connections.lockedBy = none ∧
      0 < sys.state.connections.opened ∧ ¬sys.state.connections.Conserved 0) ∧
    ∃ sys, Reachable exampleOpenRuntime.driver .init sys ∧ sys.state = exampleClosed ∧
      sys.state.connections.lockedBy = none ∧ 0 < sys.state.connections.opened ∧
      ¬sys.state.connections.Conserved 0 := by
  have hinit : Reachable exampleOpenRuntime.driver .init ⟨.init, []⟩ := .refl
  have hrefresh : ∀ s, exampleOpenRuntime.driver.calls s 0
      (RuntimeCall.refreshPaths.run exampleOpenRuntime 0) := fun _ => ⟨.refreshPaths, rfl⟩
  have hclose : ∀ s, exampleOpenRuntime.driver.calls s 1
      (RuntimeCall.close.run exampleOpenRuntime 1) := fun _ => ⟨.close, rfl⟩
  constructor
  · refine ⟨_, hinit.eval (hrefresh _) answers_exampleLostProbes, rfl, by decide +kernel,
      by decide +kernel, not_conserved (by decide +kernel) fun hclosed => ?_⟩
    exact absurd hclosed (by decide +kernel)
  · refine ⟨_, (hinit.eval (hrefresh _) answers_exampleRuntimeReply).eval (hclose _)
      answers_exampleRuntimeReply, rfl, by decide +kernel, by decide +kernel,
      not_conserved (by decide +kernel) fun _ => ?_⟩
    have hitem : ((exampleClosed.connections.pool.registered ("workstation:w", "controller:c")
        "direct").map (·.channel)) = some 0 := by decide +kernel
    obtain ⟨item, hregistered, hchannel⟩ := Option.map_eq_some_iff.mp hitem
    exact ⟨_, _, item, hregistered, hchannel⟩

end VeraMesh
