import VeraMesh.Stream.Multiplex

/-!
# Correlation of responses

What the pending table of `MultiplexClient` says about the calls of `request`. A frame completes
only the call that is registered under its id. A call that fails removes the entry under its id
without looking whose it is, and a second `close` returns while the first still waits; where
neither matters, no two outstanding calls share an id, and `close` and a failing reader leave no
call waiting.

* `MultiplexClient.Correlated`: which frames complete which calls, in every run.
* `MultiplexClient.Careful`: the events that do not touch the entries of other calls.
* `MultiplexClient.Live`: every outstanding call is in the table.
* `MultiplexClient.Live.shut_failed`: what the step that shuts the client does to the calls.
* `responses_correlated`: the properties of all runs and of the careful ones.
-/

namespace VeraMesh

open Python

/-- The call has not ended, and its future is not done. -/
def RequestTask.Outstanding (r : RequestTask) : Prop :=
  (∀ n, r.stage ≠ .returned n) ∧ r.stage ≠ .raised ∧ r.future.done = false

/-- The call has raised, or will raise the exception of its future. -/
def RequestTask.Failed (r : RequestTask) : Prop :=
  r.stage = .raised ∨ ∃ exc, r.future = .exception exc

/-- How a call changes where no frame completes it. -/
structure RequestTask.Evolves (r r' : RequestTask) : Prop where
  requestId_eq : r'.requestId = r.requestId
  registeredAt_eq : r'.registeredAt = r.registeredAt
  result : ∀ n, r'.future = .result n → r.future = .result n
  done : r.future.done = true → r'.future = r.future
  returned : ∀ n, r'.stage = .returned n → r.stage = .returned n ∨ r.future = .result n

namespace RequestTask.Evolves

variable {r r' r'' : RequestTask}

protected theorem refl (r : RequestTask) : r.Evolves r :=
  ⟨rfl, rfl, fun _ h => h, fun _ => rfl, fun _ h => Or.inl h⟩

protected theorem trans (h : r.Evolves r') (h' : r'.Evolves r'') : r.Evolves r'' where
  requestId_eq := h'.requestId_eq.trans h.requestId_eq
  registeredAt_eq := h'.registeredAt_eq.trans h.registeredAt_eq
  result n hn := h.result n (h'.result n hn)
  done hdone := by
    have heq := h.done hdone
    rw [← heq] at hdone
    exact (h'.done hdone).trans heq
  returned n hn := by
    rcases h'.returned n hn with hold | hresult
    · exact h.returned n hold
    · exact Or.inr (h.result n hresult)

/-- A call goes on to another stage. It returns only a frame that completed it. -/
theorem stage (r : RequestTask) (stage : RequestStage)
    (h : ∀ n, stage = .returned n → r.future = .result n) : r.Evolves { r with stage } :=
  ⟨rfl, rfl, fun _ h => h, fun _ => rfl, fun n hn => Or.inr (h n hn)⟩

/-- A future that is not done is cancelled or gets an exception. -/
theorem future (r : RequestTask) (future : FutureState) (h : ∀ n, future ≠ .result n) :
    r.Evolves { r with future := if r.future.done = true then r.future else future } where
  requestId_eq := rfl
  registeredAt_eq := rfl
  result n hn := by
    dsimp only at hn
    split_ifs at hn
    · exact hn
    · exact absurd hn (h n)
  done hdone := if_pos hdone
  returned _ hn := Or.inl hn

end RequestTask.Evolves

namespace MultiplexClient

variable {config : ClientConfig} {s s' s'' : MultiplexClient} {f : ℕ} {r : RequestTask}

/-- A call of `close` has come to its end, or the reader has failed. -/
def Shut (s : MultiplexClient) : Prop := s.closeFinished = true ∨ s.reader = .failed

/-- How the client changes where it reads no frame and registers no call. -/
structure Evolves (s s' : MultiplexClient) : Prop where
  frames_eq : s'.frames = s.frames
  length_eq : s'.requests.length = s.requests.length
  entry : ∀ requestId f, s'.pending.get? requestId = some f → s.pending.get? requestId = some f
  request : ∀ (f : ℕ) (r' : RequestTask), s'.requests[f]? = some r' →
    ∃ r, s.requests[f]? = some r ∧ r.Evolves r'
  closed_of : s.closed = true → s'.closed = true
  shut_of : s.Shut → s'.Shut

namespace Evolves

protected theorem refl (s : MultiplexClient) : s.Evolves s :=
  ⟨rfl, rfl, fun _ _ h => h, fun _ r h => ⟨r, h, .refl r⟩, id, id⟩

protected theorem trans (h : s.Evolves s') (h' : s'.Evolves s'') : s.Evolves s'' where
  frames_eq := h'.frames_eq.trans h.frames_eq
  length_eq := h'.length_eq.trans h.length_eq
  entry requestId f hf := h.entry requestId f (h'.entry requestId f hf)
  request f r'' hr'' := by
    obtain ⟨r', hr', hevolves'⟩ := h'.request f r'' hr''
    obtain ⟨r, hr, hevolves⟩ := h.request f r' hr'
    exact ⟨r, hr, hevolves.trans hevolves'⟩
  closed_of hclosed := h'.closed_of (h.closed_of hclosed)
  shut_of hshut := h'.shut_of (h.shut_of hshut)

/-- A change that leaves the calls alone. -/
theorem of_requests_eq (hframes : s'.frames = s.frames) (hrequests : s'.requests = s.requests)
    (hpending : s'.pending = s.pending) (hclosed : s.closed = true → s'.closed = true)
    (hshut : s.Shut → s'.Shut) : s.Evolves s' :=
  ⟨hframes, by rw [hrequests], fun _ _ h => hpending ▸ h,
    fun _ r h => ⟨r, hrequests ▸ h, .refl r⟩, hclosed, hshut⟩

/-- One call changes. -/
theorem modify {g : RequestTask → RequestTask}
    (h : ∀ r, s.requests[f]? = some r → r.Evolves (g r)) (hframes : s'.frames = s.frames)
    (hrequests : s'.requests = s.requests.modify f g)
    (hpending : ∀ requestId f', s'.pending.get? requestId = some f' →
      s.pending.get? requestId = some f')
    (hclosed : s.closed = true → s'.closed = true) (hshut : s.Shut → s'.Shut) :
    s.Evolves s' := by
  refine ⟨hframes, by rw [hrequests, List.length_modify], hpending, fun f' r' hr' => ?_,
    hclosed, hshut⟩
  rw [hrequests, List.getElem?_modify] at hr'
  obtain ⟨r, hr, rfl⟩ := Option.map_eq_some_iff.mp hr'
  refine ⟨r, hr, ?_⟩
  split_ifs with hf
  · exact h r (hf ▸ hr)
  · exact .refl r

end Evolves

theorem get?_erase_of_eq_some {d : Dict String ℕ} {k k' : String} {n : ℕ}
    (h : (d.erase k).get? k' = some n) : d.get? k' = some n := by
  rw [Dict.get?_erase] at h
  split_ifs at h
  exact h

theorem evolves_goTo {stage : RequestStage}
    (h : ∀ r n, s.requests[f]? = some r → stage = .returned n → r.future = .result n) :
    s.Evolves (s.goTo f stage) :=
  .modify (fun r hr => .stage r stage fun n => h r n hr) rfl rfl (fun _ _ h => h) id id

theorem evolves_cancelFuture (s : MultiplexClient) (f : ℕ) : s.Evolves (s.cancelFuture f) :=
  .modify (fun r _ => .future r .cancelled nofun) rfl rfl (fun _ _ h => h) id id

theorem evolves_erase (s : MultiplexClient) (requestId : String) :
    s.Evolves { s with pending := s.pending.erase requestId } :=
  ⟨rfl, rfl, fun _ _ h => get?_erase_of_eq_some h, fun _ r h => ⟨r, h, .refl r⟩, id, id⟩

theorem evolves_unlock (s : MultiplexClient) : s.Evolves s.unlock :=
  .of_requests_eq rfl rfl rfl id id

theorem evolves_fail (s : MultiplexClient) (f : ℕ) (requestId : String) :
    s.Evolves (s.fail f requestId) :=
  (evolves_goTo fun _ _ _ h => by cases h).trans (evolves_erase (s.goTo f .raised) requestId)

theorem evolves_failPending (s : MultiplexClient) (exc : PyError) :
    s.Evolves (s.failPending exc) := by
  refine ⟨rfl, List.length_mapIdx, fun requestId f hf => ?_, fun f r' hr' => ?_, id, id⟩
  · simp [failPending] at hf
  obtain ⟨r, hr, rfl⟩ := Option.map_eq_some_iff.mp (List.getElem?_mapIdx ▸ hr')
  refine ⟨r, hr, ?_⟩
  by_cases hfails : f ∈ s.pending.values ∧ r.future.done = false
  · rw [if_pos hfails]
    have hcancel := RequestTask.Evolves.future r (.exception exc) (by simp)
    rwa [if_neg (by simp [hfails.2])] at hcancel
  · rw [if_neg hfails]
    exact .refl r

theorem evolves_write (s : MultiplexClient) (f : ℕ) (r : RequestTask) :
    s.Evolves (s.write config f r) := by
  rw [write]
  split
  · exact (evolves_goTo fun _ _ _ h => by cases h).trans (.of_requests_eq rfl rfl rfl id id)
  · exact evolves_fail s f r.requestId

theorem evolves_timeOut (s : MultiplexClient) (f : ℕ) (requestId : String) :
    s.Evolves (s.timeOut f requestId) := by
  have hfirst := (evolves_cancelFuture s f).trans (evolves_erase _ requestId)
  rw [timeOut]
  split
  · refine hfirst.trans ((evolves_fail _ f requestId).trans ?_)
    exact .of_requests_eq rfl rfl rfl id fun _ => Or.inl rfl
  · exact hfirst.trans ((evolves_goTo fun _ _ _ h => by cases h).trans
      (.of_requests_eq rfl rfl rfl (fun _ => rfl) id))

theorem evolves_finishClose (s : MultiplexClient) : s.Evolves s.finishClose :=
  (evolves_failPending s _).trans (.of_requests_eq rfl rfl rfl id fun _ => Or.inl rfl)

theorem evolves_failReader (s : MultiplexClient) (exc : PyError) :
    s.Evolves (s.failReader exc) :=
  (evolves_failPending s exc).trans (.of_requests_eq rfl rfl rfl (fun _ => rfl) fun _ => Or.inr rfl)

theorem evolves_cancel {stage : RequestStage} (h : s.cancel f stage = some s') : s.Evolves s' := by
  cases stage with
  | locking =>
    rw [← Option.some.inj h]
    exact evolves_goTo fun _ _ _ h => by cases h
  | draining =>
    rw [← Option.some.inj h]
    exact (evolves_unlock s).trans (evolves_goTo fun _ _ _ h => by cases h)
  | waiting =>
    rw [← Option.some.inj h]
    exact (evolves_cancelFuture s f).trans (evolves_goTo fun _ _ _ h => by cases h)
  | closing =>
    rw [← Option.some.inj h]
    exact (evolves_finishClose s).trans (evolves_goTo fun _ _ _ h => by cases h)
  | returned n => cases h
  | raised => cases h

theorem evolves_resume (hf : s.requests[f]? = some r)
    (h : s.resume f r.requestId r.future = some s') : s.Evolves s' := by
  cases hfuture : r.future with
  | result n =>
    rw [hfuture] at h
    rw [← Option.some.inj h]
    refine evolves_goTo fun r' n' hr' hn' => ?_
    obtain rfl : r = r' := Option.some.inj (hf.symm.trans hr')
    obtain rfl : n = n' := RequestStage.returned.inj hn'
    exact hfuture
  | exception exc =>
    rw [hfuture] at h
    rw [← Option.some.inj h]
    exact evolves_fail s f r.requestId
  | pending =>
    rw [hfuture] at h
    cases h
  | cancelled =>
    rw [hfuture] at h
    cases h

/-- Only a call of `request` and a frame do more. -/
theorem evolves_step {event : ClientEvent} (hrequest : ∀ value, event ≠ .request value)
    (hframe : ∀ value, event ≠ .frame value) (h : s.step config event = some s') :
    s.Evolves s' := by
  cases event with
  | request value => exact absurd rfl (hrequest value)
  | frame value => exact absurd rfl (hframe value)
  | locked f =>
    rw [step] at h
    split at h
    · next r hr =>
      rw [Option.ite_none_right_eq_some, Option.some.injEq] at h
      exact h.2 ▸ evolves_write s f r
    · cases h
  | drained f ok =>
    rw [step] at h
    split at h
    · next r hr =>
      rw [Option.ite_none_right_eq_some, Option.some.injEq] at h
      rw [← h.2]
      split_ifs
      · exact (evolves_unlock s).trans (evolves_goTo fun _ _ _ h => by cases h)
      · exact (evolves_unlock s).trans (evolves_fail _ f _)
    · cases h
  | resumed f =>
    rw [step] at h
    split at h
    · next r hr =>
      rw [Option.ite_none_right_eq_some] at h
      exact evolves_resume hr h.2
    · cases h
  | timedOut f =>
    rw [step] at h
    split at h
    · next r hr =>
      rw [Option.ite_none_right_eq_some, Option.some.injEq] at h
      exact h.2 ▸ evolves_timeOut s f r.requestId
    · cases h
  | cancelled f =>
    rw [step] at h
    split at h
    · exact evolves_cancel h
    · cases h
  | close =>
    rw [step, Option.some.injEq] at h
    rw [← h]
    split_ifs
    · exact .of_requests_eq rfl rfl rfl id fun _ => Or.inl rfl
    · exact .of_requests_eq rfl rfl rfl (fun _ => rfl) id
  | writerClosed =>
    rw [step] at h
    split at h
    · exact Option.some.inj h ▸ evolves_finishClose s
    · split at h
      · exact Option.some.inj h ▸ (evolves_finishClose s).trans (evolves_fail _ _ _)
      · cases h
    · cases h
  | readerStarted =>
    rw [step, Option.ite_none_right_eq_some, Option.some.injEq] at h
    rw [← h.2]
    refine .of_requests_eq rfl rfl rfl id fun hshut => ?_
    rcases hshut with hfinished | hfailed
    · exact Or.inl hfinished
    · exact absurd (h.1.symm.trans hfailed) nofun
  | readError exc =>
    rw [step, Option.ite_none_right_eq_some, Option.some.injEq] at h
    exact h.2 ▸ evolves_failReader s exc

/-! ## Which frames complete which calls -/

/-- The table leads from an id to a call with that id, and a call has at most one frame, of its own
id, that no other call has. -/
structure Correlated (s : MultiplexClient) : Prop where
  entry : ∀ requestId f, s.pending.get? requestId = some f →
    ∃ r, s.requests[f]? = some r ∧ r.requestId = requestId
  registered : ∀ (f : ℕ) (r : RequestTask), s.requests[f]? = some r →
    r.registeredAt ≤ s.frames.length
  result : ∀ (f : ℕ) (r : RequestTask) (n : ℕ), s.requests[f]? = some r → r.future = .result n →
    r.registeredAt ≤ n ∧ ∃ frame, s.frames[n]? = some frame ∧ requestIdOf frame = .str r.requestId
  once : ∀ (f f' : ℕ) (r r' : RequestTask) (n : ℕ), s.requests[f]? = some r →
    s.requests[f']? = some r' → r.future = .result n → r'.future = .result n → f = f'
  returned : ∀ (f : ℕ) (r : RequestTask) (n : ℕ), s.requests[f]? = some r →
    r.stage = .returned n → r.future = .result n

theorem correlated_init : Correlated {} where
  entry requestId f h := by simp at h
  registered f r h := by simp at h
  result f r n h := by simp at h
  once f f' r r' n h := by simp at h
  returned f r n h := by simp at h

theorem Correlated.evolves (hs : s.Correlated) (h : s.Evolves s') : s'.Correlated where
  entry requestId f hf := by
    obtain ⟨r, hr, hid⟩ := hs.entry requestId f (h.entry requestId f hf)
    have hlt : f < s'.requests.length := by
      rw [h.length_eq]
      exact (List.getElem?_eq_some_iff.mp hr).1
    obtain ⟨r', hr', hevolves⟩ := h.request f _ (List.getElem?_eq_getElem hlt)
    obtain rfl : r = r' := Option.some.inj (hr.symm.trans hr')
    exact ⟨_, List.getElem?_eq_getElem hlt, hevolves.requestId_eq.trans hid⟩
  registered f r' hr' := by
    obtain ⟨r, hr, hevolves⟩ := h.request f r' hr'
    rw [hevolves.registeredAt_eq, h.frames_eq]
    exact hs.registered f r hr
  result f r' n hr' hn := by
    obtain ⟨r, hr, hevolves⟩ := h.request f r' hr'
    rw [hevolves.registeredAt_eq, h.frames_eq, hevolves.requestId_eq]
    exact hs.result f r n hr (hevolves.result n hn)
  once f g r' t' n hr' ht' hn hn' := by
    obtain ⟨r, hr, hevolves⟩ := h.request f r' hr'
    obtain ⟨t, ht, hevolves'⟩ := h.request g t' ht'
    exact hs.once f g r t n hr ht (hevolves.result n hn) (hevolves'.result n hn')
  returned f r' n hr' hn := by
    obtain ⟨r, hr, hevolves⟩ := h.request f r' hr'
    have hresult : r.future = .result n := by
      rcases hevolves.returned n hn with hold | hresult
      · exact hs.returned f r n hr hold
      · exact hresult
    exact (hevolves.done (by rw [hresult]; rfl)).trans hresult

/-- A call of a list with one call more is an old one or the new one. -/
theorem getElem?_concat_eq_some {l : List RequestTask} {a b : RequestTask} {n : ℕ}
    (h : (l ++ [a])[n]? = some b) : l[n]? = some b ∨ n = l.length ∧ b = a := by
  rcases Nat.lt_trichotomy n l.length with hlt | rfl | hgt
  · rw [List.getElem?_append_left hlt] at h
    exact Or.inl h
  · rw [List.getElem?_concat_length] at h
    exact Or.inr ⟨rfl, (Option.some.inj h).symm⟩
  · rw [List.getElem?_eq_none (by rw [List.length_append, List.length_singleton]; omega)] at h
    cases h

theorem Correlated.register (hs : s.Correlated) (value : Request) (requestId : String) :
    (s.register value requestId).Correlated where
  entry requestId' f hf := by
    simp only [MultiplexClient.register, Dict.get?_set] at hf ⊢
    split_ifs at hf with heq
    · obtain rfl := Option.some.inj hf
      exact ⟨_, List.getElem?_concat_length, heq.symm⟩
    · obtain ⟨r, hr, hid⟩ := hs.entry requestId' f hf
      exact ⟨r, by rw [List.getElem?_append_left (List.getElem?_eq_some_iff.mp hr).1, hr], hid⟩
  registered f r hr := by
    rcases getElem?_concat_eq_some hr with hold | ⟨-, rfl⟩
    · exact hs.registered f r hold
    · exact le_rfl
  result f r n hr hn := by
    rcases getElem?_concat_eq_some hr with hold | ⟨-, rfl⟩
    · exact hs.result f r n hold hn
    · cases hn
  once f g r t n hr ht hn hn' := by
    rcases getElem?_concat_eq_some hr with hr | ⟨-, rfl⟩
    · rcases getElem?_concat_eq_some ht with ht | ⟨-, rfl⟩
      · exact hs.once f g r t n hr ht hn hn'
      · cases hn'
    · cases hn
  returned f r n hr hn := by
    rcases getElem?_concat_eq_some hr with hold | ⟨-, rfl⟩
    · exact hs.returned f r n hold hn
    · cases hn

/-- A frame that is read leaves what earlier frames did. -/
theorem Correlated.frame (hs : s.Correlated) (value : Dict String PyValue) :
    Correlated { s with frames := s.frames ++ [value] } where
  entry := hs.entry
  registered f r hr := by
    rw [List.length_append]
    exact (hs.registered f r hr).trans (Nat.le_add_right _ _)
  result f r n hr hn := by
    obtain ⟨hle, frame, hframe, hid⟩ := hs.result f r n hr hn
    refine ⟨hle, frame, ?_, hid⟩
    rw [List.getElem?_append_left (List.getElem?_eq_some_iff.mp hframe).1, hframe]
  once := hs.once
  returned := hs.returned

/-- What the delivery of frame `n` makes of a call. -/
def delivered (f n g : ℕ) (r : RequestTask) : RequestTask :=
  if f = g ∧ r.future.done = false then { r with future := .result n } else r

theorem getElem?_deliver {l : List RequestTask} {g n : ℕ} {r' : RequestTask}
    (h : (l.modify f fun r => if r.future.done = true then r
      else { r with future := .result n })[g]? = some r') :
    ∃ r, l[g]? = some r ∧ r' = delivered f n g r := by
  rw [List.getElem?_modify] at h
  obtain ⟨r, hr, rfl⟩ := Option.map_eq_some_iff.mp h
  refine ⟨r, hr, ?_⟩
  rw [delivered]
  by_cases hf : f = g
  · by_cases hdone : r.future.done = true
    · simp [hf, hdone]
    · simp [hf, hdone]
  · simp [hf]

theorem delivered_requestId (f n g : ℕ) (r : RequestTask) :
    (delivered f n g r).requestId = r.requestId := by
  rw [delivered]
  split_ifs <;> rfl

theorem delivered_registeredAt (f n g : ℕ) (r : RequestTask) :
    (delivered f n g r).registeredAt = r.registeredAt := by
  rw [delivered]
  split_ifs <;> rfl

theorem delivered_stage (f n g : ℕ) (r : RequestTask) :
    (delivered f n g r).stage = r.stage := by
  rw [delivered]
  split_ifs <;> rfl

/-- The frame is the new one, or the call had it before. -/
theorem delivered_future {f n g m : ℕ} {r : RequestTask}
    (h : (delivered f n g r).future = .result m) :
    f = g ∧ m = n ∨ r.future = .result m := by
  rw [delivered] at h
  split_ifs at h with hnew
  · exact Or.inl ⟨hnew.1, (FutureState.result.inj h).symm⟩
  · exact Or.inr h

/-- A frame completes the call under its id. -/
theorem Correlated.deliver (hs : s.Correlated) {value : Dict String PyValue} {requestId : String}
    (hvalue : value.get? "request_id" = some (.str requestId))
    (hentry : s.pending.get? requestId = some f) (reader : ReaderStage) :
    Correlated { s with
      frames := s.frames ++ [value]
      pending := s.pending.erase requestId
      requests := s.requests.modify f fun r =>
        if r.future.done = true then r else { r with future := .result s.frames.length }
      reader } where
  entry requestId' g hg := by
    obtain ⟨r, hr, hid⟩ := hs.entry requestId' g (get?_erase_of_eq_some hg)
    have hlt := (List.getElem?_eq_some_iff.mp hr).1
    rw [← List.length_modify (f := fun r : RequestTask => if r.future.done = true then r
      else { r with future := .result s.frames.length }) (i := f)] at hlt
    obtain ⟨r₀, hr₀, heq⟩ := getElem?_deliver (List.getElem?_eq_getElem hlt)
    obtain rfl : r = r₀ := Option.some.inj (hr.symm.trans hr₀)
    exact ⟨_, List.getElem?_eq_getElem hlt, by rw [heq, delivered_requestId, hid]⟩
  registered g r' hr' := by
    obtain ⟨r, hr, rfl⟩ := getElem?_deliver hr'
    rw [delivered_registeredAt, List.length_append]
    exact (hs.registered g r hr).trans (Nat.le_add_right _ _)
  result g r' n hr' hn := by
    obtain ⟨r, hr, rfl⟩ := getElem?_deliver hr'
    rw [delivered_registeredAt, delivered_requestId]
    rcases delivered_future hn with ⟨rfl, rfl⟩ | hold
    · obtain ⟨r₀, hr₀, hid⟩ := hs.entry requestId f hentry
      obtain rfl : r = r₀ := Option.some.inj (hr.symm.trans hr₀)
      refine ⟨hs.registered f r hr, value, List.getElem?_concat_length, ?_⟩
      rw [requestIdOf, hvalue, hid]
      rfl
    · exact (hs.frame value).result g r n hr hold
  once g g' r' t' n hr' ht' hn hn' := by
    obtain ⟨r, hr, rfl⟩ := getElem?_deliver hr'
    obtain ⟨t, ht, rfl⟩ := getElem?_deliver ht'
    -- the new frame is none that was read before
    have hfresh : ∀ (h : ℕ) (u : RequestTask), s.requests[h]? = some u →
        u.future ≠ .result s.frames.length := by
      intro h u hu hfuture
      obtain ⟨-, frame, hframe, -⟩ := hs.result h u _ hu hfuture
      exact absurd (List.getElem?_eq_some_iff.mp hframe).1 (Nat.lt_irrefl _)
    rcases delivered_future hn with ⟨rfl, rfl⟩ | hold
    · rcases delivered_future hn' with ⟨rfl, -⟩ | hold'
      · rfl
      · exact absurd hold' (hfresh g' t ht)
    · rcases delivered_future hn' with ⟨rfl, rfl⟩ | hold'
      · exact absurd hold (hfresh g r hr)
      · exact hs.once g g' r t n hr ht hold hold'
  returned g r' n hr' hn := by
    obtain ⟨r, hr, rfl⟩ := getElem?_deliver hr'
    rw [delivered_stage] at hn
    have hresult := hs.returned g r n hr hn
    have hdone : ¬ (f = g ∧ r.future.done = false) := by simp [hresult, FutureState.done]
    rw [delivered, if_neg hdone, hresult]

theorem Correlated.receive (hs : s.Correlated) (value : Dict String PyValue) :
    (s.receive value).Correlated := by
  rw [MultiplexClient.receive]
  split
  · next requestId hvalue =>
    dsimp only
    split
    · next f hentry => exact hs.deliver hvalue hentry _
    · exact (hs.frame value).evolves (evolves_failReader _ _)
  · exact (hs.frame value).evolves (evolves_failReader _ _)

theorem Correlated.step (hs : s.Correlated) {event : ClientEvent}
    (h : s.step config event = some s') : s'.Correlated := by
  by_cases hrequest : ∃ value, event = .request value
  · obtain ⟨value, rfl⟩ := hrequest
    rw [MultiplexClient.step] at h
    split at h
    · exact Option.some.inj h ▸ hs.register value _
    · exact Option.some.inj h ▸ hs
  · by_cases hframe : ∃ value, event = .frame value
    · obtain ⟨value, rfl⟩ := hframe
      rw [MultiplexClient.step, Option.ite_none_right_eq_some, Option.some.injEq] at h
      exact h.2 ▸ hs.receive value
    · exact hs.evolves (evolves_step (fun value hv => hrequest ⟨value, hv⟩)
        (fun value hv => hframe ⟨value, hv⟩) h)

/-! ## Careful runs -/

/-- The entry under the id of a call is its own. -/
def OwnEntry (s : MultiplexClient) (f : ℕ) (requestId : String) : Prop :=
  ∀ g, s.pending.get? requestId = some g → g = f

/-- A call that fails to write or times out does not find the entry of another call under its id,
and `close` is not called, from outside or by a call that times out, while another `close` waits
and other calls are pending. -/
def Careful (config : ClientConfig) (s : MultiplexClient) : ClientEvent → Prop
  | .locked f => ∀ r, s.requests[f]? = some r →
    (∃ exc, encodeFramePayload config.dumps config.maxFrameBytes r.value = .error exc) →
      s.OwnEntry f r.requestId
  | .drained f ok => ∀ r, s.requests[f]? = some r → ok = false → s.OwnEntry f r.requestId
  | .timedOut f => ∀ r, s.requests[f]? = some r → s.OwnEntry f r.requestId ∧
    (s.closing ≠ none → ∀ requestId ≠ r.requestId, s.pending.get? requestId = none)
  | .close => s.closing ≠ none → ∀ requestId, s.pending.get? requestId = none
  | _ => True

/-- Every outstanding call is in the table, and the table is empty when `close` or the reader has
emptied it. -/
structure Live (s : MultiplexClient) : Prop where
  entry : ∀ (f : ℕ) (r : RequestTask), s.requests[f]? = some r → r.Outstanding →
    s.pending.get? r.requestId = some f
  exception : ∀ (f : ℕ) (r : RequestTask) (exc : PyError), s.requests[f]? = some r →
    r.future = .exception exc → s.closed = true ∧ ∀ requestId, s.pending.get? requestId = none
  closing : s.closing ≠ none → s.closed = true
  closer : ∀ (f : ℕ) (r : RequestTask), s.requests[f]? = some r → r.stage = .closing →
    s.closed = true
  closed : s.closed = true → s.closing ≠ none ∨ ∀ requestId, s.pending.get? requestId = none
  shut : s.Shut → s.closed = true ∧ ∀ requestId, s.pending.get? requestId = none

theorem live_init : Live {} where
  entry f r h := by simp at h
  exception f r exc h := by simp at h
  closing h := absurd rfl h
  closer f r h := by simp at h
  closed h := by cases h
  shut h := by
    rcases h with h | h
    · cases h
    · cases h

/-- Once the client is shut, no call is outstanding. -/
theorem Live.not_outstanding (hs : s.Live) (hshut : s.Shut) (hf : s.requests[f]? = some r) :
    ¬ r.Outstanding := by
  intro hlive
  have hentry := hs.entry f r hf hlive
  rw [(hs.shut hshut).2] at hentry
  cases hentry

/-- One call changes, and does not become outstanding. -/
theorem Live.modify (hs : s.Live) {g : RequestTask → RequestTask}
    (hg : ∀ r, s.requests[f]? = some r → ((g r).Outstanding → r.Outstanding) ∧
      (g r).requestId = r.requestId ∧
      (∀ exc, (g r).future = .exception exc → r.future = .exception exc) ∧
      ((g r).stage = .closing → r.stage = .closing ∨ s.closed = true)) :
    Live { s with requests := s.requests.modify f g } where
  entry h r' hr' hlive := by
    rw [List.getElem?_modify] at hr'
    obtain ⟨r, hr, rfl⟩ := Option.map_eq_some_iff.mp hr'
    by_cases hf : f = h
    · subst hf
      obtain ⟨houtstanding, hid, -⟩ := hg r hr
      simp only [if_true] at hlive ⊢
      rw [hid]
      exact hs.entry f r hr (houtstanding hlive)
    · rw [if_neg hf] at hlive ⊢
      exact hs.entry h r hr hlive
  exception h r' exc hr' hexc := by
    rw [List.getElem?_modify] at hr'
    obtain ⟨r, hr, rfl⟩ := Option.map_eq_some_iff.mp hr'
    by_cases hf : f = h
    · subst hf
      simp only [if_true] at hexc
      exact hs.exception f r exc hr ((hg r hr).2.2.1 exc hexc)
    · rw [if_neg hf] at hexc
      exact hs.exception h r exc hr hexc
  closing := hs.closing
  closer h r' hr' hstage := by
    rw [List.getElem?_modify] at hr'
    obtain ⟨r, hr, rfl⟩ := Option.map_eq_some_iff.mp hr'
    by_cases hf : f = h
    · subst hf
      simp only [if_true] at hstage
      rcases (hg r hr).2.2.2 hstage with hold | hclosed
      · exact hs.closer f r hr hold
      · exact hclosed
    · rw [if_neg hf] at hstage
      exact hs.closer h r hr hstage
  closed := hs.closed
  shut := hs.shut

/-- An entry is removed that is not that of an outstanding call. -/
theorem Live.erase (hs : s.Live) {requestId : String}
    (h : ∀ (f : ℕ) (r : RequestTask), s.requests[f]? = some r → r.Outstanding →
      r.requestId ≠ requestId) : Live { s with pending := s.pending.erase requestId } where
  entry f r hr hlive := by
    show (s.pending.erase requestId).get? r.requestId = some f
    rw [Dict.get?_erase_ne _ (h f r hr hlive)]
    exact hs.entry f r hr hlive
  exception f r exc hr hexc :=
    ⟨(hs.exception f r exc hr hexc).1, fun requestId' => by
      rw [Dict.get?_erase, (hs.exception f r exc hr hexc).2, ite_self]⟩
  closing := hs.closing
  closer := hs.closer
  closed hclosed := by
    rcases hs.closed hclosed with hclosing | hempty
    · exact Or.inl hclosing
    · exact Or.inr fun requestId' => by rw [Dict.get?_erase, hempty, ite_self]
  shut hshut :=
    ⟨(hs.shut hshut).1, fun requestId' => by
      rw [Dict.get?_erase, (hs.shut hshut).2, ite_self]⟩

theorem Live.writer (hs : s.Live) (writer : Option ℕ) : Live { s with writer } :=
  ⟨hs.entry, hs.exception, hs.closing, hs.closer, hs.closed, hs.shut⟩

/-- A call that has not ended goes on. -/
theorem Live.goTo (hs : s.Live) (hf : s.requests[f]? = some r)
    (hgoes : (∀ n, r.stage ≠ .returned n) ∧ r.stage ≠ .raised) (stage : RequestStage)
    (hstage : stage ≠ .closing) : (s.goTo f stage).Live := by
  refine hs.modify fun r' hr' => ⟨fun hlive => ?_, rfl, fun _ hexc => hexc,
    fun h => absurd h hstage⟩
  obtain rfl : r = r' := Option.some.inj (hf.symm.trans hr')
  exact ⟨hgoes.1, hgoes.2, hlive.2.2⟩

theorem Live.goTo_raised (hs : s.Live) (f : ℕ) : (s.goTo f .raised).Live :=
  hs.modify fun _ _ => ⟨fun hlive => absurd rfl hlive.2.1, rfl, fun _ hexc => hexc, nofun⟩

theorem Live.cancelFuture (hs : s.Live) (f : ℕ) : (s.cancelFuture f).Live := by
  refine hs.modify fun r _ => ⟨fun hlive => ?_, rfl, fun exc hexc => ?_, Or.inl⟩
  · obtain ⟨hreturned, hraised, hdone⟩ := hlive
    refine ⟨hreturned, hraised, ?_⟩
    dsimp only at hdone
    split_ifs at hdone with h
    · exact absurd (hdone.symm.trans h) Bool.false_ne_true
    · cases hdone
  · dsimp only at hexc
    split_ifs at hexc
    · exact hexc

/-- After `goTo`, the call is at its new stage. -/
theorem stage_of_goTo {stage : RequestStage} (h : (s.goTo f stage).requests[f]? = some r) :
    r.stage = stage := by
  rw [MultiplexClient.goTo, List.getElem?_modify] at h
  obtain ⟨r₀, -, rfl⟩ := Option.map_eq_some_iff.mp h
  simp

/-- A call that fails removes no entry of another call. -/
theorem Live.fail (hs : s.Live) {requestId : String} (hown : s.OwnEntry f requestId) :
    (s.fail f requestId).Live := by
  refine (hs.goTo_raised f).erase fun g r hr hlive hid => ?_
  have hentry := (hs.goTo_raised f).entry g r hr hlive
  obtain rfl : g = f := hown g (hid ▸ hentry)
  exact hlive.2.1 (stage_of_goTo hr)

/-- After the table was cleared, no call is outstanding. -/
theorem Live.failPending (hs : s.Live) (exc : PyError)
    (hr : (s.failPending exc).requests[f]? = some r) : ¬ r.Outstanding := by
  intro hlive
  rw [MultiplexClient.failPending, List.getElem?_mapIdx] at hr
  obtain ⟨r₀, hr₀, rfl⟩ := Option.map_eq_some_iff.mp hr
  split_ifs at hlive with hfails
  · cases hlive.2.2
  · have hmem : f ∈ s.pending.values := Dict.mem_values.mpr ⟨_, hs.entry f r₀ hr₀ hlive⟩
    exact hfails ⟨hmem, hlive.2.2⟩

/-- The client with its table cleared. -/
theorem Live.clear (hs : s.Live) (exc : PyError)
    (hrequests : s'.requests = (s.failPending exc).requests) (hpending : s'.pending = .empty)
    (hclosed : s'.closed = true) : s'.Live where
  entry f r hr hlive := absurd hlive (hs.failPending exc (hrequests ▸ hr))
  exception _ _ _ _ _ := ⟨hclosed, fun _ => by rw [hpending, Dict.get?_empty]⟩
  closing _ := hclosed
  closer _ _ _ _ := hclosed
  closed _ := Or.inr fun _ => by rw [hpending, Dict.get?_empty]
  shut _ := ⟨hclosed, fun _ => by rw [hpending, Dict.get?_empty]⟩

theorem Live.finishClose (hs : s.Live) (hclosed : s.closed = true) : s.finishClose.Live :=
  hs.clear _ rfl rfl hclosed

theorem Live.failReader (hs : s.Live) (exc : PyError) : (s.failReader exc).Live :=
  hs.clear exc rfl rfl rfl

theorem check_eq_ok {value : Request} {requestId : String} (h : s.check value = .ok requestId) :
    s.closed = false ∧ s.pending.get? requestId = none := by
  rw [check] at h
  split at h
  · split_ifs at h with hempty hclosed hpending
    obtain rfl := Except.ok.inj h
    exact ⟨by simpa using hclosed, Dict.contains_eq_false_iff.mp (by simpa using hpending)⟩
  · cases h

theorem Live.register (hs : s.Live) (value : Request) {requestId : String}
    (hopen : s.closed = false) (hfree : s.pending.get? requestId = none) :
    (s.register value requestId).Live where
  entry f r hr hlive := by
    show (s.pending.set requestId s.requests.length).get? r.requestId = some f
    rcases getElem?_concat_eq_some hr with hold | ⟨rfl, rfl⟩
    · have hentry := hs.entry f r hold hlive
      have hne : r.requestId ≠ requestId := by
        rintro rfl
        rw [hfree] at hentry
        cases hentry
      rw [Dict.get?_set_ne _ _ hne, hentry]
    · exact Dict.get?_set_self _ _ _
  exception f r exc hr hexc := by
    rcases getElem?_concat_eq_some hr with hold | ⟨-, rfl⟩
    · rw [(hs.exception f r exc hold hexc).1] at hopen
      cases hopen
    · cases hexc
  closing := hs.closing
  closer f r hr hstage := by
    rcases getElem?_concat_eq_some hr with hold | ⟨-, rfl⟩
    · exact hs.closer f r hold hstage
    · cases hstage
  closed hclosed := absurd (hopen.symm.trans hclosed) Bool.false_ne_true
  shut hshut := absurd (hopen.symm.trans (hs.shut hshut).1) Bool.false_ne_true

theorem Live.write (hs : s.Live) (hf : s.requests[f]? = some r) (hstage : r.stage = .locking)
    (hcareful : s.Careful config (.locked f)) : (s.write config f r).Live := by
  rw [MultiplexClient.write]
  split
  · exact (hs.goTo hf (by simp [hstage]) .draining nofun).writer (some f)
  · next exc hexc => exact hs.fail (hcareful r hf ⟨exc, hexc⟩)

theorem Live.drained (hs : s.Live) (hf : s.requests[f]? = some r) (hstage : r.stage = .draining)
    {ok : Bool} (hcareful : s.Careful config (.drained f ok)) :
    Live (if ok = true then s.unlock.goTo f .waiting else s.unlock.fail f r.requestId) := by
  split_ifs with hok
  · exact (hs.writer none).goTo hf (by simp [hstage]) .waiting nofun
  · exact (hs.writer none).fail (hcareful r hf (by simpa using hok))

theorem Live.resume (hs : s.Live) (hf : s.requests[f]? = some r) (hstage : r.stage = .waiting)
    (h : s.resume f r.requestId r.future = some s') : s'.Live := by
  cases hfuture : r.future with
  | result n =>
    rw [hfuture] at h
    rw [← Option.some.inj h]
    exact hs.goTo hf (by simp [hstage]) (.returned n) nofun
  | exception exc =>
    rw [hfuture] at h
    rw [← Option.some.inj h]
    refine hs.fail fun g hg => ?_
    -- the exception came when the table was cleared
    rw [(hs.exception f r exc hf hfuture).2] at hg
    cases hg
  | pending =>
    rw [hfuture] at h
    cases h
  | cancelled =>
    rw [hfuture] at h
    cases h

/-- A future that was cancelled is not outstanding. -/
theorem not_outstanding_cancelFuture (h : (s.cancelFuture f).requests[f]? = some r) :
    r.future.done = true := by
  rw [MultiplexClient.cancelFuture, List.getElem?_modify] at h
  obtain ⟨r₀, -, rfl⟩ := Option.map_eq_some_iff.mp h
  rw [if_pos rfl]
  dsimp only
  split_ifs with hdone
  · exact hdone
  · rfl

/-- A call of `close` ends when nothing is pending. -/
theorem Live.finished (hs : s.Live) (hclosed : s.closed = true)
    (hempty : ∀ requestId, s.pending.get? requestId = none) :
    Live { s with closeFinished := true } :=
  ⟨hs.entry, hs.exception, hs.closing, hs.closer, hs.closed, fun _ => ⟨hclosed, hempty⟩⟩

/-- A call of `close` begins to wait for the writer. -/
theorem Live.closes (hs : s.Live) (hopen : s.closed = false) (closer : Closer) :
    Live { s with closed := true, closing := some closer } where
  entry := hs.entry
  exception f r exc hr hexc := ⟨rfl, (hs.exception f r exc hr hexc).2⟩
  closing _ := rfl
  closer _ _ _ _ := rfl
  closed _ := Or.inl nofun
  shut hshut := absurd (hopen.symm.trans (hs.shut hshut).1) Bool.false_ne_true

theorem Live.timeOut (hs : s.Live) (hf : s.requests[f]? = some r)
    (hcareful : s.Careful config (.timedOut f)) : (s.timeOut f r.requestId).Live := by
  obtain ⟨hown, hothers⟩ := hcareful r hf
  have hcancelled : Live { s.cancelFuture f with
      pending := s.pending.erase r.requestId } := by
    refine (hs.cancelFuture f).erase fun g t ht hlive hid => ?_
    have hentry := (hs.cancelFuture f).entry g t ht hlive
    obtain rfl : g = f := hown g (hid ▸ hentry)
    exact absurd (hlive.2.2.symm.trans (not_outstanding_cancelFuture ht)) Bool.false_ne_true
  rw [MultiplexClient.timeOut]
  split
  · next hclosed =>
    have hown' : OwnEntry { s.cancelFuture f with
        pending := s.pending.erase r.requestId } f r.requestId := by
      intro g hg
      rw [Dict.get?_erase_self] at hg
      cases hg
    refine (hcancelled.fail hown').finished hclosed fun requestId => ?_
    show ((s.pending.erase r.requestId).erase r.requestId).get? requestId = none
    rw [Dict.get?_erase, Dict.get?_erase]
    split_ifs with hid
    · rfl
    · rcases hs.closed hclosed with hclosing | hempty
      · exact hothers hclosing requestId hid
      · exact hempty requestId
  · next hopen =>
    have hcloses := hcancelled.closes (Bool.eq_false_iff.mpr hopen) (.request f)
    refine hcloses.modify fun t ht =>
      ⟨fun hlive => ?_, rfl, fun _ hexc => hexc, fun _ => Or.inr rfl⟩
    have hdone := not_outstanding_cancelFuture (s := s) ht
    exact absurd (hlive.2.2.symm.trans hdone) Bool.false_ne_true

theorem Live.cancel (hs : s.Live) (hf : s.requests[f]? = some r)
    (h : s.cancel f r.stage = some s') : s'.Live := by
  cases hstage : r.stage with
  | locking =>
    rw [hstage] at h
    exact Option.some.inj h ▸ hs.goTo_raised f
  | draining =>
    rw [hstage] at h
    exact Option.some.inj h ▸ (hs.writer none).goTo_raised f
  | waiting =>
    rw [hstage] at h
    exact Option.some.inj h ▸ (hs.cancelFuture f).goTo_raised f
  | closing =>
    rw [hstage] at h
    exact Option.some.inj h ▸ (hs.finishClose (hs.closer f r hf hstage)).goTo_raised f
  | returned n =>
    rw [hstage] at h
    cases h
  | raised =>
    rw [hstage] at h
    cases h

theorem Live.frame (hs : s.Live) (frames : List (Dict String PyValue)) : Live { s with frames } :=
  ⟨hs.entry, hs.exception, hs.closing, hs.closer, hs.closed, hs.shut⟩

/-- The call that a frame is delivered to is done. -/
theorem done_of_deliver {n : ℕ} (h : (s.requests.modify f fun r =>
    if r.future.done = true then r else { r with future := .result n })[f]? = some r) :
    r.future.done = true := by
  obtain ⟨r₀, -, rfl⟩ := getElem?_deliver h
  rw [delivered]
  split_ifs with hpending
  · rfl
  · simpa using hpending

/-- A call that is completed is no longer outstanding, and its entry was its own. -/
theorem Live.deliver (hs : s.Live) {requestId : String} {n : ℕ} {reader : ReaderStage}
    (hentry : s.pending.get? requestId = some f) (hreader : reader ≠ .failed) :
    Live { s with
      pending := s.pending.erase requestId
      requests := s.requests.modify f fun r =>
        if r.future.done = true then r else { r with future := .result n }
      reader } := by
  have hdelivered : Live { s with requests := s.requests.modify f fun r =>
      if r.future.done = true then r else { r with future := .result n } } := by
    refine hs.modify fun r _ => ?_
    split_ifs
    · exact ⟨id, rfl, fun _ h => h, Or.inl⟩
    · exact ⟨fun hlive => absurd hlive.2.2 nofun, rfl, nofun, Or.inl⟩
  have hown : ∀ (g : ℕ) (r : RequestTask), (s.requests.modify f fun r =>
      if r.future.done = true then r else { r with future := .result n })[g]? = some r →
        r.Outstanding → r.requestId ≠ requestId := by
    intro g r hr hlive hid
    have hentry' := hdelivered.entry g r hr hlive
    obtain rfl : g = f := Option.some.inj ((hid ▸ hentry').symm.trans hentry)
    exact absurd (hlive.2.2.symm.trans (done_of_deliver hr)) Bool.false_ne_true
  have herased := hdelivered.erase hown
  refine ⟨herased.entry, herased.exception, herased.closing, herased.closer, herased.closed,
    fun hshut => ?_⟩
  rcases hshut with hfinished | hfailed
  · exact herased.shut (Or.inl hfinished)
  · exact absurd hfailed hreader

theorem Live.receive (hs : s.Live) (value : Dict String PyValue) : (s.receive value).Live := by
  rw [MultiplexClient.receive]
  split
  · dsimp only
    split
    · next f hentry =>
      refine (hs.frame (s.frames ++ [value])).deliver hentry ?_
      split_ifs <;> simp
    · exact (hs.frame _).failReader _
  · exact (hs.frame _).failReader _

theorem Live.step (hs : s.Live) {event : ClientEvent} (hcareful : s.Careful config event)
    (h : s.step config event = some s') : s'.Live := by
  cases event with
  | request value =>
    rw [MultiplexClient.step] at h
    split at h
    · next requestId hcheck =>
      obtain ⟨hopen, hfree⟩ := check_eq_ok hcheck
      exact Option.some.inj h ▸ hs.register value hopen hfree
    · exact Option.some.inj h ▸ hs
  | locked f =>
    rw [MultiplexClient.step] at h
    split at h
    · next r hr =>
      rw [Option.ite_none_right_eq_some, Option.some.injEq] at h
      exact h.2 ▸ hs.write hr h.1.1 hcareful
    · cases h
  | drained f ok =>
    rw [MultiplexClient.step] at h
    split at h
    · next r hr =>
      rw [Option.ite_none_right_eq_some, Option.some.injEq] at h
      exact h.2 ▸ hs.drained hr h.1 hcareful
    · cases h
  | resumed f =>
    rw [MultiplexClient.step] at h
    split at h
    · next r hr =>
      rw [Option.ite_none_right_eq_some] at h
      exact hs.resume hr h.1 h.2
    · cases h
  | timedOut f =>
    rw [MultiplexClient.step] at h
    split at h
    · next r hr =>
      rw [Option.ite_none_right_eq_some, Option.some.injEq] at h
      exact h.2 ▸ hs.timeOut hr hcareful
    · cases h
  | cancelled f =>
    rw [MultiplexClient.step] at h
    split at h
    · next r hr => exact hs.cancel hr h
    · cases h
  | close =>
    rw [MultiplexClient.step, Option.some.injEq] at h
    rw [← h]
    split_ifs with hclosed
    · refine hs.finished hclosed fun requestId => ?_
      rcases hs.closed hclosed with hclosing | hempty
      · exact hcareful hclosing requestId
      · exact hempty requestId
    · exact hs.closes (Bool.eq_false_iff.mpr hclosed) .call
  | writerClosed =>
    rw [MultiplexClient.step] at h
    split at h
    · next hclosing => exact Option.some.inj h ▸ hs.finishClose (hs.closing (by simp [hclosing]))
    · next f hclosing =>
      split at h
      · refine Option.some.inj h ▸ (hs.finishClose (hs.closing (by simp [hclosing]))).fail ?_
        intro g hg
        cases hg
      · cases h
    · cases h
  | readerStarted =>
    rw [MultiplexClient.step, Option.ite_none_right_eq_some, Option.some.injEq] at h
    rw [← h.2]
    refine ⟨hs.entry, hs.exception, hs.closing, hs.closer, hs.closed, fun hshut => ?_⟩
    rcases hshut with hfinished | hfailed
    · exact hs.shut (Or.inl hfinished)
    · dsimp only at hfailed
      split_ifs at hfailed
  | frame value =>
    rw [MultiplexClient.step, Option.ite_none_right_eq_some, Option.some.injEq] at h
    exact h.2 ▸ hs.receive value
  | readError exc =>
    rw [MultiplexClient.step, Option.ite_none_right_eq_some, Option.some.injEq] at h
    exact h.2 ▸ hs.failReader exc

/-! ## A client that is shut -/

theorem receive_shut (value : Dict String PyValue) (hshut : s.Shut)
    (hreader : s.reader = .reading) : (s.receive value).Shut := by
  have hfinished : s.closeFinished = true := by
    rcases hshut with hfinished | hfailed
    · exact hfinished
    · exact absurd (hreader.symm.trans hfailed) nofun
  rw [receive]
  split
  · dsimp only
    split
    · exact Or.inl hfinished
    · exact Or.inr rfl
  · exact Or.inr rfl

theorem receive_closed (value : Dict String PyValue) (hclosed : s.closed = true) :
    (s.receive value).closed = true ∧ (s.receive value).requests.length = s.requests.length := by
  rw [receive]
  split
  · dsimp only
    split
    · exact ⟨hclosed, List.length_modify ..⟩
    · exact ⟨rfl, List.length_mapIdx⟩
  · exact ⟨rfl, List.length_mapIdx⟩

/-- A closed client stays closed and registers no call. -/
theorem closed_step {event : ClientEvent} (hclosed : s.closed = true)
    (h : s.step config event = some s') :
    s'.closed = true ∧ s'.requests.length = s.requests.length := by
  by_cases hrequest : ∃ value, event = .request value
  · obtain ⟨value, rfl⟩ := hrequest
    rw [step] at h
    split at h
    · next requestId hcheck =>
      exact absurd ((check_eq_ok hcheck).1.symm.trans hclosed) Bool.false_ne_true
    · exact Option.some.inj h ▸ ⟨hclosed, rfl⟩
  by_cases hframe : ∃ value, event = .frame value
  · obtain ⟨value, rfl⟩ := hframe
    rw [step, Option.ite_none_right_eq_some, Option.some.injEq] at h
    exact h.2 ▸ receive_closed value hclosed
  have hevolves := evolves_step (fun value hv => hrequest ⟨value, hv⟩)
    (fun value hv => hframe ⟨value, hv⟩) h
  exact ⟨hevolves.closed_of hclosed, hevolves.length_eq⟩

/-- A client that is shut stays so. -/
theorem shut_step {event : ClientEvent} (hshut : s.Shut) (h : s.step config event = some s') :
    s'.Shut := by
  by_cases hrequest : ∃ value, event = .request value
  · obtain ⟨value, rfl⟩ := hrequest
    rw [step] at h
    split at h
    · exact Option.some.inj h ▸ hshut
    · exact Option.some.inj h ▸ hshut
  by_cases hframe : ∃ value, event = .frame value
  · obtain ⟨value, rfl⟩ := hframe
    rw [step, Option.ite_none_right_eq_some, Option.some.injEq] at h
    exact h.2 ▸ receive_shut value hshut h.1
  exact (evolves_step (fun value hv => hrequest ⟨value, hv⟩)
    (fun value hv => hframe ⟨value, hv⟩) h).shut_of hshut

/-- Clearing the table fails every outstanding call. -/
theorem Live.failPending_failed (hs : s.Live) (exc : PyError) (hr : s.requests[f]? = some r)
    (hlive : r.Outstanding) :
    ∃ r', (s.failPending exc).requests[f]? = some r' ∧ r'.Failed := by
  have hmem : f ∈ s.pending.values := Dict.mem_values.mpr ⟨_, hs.entry f r hr hlive⟩
  refine ⟨{ r with future := .exception exc }, ?_, Or.inr ⟨exc, rfl⟩⟩
  rw [MultiplexClient.failPending, List.getElem?_mapIdx, hr, Option.map_some,
    if_pos ⟨hmem, hlive.2.2⟩]

/-- A call that has failed stays failed where another one ends. -/
theorem failed_goTo_raised (g : ℕ) (h : ∃ r, s.requests[f]? = some r ∧ r.Failed) :
    ∃ r, (s.goTo g .raised).requests[f]? = some r ∧ r.Failed := by
  obtain ⟨r, hr, hfailed⟩ := h
  by_cases hg : g = f
  · subst hg
    exact ⟨{ r with stage := .raised }, by simp [MultiplexClient.goTo, hr], Or.inl rfl⟩
  · exact ⟨r, by simp [MultiplexClient.goTo, hr, hg], hfailed⟩

theorem shut_of_write (h : (s.write config f r).Shut) : s.Shut := by
  rw [write] at h
  split at h
  · exact h
  · exact h

theorem shut_of_resume {requestId : String} {future : FutureState}
    (h : s.resume f requestId future = some s') (hshut : s'.Shut) : s.Shut := by
  cases future with
  | result n =>
    obtain rfl := Option.some.inj h
    exact hshut
  | exception exc =>
    obtain rfl := Option.some.inj h
    exact hshut
  | pending => cases h
  | cancelled => cases h

/-- The time-out of a call ends `close` only where no other call is in the table. -/
theorem Live.timeOut_failed (hs : s.Live) {g : ℕ} {t : RequestTask} (ht : s.requests[g]? = some t)
    (hcareful : s.Careful config (.timedOut g)) (hopen : ¬ s.Shut)
    (hshut : (s.timeOut g t.requestId).Shut) (hr : s.requests[f]? = some r)
    (hlive : r.Outstanding) :
    ∃ r', (s.timeOut g t.requestId).requests[f]? = some r' ∧ r'.Failed := by
  obtain ⟨hown, hothers⟩ := hcareful t ht
  have hentry := hs.entry f r hr hlive
  rw [MultiplexClient.timeOut] at hshut ⊢
  split at hshut
  · next hclosed =>
    have hid : r.requestId = t.requestId := by
      by_contra hne
      rcases hs.closed hclosed with hclosing | hempty
      · rw [hothers hclosing r.requestId hne] at hentry
        cases hentry
      · rw [hempty] at hentry
        cases hentry
    obtain rfl : f = g := hown f (hid ▸ hentry)
    rw [if_pos hclosed]
    refine ⟨{ r with future := .cancelled, stage := .raised }, ?_, Or.inl rfl⟩
    simp [MultiplexClient.fail, MultiplexClient.goTo, MultiplexClient.cancelFuture, hr,
      hlive.2.2]
  · exact absurd hshut hopen

theorem Live.cancel_failed (hs : s.Live) {g : ℕ} {stage : RequestStage}
    (h : s.cancel g stage = some s') (hopen : ¬ s.Shut) (hshut : s'.Shut)
    (hr : s.requests[f]? = some r) (hlive : r.Outstanding) :
    ∃ r', s'.requests[f]? = some r' ∧ r'.Failed := by
  cases stage with
  | closing =>
    obtain rfl := Option.some.inj h
    exact failed_goTo_raised g (hs.failPending_failed _ hr hlive)
  | locking =>
    obtain rfl := Option.some.inj h
    exact absurd hshut hopen
  | draining =>
    obtain rfl := Option.some.inj h
    exact absurd hshut hopen
  | waiting =>
    obtain rfl := Option.some.inj h
    exact absurd hshut hopen
  | returned n => cases h
  | raised => cases h

theorem Live.receive_failed (hs : s.Live) (value : Dict String PyValue) (hopen : ¬ s.Shut)
    (hshut : (s.receive value).Shut) (hr : s.requests[f]? = some r) (hlive : r.Outstanding) :
    ∃ r', (s.receive value).requests[f]? = some r' ∧ r'.Failed := by
  have hread := hs.frame (s.frames ++ [value])
  rw [MultiplexClient.receive] at hshut ⊢
  split at hshut
  · dsimp only at hshut ⊢
    split at hshut
    · -- a frame that completes a call leaves the reader alive
      refine absurd (hshut.imp id fun hfailed => ?_) hopen
      dsimp only at hfailed
      split_ifs at hfailed
    · exact hread.failPending_failed _ hr hlive
  · exact hread.failPending_failed _ hr hlive

/-- A careful step that shuts the client fails every outstanding call. -/
theorem Live.shut_failed (hs : s.Live) {event : ClientEvent} (hcareful : s.Careful config event)
    (h : s.step config event = some s') (hshut : s'.Shut) (hr : s.requests[f]? = some r)
    (hlive : r.Outstanding) : ∃ r', s'.requests[f]? = some r' ∧ r'.Failed := by
  have hopen : ¬ s.Shut := fun hs' => hs.not_outstanding hs' hr hlive
  cases event with
  | request value =>
    rw [MultiplexClient.step] at h
    split at h
    · obtain rfl := Option.some.inj h
      exact absurd hshut hopen
    · obtain rfl := Option.some.inj h
      exact absurd hshut hopen
  | locked g =>
    rw [MultiplexClient.step] at h
    split at h
    · rw [Option.ite_none_right_eq_some, Option.some.injEq] at h
      exact absurd (shut_of_write (h.2 ▸ hshut)) hopen
    · cases h
  | drained g ok =>
    rw [MultiplexClient.step] at h
    split at h
    · rw [Option.ite_none_right_eq_some, Option.some.injEq] at h
      obtain ⟨-, rfl⟩ := h
      split_ifs at hshut
      · exact absurd hshut hopen
      · exact absurd hshut hopen
    · cases h
  | resumed g =>
    rw [MultiplexClient.step] at h
    split at h
    · rw [Option.ite_none_right_eq_some] at h
      exact absurd (shut_of_resume h.2 hshut) hopen
    · cases h
  | timedOut g =>
    rw [MultiplexClient.step] at h
    split at h
    · next t ht =>
      rw [Option.ite_none_right_eq_some, Option.some.injEq] at h
      obtain ⟨-, rfl⟩ := h
      exact hs.timeOut_failed ht hcareful hopen hshut hr hlive
    · cases h
  | cancelled g =>
    rw [MultiplexClient.step] at h
    split at h
    · exact hs.cancel_failed h hopen hshut hr hlive
    · cases h
  | close =>
    rw [MultiplexClient.step, Option.some.injEq] at h
    rw [← h] at hshut
    have hentry := hs.entry f r hr hlive
    split_ifs at hshut with hclosed
    · rcases hs.closed hclosed with hclosing | hempty
      · rw [hcareful hclosing] at hentry
        cases hentry
      · rw [hempty] at hentry
        cases hentry
    · exact absurd hshut hopen
  | writerClosed =>
    rw [MultiplexClient.step] at h
    split at h
    · exact Option.some.inj h ▸ hs.failPending_failed _ hr hlive
    · split at h
      · exact Option.some.inj h ▸ failed_goTo_raised _ (hs.failPending_failed _ hr hlive)
      · cases h
    · cases h
  | readerStarted =>
    rw [MultiplexClient.step, Option.ite_none_right_eq_some, Option.some.injEq] at h
    rw [← h.2] at hshut
    refine absurd (hshut.imp id fun hfailed => ?_) hopen
    dsimp only at hfailed
    split_ifs at hfailed
  | frame value =>
    rw [MultiplexClient.step, Option.ite_none_right_eq_some, Option.some.injEq] at h
    obtain ⟨-, rfl⟩ := h
    exact hs.receive_failed value hopen hshut hr hlive
  | readError exc =>
    rw [MultiplexClient.step, Option.ite_none_right_eq_some, Option.some.injEq] at h
    exact h.2 ▸ hs.failPending_failed exc hr hlive

/-! ## Runs -/

/-- Every event of the run is careful where it happens. -/
def CarefulRun (config : ClientConfig) (s : MultiplexClient) : List ClientEvent → Prop
  | [] => True
  | event :: events => s.Careful config event ∧
    ∀ s', s.step config event = some s' → s'.CarefulRun config events

variable {events : List ClientEvent}

theorem run_cons {event : ClientEvent} (h : s.run config (event :: events) = some s'') :
    ∃ s', s.step config event = some s' ∧ s'.run config events = some s'' := by
  rw [run, List.foldlM_cons, Option.bind_eq_bind, Option.bind_eq_some_iff] at h
  exact h

theorem Correlated.run (hs : s.Correlated) (h : s.run config events = some s') :
    s'.Correlated := by
  induction events generalizing s with
  | nil => exact Option.some.inj h ▸ hs
  | cons event events ih =>
    obtain ⟨s₁, hstep, hrun⟩ := run_cons h
    exact ih (hs.step hstep) hrun

theorem Live.run (hs : s.Live) (hcareful : s.CarefulRun config events)
    (h : s.run config events = some s') : s'.Live := by
  induction events generalizing s with
  | nil => exact Option.some.inj h ▸ hs
  | cons event events ih =>
    obtain ⟨s₁, hstep, hrun⟩ := run_cons h
    exact ih (hs.step hcareful.1 hstep) (hcareful.2 s₁ hstep) hrun

theorem CarefulRun.cons {event : ClientEvent} (hcareful : s.Careful config event)
    (hstep : s.step config event = some s') (hrest : s'.CarefulRun config events) :
    s.CarefulRun config (event :: events) := by
  refine ⟨hcareful, fun s₁ hs₁ => ?_⟩
  obtain rfl := Option.some.inj (hstep.symm.trans hs₁)
  exact hrest

/-- Once the client is shut, it stays so and registers no call. -/
theorem Live.shut_run (hs : s.Live) (hcareful : s.CarefulRun config events) (hshut : s.Shut)
    (h : s.run config events = some s') :
    s'.Shut ∧ s'.requests.length = s.requests.length := by
  induction events generalizing s with
  | nil => exact Option.some.inj h ▸ ⟨hshut, rfl⟩
  | cons event events ih =>
    obtain ⟨s₁, hstep, hrun⟩ := run_cons h
    obtain ⟨hshut', hlength⟩ := ih (hs.step hcareful.1 hstep) (hcareful.2 s₁ hstep)
      (shut_step hshut hstep) hrun
    exact ⟨hshut', hlength.trans (closed_step (hs.shut hshut).1 hstep).2⟩

/-! ## Correlation -/

/-- A call that returns a response returns a frame with its own id, which was read after the call
was registered. -/
def ReturnsOwn (s : MultiplexClient) : Prop :=
  ∀ (f : ℕ) (r : RequestTask) (n : ℕ), s.requests[f]? = some r → r.stage = .returned n →
    r.registeredAt ≤ n ∧ ∃ frame, s.frames[n]? = some frame ∧ requestIdOf frame = .str r.requestId

/-- No frame is delivered to two calls. -/
def DeliversOnce (s : MultiplexClient) : Prop :=
  ∀ (f f' : ℕ) (r r' : RequestTask) (n : ℕ), s.requests[f]? = some r →
    s.requests[f']? = some r' → r.future = .result n → r'.future = .result n → f = f'

/-- Two outstanding calls do not share an id. -/
def DistinctIds (s : MultiplexClient) : Prop :=
  ∀ (f f' : ℕ) (r r' : RequestTask), s.requests[f]? = some r → s.requests[f']? = some r' →
    r.Outstanding → r'.Outstanding → r.requestId = r'.requestId → f = f'

/-- If `close` has finished or the reader has failed, the table is empty and no call waits. -/
def ShutEmpty (s : MultiplexClient) : Prop :=
  s.Shut → (∀ requestId, s.pending.get? requestId = none) ∧
    ∀ (f : ℕ) (r : RequestTask), s.requests[f]? = some r → ¬ r.Outstanding

theorem Correlated.returnsOwn (hs : s.Correlated) : s.ReturnsOwn :=
  fun f r n hr hn => hs.result f r n hr (hs.returned f r n hr hn)

theorem Live.distinctIds (hs : s.Live) : s.DistinctIds := by
  intro f f' r r' hr hr' hlive hlive' hid
  have hentry := hs.entry f r hr hlive
  rw [hid, hs.entry f' r' hr' hlive'] at hentry
  exact (Option.some.inj hentry).symm

theorem Live.shutEmpty (hs : s.Live) : s.ShutEmpty :=
  fun hshut => ⟨(hs.shut hshut).2, fun _ _ hr => hs.not_outstanding hshut hr⟩

end MultiplexClient

/-- In every run a call returns only a frame of its own, and no frame goes to two calls. In a
careful run, moreover, no two outstanding calls share an id in any state; the step that ends
`close` or in which the reader fails completes every outstanding call with an error; and from then
on the table is empty and no call is registered. -/
theorem responses_correlated (config : ClientConfig) (events : List ClientEvent)
    (s : MultiplexClient) (h : MultiplexClient.run config {} events = some s) :
    (s.ReturnsOwn ∧ s.DeliversOnce) ∧
      (MultiplexClient.CarefulRun config {} events →
        (s.DistinctIds ∧ s.ShutEmpty) ∧
        (∀ event s', s.Careful config event → s.step config event = some s' → s'.Shut →
          ∀ (f : ℕ) (r : RequestTask), s.requests[f]? = some r → r.Outstanding →
            ∃ r', s'.requests[f]? = some r' ∧ r'.Failed) ∧
        ∀ events' s', s.CarefulRun config events' → s.run config events' = some s' → s.Shut →
          s'.Shut ∧ s'.ShutEmpty ∧ s'.requests.length = s.requests.length) := by
  have hcorrelated := MultiplexClient.correlated_init.run h
  refine ⟨⟨hcorrelated.returnsOwn, hcorrelated.once⟩, fun hcareful => ?_⟩
  have hlive := MultiplexClient.live_init.run hcareful h
  refine ⟨⟨hlive.distinctIds, hlive.shutEmpty⟩, ?_, ?_⟩
  · intro event s' hevent hstep hshut f r hr houtstanding
    exact hlive.shut_failed hevent hstep hshut hr houtstanding
  · intro events' s' hevents hrun hshut
    obtain ⟨hshut', hlength⟩ := hlive.shut_run hevents hshut hrun
    exact ⟨hshut', (hlive.run hevents hrun).shutEmpty, hlength⟩

def exampleCall (requestId : String) : Request := .ofList [("request_id", .str requestId)]

def examplePing : Request :=
  .ofList [("operation", .str "transport.ping"), ("request_id", .str "k")]

/-- The texts of `examplePing` and of the requests of `exampleCall` with an id of one letter. -/
def exampleClientDumps : JsonDumps := fun value =>
  match value.get? "operation", value.get? "request_id" with
  | some _, _ => .ok [123, 34, 111, 112, 101, 114, 97, 116, 105, 111, 110, 34, 58, 34, 116, 114, 97,
    110, 115, 112, 111, 114, 116, 46, 112, 105, 110, 103, 34, 44, 34, 114, 101, 113, 117, 101, 115,
    116, 95, 105, 100, 34, 58, 34, 107, 34, 125]
  | none, some (.str requestId) => .ok ([123, 34, 114, 101, 113, 117, 101, 115, 116, 95, 105, 100,
    34, 58, 34] ++ requestId.toList.map (fun c => c.toNat.toUInt8) ++ [34, 125])
  | none, _ => .ok [123, 125]

/-- A client that writes no frame of more than 24 bytes. -/
def exampleClient : ClientConfig := ⟨exampleClientDumps, 24⟩

/-- The events of `exampleClient` where one call is made and answered and the client is closed. -/
def exampleExchangeEvents : List ClientEvent :=
  [.readerStarted, .request (exampleCall "j"), .locked 0, .drained 0 true,
    .frame (exampleCall "j"), .resumed 0, .close, .writerClosed]

/-- The run of `exampleExchangeEvents` is careful. -/
theorem carefulRun_exampleExchangeEvents :
    MultiplexClient.CarefulRun exampleClient {} exampleExchangeEvents := by
  have hwrites : ∀ (r : RequestTask) (exc : PyError), r.value = exampleCall "j" →
      encodeFramePayload exampleClientDumps 24 r.value ≠ .error exc := by
    intro r exc hvalue
    rw [hvalue]
    exact nofun
  refine .cons trivial rfl (.cons trivial rfl (.cons ?_ rfl (.cons ?_ rfl (.cons trivial rfl
    (.cons trivial rfl (.cons ?_ rfl (.cons trivial rfl trivial)))))))
  · rintro r hr ⟨exc, hexc⟩
    cases hr
    exact absurd hexc (hwrites _ exc rfl)
  · intro r hr hok
    cases hok
  · exact fun hclosing => absurd rfl hclosing

/-- A call is answered. -/
theorem responses_correlated_exampleCall :
    ∃ s, MultiplexClient.run exampleClient {} exampleExchangeEvents = some s ∧ s.Shut ∧
      s.requests.map (·.stage) = [.returned 0] ∧ (s.ReturnsOwn ∧ s.DeliversOnce) ∧
        s.DistinctIds ∧ s.ShutEmpty := by
  have hrun : MultiplexClient.run exampleClient {} exampleExchangeEvents = some
      { requests := [⟨exampleCall "j", "j", 0, .result 0, .returned 0⟩]
        closed := true
        reader := .ended
        frames := [exampleCall "j"]
        closeFinished := true } := rfl
  obtain ⟨hown, hcareful⟩ := responses_correlated exampleClient _ _ hrun
  exact ⟨_, hrun, Or.inl rfl, rfl, hown, (hcareful carefulRun_exampleExchangeEvents).1⟩

/-- The events of `exampleClient` where a call waits for the lock when a frame with its id is read.
It fails to write and removes the entry of the next call with that id. -/
def exampleTheftEvents : List ClientEvent :=
  [.readerStarted, .request (exampleCall "j"), .locked 0, .request examplePing,
    .frame (exampleCall "k"), .request (exampleCall "k"), .drained 0 true, .locked 1,
    .request (exampleCall "k")]

/-- Two outstanding calls have the id `k`. -/
theorem not_responses_correlated :
    ¬ ∀ (config : ClientConfig) (events : List ClientEvent) (s : MultiplexClient),
      MultiplexClient.run config {} events = some s → s.DistinctIds := by
  intro hall
  have hrun : MultiplexClient.run exampleClient {} exampleTheftEvents = some
      { pending := .ofList [("j", 0), ("k", 3)]
        requests := [⟨exampleCall "j", "j", 0, .pending, .waiting⟩,
          ⟨examplePing, "k", 0, .result 0, .raised⟩, ⟨exampleCall "k", "k", 1, .pending, .locking⟩,
          ⟨exampleCall "k", "k", 1, .pending, .locking⟩]
        reader := .reading
        frames := [exampleCall "k"] } := rfl
  have heq := hall _ _ _ hrun 2 3 _ _ rfl rfl ⟨nofun, nofun, rfl⟩ ⟨nofun, nofun, rfl⟩ rfl
  cases heq

end VeraMesh
