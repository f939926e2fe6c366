import VeraMesh.Python.Json

/-!
# The durable state store

`AgentStateStore` of `state.py`: the fence counter and the bounded ledger of mutation requests.
Each operation is one SQLite transaction: it happens at once and survives a crash, or, if SQLite
raises (`sqliteError`), not at all. A JSON text is stored as the value it is the text of.

A row, once inserted, is never removed and never changes its digest, and a completed row never
changes at all. Every transaction extends the ledger in this sense (`Extends`) and keeps it within
its limit (`Inv`): `Inv.beginRequest`, `Inv.completeRequest`. While a row is there, `begin_request`
admits nothing under its id (`beginRequest_of_eq`, `beginRequest_of_ne`).
-/

namespace VeraMesh

open Python

/-- The column `status`. -/
inductive RequestStatus where
  | pending
  | completed
  deriving DecidableEq

/-- A row of the table `requests`. -/
structure RequestRow where
  requestSha256 : String
  status : RequestStatus
  responseJson : Option PyValue
  startedAtMs : ℤ
  completedAtMs : Option ℤ
  deriving DecidableEq

/-- A completed row holds the text of an object. -/
def RequestRow.WellFormed (row : RequestRow) : Prop :=
  row.status = .completed → ∃ members, row.responseJson = some (.dict members)

/-- The store. -/
structure AgentStateStore where
  maxMutationRequests : ℕ
  warnAtRecords : ℕ
  /-- The value of the row `fence_counter` of the table `metadata`. -/
  fenceCounter : Option ℤ
  /-- The table `requests` by `request_id`. -/
  requests : Dict String RequestRow
  deriving DecidableEq

/-- What an accepted `begin_request` returns. -/
inductive BeginRequest where
  | new
  | replay (response : Dict String PyValue)

namespace AgentStateStore

/-- `AgentStateStore(path, max_mutation_requests, warn_at_records)` on a new file. -/
def create (maxMutationRequests : ℤ) (warnAtRecords : Option ℤ) :
    Except PyError AgentStateStore :=
  if maxMutationRequests < 1 then
    .error ⟨.valueError, "max_mutation_requests must be a positive integer"⟩
  else
    let warnAtRecords := warnAtRecords.getD (max 1 ⌊(maxMutationRequests : ℚ) * (9 / 10)⌋)
    if warnAtRecords < 1 ∨ maxMutationRequests < warnAtRecords then
      .error ⟨.valueError, "warn_at_records must be in 1..max_mutation_requests"⟩
    else .ok ⟨maxMutationRequests.toNat, warnAtRecords.toNat, none, .empty⟩

/-- `next_fence`. -/
def nextFence (s : AgentStateStore) (sqliteError : Option PyError) :
    Except PyError ℤ × AgentStateStore :=
  match sqliteError with
  | some e => (.error e, s)
  | none =>
    let value := s.fenceCounter.getD 0 + 1
    (.ok value, { s with fenceCounter := some value })

/-- The error that stands for any `sqlite3.Error` of a ledger transaction. -/
def ledgerUnavailable : PyError := ⟨.stateStoreError, "mutation request ledger unavailable"⟩

/-- `begin_request`. `sqliteError` tells whether a statement of the transaction raises. -/
def beginRequest (s : AgentStateStore) (requestId requestSha256 : String) (nowMs : ℤ)
    (sqliteError : Bool) : Except PyError BeginRequest × AgentStateStore :=
  if sqliteError then (.error ledgerUnavailable, s)
  else
    match s.requests.get? requestId with
    | none =>
      if s.maxMutationRequests ≤ s.requests.size then
        (.error ⟨.requestLedgerCapacityExceeded,
          "mutation request ledger is full; new mutation admission is blocked"⟩, s)
      else
        (.ok .new, { s with
          requests := s.requests.set requestId ⟨requestSha256, .pending, none, nowMs, none⟩ })
    | some row =>
      if row.requestSha256 ≠ requestSha256 then (.error ⟨.idempotencyConflict, requestId⟩, s)
      else
        match row.status with
        | .pending => (.error ⟨.requestOutcomeUnknown, requestId⟩, s)
        | .completed =>
          match row.responseJson with
          | none => (.error ⟨.stateStoreError, "completed request lacks response"⟩, s)
          | some (.dict members) => (.ok (.replay (.ofList members)), s)
          | some _ => (.error ⟨.stateStoreError, "stored response is not object"⟩, s)

/-- `complete_request`. -/
def completeRequest (s : AgentStateStore) (requestId requestSha256 : String)
    (response : Dict String PyValue) (nowMs : ℤ) (sqliteError : Bool) :
    Except PyError Unit × AgentStateStore :=
  let payload := dumpsSorted response
  if sqliteError then (.error ledgerUnavailable, s)
  else
    match s.requests.get? requestId with
    | none => (.error ⟨.stateStoreError, "cannot complete unknown request"⟩, s)
    | some row =>
      if row.requestSha256 ≠ requestSha256 then (.error ⟨.idempotencyConflict, requestId⟩, s)
      else
        match row.status with
        | .completed =>
          if row.responseJson ≠ some payload then (.error ⟨.idempotencyConflict, requestId⟩, s)
          else (.ok (), s)
        | .pending =>
          (.ok (), { s with
            requests := s.requests.set requestId
              { row with
                status := .completed, responseJson := some payload, completedAtMs := some nowMs } })

/-! ## What the transactions do to the ledger -/

/-- The invariant of the ledger. -/
structure Inv (s : AgentStateStore) : Prop where
  bounded : s.requests.size ≤ s.maxMutationRequests
  wellFormed : ∀ {requestId row}, s.requests.get? requestId = some row → row.WellFormed

/-- `s'` is a later state of the ledger `s`. -/
structure Extends (s s' : AgentStateStore) : Prop where
  maxMutationRequests_eq : s'.maxMutationRequests = s.maxMutationRequests
  /-- Rows stay with their digest, completed rows as they are. -/
  get?_of_get? : ∀ {requestId row}, s.requests.get? requestId = some row →
    ∃ row', s'.requests.get? requestId = some row' ∧ row'.requestSha256 = row.requestSha256 ∧
      (row.status = .completed → row' = row)

@[refl]
theorem Extends.refl (s : AgentStateStore) : Extends s s :=
  ⟨rfl, fun h => ⟨_, h, rfl, fun _ => rfl⟩⟩

@[trans]
theorem Extends.trans {s₁ s₂ s₃ : AgentStateStore} (h₁ : Extends s₁ s₂) (h₂ : Extends s₂ s₃) :
    Extends s₁ s₃ where
  maxMutationRequests_eq := h₂.maxMutationRequests_eq.trans h₁.maxMutationRequests_eq
  get?_of_get? h := by
    obtain ⟨row₂, hget₂, hsha₂, hrow₂⟩ := h₁.get?_of_get? h
    obtain ⟨row₃, hget₃, hsha₃, hrow₃⟩ := h₂.get?_of_get? hget₂
    refine ⟨row₃, hget₃, hsha₃.trans hsha₂, fun hdone => ?_⟩
    obtain rfl := hrow₂ hdone
    exact hrow₃ hdone

variable {s s' : AgentStateStore} {requestId requestSha256 : String} {nowMs : ℤ}
  {sqliteError : Bool}

/-- A request is admitted only under a fresh id and with room left, and is then pending. -/
theorem beginRequest_new
    (h : s.beginRequest requestId requestSha256 nowMs sqliteError = (.ok .new, s')) :
    s.requests.get? requestId = none ∧ s.requests.size < s.maxMutationRequests ∧
      s' = { s with
        requests := s.requests.set requestId ⟨requestSha256, .pending, none, nowMs, none⟩ } := by
  unfold beginRequest at h
  by_cases herr : sqliteError = true
  · rw [if_pos herr] at h
    cases h
  rw [if_neg herr] at h
  split at h
  next hnone =>
    split_ifs at h with hfull
    · cases h
    · exact ⟨hnone, not_le.mp hfull, (Prod.mk.inj h).2.symm⟩
  next row hrow =>
    split_ifs at h
    · cases h
    · split at h
      · cases h
      · split at h <;> cases h

/-- A transaction that admits nothing changes nothing. -/
theorem beginRequest_not_new {res : Except PyError BeginRequest}
    (h : s.beginRequest requestId requestSha256 nowMs sqliteError = (res, s'))
    (hres : res ≠ .ok .new) : s' = s := by
  unfold beginRequest at h
  by_cases herr : sqliteError = true
  · rw [if_pos herr] at h
    exact (Prod.mk.inj h).2.symm
  rw [if_neg herr] at h
  split at h
  · split_ifs at h
    · exact (Prod.mk.inj h).2.symm
    · exact absurd (Prod.mk.inj h).1.symm hres
  · split_ifs at h
    · exact (Prod.mk.inj h).2.symm
    · split at h
      · exact (Prod.mk.inj h).2.symm
      · split at h <;> exact (Prod.mk.inj h).2.symm

/-- Under the id of a row another digest conflicts. -/
theorem beginRequest_of_ne {row : RequestRow} (hrow : s.requests.get? requestId = some row)
    (hsha : row.requestSha256 ≠ requestSha256) (nowMs : ℤ) :
    s.beginRequest requestId requestSha256 nowMs false =
      (.error ⟨.idempotencyConflict, requestId⟩, s) := by
  unfold beginRequest
  simp only [hrow, Bool.false_eq_true, if_false]
  rw [if_pos hsha]

/-- Under the id of a row its own digest is answered with the stored response once there is one,
and not at all before. -/
theorem beginRequest_of_eq (hinv : s.Inv) {row : RequestRow}
    (hrow : s.requests.get? requestId = some row) (hsha : row.requestSha256 = requestSha256)
    (nowMs : ℤ) :
    (row.status = .completed ∧ ∃ members, row.responseJson = some (.dict members) ∧
        s.beginRequest requestId requestSha256 nowMs false =
          (.ok (.replay (.ofList members)), s)) ∨
      s.beginRequest requestId requestSha256 nowMs false =
        (.error ⟨.requestOutcomeUnknown, requestId⟩, s) := by
  unfold beginRequest
  simp only [hrow, Bool.false_eq_true, if_false]
  rw [if_neg (not_not_intro hsha)]
  cases hstatus : row.status with
  | pending => exact Or.inr rfl
  | completed =>
    obtain ⟨members, hmembers⟩ := hinv.wellFormed hrow hstatus
    exact Or.inl ⟨rfl, members, hmembers, by simp only [hmembers]⟩

/-- A completion changes nothing or completes the pending row of the request. -/
theorem completeRequest_cases {response : Dict String PyValue} {res : Except PyError Unit}
    (h : s.completeRequest requestId requestSha256 response nowMs sqliteError = (res, s')) :
    s' = s ∨ ∃ row, s.requests.get? requestId = some row ∧ row.status = .pending ∧
      row.requestSha256 = requestSha256 ∧
      s' = { s with
        requests := s.requests.set requestId
          { row with
            status := .completed
            responseJson := some (dumpsSorted response)
            completedAtMs := some nowMs } } := by
  unfold completeRequest at h
  dsimp only at h
  by_cases herr : sqliteError = true
  · rw [if_pos herr] at h
    exact Or.inl (Prod.mk.inj h).2.symm
  rw [if_neg herr] at h
  split at h
  · exact Or.inl (Prod.mk.inj h).2.symm
  next row hrow =>
    by_cases hsha : row.requestSha256 = requestSha256
    · rw [if_neg (not_not_intro hsha)] at h
      cases hstatus : row.status with
      | completed =>
        simp only [hstatus] at h
        split_ifs at h <;> exact Or.inl (Prod.mk.inj h).2.symm
      | pending =>
        simp only [hstatus] at h
        exact Or.inr ⟨row, hrow, hstatus, hsha, (Prod.mk.inj h).2.symm⟩
    · rw [if_pos hsha] at h
      exact Or.inl (Prod.mk.inj h).2.symm

/-- `begin_request` keeps the invariant and extends the ledger. -/
theorem Inv.beginRequest (hinv : s.Inv) {res : Except PyError BeginRequest}
    (h : s.beginRequest requestId requestSha256 nowMs sqliteError = (res, s')) :
    s'.Inv ∧ Extends s s' := by
  by_cases hres : res = .ok .new
  · subst hres
    obtain ⟨hnone, hroom, rfl⟩ := beginRequest_new h
    refine ⟨⟨?_, fun {id row} hrow => ?_⟩, rfl, fun {id row} hrow => ⟨row, ?_, rfl, fun _ => rfl⟩⟩
    · simp only [Dict.size_set_of_get?_eq_none hnone]
      exact hroom
    · rw [Dict.get?_set] at hrow
      split_ifs at hrow
      · cases hrow
        rintro ⟨⟩
      · exact hinv.wellFormed hrow
    · have hne : id ≠ requestId := by
        rintro rfl
        rw [hnone] at hrow
        cases hrow
      rwa [Dict.get?_set_ne _ _ hne]
  · obtain rfl := beginRequest_not_new h hres
    exact ⟨hinv, Extends.refl s'⟩

/-- `complete_request` keeps the invariant and extends the ledger. -/
theorem Inv.completeRequest (hinv : s.Inv) {response : Dict String PyValue}
    {res : Except PyError Unit}
    (h : s.completeRequest requestId requestSha256 response nowMs sqliteError = (res, s')) :
    s'.Inv ∧ Extends s s' := by
  rcases completeRequest_cases h with rfl | ⟨row, hrow, hpending, hsha, rfl⟩
  · exact ⟨hinv, Extends.refl s'⟩
  · refine ⟨⟨?_, fun {id row'} hrow' => ?_⟩, rfl, fun {id row'} hrow' => ?_⟩
    · simp only [Dict.size_set_of_get?_eq_some hrow]
      exact hinv.bounded
    · rw [Dict.get?_set] at hrow'
      split_ifs at hrow'
      · cases hrow'
        exact fun _ => ⟨_, by rw [dumpsSorted_eq]⟩
      · exact hinv.wellFormed hrow'
    · by_cases hid : id = requestId
      · subst hid
        rw [hrow, Option.some.injEq] at hrow'
        subst hrow'
        exact ⟨_, Dict.get?_set_self .., rfl, fun hdone => by rw [hpending] at hdone; cases hdone⟩
      · exact ⟨row', by rwa [Dict.get?_set_ne _ _ hid], rfl, fun _ => rfl⟩

theorem maxMutationRequests_of_create {maxMutationRequests : ℤ} {warnAtRecords : Option ℤ}
    (h : AgentStateStore.create maxMutationRequests warnAtRecords = .ok s) :
    (s.maxMutationRequests : ℤ) = maxMutationRequests := by
  unfold AgentStateStore.create at h
  dsimp only at h
  split_ifs at h
  cases h
  simp only
  omega

theorem Inv.create {maxMutationRequests : ℤ} {warnAtRecords : Option ℤ}
    (h : AgentStateStore.create maxMutationRequests warnAtRecords = .ok s) : s.Inv := by
  unfold AgentStateStore.create at h
  dsimp only at h
  split_ifs at h
  cases h
  exact ⟨Nat.zero_le _, by simp⟩

end AgentStateStore

end VeraMesh
