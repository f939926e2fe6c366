import VeraMesh.Lib.Except
import VeraMesh.Stream.Serve

/-!
# Bounded service

Every task of `serve_multiplexed` holds one permit until it ends, and writes at most one frame. It
writes exactly one, unless the stream breaks, when the end of its handler is one that `run_one` can
turn into a response.

* `ServerConfig.Answerable`: such an end of a handler.
* `Server.Sound`: the permits, and what every task has written at its stage.
* `service_bounded`: both properties in every run.
-/

namespace VeraMesh

open Python Except

variable {config : ServerConfig}

/-! ## Responses -/

theorem requestIdOf_errorResponse (requestId : PyValue) (code message : String) :
    requestIdOf (errorResponse requestId code message) = requestId := by
  simp [requestIdOf, errorResponse, Dict.ofList, Dict.get?_set]

namespace ServerConfig

/-- `run_one` catches the exception of `encode_frame_payload`. -/
def Catches (exc : PyError) : Prop :=
  isEncodingError exc = true ∨ exc.cls = .frameTooLarge ∨ exc.cls = .streamProtocolError

/-- The handler returns or raises an `Exception`, and `json.dumps` writes the response or raises
`TypeError` or `ValueError`. -/
def Answerable (config : ServerConfig) (request : Request) (outcome : Except PyError Response) :
    Prop :=
  ∃ response, answer request outcome = .ok response ∧
    ∀ exc, config.dumps response = .error exc → Catches exc

/-- A handler's response with the request's own id, or a bounded error response. -/
def IsResponse (config : ServerConfig) (request : Request) (outcome : Except PyError Response)
    (response : Response) : Prop :=
  (outcome = .ok response ∨
    ∃ code message, response = errorResponse (requestIdOf request) code message) ∧
  requestIdOf response = requestIdOf request ∧
  ∃ raw, config.encode response = .ok raw ∧ raw.length ≤ config.maxFrameBytes

variable {request : Request} {outcome : Except PyError Response} {response : Response}

/-- What a response starts from is the handler's, or an error response. -/
theorem answer_eq_ok (h : answer request outcome = .ok response) :
    outcome = .ok response ∨
      ∃ code message, response = errorResponse (requestIdOf request) code message := by
  cases outcome with
  | ok r =>
    obtain rfl : r = response := Except.ok.inj h
    exact Or.inl rfl
  | error exc =>
    rw [answer] at h
    split_ifs at h
    exact Or.inr ⟨_, _, (Except.ok.inj h).symm⟩

/-- So is what `run_one` goes on to write. -/
theorem respond_eq_ok (h : config.respond request outcome = .ok response) :
    outcome = .ok response ∨
      ∃ code message, response = errorResponse (requestIdOf request) code message := by
  obtain ⟨first, hfirst, hrest⟩ := bind_eq_ok.mp h
  cases hencode : config.encode first with
  | ok raw =>
    rw [hencode] at hrest
    rw [← Except.ok.inj hrest]
    exact answer_eq_ok hfirst
  | error exc =>
    simp only [hencode] at hrest
    split_ifs at hrest
    · exact Or.inr ⟨_, _, (Except.ok.inj hrest).symm⟩
    · exact Or.inr ⟨_, _, (Except.ok.inj hrest).symm⟩

/-- `run_one` gets to a response exactly when the end of the handler is answerable. -/
theorem exists_respond_eq_ok_iff :
    (∃ response, config.respond request outcome = .ok response) ↔
      config.Answerable request outcome := by
  rw [respond, Answerable]
  cases hanswer : answer request outcome with
  | error exc => simp [bind, Except.bind]
  | ok first =>
    have hok : (∃ response, (Except.ok first : Except PyError Response) = .ok response ∧
        ∀ exc, config.dumps response = .error exc → Catches exc) ↔
        ∀ exc, config.dumps first = .error exc → Catches exc := by simp
    rw [hok]
    cases hdumps : config.dumps first with
    | ok raw =>
      by_cases hsize : config.maxFrameBytes < raw.length
      · simp [bind, Except.bind, encode, encodeFramePayload, hdumps, hsize]
      · simp [bind, Except.bind, encode, encodeFramePayload, hdumps, hsize]
    | error exc =>
      by_cases hencoding : isEncodingError exc = true
      · simp [bind, Except.bind, encode, encodeFramePayload, hdumps, hencoding, Catches]
      · by_cases hlarge : exc.cls = .frameTooLarge
        · simp [bind, Except.bind, encode, encodeFramePayload, hdumps, hencoding, hlarge, Catches]
        · by_cases hprotocol : exc.cls = .streamProtocolError
          · simp [bind, Except.bind, encode, encodeFramePayload, hdumps, hencoding, hprotocol,
              Catches]
          · simp [bind, Except.bind, encode, encodeFramePayload, hdumps, hencoding, hlarge,
              hprotocol, Catches]

end ServerConfig

/-! ## Tasks -/

namespace ServerTask

/-- The response was written once, or the stream is broken. -/
def Wrote (config : ServerConfig) (broken : Bool) (response : Response) (frames : List Response) :
    Prop :=
  frames.length ≤ 1 ∧
    (broken = false → frames = [response] ∧ ∃ raw, config.encode response = .ok raw)

/-- What a task has written at its stage. -/
def Sound (config : ServerConfig) (broken : Bool) (frames : List Response) (task : ServerTask) :
    Prop :=
  match task.stage with
  | .handling => frames = []
  | .locking response =>
    frames = [] ∧
      ∃ outcome, task.outcome = some outcome ∧ config.respond task.request outcome = .ok response
  | .draining =>
    ∃ outcome response, task.outcome = some outcome ∧
      config.respond task.request outcome = .ok response ∧ Wrote config broken response frames
  | .ended =>
    ∃ outcome, task.outcome = some outcome ∧
      ((∃ response, config.respond task.request outcome = .ok response ∧
          Wrote config broken response frames) ∨
        (∃ exc, config.respond task.request outcome = .error exc) ∧ frames = [])

variable {broken broken' : Bool} {frames : List Response} {task : ServerTask} {response : Response}

theorem Wrote.mono (h : Wrote config broken response frames)
    (hbroken : broken = true → broken' = true) : Wrote config broken' response frames := by
  refine ⟨h.1, fun hwhole => h.2 ?_⟩
  by_contra hne
  rw [hbroken (by simpa using hne)] at hwhole
  cases hwhole

/-- A stream that breaks leaves what a task has written. -/
theorem Sound.mono (h : task.Sound config broken frames)
    (hbroken : broken = true → broken' = true) : task.Sound config broken' frames := by
  rw [Sound] at h ⊢
  split at h
  · exact h
  · exact h
  · obtain ⟨outcome, response, houtcome, hrespond, hwrote⟩ := h
    exact ⟨outcome, response, houtcome, hrespond, hwrote.mono hbroken⟩
  · obtain ⟨outcome, houtcome, ⟨response, hrespond, hwrote⟩ | hnone⟩ := h
    · exact ⟨outcome, houtcome, Or.inl ⟨response, hrespond, hwrote.mono hbroken⟩⟩
    · exact ⟨outcome, houtcome, Or.inr hnone⟩

/-- No task writes twice. -/
theorem Sound.length_le_one (h : task.Sound config broken frames) : frames.length ≤ 1 := by
  rw [Sound] at h
  split at h
  · simp [h]
  · simp [h.1]
  · obtain ⟨_, _, _, _, hwrote⟩ := h
    exact hwrote.1
  · obtain ⟨_, _, ⟨_, _, hwrote⟩ | ⟨_, hnone⟩⟩ := h
    · exact hwrote.1
    · simp [hnone]

end ServerTask

/-! ## The server -/

namespace Server

variable {s s' : Server} {t : ℕ} {task task' : ServerTask} {events : List ServerEvent}

/-- The permits are with the semaphore, the tasks that have not ended and the pending read, and
every task has written what its stage says. -/
structure Sound (config : ServerConfig) (s : Server) : Prop where
  permits : s.capacity + s.active + (if s.loop = .reading then 1 else 0) = config.maxInflight
  ended : s.loop = .ended → s.active = 0
  task : ∀ (t : ℕ) (task : ServerTask), s.tasks[t]? = some task →
    task.Sound config s.broken (s.framesOf t)
  fresh : ∀ t, s.tasks.length ≤ t → s.framesOf t = []

theorem sound_start (config : ServerConfig) : (start config).Sound config where
  permits := by simp [start, active]
  ended h := by cases h
  task t task h := by simp [start] at h
  fresh t _ := rfl

/-- The count of active tasks when one active task changes. -/
theorem active_set (ht : s.tasks[t]? = some task) (hactive : task.active = true)
    (htasks : s'.tasks = s.tasks.set t task') :
    s'.active + 1 = s.active + (if task'.active = true then 1 else 0) := by
  obtain ⟨hlt, hget⟩ := List.getElem?_eq_some_iff.mp ht
  have hpos : 0 < s.active :=
    List.countP_pos_iff.mpr ⟨task, List.mem_of_getElem? ht, hactive⟩
  rw [active, htasks, List.countP_set hlt, hget, if_pos hactive]
  rw [active] at hpos ⊢
  omega

/-- One task changes. It gives its permit back if it ends. -/
theorem Sound.set (hs : s.Sound config) (ht : s.tasks[t]? = some task)
    (hactive : task.active = true) (htasks : s'.tasks = s.tasks.set t task')
    (hloop : s'.loop = s.loop)
    (hcapacity : s'.capacity + (if task'.active = true then 1 else 0) = s.capacity + 1)
    (hbroken : s.broken = true → s'.broken = true)
    (hframes : ∀ t' ≠ t, s'.framesOf t' = s.framesOf t')
    (htask : task'.Sound config s'.broken (s'.framesOf t)) : s'.Sound config := by
  have hcount := active_set ht hactive htasks
  have hpermits := hs.permits
  have hlt : t < s.tasks.length := (List.getElem?_eq_some_iff.mp ht).1
  have hpos : 0 < s.active := List.countP_pos_iff.mpr ⟨task, List.mem_of_getElem? ht, hactive⟩
  refine ⟨?_, fun hended => ?_, fun t' other hother => ?_, fun t' ht' => ?_⟩
  · rw [hloop]
    omega
  · have hzero := hs.ended (hloop ▸ hended)
    omega
  · rw [htasks] at hother
    rcases eq_or_ne t' t with rfl | hne
    · rw [List.getElem?_set_self hlt] at hother
      rwa [← Option.some.inj hother]
    · rw [List.getElem?_set_ne hne.symm] at hother
      rw [hframes t' hne]
      exact (hs.task t' other hother).mono hbroken
  · rw [htasks, List.length_set] at ht'
    have hne : t' ≠ t := by omega
    rw [hframes t' hne]
    exact hs.fresh t' ht'

theorem Sound.handle (hs : s.Sound config) (ht : s.tasks[t]? = some task)
    (hstage : task.stage = .handling) (outcome : Except PyError Response) :
    (s.handle config t task outcome).Sound config := by
  have hactive : task.active = true := by simp [ServerTask.active, hstage]
  have hnone : s.framesOf t = [] := by
    have htask := hs.task t task ht
    rwa [ServerTask.Sound, hstage] at htask
  rw [Server.handle]
  cases hrespond : config.respond task.request outcome with
  | ok response =>
    refine hs.set ht hactive rfl rfl (by simp [goTo, ServerTask.active]) id (fun _ _ => rfl) ?_
    exact ⟨hnone, outcome, rfl, hrespond⟩
  | error exc =>
    refine hs.set ht hactive rfl rfl (by simp [release, ServerTask.active]) id (fun _ _ => rfl) ?_
    exact ⟨outcome, rfl, Or.inr ⟨⟨exc, hrespond⟩, hnone⟩⟩

theorem framesOf_append (s : Server) (t t' : ℕ) (response : Response) :
    framesOf { s with frames := s.frames ++ [(t, response)] } t' =
      if t' = t then s.framesOf t' ++ [response] else s.framesOf t' := by
  split_ifs with h
  · simp [framesOf, h]
  · have hne : ¬ t = t' := fun h' => h h'.symm
    simp [framesOf, hne]

theorem Sound.write {response : Response} (hs : s.Sound config) (ht : s.tasks[t]? = some task)
    (hstage : task.stage = .locking response) : (s.write config t task response).Sound config := by
  have hactive : task.active = true := by simp [ServerTask.active, hstage]
  have htask := hs.task t task ht
  rw [ServerTask.Sound, hstage] at htask
  obtain ⟨hnone, outcome, houtcome, hrespond⟩ := htask
  rw [Server.write]
  cases hencode : config.encode response with
  | error exc =>
    refine hs.set ht hactive rfl rfl (by simp [release, ServerTask.active]) (fun _ => rfl)
      (fun _ _ => rfl) ?_
    refine ⟨outcome, houtcome, Or.inl ⟨response, hrespond, ?_, fun h => by cases h⟩⟩
    exact le_of_eq_of_le (congrArg List.length hnone) (by simp)
  | ok raw =>
    cases hbroken : s.broken with
    | true =>
      refine hs.set ht hactive rfl rfl (by simp [goTo, ServerTask.active]) (fun _ => hbroken)
        (fun _ _ => rfl) ?_
      refine ⟨outcome, response, houtcome, hrespond, ?_, fun h => ?_⟩
      · exact le_of_eq_of_le (congrArg List.length hnone) (by simp)
      · exact absurd (h.symm.trans hbroken) Bool.false_ne_true
    | false =>
      have hself := framesOf_append s t t response
      rw [if_pos rfl, hnone, List.nil_append] at hself
      refine hs.set ht hactive rfl rfl (by simp [goTo, ServerTask.active]) id
        (fun t' hne => ?_) ?_
      · exact (framesOf_append s t t' response).trans (if_neg hne)
      · refine ⟨outcome, response, houtcome, hrespond, ?_, fun _ => ⟨hself, raw, hencode⟩⟩
        exact le_of_eq (congrArg List.length hself)

theorem Sound.drained (hs : s.Sound config) (ht : s.tasks[t]? = some task)
    (hstage : task.stage = .draining) (ok : Bool) :
    Sound config { s.release t task with writer := none, broken := s.broken || !ok } := by
  have hactive : task.active = true := by simp [ServerTask.active, hstage]
  have htask := hs.task t task ht
  rw [ServerTask.Sound, hstage] at htask
  obtain ⟨outcome, response, houtcome, hrespond, hwrote⟩ := htask
  have hbroken : s.broken = true → (s.broken || !ok) = true := fun h => by simp [h]
  refine hs.set ht hactive rfl rfl (by simp [release, ServerTask.active]) hbroken
    (fun _ _ => rfl) ?_
  exact ⟨outcome, houtcome, Or.inl ⟨response, hrespond, hwrote.mono hbroken⟩⟩

/-- One step keeps the permits and the frames in order. -/
theorem Sound.step (hs : s.Sound config) {event : ServerEvent}
    (h : s.step config event = some s') : s'.Sound config := by
  have hpermits := hs.permits
  cases event with
  | acquired =>
    simp only [Server.step, Option.ite_none_right_eq_some, Option.some.injEq] at h
    obtain ⟨⟨hloop, hfree⟩, rfl⟩ := h
    refine ⟨?_, nofun, hs.task, hs.fresh⟩
    simp only [hloop, active, reduceCtorEq, if_false, if_true] at hpermits ⊢
    omega
  | frame request =>
    simp only [Server.step, Option.ite_none_right_eq_some, Option.some.injEq] at h
    obtain ⟨hloop, rfl⟩ := h
    refine ⟨?_, nofun, fun t task ht => ?_, fun t ht => hs.fresh t ?_⟩
    · have hnew : [ServerTask.mk request .handling none].countP ServerTask.active = 1 := rfl
      simp only [hloop, active, List.countP_append, hnew, reduceCtorEq, if_false, if_true]
        at hpermits ⊢
      omega
    · rcases Nat.lt_trichotomy t s.tasks.length with hlt | rfl | hgt
      · rw [List.getElem?_append_left hlt] at ht
        exact hs.task t task ht
      · rw [List.getElem?_concat_length] at ht
        rw [← Option.some.inj ht]
        exact hs.fresh _ le_rfl
      · have hlen : (s.tasks ++ [ServerTask.mk request .handling none]).length ≤ t := by
          rw [List.length_append, List.length_singleton]
          omega
        rw [List.getElem?_eq_none hlen] at ht
        cases ht
    · rw [List.length_append] at ht
      exact (Nat.le_add_right _ _).trans ht
  | readError =>
    simp only [Server.step, Option.ite_none_right_eq_some, Option.some.injEq] at h
    obtain ⟨hloop, rfl⟩ := h
    refine ⟨?_, nofun, hs.task, hs.fresh⟩
    simp only [hloop, active, reduceCtorEq, if_false, if_true] at hpermits ⊢
    omega
  | handled t outcome =>
    rw [Server.step] at h
    split at h
    · next task ht =>
      split at h
      · next hstage => exact Option.some.inj h ▸ hs.handle ht hstage outcome
      · cases h
    · cases h
  | locked t =>
    rw [Server.step] at h
    split at h
    · next task ht hfree =>
      split at h
      · next response hstage => exact Option.some.inj h ▸ hs.write ht hstage
      · cases h
    · cases h
  | drained t ok =>
    rw [Server.step] at h
    split at h
    · next task ht =>
      split at h
      · next hstage => exact Option.some.inj h ▸ hs.drained ht hstage ok
      · cases h
    · cases h
  | gathered =>
    simp only [Server.step, Option.ite_none_right_eq_some, Option.some.injEq] at h
    obtain ⟨⟨hloop, hidle⟩, rfl⟩ := h
    refine ⟨?_, fun _ => hidle, hs.task, hs.fresh⟩
    simpa [hloop, active] using hpermits

theorem Sound.run (hs : s.Sound config) (h : s.run config events = some s') :
    s'.Sound config := by
  induction events generalizing s with
  | nil =>
    rw [← Option.some.inj h]
    exact hs
  | cons event events ih =>
    obtain ⟨s₁, hstep, hrest⟩ := Option.bind_eq_some_iff.mp h
    exact ih (hs.step hstep) hrest

end Server

/-- In every run of `serve_multiplexed` the permits are conserved, with one for every active task
and one for a pending read, and no task writes two frames. When a task has ended and the stream is
whole, it has written exactly one response, with its own request id and within the limit, if and
only if the end of its handler was answerable. -/
theorem service_bounded {events : List ServerEvent} {s : Server}
    (h : Server.run config (.start config) events = some s) :
    (s.capacity + s.active + (if s.loop = .reading then 1 else 0) = config.maxInflight ∧
      s.active ≤ config.maxInflight ∧ (s.loop = .ended → s.capacity = config.maxInflight)) ∧
    ∀ (t : ℕ) (task : ServerTask), s.tasks[t]? = some task →
      (s.framesOf t).length ≤ 1 ∧
      (task.active = false → s.broken = false → ∃ outcome, task.outcome = some outcome ∧
        ((∀ response, outcome = .ok response → requestIdOf response = requestIdOf task.request) →
          ((∃ response, s.framesOf t = [response] ∧
              config.IsResponse task.request outcome response) ↔
            config.Answerable task.request outcome))) := by
  have hsound : s.Sound config := (Server.sound_start config).run h
  have hpermits := hsound.permits
  refine ⟨⟨hpermits, by omega, fun hended => ?_⟩, fun t task ht => ?_⟩
  · have hidle := hsound.ended hended
    rw [hidle, hended, if_neg (by decide)] at hpermits
    omega
  · have htask := hsound.task t task ht
    refine ⟨htask.length_le_one, fun hinactive hwhole => ?_⟩
    have hstage : task.stage = .ended := by
      rw [ServerTask.active] at hinactive
      split at hinactive
      · assumption
      · cases hinactive
    rw [ServerTask.Sound, hstage] at htask
    obtain ⟨outcome, houtcome, hwritten⟩ := htask
    refine ⟨outcome, houtcome, fun hown => ?_⟩
    rw [← ServerConfig.exists_respond_eq_ok_iff]
    constructor
    · rintro ⟨response, hframes, -⟩
      rcases hwritten with ⟨response', hrespond, -⟩ | ⟨-, hnone⟩
      · exact ⟨response', hrespond⟩
      · rw [hnone] at hframes
        cases hframes
    · rintro ⟨response, hrespond⟩
      rcases hwritten with ⟨response', hrespond', hwrote⟩ | ⟨⟨exc, hraise⟩, -⟩
      · rw [hrespond, Except.ok.injEq] at hrespond'
        subst hrespond'
        obtain ⟨hframes, raw, hencode⟩ := hwrote.2 hwhole
        refine ⟨response, hframes, ServerConfig.respond_eq_ok hrespond, ?_, raw, hencode,
          length_le_of_encodeFramePayload hencode⟩
        rcases ServerConfig.respond_eq_ok hrespond with hok | ⟨code, message, rfl⟩
        · exact hown response hok
        · exact requestIdOf_errorResponse _ _ _
      · rw [hrespond] at hraise
        cases hraise

/-! ## A response that is nested too deeply -/

/-- Lists in lists. -/
def nestedList : ℕ → PyValue
  | 0 => .none
  | n + 1 => .list [nestedList n]

/-- The value has more than `n` levels. -/
def deeperThan : ℕ → PyValue → Bool
  | 0, .list _ => true
  | n + 1, .list l => l.any (deeperThan n)
  | _, _ => false

theorem deeperThan_nestedList (n : ℕ) : deeperThan n (nestedList (n + 1)) = true := by
  induction n with
  | zero => rfl
  | succ n ih =>
    rw [nestedList, deeperThan, List.any_cons, ih]
    rfl

def exampleFrame : Request := .ofList [("request_id", .str "r1")]

def exampleReplyFrame : Response := .ofList [("ok", .bool true), ("request_id", .str "r1")]

def exampleNestedFrame : Response :=
  .ofList [("request_id", .str "r1"), ("result", nestedList 1001)]

/-- The text of `exampleReplyFrame`, and the exception for values of more than 1000 levels. -/
def exampleDumps : JsonDumps := fun value =>
  if value.values.any (deeperThan 1000) = true then
    .error ⟨.recursionError, "maximum recursion depth exceeded while encoding a JSON object"⟩
  else .ok [123, 34, 111, 107, 34, 58, 116, 114, 117, 101, 44, 34, 114, 101, 113, 117, 101, 115,
    116, 95, 105, 100, 34, 58, 34, 114, 49, 34, 125]

def exampleServer : ServerConfig := ⟨exampleDumps, 1048576, 64, by decide⟩

/-- A request is read and answered. -/
def exampleServing (outcome : Except PyError Response) : List ServerEvent :=
  [.acquired, .frame exampleFrame, .handled 0 outcome]

theorem exampleDumps_reply : ∃ raw, exampleDumps exampleReplyFrame = .ok raw := ⟨_, rfl⟩

theorem exampleDumps_nested : exampleDumps exampleNestedFrame =
    .error ⟨.recursionError, "maximum recursion depth exceeded while encoding a JSON object"⟩ := by
  have hdeep : exampleNestedFrame.values.any (deeperThan 1000) = true :=
    List.any_eq_true.mpr ⟨nestedList 1001, Dict.mem_values.mpr ⟨"result",
      by simp [exampleNestedFrame, Dict.ofList]⟩, deeperThan_nestedList 1000⟩
  rw [exampleDumps, if_pos hdeep]

/-- The response of a handler is written. -/
theorem service_bounded_exampleReply :
    ∃ s, Server.run exampleServer (.start exampleServer)
        (exampleServing (.ok exampleReplyFrame) ++ [.locked 0, .drained 0 true]) = some s ∧
      ∃ response, s.framesOf 0 = [response] ∧
        exampleServer.IsResponse exampleFrame (.ok exampleReplyFrame) response := by
  have hrun : Server.run exampleServer (.start exampleServer)
      (exampleServing (.ok exampleReplyFrame) ++ [.locked 0, .drained 0 true]) =
        some ⟨64, .acquiring, [⟨exampleFrame, .ended, some (.ok exampleReplyFrame)⟩], none,
          [(0, exampleReplyFrame)], false⟩ := rfl
  obtain ⟨-, hended⟩ := (service_bounded hrun).2 0 _ rfl
  obtain ⟨outcome, houtcome, hiff⟩ := hended rfl rfl
  obtain rfl : Except.ok exampleReplyFrame = outcome := Option.some.inj houtcome
  refine ⟨_, hrun, (hiff fun response hresponse => ?_).mpr ⟨exampleReplyFrame, rfl, ?_⟩⟩
  · rw [← Except.ok.inj hresponse]
    rfl
  · intro exc hexc
    obtain ⟨raw, hraw⟩ := exampleDumps_reply
    cases hraw.symm.trans hexc

/-- A response that is nested too deeply is neither written nor replaced by an error. -/
theorem not_service_bounded :
    ¬ ∀ (config : ServerConfig) (events : List ServerEvent) (s : Server) (t : ℕ)
      (task : ServerTask), Server.run config (.start config) events = some s →
        s.tasks[t]? = some task → task.active = false → s.broken = false →
          (∀ response, task.outcome = some (.ok response) →
            requestIdOf response = requestIdOf task.request) →
          ∃ response, s.framesOf t = [response] := by
  intro hall
  have hrespond : exampleServer.respond exampleFrame (.ok exampleNestedFrame) = .error
      ⟨.recursionError, "maximum recursion depth exceeded while encoding a JSON object"⟩ := by
    simp [ServerConfig.respond, ServerConfig.answer, ServerConfig.encode, encodeFramePayload,
      exampleServer, exampleDumps_nested, isEncodingError, bind, Except.bind]
  have hrun : Server.run exampleServer (.start exampleServer)
      (exampleServing (.ok exampleNestedFrame)) =
        some ⟨64, .acquiring, [⟨exampleFrame, .ended, some (.ok exampleNestedFrame)⟩], none, [],
          false⟩ := by
    have hmax : exampleServer.maxInflight = 64 := rfl
    simp [Server.run, exampleServing, Server.step, Server.start, Server.handle, hrespond,
      Server.release, Server.goTo, hmax]
  have hown : requestIdOf exampleNestedFrame = requestIdOf exampleFrame := by
    simp [requestIdOf, exampleNestedFrame, exampleFrame, Dict.ofList, Dict.get?_set]
  obtain ⟨response, hresponse⟩ := hall _ _ _ 0 _ hrun rfl rfl rfl fun response hresponse => by
    rw [← Except.ok.inj (Option.some.inj hresponse)]
    exact hown
  cases hresponse

end VeraMesh
