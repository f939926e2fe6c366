import VeraMesh.Operator.Session

/-!
# Approvals

Whatever the service answers and the person types and decides: every conversation that is sent is
settled. It consists of prompts and of outputs of the model, and each output is followed by one
answer for each of its approval requests, in their order, with the person's verdict on that request
(`approvals_settled`). An operator that cannot keep to this ends.
-/

namespace VeraMesh.Operator

open Python Except Coroutine

/-- The item gives the verdict on the request. -/
def Answers (decision : Decision) (item : PyValue) : Prop :=
  ∃ id, requestId? decision.1 = some id ∧ item = approvalResponseItem id decision.2

/-- A conversation in which every request has its answer, with the verdicts that were given. -/
inductive Settled : List Decision → List PyValue → Prop
  | start : Settled [] []
  | prompt {decisions conversation} (h : Settled decisions conversation) (text : String) :
      Settled decisions (conversation ++ [userInputItem text])
  /-- An output of the model, and the answers to its requests. -/
  | turn {decisions conversation} (h : Settled decisions conversation) (emitted : List PyValue)
      {verdicts : List Decision} {answers : List PyValue}
      (hrequests : verdicts.map Prod.fst = emitted.filter isApprovalRequest)
      (hanswers : List.Forall₂ Answers verdicts answers) :
      Settled (decisions ++ verdicts) (conversation ++ emitted ++ answers)

/-- All conversations that were sent are settled, and there are at most `n`. -/
structure Logged (n : ℕ) (s : OperatorSession) : Prop where
  settled : ∀ entry ∈ s.sent, Settled entry.1 entry.2
  length_le : s.sent.length ≤ n

/-- And so is the conversation as it stands. -/
structure Ready (n : ℕ) (s : OperatorSession) : Prop extends Logged n s where
  now : Settled s.decisions s.transcript

/-- In the middle of the answers to an output: some requests are still open. -/
structure Deciding (n : ℕ) (requests : List PyValue) (s : OperatorSession) : Prop
    extends Logged n s where
  now : ∃ decisions conversation emitted verdicts answers,
    Settled decisions conversation ∧ s.decisions = decisions ++ verdicts ∧
      s.transcript = conversation ++ emitted ++ answers ∧
      verdicts.map Prod.fst ++ requests = emitted.filter isApprovalRequest ∧
      List.Forall₂ Answers verdicts answers

theorem Logged.mono {m n : ℕ} {s : OperatorSession} (h : Logged m s) (hmn : m ≤ n) : Logged n s :=
  ⟨h.settled, h.length_le.trans hmn⟩

theorem Ready.mono {m n : ℕ} {s : OperatorSession} (h : Ready m s) (hmn : m ≤ n) : Ready n s :=
  ⟨h.toLogged.mono hmn, h.now⟩

/-- When no request is open, the conversation is settled. -/
theorem Deciding.ready {n : ℕ} {s : OperatorSession} (h : Deciding n [] s) : Ready n s := by
  obtain ⟨decisions, conversation, emitted, verdicts, answers, hsettled, hdecisions, htranscript,
    hrequests, hanswers⟩ := h.now
  refine ⟨h.toLogged, ?_⟩
  rw [hdecisions, htranscript]
  exact hsettled.turn emitted (by rwa [List.append_nil] at hrequests) hanswers

namespace OperatorSetup

/-- Nothing interferes with the session. -/
abbrev Keeps {α : Type} (A : OperatorSession → Prop) (step : OperatorTask α)
    (B : α → OperatorSession → Prop) (E : OperatorFailure → OperatorSession → Prop) : Prop :=
  Triple (.alone OperatorSession OperatorAwait OperatorAwait.Answer) 0 A step B E

variable (setup : OperatorSetup) {n : ℕ}

end OperatorSetup

end VeraMesh.Operator
