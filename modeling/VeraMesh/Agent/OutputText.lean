import VeraMesh.Agent.OutputCapture

/-!
# Following the output of a process

A caller that wants all output of a process asks for the next page, at the offset that the answer
before told, until the process has ended and nothing is left. Each page is decoded for itself, with
U+FFFD for what is no character.

* `Follows`: a caller that follows one stream of a process through a run.
* `CapturedProcesses.text_reassembled_iff`: the texts are those of the whole stream if and only if
  no page ends within a character and the last bytes were taken from the pipe before the last call.
-/

namespace VeraMesh

open Python Except

/-- A caller follows a stream from `offset` on, through the rest of a run. Besides the answers it
has the `stops`, the positions up to which it asked or as far as bytes had been taken from the pipe,
and what happens after its last call. Other callers may read as well. -/
inductive Follows (rt : Runtime) (x : LocalExecutor) (maxOutputBytes : ℕ) (handle : String)
    (pipe : OutputPipe) : CapturedProcesses → ℕ → List OutputEvent → List OutputAnswer → List ℕ →
      List OutputEvent → Prop where
  /-- Something else happens. -/
  | other {t t' offset event events answers stops rest}
      (hstep : t.step rt x maxOutputBytes event = some t')
      (hrest : Follows rt x maxOutputBytes handle pipe t' offset events answers stops rest) :
      Follows rt x maxOutputBytes handle pipe t offset (event :: events) answers stops rest
  /-- A page, after which the caller goes on. -/
  | next {t call answer events answers stops rest} {offset maxBytes : ℕ}
      (hhandle : call.processHandle = handle) (hoffset : call.offset pipe = .int offset)
      (hmax : call.maxBytes = .int maxBytes)
      (hanswer : (t.processOutput rt x call).1 = .ok answer)
      (hrest : Follows rt x maxOutputBytes handle pipe (t.processOutput rt x call).2
        (answer.page pipe).nextOffset events answers stops rest) :
      Follows rt x maxOutputBytes handle pipe t offset (.processOutput call :: events)
        (answer :: answers)
        (min (offset + maxBytes) (t.stream handle pipe).totalBytes :: stops) rest
  /-- The last page: the process has ended, and nothing is left. -/
  | last {t t' call answer events} {offset maxBytes : ℕ}
      (hhandle : call.processHandle = handle) (hoffset : call.offset pipe = .int offset)
      (hmax : call.maxBytes = .int maxBytes)
      (hanswer : (t.processOutput rt x call).1 = .ok answer)
      (hended : answer.status.running = false)
      (hall : (answer.page pipe).nextOffset = (answer.page pipe).retainedBytes)
      (hrun : (t.processOutput rt x call).2.run rt x maxOutputBytes events = some t') :
      Follows rt x maxOutputBytes handle pipe t offset (.processOutput call :: events) [answer]
        [min (offset + maxBytes) (t.stream handle pipe).totalBytes] events

namespace CapturedProcesses

variable {rt : Runtime} {x : LocalExecutor} {maxOutputBytes : ℕ} {handle : String}
  {pipe : OutputPipe} {t : CapturedProcesses} {offset : ℕ} {before events rest : List OutputEvent}
  {answers : List OutputAnswer} {answer : OutputAnswer} {stops : List ℕ} {call : OutputCall}
  {text : List Char}

/-- A page of a stream that is kept whole. -/
theorem page_of_whole {maxBytes : ℕ} (hhandle : call.processHandle = handle)
    (hoffset : call.offset pipe = .int offset) (hmax : call.maxBytes = .int maxBytes)
    (hanswer : (t.processOutput rt x call).1 = .ok answer) {bytes whole : List UInt8}
    (hstream : t.stream handle pipe = captured maxOutputBytes bytes) (hfront : bytes <+: whole)
    (hkept : bytes.length ≤ maxOutputBytes) (hle : offset ≤ bytes.length) :
    (answer.page pipe).chunk =
        (whole.drop offset).take (min (offset + maxBytes) bytes.length - offset) ∧
      (answer.page pipe).nextOffset = min (offset + maxBytes) bytes.length ∧
      (answer.page pipe).retainedBytes = bytes.length := by
  obtain ⟨range, hadmit, hpage, -⟩ := processOutput_eq_ok hanswer
  obtain ⟨-, hoffset', hmax', -, -⟩ := admitted_eq_ok hadmit
  have hoffset'' := hoffset' pipe
  rw [hoffset, PyValue.int.injEq, Nat.cast_inj] at hoffset''
  rw [hmax, PyValue.int.injEq, Nat.cast_inj] at hmax'
  have hretained : bytes.take maxOutputBytes = bytes := List.take_of_length_le hkept
  have hlength : ((bytes.drop offset).take maxBytes).length =
      min (offset + maxBytes) bytes.length - offset := by
    rw [List.length_take, List.length_drop]
    omega
  rw [hpage, hhandle, hstream, ← hoffset'', ← hmax']
  show ((bytes.take maxOutputBytes).drop offset).take maxBytes = _ ∧
    offset + (((bytes.take maxOutputBytes).drop offset).take maxBytes).length = _ ∧
    (bytes.take maxOutputBytes).length = _
  rw [hretained, hlength]
  refine ⟨?_, by omega, rfl⟩
  have hpart : (bytes.drop offset).take maxBytes <+: whole.drop offset :=
    (List.take_prefix maxBytes _).trans (hfront.drop offset)
  rw [List.prefix_iff_eq_take.mp hpart, hlength]

/-- The answers to a caller that follows a stream are pages of it, which reach the end if nothing
is taken from the pipe later. -/
theorem pages_of_follows (before : List OutputEvent)
    (h : Follows rt x maxOutputBytes handle pipe t offset events answers stops rest)
    (hbefore : ∀ handle pipe, t.stream handle pipe =
      captured maxOutputBytes (written handle pipe before))
    (hkept : (written handle pipe (before ++ events)).length ≤ maxOutputBytes)
    (hle : offset ≤ (written handle pipe before).length) :
    answers.map (fun answer => (answer.page pipe).chunk) =
        pages (written handle pipe (before ++ events)) offset stops ∧
      StopsWithin (written handle pipe (before ++ events)).length offset stops ∧
      (stops.getLastD offset = (written handle pipe (before ++ events)).length ↔
        written handle pipe rest = []) := by
  induction h generalizing before with
  | @other t t' offset event events answers stops rest hstep hrest ih =>
    rw [List.append_cons] at hkept ⊢
    apply ih _ (fun handle pipe => stream_step hstep hbefore handle pipe) hkept
    rw [written_append, List.length_append]
    omega
  | @next t call answer events answers stops rest offset maxBytes hhandle hoffset hmax hanswer
      hrest ih =>
    have hfront : written handle pipe before <+:
        written handle pipe (before ++ .processOutput call :: events) := by
      rw [written_append]
      exact List.prefix_append _ _
    obtain ⟨hchunk, hnext, -⟩ := page_of_whole hhandle hoffset hmax hanswer
      (hbefore handle pipe) hfront (hfront.length_le.trans hkept) hle
    have htotal : (t.stream handle pipe).totalBytes = (written handle pipe before).length := by
      rw [hbefore]
      rfl
    have hbefore' : ∀ handle pipe, stream (t.processOutput rt x call).2 handle pipe =
        captured maxOutputBytes (written handle pipe (before ++ [.processOutput call])) := by
      intro handle pipe
      rw [stream_processOutput, hbefore, written_append, written_processOutput, written,
        List.append_nil]
    have hnow : written handle pipe (before ++ [.processOutput call]) =
        written handle pipe before := by
      rw [written_append, written_processOutput, written, List.append_nil]
    rw [hnext] at ih
    rw [htotal]
    rw [List.append_cons] at hkept hchunk hfront ⊢
    obtain ⟨hpages, hstops, hlast⟩ := ih _ hbefore' hkept (by rw [hnow]; omega)
    refine ⟨?_, ⟨by omega, ?_, hstops⟩, ?_⟩
    · rw [List.map_cons, pages, hpages, hchunk]
    · exact (Nat.min_le_right _ _).trans hfront.length_le
    · rw [List.getLastD_cons]
      exact hlast
  | @last t t' call answer events offset maxBytes hhandle hoffset hmax hanswer hended hall hrun =>
    have hwhole : written handle pipe (before ++ .processOutput call :: events) =
        written handle pipe before ++ written handle pipe events := by
      rw [written_append, written_processOutput]
    have hfront : written handle pipe before <+:
        written handle pipe (before ++ .processOutput call :: events) := by
      rw [hwhole]
      exact List.prefix_append _ _
    obtain ⟨hchunk, hnext, hretained⟩ := page_of_whole hhandle hoffset hmax hanswer
      (hbefore handle pipe) hfront (hfront.length_le.trans hkept) hle
    have htotal : (t.stream handle pipe).totalBytes = (written handle pipe before).length := by
      rw [hbefore]
      rfl
    -- the last page reaches what had been taken when it was asked for
    have hend : min (offset + maxBytes) (written handle pipe before).length =
        (written handle pipe before).length := by
      rw [← hnext, hall, hretained]
    rw [htotal]
    refine ⟨?_, ⟨by omega, ?_, trivial⟩, ?_⟩
    · rw [List.map_singleton, pages, pages, hchunk]
    · exact (Nat.min_le_right _ _).trans hfront.length_le
    · rw [List.getLastD_cons, List.getLastD_nil, hend, hwhole, List.length_append,
        ← List.length_eq_zero_iff]
      omega

/-- **Reassembly.** Of a stream that is valid UTF-8 and is kept whole, the texts of the answers are
the text of the stream, and nothing in them is replaced, if and only if every call stops between two
characters and no byte is taken from the pipe after the last call. -/
theorem text_reassembled_iff
    (hfollows : Follows rt x maxOutputBytes handle pipe .empty 0 events answers stops rest)
    (hvalid : written handle pipe events = utf8 text)
    (hkept : (written handle pipe events).length ≤ maxOutputBytes) :
    ((answers.map fun answer => (answer.page pipe).text).flatten = text ∧
        ∀ answer ∈ answers, utf8 (answer.page pipe).text = (answer.page pipe).chunk) ↔
      (∀ stop ∈ stops, IsBoundary text stop) ∧ written handle pipe rest = [] := by
  obtain ⟨hpages, hstops, hlast⟩ :=
    pages_of_follows [] hfollows stream_init hkept (Nat.zero_le _)
  rw [List.nil_append, hvalid] at hpages hstops hlast
  rw [← hlast, ← decode_pages_iff hstops, ← hpages, List.map_map, List.forall_mem_map]
  exact Iff.rfl

end CapturedProcesses

/-- The example process with some output. -/
def exampleItems (retained : List UInt8) : CapturedProcesses :=
  ⟨[("proc:0", ⟨"l", 1, 7, ⟨"/", ["x"]⟩, ["sh"], 0, 0, none, false,
    ⟨retained, retained.length, false⟩, .empty⟩)], List.nodup_singleton _⟩

/-- The answer to a call for its standard output, after its end. -/
def exampleAnswer (chunk : List UInt8) (offset nextOffset retainedBytes : ℕ) : OutputAnswer :=
  ⟨⟨"proc:0", 7, false, some 0, "/x", 0, 0, false⟩,
    ⟨chunk, offset, nextOffset, retainedBytes, retainedBytes, false⟩, ⟨[], 0, 0, 0, 0, false⟩⟩

/-- A process writes some bytes in one chunk, and ends. -/
def exampleOutput (chunk : List UInt8) : List OutputEvent :=
  [exampleProcess, .drain "proc:0" .stdout chunk]

/-- What the example process answers. -/
def exampleOutputReply (t : CapturedProcesses) (call : OutputCall) :
    Except PyError OutputAnswer × CapturedProcesses :=
  t.processOutput (Runtime.ascii false) exampleProcessExecutor call

/-- A caller follows the example process. -/
abbrev FollowsExample : CapturedProcesses → ℕ → List OutputEvent → List OutputAnswer → List ℕ →
    List OutputEvent → Prop :=
  Follows (Runtime.ascii false) exampleProcessExecutor 16 "proc:0" .stdout

/-- The caller comes after the chunk. -/
theorem followsExample_exampleOutput {chunk : List UInt8} {events rest : List OutputEvent}
    {answers : List OutputAnswer} {stops : List ℕ}
    (hrun : CapturedProcesses.run (Runtime.ascii false) exampleProcessExecutor 16 .empty
      (exampleOutput chunk) = some (exampleItems chunk))
    (h : FollowsExample (exampleItems chunk) 0 events answers stops rest) :
    FollowsExample .empty 0 (exampleOutput chunk ++ events) answers stops rest := by
  obtain ⟨t, hstart, hrest⟩ := Option.bind_eq_some_iff.mp hrun
  obtain ⟨t', hdrain, hnil⟩ := Option.bind_eq_some_iff.mp hrest
  obtain rfl := Option.some.inj hnil
  exact .other hstart (.other hdrain h)

/-- The caller gets a page. -/
theorem followsExample_next {t : CapturedProcesses} {offset maxBytes stop : ℕ}
    {exitStatus : Option ℤ} {answer : OutputAnswer} {events rest : List OutputEvent}
    {answers : List OutputAnswer} {stops : List ℕ}
    (hanswer : (exampleOutputReply t (exampleOutputCall offset 0 maxBytes exitStatus)).1 =
      .ok answer)
    (hstop : min (offset + maxBytes) (t.stream "proc:0" .stdout).totalBytes = stop)
    (hrest : FollowsExample
      (exampleOutputReply t (exampleOutputCall offset 0 maxBytes exitStatus)).2 (answer.page .stdout).nextOffset events answers stops rest) :
    FollowsExample t offset
      (.processOutput (exampleOutputCall offset 0 maxBytes exitStatus) :: events)
      (answer :: answers) (stop :: stops) rest := by
  rw [← hstop]
  exact .next rfl rfl rfl hanswer hrest

/-- The caller gets its last page. -/
theorem followsExample_last {t t' : CapturedProcesses} {offset maxBytes stop : ℕ}
    {exitStatus : Option ℤ} {answer : OutputAnswer} {events : List OutputEvent}
    (hanswer : (exampleOutputReply t (exampleOutputCall offset 0 maxBytes exitStatus)).1 =
      .ok answer)
    (hstop : min (offset + maxBytes) (t.stream "proc:0" .stdout).totalBytes = stop)
    (hended : answer.status.running = false)
    (hall : (answer.page .stdout).nextOffset = (answer.page .stdout).retainedBytes)
    (hrun : CapturedProcesses.run (Runtime.ascii false) exampleProcessExecutor 16
      (exampleOutputReply t (exampleOutputCall offset 0 maxBytes exitStatus)).2 events = some t') :
    FollowsExample t offset
      (.processOutput (exampleOutputCall offset 0 maxBytes exitStatus) :: events) [answer] [stop]
      events := by
  rw [← hstop]
  exact .last rfl rfl rfl hanswer hended hall hrun

/-- A page of two bytes holds the whole character `é`. -/
theorem CapturedProcesses.text_reassembled_iff_exampleOutput :
    (([exampleAnswer [0xC3, 0xA9] 0 2 2].map fun answer => (answer.page .stdout).text).flatten =
        ['é'] ∧
      ∀ answer ∈ [exampleAnswer [0xC3, 0xA9] 0 2 2],
        utf8 (answer.page .stdout).text = (answer.page .stdout).chunk) := by
  have hanswer : (exampleOutputReply (exampleItems [0xC3, 0xA9])
      (exampleOutputCall 0 0 2 (some 0))).1 = .ok (exampleAnswer [0xC3, 0xA9] 0 2 2) := by
    decide +kernel
  have hfollows : FollowsExample .empty 0 (exampleOutput [0xC3, 0xA9] ++
      [.processOutput (exampleOutputCall 0 0 2 (some 0))]) [exampleAnswer [0xC3, 0xA9] 0 2 2]
      [2] [] :=
    followsExample_exampleOutput (by decide +kernel) (followsExample_last hanswer rfl rfl rfl rfl)
  have hboundary : IsBoundary ['é'] 2 := .length ['é']
  apply (text_reassembled_iff hfollows (by decide) (by decide)).mpr
  exact ⟨List.forall_mem_singleton.mpr hboundary, rfl⟩

/-- Pages of one byte cut the character `é` in two, and each part is replaced. A call after the end
of a process may come before its last bytes are taken from the pipe, and misses them. -/
theorem CapturedProcesses.not_text_reassembled :
    (∃ answers stops, FollowsExample .empty 0 (exampleOutput [0xC3, 0xA9] ++
        [.processOutput (exampleOutputCall 0 0 1 (some 0)),
          .processOutput (exampleOutputCall 1 0 1 (some 0))]) answers stops [] ∧
      (answers.map fun answer => (answer.page .stdout).text).flatten = ['\uFFFD', '\uFFFD'] ∧
      decodeReplace [0xC3, 0xA9] = ['é']) ∧
    ∃ answers stops, FollowsExample .empty 0 (exampleOutput [97] ++
        [.processOutput (exampleOutputCall 0 0 16 (some 0)), .drain "proc:0" .stdout [98]])
        answers stops [.drain "proc:0" .stdout [98]] ∧
      (answers.map fun answer => (answer.page .stdout).text).flatten = ['a'] ∧
      decodeReplace [97, 98] = ['a', 'b'] := by
  have hrun : ∀ chunk ∈ [[0xC3, 0xA9], [97]], CapturedProcesses.run (Runtime.ascii false)
      exampleProcessExecutor 16 .empty (exampleOutput chunk) = some (exampleItems chunk) := by
    decide +kernel
  constructor
  · have hfirst : (exampleOutputReply (exampleItems [0xC3, 0xA9])
        (exampleOutputCall 0 0 1 (some 0))).1 = .ok (exampleAnswer [0xC3] 0 1 2) := by
      decide +kernel
    have hsecond : (exampleOutputReply (exampleOutputReply (exampleItems [0xC3, 0xA9])
        (exampleOutputCall 0 0 1 (some 0))).2 (exampleOutputCall 1 0 1 (some 0))).1 =
          .ok (exampleAnswer [0xA9] 1 2 2) := by
      decide +kernel
    have hfollows : FollowsExample .empty 0 (exampleOutput [0xC3, 0xA9] ++
        [.processOutput (exampleOutputCall 0 0 1 (some 0)),
          .processOutput (exampleOutputCall 1 0 1 (some 0))])
        [exampleAnswer [0xC3] 0 1 2, exampleAnswer [0xA9] 1 2 2] [1, 2] [] :=
      followsExample_exampleOutput (hrun _ List.mem_cons_self)
        (followsExample_next hfirst rfl (followsExample_last hsecond rfl rfl rfl rfl))
    exact ⟨_, _, hfollows, by decide, by decide⟩
  · have hanswer : (exampleOutputReply (exampleItems [97]) (exampleOutputCall 0 0 16 (some 0))).1 =
        .ok (exampleAnswer [97] 0 1 1) := by
      decide +kernel
    have hlater : ∃ t, CapturedProcesses.run (Runtime.ascii false) exampleProcessExecutor 16
        (exampleOutputReply (exampleItems [97]) (exampleOutputCall 0 0 16 (some 0))).2
        [.drain "proc:0" .stdout [98]] = some t := ⟨_, rfl⟩
    obtain ⟨t, hlater⟩ := hlater
    have hfollows : FollowsExample .empty 0 (exampleOutput [97] ++
        [.processOutput (exampleOutputCall 0 0 16 (some 0)), .drain "proc:0" .stdout [98]])
        [exampleAnswer [97] 0 1 1] [1] [.drain "proc:0" .stdout [98]] :=
      followsExample_exampleOutput (hrun _ (List.mem_cons_of_mem _ List.mem_cons_self))
        (followsExample_last hanswer rfl rfl rfl hlater)
    exact ⟨_, _, hfollows, by decide, by decide⟩

end VeraMesh
