import VeraMesh.Gateway.Value
import VeraMesh.Lib.ByteStream
import VeraMesh.Stream.Frame

/-!
# Frames on a stream

`read_frame` and `write_frame` of `stream.py`, and `EncodeFrame`, `WriteFrame` and `ReadFrame` of
`frame.go`. Both write the length of the JSON text as four bytes in front of it. Python refuses a
length that four bytes do not hold; Go cuts it. What the JSON libraries make of one object is left
open (`JsonLibraries`).

## Main definitions

* `Peer`: the two languages, with `Peer.write` and `Peer.read`.
* `StreamRoundTrip`: what a reader makes of written frames, of a part of them, and of a bad header.

## Main results

* `Peer.read_eq`: both readers take a frame and differ in what they make of it.
* `streamRoundTrip_iff`: written frames are read back, unless Go writes one of `2 ^ 32` bytes or
  more.
-/

namespace VeraMesh

open Python ByteStream

variable {Object : Type}

/-! ## The two implementations -/

/-- What `dec.Decode(&extra)` finds after the first value. -/
inductive Trailing where
  | eof
  | value
  | invalid (err : String)

/-- The JSON libraries of the two languages on JSON objects. -/
structure JsonLibraries (Object : Type) where
  /-- `json.dumps(value, ...).encode("utf-8")`. -/
  dumps : Object → Except PyError (List UInt8)
  /-- `json.loads(raw.decode("utf-8"))`, `none` for a value that is no dictionary. -/
  loads : List UInt8 → Except PyError (Option Object)
  /-- `json.Marshal(value)`. -/
  marshal : Object → Except String (List UInt8)
  /-- `utf8.Valid(raw)`. -/
  utf8Valid : List UInt8 → Bool
  /-- `dec.Decode(target)`, with what is left for the next call. -/
  decode : List UInt8 → Except String (Object × Trailing)
  /-- No exception of `stream.py` comes from `json.loads`. -/
  loads_error : ∀ {raw exc}, loads raw = .error exc → exc.cls ≠ .streamClosed

/-- `struct.pack("!I", n)`. -/
def packLength (n : ℕ) : Except PyError (List UInt8) :=
  if n < 2 ^ 32 then .ok (word32 n)
  else .error ⟨.structError, "'I' format requires 0 <= number <= 4294967295"⟩

/-- `write_frame`, with what was written before. The transport sends what it is given. -/
def writeFrame (json : JsonLibraries Object) (maxFrameBytes : ℕ) (value : Object)
    (sink : List UInt8) : Except PyError Unit × List UInt8 :=
  match encodeFramePayload json.dumps maxFrameBytes value with
  | .error exc => (.error exc, sink)
  | .ok raw =>
    match packLength raw.length with
    | .error exc => (.error exc, sink)
    | .ok header => (.ok (), sink ++ (header ++ raw))

/-- `read_frame`. -/
def readFrame (json : JsonLibraries Object) (maxFrameBytes : ℕ) (reader : List (List UInt8)) :
    Except PyError Object × List (List UInt8) :=
  match readExactly 4 reader with
  | (.error _, reader) =>
    (.error ⟨.streamClosed, "stream closed while reading frame header"⟩, reader)
  | (.ok header, reader) =>
    let size := ofWord32 header
    if size < 2 ∨ maxFrameBytes < size then
      (.error ⟨.frameTooLarge, s!"frame size {size} exceeds policy"⟩, reader)
    else
      match readExactly size reader with
      | (.error _, reader) =>
        (.error ⟨.streamClosed, "stream closed while reading frame body"⟩, reader)
      | (.ok raw, reader) =>
        match json.loads raw with
        | .error exc =>
          if exc.cls = .unicodeError ∨ exc.cls = .jsonDecodeError then
            (.error ⟨.streamProtocolError, "frame is not strict UTF-8 JSON"⟩, reader)
          else (.error exc, reader)
        | .ok none => (.error ⟨.streamProtocolError, "frame must be a JSON object"⟩, reader)
        | .ok (some value) => (.ok value, reader)

namespace Veraport

/-- The limit that Go works with. -/
def frameLimit (maxFrameBytes : ℕ) : ℕ := if maxFrameBytes ≤ 0 then 1048576 else maxFrameBytes

/-- `EncodeFrame`. The length is converted to `uint32`. -/
def encodeFrame (json : JsonLibraries Object) (maxFrameBytes : ℕ) (value : Object) :
    Except String (List UInt8) :=
  match json.marshal value with
  | .error err => .error ("frame JSON serialization failed: " ++ err)
  | .ok raw =>
    if raw.length < 2 ∨ frameLimit maxFrameBytes < raw.length then
      .error s!"frame size {raw.length} exceeds policy"
    else .ok (word32 raw.length ++ raw)

/-- The loop of `WriteFrame`. The `i`-th call of `w.Write` fails, or writes some bytes. -/
def writeLoop (answer : ℕ → Except String ℕ) (i : ℕ) (frame sink : List UInt8) :
    Except String Unit × List UInt8 :=
  if frame = [] then (.ok (), sink)
  else
    match answer i with
    | .error err => (.error err, sink)
    | .ok n =>
      if n = 0 then (.error "short write", sink)
      else writeLoop answer (i + 1) (frame.drop n) (sink ++ frame.take n)
termination_by frame.length
decreasing_by
  have hpos : 0 < frame.length := List.length_pos_of_ne_nil ‹_›
  rw [List.length_drop]
  omega

/-- `WriteFrame`. -/
def writeFrame (json : JsonLibraries Object) (maxFrameBytes : ℕ) (answer : ℕ → Except String ℕ)
    (value : Object) (sink : List UInt8) : Except String Unit × List UInt8 :=
  match encodeFrame json maxFrameBytes value with
  | .error err => (.error err, sink)
  | .ok frame => writeLoop answer 0 frame sink

/-- The error of `io.ReadFull` when the stream ends early. -/
def shortRead (bytes : List UInt8) : String := if bytes = [] then "EOF" else "unexpected EOF"

/-- `ReadFrame`. -/
def readFrame (json : JsonLibraries Object) (maxFrameBytes : ℕ) (r : List (List UInt8)) :
    Except String Object × List (List UInt8) :=
  match readExactly 4 r with
  | (.error bytes, r) =>
    (.error ("stream closed while reading frame header: " ++ shortRead bytes), r)
  | (.ok header, r) =>
    let size := ofWord32 header
    if size < 2 ∨ frameLimit maxFrameBytes < size then
      (.error s!"frame size {size} exceeds policy", r)
    else
      match readExactly size r with
      | (.error bytes, r) =>
        (.error ("stream closed while reading frame body: " ++ shortRead bytes), r)
      | (.ok raw, r) =>
        if json.utf8Valid raw = false then (.error "frame is not strict UTF-8 JSON", r)
        else
          match json.decode raw with
          | .error err => (.error ("frame is not strict JSON: " ++ err), r)
          | .ok (value, .eof) => (.ok value, r)
          | .ok (_, .value) => (.error "frame contains multiple JSON values", r)
          | .ok (_, .invalid err) => (.error ("frame has trailing invalid JSON: " ++ err), r)

end Veraport

/-! ## Both sides -/

/-- The two languages. -/
inductive Peer where
  | python
  | go
  deriving DecidableEq

/-- What the frame functions of a language raise or return. -/
inductive FrameError where
  | python (exc : PyError)
  | go (err : String)

/-- It says that the stream is closed. -/
def FrameError.IsClosed : FrameError → Prop
  | .python exc => exc.cls = .streamClosed
  | .go err => "stream closed while reading frame".toList <+: err.toList

namespace Peer

/-- The limit that a language works with. -/
def limit (maxFrameBytes : ℕ) : Peer → ℕ
  | .python => maxFrameBytes
  | .go => Veraport.frameLimit maxFrameBytes

/-- The JSON text of an object. -/
def payload? (json : JsonLibraries Object) (value : Object) : Peer → Option (List UInt8)
  | .python => (json.dumps value).toOption
  | .go => (json.marshal value).toOption

/-- A JSON text is read as an object. -/
def Decodes (json : JsonLibraries Object) (raw : List UInt8) (value : Object) : Peer → Prop
  | .python => json.loads raw = .ok (some value)
  | .go => json.utf8Valid raw = true ∧ json.decode raw = .ok (value, .eof)

/-- Write a frame. -/
def write (json : JsonLibraries Object) (maxFrameBytes : ℕ) (answer : ℕ → Except String ℕ)
    (value : Object) (sink : List UInt8) : Peer → Except FrameError Unit × List UInt8
  | .python => Prod.map (Except.mapError .python) id (writeFrame json maxFrameBytes value sink)
  | .go =>
    Prod.map (Except.mapError .go) id (Veraport.writeFrame json maxFrameBytes answer value sink)

/-- Write one frame after the other. -/
def writeAll (json : JsonLibraries Object) (maxFrameBytes : ℕ) (side : Peer) :
    (ℕ → ℕ → Except String ℕ) → List Object → List UInt8 → Except FrameError Unit × List UInt8
  | _, [], sink => (.ok (), sink)
  | answers, value :: values, sink =>
    match side.write json maxFrameBytes (answers 0) value sink with
    | (.error err, sink) => (.error err, sink)
    | (.ok (), sink) => writeAll json maxFrameBytes side (fun i => answers (i + 1)) values sink

/-- Read a frame. -/
def read (json : JsonLibraries Object) (maxFrameBytes : ℕ) (stream : List (List UInt8)) :
    Peer → Except FrameError Object × List (List UInt8)
  | .python => Prod.map (Except.mapError .python) id (readFrame json maxFrameBytes stream)
  | .go => Prod.map (Except.mapError .go) id (Veraport.readFrame json maxFrameBytes stream)

/-- What a language makes of what it finds where a frame should be. -/
def result (json : JsonLibraries Object) : Taken → Peer → Except FrameError Object
  | .shortHeader _, .python =>
    .error (.python ⟨.streamClosed, "stream closed while reading frame header"⟩)
  | .shortHeader bytes, .go =>
    .error (.go ("stream closed while reading frame header: " ++ Veraport.shortRead bytes))
  | .badSize size, .python =>
    .error (.python ⟨.frameTooLarge, s!"frame size {size} exceeds policy"⟩)
  | .badSize size, .go => .error (.go s!"frame size {size} exceeds policy")
  | .shortPayload _, .python =>
    .error (.python ⟨.streamClosed, "stream closed while reading frame body"⟩)
  | .shortPayload bytes, .go =>
    .error (.go ("stream closed while reading frame body: " ++ Veraport.shortRead bytes))
  | .payload raw, .python =>
    match json.loads raw with
    | .error exc =>
      if exc.cls = .unicodeError ∨ exc.cls = .jsonDecodeError then
        .error (.python ⟨.streamProtocolError, "frame is not strict UTF-8 JSON"⟩)
      else .error (.python exc)
    | .ok none => .error (.python ⟨.streamProtocolError, "frame must be a JSON object"⟩)
    | .ok (some value) => .ok value
  | .payload raw, .go =>
    if json.utf8Valid raw = false then .error (.go "frame is not strict UTF-8 JSON")
    else
      match json.decode raw with
      | .error err => .error (.go ("frame is not strict JSON: " ++ err))
      | .ok (value, .eof) => .ok value
      | .ok (_, .value) => .error (.go "frame contains multiple JSON values")
      | .ok (_, .invalid err) => .error (.go ("frame has trailing invalid JSON: " ++ err))

section Read

variable {json : JsonLibraries Object} {maxFrameBytes : ℕ} {side : Peer}
  {stream : List (List UInt8)} {err : FrameError}

/-- Both readers take a frame. -/
theorem read_eq : side.read json maxFrameBytes stream =
    Prod.map (fun taken => side.result json taken) id
      (takeFrame (side.limit maxFrameBytes) stream) := by
  cases side with
  | python =>
    show Prod.map _ id (readFrame json maxFrameBytes stream) =
      Prod.map _ id (takeFrame maxFrameBytes stream)
    unfold readFrame takeFrame
    rcases readExactly 4 stream with ⟨header | header, stream⟩
    · rfl
    · dsimp only
      by_cases hsize : ofWord32 header < 2 ∨ maxFrameBytes < ofWord32 header
      · rw [if_pos hsize, if_pos hsize]
        rfl
      · rw [if_neg hsize, if_neg hsize]
        rcases readExactly (ofWord32 header) stream with ⟨raw | raw, stream⟩
        · rfl
        · simp only [Prod.map, result]
          split
          · split_ifs
            · rfl
            · rfl
          · rfl
          · rfl
  | go =>
    show Prod.map _ id (Veraport.readFrame json maxFrameBytes stream) =
      Prod.map _ id (takeFrame (Veraport.frameLimit maxFrameBytes) stream)
    unfold Veraport.readFrame takeFrame
    rcases readExactly 4 stream with ⟨header | header, stream⟩
    · rfl
    · dsimp only
      by_cases hsize : ofWord32 header < 2 ∨ Veraport.frameLimit maxFrameBytes < ofWord32 header
      · rw [if_pos hsize, if_pos hsize]
        rfl
      · rw [if_neg hsize, if_neg hsize]
        rcases readExactly (ofWord32 header) stream with ⟨raw | raw, stream⟩
        · rfl
        · simp only [Prod.map, result]
          split_ifs
          · rfl
          · split
            · rfl
            · rfl
            · rfl
            · rfl

variable (json side) in
/-- A stream that ends within a frame is closed. -/
theorem isClosed_of_short {bytes : List UInt8} {taken : Taken}
    (h : taken = .shortHeader bytes ∨ taken = .shortPayload bytes) :
    ∃ err, side.result json taken = .error err ∧ err.IsClosed := by
  rcases h with rfl | rfl
  · cases side with
    | python => exact ⟨_, rfl, rfl⟩
    | go =>
      refine ⟨_, rfl, ?_⟩
      show _ <+: _
      rw [String.toList_append]
      exact List.IsPrefix.trans (by decide) (List.prefix_append _ _)
  · cases side with
    | python => exact ⟨_, rfl, rfl⟩
    | go =>
      refine ⟨_, rfl, ?_⟩
      show _ <+: _
      rw [String.toList_append]
      exact List.IsPrefix.trans (by decide) (List.prefix_append _ _)

/-- A text about a frame does not say that the stream is closed. -/
theorem not_isClosed_go {text : String} (h : text.toList.head? = some 'f') :
    ¬(FrameError.go text).IsClosed := by
  rintro ⟨rest, hrest⟩
  rw [← hrest] at h
  cases h

variable (json side) in
theorem not_isClosed_badSize (size : ℕ) :
    ∃ err, side.result json (.badSize size) = .error err ∧ ¬err.IsClosed := by
  cases side with
  | python => exact ⟨_, rfl, by simp [FrameError.IsClosed]⟩
  | go =>
    refine ⟨_, rfl, not_isClosed_go ?_⟩
    show ((("frame size " ++ toString size) ++ " exceeds policy" : String)).toList.head? = some 'f'
    rw [String.toList_append, String.toList_append]
    rfl

/-- No JSON text is mistaken for a closed stream. -/
theorem not_isClosed_payload {raw : List UInt8} (h : side.result json (.payload raw) = .error err) :
    ¬err.IsClosed := by
  cases side with
  | python =>
    simp only [result] at h
    split at h
    · next exc hloads =>
      split_ifs at h
      · cases h
        simp [FrameError.IsClosed]
      · cases h
        exact json.loads_error hloads
    · cases h
      simp [FrameError.IsClosed]
    · cases h
  | go =>
    simp only [result] at h
    split_ifs at h
    · cases h
      exact not_isClosed_go rfl
    · split at h
      · cases h
        apply not_isClosed_go
        rw [String.toList_append]
        rfl
      · cases h
      · cases h
        exact not_isClosed_go rfl
      · cases h
        apply not_isClosed_go
        rw [String.toList_append]
        rfl

end Read

/-! ## Writing -/

section Write

variable {json : JsonLibraries Object} {maxFrameBytes : ℕ} {side : Peer} {value : Object}
  {values : List Object} {raw sink wire : List UInt8} {raws : List (List UInt8)}

/-- A payload after its length. -/
def frameBytes (raw : List UInt8) : List UInt8 := word32 raw.length ++ raw

@[simp] theorem length_frameBytes (raw : List UInt8) : (frameBytes raw).length = 4 + raw.length := by
  simp [frameBytes]

/-- Short writes of any sizes add up to the frame. -/
theorem writeLoop_eq {answer : ℕ → Except String ℕ} (hanswer : ∀ i, ∃ n, answer i = .ok n ∧ 0 < n)
    (i : ℕ) (frame sink : List UInt8) :
    Veraport.writeLoop answer i frame sink = (.ok (), sink ++ frame) := by
  fun_induction Veraport.writeLoop answer i frame sink with
  | case1 => rw [List.append_nil]
  | case2 i frame sink hne err herr =>
    obtain ⟨n, hn, -⟩ := hanswer i
    cases herr.symm.trans hn
  | case3 i frame sink hne hzero =>
    obtain ⟨n, hn, hpos⟩ := hanswer i
    obtain rfl := Except.ok.inj (hzero.symm.trans hn)
    exact absurd hpos (lt_irrefl 0)
  | case4 i frame sink hne n hn hpos ih =>
    rw [ih, List.append_assoc, List.take_append_drop]

/-- Go writes a frame whose length fits or not. -/
theorem write_go {answer : ℕ → Except String ℕ} (hanswer : ∀ i, ∃ n, answer i = .ok n ∧ 0 < n)
    (hpayload : Peer.go.payload? json value = some raw) (htwo : 2 ≤ raw.length)
    (hlimit : raw.length ≤ Peer.go.limit maxFrameBytes) :
    Peer.go.write json maxFrameBytes answer value sink = (.ok (), sink ++ frameBytes raw) := by
  have hmarshal : json.marshal value = .ok raw := by
    unfold payload? at hpayload
    cases hm : json.marshal value with
    | error err =>
      rw [hm] at hpayload
      cases hpayload
    | ok raw' =>
      rw [hm] at hpayload
      rw [Option.some.inj hpayload]
  have hsize : ¬(raw.length < 2 ∨ Veraport.frameLimit maxFrameBytes < raw.length) := by
    rintro (hlt | hlt)
    · omega
    · exact absurd hlt (not_lt.mpr hlimit)
  have hencode : Veraport.encodeFrame json maxFrameBytes value = .ok (frameBytes raw) := by
    rw [Veraport.encodeFrame, hmarshal]
    exact if_neg hsize
  show Prod.map _ id (Veraport.writeFrame json maxFrameBytes answer value sink) = _
  rw [Veraport.writeFrame, hencode]
  dsimp only
  rw [writeLoop_eq hanswer]
  rfl

variable (sink) in
/-- Python writes a frame whose length fits. -/
theorem write_python (answer : ℕ → Except String ℕ)
    (hpayload : Peer.python.payload? json value = some raw) (hlimit : raw.length ≤ maxFrameBytes) :
    if raw.length < 2 ^ 32 then
      Peer.python.write json maxFrameBytes answer value sink = (.ok (), sink ++ frameBytes raw)
    else ∃ err, Peer.python.write json maxFrameBytes answer value sink = (.error err, sink) := by
  have hdumps : json.dumps value = .ok raw := by
    unfold payload? at hpayload
    cases hm : json.dumps value with
    | error err =>
      rw [hm] at hpayload
      cases hpayload
    | ok raw' =>
      rw [hm] at hpayload
      rw [Option.some.inj hpayload]
  have hencode : encodeFramePayload json.dumps maxFrameBytes value = .ok raw := by
    rw [encodeFramePayload, hdumps]
    exact if_neg (not_lt.mpr hlimit)
  split_ifs with hfit
  · show Prod.map _ id (writeFrame json maxFrameBytes value sink) = _
    rw [writeFrame, hencode]
    dsimp only
    rw [packLength, if_pos hfit]
    rfl
  · refine ⟨.python ⟨.structError, "'I' format requires 0 <= number <= 4294967295"⟩, ?_⟩
    show Prod.map _ id (writeFrame json maxFrameBytes value sink) = _
    rw [writeFrame, hencode]
    dsimp only
    rw [packLength, if_neg hfit]
    rfl

/-- The payload is too long for the four bytes in front of it, and the language notices. -/
def Refuses (side : Peer) (raw : List UInt8) : Prop := side = .python ∧ 2 ^ 32 ≤ raw.length

variable (sink) in
theorem write_eq {answer : ℕ → Except String ℕ} (hanswer : ∀ i, ∃ n, answer i = .ok n ∧ 0 < n)
    (hpayload : side.payload? json value = some raw) (htwo : 2 ≤ raw.length)
    (hlimit : raw.length ≤ side.limit maxFrameBytes) :
    (Refuses side raw ∧ ∃ err, side.write json maxFrameBytes answer value sink =
        (.error err, sink)) ∨
      (¬Refuses side raw ∧ side.write json maxFrameBytes answer value sink =
        (.ok (), sink ++ frameBytes raw)) := by
  cases side with
  | python =>
    have hwrite := write_python sink answer hpayload hlimit
    split_ifs at hwrite with hfit
    · exact Or.inr ⟨fun h => absurd h.2 (not_le.mpr hfit), hwrite⟩
    · exact Or.inl ⟨⟨rfl, not_lt.mp hfit⟩, hwrite⟩
  | go =>
    refine Or.inr ⟨fun h => ?_, write_go hanswer hpayload htwo hlimit⟩
    cases h.1

variable (sink) in
/-- All frames are written, up to the first that is refused. -/
theorem writeAll_eq {answers : ℕ → ℕ → Except String ℕ}
    (hanswers : ∀ j i, ∃ n, answers j i = .ok n ∧ 0 < n)
    (hraws : values.map (side.payload? json) = raws.map some) (htwo : ∀ raw ∈ raws, 2 ≤ raw.length)
    (hlimit : ∀ raw ∈ raws, raw.length ≤ side.limit maxFrameBytes) :
    ((∃ raw ∈ raws, Refuses side raw) ∧
        ∃ err wire, writeAll json maxFrameBytes side answers values sink = (.error err, wire)) ∨
      ((∀ raw ∈ raws, ¬Refuses side raw) ∧
        writeAll json maxFrameBytes side answers values sink =
          (.ok (), sink ++ (raws.map frameBytes).flatten)) := by
  induction values generalizing raws answers sink with
  | nil =>
    obtain rfl : raws = [] := List.map_eq_nil_iff.mp hraws.symm
    right
    refine ⟨by simp, ?_⟩
    rw [writeAll]
    simp
  | cons value values ih =>
    cases raws with
    | nil => cases hraws
    | cons raw raws =>
      obtain ⟨hpayload, hrest⟩ := List.cons.inj hraws
      rw [List.forall_mem_cons] at htwo hlimit
      rw [writeAll]
      rcases write_eq sink (hanswers 0) hpayload htwo.1 hlimit.1 with
        ⟨hrefuses, err, hwrite⟩ | ⟨hfits, hwrite⟩
      · left
        exact ⟨⟨raw, List.mem_cons_self, hrefuses⟩, err, sink, by rw [hwrite]⟩
      · rw [hwrite]
        rcases ih (sink ++ frameBytes raw) (fun j => hanswers (j + 1)) hrest htwo.2 hlimit.2 with
          ⟨⟨wide, hmem, hrefuses⟩, hwritten⟩ | ⟨hall, hwritten⟩
        · left
          exact ⟨⟨wide, List.mem_cons_of_mem _ hmem, hrefuses⟩, hwritten⟩
        · right
          refine ⟨List.forall_mem_cons.mpr ⟨hfits, hall⟩, ?_⟩
          dsimp only
          rw [hwritten, List.map_cons, List.flatten_cons, List.append_assoc]

end Write

/-! ## Reading what was written -/

section RoundTrip

variable {json : JsonLibraries Object} {maxFrameBytes : ℕ} {reader : Peer} {value : Object}
  {values : List Object} {raw tail : List UInt8} {raws stream : List (List UInt8)}

/-- A frame whose length fits is read back. -/
theorem read_frame (hfit : raw.length < 2 ^ 32) (htwo : 2 ≤ raw.length)
    (hlimit : raw.length ≤ reader.limit maxFrameBytes) (hdecodes : reader.Decodes json raw value)
    (hstream : stream.flatten = frameBytes raw ++ tail) :
    ∃ stream', reader.read json maxFrameBytes stream = (.ok value, stream') ∧
      stream'.flatten = tail := by
  have hword : ofWord32 (word32 raw.length) = raw.length := by
    rw [ofWord32_word32, Nat.mod_eq_of_lt hfit]
  rw [frameBytes, List.append_assoc] at hstream
  have hsize : ¬(ofWord32 (word32 raw.length) < 2 ∨
      reader.limit maxFrameBytes < ofWord32 (word32 raw.length)) := by
    rw [hword]
    omega
  obtain ⟨stream', htake, hrest⟩ := takeFrame_payload hstream (length_word32 _) hsize
    (by rw [hword, List.length_append]; omega)
  rw [hword, List.take_left] at htake
  rw [hword, List.drop_left] at hrest
  refine ⟨stream', ?_, hrest⟩
  rw [read_eq, htake]
  cases reader with
  | python =>
    have hloads : json.loads raw = .ok (some value) := hdecodes
    simp only [Prod.map, result, hloads, id]
  | go =>
    obtain ⟨hvalid, hdecode⟩ := hdecodes
    simp only [Prod.map, result, hvalid, hdecode, id]
    rfl

variable (json) in
/-- Of a stream that ends within a frame the reader says that it is closed. -/
theorem read_short (hfit : raw.length < 2 ^ 32) (htwo : 2 ≤ raw.length)
    (hlimit : raw.length ≤ reader.limit maxFrameBytes) {n : ℕ} (hn : n < 4 + raw.length)
    (hstream : stream.flatten = (frameBytes raw).take n) :
    ∃ err stream', reader.read json maxFrameBytes stream = (.error err, stream') ∧
      err.IsClosed := by
  have hlength : stream.flatten.length = n := by
    rw [hstream, List.length_take, length_frameBytes]
    omega
  by_cases hheader : n < 4
  · have htake : takeFrame (reader.limit maxFrameBytes) stream =
        (.shortHeader stream.flatten, []) := takeFrame_shortHeader (by omega)
    obtain ⟨err, hresult, hclosed⟩ :=
      isClosed_of_short json reader (Or.inl (Eq.refl (Taken.shortHeader stream.flatten)))
    exact ⟨err, [], by rw [read_eq, htake, ← hresult]; rfl, hclosed⟩
  · have hword : ofWord32 (word32 raw.length) = raw.length := by
      rw [ofWord32_word32, Nat.mod_eq_of_lt hfit]
    have hpart : stream.flatten = word32 raw.length ++ raw.take (n - 4) := by
      rw [hstream, frameBytes, List.take_append, length_word32,
        List.take_of_length_le (by rw [length_word32]; omega)]
    have htake : takeFrame (reader.limit maxFrameBytes) stream =
        (.shortPayload (raw.take (n - 4)), []) :=
      takeFrame_shortPayload hpart (length_word32 _) (by rw [hword]; omega)
        (by rw [hword, List.length_take]; omega)
    obtain ⟨err, hresult, hclosed⟩ :=
      isClosed_of_short json reader (Or.inr (Eq.refl (Taken.shortPayload (raw.take (n - 4)))))
    exact ⟨err, [], by rw [read_eq, htake, ← hresult]; rfl, hclosed⟩

/-- How many frames with payloads of these sizes are complete in the first `n` bytes. -/
def completeFrames : List ℕ → ℕ → ℕ
  | [], _ => 0
  | size :: sizes, n => if 4 + size ≤ n then completeFrames sizes (n - (4 + size)) + 1 else 0

/-- Of the first bytes of written frames, the complete ones are read. -/
theorem readsAll_take (hfit : ∀ raw ∈ raws, raw.length < 2 ^ 32)
    (htwo : ∀ raw ∈ raws, 2 ≤ raw.length)
    (hlimit : ∀ raw ∈ raws, raw.length ≤ reader.limit maxFrameBytes)
    (hdecodes : List.Forall₂ (fun raw value => reader.Decodes json raw value) raws values) (n : ℕ)
    (hstream : stream.flatten = (raws.map frameBytes).flatten.take n) :
    ∃ err, ReadsAll (fun stream => reader.read json maxFrameBytes stream) stream
      (values.take (completeFrames (raws.map List.length) n)) err ∧ err.IsClosed := by
  induction hdecodes generalizing stream n with
  | nil =>
    have hempty : stream.flatten = [] := hstream.trans List.take_nil
    have htake : takeFrame (reader.limit maxFrameBytes) stream =
        (.shortHeader stream.flatten, []) := takeFrame_shortHeader (by rw [hempty]; decide)
    obtain ⟨err, hresult, hclosed⟩ :=
      isClosed_of_short json reader (Or.inl (Eq.refl (Taken.shortHeader stream.flatten)))
    have hread : reader.read json maxFrameBytes stream = (.error err, []) := by
      rw [read_eq, htake, ← hresult]
      rfl
    exact ⟨err, .stop hread, hclosed⟩
  | @cons raw value raws values hfirst hrest ih =>
    rw [List.forall_mem_cons] at hfit htwo hlimit
    rw [List.map_cons, List.flatten_cons] at hstream
    rw [List.map_cons, completeFrames]
    split_ifs with hcomplete
    · have hsplit : stream.flatten = frameBytes raw ++
          (raws.map frameBytes).flatten.take (n - (4 + raw.length)) := by
        rw [hstream, List.take_append, length_frameBytes,
          List.take_of_length_le (by rw [length_frameBytes]; omega)]
      obtain ⟨stream', hread, htail⟩ := read_frame hfit.1 htwo.1 hlimit.1 hfirst hsplit
      obtain ⟨err, hreads, hclosed⟩ := ih hfit.2 htwo.2 hlimit.2 _ htail
      exact ⟨err, .next hread hreads, hclosed⟩
    · have hpart : stream.flatten = (frameBytes raw).take n := by
        rw [hstream, List.take_append_of_le_length (by rw [length_frameBytes]; omega)]
      obtain ⟨err, stream', hread, hclosed⟩ :=
        read_short json hfit.1 htwo.1 hlimit.1 (by omega) hpart
      exact ⟨err, .stop hread, hclosed⟩

/-- A reader that reads on after some frames has read those first. -/
theorem readsAll_inv (hfit : ∀ raw ∈ raws, raw.length < 2 ^ 32)
    (htwo : ∀ raw ∈ raws, 2 ≤ raw.length)
    (hlimit : ∀ raw ∈ raws, raw.length ≤ reader.limit maxFrameBytes)
    (hdecodes : List.Forall₂ (fun raw value => reader.Decodes json raw value) raws values)
    (hstream : stream.flatten = (raws.map frameBytes).flatten ++ tail) {found : List Object}
    {err : FrameError}
    (hreads : ReadsAll (fun stream => reader.read json maxFrameBytes stream) stream found err) :
    ∃ stream' more, stream'.flatten = tail ∧ found = values ++ more ∧
      ReadsAll (fun stream => reader.read json maxFrameBytes stream) stream' more err := by
  induction hdecodes generalizing stream found with
  | nil => exact ⟨stream, found, hstream, rfl, hreads⟩
  | @cons raw value raws values hfirst hrest ih =>
    rw [List.forall_mem_cons] at hfit htwo hlimit
    rw [List.map_cons, List.flatten_cons, List.append_assoc] at hstream
    obtain ⟨stream', hread, htail⟩ := read_frame hfit.1 htwo.1 hlimit.1 hfirst hstream
    cases hreads with
    | stop hstop => cases hread.symm.trans hstop
    | next hnext hmore =>
      cases hread.symm.trans hnext
      obtain ⟨stream'', more, htail', rfl, hmore'⟩ := ih hfit.2 htwo.2 hlimit.2 htail hmore
      exact ⟨stream'', more, htail', rfl, hmore'⟩

theorem completeFrames_append (sizes rest : List ℕ) {size k : ℕ} (hk : k < 4 + size) :
    completeFrames (sizes ++ size :: rest) ((sizes.map (4 + ·)).sum + k) = sizes.length := by
  induction sizes with
  | nil =>
    show completeFrames (size :: rest) (0 + k) = 0
    rw [completeFrames, if_neg (by omega)]
  | cons first sizes ih =>
    rw [List.cons_append, completeFrames, List.map_cons, List.sum_cons, if_pos (by omega)]
    have hleft : 4 + first + (sizes.map (4 + ·)).sum + k - (4 + first) =
        (sizes.map (4 + ·)).sum + k := by omega
    rw [hleft, ih]
    rfl

theorem completeFrames_all (sizes : List ℕ) :
    completeFrames sizes (sizes.map (4 + ·)).sum = sizes.length := by
  induction sizes with
  | nil => rfl
  | cons size sizes ih =>
    rw [completeFrames, List.map_cons, List.sum_cons, if_pos (by omega),
      Nat.add_sub_cancel_left, ih]
    rfl

theorem length_flatten_frameBytes (raws : List (List UInt8)) :
    (raws.map frameBytes).flatten.length = ((raws.map List.length).map (4 + ·)).sum := by
  rw [List.length_flatten, List.map_map, List.map_map]
  congr 1
  exact List.map_congr_left fun raw _ => length_frameBytes raw

end RoundTrip

end Peer

/-! ## The stream -/

/-- What a reader makes of the frames of some values on a stream, however the bytes are cut into
chunks. -/
structure StreamRoundTrip (json : JsonLibraries Object) (maxFrameBytes : ℕ) (reader : Peer)
    (values : List Object) (sizes : List ℕ) (wire : List UInt8) : Prop where
  /-- All values are read, and then the stream is closed. -/
  whole : ∀ stream, stream.flatten = wire →
    ∃ err, ReadsAll (fun stream => reader.read json maxFrameBytes stream) stream values err ∧
      err.IsClosed
  /-- Of a part, the values whose frames are complete. -/
  cut : ∀ n stream, n < wire.length → stream.flatten = wire.take n →
    ∃ err, ReadsAll (fun stream => reader.read json maxFrameBytes stream) stream
      (values.take (Peer.completeFrames sizes n)) err ∧ err.IsClosed
  /-- A bad header is refused before any byte of the payload is read. -/
  header : ∀ header rest stream, header.length = 4 →
    (ofWord32 header < 2 ∨ reader.limit maxFrameBytes < ofWord32 header) →
    stream.flatten = header ++ rest →
    ∃ err stream', reader.read json maxFrameBytes stream = (.error err, stream') ∧
      ¬err.IsClosed ∧ stream'.flatten = rest

section Claim

variable {json : JsonLibraries Object} {maxFrameBytes : ℕ} {writer reader : Peer}
  {values : List Object} {raws : List (List UInt8)} {wire : List UInt8}

variable (json) in
/-- Every reader refuses bad headers. -/
theorem read_badHeader {header rest : List UInt8} {stream : List (List UInt8)}
    (hheader : header.length = 4)
    (hsize : ofWord32 header < 2 ∨ reader.limit maxFrameBytes < ofWord32 header)
    (hstream : stream.flatten = header ++ rest) :
    ∃ err stream', reader.read json maxFrameBytes stream = (.error err, stream') ∧
      ¬err.IsClosed ∧ stream'.flatten = rest := by
  obtain ⟨stream', htake, hrest⟩ := takeFrame_badSize hstream hheader hsize
  obtain ⟨err, hresult, hclosed⟩ :=
    Peer.not_isClosed_badSize json reader (ofWord32 header)
  refine ⟨err, stream', ?_, hclosed, hrest⟩
  rw [Peer.read_eq, htake, ← hresult]
  rfl

/-- Frames whose lengths fit are read back. -/
theorem streamRoundTrip_of_fit (hfit : ∀ raw ∈ raws, raw.length < 2 ^ 32)
    (htwo : ∀ raw ∈ raws, 2 ≤ raw.length)
    (hlimit : ∀ raw ∈ raws, raw.length ≤ reader.limit maxFrameBytes)
    (hdecodes : List.Forall₂ (fun raw value => reader.Decodes json raw value) raws values) :
    StreamRoundTrip json maxFrameBytes reader values (raws.map List.length)
      (raws.map Peer.frameBytes).flatten where
  whole stream hstream := by
    have htake : stream.flatten = (raws.map Peer.frameBytes).flatten.take
        (raws.map Peer.frameBytes).flatten.length := by rw [List.take_length, hstream]
    obtain ⟨err, hreads, hclosed⟩ := Peer.readsAll_take hfit htwo hlimit hdecodes _ htake
    refine ⟨err, ?_, hclosed⟩
    rwa [Peer.length_flatten_frameBytes, Peer.completeFrames_all, List.length_map,
      hdecodes.length_eq, List.take_length] at hreads
  cut n stream _ hstream := Peer.readsAll_take hfit htwo hlimit hdecodes n hstream
  header _ _ _ hheader hsize hstream := read_badHeader json hheader hsize hstream

/-- Of a frame whose length is cut, a reader takes the shorter frame that the header tells of, or
refuses the header. -/
theorem mistaken_frame {wide : List UInt8} (hwide : 2 ^ 32 ≤ wide.length) :
    ∃ k, 4 ≤ k ∧ k < 4 + wide.length ∧
      ∀ stream, stream.flatten = (Peer.frameBytes wide).take k → ∀ err stream',
        reader.read json maxFrameBytes stream = (.error err, stream') → ¬err.IsClosed := by
  have hword : ofWord32 (word32 wide.length) = wide.length % 2 ^ 32 := ofWord32_word32 _
  have hmod : wide.length % 2 ^ 32 < 2 ^ 32 := Nat.mod_lt _ (by decide)
  by_cases hsize : ofWord32 (word32 wide.length) < 2 ∨
      reader.limit maxFrameBytes < ofWord32 (word32 wide.length)
  · refine ⟨4, le_rfl, by omega, fun stream hstream err stream' hread => ?_⟩
    rw [Peer.frameBytes, List.take_left' (length_word32 _)] at hstream
    obtain ⟨err', stream'', hread', hclosed, -⟩ :=
      read_badHeader json (length_word32 _) hsize (hstream.trans (List.append_nil _).symm)
    cases hread.symm.trans hread'
    exact hclosed
  · refine ⟨4 + wide.length % 2 ^ 32, by omega, by omega,
      fun stream hstream err stream' hread => ?_⟩
    have hpart : stream.flatten = word32 wide.length ++ wide.take (wide.length % 2 ^ 32) := by
      rw [hstream, Peer.frameBytes, ← length_word32 wide.length]
      exact List.take_length_add_append _
    obtain ⟨stream'', htake, -⟩ := takeFrame_payload hpart (length_word32 _) hsize
      (by rw [hword, List.length_take]; omega)
    rw [Peer.read_eq, htake] at hread
    exact Peer.not_isClosed_payload (Prod.mk.inj hread).1

/-- A frame whose length is cut is mistaken for a shorter one. -/
theorem not_streamRoundTrip_of_wide {before after : List (List UInt8)} {wide : List UInt8}
    (hraws : raws = before ++ wide :: after) (hwide : 2 ^ 32 ≤ wide.length)
    (hfit : ∀ raw ∈ before, raw.length < 2 ^ 32) (htwo : ∀ raw ∈ raws, 2 ≤ raw.length)
    (hlimit : ∀ raw ∈ raws, raw.length ≤ reader.limit maxFrameBytes)
    (hdecodes : List.Forall₂ (fun raw value => reader.Decodes json raw value) raws values) :
    ¬StreamRoundTrip json maxFrameBytes reader values (raws.map List.length)
      (raws.map Peer.frameBytes).flatten := by
  intro hround
  subst hraws
  have hlengths : (before ++ wide :: after).map List.length =
      before.map List.length ++ wide.length :: after.map List.length := by simp
  have hwire : ((before ++ wide :: after).map Peer.frameBytes).flatten =
      (before.map Peer.frameBytes).flatten ++
        (Peer.frameBytes wide ++ (after.map Peer.frameBytes).flatten) := by simp
  have hfront := Peer.length_flatten_frameBytes before
  -- cut the stream where the mistaken frame ends, or after its header if that is refused
  obtain ⟨k, hk, hkwide, hbad⟩ : ∃ k, 4 ≤ k ∧ k < 4 + wide.length ∧
      ∀ stream, stream.flatten = (Peer.frameBytes wide).take k → ∀ err stream',
        reader.read json maxFrameBytes stream = (.error err, stream') → ¬err.IsClosed :=
    mistaken_frame hwide
  have hbefore : List.Forall₂ (fun raw value => reader.Decodes json raw value) before
      (values.take before.length) := by
    have htake := List.forall₂_take before.length hdecodes
    rwa [List.take_left] at htake
  have hpart : ((before ++ wide :: after).map Peer.frameBytes).flatten.take
      (((before.map List.length).map (4 + ·)).sum + k) =
        (before.map Peer.frameBytes).flatten ++ (Peer.frameBytes wide).take k := by
    rw [hwire, ← hfront, List.take_length_add_append,
      List.take_append_of_le_length (by rw [Peer.length_frameBytes]; omega)]
  have hshort : ((before.map List.length).map (4 + ·)).sum + k <
      ((before ++ wide :: after).map Peer.frameBytes).flatten.length := by
    rw [hwire, List.length_append, List.length_append, Peer.length_frameBytes, hfront]
    omega
  obtain ⟨err, hreads, hclosed⟩ := hround.cut _ [_] hshort (List.flatten_singleton)
  rw [hlengths, Peer.completeFrames_append _ _ hkwide, List.length_map, hpart] at hreads
  obtain ⟨stream', more, hrest, hmore, hlast⟩ := Peer.readsAll_inv hfit
    (fun raw hraw => htwo raw (List.mem_append_left _ hraw))
    (fun raw hraw => hlimit raw (List.mem_append_left _ hraw)) hbefore
    (List.flatten_singleton) hreads
  obtain rfl : more = [] := List.append_right_eq_self.mp hmore.symm
  cases hlast with
  | stop hstop => exact hbad _ hrest _ _ hstop hclosed

/-- **Frames on a stream.** Objects whose texts keep the frame limit are written, with short writes
of any sizes, and read back as `StreamRoundTrip` says, whatever the languages of the two sides, if
and only if no text has `2 ^ 32` bytes or more: Python refuses to write such a frame, and Go writes
it with a length that is cut. -/
theorem streamRoundTrip_iff (json : JsonLibraries Object) (maxFrameBytes : ℕ)
    (writer reader : Peer) (answers : ℕ → ℕ → Except String ℕ) (values : List Object)
    (raws : List (List UInt8)) (hanswers : ∀ j i, ∃ n, answers j i = .ok n ∧ 0 < n)
    (hraws : values.map (writer.payload? json) = raws.map some)
    (hwriter : ∀ raw ∈ raws, raw.length ≤ writer.limit maxFrameBytes)
    (hreader : ∀ raw ∈ raws, raw.length ≤ reader.limit maxFrameBytes)
    (hjson : ∀ value raw, writer.payload? json value = some raw →
      2 ≤ raw.length ∧ reader.Decodes json raw value) :
    (∃ wire, writer.writeAll json maxFrameBytes answers values [] = (.ok (), wire) ∧
        StreamRoundTrip json maxFrameBytes reader values (raws.map List.length) wire) ↔
      ∀ raw ∈ raws, raw.length < 2 ^ 32 := by
  have hpayloads : List.Forall₂ (fun raw value => writer.payload? json value = some raw) raws
      values := by
    have hsame : List.Forall₂ Eq (values.map (writer.payload? json)) (raws.map some) := by
      rw [List.forall₂_eq_eq_eq]
      exact hraws
    exact (List.forall₂_map_right_iff.mp (List.forall₂_map_left_iff.mp hsame)).flip
  have hdecodes : List.Forall₂ (fun raw value => reader.Decodes json raw value) raws values :=
    hpayloads.imp fun raw value hpayload => (hjson value raw hpayload).2
  have htwo : ∀ raw ∈ raws, 2 ≤ raw.length := by
    intro raw hraw
    obtain ⟨value, -, hpayload⟩ := List.mem_map.mp (hraws ▸ List.mem_map_of_mem (f := some) hraw)
    exact (hjson value raw hpayload).1
  rcases Peer.writeAll_eq [] hanswers hraws htwo hwriter with
    ⟨⟨raw, hmem, hrefuses⟩, err, wire, hwrite⟩ | ⟨hall, hwrite⟩
  · constructor
    · rintro ⟨wire', hwrite', -⟩
      cases hwrite.symm.trans hwrite'
    · exact fun hfit => absurd (hfit raw hmem) (not_lt.mpr hrefuses.2)
  · constructor
    · rintro ⟨wire, hwrite', hround⟩
      obtain rfl := (Prod.mk.inj (hwrite.symm.trans hwrite')).2
      by_contra hwide
      push Not at hwide
      -- the first payload that is too long
      obtain ⟨raw, hmem, hlong⟩ := hwide
      have hfound : (raws.find? fun raw => 2 ^ 32 ≤ raw.length).isSome = true :=
        List.find?_isSome.mpr ⟨raw, hmem, decide_eq_true hlong⟩
      obtain ⟨wide, hfind⟩ := Option.isSome_iff_exists.mp hfound
      obtain ⟨hwide, before, after, hsplit, hbefore⟩ := List.find?_eq_some_iff_append.mp hfind
      refine not_streamRoundTrip_of_wide hsplit (of_decide_eq_true hwide) (fun raw hraw => ?_) htwo
        hreader hdecodes hround
      have hshort := hbefore raw hraw
      rw [Bool.not_eq_true', decide_eq_false_iff_not] at hshort
      exact not_le.mp hshort
    · intro hfit
      exact ⟨_, hwrite, streamRoundTrip_of_fit hfit htwo hreader hdecodes⟩

end Claim

/-- JSON libraries that know some objects. -/
def exampleJson (objects : List Object) (text : Object → List UInt8) : JsonLibraries Object where
  dumps value := .ok (text value)
  loads raw :=
    match objects.find? fun value => text value = raw with
    | some value => .ok (some value)
    | none => .error ⟨.jsonDecodeError, "Expecting value"⟩
  marshal value := .ok (text value)
  utf8Valid raw := raw.all (· < 128)
  decode raw :=
    match objects.find? fun value => text value = raw with
    | some value => .ok (value, .eof)
    | none => .error "invalid character"
  loads_error {raw exc} h := by
    split at h
    · cases h
    · rw [← Except.error.inj h]
      decide

theorem exampleJson_loads {objects : List Object} {text : Object → List UInt8} {raw : List UInt8}
    {value : Object} (hfind : (objects.find? fun value => text value = raw) = some value) :
    (exampleJson objects text).loads raw = .ok (some value) := by
  simp only [exampleJson, hfind]

theorem exampleJson_decode {objects : List Object} {text : Object → List UInt8} {raw : List UInt8}
    {value : Object} (hfind : (objects.find? fun value => text value = raw) = some value) :
    (exampleJson objects text).decode raw = .ok (value, .eof) := by
  simp only [exampleJson, hfind]

/-- The texts of an empty object and of one with a member. -/
def smallText (full : Bool) : List UInt8 :=
  if full then [123, 34, 97, 34, 58, 49, 125] else [123, 125]

/-- Go writes two objects byte by byte, and Python reads them. -/
theorem streamRoundTrip_smallText :
    ∃ wire, Peer.go.writeAll (exampleJson [true, false] smallText) 7 (fun _ _ => .ok 1)
        [true, false] [] = (.ok (), wire) ∧
      StreamRoundTrip (exampleJson [true, false] smallText) 7 .python [true, false] [7, 2]
        wire := by
  apply (streamRoundTrip_iff (exampleJson [true, false] smallText) 7 .go .python (fun _ _ => .ok 1)
    [true, false] [smallText true, smallText false] (fun _ _ => ⟨1, rfl, Nat.one_pos⟩) rfl
    (by decide) (by decide) ?_).mpr
  · decide
  · intro value raw hpayload
    obtain rfl : smallText value = raw := Option.some.inj hpayload
    cases value with
    | false => exact ⟨by decide, rfl⟩
    | true => exact ⟨by decide, rfl⟩

/-- The text of an object with one member, a string of `size` letters. -/
def wideText (size : ℕ) (_ : Unit) : List UInt8 :=
  [123, 34, 97, 34, 58, 34] ++ List.replicate size 120 ++ [34, 125]

theorem length_wideText (size : ℕ) : (wideText size ()).length = size + 8 := by
  rw [wideText, List.length_append, List.length_append, List.length_replicate]
  show 6 + size + 2 = size + 8
  omega

/-- The text is valid UTF-8. -/
theorem utf8Valid_wideText (size : ℕ) : (wideText size ()).all (· < 128) = true := by
  rw [wideText, List.all_append, List.all_append, Bool.and_eq_true, Bool.and_eq_true]
  refine ⟨⟨by decide, List.all_eq_true.mpr fun b hb => ?_⟩, by decide⟩
  rw [(List.mem_replicate.mp hb).2]
  decide

/-- Both libraries know the one object by its text. -/
theorem decodes_wideText (size : ℕ) (reader : Peer) :
    reader.Decodes (exampleJson [()] (wideText size)) (wideText size ()) () := by
  have hfind : ([()].find? fun value => wideText size value = wideText size ()) = some () :=
    List.find?_cons_of_pos (decide_eq_true rfl)
  cases reader with
  | python => exact exampleJson_loads hfind
  | go => exact ⟨utf8Valid_wideText size, exampleJson_decode hfind⟩

/-- A text of `2 ^ 32 + 2` bytes. -/
def overlongText : Unit → List UInt8 := wideText (2 ^ 32 - 6)

/-- JSON libraries that know the object with this text. -/
def overlongJson : JsonLibraries Unit := exampleJson [()] overlongText

/-- Go writes the text with the length 2. -/
theorem not_streamRoundTrip_of_overlongText (reader : Peer) :
    ¬∃ wire, Peer.go.writeAll overlongJson (2 ^ 32 + 2) (fun _ _ => .ok 1) [()] [] =
        (.ok (), wire) ∧
      StreamRoundTrip overlongJson (2 ^ 32 + 2) reader [()] [2 ^ 32 + 2] wire := by
  have hlength : (overlongText ()).length = 2 ^ 32 + 2 := length_wideText (2 ^ 32 - 6)
  have hlimit : ∀ side : Peer, side.limit (2 ^ 32 + 2) = 2 ^ 32 + 2 := by
    intro side
    cases side <;> rfl
  have htwo : ∀ raw ∈ [overlongText ()], 2 ≤ raw.length := by
    rw [List.forall_mem_singleton]
    omega
  have hfits : ∀ side : Peer, ∀ raw ∈ [overlongText ()], raw.length ≤ side.limit (2 ^ 32 + 2) := by
    intro side
    rw [List.forall_mem_singleton, hlimit]
    omega
  have hanswers : ∀ j i : ℕ, ∃ n, (fun _ _ => .ok 1 : ℕ → ℕ → Except String ℕ) j i = .ok n ∧
      0 < n := fun _ _ => ⟨1, rfl, Nat.one_pos⟩
  have hraws : [()].map (Peer.go.payload? overlongJson) = [overlongText ()].map some := rfl
  rintro ⟨wire, hwrite, hround⟩
  rcases Peer.writeAll_eq [] hanswers hraws htwo (hfits .go) with
    ⟨⟨raw, -, hrefuses⟩, -⟩ | ⟨-, hwritten⟩
  · cases hrefuses.1
  · obtain rfl := (Prod.mk.inj (hwritten.symm.trans hwrite)).2
    have hsizes : [2 ^ 32 + 2] = [overlongText ()].map List.length := by
      rw [List.map_singleton, hlength]
    rw [hsizes] at hround
    have hdecodes : List.Forall₂ (fun raw value => reader.Decodes overlongJson raw value)
        [overlongText ()] [()] := .cons (decodes_wideText _ reader) .nil
    have hsplit : [overlongText ()] = [] ++ overlongText () :: [] := rfl
    exact not_streamRoundTrip_of_wide hsplit (by omega) (by simp) htwo (hfits reader) hdecodes
      hround

/-- A text that Go writes with a length that is cut is misunderstood by both languages. -/
theorem not_streamRoundTrip_wideText :
    (¬∃ wire, Peer.go.writeAll overlongJson (2 ^ 32 + 2) (fun _ _ => .ok 1) [()] [] =
        (.ok (), wire) ∧
      StreamRoundTrip overlongJson (2 ^ 32 + 2) .go [()] [2 ^ 32 + 2] wire) ∧
    ¬∃ wire, Peer.go.writeAll overlongJson (2 ^ 32 + 2) (fun _ _ => .ok 1) [()] [] =
        (.ok (), wire) ∧
      StreamRoundTrip overlongJson (2 ^ 32 + 2) .python [()] [2 ^ 32 + 2] wire :=
  ⟨not_streamRoundTrip_of_overlongText .go, not_streamRoundTrip_of_overlongText .python⟩

end VeraMesh
