import Mathlib

/-!
# Byte streams

A stream is the chunks in which its bytes arrive, and its end. `readExactly` gathers a given number
of bytes from as many chunks as it takes. What it gathers depends on the bytes alone, not on the
chunks (`readExactly_ok`, `readExactly_short`).

`word32` is a number as four bytes, the highest first, and `ofWord32` reads it back; a number that
does not fit is cut to its remainder (`ofWord32_word32`).

A frame is a payload after its length as a word. `takeFrame` reads one, and `ReadsAll` is what a
loop reads until its first error.
-/

namespace ByteStream

variable {α : Type}

/-- Read `n` elements from the chunks, or all there are if the stream ends before. -/
def readExactly : ℕ → List (List α) → Except (List α) (List α) × List (List α)
  | n, [] => (if n = 0 then .ok [] else .error [], [])
  | n, chunk :: chunks =>
    if n ≤ chunk.length then (.ok (chunk.take n), chunk.drop n :: chunks)
    else
      match readExactly (n - chunk.length) chunks with
      | (.ok more, rest) => (.ok (chunk ++ more), rest)
      | (.error more, rest) => (.error (chunk ++ more), rest)

/-- If there are enough, the first `n` are read. -/
theorem readExactly_ok {n : ℕ} {chunks : List (List α)} (h : n ≤ chunks.flatten.length) :
    ∃ rest, readExactly n chunks = (.ok (chunks.flatten.take n), rest) ∧
      rest.flatten = chunks.flatten.drop n := by
  induction chunks generalizing n with
  | nil =>
    obtain rfl : n = 0 := Nat.le_zero.mp h
    exact ⟨[], rfl, rfl⟩
  | cons chunk chunks ih =>
    rw [List.flatten_cons, List.length_append] at h
    unfold readExactly
    split_ifs with hchunk
    · refine ⟨chunk.drop n :: chunks, ?_, ?_⟩
      · rw [List.flatten_cons, List.take_append_of_le_length hchunk]
      · rw [List.flatten_cons, List.flatten_cons, List.drop_append_of_le_length hchunk]
    · obtain ⟨rest, hread, hrest⟩ := ih (n := n - chunk.length) (by omega)
      have hle : chunk.length ≤ n := by omega
      refine ⟨rest, ?_, ?_⟩
      · rw [hread, List.flatten_cons, List.take_append, List.take_of_length_le hle]
      · rw [hrest, List.flatten_cons, List.drop_append, List.drop_of_length_le hle,
          List.nil_append]

/-- If there are not enough, all are read. -/
theorem readExactly_short {n : ℕ} {chunks : List (List α)} (h : chunks.flatten.length < n) :
    readExactly n chunks = (.error chunks.flatten, []) := by
  induction chunks generalizing n with
  | nil =>
    have hn : n ≠ 0 := Nat.pos_iff_ne_zero.mp h
    rw [readExactly, if_neg hn]
    rfl
  | cons chunk chunks ih =>
    rw [List.flatten_cons, List.length_append] at h
    rw [readExactly, if_neg (by omega), ih (by omega)]
    rfl

/-! ## Words -/

/-- Four bytes, the highest first. -/
def word32 (n : ℕ) : List UInt8 :=
  [UInt8.ofNat (n / 2 ^ 24), UInt8.ofNat (n / 2 ^ 16), UInt8.ofNat (n / 2 ^ 8), UInt8.ofNat n]

/-- The number in four bytes. -/
def ofWord32 (bytes : List UInt8) : ℕ := bytes.foldl (fun n b => 256 * n + b.toNat) 0

@[simp] theorem length_word32 (n : ℕ) : (word32 n).length = 4 := rfl

/-- A number that does not fit is cut. -/
theorem ofWord32_word32 (n : ℕ) : ofWord32 (word32 n) = n % 2 ^ 32 := by
  simp only [ofWord32, word32, List.foldl_cons, List.foldl_nil, UInt8.toNat_ofNat']
  omega

/-! ## Frames -/

/-- What is found where a frame should be. -/
inductive Taken where
  /-- The stream ends within the header. -/
  | shortHeader (bytes : List UInt8)
  /-- The header does not give a size between 2 and the limit. -/
  | badSize (size : ℕ)
  /-- The stream ends within the payload. -/
  | shortPayload (bytes : List UInt8)
  | payload (bytes : List UInt8)

/-- Read a frame with a payload of at least two bytes and at most `limit`. -/
def takeFrame (limit : ℕ) (stream : List (List UInt8)) : Taken × List (List UInt8) :=
  match readExactly 4 stream with
  | (.error bytes, stream) => (.shortHeader bytes, stream)
  | (.ok header, stream) =>
    if ofWord32 header < 2 ∨ limit < ofWord32 header then (.badSize (ofWord32 header), stream)
    else
      match readExactly (ofWord32 header) stream with
      | (.error bytes, stream) => (.shortPayload bytes, stream)
      | (.ok bytes, stream) => (.payload bytes, stream)

section TakeFrame

variable {limit size : ℕ} {stream : List (List UInt8)} {rest : List UInt8}

theorem takeFrame_shortHeader (h : stream.flatten.length < 4) :
    takeFrame limit stream = (.shortHeader stream.flatten, []) := by
  rw [takeFrame, readExactly_short h]

theorem readExactly_header {header : List UInt8} (hstream : stream.flatten = header ++ rest)
    (hheader : header.length = 4) :
    ∃ stream', readExactly 4 stream = (.ok header, stream') ∧ stream'.flatten = rest := by
  have hlength : 4 ≤ stream.flatten.length := by
    rw [hstream, List.length_append]
    omega
  obtain ⟨stream', hread, hrest⟩ := readExactly_ok hlength
  refine ⟨stream', ?_, ?_⟩
  · rw [hread, hstream, List.take_left' hheader]
  · rw [hrest, hstream, List.drop_left' hheader]

/-- A bad size is found before anything after the header is read. -/
theorem takeFrame_badSize {header : List UInt8} (hstream : stream.flatten = header ++ rest)
    (hheader : header.length = 4) (hsize : ofWord32 header < 2 ∨ limit < ofWord32 header) :
    ∃ stream', takeFrame limit stream = (.badSize (ofWord32 header), stream') ∧
      stream'.flatten = rest := by
  obtain ⟨stream', hread, hrest⟩ := readExactly_header hstream hheader
  refine ⟨stream', ?_, hrest⟩
  rw [takeFrame, hread]
  exact if_pos hsize

theorem takeFrame_shortPayload {header : List UInt8} (hstream : stream.flatten = header ++ rest)
    (hheader : header.length = 4) (hsize : ¬(ofWord32 header < 2 ∨ limit < ofWord32 header))
    (hshort : rest.length < ofWord32 header) :
    takeFrame limit stream = (.shortPayload rest, []) := by
  obtain ⟨stream', hread, hrest⟩ := readExactly_header hstream hheader
  rw [← hrest] at hshort ⊢
  rw [takeFrame, hread]
  dsimp only
  rw [if_neg hsize, readExactly_short hshort]

theorem takeFrame_payload {header : List UInt8} (hstream : stream.flatten = header ++ rest)
    (hheader : header.length = 4) (hsize : ¬(ofWord32 header < 2 ∨ limit < ofWord32 header))
    (henough : ofWord32 header ≤ rest.length) :
    ∃ stream', takeFrame limit stream = (.payload (rest.take (ofWord32 header)), stream') ∧
      stream'.flatten = rest.drop (ofWord32 header) := by
  obtain ⟨stream', hread, hrest⟩ := readExactly_header hstream hheader
  rw [← hrest] at henough ⊢
  obtain ⟨stream'', hread', hrest'⟩ := readExactly_ok henough
  refine ⟨stream'', ?_, hrest'⟩
  rw [takeFrame, hread]
  dsimp only
  rw [if_neg hsize, hread']

end TakeFrame

/-! ## Loops -/

/-- Reading on until the first error yields these values and that error. -/
inductive ReadsAll {σ β ε : Type} (read : σ → Except ε β × σ) : σ → List β → ε → Prop where
  | stop {s s' : σ} {err : ε} (h : read s = (.error err, s')) : ReadsAll read s [] err
  | next {s s' : σ} {value : β} {values : List β} {err : ε} (h : read s = (.ok value, s'))
      (hrest : ReadsAll read s' values err) : ReadsAll read s (value :: values) err

/-- What a loop reads is determined. -/
theorem ReadsAll.unique {σ β ε : Type} {read : σ → Except ε β × σ} {s : σ} {values values' : List β}
    {err err' : ε} (h : ReadsAll read s values err) (h' : ReadsAll read s values' err') :
    values = values' ∧ err = err' := by
  induction h generalizing values' with
  | stop hread =>
    cases h' with
    | stop hread' =>
      cases hread.symm.trans hread'
      exact ⟨rfl, rfl⟩
    | next hread' => cases hread.symm.trans hread'
  | next hread hrest ih =>
    cases h' with
    | stop hread' => cases hread.symm.trans hread'
    | next hread' hrest' =>
      cases hread.symm.trans hread'
      obtain ⟨rfl, rfl⟩ := ih hrest'
      exact ⟨rfl, rfl⟩

end ByteStream
