import VeraMesh.Lib.Utf8

/-!
# Decoding UTF-8 with replacement

`decodeReplace` is `bytes.decode("utf-8", errors="replace")`: a maximal part of the bytes that
begins no character is replaced by one U+FFFD. Nothing is replaced in the bytes of a text, and a
text that encodes to the bytes again has lost nothing (`utf8_decodeReplace`).

A text is cut at a boundary of its characters if both parts are texts (`IsBoundary`).
-/

/-- The character at the front of the bytes. -/
def decodeChar? (bytes : List UInt8) : Option Char := bytes.toByteArray.utf8DecodeChar? 0

theorem decodeChar?_append (c : Char) (rest : List UInt8) :
    decodeChar? (String.utf8EncodeChar c ++ rest) = some c := by
  rw [decodeChar?, List.toByteArray_append]
  exact ByteArray.utf8DecodeChar?_utf8EncodeChar_append

/-- A byte that goes on with a character. -/
def isContinuation (b : UInt8) : Bool := 0x80 ≤ b && b < 0xC0

/-- How many bytes a character has that begins with `a`, `0` if none does. -/
def announcedSize (a : UInt8) : ℕ :=
  if a < 0x80 then 1
  else if a < 0xC2 then 0
  else if a < 0xE0 then 2
  else if a < 0xF0 then 3
  else if a < 0xF5 then 4
  else 0

/-- The byte `b` may follow the first byte `a` of a character. -/
def isSecond (a b : UInt8) : Bool :=
  isContinuation b && 2 ≤ announcedSize a && !(a == 0xE0 && b < 0xA0) && !(a == 0xED && 0xA0 ≤ b) &&
    !(a == 0xF0 && b < 0x90) && !(a == 0xF4 && 0x90 ≤ b)

/-- The length of the bytes that are replaced together, where no character begins. -/
def replacedSize : List UInt8 → ℕ
  | [] => 0
  | [_] => 1
  | a :: b :: rest =>
    if isSecond a b then
      2 + ((rest.take (announcedSize a - 2)).takeWhile isContinuation).length
    else 1

/-- `decodeReplace` for at most `fuel` characters. -/
def decodeReplaceFuel : ℕ → List UInt8 → List Char
  | 0, _ => []
  | _, [] => []
  | fuel + 1, b :: bytes =>
    match decodeChar? (b :: bytes) with
    | some c => c :: decodeReplaceFuel fuel ((b :: bytes).drop c.utf8Size)
    | none =>
      '\uFFFD' :: decodeReplaceFuel fuel ((b :: bytes).drop (replacedSize (b :: bytes)))

/-- `bytes.decode("utf-8", errors="replace")`. -/
def decodeReplace (bytes : List UInt8) : List Char := decodeReplaceFuel bytes.length bytes

theorem replacedSize_pos (b : UInt8) (bytes : List UInt8) : 0 < replacedSize (b :: bytes) := by
  cases bytes with
  | nil => exact Nat.one_pos
  | cons c bytes =>
    rw [replacedSize]
    split <;> omega

/-- A round takes at least one byte, so that there is fuel enough. -/
theorem decodeReplaceFuel_eq {fuel fuel' : ℕ} {bytes : List UInt8} (h : bytes.length ≤ fuel)
    (h' : bytes.length ≤ fuel') : decodeReplaceFuel fuel bytes = decodeReplaceFuel fuel' bytes := by
  induction fuel generalizing fuel' bytes with
  | zero =>
    obtain rfl : bytes = [] := List.eq_nil_of_length_eq_zero (Nat.le_zero.mp h)
    cases fuel' <;> rfl
  | succ fuel ih =>
    cases bytes with
    | nil => cases fuel' <;> rfl
    | cons b bytes =>
      cases fuel' with
      | zero => cases h'
      | succ fuel' =>
        have hdrop : ∀ n, 0 < n → ((b :: bytes).drop n).length ≤ fuel ∧
            ((b :: bytes).drop n).length ≤ fuel' := by
          intro n hn
          rw [List.length_cons] at h h'
          rw [List.length_drop, List.length_cons]
          omega
        rw [decodeReplaceFuel, decodeReplaceFuel]
        split
        · next c _ =>
          have hsize := hdrop _ c.utf8Size_pos
          rw [ih hsize.1 hsize.2]
        · have hsize := hdrop _ (replacedSize_pos b bytes)
          rw [ih hsize.1 hsize.2]

/-- A character at the front is decoded. -/
theorem decodeReplace_encodeChar_append (c : Char) (rest : List UInt8) :
    decodeReplace (String.utf8EncodeChar c ++ rest) = c :: decodeReplace rest := by
  have hlength : (String.utf8EncodeChar c).length = c.utf8Size := String.length_utf8EncodeChar c
  have hchar := decodeChar?_append c rest
  have hdrop : (String.utf8EncodeChar c ++ rest).drop c.utf8Size = rest :=
    List.drop_left' hlength
  have hpos : 0 < (String.utf8EncodeChar c ++ rest).length := by
    rw [List.length_append, hlength]
    exact Nat.add_pos_left c.utf8Size_pos _
  have hfuel : rest.length ≤ (String.utf8EncodeChar c ++ rest).length - 1 := by
    rw [List.length_append, hlength]
    have := c.utf8Size_pos
    omega
  obtain ⟨b, bytes, hbytes⟩ := List.exists_cons_of_length_pos hpos
  rw [hbytes] at hchar hdrop hfuel ⊢
  rw [decodeReplace, List.length_cons, decodeReplaceFuel, hchar]
  dsimp only
  rw [hdrop]
  exact congrArg (c :: ·) (decodeReplaceFuel_eq hfuel le_rfl)

/-- The characters of a text at the front are decoded. -/
theorem decodeReplace_utf8_append (text : List Char) (rest : List UInt8) :
    decodeReplace (utf8 text ++ rest) = text ++ decodeReplace rest := by
  induction text with
  | nil => rfl
  | cons c text ih =>
    rw [utf8, List.flatMap_cons, List.append_assoc, decodeReplace_encodeChar_append]
    exact congrArg (c :: ·) ih

/-- Nothing is replaced in the bytes of a text. -/
@[simp]
theorem decodeReplace_utf8 (text : List Char) : decodeReplace (utf8 text) = text := by
  have h := decodeReplace_utf8_append text []
  rwa [List.append_nil, show decodeReplace [] = [] from rfl, List.append_nil] at h

/-- Decoding loses nothing if and only if the bytes are those of a text. -/
theorem utf8_decodeReplace {bytes : List UInt8} :
    utf8 (decodeReplace bytes) = bytes ↔ ∃ text, bytes = utf8 text := by
  constructor
  · intro h
    exact ⟨_, h.symm⟩
  · rintro ⟨text, rfl⟩
    rw [decodeReplace_utf8]

/-! ## Boundaries -/

/-- No character of the text lies on both sides of its byte `n`. -/
def IsBoundary (text : List Char) (n : ℕ) : Prop :=
  ∃ front, front <+: text ∧ (utf8 front).length = n

namespace IsBoundary

variable {text piece : List Char} {n m : ℕ}

theorem zero (text : List Char) : IsBoundary text 0 := ⟨[], List.nil_prefix, rfl⟩

theorem length (text : List Char) : IsBoundary text (utf8 text).length :=
  ⟨text, List.prefix_rfl, rfl⟩

/-- The bytes from a boundary on are those of a text. -/
theorem drop_eq (h : IsBoundary text n) :
    ∃ front back, text = front ++ back ∧ (utf8 front).length = n ∧
      (utf8 text).drop n = utf8 back := by
  obtain ⟨front, ⟨back, rfl⟩, rfl⟩ := h
  refine ⟨front, back, rfl, rfl, ?_⟩
  rw [utf8_append, List.drop_left]

/-- The bytes that follow a boundary lead to another one if they are those of a text. -/
theorem of_slice (hn : IsBoundary text n) (hnm : n ≤ m) (hm : m ≤ (utf8 text).length)
    (h : ((utf8 text).drop n).take (m - n) = utf8 piece) : IsBoundary text m := by
  have hlength : (utf8 piece).length = m - n := by
    rw [← h, List.length_take, List.length_drop]
    omega
  obtain ⟨front, back, htext, hfront, hdrop⟩ := hn.drop_eq
  rw [hdrop] at h
  -- the piece is at the front of what follows
  have hback : back = piece ++ decodeReplace ((utf8 back).drop (m - n)) := by
    have hsplit := List.take_append_drop (m - n) (utf8 back)
    rw [h] at hsplit
    rw [← decodeReplace_utf8_append, hsplit, decodeReplace_utf8]
  refine ⟨front ++ piece, ?_, ?_⟩
  · rw [htext, hback]
    exact (List.prefix_append_right_inj front).mpr (List.prefix_append piece _)
  · rw [utf8_append, List.length_append, hfront, hlength]
    omega

/-- The bytes between two boundaries are those of a text. -/
theorem exists_slice (hn : IsBoundary text n) (hm : IsBoundary text m) (hnm : n ≤ m) :
    ∃ piece, ((utf8 text).drop n).take (m - n) = utf8 piece := by
  obtain ⟨front, hfront, rfl⟩ := hn
  obtain ⟨longer, hlonger, rfl⟩ := hm
  rcases List.prefix_or_prefix_of_prefix hfront hlonger with ⟨piece, rfl⟩ | ⟨piece, rfl⟩
  · obtain ⟨rest, rfl⟩ := hlonger
    refine ⟨piece, ?_⟩
    rw [List.append_assoc, utf8_append front (piece ++ rest), List.drop_left, utf8_append front,
      utf8_append piece, List.length_append, Nat.add_sub_cancel_left, List.take_left]
  · refine ⟨[], ?_⟩
    have hzero : (utf8 longer).length - (utf8 (longer ++ piece)).length = 0 := by
      rw [utf8_append, List.length_append]
      omega
    rw [hzero, List.take_zero]
    rfl

end IsBoundary

/-! ## Pages -/

section Pages

variable {α : Type*} {l : List α} {n : ℕ} {stops : List ℕ} {text : List Char}

/-- The parts of a list up to the given positions, the first of which begins at `n`. -/
def pages (l : List α) : ℕ → List ℕ → List (List α)
  | _, [] => []
  | n, m :: stops => (l.drop n).take (m - n) :: pages l m stops

/-- The positions do not decrease and stay within the list. -/
def StopsWithin (length : ℕ) : ℕ → List ℕ → Prop
  | _, [] => True
  | n, m :: stops => n ≤ m ∧ m ≤ length ∧ StopsWithin length m stops

theorem le_getLastD_of_stopsWithin {length : ℕ} (h : StopsWithin length n stops)
    (hn : n ≤ length) : n ≤ stops.getLastD n ∧ stops.getLastD n ≤ length := by
  induction stops generalizing n with
  | nil => exact ⟨le_rfl, hn⟩
  | cons m stops ih =>
    obtain ⟨hnm, hm, hstops⟩ := h
    have hrest := ih hstops hm
    rw [List.getLastD_cons]
    exact ⟨hnm.trans hrest.1, hrest.2⟩

/-- Pages follow each other without gap or overlap. -/
theorem flatten_pages (h : StopsWithin l.length n stops) (hn : n ≤ l.length) :
    (pages l n stops).flatten = (l.drop n).take (stops.getLastD n - n) := by
  induction stops generalizing n with
  | nil => simp [pages]
  | cons m stops ih =>
    obtain ⟨hnm, hm, hstops⟩ := h
    have hlast := (le_getLastD_of_stopsWithin hstops hm).1
    rw [pages, List.flatten_cons, ih hstops hm, List.getLastD_cons]
    have hdrop : l.drop m = (l.drop n).drop (m - n) := by
      rw [List.drop_drop, Nat.add_sub_cancel' hnm]
    have hsum : stops.getLastD m - n = m - n + (stops.getLastD m - m) := by omega
    rw [hdrop, hsum, List.take_add]

/-- The pages of the bytes of a text lose nothing if and only if they end at boundaries. -/
theorem utf8_decodeReplace_pages (h : StopsWithin (utf8 text).length n stops)
    (hn : IsBoundary text n) :
    (∀ page ∈ pages (utf8 text) n stops, utf8 (decodeReplace page) = page) ↔
      ∀ m ∈ stops, IsBoundary text m := by
  induction stops generalizing n with
  | nil => simp [pages]
  | cons m stops ih =>
    obtain ⟨hnm, hm, hstops⟩ := h
    have hfirst : utf8 (decodeReplace (((utf8 text).drop n).take (m - n))) =
        ((utf8 text).drop n).take (m - n) ↔ IsBoundary text m := by
      rw [utf8_decodeReplace]
      constructor
      · rintro ⟨piece, hpiece⟩
        exact hn.of_slice hnm hm hpiece
      · intro hboundary
        exact hn.exists_slice hboundary hnm
    rw [pages, List.forall_mem_cons, List.forall_mem_cons, hfirst]
    constructor
    · rintro ⟨hboundary, hrest⟩
      exact ⟨hboundary, (ih hstops hboundary).mp hrest⟩
    · rintro ⟨hboundary, hrest⟩
      exact ⟨hboundary, (ih hstops hboundary).mpr hrest⟩

/-- The pages of the bytes of a text can be decoded one by one if and only if they end at boundaries
and reach the end. -/
theorem decode_pages_iff (h : StopsWithin (utf8 text).length 0 stops) :
    (((pages (utf8 text) 0 stops).map decodeReplace).flatten = text ∧
        ∀ page ∈ pages (utf8 text) 0 stops, utf8 (decodeReplace page) = page) ↔
      (∀ m ∈ stops, IsBoundary text m) ∧ stops.getLastD 0 = (utf8 text).length := by
  have hpages := utf8_decodeReplace_pages h (.zero text)
  have hflatten := flatten_pages h (Nat.zero_le _)
  have hlast := (le_getLastD_of_stopsWithin h (Nat.zero_le _)).2
  rw [List.drop_zero, Nat.sub_zero] at hflatten
  -- if no page loses anything, the bytes of the texts are those of the pages
  have hbytes : (∀ page ∈ pages (utf8 text) 0 stops, utf8 (decodeReplace page) = page) →
      utf8 ((pages (utf8 text) 0 stops).map decodeReplace).flatten =
        (utf8 text).take (stops.getLastD 0) := by
    intro hall
    have hsame : (pages (utf8 text) 0 stops).map (utf8 ∘ decodeReplace) =
        pages (utf8 text) 0 stops := (List.map_congr_left hall).trans (List.map_id _)
    rw [utf8_flatten, List.map_map, ← hflatten, hsame]
  constructor
  · rintro ⟨htext, hall⟩
    refine ⟨hpages.mp hall, ?_⟩
    have htake := hbytes hall
    rw [htext] at htake
    have hlength := congrArg List.length htake
    rw [List.length_take] at hlength
    omega
  · rintro ⟨hall, hend⟩
    refine ⟨utf8_injective ?_, hpages.mpr hall⟩
    rw [hbytes (hpages.mpr hall), hend, List.take_length]

end Pages
