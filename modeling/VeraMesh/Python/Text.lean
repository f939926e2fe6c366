import VeraMesh.Lib.TextCodec
import VeraMesh.Lib.Utf8Decode

/-!
# Strings and codecs of the reference agent

A string of the reference agent is a list of code points, and may hold surrogates on their own
(`PyChar`). The codecs `utf-8`, `utf-8-sig` and `utf-16` decode and encode without replacement. None
of them has bytes for a surrogate.

* `utf8Sig` drops the mark `EF BB BF` where a file has it, and always writes it.
* `utf16` reads the byte order of the mark, or takes the native one where a file has no mark. It
  always writes a mark, in the native order.
-/

namespace VeraMesh.Python

/-- A code point of a string. -/
inductive PyChar where
  | scalar (c : Char)
  /-- The code point `0xD800 + n`. -/
  | surrogate (n : Fin 0x800)
  deriving DecidableEq

/-- A string. -/
abbrev PyText := List PyChar

/-- A text without surrogates. -/
def PyText.ofString (s : String) : PyText := s.toList.map .scalar

/-! ## UTF-8 -/

/-- The bytes of a character. -/
def utf8Code : PyChar → Option (List UInt8)
  | .scalar c => some (String.utf8EncodeChar c)
  | .surrogate _ => none

/-- The character at the front of the bytes. -/
def utf8Next (bytes : List UInt8) : Option (Piece PyChar) :=
  (decodeChar? bytes).map fun c => (.scalar c, String.utf8EncodeChar c)

/-- A character that is decoded has its bytes at the front. -/
theorem utf8EncodeChar_prefix {bytes : List UInt8} {c : Char} (h : decodeChar? bytes = some c) :
    String.utf8EncodeChar c <+: bytes := by
  have hextract := String.toByteArray_utf8EncodeChar_of_utf8DecodeChar?_eq_some h
  have htake : String.utf8EncodeChar c = bytes.take c.utf8Size := by
    have hlist := congrArg (fun b : ByteArray => b.data.toList) hextract
    simpa using hlist
  rw [htake]
  exact List.take_prefix _ _

/-- UTF-8. -/
def utf8Chars : CharCode PyChar where
  code := utf8Code
  next := utf8Next
  next_take {bytes p} h := by
    obtain ⟨c, hc, rfl⟩ := Option.map_eq_some_iff.mp h
    exact ⟨utf8EncodeChar_ne_nil c, utf8EncodeChar_prefix hc⟩
  next_append {bytes p} h rest := by
    obtain ⟨c, hc, rfl⟩ := Option.map_eq_some_iff.mp h
    exact Option.map_eq_some_iff.mpr ⟨c, decodeChar?_append c rest, rfl⟩
  next_code {c piece} h rest := by
    cases c with
    | scalar c =>
      obtain rfl := Option.some.inj h
      exact Option.map_eq_some_iff.mpr ⟨c, decodeChar?_append c rest, rfl⟩
    | surrogate n => cases h

/-- UTF-8 reads a character from one piece of bytes only. -/
theorem canonical_utf8Chars {p : Piece PyChar} (h : utf8Chars.IsPiece p) :
    utf8Chars.Canonical p := by
  obtain ⟨c, -, rfl⟩ := Option.map_eq_some_iff.mp (h [])
  rfl

/-- The codec `utf-8`. -/
def utf8Codec : TextCodec PyChar := .bare utf8Chars

/-- `codecs.BOM_UTF8`. -/
def bomUtf8 : List UInt8 := [0xEF, 0xBB, 0xBF]

/-- The codec `utf-8-sig`. A file has the mark or not. -/
def utf8Sig : TextCodec PyChar where
  Form := Bool
  mark marked := if marked then bomUtf8 else []
  chars _ := utf8Chars
  form bytes := decide (bomUtf8 <+: bytes)
  written := true
  mark_form bytes := by
    by_cases h : bomUtf8 <+: bytes
    · simp [h]
    · simp [h]
  isSome_code _ _ := rfl
  distinct {v} hv P Q hP hQ htext hbytes := by
    obtain rfl := Bool.eq_false_iff.mpr hv
    have hPQ := CharCode.eq_of_canonical (fun p hp => canonical_utf8Chars (hP p hp))
      (fun q hq => canonical_utf8Chars (hQ q hq)) htext
    have hlength := congrArg List.length hbytes
    rw [hPQ, List.length_append, List.length_append] at hlength
    exact absurd (Nat.add_right_cancel hlength) (by decide)

/-! ## UTF-16 -/

inductive ByteOrder where
  | little
  | big
  deriving DecidableEq

namespace ByteOrder

/-- The bytes of a code unit. -/
def bytes (u : ℕ) : ByteOrder → List UInt8
  | little => [.ofNat (u % 256), .ofNat (u / 256)]
  | big => [.ofNat (u / 256), .ofNat (u % 256)]

/-- The code unit of two bytes. -/
def unit (a b : UInt8) : ByteOrder → ℕ
  | little => a.toNat + 256 * b.toNat
  | big => 256 * a.toNat + b.toNat

variable (order : ByteOrder)

theorem unit_lt (a b : UInt8) : order.unit a b < 0x10000 := by
  have ha := a.toNat_lt
  have hb := b.toNat_lt
  cases order <;> simp only [unit] <;> omega

theorem bytes_unit (a b : UInt8) : order.bytes (order.unit a b) = [a, b] := by
  have ha := a.toNat_lt
  have hb := b.toNat_lt
  cases order with
  | little =>
    have hmod : (a.toNat + 256 * b.toNat) % 256 = a.toNat := by omega
    have hdiv : (a.toNat + 256 * b.toNat) / 256 = b.toNat := by omega
    rw [unit, bytes, hmod, hdiv, UInt8.ofNat_toNat, UInt8.ofNat_toNat]
  | big =>
    have hmod : (256 * a.toNat + b.toNat) % 256 = b.toNat := by omega
    have hdiv : (256 * a.toNat + b.toNat) / 256 = a.toNat := by omega
    rw [unit, bytes, hmod, hdiv, UInt8.ofNat_toNat, UInt8.ofNat_toNat]

/-- A code unit is read back from its bytes. -/
theorem exists_bytes {u : ℕ} (hu : u < 0x10000) :
    ∃ a b, order.bytes u = [a, b] ∧ order.unit a b = u := by
  have hlow : (UInt8.ofNat (u % 256)).toNat = u % 256 := UInt8.toNat_ofNat_of_lt' (by
    rw [UInt8.size]; omega)
  have hhigh : (UInt8.ofNat (u / 256)).toNat = u / 256 := UInt8.toNat_ofNat_of_lt' (by
    rw [UInt8.size]; omega)
  cases order with
  | little =>
    refine ⟨_, _, rfl, ?_⟩
    rw [unit, hlow, hhigh]
    omega
  | big =>
    refine ⟨_, _, rfl, ?_⟩
    rw [unit, hlow, hhigh]
    omega

end ByteOrder

/-- The code units of a character. -/
def utf16Units (c : Char) : List ℕ :=
  if c.toNat < 0x10000 then [c.toNat]
  else [0xD800 + (c.toNat - 0x10000) / 0x400, 0xDC00 + (c.toNat - 0x10000) % 0x400]

/-- The bytes of a character. -/
def utf16Code (order : ByteOrder) : PyChar → Option (List UInt8)
  | .scalar c => some ((utf16Units c).flatMap fun u => order.bytes u)
  | .surrogate _ => none

/-- The character of the high surrogate in `a` and `b` and the low one that must follow. -/
def utf16Pair (order : ByteOrder) (a b : UInt8) : List UInt8 → Option (Piece PyChar)
  | a' :: b' :: _ =>
    if 0xDC00 ≤ order.unit a' b' ∧ order.unit a' b' < 0xE000 then
      some (.scalar (.ofNat (0x10000 + (order.unit a b - 0xD800) * 0x400 +
        (order.unit a' b' - 0xDC00))), [a, b, a', b'])
    else none
  | _ => none

/-- The character at the front of the bytes. -/
def utf16Next (order : ByteOrder) : List UInt8 → Option (Piece PyChar)
  | a :: b :: rest =>
    if order.unit a b < 0xD800 ∨ 0xE000 ≤ order.unit a b then
      some (.scalar (.ofNat (order.unit a b)), [a, b])
    else if order.unit a b < 0xDC00 then utf16Pair order a b rest
    else none
  | _ => none

theorem toNat_ofNat {n : ℕ} (h : n.isValidChar) : (Char.ofNat n).toNat = n := by
  rw [Char.ofNat, dif_pos h]
  rfl

/-- A code unit that is no surrogate is a character. -/
theorem utf16Next_unit {order : ByteOrder} {a b : UInt8} {rest : List UInt8}
    (h : order.unit a b < 0xD800 ∨ 0xE000 ≤ order.unit a b) :
    utf16Next order (a :: b :: rest) = some (.scalar (.ofNat (order.unit a b)), [a, b]) := by
  rw [utf16Next, if_pos h]

/-- The character of a surrogate pair. -/
theorem utf16Next_pair {order : ByteOrder} {a b a' b' : UInt8} {rest : List UInt8}
    (hhigh : 0xD800 ≤ order.unit a b ∧ order.unit a b < 0xDC00)
    (hlow : 0xDC00 ≤ order.unit a' b' ∧ order.unit a' b' < 0xE000) :
    utf16Next order (a :: b :: a' :: b' :: rest) =
      some (.scalar (.ofNat (0x10000 + (order.unit a b - 0xD800) * 0x400 +
        (order.unit a' b' - 0xDC00))), [a, b, a', b']) := by
  rw [utf16Next, if_neg (by omega), if_pos hhigh.2]
  exact if_pos hlow

/-- A piece is one code unit or a surrogate pair. -/
theorem utf16Next_cases {order : ByteOrder} {bytes : List UInt8} {p : Piece PyChar}
    (h : utf16Next order bytes = some p) :
    (∃ a b rest, bytes = a :: b :: rest ∧
      (order.unit a b < 0xD800 ∨ 0xE000 ≤ order.unit a b) ∧
        p = (.scalar (.ofNat (order.unit a b)), [a, b])) ∨
      ∃ a b a' b' rest, bytes = a :: b :: a' :: b' :: rest ∧
        (0xD800 ≤ order.unit a b ∧ order.unit a b < 0xDC00) ∧
        (0xDC00 ≤ order.unit a' b' ∧ order.unit a' b' < 0xE000) ∧
          p = (.scalar (.ofNat (0x10000 + (order.unit a b - 0xD800) * 0x400 +
            (order.unit a' b' - 0xDC00))), [a, b, a', b']) := by
  rcases bytes with _ | ⟨a, _ | ⟨b, rest⟩⟩
  · cases h
  · cases h
  · rw [utf16Next] at h
    split_ifs at h with hunit hhigh
    · left
      exact ⟨a, b, rest, rfl, hunit, (Option.some.inj h).symm⟩
    · right
      rcases rest with _ | ⟨a', _ | ⟨b', rest⟩⟩
      · cases h
      · cases h
      · rw [utf16Pair] at h
        split_ifs at h with hlow
        exact ⟨a, b, a', b', rest, rfl, by omega, hlow, (Option.some.inj h).symm⟩

/-- A character is read back from its code units. -/
theorem utf16Next_code (order : ByteOrder) (c : Char) (rest : List UInt8) :
    utf16Next order (((utf16Units c).flatMap fun u => order.bytes u) ++ rest) =
      some (.scalar c, (utf16Units c).flatMap fun u => order.bytes u) := by
  have hvalid : c.toNat < 0xD800 ∨ 0xDFFF < c.toNat ∧ c.toNat < 0x110000 := c.valid
  rw [utf16Units]
  split_ifs with hsmall
  · obtain ⟨a, b, hbytes, hunit⟩ := order.exists_bytes hsmall
    rw [List.flatMap_cons, List.flatMap_nil, List.append_nil, hbytes]
    show utf16Next order (a :: b :: rest) = _
    rw [utf16Next_unit (by omega), hunit, Char.ofNat_toNat]
  · obtain ⟨a, b, hhigh, hhunit⟩ := order.exists_bytes
      (u := 0xD800 + (c.toNat - 0x10000) / 0x400) (by omega)
    obtain ⟨a', b', hlow, hlunit⟩ := order.exists_bytes
      (u := 0xDC00 + (c.toNat - 0x10000) % 0x400) (by omega)
    rw [List.flatMap_cons, List.flatMap_cons, List.flatMap_nil, List.append_nil, hhigh, hlow]
    show utf16Next order (a :: b :: a' :: b' :: rest) = _
    have hnat : 0x10000 + (order.unit a b - 0xD800) * 0x400 + (order.unit a' b' - 0xDC00) =
        c.toNat := by
      rw [hhunit, hlunit]
      omega
    rw [utf16Next_pair (by omega) (by omega), hnat, Char.ofNat_toNat]
    rfl

/-- UTF-16 in some byte order. -/
def utf16Chars (order : ByteOrder) : CharCode PyChar where
  code := utf16Code order
  next := utf16Next order
  next_take {bytes p} h := by
    rcases utf16Next_cases h with ⟨a, b, rest, rfl, -, rfl⟩ | ⟨a, b, a', b', rest, rfl, -, -, rfl⟩
    · exact ⟨List.cons_ne_nil _ _, rest, rfl⟩
    · exact ⟨List.cons_ne_nil _ _, rest, rfl⟩
  next_append {bytes p} h rest := by
    rcases utf16Next_cases h with ⟨a, b, -, -, hunit, rfl⟩ | ⟨a, b, a', b', -, -, hh, hl, rfl⟩
    · exact utf16Next_unit hunit
    · exact utf16Next_pair hh hl
  next_code {c piece} h rest := by
    cases c with
    | scalar c =>
      obtain rfl := Option.some.inj h
      exact utf16Next_code order c rest
    | surrogate n => cases h

/-- UTF-16 reads a character from one piece of bytes only. -/
theorem canonical_utf16Chars {order : ByteOrder} {p : Piece PyChar}
    (h : (utf16Chars order).IsPiece p) : (utf16Chars order).Canonical p := by
  have hnext := h []
  rw [List.append_nil] at hnext
  rcases utf16Next_cases hnext with
    ⟨a, b, rest, -, hunit, rfl⟩ | ⟨a, b, a', b', rest, -, hhigh, hlow, rfl⟩
  · have hlt := order.unit_lt a b
    have hnat : (Char.ofNat (order.unit a b)).toNat = order.unit a b :=
      toNat_ofNat (by unfold Nat.isValidChar; omega)
    show utf16Code order (.scalar (.ofNat (order.unit a b))) = some [a, b]
    rw [utf16Code, utf16Units, hnat, if_pos hlt, List.flatMap_cons, List.flatMap_nil,
      List.append_nil, order.bytes_unit]
  · generalize hu : order.unit a b = u at hhigh
    generalize hu' : order.unit a' b' = u' at hlow
    have hnat : (Char.ofNat (0x10000 + (u - 0xD800) * 0x400 + (u' - 0xDC00))).toNat =
        0x10000 + (u - 0xD800) * 0x400 + (u' - 0xDC00) :=
      toNat_ofNat (by unfold Nat.isValidChar; omega)
    have hdiv : 0xD800 + (0x10000 + (u - 0xD800) * 0x400 + (u' - 0xDC00) - 0x10000) / 0x400 =
        u := by
      omega
    have hmod : 0xDC00 + (0x10000 + (u - 0xD800) * 0x400 + (u' - 0xDC00) - 0x10000) % 0x400 =
        u' := by
      omega
    show utf16Code order (.scalar (.ofNat (0x10000 + (u - 0xD800) * 0x400 + (u' - 0xDC00)))) =
      some [a, b, a', b']
    rw [utf16Code, utf16Units, hnat, if_neg (by omega), hdiv, hmod, ← hu, ← hu']
    rw [List.flatMap_cons, List.flatMap_cons, List.flatMap_nil, List.append_nil, order.bytes_unit,
      order.bytes_unit]
    rfl

/-- How a file in UTF-16 is laid out: in the native byte order without a mark, or with a mark that
names the order. -/
inductive Utf16Form where
  | bare
  | marked (order : ByteOrder)
  deriving DecidableEq

/-- The mark of a byte order. -/
def bomUtf16 : ByteOrder → List UInt8
  | .little => [0xFF, 0xFE]
  | .big => [0xFE, 0xFF]

namespace Utf16Form

def mark : Utf16Form → List UInt8
  | bare => []
  | marked order => bomUtf16 order

def order (native : ByteOrder) : Utf16Form → ByteOrder
  | bare => native
  | marked order => order

/-- The form that the mark tells. -/
def ofBytes (bytes : List UInt8) : Utf16Form :=
  if bomUtf16 .little <+: bytes then marked .little
  else if bomUtf16 .big <+: bytes then marked .big
  else bare

end Utf16Form

/-- The codec `utf-16`. -/
def utf16 (native : ByteOrder) : TextCodec PyChar where
  Form := Utf16Form
  mark := Utf16Form.mark
  chars form := utf16Chars (form.order native)
  form := Utf16Form.ofBytes
  written := .marked native
  mark_form bytes := by
    rw [Utf16Form.ofBytes]
    split_ifs with hlittle hbig
    · exact hlittle
    · exact hbig
    · exact List.nil_prefix
  isSome_code form c := by cases c <;> rfl
  distinct {form} hform P Q hP hQ htext hbytes := by
    cases form with
    | bare =>
      -- the same text in the same byte order, and only one of the files has a mark
      have hPQ := CharCode.eq_of_canonical (fun p hp => canonical_utf16Chars (hP p hp))
        (fun q hq => canonical_utf16Chars (hQ q hq)) htext
      have hlength := congrArg List.length hbytes
      rw [hPQ, List.length_append, List.length_append] at hlength
      have hmark := Nat.add_right_cancel hlength
      cases native <;> cases hmark
    | marked order =>
      have hfirst := congrArg List.head? hbytes
      cases order <;> cases native <;> first | exact hform rfl | cases hfirst

end VeraMesh.Python
