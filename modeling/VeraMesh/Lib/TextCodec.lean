import Mathlib.Data.List.Basic

/-!
# Text codecs

A code of characters (`CharCode`) lays out each character as bytes of its own. It may read more
than one piece of bytes as the same character, of which it writes one. The bytes of a text can be cut
into its pieces in one way (`CharCode.pieces_unique`).

A codec (`TextCodec`) reads files of several forms, as different byte orders or files with and
without a mark at their front, and writes files of one.
-/

/-- A character with the bytes that it is read from. -/
abbrev Piece (κ : Type) := κ × List UInt8

/-- The bytes of pieces. -/
def bytesOf {κ : Type} (pieces : List (Piece κ)) : List UInt8 := pieces.flatMap Prod.snd

/-- The text of pieces. -/
def textOf {κ : Type} (pieces : List (Piece κ)) : List κ := pieces.map Prod.fst

/-- A way to lay out characters as bytes. -/
structure CharCode (κ : Type) where
  /-- The bytes that are written for a character. -/
  code : κ → Option (List UInt8)
  /-- The piece at the front of the bytes. -/
  next : List UInt8 → Option (Piece κ)
  next_take : ∀ {bytes p}, next bytes = some p → p.2 ≠ [] ∧ p.2 <+: bytes
  next_append : ∀ {bytes p}, next bytes = some p → ∀ rest, next (p.2 ++ rest) = some p
  next_code : ∀ {c piece}, code c = some piece → ∀ rest, next (piece ++ rest) = some (c, piece)

namespace CharCode

variable {κ : Type} (chars : CharCode κ)

/-- The bytes are read as this character, whatever follows. -/
def IsPiece (p : Piece κ) : Prop := ∀ rest, chars.next (p.2 ++ rest) = some p

/-- The bytes are those that are written for the character. -/
def Canonical (p : Piece κ) : Prop := chars.code p.1 = some p.2

/-- The pieces of the bytes, `fuel` at most. -/
def readFuel : (fuel : ℕ) → List UInt8 → Option (List (Piece κ))
  | _, [] => some []
  | 0, _ :: _ => none
  | fuel + 1, b :: bytes =>
    match chars.next (b :: bytes) with
    | none => none
    | some p => (readFuel fuel ((b :: bytes).drop p.2.length)).map (p :: ·)

/-- The pieces of the bytes. -/
def read (bytes : List UInt8) : Option (List (Piece κ)) := chars.readFuel bytes.length bytes

/-- The pieces that are written for a text. -/
def write? : List κ → Option (List (Piece κ))
  | [] => some []
  | c :: text =>
    match chars.code c, write? text with
    | some piece, some pieces => some ((c, piece) :: pieces)
    | _, _ => none

variable {chars}

theorem Canonical.isPiece {p : Piece κ} (h : chars.Canonical p) : chars.IsPiece p :=
  chars.next_code h

theorem IsPiece.ne_nil {p : Piece κ} (h : chars.IsPiece p) : p.2 ≠ [] := (chars.next_take (h [])).1

/-- Pieces are read back from their bytes. -/
theorem readFuel_bytesOf {pieces : List (Piece κ)} (h : ∀ p ∈ pieces, chars.IsPiece p) {fuel : ℕ}
    (hfuel : (bytesOf pieces).length ≤ fuel) :
    chars.readFuel fuel (bytesOf pieces) = some pieces := by
  induction pieces generalizing fuel with
  | nil => cases fuel <;> rfl
  | cons p pieces ih =>
    obtain ⟨hp, hpieces⟩ := List.forall_mem_cons.mp h
    have hbytes : bytesOf (p :: pieces) = p.2 ++ bytesOf pieces := rfl
    have hnext := hp (bytesOf pieces)
    have hdrop : (p.2 ++ bytesOf pieces).drop p.2.length = bytesOf pieces := List.drop_left
    have hpos : 0 < p.2.length := List.length_pos_iff.mpr hp.ne_nil
    rw [hbytes, List.length_append] at hfuel
    rw [hbytes]
    obtain ⟨b, bytes, hcons⟩ := List.exists_cons_of_length_pos
      (show 0 < (p.2 ++ bytesOf pieces).length by rw [List.length_append]; omega)
    rw [hcons] at hnext hdrop ⊢
    cases fuel with
    | zero => omega
    | succ fuel =>
      rw [readFuel, hnext]
      dsimp only
      rw [hdrop, ih hpieces (by omega)]
      rfl

theorem read_bytesOf {pieces : List (Piece κ)} (h : ∀ p ∈ pieces, chars.IsPiece p) :
    chars.read (bytesOf pieces) = some pieces :=
  readFuel_bytesOf h (Nat.le_refl _)

/-- What is read are pieces that make up the bytes. -/
theorem of_readFuel {fuel : ℕ} {bytes : List UInt8} {pieces : List (Piece κ)}
    (h : chars.readFuel fuel bytes = some pieces) :
    bytesOf pieces = bytes ∧ ∀ p ∈ pieces, chars.IsPiece p := by
  induction fuel generalizing bytes pieces with
  | zero =>
    cases bytes with
    | nil =>
      obtain rfl := Option.some.inj h
      exact ⟨rfl, fun p hp => absurd hp List.not_mem_nil⟩
    | cons b bytes => cases h
  | succ fuel ih =>
    cases bytes with
    | nil =>
      obtain rfl := Option.some.inj h
      exact ⟨rfl, fun p hp => absurd hp List.not_mem_nil⟩
    | cons b bytes =>
      rw [readFuel] at h
      cases hnext : chars.next (b :: bytes) with
      | none =>
        rw [hnext] at h
        cases h
      | some p =>
        rw [hnext] at h
        obtain ⟨rest, hrest, rfl⟩ := Option.map_eq_some_iff.mp h
        obtain ⟨hbytes, hpieces⟩ := ih hrest
        obtain ⟨-, hfront⟩ := chars.next_take hnext
        refine ⟨?_, List.forall_mem_cons.mpr ⟨chars.next_append hnext, hpieces⟩⟩
        show p.2 ++ bytesOf rest = b :: bytes
        rw [hbytes]
        exact (List.prefix_iff_eq_append.mp hfront)

theorem of_read {bytes : List UInt8} {pieces : List (Piece κ)}
    (h : chars.read bytes = some pieces) :
    bytesOf pieces = bytes ∧ ∀ p ∈ pieces, chars.IsPiece p :=
  of_readFuel h

/-- The bytes of a text can be cut into its pieces in one way. -/
theorem pieces_unique {P Q : List (Piece κ)} (hP : ∀ p ∈ P, chars.IsPiece p)
    (hQ : ∀ q ∈ Q, chars.IsPiece q) (h : bytesOf P = bytesOf Q) : P = Q := by
  have hread := read_bytesOf hP
  rw [h, read_bytesOf hQ] at hread
  exact (Option.some.inj hread).symm

/-! ## Writing -/

/-- Pieces are written if and only if each of them is. -/
theorem write?_eq_some_iff {text : List κ} {pieces : List (Piece κ)} :
    chars.write? text = some pieces ↔ textOf pieces = text ∧ ∀ p ∈ pieces, chars.Canonical p := by
  induction text generalizing pieces with
  | nil =>
    constructor
    · intro h
      obtain rfl := Option.some.inj h
      exact ⟨rfl, fun p hp => absurd hp List.not_mem_nil⟩
    · rintro ⟨htext, -⟩
      rw [List.map_eq_nil_iff.mp htext]
      rfl
  | cons c text ih =>
    rw [write?]
    constructor
    · intro h
      split at h
      next piece rest hcode hrest =>
        obtain rfl := Option.some.inj h
        obtain ⟨htext, hcanonical⟩ := ih.mp hrest
        refine ⟨?_, List.forall_mem_cons.mpr ⟨hcode, hcanonical⟩⟩
        rw [← htext]
        rfl
      next => cases h
    · rintro ⟨htext, hcanonical⟩
      cases pieces with
      | nil => cases htext
      | cons p pieces =>
        obtain ⟨hp, hpieces⟩ := List.forall_mem_cons.mp hcanonical
        obtain ⟨rfl, hrest⟩ := List.cons.inj htext
        rw [hp, ih.mpr ⟨hrest, hpieces⟩]

/-- A text can be written if and only if each of its characters can. -/
theorem isSome_write?_iff {text : List κ} :
    (chars.write? text).isSome = true ↔ ∀ c ∈ text, (chars.code c).isSome = true := by
  induction text with
  | nil => exact ⟨fun _ c hc => absurd hc List.not_mem_nil, fun _ => rfl⟩
  | cons c text ih =>
    rw [List.forall_mem_cons, ← ih, write?]
    cases chars.code c <;> cases chars.write? text <;> simp

/-- A text is written in one way. -/
theorem eq_of_canonical {P Q : List (Piece κ)} (hP : ∀ p ∈ P, chars.Canonical p)
    (hQ : ∀ q ∈ Q, chars.Canonical q) (htext : textOf P = textOf Q) : P = Q := by
  have hwrite := write?_eq_some_iff.mpr ⟨htext, hP⟩
  rw [write?_eq_some_iff.mpr ⟨rfl, hQ⟩] at hwrite
  exact (Option.some.inj hwrite).symm

end CharCode

/-- A codec of files. -/
structure TextCodec (κ : Type) where
  /-- How a file can be laid out. -/
  Form : Type
  /-- What is at the front of a file. -/
  mark : Form → List UInt8
  chars : Form → CharCode κ
  /-- The form of a file, as the codec finds it. -/
  form : List UInt8 → Form
  /-- The form of the files that the codec writes. -/
  written : Form
  mark_form : ∀ bytes, mark (form bytes) <+: bytes
  /-- What can be written does not depend on the form. -/
  isSome_code : ∀ v c, ((chars v).code c).isSome = ((chars written).code c).isSome
  /-- A text has other bytes in another form. -/
  distinct : ∀ {v}, v ≠ written → ∀ P Q : List (Piece κ), (∀ p ∈ P, (chars v).IsPiece p) →
    (∀ q ∈ Q, (chars written).IsPiece q) → textOf P = textOf Q →
      mark v ++ bytesOf P ≠ mark written ++ bytesOf Q

namespace TextCodec

variable {κ : Type} (codec : TextCodec κ)

/-- The form of a file and its pieces. -/
def decode (file : List UInt8) : Option (codec.Form × List (Piece κ)) :=
  ((codec.chars (codec.form file)).read (file.drop (codec.mark (codec.form file)).length)).map
    (codec.form file, ·)

/-- The file of a text. -/
def encode (text : List κ) : Option (List UInt8) :=
  ((codec.chars codec.written).write? text).map fun pieces =>
    codec.mark codec.written ++ bytesOf pieces

/-- A codec of one form that has no mark. -/
def bare (chars : CharCode κ) : TextCodec κ where
  Form := Unit
  mark _ := []
  chars _ := chars
  form _ := ()
  written := ()
  mark_form _ := List.nil_prefix
  isSome_code _ _ := rfl
  distinct hv := absurd rfl hv

variable {codec}

/-- What is decoded makes up the file. -/
theorem of_decode {file : List UInt8} {v : codec.Form} {pieces : List (Piece κ)}
    (h : codec.decode file = some (v, pieces)) :
    file = codec.mark v ++ bytesOf pieces ∧ ∀ p ∈ pieces, (codec.chars v).IsPiece p := by
  obtain ⟨read, hread, heq⟩ := Option.map_eq_some_iff.mp h
  obtain ⟨rfl, rfl⟩ := Prod.mk.inj heq
  obtain ⟨hbytes, hall⟩ := CharCode.of_read hread
  refine ⟨?_, hall⟩
  rw [hbytes]
  exact (List.prefix_iff_eq_append.mp (codec.mark_form file)).symm

/-- Two layouts of one text are the same if they have the same bytes and one of them is written. -/
theorem eq_of_bytes_eq {v : codec.Form} {P Q : List (Piece κ)}
    (hP : ∀ p ∈ P, (codec.chars v).IsPiece p)
    (hQ : ∀ q ∈ Q, (codec.chars codec.written).Canonical q) (htext : textOf P = textOf Q)
    (h : codec.mark v ++ bytesOf P = codec.mark codec.written ++ bytesOf Q) :
    v = codec.written ∧ P = Q := by
  have hQ' : ∀ q ∈ Q, (codec.chars codec.written).IsPiece q := fun q hq => (hQ q hq).isPiece
  by_cases hv : v = codec.written
  · subst hv
    exact ⟨rfl, CharCode.pieces_unique hP hQ' (List.append_cancel_left h)⟩
  · exact absurd h (codec.distinct hv P Q hP hQ' htext)

end TextCodec
