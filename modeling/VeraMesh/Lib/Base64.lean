import Mathlib.Data.List.Basic

/-!
# Base64

The encoding of bytes by letters, digits, `+` and `/`, three bytes by four characters, with `=` in
place of what is missing at the end. What was encoded can be decoded (`b64decode?_b64encode`).
-/

/-- The characters, by the numbers below 64. -/
def b64Alphabet : List Char :=
  "ABCDEFGHIJKLMNOPQRSTUVWXYZabcdefghijklmnopqrstuvwxyz0123456789+/".toList

/-- The character of a number. -/
def b64Char (n : ℕ) : Char := b64Alphabet.getD n '='

/-- The number of a character, `none` if it is not in the alphabet. -/
def b64Digit? (c : Char) : Option ℕ :=
  if c ∈ b64Alphabet then some (b64Alphabet.idxOf c) else none

theorem b64Digit?_b64Char {n : ℕ} (h : n < 64) : b64Digit? (b64Char n) = some n := by
  revert n
  decide +kernel

theorem b64Char_ne_pad {n : ℕ} (h : n < 64) : b64Char n ≠ '=' := by
  revert n
  decide +kernel

/-- The byte that is put together from two numbers. -/
def b64Byte (n : ℕ) : UInt8 := UInt8.ofNat n

/-- A byte is put together from its parts. -/
theorem b64Byte_eq {a : UInt8} {n : ℕ} (h : n = a.toNat) : b64Byte n = a := by
  rw [b64Byte, h, UInt8.ofNat_toNat]

/-- `base64.b64encode`. -/
def b64encode : List UInt8 → List Char
  | [] => []
  | [a] => [b64Char (a.toNat / 4), b64Char (a.toNat % 4 * 16), '=', '=']
  | [a, b] =>
    [b64Char (a.toNat / 4), b64Char (a.toNat % 4 * 16 + b.toNat / 16),
      b64Char (b.toNat % 16 * 4), '=']
  | a :: b :: c :: bytes =>
    b64Char (a.toNat / 4) :: b64Char (a.toNat % 4 * 16 + b.toNat / 16) ::
      b64Char (b.toNat % 16 * 4 + c.toNat / 64) :: b64Char (c.toNat % 64) :: b64encode bytes

/-- The bytes that a text encodes, `none` if it encodes none. -/
def b64decode? : List Char → Option (List UInt8)
  | [] => some []
  | w :: x :: y :: z :: rest => do
    let p ← b64Digit? w
    let q ← b64Digit? x
    let first := b64Byte (p * 4 + q / 16)
    if y = '=' then
      if z = '=' ∧ rest = [] then return [first] else none
    else
      let r ← b64Digit? y
      let second := b64Byte (q % 16 * 16 + r / 4)
      if z = '=' then
        if rest = [] then return [first, second] else none
      else
        let s ← b64Digit? z
        let bytes ← b64decode? rest
        return first :: second :: b64Byte (r % 4 * 64 + s) :: bytes
  | _ => none

section Digits

variable {w x y z : Char} {p q r s : ℕ} {rest bytes : List UInt8}

theorem b64decode?_one (hp : b64Digit? w = some p) (hq : b64Digit? x = some q) :
    b64decode? [w, x, '=', '='] = some [b64Byte (p * 4 + q / 16)] := by
  simp [b64decode?, hp, hq]

theorem b64decode?_two (hp : b64Digit? w = some p) (hq : b64Digit? x = some q) (hy : y ≠ '=')
    (hr : b64Digit? y = some r) :
    b64decode? [w, x, y, '='] =
      some [b64Byte (p * 4 + q / 16), b64Byte (q % 16 * 16 + r / 4)] := by
  simp [b64decode?, hp, hq, hr, hy]

theorem b64decode?_three (hp : b64Digit? w = some p) (hq : b64Digit? x = some q) (hy : y ≠ '=')
    (hr : b64Digit? y = some r) (hz : z ≠ '=') (hs : b64Digit? z = some s) {text : List Char}
    (hrest : b64decode? text = some bytes) :
    b64decode? (w :: x :: y :: z :: text) = some (b64Byte (p * 4 + q / 16) ::
      b64Byte (q % 16 * 16 + r / 4) :: b64Byte (r % 4 * 64 + s) :: bytes) := by
  simp [b64decode?, hp, hq, hr, hs, hy, hz, hrest]

end Digits

/-- What was encoded can be decoded. -/
theorem b64decode?_b64encode (bytes : List UInt8) : b64decode? (b64encode bytes) = some bytes := by
  have hlt : ∀ a : UInt8, a.toNat < 256 := fun a => a.toNat_lt
  have hdigit : ∀ {n : ℕ}, n < 64 → b64Digit? (b64Char n) = some n := b64Digit?_b64Char
  fun_induction b64encode bytes with
  | case1 => rfl
  | case2 a =>
    have ha := hlt a
    rw [b64decode?_one (hdigit (by omega)) (hdigit (by omega)), b64Byte_eq]
    omega
  | case3 a b =>
    have ha := hlt a
    have hb := hlt b
    have hthird : b.toNat % 16 * 4 < 64 := by omega
    rw [b64decode?_two (hdigit (by omega)) (hdigit (by omega)) (b64Char_ne_pad hthird)
      (hdigit hthird), b64Byte_eq, b64Byte_eq]
    · omega
    · omega
  | case4 a b c bytes ih =>
    have ha := hlt a
    have hb := hlt b
    have hc := hlt c
    have hthird : b.toNat % 16 * 4 + c.toNat / 64 < 64 := by omega
    have hfourth : c.toNat % 64 < 64 := by omega
    rw [b64decode?_three (hdigit (by omega)) (hdigit (by omega)) (b64Char_ne_pad hthird)
      (hdigit hthird) (b64Char_ne_pad hfourth) (hdigit hfourth) ih, b64Byte_eq, b64Byte_eq,
      b64Byte_eq]
    · omega
    · omega
    · omega
