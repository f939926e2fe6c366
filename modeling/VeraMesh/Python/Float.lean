import Mathlib.Data.Int.Log
import Mathlib.Data.Rat.Floor
import Mathlib.Algebra.Order.Ring.Rat

/-!
# Python floats

The values of Python's `float`: IEEE 754 binary64 with its two infinities and its not-a-number. A
finite float is given by its exact rational value, so `-0.0` and `0.0` are one value, as they are
for every comparison. Sums are exact sums rounded to the nearest binary64 number, ties to even.
-/

namespace VeraMesh.Python

/-- A Python float. -/
inductive PyFloat where
  | nan
  | negInf
  | finite (q : ℚ)
  | posInf
  deriving DecidableEq

namespace PyFloat

/-- The integer nearest to `q`, ties to the even one. -/
def roundHalfEven (q : ℚ) : ℤ :=
  let n := ⌊q⌋
  let d := q - n
  if d < 1 / 2 then n
  else if 1 / 2 < d then n + 1
  else if n % 2 = 0 then n
  else n + 1

/-- The binary64 number nearest to `q`, an infinity if `q` is out of range. The last place of a
number in `[2 ^ e, 2 ^ (e + 1))` is `2 ^ (e - 52)`, and that of a subnormal `2 ^ -1074`. -/
def ofRat (q : ℚ) : PyFloat :=
  let e : ℤ := max (Int.log 2 |q| - 52) (-1074)
  let r : ℚ := roundHalfEven (q / 2 ^ e) * 2 ^ e
  if 2 ^ 1024 ≤ r then posInf
  else if r ≤ -2 ^ 1024 then negInf
  else finite r

/-- `x <= y`. Comparisons with `nan` are false. -/
def le : PyFloat → PyFloat → Bool
  | nan, _ => false
  | _, nan => false
  | negInf, _ => true
  | _, posInf => true
  | finite x, finite y => decide (x ≤ y)
  | finite _, negInf => false
  | posInf, negInf => false
  | posInf, finite _ => false

theorem le_trans {x y z : PyFloat} (h₁ : x.le y = true) (h₂ : y.le z = true) :
    x.le z = true := by
  cases x <;> cases y <;> cases z <;> simp_all [le]
  exact h₁.trans h₂

/-- `x < y`. -/
def lt (x y : PyFloat) : Bool := x.le y && !y.le x

/-- `x == y`. No `nan` equals anything. -/
def eq (x y : PyFloat) : Bool := x.le y && y.le x

theorem eq_comm (x y : PyFloat) : x.eq y = y.eq x := Bool.and_comm ..

theorem eq_trans {x y z : PyFloat} (h₁ : x.eq y = true) (h₂ : y.eq z = true) :
    x.eq z = true := by
  simp only [eq, Bool.and_eq_true] at *
  exact ⟨le_trans h₁.1 h₂.1, le_trans h₂.2 h₁.2⟩

theorem lt_of_lt_of_le {x y z : PyFloat} (h₁ : x.lt y = true) (h₂ : y.le z = true) :
    x.lt z = true := by
  simp only [lt, Bool.and_eq_true, Bool.not_eq_true'] at *
  refine ⟨le_trans h₁.1 h₂, Bool.eq_false_iff.mpr fun hzx => ?_⟩
  exact Bool.eq_false_iff.mp h₁.2 (le_trans h₂ hzx)

theorem lt_of_le_of_lt {x y z : PyFloat} (h₁ : x.le y = true) (h₂ : y.lt z = true) :
    x.lt z = true := by
  simp only [lt, Bool.and_eq_true, Bool.not_eq_true'] at *
  refine ⟨le_trans h₁ h₂.1, Bool.eq_false_iff.mpr fun hzx => ?_⟩
  exact Bool.eq_false_iff.mp h₂.2 (le_trans hzx h₁)

theorem eq_false_of_lt {x y : PyFloat} (h : x.lt y = true) : x.eq y = false := by
  simp only [lt, Bool.and_eq_true, Bool.not_eq_true'] at h
  rw [eq, h.2, Bool.and_false]

/-- Two numbers are comparable. -/
theorem le_total {x y : PyFloat} (hx : x ≠ nan) (hy : y ≠ nan) :
    x.le y = true ∨ y.le x = true := by
  cases x <;> cases y <;> simp_all [le]
  exact Std.le_total

/-- `x + y`. -/
def add : PyFloat → PyFloat → PyFloat
  | nan, _ => nan
  | _, nan => nan
  | negInf, posInf => nan
  | posInf, negInf => nan
  | negInf, _ => negInf
  | _, negInf => negInf
  | posInf, _ => posInf
  | _, posInf => posInf
  | finite x, finite y => ofRat (x + y)

/-- `x * q` for a finite factor `q` above 0. -/
def scale (x : PyFloat) (q : ℚ) : PyFloat :=
  match x with
  | finite x => ofRat (x * q)
  | x => x

/-- `x` rounded towards zero. -/
def trunc (q : ℚ) : ℤ := if 0 ≤ q then ⌊q⌋ else ⌈q⌉

instance {n : ℕ} : OfNat PyFloat n := ⟨finite n⟩

instance : Add PyFloat := ⟨add⟩

end PyFloat

end VeraMesh.Python
