import Mathlib.Tactic.Linarith
import VeraMesh.Python.Float

/-!
# The range of Python floats

Which exact sums round to a finite float: those below the threshold `2 ^ 1024 - 2 ^ 970`, halfway
between the largest binary64 number and the next power of two.
-/

namespace VeraMesh.Python.PyFloat

/-- A sum from here on rounds to infinity. -/
def overflowThreshold : ℚ := 2 ^ 1024 - 2 ^ 970

theorem finite_lt_iff {x y : ℚ} : (finite x).lt (finite y) = true ↔ x < y := by
  rw [lt, Bool.and_eq_true, Bool.not_eq_true']
  show decide (x ≤ y) = true ∧ decide (y ≤ x) = false ↔ x < y
  rw [decide_eq_true_iff, decide_eq_false_iff_not, not_le]
  exact and_iff_right_of_imp le_of_lt

/-- Numbers are compared in one direction or the other. -/
theorem le_of_not_lt {x y : PyFloat} (hx : x ≠ nan) (hy : y ≠ nan) (h : x.lt y ≠ true) :
    y.le x = true := by
  rcases le_total hx hy with hle | hle
  · rw [lt, hle, Bool.true_and] at h
    simpa using h
  · exact hle

theorem ofRat_ne_nan (q : ℚ) : ofRat q ≠ nan := by
  unfold ofRat
  dsimp only
  split_ifs <;> exact nofun

section Round

variable {q : ℚ} {m : ℤ}

theorem roundHalfEven_le (q : ℚ) : (roundHalfEven q : ℚ) ≤ q + 1 / 2 := by
  have hfloor := Int.floor_le q
  unfold roundHalfEven
  dsimp only
  split_ifs
  · linarith
  · push_cast
    linarith
  · linarith
  · push_cast
    linarith

theorem le_roundHalfEven_add (q : ℚ) : q - 1 / 2 ≤ roundHalfEven q := by
  have hfloor := Int.lt_floor_add_one q
  unfold roundHalfEven
  dsimp only
  split_ifs
  · linarith
  · push_cast
    linarith
  · linarith
  · push_cast
    linarith

/-- A number that is at most halfway below an even integer is rounded to it or beyond. -/
theorem le_roundHalfEven_of_even (heven : m % 2 = 0) (h : (m : ℚ) - 1 / 2 ≤ q) :
    m ≤ roundHalfEven q := by
  have hlow : m - 1 ≤ ⌊q⌋ := by
    apply Int.le_floor.mpr
    push_cast
    linarith
  by_cases hle : m ≤ ⌊q⌋
  · unfold roundHalfEven
    dsimp only
    split_ifs <;> omega
  · -- the floor is the odd integer below, and the fraction at least one half
    have hfloor : ⌊q⌋ = m - 1 := by omega
    have hcast : ((⌊q⌋ : ℤ) : ℚ) = m - 1 := by
      rw [hfloor]
      push_cast
      rfl
    unfold roundHalfEven
    dsimp only
    split_ifs with hlt hgt hodd
    · rw [hcast] at hlt
      linarith
    · omega
    · omega
    · omega

end Round

section Range

variable {x : ℚ}

/-- Half of the last place of the largest numbers. -/
def halfPlace : ℚ := 2 ^ 970

theorem halfPlace_pos : 0 < halfPlace := pow_pos two_pos 970

theorem two_pow_971 : (2 : ℚ) ^ 971 = 2 * halfPlace := pow_succ' 2 970

theorem two_pow_1023 : (2 : ℚ) ^ 1023 = 9007199254740992 * halfPlace := by
  have hpow : (2 : ℚ) ^ 53 = 9007199254740992 := by norm_num
  rw [← hpow]
  exact pow_add 2 53 970

theorem two_pow_1024 : (2 : ℚ) ^ 1024 = 18014398509481984 * halfPlace := by
  have hpow : (2 : ℚ) ^ 54 = 18014398509481984 := by norm_num
  rw [← hpow]
  exact pow_add 2 54 970

theorem overflowThreshold_eq : overflowThreshold = 18014398509481983 * halfPlace := by
  have hthreshold : overflowThreshold = 2 ^ 1024 - halfPlace := rfl
  rw [hthreshold, two_pow_1024]
  ring

/-- The exponent of the last place, for numbers below `2 ^ 1024`. -/
theorem lastPlace_le (h : |x| < 2 ^ 1024) : max (Int.log 2 |x| - 52) (-1074) ≤ 971 := by
  have hlog : Int.log 2 |x| ≤ 1023 := by
    rcases (abs_nonneg x).eq_or_lt with hzero | hpos
    · rw [← hzero, Int.log_zero_right]
      decide
    · have hpow : |x| < ((2 : ℕ) : ℚ) ^ (1024 : ℤ) := by
        rw [zpow_ofNat]
        exact h
      have hlt := (Int.lt_zpow_iff_log_lt (by decide) hpos).mp hpow
      omega
  omega

/-- Below the threshold sums stay finite. -/
theorem ofRat_of_lt (hlow : -2 ^ 1023 ≤ x) (hhigh : x < overflowThreshold) :
    ∃ r, ofRat x = finite r := by
  have hhalf := halfPlace_pos
  rw [two_pow_1023] at hlow
  rw [overflowThreshold_eq] at hhigh
  have habs : |x| < 2 ^ 1024 := by
    rw [two_pow_1024, abs_lt]
    constructor <;> linarith
  have hplace := lastPlace_le habs
  unfold ofRat
  dsimp only
  generalize max (Int.log 2 |x| - 52) (-1074) = e at hplace
  have hpos : (0 : ℚ) < 2 ^ e := zpow_pos two_pos e
  have hunit : (2 : ℚ) ^ e ≤ 2 * halfPlace := by
    rw [← two_pow_971, ← zpow_ofNat]
    exact zpow_le_zpow_right₀ one_le_two hplace
  have hexact : x / 2 ^ e * 2 ^ e = x := div_mul_cancel₀ x hpos.ne'
  -- rounding moves the sum by half of the last place at most
  have hup : (roundHalfEven (x / 2 ^ e) : ℚ) * 2 ^ e ≤ x + 2 ^ e / 2 := by
    have hround := mul_le_mul_of_nonneg_right (roundHalfEven_le (x / 2 ^ e)) hpos.le
    linarith
  have hdown : x - 2 ^ e / 2 ≤ (roundHalfEven (x / 2 ^ e) : ℚ) * 2 ^ e := by
    have hround := mul_le_mul_of_nonneg_right (le_roundHalfEven_add (x / 2 ^ e)) hpos.le
    linarith
  rw [two_pow_1024, if_neg, if_neg]
  · exact ⟨_, rfl⟩
  · intro hle
    linarith
  · intro hle
    linarith

/-- A number below `2 ^ (k + 1)` is rounded by half of the last place there at most. -/
theorem ofRat_near {k : ℤ} (hk : 0 ≤ k) (hk' : k ≤ 1022) (h : |x| < 2 ^ (k + 1)) :
    ∃ r, ofRat x = finite r ∧ |r - x| ≤ 2 ^ (k - 53) := by
  have hlog : Int.log 2 |x| ≤ k := by
    rcases (abs_nonneg x).eq_or_lt with hzero | hpos
    · rwa [← hzero, Int.log_zero_right]
    · have hlt := (Int.lt_zpow_iff_log_lt (by decide) hpos).mp
        (show |x| < ((2 : ℕ) : ℚ) ^ (k + 1) from h)
      omega
  have hplace : max (Int.log 2 |x| - 52) (-1074) ≤ k - 52 := by omega
  unfold ofRat
  dsimp only
  generalize max (Int.log 2 |x| - 52) (-1074) = e at hplace
  have hpos : (0 : ℚ) < 2 ^ e := zpow_pos two_pos e
  have hexact : x / 2 ^ e * 2 ^ e = x := div_mul_cancel₀ x hpos.ne'
  have hhalf : (2 : ℚ) ^ e / 2 ≤ 2 ^ (k - 53) := by
    have hunit : (2 : ℚ) ^ e ≤ 2 ^ (k - 52) := zpow_le_zpow_right₀ one_le_two hplace
    have hsplit : (2 : ℚ) ^ (k - 52) = 2 ^ (k - 53) * 2 := by
      rw [← zpow_add_one₀ two_ne_zero]
      ring_nf
    linarith
  have hup := mul_le_mul_of_nonneg_right (roundHalfEven_le (x / 2 ^ e)) hpos.le
  have hdown := mul_le_mul_of_nonneg_right (le_roundHalfEven_add (x / 2 ^ e)) hpos.le
  have herror : |(roundHalfEven (x / 2 ^ e) : ℚ) * 2 ^ e - x| ≤ 2 ^ (k - 53) := by
    rw [abs_le]
    constructor <;> linarith
  -- the result is far from the largest numbers
  have hlarge : (2 : ℚ) ^ (k + 1) + 2 ^ (k - 53) < 2 ^ 1024 := by
    have hk₀ : (0 : ℚ) < 2 ^ k := zpow_pos two_pos k
    have hdouble : (2 : ℚ) ^ (k + 1) = 2 ^ k * 2 := zpow_add_one₀ two_ne_zero k
    have hsmall : (2 : ℚ) ^ (k - 53) ≤ 2 ^ k := zpow_le_zpow_right₀ one_le_two (by omega)
    have hroom : (2 : ℚ) ^ (k + 2) ≤ 2 ^ (1024 : ℤ) := zpow_le_zpow_right₀ one_le_two (by omega)
    rw [zpow_add₀ two_ne_zero, zpow_ofNat, zpow_ofNat] at hroom
    generalize (2 : ℚ) ^ 1024 = bound at hroom ⊢
    linarith
  have habs := abs_le.mp herror
  have hx := abs_lt.mp h
  generalize (2 : ℚ) ^ 1024 = bound at hlarge ⊢
  rw [if_neg, if_neg]
  · exact ⟨_, rfl, herror⟩
  · intro hle
    linarith
  · intro hle
    linarith

/-- From the threshold on they do not. -/
theorem ofRat_of_le (h : overflowThreshold ≤ x) : ofRat x = posInf := by
  have hhalf := halfPlace_pos
  rw [overflowThreshold_eq] at h
  have hx : 0 < x := by linarith
  have hlog : 1023 ≤ Int.log 2 |x| := by
    rw [abs_of_pos hx, ← Int.zpow_le_iff_le_log (by decide) hx, zpow_ofNat]
    show (2 : ℚ) ^ 1023 ≤ x
    rw [two_pow_1023]
    linarith
  have hbelow : (2 : ℚ) ^ Int.log 2 |x| ≤ x := by
    have hself := Int.zpow_log_le_self (b := 2) (by decide) hx
    rw [abs_of_pos hx]
    exact hself
  have hplace : max (Int.log 2 |x| - 52) (-1074) = Int.log 2 |x| - 52 := by omega
  unfold ofRat
  dsimp only
  rw [hplace]
  obtain ⟨e, he⟩ : ∃ e, Int.log 2 |x| = e + 52 := ⟨Int.log 2 |x| - 52, by omega⟩
  rw [he] at hlog hbelow ⊢
  rw [add_sub_cancel_right]
  obtain ⟨v, hv⟩ : ∃ v, (2 : ℚ) ^ e = v := ⟨_, rfl⟩
  have hpos : 0 < v := hv ▸ zpow_pos two_pos e
  have hpow : (2 : ℚ) ^ 52 = 4503599627370496 := by norm_num
  rw [zpow_add₀ two_ne_zero, zpow_ofNat, hv, hpow] at hbelow
  rw [hv, two_pow_1024, if_pos]
  by_cases hlast : e = 971
  · -- halfway below the next power of two, which is even in the last place
    rw [hlast, zpow_ofNat, two_pow_971] at hv
    have hround : (2 ^ 53 : ℤ) ≤ roundHalfEven (x / v) := by
      apply le_roundHalfEven_of_even (by decide)
      rw [le_div_iff₀ hpos]
      push_cast
      linarith
    have hmul := mul_le_mul_of_nonneg_right (Int.cast_le (R := ℚ) |>.mpr hround) hpos.le
    push_cast at hmul
    linarith
  · have hround : (2 ^ 52 : ℤ) ≤ roundHalfEven (x / v) := by
      apply le_roundHalfEven_of_even (by decide)
      rw [le_div_iff₀ hpos]
      push_cast
      linarith
    have hmul := mul_le_mul_of_nonneg_right (Int.cast_le (R := ℚ) |>.mpr hround) hpos.le
    have hunit : (2 : ℚ) ^ (972 : ℤ) ≤ v := by
      rw [← hv]
      exact zpow_le_zpow_right₀ one_le_two (by omega)
    have hunits : (2 : ℚ) ^ 972 = 2 * 2 ^ 971 := pow_succ' 2 971
    rw [zpow_ofNat, hunits, two_pow_971] at hunit
    push_cast at hmul
    linarith

end Range

end VeraMesh.Python.PyFloat
