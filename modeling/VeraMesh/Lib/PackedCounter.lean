import Mathlib.Data.Nat.Bitwise
import Mathlib.Tactic.Ring
import Mathlib.Tactic.Linarith

/-!
# An epoch and a counter in one number

A counter of a fixed number of bits, below the bits of an epoch. As long as the counter fits, the
number determines both, the numbers of one epoch grow with the counter, and no number belongs to two
epochs.
-/

namespace PackedCounter

/-- The epoch above the `bits` bits of the counter. -/
def pack (bits epoch counter : ℕ) : ℕ := epoch <<< bits ||| counter

variable {bits epoch epoch' counter counter' : ℕ}

theorem pack_eq (h : counter < 2 ^ bits) : pack bits epoch counter = epoch * 2 ^ bits + counter := by
  -- the bits of the counter are free below the shifted epoch
  rw [pack, ← Nat.shiftLeft_add_eq_or_of_lt h, Nat.shiftLeft_eq]

theorem pack_div (h : counter < 2 ^ bits) : pack bits epoch counter / 2 ^ bits = epoch := by
  rw [pack_eq h, Nat.add_comm, Nat.add_mul_div_right _ _ (Nat.two_pow_pos bits),
    Nat.div_eq_of_lt h, Nat.zero_add]

/-- The numbers of one epoch grow with the counter. -/
theorem pack_lt_pack (h : counter < counter') (h' : counter' < 2 ^ bits) :
    pack bits epoch counter < pack bits epoch counter' := by
  rw [pack_eq (h.trans h'), pack_eq h']
  omega

/-- No number belongs to two epochs. -/
theorem epoch_eq_of_pack_eq (h : counter < 2 ^ bits) (h' : counter' < 2 ^ bits)
    (heq : pack bits epoch counter = pack bits epoch' counter') : epoch = epoch' := by
  calc
    epoch = pack bits epoch counter / 2 ^ bits := (pack_div h).symm
    _ = pack bits epoch' counter' / 2 ^ bits := by rw [heq]
    _ = epoch' := pack_div h'

/-- The width of the number is that of the epoch and that of the counter. -/
theorem pack_lt {width : ℕ} (h : counter < 2 ^ bits) (hepoch : epoch < 2 ^ width) :
    pack bits epoch counter < 2 ^ (width + bits) := by
  rw [pack_eq h]
  calc
    epoch * 2 ^ bits + counter < epoch * 2 ^ bits + 2 ^ bits := by omega
    _ = (epoch + 1) * 2 ^ bits := by ring
    _ ≤ 2 ^ width * 2 ^ bits := Nat.mul_le_mul_right _ hepoch
    _ = 2 ^ (width + bits) := (pow_add 2 width bits).symm

theorem le_pack : counter ≤ pack bits epoch counter := Nat.right_le_or

end PackedCounter
