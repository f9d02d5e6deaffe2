import Mathlib.Algebra.Order.Floor.Div
import Mathlib.Data.Nat.SuccPred
import Mathlib.Data.Set.Lattice
import Mathlib.Data.Set.Pairwise.Basic
import Mathlib.GroupTheory.GroupAction.Ring
import Mathlib.Order.CompletePartialOrder
import Mathlib.Order.SuccPred.IntervalSucc

/-!
# Blocks of equal size

The first numbers are cut into blocks of equal size, the last of which may be shorter. How many
blocks there are, and how many pieces when a block is cut again.
-/

namespace SdrUdp.Core

/-! ### Counting blocks -/

/-- Rounding up twice is rounding up once. -/
lemma ceilDiv_ceilDiv {α : Type*} [CommSemiring α] [PartialOrder α] [IsStrictOrderedRing α]
    [CeilDiv α α] {a b : α} (ha : 0 < a) (hb : 0 < b) (n : α) : n ⌈/⌉ a ⌈/⌉ b = n ⌈/⌉ (a * b) := by
  refine eq_of_forall_ge_iff fun c => ?_
  rw [ceilDiv_le_iff_le_mul hb, ceilDiv_le_iff_le_mul ha, ceilDiv_le_iff_le_mul (mul_pos ha hb),
    mul_assoc]

lemma lt_ceilDiv_iff_mul_lt {size : ℕ} (hsize : 0 < size) (n c : ℕ) :
    c < n ⌈/⌉ size ↔ c * size < n := by
  rw [← not_le, ceilDiv_le_iff_le_mul hsize, not_le, Nat.mul_comm]

/-- Rounding up adds one exactly where there is a remainder. -/
lemma ceilDiv_eq_div_add {m : ℕ} (hm : 0 < m) (n : ℕ) :
    n ⌈/⌉ m = n / m + if m ∣ n then 0 else 1 := by
  refine eq_of_forall_lt_iff fun k => ?_
  rw [lt_ceilDiv_iff_mul_lt hm]
  split_ifs with hdvd
  · rw [Nat.add_zero, Nat.lt_div_iff_mul_lt' hdvd, Nat.mul_comm]
  · rw [Nat.lt_succ_iff, Nat.le_div_iff_mul_le hm]
    refine ⟨le_of_lt, fun hle => hle.lt_of_ne ?_⟩
    rintro rfl
    exact hdvd (Nat.dvd_mul_left m k)

/-- Number of pieces of size `m` in a block of `size` such pieces. -/
lemma ceilDiv_min_sub {m : ℕ} (hm : 0 < m) (size n c : ℕ) :
    min (size * m) (n - c * size * m) ⌈/⌉ m = min size (n ⌈/⌉ m - c * size) := by
  refine eq_of_forall_lt_iff fun k => ?_
  have hn := lt_ceilDiv_iff_mul_lt hm n (c * size + k)
  have hk : k * m < size * m ↔ k < size := Nat.mul_lt_mul_right hm
  rw [lt_ceilDiv_iff_mul_lt hm, lt_min_iff, lt_min_iff, hk, lt_tsub_iff_left, lt_tsub_iff_left, hn,
    Nat.add_mul]

/-! ### Blocks -/

/-- The first number of block `c` when the numbers below `n` are cut into blocks; behind the last
block it is `n`. -/
def blockStart (size n c : ℕ) : ℕ := min (c * size) n

def block (size n c : ℕ) : Set ℕ := Set.Ico (blockStart size n c) (blockStart size n (c + 1))

variable {size n c : ℕ}

lemma blockStart_mono (size n : ℕ) : Monotone (blockStart size n) := fun _ _ h =>
  min_le_min_right n (Nat.mul_le_mul_right size h)

lemma blockStart_of_lt (hc : c * size < n) : blockStart size n c = c * size := min_eq_left hc.le

lemma blockStart_succ (hc : c * size < n) :
    blockStart size n (c + 1) = c * size + min size (n - c * size) := by
  rw [blockStart, Nat.succ_mul]
  omega

lemma pairwiseDisjoint_block (size n : ℕ) (s : Set ℕ) : s.PairwiseDisjoint (block size n) :=
  (blockStart_mono size n).pairwise_disjoint_on_Ico_succ.set_pairwise s

/-- The blocks together are all numbers below `n`. -/
lemma iUnion_block (hsize : 0 < size) (n : ℕ) :
    ⋃ c < n ⌈/⌉ size, block size n c = Set.Iio n := by
  ext i
  simp only [Set.mem_iUnion, exists_prop, block, Set.mem_Ico, Set.mem_Iio]
  constructor
  · rintro ⟨c, -, -, hi⟩
    exact hi.trans_le (min_le_right _ _)
  · intro hi
    have hdiv := Nat.div_mul_le_self i size
    refine ⟨i / size, (lt_ceilDiv_iff_mul_lt hsize _ _).mpr (hdiv.trans_lt hi), ?_, ?_⟩
    · exact (min_le_left _ _).trans hdiv
    · exact lt_min (Nat.mul_comm _ _ ▸ Nat.lt_mul_div_succ i hsize) hi

end SdrUdp.Core
