import Mathlib.Tactic.Lemma
import Mathlib.Tactic.Common
import Mathlib.Logic.Function.Basic
import Mathlib.Data.Set.Insert

/-!
# Sets of indices stored in 64-bit words

`bits w` is the set of indices whose bit is set in the words `w`: index `i` is bit `i % 64` of word
`i / 64`. Masks of one bit and of a range of bits are built the way a C program builds them.
-/

namespace SdrUdp.Core

abbrev U8 := BitVec 8
abbrev U16 := BitVec 16
abbrev U32 := BitVec 32
abbrev U64 := BitVec 64

lemma ne_zero_of_toNat_pos {w : ℕ} {x : BitVec w} (h : 0 < x.toNat) : x ≠ 0 := by
  rintro rfl
  exact absurd h (by simp)

/-- `1 << bit`. -/
def bitMask (bit : ℕ) : U64 := 1#64 <<< bit

/-- The bits `start`, ..., `stop - 1`, set one after the other. -/
def rangeMask (start stop : ℕ) : U64 :=
  (List.range' start (stop - start)).foldl (fun mask bit => mask ||| bitMask bit) 0#64

lemma getLsbD_bitMask (bit i : ℕ) :
    (bitMask bit).getLsbD i = (decide (i < 64) && decide (i = bit)) := by
  rw [bitMask, BitVec.getLsbD_shiftLeft, BitVec.getLsbD_one]
  by_cases h : i = bit
  · subst h; simp
  · by_cases hlt : i < bit
    · simp [h, hlt]
    · have : i - bit ≠ 0 := by omega
      simp [h, this]

lemma getLsbD_foldl_bitMask (l : List ℕ) (mask : U64) (i : ℕ) :
    (l.foldl (fun mask bit => mask ||| bitMask bit) mask).getLsbD i
      = (mask.getLsbD i || (decide (i < 64) && decide (i ∈ l))) := by
  induction l generalizing mask with
  | nil => simp
  | cons bit l ih =>
    rw [List.foldl_cons, ih, BitVec.getLsbD_or, getLsbD_bitMask]
    simp only [List.mem_cons, Bool.or_assoc, ← Bool.and_or_distrib_left, Bool.decide_or]

lemma getLsbD_rangeMask (start stop i : ℕ) :
    (rangeMask start stop).getLsbD i
      = (decide (i < 64) && decide (start ≤ i ∧ i < stop)) := by
  have hmem : i ∈ List.range' start (stop - start) ↔ start ≤ i ∧ i < stop := by
    rw [List.mem_range'_1]; omega
  rw [rangeMask, getLsbD_foldl_bitMask]
  simp [hmem]

/-- Testing a word against a mask. -/
lemma and_eq_mask_iff (value mask : U64) :
    value &&& mask = mask ↔ ∀ i, mask.getLsbD i = true → value.getLsbD i = true := by
  constructor
  · intro h i hi
    rw [← h, BitVec.getLsbD_and] at hi
    exact (Bool.and_eq_true_iff.mp hi).1
  · intro h
    refine BitVec.eq_of_getLsbD_eq fun i hi => ?_
    rw [BitVec.getLsbD_and]
    cases hm : mask.getLsbD i with
    | false => simp
    | true => simp [h i hm]

lemma and_bitMask_ne_zero_iff (value : U64) {bit : ℕ} (hbit : bit < 64) :
    value &&& bitMask bit ≠ 0#64 ↔ value.getLsbD bit = true := by
  constructor
  · intro h
    by_contra hv
    refine h (BitVec.eq_of_getLsbD_eq fun i hi => ?_)
    rw [BitVec.getLsbD_and, getLsbD_bitMask, BitVec.getLsbD_zero]
    by_cases hib : i = bit
    · subst hib; simp_all
    · simp [hib]
  · intro hv h
    have hz : (value &&& bitMask bit).getLsbD bit = false := by rw [h, BitVec.getLsbD_zero]
    rw [BitVec.getLsbD_and, getLsbD_bitMask, hv] at hz
    simp [hbit] at hz

/-! ### Words as sets -/

/-- The indices whose bit is set. -/
def bits (w : ℕ → U64) : Set ℕ := {i | (w (i / 64)).getLsbD (i % 64) = true}

/-- Set the bit of index `i`. -/
def setBit (w : ℕ → U64) (i : ℕ) : ℕ → U64 :=
  Function.update w (i / 64) (w (i / 64) ||| bitMask (i % 64))

lemma mem_bits {w : ℕ → U64} {i : ℕ} :
    i ∈ bits w ↔ (w (i / 64)).getLsbD (i % 64) = true := Iff.rfl

@[simp] lemma bits_zero : bits (fun _ => 0#64) = ∅ := by
  ext i; simp [mem_bits]

@[simp] lemma bits_setBit (w : ℕ → U64) (i : ℕ) : bits (setBit w i) = insert i (bits w) := by
  ext j
  rw [mem_bits, Set.mem_insert_iff, mem_bits, setBit]
  by_cases hw : j / 64 = i / 64
  · have hji : j = i ↔ j % 64 = i % 64 := by omega
    have hlt : j % 64 < 64 := Nat.mod_lt _ (by decide)
    rw [hw, Function.update_self, BitVec.getLsbD_or, getLsbD_bitMask, hji]
    simp only [hlt, decide_true, Bool.true_and, Bool.or_eq_true, decide_eq_true_eq]
    exact or_comm
  · have hji : j ≠ i := fun h => hw (by rw [h])
    rw [Function.update_of_ne hw]
    simp [hji]

lemma and_bitMask_mod_ne_zero_iff (w : ℕ → U64) (i : ℕ) :
    w (i / 64) &&& bitMask (i % 64) ≠ 0#64 ↔ i ∈ bits w :=
  and_bitMask_ne_zero_iff _ (Nat.mod_lt _ (by decide))

/-- A masked word test is a statement about the indices the mask covers. -/
lemma and_rangeMask_eq_iff (w : ℕ → U64) (word start stop : ℕ) (hstop : stop ≤ 64) :
    w word &&& rangeMask start stop = rangeMask start stop ↔
      ∀ i, 64 * word + start ≤ i → i < 64 * word + stop → i ∈ bits w := by
  rw [and_eq_mask_iff]
  constructor
  · intro h i hlo hhi
    have hdiv : i / 64 = word := by omega
    have := h (i % 64) (by rw [getLsbD_rangeMask]; simp; omega)
    rwa [mem_bits, hdiv]
  · intro h i hi
    rw [getLsbD_rangeMask] at hi
    simp only [Bool.and_eq_true, decide_eq_true_eq] at hi
    have := h (64 * word + i) (by omega) (by omega)
    rwa [mem_bits, show (64 * word + i) / 64 = word by omega,
      show (64 * word + i) % 64 = i by omega] at this

/-! ### Words as bytes -/

/-- Byte `i` of the words as they lie in memory, the lowest byte of a word first. -/
def byteAt (w : ℕ → U64) (i : ℕ) : U8 := (w (i / 8) >>> (8 * (i % 8))).setWidth 8

/-- Index `i` is bit `i % 8` of byte `i / 8`. -/
lemma getLsbD_byteAt (w : ℕ → U64) (i : ℕ) :
    (byteAt w (i / 8)).getLsbD (i % 8) = true ↔ i ∈ bits w := by
  have hlt : i % 8 < 8 := Nat.mod_lt _ (by decide)
  have hword : i / 8 / 8 = i / 64 := Nat.div_div_eq_div_mul i 8 8
  have hbit : 8 * (i / 8 % 8) + i % 8 = i % 64 := by omega
  simp [byteAt, hlt, hword, hbit, mem_bits]

end SdrUdp.Core
