import SdrUdp.Core.WordBits
import Mathlib.Data.List.Basic
import Mathlib.Data.List.Iterate

/-!
# Bytes as elements of GF(2^8)

Addition is exclusive or, multiplication is carry-less multiplication modulo
`x^8 + x^4 + x^3 + x^2 + 1`.
-/

namespace SdrUdp.Core

/-- Multiplication by `x`. -/
def gfDouble (a : U8) : U8 := if a.msb then (a <<< 1) ^^^ 0x1d#8 else a <<< 1

/-- Multiplication, one bit of `b` after the other. -/
def gfMul (a b : U8) : U8 :=
  (List.range 8).foldr (fun i acc => if b.getLsbD i then gfDouble^[i] a ^^^ acc else acc) 0#8

def gfPow (a : U8) (n : ℕ) : U8 := (gfMul · a)^[n] 1#8

/-- The product of a row and a column of length `k`. -/
def gfDot (k : ℕ) (row col : ℕ → U8) : U8 :=
  (List.range k).foldr (fun i acc => gfMul (row i) (col i) ^^^ acc) 0#8

lemma gfDouble_iterate_zero (i : ℕ) : gfDouble^[i] 0#8 = 0#8 :=
  Function.iterate_fixed rfl i

lemma gfMul_zero_left (b : U8) : gfMul 0#8 b = 0#8 := by
  unfold gfMul
  induction List.range 8 with
  | nil => rfl
  | cons i l ih =>
    rw [List.foldr_cons, gfDouble_iterate_zero, ih]
    split_ifs <;> rfl

/-! ### The powers of x -/

lemma gfDouble_xor (a b : U8) : gfDouble (a ^^^ b) = gfDouble a ^^^ gfDouble b := by
  unfold gfDouble
  rw [BitVec.msb_xor, BitVec.shiftLeft_xor_distrib]
  cases a.msb <;> cases b.msb
  · rfl
  · exact BitVec.xor_assoc _ _ _
  · rw [Bool.true_xor, Bool.not_false, if_pos rfl, if_pos rfl, if_neg Bool.false_ne_true]
    ac_rfl
  · rw [Bool.true_xor, Bool.not_true, if_pos rfl, if_pos rfl, if_neg Bool.false_ne_true]
    have hcancel : a <<< 1 ^^^ 0x1d#8 ^^^ (b <<< 1 ^^^ 0x1d#8)
        = a <<< 1 ^^^ b <<< 1 ^^^ (0x1d#8 ^^^ 0x1d#8) := by ac_rfl
    rw [hcancel, BitVec.xor_self, BitVec.xor_zero]

lemma gfDouble_injective : Function.Injective gfDouble := by
  have hzero : ∀ a : U8, gfDouble a = 0#8 → a = 0#8 := by decide +kernel
  intro a b h
  have hxor : gfDouble (a ^^^ b) = 0#8 := by rw [gfDouble_xor, h, BitVec.xor_self]
  exact BitVec.xor_eq_zero_iff.mp (hzero _ hxor)

lemma gfMul_gfDouble (a b : U8) : gfMul (gfDouble a) b = gfDouble (gfMul a b) := by
  unfold gfMul
  induction List.range 8 with
  | nil => exact (show 0#8 = gfDouble 0#8 from rfl)
  | cons i l ih =>
    rw [List.foldr_cons, List.foldr_cons, ih]
    split_ifs
    · rw [gfDouble_xor, ← Function.iterate_succ_apply, Function.iterate_succ_apply']
    · rfl

lemma gfMul_one_left (b : U8) : gfMul 1#8 b = b := by
  revert b
  decide +kernel

lemma mem_of_getLsbD_foldl {l : List U8} {mask : BitVec 256} {a : U8}
    (h : (l.foldl (fun mask b => mask ||| 1#256 <<< b.toNat) mask).getLsbD a.toNat = true) :
    mask.getLsbD a.toNat = true ∨ a ∈ l := by
  induction l generalizing mask with
  | nil => exact Or.inl h
  | cons b l ih =>
    rcases ih h with hmask | hmem
    · rw [BitVec.getLsbD_or, Bool.or_eq_true] at hmask
      refine hmask.imp_right fun hbit => ?_
      rw [BitVec.getLsbD_shiftLeft, BitVec.getLsbD_one] at hbit
      simp only [Bool.and_eq_true, decide_eq_true_eq, Bool.not_eq_true', decide_eq_false_iff_not]
        at hbit
      have heq : a = b := BitVec.eq_of_toNat_eq (by omega)
      exact heq ▸ List.mem_cons_self
    · exact Or.inr (List.mem_cons_of_mem b hmem)

/-- Every element but zero is a power of `x`. -/
lemma exists_gfDouble_iterate {a : U8} (ha : a ≠ 0#8) : ∃ n, gfDouble^[n] 1#8 = a := by
  have hpowers : (List.iterate gfDouble 1#8 255).foldl
    (fun mask b => mask ||| 1#256 <<< b.toNat) 0#256
      = BitVec.allOnes 256 ^^^ 1#256 := by decide +kernel
  have hpos : a.toNat ≠ 0 := (BitVec.toNat_pos_of_ne_zero ha).ne'
  have hbit : ((List.iterate gfDouble 1#8 255).foldl
      (fun mask b => mask ||| 1#256 <<< b.toNat) 0#256).getLsbD a.toNat = true := by
    rw [hpowers, BitVec.getLsbD_xor, BitVec.getLsbD_allOnes, BitVec.getLsbD_one]
    simp [hpos, a.isLt]
  have hmem := mem_of_getLsbD_foldl hbit
  rw [BitVec.getLsbD_zero, or_iff_right Bool.false_ne_true, List.mem_iterate] at hmem
  obtain ⟨n, -, hn⟩ := hmem
  exact ⟨n, hn.symm⟩

/-- Multiplication by anything but zero loses nothing. -/
lemma gfMul_injective {a : U8} (ha : a ≠ 0#8) : Function.Injective (gfMul a) := by
  obtain ⟨n, rfl⟩ := exists_gfDouble_iterate ha
  have hmul : gfMul (gfDouble^[n] 1#8) = gfDouble^[n] := by
    funext b
    clear ha
    induction n with
    | zero => exact gfMul_one_left b
    | succ n ih =>
      rw [Function.iterate_succ_apply', gfMul_gfDouble, ih, Function.iterate_succ_apply']
  rw [hmul]
  exact gfDouble_injective.iterate n

/-! ### Products of rows and columns -/

lemma gfDot_zero_left (k : ℕ) (col : ℕ → U8) : gfDot k (fun _ => 0#8) col = 0#8 := by
  unfold gfDot
  induction List.range k with
  | nil => rfl
  | cons i l ih =>
    rw [List.foldr_cons, gfMul_zero_left, ih]
    rfl

lemma gfMul_zero_right (a : U8) : gfMul a 0#8 = 0#8 := by
  unfold gfMul
  induction List.range 8 with
  | nil => rfl
  | cons i l ih => rw [List.foldr_cons, ih, BitVec.getLsbD_zero, if_neg Bool.false_ne_true]

lemma gfDot_congr {k : ℕ} (row : ℕ → U8) {col col' : ℕ → U8} (h : ∀ i < k, col i = col' i) :
    gfDot k row col = gfDot k row col' :=
  List.foldr_ext _ _ _ fun i hi acc => by rw [h i (List.mem_range.mp hi)]

lemma gfDot_one (row col : ℕ → U8) : gfDot 1 row col = gfMul (row 0) (col 0) :=
  BitVec.xor_zero

/-- A row of the identity picks an entry. -/
lemma gfDot_indicator {k i : ℕ} (hi : i < k) {row : ℕ → U8}
    (hrow : ∀ j < k, row j = if i = j then 1#8 else 0#8) (col : ℕ → U8) :
      gfDot k row col = col i := by
  have hsum : ∀ l : List ℕ, l.Nodup → (∀ j ∈ l, j < k) →
      l.foldr (fun j acc => gfMul (row j) (col j) ^^^ acc) 0#8 = if i ∈ l then col i else 0#8 := by
    intro l hnodup hlt
    induction l with
    | nil => rfl
    | cons j l ih =>
      have hrest := ih hnodup.of_cons fun j hj => hlt j (List.mem_cons_of_mem _ hj)
      rw [List.foldr_cons, hrest, hrow j (hlt j List.mem_cons_self)]
      by_cases hij : i = j
      · subst hij
        rw [if_pos rfl, if_neg (List.nodup_cons.mp hnodup).1, if_pos List.mem_cons_self,
          gfMul_one_left,
          BitVec.xor_zero]
      · rw [if_neg hij, gfMul_zero_left, BitVec.zero_xor]
        simp [hij]
  rw [gfDot, hsum _ List.nodup_range fun j hj => List.mem_range.mp hj,
    if_pos (List.mem_range.mpr hi)]

end SdrUdp.Core
