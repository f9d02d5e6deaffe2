import Mathlib.Tactic.Lemma
import Mathlib.Tactic.Common
import Mathlib.Algebra.Order.Ring.Nat
import SdrUdp.Core.WordBits

/-!
# Fixed-width codecs

A `Codec α` writes a value as a fixed number of bytes and reads it back from the front of a byte
string. Struct layouts are built from little-endian integers, padding, pairs and vectors; every
combinator carries its own round trip.
-/

namespace SdrUdp.Core

/-- The `n` low bytes of `v`, least significant first. -/
def leBytes : ℕ → ℕ → List U8
  | 0, _     => []
  | n + 1, v => BitVec.ofNat 8 v :: leBytes n (v / 256)

/-- The number whose `n` low bytes are at the front of `l`. -/
def leValue : ℕ → List U8 → ℕ
  | 0, _          => 0
  | _ + 1, []     => 0
  | n + 1, b :: l => b.toNat + 256 * leValue n l

@[simp] lemma length_leBytes (n v : ℕ) : (leBytes n v).length = n := by
  induction n generalizing v with
  | zero => rfl
  | succ n ih => simp [leBytes, ih]

lemma leValue_leBytes_append (n v : ℕ) (rest : List U8) :
    leValue n (leBytes n v ++ rest) = v % 256 ^ n := by
  induction n generalizing v with
  | zero => simp [leValue, Nat.mod_one]
  | succ n ih =>
    have hbyte : (BitVec.ofNat 8 v).toNat = v % 256 := BitVec.toNat_ofNat v 8
    rw [leBytes, List.cons_append, leValue, ih, hbyte, pow_succ', Nat.mod_mul]

/-- Writing and reading values of a type at a fixed width. -/
structure Codec (α : Type) where
  width : ℕ
  encode : α → List U8
  decode : List U8 → α
  length_encode : ∀ a, (encode a).length = width
  decode_append : ∀ a rest, decode (encode a ++ rest) = a

namespace Codec

variable {α β : Type}

lemma decode_encode (c : Codec α) (a : α) : c.decode (c.encode a) = a := by
  simpa using c.decode_append a []

/-- An unsigned integer of `n` bytes, least significant byte first. -/
def uint (n : ℕ) : Codec (BitVec (8 * n)) where
  width := n
  encode x := leBytes n x.toNat
  decode l := BitVec.ofNat (8 * n) (leValue n l)
  length_encode _ := length_leBytes _ _
  decode_append x rest := by
    have hpow : (256 : ℕ) ^ n = 2 ^ (8 * n) := by rw [pow_mul]; rfl
    rw [leValue_leBytes_append, hpow, Nat.mod_eq_of_lt x.isLt, BitVec.ofNat_toNat,
      BitVec.setWidth_eq]

/-- `n` bytes that carry nothing. -/
def pad (n : ℕ) : Codec Unit where
  width := n
  encode _ := List.replicate n 0
  decode _ := ()
  length_encode _ := List.length_replicate
  decode_append _ _ := rfl

/-- One value right after the other. -/
def pair (c : Codec α) (d : Codec β) : Codec (α × β) where
  width := c.width + d.width
  encode p := c.encode p.1 ++ d.encode p.2
  decode l := (c.decode l, d.decode (l.drop c.width))
  length_encode p := by rw [List.length_append, c.length_encode, d.length_encode]
  decode_append p rest := by
    rw [List.append_assoc, c.decode_append, List.drop_left' (c.length_encode p.1),
      d.decode_append]

/-- The bytes of `n` values in a row. -/
def encodeMany (c : Codec α) (l : List α) : List U8 := (l.map c.encode).flatten

/-- Read `n` values in a row. -/
def decodeMany (c : Codec α) : ℕ → List U8 → List α
  | 0, _     => []
  | n + 1, l => c.decode l :: decodeMany c n (l.drop c.width)

lemma length_encodeMany (c : Codec α) (l : List α) :
    (c.encodeMany l).length = l.length * c.width := by
  induction l with
  | nil => simp [encodeMany]
  | cons a l ih =>
    simp only [encodeMany, List.map_cons, List.flatten_cons, List.length_append,
      List.length_cons, c.length_encode] at ih ⊢
    rw [ih, Nat.succ_mul, Nat.add_comm]

lemma length_decodeMany (c : Codec α) (n : ℕ) (l : List U8) :
    (c.decodeMany n l).length = n := by
  induction n generalizing l with
  | zero => rfl
  | succ n ih => simp [decodeMany, ih]

lemma decodeMany_append (c : Codec α) (l : List α) (rest : List U8) :
    c.decodeMany l.length (c.encodeMany l ++ rest) = l := by
  induction l with
  | nil => rfl
  | cons a l ih =>
    have hsplit : c.encodeMany (a :: l) ++ rest = c.encode a ++ (c.encodeMany l ++ rest) := by
      simp [encodeMany]
    rw [hsplit, List.length_cons, decodeMany, c.decode_append,
      List.drop_left' (c.length_encode a), ih]

/-- An array of `n` values. -/
def vector (c : Codec α) (n : ℕ) : Codec (Vector α n) where
  width := n * c.width
  encode v := c.encodeMany v.toList
  decode l := ⟨(c.decodeMany n l).toArray, by simp [length_decodeMany]⟩
  length_encode v := by rw [length_encodeMany, Vector.length_toList]
  decode_append v rest := by
    apply Vector.toList_inj.mp
    have h := c.decodeMany_append v.toList rest
    rw [Vector.length_toList] at h
    simpa [Vector.toList] using h

/-- Read and write a value through another representation. -/
def via (c : Codec α) (into : α → β) (back : β → α) (h : ∀ b, into (back b) = b) : Codec β where
  width := c.width
  encode b := c.encode (back b)
  decode l := into (c.decode l)
  length_encode b := c.length_encode _
  decode_append b rest := by rw [c.decode_append, h]

end Codec

end SdrUdp.Core
