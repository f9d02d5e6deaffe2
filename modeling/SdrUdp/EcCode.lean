import SdrUdp.EcGeometry

/-!
# What the encoder writes

`encode_and_send` puts the parity chunks of every stripe behind the data. Its tables are made
from the first rows of the generator matrix, which are rows of the identity, so the first parity
chunks are copies of data chunks.
-/

namespace SdrUdp

open SdrUdp.Core

/-! ### Blocks of bytes -/

section Blocks

variable {offset : ℕ → ℕ} {source : ℕ → ℕ → U8} {len : ℕ}

lemma foldl_copyBytes_of_notMem (storage : ℕ → U8) {n i : ℕ}
    (hi : ∀ p < n, i < offset p ∨ offset p + len ≤ i) :
    (List.range n).foldl (fun storage p => copyBytes storage (offset p) len (source p)) storage i
      = storage i := by
  refine foldl_keeps (P := fun storage' : ℕ → U8 => storage' i = storage i) ?_ rfl
  intro storage' p hp hkept
  rw [copyBytes_of_notMem _ (hi p (List.mem_range.mp hp)), hkept]

/-- Blocks that lie side by side do not overwrite each other. -/
lemma foldl_copyBytes_block (storage : ℕ → U8) {base n : ℕ}
    (hoffset : ∀ p < n, offset p = (base + p) * len)
    {p b : ℕ} (hp : p < n) (hb : b < len) :
    (List.range n).foldl (fun storage p => copyBytes storage (offset p) len (source p)) storage
      ((base + p) * len + b) = source p b := by
  induction n with
  | zero => exact absurd hp (Nat.not_lt_zero p)
  | succ n ih =>
    rw [List.range_succ, List.foldl_append, List.foldl_cons, List.foldl_nil,
      hoffset n (Nat.lt_succ_self n)]
    rcases Nat.lt_succ_iff_lt_or_eq.mp hp with hlt | rfl
    · have hle : (base + p + 1) * len ≤ (base + n) * len := Nat.mul_le_mul_right _ (by omega)
      rw [Nat.succ_mul] at hle
      rw [copyBytes_of_notMem _ (Or.inl (by omega)),
        ih (fun q hq => hoffset q (Nat.lt_succ_of_lt hq)) hlt]
    · rw [copyBytes, if_pos (by omega), Nat.add_sub_cancel_left]

end Blocks

/-! ### The stored stripes -/

/-- Parity as `ec_encode_data` computes it from the data chunks of a stripe. -/
def stripeParity (isal : Isal) (l : ECLayout) (data : ByteMatrix) : ByteMatrix :=
  isal.ecEncodeData l.chunkBytes l.k l.m
    (isal.ecInitTables l.k l.m (isal.gfGenRsMatrix (l.k + l.m) l.k)) data

/-- What the data pointers of a stripe point to. -/
def pointedData (l : ECLayout) (message : ℕ → U8) (s : ℕ) : ByteMatrix :=
  fun i b => l.padded message (dataPtr l s i + b)

/-- No count and no offset of the layout wraps around. -/
structure ECLayout.Encodable (l : ECLayout) : Prop extends l.Addressable where
  stripes : l.dataChunks ≤ l.stripes * l.k

namespace ECLayout

variable {l : ECLayout}

lemma stripe_lt_dataChunks {s : ℕ} (hs : s < l.stripes) : s * l.k < l.dataChunks := by
  have hle : (s + 1) * l.k ≤ (l.dataChunks + l.k - 1) % 2 ^ 32 :=
    (Nat.le_div_iff_mul_le l.k_pos).mp hs
  have hmod := Nat.mod_le (l.dataChunks + l.k - 1) (2 ^ 32)
  have hpos := l.k_pos
  rw [Nat.succ_mul] at hle
  omega

namespace Addressable

variable (hl : l.Addressable)
include hl

/-- A data pointer of a chunk that exists. -/
lemma dataPtr_of_lt {s i : ℕ} (hi : i < l.k) (hc : s * l.k + i < l.dataChunks) :
    dataPtr l s i = (s * l.k + i) * l.chunkBytes := by
  have hchunks := hl.chunks
  have hoffset := hl.offsets _ (hc.trans_le (Nat.le_add_right _ (l.stripes * l.m)))
  rw [dataPtr, if_pos (by omega), Nat.mod_eq_of_lt (by omega), ecOffset, Nat.mod_eq_of_lt hoffset]

omit hl in
/-- The others point to the first chunk. -/
lemma dataPtr_of_ge {s i : ℕ} (hc : l.dataChunks ≤ s * l.k + i) : dataPtr l s i = 0 :=
  if_neg (by omega)

lemma dataPtr_add_lt {s i b : ℕ} (hs : s < l.stripes) (hi : i < l.k) (hb : b < l.chunkBytes) :
    dataPtr l s i + b < l.dataChunks * l.chunkBytes := by
  have hlt := stripe_lt_dataChunks hs
  rcases Nat.lt_or_ge (s * l.k + i) l.dataChunks with hc | hc
  · have hle : (s * l.k + i + 1) * l.chunkBytes ≤ l.dataChunks * l.chunkBytes :=
      Nat.mul_le_mul_right _ hc
    rw [Nat.succ_mul] at hle
    rw [hl.dataPtr_of_lt hi hc]
    omega
  · have hle : 1 * l.chunkBytes ≤ l.dataChunks * l.chunkBytes :=
      Nat.mul_le_mul_right _ (by omega)
    rw [dataPtr_of_ge hc]
    omega

end Addressable

end ECLayout

section Stored

variable {isal : Isal} (hisal : isal.Contract) {l : ECLayout} (hl : l.Addressable)
include hisal hl

/-- The first `n` stripes are stored. -/
lemma encodeStripes_parity (message : ℕ → U8) {n : ℕ} (hn : n ≤ l.stripes) {s p b : ℕ} (hs : s < n)
    (hp : p < l.m) (hb : b < l.chunkBytes) :
    (List.range n).foldl (encodeStripe isal l)
      (copyBytes (fun _ => 0) 0 (min l.dataBytes l.totalBytes) message)
      ((l.dataChunks + s * l.m + p) * l.chunkBytes + b)
      = stripeParity isal l (pointedData l message s) p b := by
  induction n with
  | zero => exact absurd hs (Nat.not_lt_zero s)
  | succ n ih =>
    rw [List.range_succ, List.foldl_append, List.foldl_cons, List.foldl_nil]
    have hdata : ∀ i < l.dataChunks * l.chunkBytes, _ = l.padded message i :=
      fun i hi => encodeStripes_data isal hl message (Nat.le_of_succ_le hn) hi
    generalize (List.range n).foldl (encodeStripe isal l)
      (copyBytes (fun _ => 0) 0 (min l.dataBytes l.totalBytes) message) = storage at ih hdata ⊢
    rcases Nat.lt_succ_iff_lt_or_eq.mp hs with hlt | rfl
    · rw [← ih (Nat.le_of_succ_le hn) hlt]
      refine foldl_copyBytes_of_notMem _ fun q hq => Or.inl ?_
      rw [hl.parityOffset hn hq]
      have hstripe : (s + 1) * l.m ≤ n * l.m := Nat.mul_le_mul_right _ hlt
      rw [Nat.succ_mul] at hstripe
      have hle : (l.dataChunks + s * l.m + p + 1) * l.chunkBytes
          ≤ (l.dataChunks + n * l.m + q) * l.chunkBytes := Nat.mul_le_mul_right _ (by omega)
      rw [Nat.succ_mul] at hle
      omega
    · refine (foldl_copyBytes_block storage (fun q hq => hl.parityOffset hn hq) hp hb).trans ?_
      unfold stripeParity
      rw [hisal.encode _ _ _ _ _ _ _ hp hb, hisal.encode _ _ _ _ _ _ _ hp hb]
      exact gfDot_congr _ fun i hi => hdata _ (hl.dataPtr_add_lt hn hi hb)

/-- What is handed to `sdr_send_post` behind the data. -/
lemma encode_parity (message : ℕ → U8) {s p b : ℕ} (hs : s < l.stripes) (hp : p < l.m)
    (hb : b < l.chunkBytes) :
    encode isal l message ((l.dataChunks + s * l.m + p) * l.chunkBytes + b)
      = stripeParity isal l (pointedData l message s) p b :=
  encodeStripes_parity hisal hl message le_rfl hs hp hb

/-- The first rows of the tables are rows of the identity: a parity chunk below `k` is a copy. -/
lemma encode_parity_copy (message : ℕ → U8) {s p b : ℕ} (hs : s < l.stripes) (hp : p < l.m)
    (hk : p < l.k)
    (hb : b < l.chunkBytes) :
    encode isal l message ((l.dataChunks + s * l.m + p) * l.chunkBytes + b)
      = pointedData l message s p b := by
  rw [encode_parity hisal hl message hs hp hb, stripeParity, hisal.encode _ _ _ _ _ _ _ hp hb]
  exact gfDot_indicator hk (fun j hj => hisal.systematic _ _ _ _ hk hj) _

end Stored

/-- What is handed to `sdr_send_post` begins with the data chunks. -/
lemma encode_data (isal : Isal) {l : ECLayout} (hl : l.Addressable) (message : ℕ → U8) {i : ℕ}
    (hi : i < l.dataChunks * l.chunkBytes) : encode isal l message i = l.padded message i :=
  encodeStripes_data isal hl message le_rfl hi

/-! ### Stripes as code words -/

/-- Chunk `c` of stripe `s`; the data chunks come first. -/
def ECLayout.stripeChunk (l : ECLayout) (s c : ℕ) : ℕ :=
  if c < l.k then s * l.k + c else l.dataChunks + s * l.m + (c - l.k)

/-- Two full stripes with different data differ in one of any `k` chunks. -/
def EncodesMds (isal : Isal) (l : ECLayout) : Prop :=
  ∀ s, (s + 1) * l.k ≤ l.dataChunks → ∀ message message' : ℕ → U8,
    (∃ c < l.k, ∃ b < l.chunkBytes, l.padded message ((s * l.k + c) * l.chunkBytes + b)
      ≠ l.padded message' ((s * l.k + c) * l.chunkBytes + b)) →
    ∀ pos : ℕ → ℕ, (∀ i < l.k, pos i < l.k + l.m) →
      (∀ i < l.k, ∀ j < l.k, pos i = pos j → i = j) →
      ∃ i < l.k, ∃ b < l.chunkBytes,
        encode isal l message (l.stripeChunk s (pos i) * l.chunkBytes + b)
          ≠ encode isal l message' (l.stripeChunk s (pos i) * l.chunkBytes + b)

section Mds

variable {isal : Isal} (hisal : isal.Contract) {l : ECLayout} (hl : l.Encodable)
include hisal hl

/-- With one data chunk in a stripe every chunk is a multiple of it. -/
lemma encodesMds_of_one (hrows : isal.IndependentRows l.k l.m) (hk : l.k = 1) :
    EncodesMds isal l := by
  rintro s hs message message' ⟨c, hc, b, hb, hne⟩ pos hpos -
  obtain rfl : c = 0 := by omega
  have hchunk : s < l.dataChunks := by rw [hk] at hs; omega
  have hstripe : s < l.stripes := by have := hl.stripes; rw [hk] at this; omega
  have hbyte : s * l.chunkBytes + b < l.dataChunks * l.chunkBytes := by
    have hle : (s + 1) * l.chunkBytes ≤ l.dataChunks * l.chunkBytes := Nat.mul_le_mul_right _ hchunk
    rw [Nat.succ_mul] at hle
    omega
  rw [hk, Nat.mul_one, Nat.add_zero] at hne
  refine ⟨0, by omega, b, hb, ?_⟩
  unfold ECLayout.stripeChunk
  split_ifs with hdata
  · rw [show s * l.k + pos 0 = s by rw [hk] at hdata ⊢; omega]
    rwa [encode_data isal hl.toAddressable _ hbyte, encode_data isal hl.toAddressable _ hbyte]
  · have hp : pos 0 - l.k < l.m := by have := hpos 0 (by omega); omega
    have hptr : dataPtr l s 0 = s * l.chunkBytes := by
      have := hl.dataPtr_of_lt (s := s) (i := 0) (by omega) (by rw [hk]; omega)
      rwa [hk, Nat.mul_one, Nat.add_zero] at this
    have hdot : ∀ row col, gfDot l.k row col = gfMul (row 0) (col 0) := by
      intro row col
      rw [hk, gfDot_one]
    -- its coefficient is invertible
    have hcoeff : isal.gfGenRsMatrix (l.k + l.m) l.k (pos 0 - l.k) 0 ≠ 0#8 := by
      obtain ⟨inverse, hinverse⟩ := hrows (fun _ => pos 0 - l.k) (fun _ _ => by omega)
        fun i hi j hj _ => by omega
      have hone := hinverse 0 (by omega) 0 (by omega)
      intro hzero
      rw [hdot, if_pos rfl] at hone
      dsimp only at hone
      rw [hzero, gfMul_zero_right] at hone
      exact absurd hone (by decide)
    rw [encode_parity hisal hl.toAddressable _ hstripe hp hb,
      encode_parity hisal hl.toAddressable _ hstripe hp hb, stripeParity, stripeParity,
      hisal.encode _ _ _ _ _ _ _ hp hb, hisal.encode _ _ _ _ _ _ _ hp hb, hdot, hdot, pointedData,
      pointedData, hptr]
    exact fun heq => hne (gfMul_injective hcoeff heq)

/-- With two data chunks the first parity chunk says nothing about the second. -/
lemma not_encodesMds_of_two (hk : 2 ≤ l.k) (hfull : l.k ≤ l.dataChunks) : ¬ EncodesMds isal l := by
  intro hmds
  have hpos := l.chunkBytes_pos
  have hstripe : 0 < l.stripes := Nat.pos_of_ne_zero fun h => by
    have := hl.stripes
    rw [h, Nat.zero_mul] at this
    omega
  have hsecond : l.chunkBytes < l.dataBytes := by
    have := ECLayout.chunk_start_lt (l := l) (c := 1) (by omega)
    rwa [Nat.one_mul] at this
  -- messages that differ in the first byte of the second chunk
  have hsame : ∀ i, i ≠ l.chunkBytes → l.padded (fun _ => 0#8) i
      = l.padded (fun i => if i = l.chunkBytes then 1#8 else 0#8) i := by
    intro i hi
    simp only [ECLayout.padded, if_neg hi]
  obtain ⟨i, hi, b, hb, hne⟩ := hmds 0 (by omega) (fun _ => 0#8)
    (fun i => if i = l.chunkBytes then 1#8 else 0#8) ⟨1, by omega, 0, hpos, by
      rw [Nat.zero_mul, Nat.zero_add, Nat.one_mul, Nat.add_zero, ECLayout.padded, ECLayout.padded,
        if_pos hsecond, if_pos hsecond, if_pos rfl]
      decide⟩ (fun i => if i = 1 then l.k else i)
        (fun i hi => by have := l.m_pos; split_ifs <;> omega)
      (fun i hi j hj h => by split_ifs at h <;> omega)
  refine hne ?_
  by_cases hone : i = 1
  · rw [if_pos hone, ECLayout.stripeChunk, if_neg (lt_irrefl _), Nat.sub_self,
      encode_parity_copy hisal hl.toAddressable _ hstripe l.m_pos l.k_pos hb,
      encode_parity_copy hisal hl.toAddressable _ hstripe l.m_pos l.k_pos hb, pointedData,
        pointedData,
      hl.dataPtr_of_lt l.k_pos (by omega), Nat.zero_mul, Nat.add_zero, Nat.zero_mul, Nat.zero_add]
    exact hsame b hb.ne
  · have hlt : (i + 1) * l.chunkBytes ≤ l.dataChunks * l.chunkBytes :=
      Nat.mul_le_mul_right _ (hi.trans_le hfull)
    rw [Nat.succ_mul] at hlt
    rw [if_neg hone, ECLayout.stripeChunk, if_pos hi, Nat.zero_mul, Nat.zero_add,
      encode_data isal hl.toAddressable _ (by omega), encode_data isal hl.toAddressable _
        (by omega)]
    refine hsame _ fun heq => ?_
    rcases Nat.lt_or_ge i 1 with hzero | hge
    · rw [Nat.lt_one_iff.mp hzero, Nat.zero_mul] at heq
      omega
    · have hle : 2 * l.chunkBytes ≤ i * l.chunkBytes := Nat.mul_le_mul_right _ (by omega)
      omega

end Mds

/-- Any row of the sample generator matrix with one column is one. -/
lemma Isal.reference_independentRows_one : Isal.reference.IndependentRows 1 1 := by
  intro rows hrows _
  have hone : ∀ row < 2, Isal.reference.gfGenRsMatrix 2 1 row 0 = 1#8 := by decide +kernel
  refine ⟨fun _ _ => 1#8, fun i hi j hj => ?_⟩
  obtain rfl : i = 0 := by omega
  obtain rfl : j = 0 := by omega
  rw [if_pos rfl, gfDot_one, gfMul_one_left]
  exact hone _ (hrows 0 (by decide))

/-- A layout of one-byte chunks. -/
def sampleBytes (k m : U16) (dataBytes : U64) : ECLayout :=
  ECLayout.of ⟨k, m, dataBytes, 3⟩
    { ConnectionParams.zero with mtuBytes := 1, packetsPerChunk := 1 }
    dataBytes.toNat

lemma sampleEncodable : sampleEcReceiver.layout.Encodable where
  toAddressable := sampleFits.addressable
  stripes := by decide +kernel

/-- The data chunks of stripe `s`, followed by chunks of zeros. -/
def stripeData (l : ECLayout) (message : ℕ → U8) (s : ℕ) : ByteMatrix :=
  fun i b => if s * l.k + i < l.dataChunks then l.padded message ((s * l.k + i) * l.chunkBytes + b)
    else 0#8

/-- The parity of the last stripe depends on its own data chunks alone, and is that of the chunks
followed by zeros. -/
structure PadsWithZeros (isal : Isal) (l : ECLayout) : Prop where
  independent : ∀ message message' : ℕ → U8,
    (∀ c, (l.stripes - 1) * l.k ≤ c → c < l.dataChunks → ∀ b < l.chunkBytes,
      l.padded message (c * l.chunkBytes + b) = l.padded message' (c * l.chunkBytes + b)) →
    ∀ p < l.m, ∀ b < l.chunkBytes,
      encode isal l message ((l.dataChunks + (l.stripes - 1) * l.m + p) * l.chunkBytes + b)
        = encode isal l message' ((l.dataChunks + (l.stripes - 1) * l.m + p) * l.chunkBytes + b)
  zeroPadded : ∀ message : ℕ → U8, ∀ p < l.m, ∀ b < l.chunkBytes,
    encode isal l message ((l.dataChunks + (l.stripes - 1) * l.m + p) * l.chunkBytes + b)
      = stripeParity isal l (stripeData l message (l.stripes - 1)) p b

section Partial

variable {isal : Isal} (hisal : isal.Contract) {l : ECLayout} (hl : l.Addressable)
include hisal hl

/-- A parity chunk of the last stripe is a copy of one of its data chunks, or of the first chunk. -/
lemma encode_parity_last (message : ℕ → U8) (hstripes : 0 < l.stripes) {p b : ℕ} (hp : p < l.m)
    (hk : p < l.k) (hb : b < l.chunkBytes) :
    encode isal l message ((l.dataChunks + (l.stripes - 1) * l.m + p) * l.chunkBytes + b)
      = if (l.stripes - 1) * l.k + p < l.dataChunks then
          l.padded message (((l.stripes - 1) * l.k + p) * l.chunkBytes + b)
        else l.padded message b := by
  rw [encode_parity_copy hisal hl message (Nat.sub_one_lt hstripes.ne') hp hk hb, pointedData]
  split_ifs with hc
  · rw [hl.dataPtr_of_lt hk hc]
  · rw [ECLayout.Addressable.dataPtr_of_ge (not_lt.mp hc), Nat.zero_add]

omit hl in
/-- The parity of the zero-padded stripe is a copy as well. -/
lemma stripeParity_stripeData (message : ℕ → U8) (s : ℕ) {p b : ℕ} (hp : p < l.m) (hk : p < l.k)
    (hb : b < l.chunkBytes) :
    stripeParity isal l (stripeData l message s) p b = stripeData l message s p b := by
  rw [stripeParity, hisal.encode _ _ _ _ _ _ _ hp hb]
  exact gfDot_indicator hk (fun j hj => hisal.systematic _ _ _ _ hk hj) _

end Partial

namespace ECLayout

/-- Number of data chunks, as if nothing were narrowed. -/
def exactDataChunks (l : ECLayout) : ℕ := (l.dataBytes + l.chunkBytes - 1) / l.chunkBytes

def exactStripes (l : ECLayout) : ℕ := (l.exactDataChunks + l.k - 1) / l.k

/-- Data and parity chunks. -/
def exactChunks (l : ECLayout) : ℕ := l.exactDataChunks + l.exactStripes * l.m

section Exact

variable {l : ECLayout}

lemma dataBytes_le_exact (l : ECLayout) : l.dataBytes ≤ l.exactDataChunks * l.chunkBytes := by
  have hpos := l.chunkBytes_pos
  have := Nat.lt_div_mul_add (a := l.dataBytes + l.chunkBytes - 1) hpos
  unfold exactDataChunks
  omega

lemma exactDataChunks_le_mul (l : ECLayout) : l.exactDataChunks ≤ l.exactStripes * l.k := by
  have hpos := l.k_pos
  have := Nat.lt_div_mul_add (a := l.exactDataChunks + l.k - 1) hpos
  unfold exactStripes
  omega

lemma dataChunks_eq_exact (h : l.exactChunks ≤ 2 ^ 18) : l.dataChunks = l.exactDataChunks := by
  have hchunks : l.exactDataChunks ≤ 2 ^ 18 := (Nat.le_add_right _ _).trans h
  have hbytes := l.dataBytes_le_exact.trans (Nat.mul_le_mul hchunks l.chunkBytes_lt.le)
  have hlt := l.chunkBytes_lt
  rw [dataChunks, ecDataChunks, ceilDiv,
    Nat.mod_eq_of_lt (show l.dataBytes + l.chunkBytes - 1 < 2 ^ 64 by omega)]
  exact Nat.mod_eq_of_lt (hchunks.trans_lt (by decide))

lemma stripes_eq_exact (h : l.exactChunks ≤ 2 ^ 18) (hk : l.k < 2 ^ 16) :
    l.stripes = l.exactStripes := by
  have hchunks : l.exactDataChunks ≤ 2 ^ 18 := (Nat.le_add_right _ _).trans h
  rw [stripes, dataChunks_eq_exact h, Nat.mod_eq_of_lt (by omega), exactStripes]

/-- Below 2^18 chunks it is enough that 32 bits hold the offset of the last one. -/
lemma encodable_of_exact (h : l.exactChunks ≤ 2 ^ 18) (hk : l.k < 2 ^ 16)
    (hlast : (l.exactChunks - 1) * l.chunkBytes < 2 ^ 32) : l.Encodable where
  data := by
    rw [dataChunks_eq_exact h]
    exact l.dataBytes_le_exact
  chunks := by
    rw [dataChunks_eq_exact h, stripes_eq_exact h hk]
    exact h.trans_lt (by decide)
  offsets c hc := by
    rw [dataChunks_eq_exact h, stripes_eq_exact h hk] at hc
    exact (Nat.mul_le_mul_right _ (Nat.le_sub_one_of_lt hc)).trans_lt hlast
  stripes := by
    rw [dataChunks_eq_exact h, stripes_eq_exact h hk]
    exact l.exactDataChunks_le_mul

end Exact

end ECLayout

/-- The encoder leaves the data chunks as they are, and every chunk lies where its number says, for
the encoder and for the decoder. -/
structure KeepsDataRegion (isal : Isal) (l : ECLayout) : Prop where
  message : EncodesIntact isal l
  padding : ∀ message : ℕ → U8, ∀ i, l.dataBytes ≤ i → i < l.exactDataChunks * l.chunkBytes →
    encode isal l message i = 0#8
  parityAt : ∀ s < l.exactStripes, ∀ p < l.m,
    ecOffset (l.parityChunk s p) l.chunkBytes = (l.exactDataChunks + s * l.m + p) * l.chunkBytes
  inside : ∀ s < l.exactStripes, ∀ p < l.m,
    (l.exactDataChunks + s * l.m + p) * l.chunkBytes + l.chunkBytes ≤ l.totalBytes
  parity : ∀ message : ℕ → U8, ∀ s < l.exactStripes, ∀ p < l.m, ∀ b < l.chunkBytes,
    encode isal l message ((l.exactDataChunks + s * l.m + p) * l.chunkBytes + b)
      = stripeParity isal l (pointedData l message s) p b
  decodeAt : ∀ c < l.exactChunks, ecOffset c l.chunkBytes = c * l.chunkBytes

/-- The decoder finds all chunks only if 32 bits hold the offset of the last one. -/
lemma KeepsDataRegion.last_lt {isal : Isal} {l : ECLayout} (h : KeepsDataRegion isal l) :
    (l.exactChunks - 1) * l.chunkBytes < 2 ^ 32 := by
  rcases Nat.eq_zero_or_pos l.exactChunks with hzero | hpos
  · rw [hzero, Nat.zero_sub, Nat.zero_mul]
    decide
  · rw [← h.decodeAt _ (Nat.sub_one_lt hpos.ne')]
    exact Nat.mod_lt _ (by decide)

lemma ECConfig.k_lt (cfg : ECConfig) : cfg.k < 2 ^ 16 := (orDefault cfg.kData 4).isLt

/-- Packets of the largest size, one in a chunk. -/
def sampleLargest : ECLayout :=
  ECLayout.of ⟨4, 2, 2863812600, 3⟩ { ConnectionParams.zero with packetsPerChunk := 1 } 4295817144

end SdrUdp
