import SdrUdp.Core.Fold
import SdrUdp.Core.Galois
import SdrUdp.SendPost
import SdrUdp.SrReceiver

/-!
# The erasure code

`ECSender` appends parity chunks to a message and `ECReceiver` tries to rebuild missing data chunks.
The coding library is a parameter, known by its documented contract.
-/

namespace SdrUdp

open SdrUdp.Core

/-! ### The coding library -/

/-- A matrix over GF(2^8), or a family of buffers: row and column, or buffer and byte. -/
abbrev ByteMatrix := ℕ → ℕ → U8

/-- `inverse` is a left inverse of `matrix`, both of size `k`. -/
def IsInverse (k : ℕ) (inverse matrix : ByteMatrix) : Prop :=
  ∀ i < k, ∀ j < k, gfDot k (inverse i) (fun l => matrix l j) = if i = j then 1#8 else 0#8

/-- The functions of ISA-L that are used. `gfInvertMatrix` gives the inverse it writes to its second
argument, or fails; `leftover` is what it leaves in its first argument. -/
structure Isal where
  Tables : Type
  gfGenRsMatrix : ℕ → ℕ → ByteMatrix
  ecInitTables : ℕ → ℕ → ByteMatrix → Tables
  ecEncodeData : ℕ → ℕ → ℕ → Tables → ByteMatrix → ByteMatrix
  gfInvertMatrix : ByteMatrix → ℕ → Option ByteMatrix
  leftover : ByteMatrix → ℕ → ByteMatrix

/-- The documented contract: a systematic generator matrix, products of the tables' rows with the
buffers, and inverses exactly of the invertible matrices. Nothing is said about `leftover`. -/
structure Isal.Contract (isal : Isal) : Prop where
  systematic : ∀ rows k i j, i < k → j < k →
    isal.gfGenRsMatrix rows k i j = if i = j then 1#8 else 0#8
  encode : ∀ len k rows matrix data row byte, row < rows → byte < len →
    isal.ecEncodeData len k rows (isal.ecInitTables k rows matrix) data row byte
      = gfDot k (matrix row) fun i => data i byte
  inverse : ∀ matrix k inverse, isal.gfInvertMatrix matrix k = some inverse →
    IsInverse k inverse matrix
  invertible : ∀ matrix k inverse, IsInverse k inverse matrix →
    (isal.gfInvertMatrix matrix k).isSome

/-! ### Geometry -/

/-- Configuration of the erasure code. -/
structure ECConfig where
  kData : U16
  mParity : U16
  dataBytes : U64
  maxRetries : ℕ

/-- `k_data` with its default. -/
def ECConfig.k (cfg : ECConfig) : ℕ := (orDefault cfg.kData 4).toNat

/-- `m_parity` with its default. -/
def ECConfig.m (cfg : ECConfig) : ℕ := (orDefault cfg.mParity 2).toNat

/-- The packet size that both ends of the erasure code take from the connection parameters. -/
def ecMtuBytes (params : ConnectionParams) : ℕ :=
  min (orDefault params.mtuBytes (BitVec.ofNat 32 SDRPacket.maxPayloadSize)).toNat
    SDRPacket.maxPayloadSize

def ecPacketsPerChunk (params : ConnectionParams) : ℕ := (orDefault params.packetsPerChunk 32).toNat

/-- The chunk size, a 32-bit product. -/
def ecChunkBytes (params : ConnectionParams) : ℕ :=
  ecMtuBytes params * ecPacketsPerChunk params % 2 ^ 32

/-- Number of data chunks, narrowed to 32 bits. -/
def ecDataChunks (dataBytes chunkBytes : ℕ) : ℕ := ceilDiv dataBytes chunkBytes % 2 ^ 32

/-- Chunk offsets are 32-bit products. -/
def ecOffset (chunk chunkBytes : ℕ) : ℕ := chunk * chunkBytes % 2 ^ 32

/-- The layout that `encode_and_send` and `post_receive` compute: what they take from their
configuration, and what follows from it. -/
structure ECLayout where
  k : ℕ
  m : ℕ
  chunkBytes : ℕ
  dataBytes : ℕ
  k_pos : 0 < k
  m_pos : 0 < m
  chunkBytes_pos : 0 < chunkBytes
  chunkBytes_lt : chunkBytes < 2 ^ 32

lemma ECConfig.k_pos (cfg : ECConfig) : 0 < cfg.k := orDefault_toNat_pos (by decide)

lemma ECConfig.m_pos (cfg : ECConfig) : 0 < cfg.m := orDefault_toNat_pos (by decide)

/-- Both ends compute it from their connection parameters and the length they are called with. -/
def ECLayout.of (cfg : ECConfig) (params : ConnectionParams) (length : ℕ) : ECLayout where
  k := cfg.k
  m := cfg.m
  chunkBytes := if ecChunkBytes params = 0 then SDRPacket.maxPayloadSize else ecChunkBytes params
  dataBytes := if cfg.dataBytes = 0 then length else cfg.dataBytes.toNat
  k_pos := cfg.k_pos
  m_pos := cfg.m_pos
  chunkBytes_pos := by
    split_ifs with h
    · decide
    · exact Nat.pos_of_ne_zero h
  chunkBytes_lt := by
    split_ifs with h
    · decide
    · exact Nat.mod_lt _ (by decide)

/-- Number of data chunks of the layout. -/
def ECLayout.dataChunks (l : ECLayout) : ℕ := ecDataChunks l.dataBytes l.chunkBytes

def ECLayout.stripes (l : ECLayout) : ℕ := (l.dataChunks + l.k - 1) % 2 ^ 32 / l.k

def ECLayout.parityChunks (l : ECLayout) : ℕ := l.stripes * l.m % 2 ^ 32

/-- Data and parity chunks, a 32-bit sum. -/
def ECLayout.totalChunks (l : ECLayout) : ℕ := (l.dataChunks + l.parityChunks) % 2 ^ 32

def ECLayout.totalBytes (l : ECLayout) : ℕ := l.totalChunks * l.chunkBytes % 2 ^ 64

/-- Index of parity chunk `p` of stripe `s`. -/
def ECLayout.parityChunk (l : ECLayout) (s p : ℕ) : ℕ := (l.dataChunks + s * l.m + p) % 2 ^ 32

namespace ECLayout

lemma stripe_mul_lt {l : ECLayout} {s p : ℕ} (hs : s < l.stripes) (hp : p < l.m) :
    s * l.m + p < l.stripes * l.m := by
  have h : (s + 1) * l.m ≤ l.stripes * l.m := Nat.mul_le_mul_right _ hs
  rw [Nat.succ_mul] at h
  omega

/-- As long as 32 bits hold its offset, a parity chunk lies where its number says. -/
lemma parityOffset_of_lt {l : ECLayout} {s p : ℕ}
    (h : (l.dataChunks + s * l.m + p) * l.chunkBytes < 2 ^ 32) :
    ecOffset (l.parityChunk s p) l.chunkBytes = (l.dataChunks + s * l.m + p) * l.chunkBytes := by
  have hchunk := (Nat.le_mul_of_pos_right _ l.chunkBytes_pos).trans_lt h
  rw [ecOffset, parityChunk, Nat.mod_eq_of_lt hchunk, Nat.mod_eq_of_lt h]

end ECLayout

/-! ### Encoding -/

/-- `memcpy` of `len` bytes of `source` to `buffer + offset`. -/
def copyBytes (buffer : ℕ → U8) (offset len : ℕ) (source : ℕ → U8) : ℕ → U8 :=
  fun i => if offset ≤ i ∧ i < offset + len then source (i - offset) else buffer i

/-- The data pointers of stripe `s`; a partial stripe is padded with the first chunk. -/
def dataPtr (l : ECLayout) (s i : ℕ) : ℕ :=
  if i < min l.k (l.dataChunks - s * l.k) then ecOffset ((s * l.k + i) % 2 ^ 32) l.chunkBytes else 0

/-- Encode one stripe in place. -/
def encodeStripe (isal : Isal) (l : ECLayout) (storage : ℕ → U8) (s : ℕ) : ℕ → U8 :=
  let tables := isal.ecInitTables l.k l.m (isal.gfGenRsMatrix (l.k + l.m) l.k)
  let coding := isal.ecEncodeData l.chunkBytes l.k l.m tables fun i b => storage (dataPtr l s i + b)
  (List.range l.m).foldl (fun storage p =>
    copyBytes storage (ecOffset (l.parityChunk s p) l.chunkBytes) l.chunkBytes (coding p)) storage

/-- `send_storage_` when it is handed to `sdr_send_post`. -/
def encode (isal : Isal) (l : ECLayout) (buffer : ℕ → U8) : ℕ → U8 :=
  (List.range l.stripes).foldl (encodeStripe isal l)
    (copyBytes (fun _ => 0) 0 (min l.dataBytes l.totalBytes) buffer)

end SdrUdp
