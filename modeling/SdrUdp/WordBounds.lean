import SdrUdp.Bitmap
import SdrUdp.Core.Lookups

/-!
# The words that the bitmaps are made of

The number of words is a 32-bit sum. Where it does not wrap, every bit has its word: no `fetch_or`
goes past the array, and the checks read none but its words, whatever they find there.
-/

namespace SdrUdp

open SdrUdp.Core

/-! ### Bits that have their words -/

namespace BackendBitmap

/-- Every packet has its word, and nothing was written past the words. -/
structure Confined (b : BackendBitmap) : Prop where
  packets : b.totalPackets ≤ 64 * b.numWords
  overrun : b.overrun = false

lemma confined_create {totalPackets : ℕ} (h : totalPackets + 63 < 2 ^ 32) (packetsPerChunk : ℕ) :
    (create totalPackets packetsPerChunk).Confined where
  packets := by
    change totalPackets ≤ 64 * ((totalPackets + 63) % 2 ^ 32 / 64)
    rw [Nat.mod_eq_of_lt h]
    omega
  overrun := rfl

/-- A packet of the message stays inside. -/
lemma Confined.setPacketReceived {b : BackendBitmap} (h : b.Confined) (o : ℕ) :
    (b.setPacketReceived o).2.Confined := by
  have hpackets := h.packets
  unfold BackendBitmap.setPacketReceived
  split_ifs with ho
  · exact h
  · refine ⟨hpackets, ?_⟩
    dsimp only
    rw [h.overrun, Bool.false_or, decide_eq_false_iff_not]
    omega

/-- Without words every packet of the message goes outside. -/
lemma overrun_setPacketReceived {b : BackendBitmap} (hwords : b.numWords = 0) {o : ℕ}
    (ho : o < b.totalPackets) : (b.setPacketReceived o).2.overrun = true := by
  rw [setPacketReceived, if_neg (not_le.mpr ho)]
  dsimp only
  rw [hwords, decide_eq_true (Nat.zero_le _), Bool.or_true]

end BackendBitmap

namespace FrontendBitmap

/-- Every chunk has its word, and nothing was written past the words. -/
structure Confined (f : FrontendBitmap) : Prop where
  chunks : f.totalChunks ≤ 64 * f.numWords
  overrun : f.overrun = false

lemma confined_create {totalChunks : ℕ} (h : totalChunks + 63 < 2 ^ 32) (b : BackendBitmap) :
    (create b totalChunks).Confined where
  chunks := by
    change totalChunks ≤ 64 * ((totalChunks + 63) % 2 ^ 32 / 64)
    rw [Nat.mod_eq_of_lt h]
    omega
  overrun := rfl

lemma Confined.setChunk {f : FrontendBitmap} (h : f.Confined) {c : ℕ} (hc : c < f.totalChunks) :
    (f.setChunk c).Confined where
  chunks := h.chunks
  overrun := by
    have hchunks := h.chunks
    rw [FrontendBitmap.setChunk]
    dsimp only
    rw [h.overrun, Bool.false_or, decide_eq_false_iff_not]
    omega

end FrontendBitmap

/-! ### What the checks read -/

section Within

variable {n : ℕ}

lemma BackendBitmap.checkMiddleWords_within {words word : ℕ} (h : word + words ≤ n) :
    Lookups.Within n (checkMiddleWords Lookups.load words word) := by
  induction words generalizing word with
  | zero => exact Lookups.Within.pure _
  | succ words ih =>
    refine Lookups.Within.load_bind (by omega) fun value => ?_
    split_ifs
    · exact Lookups.Within.pure _
    · exact ih (by omega)

/-- The check of a range reads the words from its first packet to its last. -/
lemma BackendBitmap.checkChunkRange_within {start stop : ℕ} (hlt : start < stop)
    (hstop : stop < 2 ^ 32) (hn : stop ≤ 64 * n) :
    Lookups.Within n (checkChunkRange Lookups.load start stop) := by
  have hlast : (stop + (2 ^ 32 - 1)) % 2 ^ 32 = stop - 1 := by omega
  unfold checkChunkRange
  simp only [hlast]
  split_ifs
  · exact Lookups.Within.load_bind (by omega) fun _ => Lookups.Within.pure _
  · refine Lookups.Within.load_bind (by omega) fun firstValue => ?_
    split_ifs
    · exact Lookups.Within.pure _
    · refine Lookups.Within.bind (checkMiddleWords_within (by omega)) fun middle => ?_
      split_ifs
      · exact Lookups.Within.pure _
      · exact Lookups.Within.load_bind (by omega) fun _ => Lookups.Within.pure _

/-- The check of a chunk reads the words of the message. -/
lemma BackendBitmap.isChunkComplete_within {total ppc chunk : ℕ} (hppc : 0 < ppc)
    (hchunk : chunk * ppc < total) (hsize : total + ppc < 2 ^ 32) (hn : total ≤ 64 * n) :
    Lookups.Within n (isChunkComplete Lookups.load total ppc chunk) := by
  have hstart : chunk * ppc % 2 ^ 32 = chunk * ppc := Nat.mod_eq_of_lt (by omega)
  have hstop : (chunk * ppc + ppc) % 2 ^ 32 = chunk * ppc + ppc := Nat.mod_eq_of_lt (by omega)
  unfold isChunkComplete
  simp only [hstart, hstop]
  split_ifs
  · exact checkChunkRange_within hchunk (by omega) hn
  · exact checkChunkRange_within (by omega) (by omega) (by omega)

lemma FrontendBitmap.isChunkComplete_within {total : ℕ} (hn : total ≤ 64 * n) (chunk : ℕ) :
    Lookups.Within n (isChunkComplete Lookups.load total chunk) := by
  unfold isChunkComplete
  split_ifs
  · exact Lookups.Within.pure _
  · exact Lookups.Within.load_bind (by omega) fun _ => Lookups.Within.pure _

end Within

/-! ### The checks of the threads are these -/

section Over

variable {m : Type → Type} [Monad m] [LawfulMonad m] (load : ℕ → m U64)

lemma BackendBitmap.checkMiddleWords_runOn (words word : ℕ) :
    (checkMiddleWords Lookups.load words word).runOn load = checkMiddleWords load words word := by
  induction words generalizing word with
  | zero => rfl
  | succ words ih =>
    simp only [checkMiddleWords, Lookups.runOn_bind, Lookups.runOn_load]
    refine congrArg (load word >>= ·) (funext fun value => ?_)
    split_ifs
    · rfl
    · exact ih (word + 1)

lemma BackendBitmap.isChunkComplete_runOn (total ppc chunk : ℕ) :
    (isChunkComplete Lookups.load total ppc chunk).runOn load
      = isChunkComplete load total ppc chunk := by
  unfold isChunkComplete checkChunkRange
  dsimp only
  generalize chunk * ppc % 2 ^ 32 = start
  generalize (if _ > total then total else _) = stop
  split_ifs
  · simp only [Lookups.runOn_bind, Lookups.runOn_load, Lookups.runOn_pure]
  · simp only [Lookups.runOn_bind, Lookups.runOn_load]
    refine congrArg (load _ >>= ·) (funext fun firstValue => ?_)
    split_ifs
    · rfl
    · simp only [Lookups.runOn_bind, checkMiddleWords_runOn]
      refine congrArg (checkMiddleWords load _ _ >>= ·) (funext fun middle => ?_)
      split_ifs
      · rfl
      · simp only [Lookups.runOn_bind, Lookups.runOn_load, Lookups.runOn_pure]

lemma FrontendBitmap.isChunkComplete_runOn (total chunk : ℕ) :
    (isChunkComplete Lookups.load total chunk).runOn load = isChunkComplete load total chunk := by
  unfold isChunkComplete
  split_ifs
  · rfl
  · simp only [Lookups.runOn_bind, Lookups.runOn_load, Lookups.runOn_pure]

end Over

end SdrUdp
