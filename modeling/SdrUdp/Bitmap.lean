import SdrUdp.Core.WordBits
import SdrUdp.Core.Interleaving
import Mathlib.Data.Nat.ModEq

/-!
# Packet and chunk bitmaps

`BackendBitmap` holds one bit per packet and `FrontendBitmap` one bit per chunk. The checks read the
bitmap word by word; they are written for any monad with a `load`, so the same text is a function of
a bitmap at rest and a thread over a bitmap that others are changing.
-/

namespace SdrUdp

open SdrUdp.Core

/-- One bit per packet. The array has `numWords` words; what `packetBitmap` says beyond them is no
part of it, and `overrun` tells whether a `fetch_or` went there. -/
structure BackendBitmap where
  packetBitmap : ℕ → U64
  numWords : ℕ
  totalPackets : ℕ
  packetsPerChunk : ℕ
  overrun : Bool

/-- One bit per chunk, and the poller's stop flag and thread handle. The words are as in
`BackendBitmap`. -/
structure FrontendBitmap where
  chunkBitmap : ℕ → U64
  numWords : ℕ
  totalChunks : ℕ
  packetsPerChunk : ℕ
  shouldStop : Bool
  polling : Bool
  overrun : Bool

namespace BackendBitmap

/-- The constructor; `total_packets + 63` is a 32-bit sum. -/
def create (totalPackets packetsPerChunk : ℕ) : BackendBitmap where
  packetBitmap _ := 0#64
  numWords := (totalPackets + 63) % 2 ^ 32 / 64
  totalPackets := totalPackets
  packetsPerChunk := packetsPerChunk
  overrun := false

def setPacketReceived (b : BackendBitmap) (packetOffset : ℕ) : Bool × BackendBitmap :=
  if packetOffset ≥ b.totalPackets then (false, b)
  else
    let mask := bitMask (packetOffset % 64)
    let oldValue := b.packetBitmap (packetOffset / 64)
    (oldValue &&& mask == 0#64,
      { b with
        packetBitmap := setBit b.packetBitmap packetOffset
        overrun := b.overrun || decide (b.numWords ≤ packetOffset / 64) })

def isPacketReceived (b : BackendBitmap) (packetOffset : ℕ) : Bool :=
  if packetOffset ≥ b.totalPackets then false
  else b.packetBitmap (packetOffset / 64) &&& bitMask (packetOffset % 64) != 0#64

section Checks

variable {m : Type → Type} [Monad m] (load : ℕ → m U64)

/-- The loop over the words strictly between the first and the last. -/
def checkMiddleWords : ℕ → ℕ → m Bool
  | 0, _ => pure true
  | words + 1, word => do
    let value ← load word
    if value ≠ BitVec.allOnes 64 then pure false
    else checkMiddleWords words (word + 1)

/-- All packets of `[start, stop)` are set. -/
def checkChunkRange (start stop : ℕ) : m Bool :=
  let last := (stop + (2 ^ 32 - 1)) % 2 ^ 32
  let startWord := start / 64
  let startBit := start % 64
  let endWord := last / 64
  let endBit := last % 64 + 1
  if startWord = endWord then do
    let mask := rangeMask startBit endBit
    let value ← load startWord
    pure (value &&& mask == mask)
  else do
    let firstMask := rangeMask startBit 64
    let firstValue ← load startWord
    if firstValue &&& firstMask ≠ firstMask then pure false
    else do
      let middle ← checkMiddleWords load (endWord - (startWord + 1)) (startWord + 1)
      if middle = false then pure false
      else do
        let lastMask := rangeMask 0 endBit
        let lastValue ← load endWord
        pure (lastValue &&& lastMask == lastMask)

/-- `is_chunk_complete`, with `chunk_id * packets_per_chunk_` computed in 32 bits. -/
def isChunkComplete (totalPackets packetsPerChunk chunkId : ℕ) : m Bool :=
  let start := chunkId * packetsPerChunk % 2 ^ 32
  let stop := (start + packetsPerChunk) % 2 ^ 32
  checkChunkRange load start (if stop > totalPackets then totalPackets else stop)

end Checks

/-- The packets whose bit is set. -/
def received (b : BackendBitmap) : Set ℕ := bits b.packetBitmap

@[simp] lemma received_create (totalPackets packetsPerChunk : ℕ) :
    (create totalPackets packetsPerChunk).received = ∅ := bits_zero

@[simp] lemma totalPackets_setPacketReceived (b : BackendBitmap) (o : ℕ) :
    (b.setPacketReceived o).2.totalPackets = b.totalPackets := by
  unfold setPacketReceived; split_ifs <;> rfl

@[simp] lemma packetsPerChunk_setPacketReceived (b : BackendBitmap) (o : ℕ) :
    (b.setPacketReceived o).2.packetsPerChunk = b.packetsPerChunk := by
  unfold setPacketReceived; split_ifs <;> rfl

lemma received_setPacketReceived (b : BackendBitmap) (o : ℕ) :
    (b.setPacketReceived o).2.received
      = if o < b.totalPackets then insert o b.received else b.received := by
  unfold setPacketReceived
  by_cases h : o < b.totalPackets
  · simp only [ge_iff_le, not_le.mpr h, if_false, if_pos h, received, bits_setBit]
  · simp only [ge_iff_le, not_lt.mp h, if_true, if_neg h]

lemma isPacketReceived_iff (b : BackendBitmap) (o : ℕ) :
    b.isPacketReceived o = true ↔ o < b.totalPackets ∧ o ∈ b.received := by
  unfold isPacketReceived
  by_cases h : o < b.totalPackets
  · simp only [ge_iff_le, not_le.mpr h, if_false, h, true_and, bne_iff_ne, received,
      and_bitMask_mod_ne_zero_iff]
  · simp only [ge_iff_le, not_lt.mp h, if_true, h, false_and, Bool.false_eq_true]

end BackendBitmap

namespace FrontendBitmap

/-- The constructor; polling starts later. -/
def create (backend : BackendBitmap) (totalChunks : ℕ) : FrontendBitmap where
  chunkBitmap _ := 0#64
  numWords := (totalChunks + 63) % 2 ^ 32 / 64
  totalChunks := totalChunks
  packetsPerChunk := backend.packetsPerChunk
  shouldStop := false
  polling := false
  overrun := false

section Checks

variable {m : Type → Type} [Monad m] (load : ℕ → m U64)

def isChunkComplete (totalChunks chunkId : ℕ) : m Bool :=
  if chunkId ≥ totalChunks then pure false
  else do
    let value ← load (chunkId / 64)
    pure (value &&& bitMask (chunkId % 64) != 0#64)

/-- The loop of `get_total_chunks_completed` over the chunks from `chunk` on. -/
def countCompleted (totalChunks : ℕ) : ℕ → ℕ → m ℕ
  | 0, _ => pure 0
  | chunks + 1, chunk => do
    let complete ← isChunkComplete load totalChunks chunk
    let count ← countCompleted totalChunks chunks (chunk + 1)
    pure (if complete then count + 1 else count)

def getTotalChunksCompleted (totalChunks : ℕ) : m ℕ :=
  countCompleted load totalChunks totalChunks 0

end Checks

/-- The chunks whose bit is set. -/
def completed (f : FrontendBitmap) : Set ℕ := bits f.chunkBitmap

/-- The `fetch_or` of `check_and_set_chunk`. -/
def setChunk (f : FrontendBitmap) (chunkId : ℕ) : FrontendBitmap :=
  { f with
    chunkBitmap := setBit f.chunkBitmap chunkId
    overrun := f.overrun || decide (f.numWords ≤ chunkId / 64) }

@[simp] lemma completed_setChunk (f : FrontendBitmap) (c : ℕ) :
    (f.setChunk c).completed = insert c f.completed := bits_setBit _ _

@[simp] lemma completed_create (b : BackendBitmap) (totalChunks : ℕ) :
    (create b totalChunks).completed = ∅ := bits_zero

end FrontendBitmap

/-! ### Checks against a bitmap that grows

`words m` is the bitmap as it lies in the memory `m`. Nobody clears a bit, so what one load saw
still holds when the last one has been made. -/

section Growing

variable {M : Type} {I : M → Prop} {R G : M → M → Prop} [Std.Refl G]
variable (words : M → ℕ → U64)

lemma BackendBitmap.checkMiddleWords_meets
    (hR : ∀ m m', R m m' → bits (words m) ⊆ bits (words m'))
    (hG : ∀ m m', G m m' → bits (words m) ⊆ bits (words m')) (n word : ℕ) (m : M) :
    Prog.Meets I R G
      (fun r m => r = true → ∀ i, 64 * word ≤ i → i < 64 * (word + n) → i ∈ bits (words m))
      (checkMiddleWords (fun w => Prog.load fun m => words m w) n word) m := by
  induction n generalizing word m with
  | zero => exact Prog.Meets.pure fun m' _ _ _ i hlo hhi => absurd hlo (by omega)
  | succ n ih =>
    refine Prog.Meets.load_bind fun m₁ _ _ => ?_
    split_ifs with hword
    · exact Prog.Meets.pure fun m' _ _ h => Bool.noConfusion h
    · rw [not_not] at hword
      have hset : ∀ i, 64 * word ≤ i → i < 64 * (word + 1) → i ∈ bits (words m₁) := by
        intro i hlo hhi
        rw [mem_bits, show i / 64 = word by omega, hword, BitVec.getLsbD_allOnes]
        simp [Nat.mod_lt]
      refine (Prog.Meets.frame
        (P := fun m => ∀ i, 64 * word ≤ i → i < 64 * (word + 1) → i ∈ bits (words m))
        (fun m m' h hP i hlo hhi => hR m m' h (hP i hlo hhi))
        (fun m m' h hP i hlo hhi => hG m m' h (hP i hlo hhi)) hset (ih (word + 1) m₁)).mono ?_
      rintro r m' _ ⟨hrest, hfirst⟩ hr i hlo hhi
      by_cases hi : i < 64 * (word + 1)
      · exact hfirst i hlo hi
      · exact hrest hr i (by omega) (by omega)

/-- The range check is sound however the bitmap grows between its loads. -/
lemma BackendBitmap.checkChunkRange_meets [Std.Refl R]
    (hR : ∀ m m', R m m' → bits (words m) ⊆ bits (words m'))
    (hG : ∀ m m', G m m' → bits (words m) ⊆ bits (words m')) {start stop : ℕ} (hlt : start < stop)
    (hstop : stop < 2 ^ 32) (m : M) :
    Prog.Meets I R G (fun r m => r = true → ∀ i, start ≤ i → i < stop → i ∈ bits (words m))
      (checkChunkRange (fun w => Prog.load fun m => words m w) start stop) m := by
  have hlast : (stop + (2 ^ 32 - 1)) % 2 ^ 32 = stop - 1 := by omega
  have hstable : ∀ (lo hi : ℕ) (Rel : M → M → Prop),
      (∀ m m', Rel m m' → bits (words m) ⊆ bits (words m')) → ∀ m m', Rel m m' →
      (∀ i, lo ≤ i → i < hi → i ∈ bits (words m)) → ∀ i, lo ≤ i → i < hi → i ∈ bits (words m') :=
    fun lo hi Rel hRel m m' h hP i hlo hhi => hRel m m' h (hP i hlo hhi)
  unfold checkChunkRange
  simp only [hlast]
  split_ifs with hsame
  · -- the range lies in one word
    refine Prog.Meets.load_bind fun m₁ _ _ => Prog.Meets.pure fun m₂ h₂ _ hr i hlo hhi => ?_
    rw [beq_iff_eq, and_rangeMask_eq_iff _ _ _ _ (by omega)] at hr
    exact hR _ _ h₂ (hr i (by omega) (by omega))
  · refine Prog.Meets.load_bind fun m₁ _ hI₁ => ?_
    split_ifs with hfirst
    · exact Prog.Meets.pure fun m' _ _ h => Bool.noConfusion h
    · rw [not_not, and_rangeMask_eq_iff _ _ _ _ le_rfl] at hfirst
      have hmid := checkMiddleWords_meets (I := I) words hR hG
        ((stop - 1) / 64 - (start / 64 + 1)) (start / 64 + 1) m₁
      refine Prog.Meets.bind hI₁ (Prog.Meets.frame (hstable _ _ R hR) (hstable _ _ G hG) hfirst
        hmid) ?_
      rintro r m₂ _ ⟨hmiddle, hfirst⟩
      split_ifs with hr
      · exact Prog.Meets.pure fun m' _ _ h => Bool.noConfusion h
      · have hr : r = true := by simpa using hr
        refine Prog.Meets.load_bind fun m₃ h₃ _ => Prog.Meets.pure fun m₄ h₄ _ hl i hlo hhi => ?_
        rw [beq_iff_eq, and_rangeMask_eq_iff _ _ _ _ (by omega)] at hl
        by_cases h1 : i < 64 * (start / 64) + 64
        · exact hR _ _ h₄ (hR _ _ h₃ (hfirst i (by omega) h1))
        · by_cases h2 : i < 64 * ((stop - 1) / 64)
          · exact hR _ _ h₄ (hR _ _ h₃ (hmiddle hr i (by omega) (by omega)))
          · exact hR _ _ h₄ (hl i (by omega) (by omega))

/-- A chunk found complete has all its packets, whatever was set during the check. -/
lemma BackendBitmap.isChunkComplete_meets [Std.Refl R]
    (hR : ∀ m m', R m m' → bits (words m) ⊆ bits (words m'))
    (hG : ∀ m m', G m m' → bits (words m) ⊆ bits (words m')) {total ppc chunk : ℕ}
    (hppc : 0 < ppc) (hchunk : chunk * ppc < total) (hsize : total + ppc < 2 ^ 32) (m : M) :
    Prog.Meets I R G
      (fun r m => r = true → ∀ i, chunk * ppc ≤ i → i < (chunk + 1) * ppc → i < total →
        i ∈ bits (words m))
      (isChunkComplete (fun w => Prog.load fun m => words m w) total ppc chunk) m := by
  have hstart : chunk * ppc % 2 ^ 32 = chunk * ppc := Nat.mod_eq_of_lt (by omega)
  have hstop : (chunk * ppc + ppc) % 2 ^ 32 = (chunk + 1) * ppc := by
    rw [Nat.mod_eq_of_lt (by omega), Nat.succ_mul]
  unfold isChunkComplete
  simp only [hstart, hstop]
  have hsucc : (chunk + 1) * ppc = chunk * ppc + ppc := Nat.succ_mul _ _
  split_ifs with hclamp
  · refine (checkChunkRange_meets words hR hG hchunk (by omega) m).mono ?_
    exact fun r m' _ h hr i hlo _ hhi => h hr i hlo hhi
  · refine (checkChunkRange_meets words hR hG (by omega) (by omega) m).mono ?_
    exact fun r m' _ h hr i hlo hhi _ => h hr i hlo hhi

/-- A chunk bit seen set is set, and stays so. -/
lemma FrontendBitmap.isChunkComplete_meets
    (hR : ∀ m m', R m m' → bits (words m) ⊆ bits (words m')) (total chunk : ℕ) (m : M) :
    Prog.Meets I R G (fun r m => r = true → chunk < total ∧ chunk ∈ bits (words m))
      (isChunkComplete (fun w => Prog.load fun m => words m w) total chunk) m := by
  unfold isChunkComplete
  split_ifs with h
  · exact Prog.Meets.pure fun _ _ _ hr => Bool.noConfusion hr
  · refine Prog.Meets.load_bind fun m₁ _ _ => Prog.Meets.pure fun m₂ h₂ _ hr => ?_
    rw [bne_iff_ne, and_bitMask_mod_ne_zero_iff] at hr
    exact ⟨not_le.mp h, hR _ _ h₂ hr⟩

/-- The count is at most the number of chunks looked at, and reaches it only when all are set. -/
lemma FrontendBitmap.countCompleted_meets [Std.Refl R]
    (hR : ∀ m m', R m m' → bits (words m) ⊆ bits (words m'))
    (hG : ∀ m m', G m m' → bits (words m) ⊆ bits (words m')) (total chunks chunk : ℕ) {m : M}
    (hI : I m) :
    Prog.Meets I R G
      (fun count m => count ≤ chunks ∧
        (count = chunks → ∀ c, chunk ≤ c → c < chunk + chunks → c ∈ bits (words m)))
      (countCompleted (fun w => Prog.load fun m => words m w) total chunks chunk) m := by
  induction chunks generalizing chunk m with
  | zero =>
    exact Prog.Meets.pure fun _ _ _ => ⟨le_rfl, fun _ c hlo hhi => absurd hhi (by omega)⟩
  | succ chunks ih =>
    refine Prog.Meets.bind hI (isChunkComplete_meets (G := G) words hR total chunk m) ?_
    intro complete m₁ hI₁ hcomplete
    have hrest : Prog.Meets I R G
        (fun count m => (count ≤ chunks ∧ (count = chunks → ∀ c, chunk + 1 ≤ c →
          c < chunk + 1 + chunks → c ∈ bits (words m))) ∧
          (complete = true → chunk ∈ bits (words m)))
        (countCompleted (fun w => Prog.load fun m => words m w) total chunks (chunk + 1)) m₁ :=
      Prog.Meets.frame (fun m m' h hP hc => hR m m' h (hP hc))
        (fun m m' h hP hc => hG m m' h (hP hc)) (fun hc => (hcomplete hc).2) (ih (chunk + 1) hI₁)
    refine Prog.Meets.bind hI₁ hrest ?_
    rintro count m₂ _ ⟨⟨hle, hall⟩, hfirst⟩
    refine Prog.Meets.pure fun m₃ h₃ _ => ?_
    cases complete with
    | false => exact ⟨by simpa using hle.trans (Nat.le_succ _), fun h => by simp at h; omega⟩
    | true =>
      simp only [if_true]
      refine ⟨Nat.succ_le_succ hle, fun h c hlo hhi => hR _ _ h₃ ?_⟩
      by_cases hc : c = chunk
      · exact hc ▸ hfirst rfl
      · exact hall (Nat.succ.inj h) c (by omega) (by omega)

/-- A total that reaches the number of chunks says that every chunk bit is set. -/
lemma FrontendBitmap.getTotalChunksCompleted_meets [Std.Refl R]
    (hR : ∀ m m', R m m' → bits (words m) ⊆ bits (words m'))
    (hG : ∀ m m', G m m' → bits (words m) ⊆ bits (words m')) (total : ℕ) {m : M} (hI : I m) :
    Prog.Meets I R G
      (fun count m => total ≤ count → ∀ c < total, c ∈ bits (words m))
      (getTotalChunksCompleted (fun w => Prog.load fun m => words m w) total) m := by
  refine (countCompleted_meets words hR hG total total 0 hI).mono ?_
  rintro count m' _ ⟨hle, hall⟩ hge c hc
  exact hall (by omega) c (Nat.zero_le c) (by omega)

end Growing

/-! ### Checks that find everything set

A check that starts when all its bits are set finds them set, since nobody clears a bit. -/

section Complete

variable {M : Type} {I : M → Prop} {R G : M → M → Prop} [Std.Refl G]
variable (words : M → ℕ → U64)

lemma BackendBitmap.checkMiddleWords_finds
    (hR : ∀ m m', R m m' → bits (words m) ⊆ bits (words m')) (n word : ℕ) {m : M}
    (hset : ∀ i, 64 * word ≤ i → i < 64 * (word + n) → i ∈ bits (words m)) :
    Prog.Meets I R G (fun r _ => r = true)
      (checkMiddleWords (fun w => Prog.load fun m => words m w) n word) m := by
  induction n generalizing word m with
  | zero => exact Prog.Meets.pure fun _ _ _ => rfl
  | succ n ih =>
    refine Prog.Meets.load_bind fun m₁ h₁ _ => ?_
    have hset₁ := fun i hlo hhi => hR _ _ h₁ (hset i hlo hhi)
    have hword : words m₁ word = BitVec.allOnes 64 := by
      refine BitVec.eq_of_getLsbD_eq fun i hi => ?_
      have := hset₁ (64 * word + i) (by omega) (by omega)
      rw [mem_bits, show (64 * word + i) / 64 = word by omega,
        show (64 * word + i) % 64 = i by omega] at this
      rw [this, BitVec.getLsbD_allOnes, decide_eq_true hi]
    rw [hword, if_neg (not_not.mpr rfl)]
    exact ih (word + 1) fun i hlo hhi => hset₁ i (by omega) (by omega)

lemma BackendBitmap.checkChunkRange_finds [Std.Refl R]
    (hR : ∀ m m', R m m' → bits (words m) ⊆ bits (words m'))
    (hG : ∀ m m', G m m' → bits (words m) ⊆ bits (words m')) {start stop : ℕ} (hlt : start < stop)
    (hstop : stop < 2 ^ 32) {m : M}
    (hset : ∀ i, start ≤ i → i < stop → i ∈ bits (words m)) :
    Prog.Meets I R G (fun r _ => r = true)
      (checkChunkRange (fun w => Prog.load fun m => words m w) start stop) m := by
  have hlast : (stop + (2 ^ 32 - 1)) % 2 ^ 32 = stop - 1 := by omega
  unfold checkChunkRange
  simp only [hlast]
  split_ifs with hsame
  · refine Prog.Meets.load_bind fun m₁ h₁ _ => Prog.Meets.pure fun m₂ _ _ => ?_
    rw [beq_iff_eq, and_rangeMask_eq_iff _ _ _ _ (by omega)]
    exact fun i hlo hhi => hR _ _ h₁ (hset i (by omega) (by omega))
  · refine Prog.Meets.load_bind fun m₁ h₁ hI₁ => ?_
    have hset₁ := fun i hlo hhi => hR _ _ h₁ (hset i hlo hhi)
    have hfirst : words m₁ (start / 64) &&& rangeMask (start % 64) 64
        = rangeMask (start % 64) 64 := by
      rw [and_rangeMask_eq_iff _ _ _ _ le_rfl]
      exact fun i hlo hhi => hset₁ i (by omega) (by omega)
    rw [if_neg (not_not.mpr hfirst)]
    have hmid := checkMiddleWords_finds (I := I) (G := G) words hR
      ((stop - 1) / 64 - (start / 64 + 1)) (start / 64 + 1)
      fun i hlo hhi => hset₁ i (by omega) (by omega)
    refine Prog.Meets.bind hI₁ (Prog.Meets.frame
      (P := fun m => ∀ i, start ≤ i → i < stop → i ∈ bits (words m))
      (fun m m' h hP i hlo hhi => hR m m' h (hP i hlo hhi))
      (fun m m' h hP i hlo hhi => hG m m' h (hP i hlo hhi)) hset₁ hmid) ?_
    rintro r m₂ _ ⟨rfl, hset₂⟩
    refine Prog.Meets.load_bind fun m₃ h₃ _ => Prog.Meets.pure fun m₄ _ _ => ?_
    rw [beq_iff_eq, and_rangeMask_eq_iff _ _ _ _ (by omega)]
    exact fun i hlo hhi => hR _ _ h₃ (hset₂ i (by omega) (by omega))

/-- A chunk whose packets are all set is found complete. -/
lemma BackendBitmap.isChunkComplete_finds [Std.Refl R]
    (hR : ∀ m m', R m m' → bits (words m) ⊆ bits (words m'))
    (hG : ∀ m m', G m m' → bits (words m) ⊆ bits (words m')) {total ppc chunk : ℕ}
    (hppc : 0 < ppc) (hchunk : chunk * ppc < total) (hsize : total + ppc < 2 ^ 32) {m : M}
    (hset : ∀ i, chunk * ppc ≤ i → i < (chunk + 1) * ppc → i < total →
      i ∈ bits (words m)) :
    Prog.Meets I R G (fun r _ => r = true)
      (isChunkComplete (fun w => Prog.load fun m => words m w) total ppc chunk) m := by
  have hstart : chunk * ppc % 2 ^ 32 = chunk * ppc := Nat.mod_eq_of_lt (by omega)
  have hstop : (chunk * ppc + ppc) % 2 ^ 32 = (chunk + 1) * ppc := by
    rw [Nat.mod_eq_of_lt (by omega), Nat.succ_mul]
  have hsucc : (chunk + 1) * ppc = chunk * ppc + ppc := Nat.succ_mul _ _
  unfold isChunkComplete
  simp only [hstart, hstop]
  split_ifs with hclamp
  · exact checkChunkRange_finds words hR hG hchunk (by omega)
      fun i hlo hhi => hset i hlo (by omega) hhi
  · exact checkChunkRange_finds words hR hG (by omega) (by omega)
      fun i hlo hhi => hset i hlo hhi (by omega)

end Complete

/-- One look at a bitmap that nobody changes. -/
lemma FrontendBitmap.isChunkComplete_iff (words : ℕ → U64) (total chunk : ℕ) :
    isChunkComplete (m := Id) words total chunk = true ↔ chunk < total ∧ chunk ∈ bits words := by
  unfold isChunkComplete
  split_ifs with h
  · exact iff_of_false (by simp) fun hr => hr.1.not_ge h
  · rw [← and_bitMask_mod_ne_zero_iff]
    exact bne_iff_ne.trans ⟨fun hr => ⟨not_le.mp h, hr⟩, And.right⟩

/-- The count is the number of set bits among the chunks looked at. -/
lemma FrontendBitmap.countCompleted_eq_countP (words : ℕ → U64) (total chunks chunk : ℕ) :
    countCompleted (m := Id) words total chunks chunk
      = (List.range' chunk chunks).countP fun c => isChunkComplete (m := Id) words total c := by
  induction chunks generalizing chunk with
  | zero => rfl
  | succ chunks ih =>
    rw [List.range'_succ, List.countP_cons, ← ih (chunk + 1)]
    cases hc : isChunkComplete (m := Id) words total chunk with
    | false => simp only [countCompleted, hc]; rfl
    | true => simp only [countCompleted, hc]; rfl

/-- The count reaches the number of chunks exactly when every chunk bit is set. -/
lemma FrontendBitmap.le_countCompleted_iff (words : ℕ → U64) (total : ℕ) {count : ℕ}
    (hcount : countCompleted (m := Id) words total total 0 = count) :
    total ≤ count ↔ ∀ c < total, c ∈ bits words := by
  obtain ⟨complete, hcomplete⟩ : ∃ complete : ℕ → Bool,
      complete = fun c => isChunkComplete (m := Id) words total c := ⟨_, rfl⟩
  have hlen : (List.range' 0 total).length = total := List.length_range'
  have hle := List.countP_le_length (p := complete) (l := List.range' 0 total)
  have hall := List.countP_eq_length (p := complete) (l := List.range' 0 total)
  rw [countCompleted_eq_countP, ← hcomplete] at hcount
  rw [hlen, hcount] at hle hall
  have hfull : total ≤ count ↔ count = total := ⟨fun h => le_antisymm hle h, fun h => h.ge⟩
  rw [hfull, hall, hcomplete]
  simp only [List.mem_range'_1]
  constructor
  · intro h c hc
    exact ((isChunkComplete_iff words total c).mp (h c ⟨Nat.zero_le c, by omega⟩)).2
  · intro h c hc
    exact (isChunkComplete_iff words total c).mpr ⟨by omega, h c (by omega)⟩

/-! ### The count of a bitmap that nobody changes -/

section Frozen

variable {M : Type} {I P : M → Prop} {R G : M → M → Prop} [Std.Refl R] [Std.Refl G]

/-- A thread that counts while the bitmap stays the same gets the count at rest. -/
lemma FrontendBitmap.countCompleted_frozen (words : M → ℕ → U64) {w : ℕ → U64}
    (hR : ∀ m m', R m m' → P m → P m') (hG : ∀ m m', G m m' → P m → P m')
    (hw : ∀ m, P m → words m = w) (total chunks chunk : ℕ) {m : M} (hI : I m) (hP : P m) :
    Prog.Meets I R G (fun count _ => count = countCompleted (m := Id) w total chunks chunk)
      (countCompleted (fun i => Prog.load fun m => words m i) total chunks chunk) m := by
  induction chunks generalizing chunk m with
  | zero => exact Prog.Meets.pure fun _ _ _ => rfl
  | succ chunks ih =>
    have hlook : Prog.Meets I R G
        (fun complete m => complete = isChunkComplete (m := Id) w total chunk ∧ P m)
        (isChunkComplete (fun i => Prog.load fun m => words m i) total chunk) m := by
      refine Prog.Meets.frame hR hG hP ?_
      unfold isChunkComplete
      split_ifs
      · exact Prog.Meets.pure fun _ _ _ => rfl
      · refine Prog.Meets.load_bind fun m₁ h₁ _ => Prog.Meets.pure fun _ _ _ => ?_
        rw [hw m₁ (hR m m₁ h₁ hP)]
        rfl
    refine Prog.Meets.bind hI hlook ?_
    rintro complete m₁ hI₁ ⟨rfl, hP₁⟩
    refine Prog.Meets.bind hI₁ (ih (chunk + 1) hI₁ hP₁) ?_
    rintro count m₂ _ rfl
    exact Prog.Meets.pure fun _ _ _ => rfl

end Frozen

end SdrUdp
