import SdrUdp.Receiver

/-!
# Chunk checks on a bitmap at rest

The checks of `BackendBitmap` with loads that fail beyond the bitmap. Inside the message a check
agrees with the bits of its packets. For a chunk behind the message the start of the range is not
clamped.
-/

namespace SdrUdp

open SdrUdp.Core

namespace BackendBitmap

/-- A load from `packet_bitmap_`; there is nothing beyond its words. -/
def loadWord (b : BackendBitmap) (word : ℕ) : Option U64 :=
  if word < b.numWords then some (b.packetBitmap word) else none

/-- `is_chunk_complete`; `none` when it reads beyond the bitmap. -/
def chunkComplete (b : BackendBitmap) (chunkId : ℕ) : Option Bool :=
  isChunkComplete b.loadWord b.totalPackets b.packetsPerChunk chunkId

/-- The first packet of a chunk, in 32 bits. -/
def chunkStart (b : BackendBitmap) (chunkId : ℕ) : ℕ := chunkId * b.packetsPerChunk % 2 ^ 32

/-- The end of a chunk, in 32 bits and not beyond the message. -/
def chunkStop (b : BackendBitmap) (chunkId : ℕ) : ℕ :=
  let stop := (b.chunkStart chunkId + b.packetsPerChunk) % 2 ^ 32
  if stop > b.totalPackets then b.totalPackets else stop

def getChunkPacketCount (b : BackendBitmap) (chunkId : ℕ) : ℕ :=
  let start := b.chunkStart chunkId
  (List.range' start (b.chunkStop chunkId - start)).countP b.isPacketReceived

/-- The check from packet `start` to packet `last` looks at bit `i`. When `last` lies in an earlier
word than `start`, it looks at the end of one word and at the beginning of the other. -/
def Examines (start last i : ℕ) : Prop :=
  if start / 64 ≤ last / 64 then start ≤ i ∧ i ≤ last
  else start ≤ i ∧ i / 64 = start / 64 ∨ i / 64 = last / 64 ∧ i ≤ last

variable (b : BackendBitmap)

lemma loadWord_of_lt {word : ℕ} (h : word < b.numWords) :
    b.loadWord word = some (b.packetBitmap word) := if_pos h

lemma loadWord_of_ge {word : ℕ} (h : b.numWords ≤ word) : b.loadWord word = none :=
  if_neg h.not_gt

/-- A word is all ones when all its bits are set. -/
lemma packetBitmap_eq_allOnes (word : ℕ) :
    b.packetBitmap word = BitVec.allOnes 64 ↔ ∀ i, i / 64 = word → i ∈ b.received := by
  constructor
  · rintro h i rfl
    rw [received, mem_bits, h, BitVec.getLsbD_allOnes]
    exact decide_eq_true (Nat.mod_lt _ (by decide))
  · intro h
    refine BitVec.eq_of_getLsbD_eq fun i hi => ?_
    have hset := h (64 * word + i) (by omega)
    rw [received, mem_bits, show (64 * word + i) / 64 = word by omega,
      show (64 * word + i) % 64 = i by omega] at hset
    rw [hset, BitVec.getLsbD_allOnes, decide_eq_true hi]

/-- The middle words are found full when they exist and are full. -/
lemma checkMiddleWords_eq_true (n word : ℕ) :
    checkMiddleWords b.loadWord n word = some true ↔
      ∀ i, word ≤ i / 64 → i / 64 < word + n → i / 64 < b.numWords ∧ i ∈ b.received := by
  induction n generalizing word with
  | zero => exact iff_of_true rfl fun i hlo hhi => absurd hhi (by omega)
  | succ n ih =>
    rcases Nat.lt_or_ge word b.numWords with hlt | hge
    · simp only [checkMiddleWords, loadWord_of_lt b hlt, Option.bind_eq_bind, Option.bind_some]
      split_ifs with hword
      · refine iff_of_false (by simp) fun hall => hword ?_
        exact (b.packetBitmap_eq_allOnes word).mpr fun i hi => (hall i hi.ge (by omega)).2
      · rw [not_not, packetBitmap_eq_allOnes] at hword
        rw [ih]
        constructor
        · intro hall i hlo hhi
          by_cases hi : i / 64 = word
          · exact ⟨hi ▸ hlt, hword i hi⟩
          · exact hall i (by omega) (by omega)
        · exact fun hall i hlo hhi => hall i (by omega) (by omega)
    · simp only [checkMiddleWords, loadWord_of_ge b hge, Option.bind_eq_bind, Option.bind_none]
      refine iff_of_false (by simp) fun hall => ?_
      have := (hall (64 * word) (by omega) (by omega)).1
      omega

/-- A hole is found in the middle words when it exists. -/
lemma checkMiddleWords_eq_false (n word : ℕ) :
    checkMiddleWords b.loadWord n word = some false ↔
      ∃ i ∉ b.received, i / 64 < b.numWords ∧ word ≤ i / 64 ∧ i / 64 < word + n := by
  induction n generalizing word with
  | zero =>
    refine iff_of_false (by simp [checkMiddleWords]) ?_
    rintro ⟨i, -, -, hlo, hhi⟩
    omega
  | succ n ih =>
    rcases Nat.lt_or_ge word b.numWords with hlt | hge
    · simp only [checkMiddleWords, loadWord_of_lt b hlt, Option.bind_eq_bind, Option.bind_some]
      split_ifs with hword
      · rw [ne_eq, packetBitmap_eq_allOnes, not_forall] at hword
        obtain ⟨i, hi⟩ := hword
        rw [Classical.not_imp] at hi
        exact iff_of_true rfl ⟨i, hi.2, by omega, by omega, by omega⟩
      · rw [not_not, packetBitmap_eq_allOnes] at hword
        rw [ih]
        constructor
        · rintro ⟨i, hi, hlt', hlo, hhi⟩
          exact ⟨i, hi, hlt', by omega, by omega⟩
        · rintro ⟨i, hi, hlt', hlo, hhi⟩
          refine ⟨i, hi, hlt', ?_, by omega⟩
          have hne : i / 64 ≠ word := fun h => hi (hword i h)
          omega
    · simp only [checkMiddleWords, loadWord_of_ge b hge, Option.bind_eq_bind, Option.bind_none]
      refine iff_of_false (by simp) ?_
      rintro ⟨i, -, hlt, hlo, -⟩
      omega

/-- A check that goes on to `k` unless it fails. -/
lemma checkThen_eq_true (check k : Option Bool) :
    (check.bind fun r => if r = false then pure false else k) = some true ↔
      check = some true ∧ k = some true := by
  rcases check with - | - | - <;> simp

lemma checkThen_eq_false (check k : Option Bool) :
    (check.bind fun r => if r = false then pure false else k) = some false ↔
      check = some false ∨ check = some true ∧ k = some false := by
  rcases check with - | - | - <;> simp

/-- A masked word is not full. -/
lemma and_rangeMask_ne_iff (word start stop : ℕ) (hstop : stop ≤ 64) :
    b.packetBitmap word &&& rangeMask start stop ≠ rangeMask start stop ↔
      ∃ i ∉ b.received, 64 * word + start ≤ i ∧ i < 64 * word + stop := by
  rw [ne_eq, and_rangeMask_eq_iff _ _ _ _ hstop]
  push Not
  exact exists_congr fun i => by rw [received]; tauto

/-- When the range check finds everything set. -/
lemma checkChunkRange_eq_true {start stop : ℕ} (hlt : start < stop) (hstop : stop < 2 ^ 32) :
    checkChunkRange b.loadWord start stop = some true ↔
      ∀ i, start ≤ i → i < stop → i / 64 < b.numWords ∧ i ∈ b.received := by
  have hlast : (stop + (2 ^ 32 - 1)) % 2 ^ 32 = stop - 1 := by omega
  unfold checkChunkRange
  simp only [hlast]
  rcases Nat.lt_or_ge (start / 64) b.numWords with hfirst | hfirst
  · rw [loadWord_of_lt b hfirst]
    simp only [Option.bind_eq_bind, Option.bind_some]
    split_ifs with hsame hword
    · rw [Option.pure_def, Option.some.injEq, beq_iff_eq, and_rangeMask_eq_iff _ _ _ _ (by omega)]
      constructor
      · exact fun hall i hlo hhi => ⟨by omega, hall i (by omega) (by omega)⟩
      · exact fun hall i hlo hhi => (hall i (by omega) (by omega)).2
    · refine iff_of_false (by simp) fun hall => hword ?_
      rw [and_rangeMask_eq_iff _ _ _ _ le_rfl]
      exact fun i hlo hhi => (hall i (by omega) (by omega)).2
    · rw [not_not, and_rangeMask_eq_iff _ _ _ _ le_rfl] at hword
      rw [checkThen_eq_true, checkMiddleWords_eq_true]
      rcases Nat.lt_or_ge ((stop - 1) / 64) b.numWords with hend | hend
      · rw [loadWord_of_lt b hend, Option.bind_some, Option.pure_def, Option.some.injEq, beq_iff_eq,
          and_rangeMask_eq_iff _ _ _ _ (by omega)]
        constructor
        · rintro ⟨hmiddle, hlast⟩ i hlo hhi
          refine ⟨by omega, ?_⟩
          by_cases hi : i / 64 = start / 64
          · exact hword i (by omega) (by omega)
          · by_cases hi' : i / 64 = (stop - 1) / 64
            · exact hlast i (by omega) (by omega)
            · exact (hmiddle i (by omega) (by omega)).2
        · intro hall
          exact ⟨fun i hlo hhi => hall i (by omega) (by omega),
            fun i hlo hhi => (hall i (by omega) (by omega)).2⟩
      · rw [loadWord_of_ge b hend, Option.bind_none]
        refine iff_of_false (by simp) fun hall => ?_
        exact absurd (hall (stop - 1) (by omega) (by omega)).1 hend.not_gt
  · rw [loadWord_of_ge b hfirst]
    simp only [Option.bind_eq_bind, Option.bind_none, ite_self]
    exact iff_of_false (by simp) fun hall => absurd (hall start le_rfl hlt).1 hfirst.not_gt

/-- When the range check finds a hole, whatever its bounds are. -/
lemma checkChunkRange_eq_false (start stop : ℕ) :
    checkChunkRange b.loadWord start stop = some false ↔ start / 64 < b.numWords ∧
      ∃ i ∉ b.received, i / 64 < b.numWords ∧
        Examines start ((stop + (2 ^ 32 - 1)) % 2 ^ 32) i := by
  unfold checkChunkRange
  generalize (stop + (2 ^ 32 - 1)) % 2 ^ 32 = last
  dsimp only
  rcases Nat.lt_or_ge (start / 64) b.numWords with hfirst | hfirst
  · rw [loadWord_of_lt b hfirst, and_iff_right hfirst]
    simp only [Option.bind_eq_bind, Option.bind_some]
    split_ifs with hsame hword
    · rw [Option.pure_def, Option.some.injEq, beq_eq_false_iff_ne, b.and_rangeMask_ne_iff _ _ _
        (by omega)]
      refine exists_congr fun i => and_congr_right fun _ => ?_
      rw [Examines, if_pos hsame.le]
      omega
    · refine iff_of_true rfl ?_
      obtain ⟨i, hi, hlo, hhi⟩ := (b.and_rangeMask_ne_iff _ _ _ le_rfl).mp hword
      refine ⟨i, hi, by omega, ?_⟩
      unfold Examines
      split_ifs <;> omega
    · rw [not_not, and_rangeMask_eq_iff _ _ _ _ le_rfl] at hword
      have hlast : (b.loadWord (last / 64)).bind (fun value =>
          pure (value &&& rangeMask 0 (last % 64 + 1) == rangeMask 0 (last % 64 + 1)))
            = some false ↔
          last / 64 < b.numWords ∧ ∃ i ∉ b.received, i / 64 = last / 64 ∧ i ≤ last := by
        rcases Nat.lt_or_ge (last / 64) b.numWords with hend | hend
        · rw [loadWord_of_lt b hend, Option.bind_some, Option.pure_def, Option.some.injEq,
            beq_eq_false_iff_ne, b.and_rangeMask_ne_iff _ _ _ (by omega), and_iff_right hend]
          exact exists_congr fun i => and_congr_right fun _ => by omega
        · rw [loadWord_of_ge b hend, Option.bind_none]
          exact iff_of_false (by simp) fun h => absurd h.1 hend.not_gt
      rw [checkThen_eq_false, checkMiddleWords_eq_false, checkMiddleWords_eq_true, hlast]
      constructor
      · rintro (⟨i, hi, hlt, hlo, hhi⟩ | ⟨-, hend, i, hi, hsame', hle⟩)
        · exact ⟨i, hi, hlt, by unfold Examines; split_ifs <;> omega⟩
        · exact ⟨i, hi, by omega, by unfold Examines; split_ifs <;> omega⟩
      · rintro ⟨i, hi, hlt, hexamines⟩
        have hother : ¬ (start ≤ i ∧ i / 64 = start / 64) :=
          fun h => hi (hword i (by omega) (by omega))
        by_cases hhole : ∃ i ∉ b.received, i / 64 < b.numWords ∧ start / 64 + 1 ≤ i / 64 ∧
            i / 64 < start / 64 + 1 + (last / 64 - (start / 64 + 1))
        · exact Or.inl hhole
        · -- the hole is in the last word
          have hsame' : i / 64 = last / 64 ∧ i ≤ last := by
            unfold Examines at hexamines
            split_ifs at hexamines
            · exact ⟨by_contra fun hne => hhole ⟨i, hi, hlt, by omega, by omega⟩, hexamines.2⟩
            · exact hexamines.resolve_left hother
          refine Or.inr ⟨fun j hlo hhi => ?_, hsame'.1 ▸ hlt, i, hi, hsame'⟩
          exact ⟨by omega, by_contra fun hj => hhole ⟨j, hj, by omega, hlo, hhi⟩⟩
  · rw [loadWord_of_ge b hfirst]
    simp only [Option.bind_eq_bind, Option.bind_none, ite_self]
    exact iff_of_false (by simp) fun h => absurd h.1 hfirst.not_gt

lemma chunkComplete_eq (c : ℕ) :
    b.chunkComplete c = checkChunkRange b.loadWord (b.chunkStart c) (b.chunkStop c) := rfl

/-- When `is_chunk_complete` finds a hole, whatever the chunk is. -/
lemma chunkComplete_eq_false (c : ℕ) :
    b.chunkComplete c = some false ↔ b.chunkStart c / 64 < b.numWords ∧ ∃ o ∉ b.received,
      o / 64 < b.numWords ∧
        Examines (b.chunkStart c) ((b.chunkStop c + (2 ^ 32 - 1)) % 2 ^ 32) o := by
  rw [chunkComplete_eq, checkChunkRange_eq_false]

/-! ### Chunks of the message -/

/-- The bitmap of a message of `totalPackets` packets with the given content. -/
def withWords (totalPackets packetsPerChunk : ℕ) (words : ℕ → U64) : BackendBitmap :=
  { create totalPackets packetsPerChunk with packetBitmap := words }

/-- The check of a chunk agrees with the bits of its packets, which are also those that are counted,
and reads no word beyond the bitmap. -/
structure ChecksPackets (b : BackendBitmap) (c : ℕ) : Prop where
  inBounds : (b.chunkComplete c).isSome
  packets : b.chunkComplete c = some true ↔ ∀ o, c * b.packetsPerChunk ≤ o →
    o < min ((c + 1) * b.packetsPerChunk) b.totalPackets → b.isPacketReceived o = true
  count : b.chunkComplete c = some true ↔ b.getChunkPacketCount c
    = min ((c + 1) * b.packetsPerChunk) b.totalPackets - c * b.packetsPerChunk

section InMessage

variable {b : BackendBitmap} {c : ℕ} (hsize : b.totalPackets + b.packetsPerChunk < 2 ^ 32)
  (hc : c * b.packetsPerChunk < b.totalPackets)
include hsize hc

lemma chunkStart_of_lt : b.chunkStart c = c * b.packetsPerChunk := Nat.mod_eq_of_lt (by omega)

lemma chunkStop_of_lt : b.chunkStop c = min ((c + 1) * b.packetsPerChunk) b.totalPackets := by
  unfold chunkStop
  rw [chunkStart_of_lt hsize hc, Nat.mod_eq_of_lt (by omega), Nat.succ_mul]
  dsimp only
  split_ifs <;> omega

variable (hppc : 0 < b.packetsPerChunk)
include hppc

lemma chunkStart_lt_chunkStop : b.chunkStart c < b.chunkStop c := by
  rw [chunkStart_of_lt hsize hc, chunkStop_of_lt hsize hc, Nat.succ_mul]
  omega

/-- The packets that a check of the chunk is about. -/
lemma chunkComplete_eq_true : b.chunkComplete c = some true ↔
    ∀ o, b.chunkStart c ≤ o → o < b.chunkStop c → o / 64 < b.numWords ∧ o ∈ b.received := by
  have hstop := chunkStop_of_lt hsize hc
  rw [chunkComplete_eq, checkChunkRange_eq_true _ (chunkStart_lt_chunkStop hsize hc hppc)
    (by omega)]

lemma not_inBounds_of_numWords (hnum : b.numWords = 0) : ¬ (b.chunkComplete c).isSome := by
  intro hsome
  obtain ⟨r, hr⟩ := Option.isSome_iff_exists.mp hsome
  cases r with
  | true =>
    have hstart := ((chunkComplete_eq_true hsize hc hppc).mp hr _ le_rfl
      (chunkStart_lt_chunkStop hsize hc hppc)).1
    omega
  | false =>
    have hstart := ((b.chunkComplete_eq_false c).mp hr).1
    omega

/-- With a word for every packet the check is what it should be. -/
lemma checksPackets_of_numWords (hnum : b.numWords = (b.totalPackets + 63) / 64) :
    b.ChecksPackets c := by
  have hle : b.chunkStop c ≤ b.totalPackets := chunkStop_of_lt hsize hc ▸ min_le_right _ _
  have htrue : b.chunkComplete c = some true ↔
      ∀ o, b.chunkStart c ≤ o → o < b.chunkStop c → b.isPacketReceived o = true := by
    rw [chunkComplete_eq_true hsize hc hppc]
    refine forall_congr' fun o => forall_congr' fun _ => forall_congr' fun hhi => ?_
    rw [isPacketReceived_iff]
    exact and_congr_left fun _ => iff_of_true (by omega) (hhi.trans_le hle)
  refine ⟨?_, ?_, ?_⟩
  · by_cases hall : ∀ o, b.chunkStart c ≤ o → o < b.chunkStop c → b.isPacketReceived o = true
    · rw [htrue.mpr hall]
      rfl
    · have hfalse : b.chunkComplete c = some false := by
        push Not at hall
        obtain ⟨o, hlo, hhi, ho⟩ := hall
        have hmissing : o ∉ b.received := fun h => ho ((b.isPacketReceived_iff o).mpr ⟨by omega, h⟩)
        refine (b.chunkComplete_eq_false c).mpr ⟨by omega, o, hmissing, by omega, ?_⟩
        have hlast : (b.chunkStop c + (2 ^ 32 - 1)) % 2 ^ 32 = b.chunkStop c - 1 := by omega
        rw [hlast, Examines, if_pos (by omega)]
        omega
      rw [hfalse]
      rfl
  · rw [htrue, chunkStart_of_lt hsize hc, chunkStop_of_lt hsize hc]
  · rw [htrue, getChunkPacketCount, ← chunkStop_of_lt hsize hc, ← chunkStart_of_lt hsize hc]
    have hcount := List.countP_eq_length (p := b.isPacketReceived)
      (l := List.range' (b.chunkStart c) (b.chunkStop c - b.chunkStart c))
    rw [List.length_range'] at hcount
    rw [hcount]
    refine forall_congr' fun o => ?_
    rw [List.mem_range'_1]
    constructor
    · exact fun h ho => h ho.1 (by omega)
    · exact fun h hlo hhi => h ⟨hlo, by omega⟩

end InMessage

/-- Inside the message the check agrees with the packets, unless the number of words overflows. -/
theorem checksPackets_iff (words : ℕ → U64) {totalPackets packetsPerChunk c : ℕ}
    (hppc : 0 < packetsPerChunk) (hsize : totalPackets + packetsPerChunk < 2 ^ 32)
    (hc : c < (totalPackets + packetsPerChunk - 1) / packetsPerChunk) :
    (withWords totalPackets packetsPerChunk words).ChecksPackets c ↔
      totalPackets + 63 < 2 ^ 32 := by
  have hlt := (lt_ceil_iff hppc c).mp hc
  constructor
  · intro h
    by_contra hover
    -- the bitmap has no words at all
    have hnone : (totalPackets + 63) % 2 ^ 32 / 64 = 0 := by omega
    exact not_inBounds_of_numWords (b := withWords totalPackets packetsPerChunk words) hsize
      hlt hppc
      hnone h.inBounds
  · intro hwords
    exact checksPackets_of_numWords (b := withWords totalPackets packetsPerChunk words) hsize
      hlt hppc
      (congrArg (· / 64) (Nat.mod_eq_of_lt hwords))

/-- Three chunks of two packets. -/
theorem checksPackets_five : (withWords 5 2 fun _ => 0b10111#64).ChecksPackets 2 :=
  (checksPackets_iff _ (by decide) (by decide) (by decide)).mpr (by decide)

/-- Close to 2^32 packets the bitmap has no words, and every check reads beyond it. -/
theorem not_checksPackets_large : ¬ (withWords (2 ^ 32 - 2) 1 fun _ => 0#64).ChecksPackets 0 :=
  fun h => absurd h.inBounds (by decide)

/-! ### Chunks behind the message -/

/-- The chunk is not complete for the check, which reads no word beyond the bitmap, nor does a
round of the poller report it. -/
structure RejectsChunk (b : BackendBitmap) (c : ℕ) : Prop where
  rejects : b.chunkComplete c = some false
  reports : ∀ (id : ℕ) (m : ReceiverMemory) (msg : MessageContext) (f : FrontendBitmap),
    m.message id = some msg → msg.backendBitmap = some b → msg.frontendBitmap = some f →
      c ∉ f.completed → ∃ m', (pollingRound id).run m = some (⟨⟩, m') ∧ c ∉ bits (m'.chunkWords id)

/-- The 32-bit bounds of the chunk wrap around, the start comes to lie in the bitmap, and the check
comes by a bit that is not set. -/
structure WrapsToHole (b : BackendBitmap) (c : ℕ) : Prop where
  wraps : 2 ^ 32 ≤ c * b.packetsPerChunk + b.packetsPerChunk
  start : b.chunkStart c / 64 < b.numWords
  hole : ∃ o ∉ b.received, o / 64 < b.numWords ∧
    Examines (b.chunkStart c) ((b.chunkStop c + (2 ^ 32 - 1)) % 2 ^ 32) o

variable {b}

/-- Behind the message nothing but a wrap leads to a hole. -/
lemma wrapsToHole_of_chunkComplete {c : ℕ} (hpos : 0 < b.totalPackets)
    (hnum : b.numWords ≤ (b.totalPackets + 63) / 64) (hppc : 0 < b.packetsPerChunk)
    (hc : b.totalPackets ≤ c * b.packetsPerChunk) (h : b.chunkComplete c = some false) :
    b.WrapsToHole c := by
  obtain ⟨hstart, o, ho, hlt, hexamines⟩ := (b.chunkComplete_eq_false c).mp h
  refine ⟨?_, hstart, o, ho, hlt, hexamines⟩
  by_contra hwraps
  have hstart' : b.chunkStart c = c * b.packetsPerChunk := Nat.mod_eq_of_lt (by omega)
  have hstop : b.chunkStop c = b.totalPackets := by
    unfold chunkStop
    rw [hstart', Nat.mod_eq_of_lt (by omega), if_pos (by omega)]
  have hlast : (b.chunkStop c + (2 ^ 32 - 1)) % 2 ^ 32 = b.totalPackets - 1 := by omega
  -- the start lies in the last word, behind the last packet
  rw [hlast, Examines, if_pos (by omega)] at hexamines
  omega

end BackendBitmap

/-! ### The poller behind the message -/

/-- Over memory `m` the thread computes the value of `o`, if there is one, and changes nothing. -/
def Computes {M α : Type} (p : Prog M α) (m : M) (o : Option α) : Prop :=
  ∀ r, o = some r → p.run m = some (r, m)

namespace Computes

variable {M α β : Type} {p : Prog M α} {m : M} {o : Option α}

lemma pure (a : α) (m : M) : Computes (pure a : Prog M α) m (some a) := by
  intro r hr
  rw [← Option.some.inj hr, Prog.run_pure]

lemma bind {f : α → Prog M β} {g : α → Option β} (hp : Computes p m o)
    (hf : ∀ a, Computes (f a) m (g a)) : Computes (p >>= f) m (o.bind g) := by
  intro r hr
  obtain ⟨a, ha, hr⟩ := Option.bind_eq_some_iff.mp hr
  rw [Prog.run_bind, hp a ha, Option.bind_some, hf a r hr]

lemma ite {q : Prog M α} {o' : Option α} (c : Prop) [Decidable c] (hp : Computes p m o)
    (hq : Computes q m o') : Computes (if c then p else q) m (if c then o else o') := by
  split_ifs
  · exact hp
  · exact hq

end Computes

section Poller

variable {b : BackendBitmap} {id : ℕ} {m : ReceiverMemory}
  (hwords : m.packetWords id = b.packetBitmap)
include hwords

lemma computes_loadWord (word : ℕ) :
    Computes (Prog.load fun m => m.packetWords id word) m (b.loadWord word) := by
  intro r hr
  unfold BackendBitmap.loadWord at hr
  split_ifs at hr with h
  rw [Prog.run_load, hwords, Option.some.inj hr]

lemma computes_checkMiddleWords (n word : ℕ) :
    Computes (BackendBitmap.checkMiddleWords (fun w => Prog.load fun m => m.packetWords id w) n
      word) m
      (BackendBitmap.checkMiddleWords b.loadWord n word) := by
  induction n generalizing word with
  | zero => exact Computes.pure true m
  | succ n ih =>
    exact (computes_loadWord hwords word).bind fun value => .ite _ (.pure _ _) (ih (word + 1))

/-- The poller's check of a chunk is the check of the bitmap at rest. -/
lemma computes_chunkComplete (c : ℕ) :
    Computes (BackendBitmap.isChunkComplete (fun w => Prog.load fun m => m.packetWords id w)
      b.totalPackets b.packetsPerChunk c) m (b.chunkComplete c) := by
  have hload := computes_loadWord hwords
  exact .ite _ ((hload _).bind fun value => .pure _ _) ((hload _).bind fun value =>
    .ite _ (.pure _ _) ((computes_checkMiddleWords hwords _ _).bind fun middle =>
      .ite _ (.pure _ _) ((hload _).bind fun value => .pure _ _)))

end Poller

/-- The message in slot `id` has the packet bitmap `b`, and the bit of chunk `c` is not set. -/
def Unreported (b : BackendBitmap) (id c : ℕ) (m : ReceiverMemory) : Prop :=
  ∃ msg f, m.message id = some msg ∧ msg.backendBitmap = some b ∧ msg.frontendBitmap = some f ∧
    c ∉ f.completed

namespace Unreported

variable {b : BackendBitmap} {id c : ℕ} {m : ReceiverMemory}

lemma notMem_chunkWords (h : Unreported b id c m) : c ∉ bits (m.chunkWords id) := by
  obtain ⟨msg, f, hmsg, -, hfront, hc⟩ := h
  rwa [ReceiverMemory.chunkWords, ReceiverMemory.frontendBitmap, hmsg, Option.bind_some, hfront]

lemma packetWords_eq (h : Unreported b id c m) : m.packetWords id = b.packetBitmap := by
  obtain ⟨msg, f, hmsg, hback, -⟩ := h
  exact packetWords_of_message hmsg hback

lemma mapFrontend (h : Unreported b id c m) {g : FrontendBitmap → FrontendBitmap}
    (hg : ∀ f, c ∉ f.completed → c ∉ (g f).completed) : Unreported b id c (m.mapFrontend id g) := by
  obtain ⟨msg, f, hmsg, hback, hfront, hc⟩ := h
  exact ⟨{ msg with frontendBitmap := msg.frontendBitmap.map g }, g f,
    by simp [ReceiverMemory.mapFrontend, hmsg], hback, by simp [hfront], hg f hc⟩

/-- A round of the poller does not report a chunk that the check rejects. -/
lemma pollingRound (h : Unreported b id c m) (hcheck : b.chunkComplete c = some false) :
    ∃ m', (pollingRound id).run m = some (⟨⟩, m') ∧ Unreported b id c m' := by
  have hset : ∀ m c', (BackendBitmap.isChunkComplete
      (fun w => Prog.load fun m => ReceiverMemory.packetWords id m w) b.totalPackets
        b.packetsPerChunk
      c').run m = some (true, m) → Unreported b id c m →
        Unreported b id c (m.mapFrontend id fun f => f.setChunk c') := by
    intro m c' hrun hm
    have hne : c ≠ c' := by
      rintro rfl
      have hfalse := computes_chunkComplete hm.packetWords_eq c false hcheck
      rw [hfalse] at hrun
      exact absurd hrun (by simp)
    refine hm.mapFrontend fun f hc => ?_
    rw [FrontendBitmap.completed_setChunk, Set.mem_insert_iff, not_or]
    exact ⟨hne, hc⟩
  have hm := h
  obtain ⟨msg, f, hmsg, hback, hfront, -⟩ := hm
  simp only [SdrUdp.pollingRound, Prog.run_bind, Prog.run_load, Option.bind_some, hmsg,
    hfront, hback]
  split_ifs
  · exact ⟨m, rfl, h⟩
  · exact ⟨_, rfl, h.mapFrontend fun f hc => hc⟩
  · exact run_updateChunkBitmap (fun m c _ => hset m c) (Nat.zero_add f.totalChunks).le h

end Unreported

/-- Behind the message the check rejects a chunk only when the 32-bit bounds wrap around to a bit
that is not set. -/
theorem rejectsChunk_iff (words : ℕ → U64) {totalPackets packetsPerChunk c : ℕ}
    (hpos : 0 < totalPackets) (hppc : 0 < packetsPerChunk)
    (hc : (totalPackets + packetsPerChunk - 1) / packetsPerChunk ≤ c) :
    (BackendBitmap.withWords totalPackets packetsPerChunk words).RejectsChunk c ↔
      (BackendBitmap.withWords totalPackets packetsPerChunk words).WrapsToHole c := by
  have hge : totalPackets ≤ c * packetsPerChunk := by
    rw [← not_lt, ← lt_ceil_iff hppc c]
    exact hc.not_gt
  constructor
  · intro h
    refine BackendBitmap.wrapsToHole_of_chunkComplete hpos ?_ hppc hge h.rejects
    exact Nat.div_le_div_right (Nat.mod_le _ _)
  · intro h
    have hcheck := (BackendBitmap.chunkComplete_eq_false _ c).mpr ⟨h.start, h.hole⟩
    refine ⟨hcheck, fun id m msg f hmsg hback hfront hnot => ?_⟩
    obtain ⟨m', hrun, hm'⟩ := Unreported.pollingRound (m := m)
      ⟨msg, f, hmsg, hback, hfront, hnot⟩ hcheck
    exact ⟨m', hrun, hm'.notMem_chunkWords⟩

/-- Chunk 2^31 of chunks of two packets is taken for the first one. -/
theorem rejectsChunk_wrapped : (BackendBitmap.withWords 5 2 fun _ => 0#64).RejectsChunk
    (2 ^ 31) := by
  refine (rejectsChunk_iff _ (by decide) (by decide) (by decide)).mpr ⟨by decide, by decide, 0, ?_,
    by decide, by unfold BackendBitmap.Examines; decide⟩
  exact Bool.false_ne_true

/-- The chunk right behind the message is found complete with no packet received. -/
theorem not_rejectsChunk_behind : ¬ (BackendBitmap.withWords 5 2 fun _ => 0#64).RejectsChunk 3 :=
  fun h => absurd h.rejects (by decide)

end SdrUdp
