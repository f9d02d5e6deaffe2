import SdrUdp.EcReceiver
import Mathlib.Tactic.IntervalCases

/-!
# What decoding gives back

When `try_decode` returns true because all data chunks are there, the buffer holds the message. When
it rebuilds chunks it works on a matrix that the inversion has destroyed, and the result is
arbitrary.
-/

namespace SdrUdp

open SdrUdp.Core

/-! ### Copies -/

lemma copyBytes_of_notMem (buffer : ℕ → U8) {offset len i : ℕ}
    (hi : i < offset ∨ offset + len ≤ i) (source : ℕ → U8) :
    copyBytes buffer offset len source i = buffer i :=
  if_neg (by omega)

lemma copyBytes_prefix (buffer : ℕ → U8) {len i : ℕ} (hi : i < len) (source : ℕ → U8) :
    copyBytes buffer 0 len source i = source i := by
  unfold copyBytes
  rw [if_pos (by omega), Nat.sub_zero]

/-! ### Layouts -/

namespace ECLayout

/-- A data chunk starts inside the message. -/
lemma chunk_start_lt {l : ECLayout} {c : ℕ} (hc : c < l.dataChunks) :
    c * l.chunkBytes < l.dataBytes := by
  have hc : c < (l.dataBytes + l.chunkBytes - 1) / l.chunkBytes :=
    hc.trans_le ((Nat.mod_le _ _).trans (Nat.div_le_div_right (Nat.mod_le _ _)))
  have hmul : (c + 1) * l.chunkBytes ≤ l.dataBytes + l.chunkBytes - 1 :=
    (Nat.le_div_iff_mul_le l.chunkBytes_pos).mp hc
  have hpos := l.chunkBytes_pos
  rw [Nat.succ_mul] at hmul
  omega

/-- A message that the storage can hold is covered by its data chunks. -/
lemma covered {l : ECLayout} (hsize : l.dataBytes ≤ l.totalBytes) :
    l.dataBytes ≤ l.dataChunks * l.chunkBytes := by
  have htotal : l.totalBytes ≤ (2 ^ 32 - 1) * l.chunkBytes :=
    (Nat.mod_le _ _).trans (Nat.mul_le_mul_right _ (Nat.le_pred_of_lt (Nat.mod_lt _ (by decide))))
  have hpos := l.chunkBytes_pos
  have hlt := l.chunkBytes_lt
  have hwrap : (l.dataBytes + l.chunkBytes - 1) % 2 ^ 64 = l.dataBytes + l.chunkBytes - 1 :=
    Nat.mod_eq_of_lt (by omega)
  have hchunks : (l.dataBytes + l.chunkBytes - 1) / l.chunkBytes < 2 ^ 32 := by
    rw [Nat.div_lt_iff_lt_mul hpos]
    omega
  rw [dataChunks, ecDataChunks, ceilDiv, hwrap, Nat.mod_eq_of_lt hchunks]
  have := Nat.lt_div_mul_add (a := l.dataBytes + l.chunkBytes - 1) hpos
  omega

/-- The data chunks hold the message, and every chunk offset is a 32-bit number. -/
structure Fits (l : ECLayout) : Prop where
  data : l.dataBytes ≤ l.dataChunks * l.chunkBytes
  offsets : (l.dataChunks + l.stripes * l.m) * l.chunkBytes < 2 ^ 32

/-- The data chunks hold the message, 32 bits count the chunks, and the last one may reach
beyond the bytes that 32 bits count. -/
structure Addressable (l : ECLayout) : Prop where
  data : l.dataBytes ≤ l.dataChunks * l.chunkBytes
  chunks : l.dataChunks + l.stripes * l.m < 2 ^ 32
  offsets : ∀ c < l.dataChunks + l.stripes * l.m, c * l.chunkBytes < 2 ^ 32

lemma Fits.addressable {l : ECLayout} (hfits : l.Fits) : l.Addressable where
  data := hfits.data
  chunks := (Nat.le_mul_of_pos_right _ l.chunkBytes_pos).trans_lt hfits.offsets
  offsets _ hc := (Nat.mul_le_mul_right _ hc.le).trans_lt hfits.offsets

namespace Addressable

variable {l : ECLayout} (hl : l.Addressable)
include hl

/-- Parity chunks lie where their number says, behind the data. -/
lemma parityOffset {s p : ℕ} (hs : s < l.stripes) (hp : p < l.m) :
    ecOffset (l.parityChunk s p) l.chunkBytes = (l.dataChunks + s * l.m + p) * l.chunkBytes := by
  have hlt := stripe_mul_lt hs hp
  exact parityOffset_of_lt (hl.offsets _ (by omega))

lemma totalBytes_eq : l.totalBytes = (l.dataChunks + l.stripes * l.m) * l.chunkBytes := by
  have hchunks := hl.chunks
  have hbytes : (l.dataChunks + l.stripes * l.m) * l.chunkBytes < 2 ^ 32 * 2 ^ 32 :=
    Nat.mul_lt_mul'' hchunks l.chunkBytes_lt
  rw [totalBytes, totalChunks, parityChunks,
    Nat.mod_eq_of_lt (show l.stripes * l.m < 2 ^ 32 by omega),
    Nat.mod_eq_of_lt hchunks, Nat.mod_eq_of_lt (by omega)]

lemma dataBytes_le : l.dataBytes ≤ l.totalBytes := by
  rw [hl.totalBytes_eq]
  exact hl.data.trans (Nat.mul_le_mul_right _ (by omega))

end Addressable

end ECLayout

/-! ### Encoding keeps the message -/

/-- What is handed to `sdr_send_post` begins with the message, whatever the message is. -/
def EncodesIntact (isal : Isal) (l : ECLayout) : Prop :=
  ∀ message : ℕ → U8, ∀ i < l.dataBytes, encode isal l message i = message i

lemma encodeStripe_data (isal : Isal) {l : ECLayout} (hl : l.Addressable)
    {s : ℕ} (hs : s < l.stripes) (storage : ℕ → U8) {i : ℕ}
    (hi : i < l.dataChunks * l.chunkBytes) : encodeStripe isal l storage s i = storage i := by
  unfold encodeStripe
  refine foldl_keeps (P := fun storage' : ℕ → U8 => storage' i = storage i) ?_ rfl
  intro storage' p hp hkept
  rw [hl.parityOffset hs (List.mem_range.mp hp), copyBytes_of_notMem _ (Or.inl ?_), hkept]
  exact hi.trans_le (Nat.mul_le_mul_right _ (by omega))

/-- The message in its data chunks, the last of them filled up with zeros. -/
def ECLayout.padded (l : ECLayout) (message : ℕ → U8) (i : ℕ) : U8 :=
  if i < l.dataBytes then message i else 0#8

/-- No stripe changes the data. -/
lemma encodeStripes_data (isal : Isal) {l : ECLayout} (hl : l.Addressable) (message : ℕ → U8)
    {n : ℕ}
    (hn : n ≤ l.stripes) {i : ℕ} (hi : i < l.dataChunks * l.chunkBytes) :
    (List.range n).foldl (encodeStripe isal l)
      (copyBytes (fun _ => 0) 0 (min l.dataBytes l.totalBytes) message) i = l.padded message i := by
  refine foldl_keeps (P := fun storage : ℕ → U8 => storage i = l.padded message i) ?_ ?_
  · intro storage s hs hkept
    rw [encodeStripe_data isal hl ((List.mem_range.mp hs).trans_le hn) _ hi, hkept]
  · rw [min_eq_left hl.dataBytes_le]
    unfold ECLayout.padded
    split_ifs with hlt
    · exact copyBytes_prefix _ hlt _
    · exact copyBytes_of_notMem _ (Or.inr (by omega)) _

lemma encodesIntact_of_addressable (isal : Isal) {l : ECLayout} (hl : l.Addressable) :
    EncodesIntact isal l := by
  intro message i hi
  rw [encode, encodeStripes_data isal hl message le_rfl (hi.trans_le hl.data)]
  exact if_pos hi

lemma encodesIntact_of_fits (isal : Isal) {l : ECLayout} (hfits : l.Fits) : EncodesIntact isal l :=
  encodesIntact_of_addressable isal hfits.addressable

/-- The storage depends only on the bytes that fit into it. -/
lemma dataBytes_le_of_intact {isal : Isal} {l : ECLayout} (h : EncodesIntact isal l) :
    l.dataBytes ≤ l.totalBytes := by
  by_contra hlt
  rw [not_le] at hlt
  have hsame : encode isal l (Function.update (fun _ => 0#8) l.totalBytes 1#8)
      = encode isal l fun _ => 0#8 := by
    unfold encode
    congr 1
    funext i
    unfold copyBytes
    split_ifs with hi
    · exact Function.update_of_ne (by omega) _ _
    · rfl
  have hone := h (Function.update (fun _ => 0#8) l.totalBytes 1#8) _ hlt
  rw [hsame, h _ _ hlt, Function.update_self] at hone
  exact absurd hone (by decide)

/-! ### What a receiver holds -/

/-- The buffer holds the sender's bytes in every complete chunk; nothing is said about the rest. -/
def HoldsReceived (isal : Isal) (l : ECLayout) (message : ℕ → U8) (complete : ℕ → Bool)
    (buffer : ℕ → U8) : Prop :=
  ∀ c, complete c = true → ∀ i < l.chunkBytes,
    buffer (c * l.chunkBytes + i) = encode isal l message (c * l.chunkBytes + i)

/-- The received chunks in a buffer that held `garbage`. -/
def receivedOver (garbage : ℕ → U8) (isal : Isal) (l : ECLayout) (message : ℕ → U8)
    (complete : ℕ → Bool) : ℕ → U8 :=
  fun i => if complete (i / l.chunkBytes) then encode isal l message i else garbage i

lemma holdsReceived_receivedOver (garbage : ℕ → U8) (isal : Isal) (l : ECLayout)
    (message : ℕ → U8) (complete : ℕ → Bool) :
    HoldsReceived isal l message complete (receivedOver garbage isal l message complete) := by
  intro c hc i hi
  have hdiv : (c * l.chunkBytes + i) / l.chunkBytes = c := by
    rw [mul_comm, Nat.mul_add_div l.chunkBytes_pos, Nat.div_eq_of_lt hi, add_zero]
  rw [receivedOver, hdiv, if_pos hc]

/-- The same memory with other bytes in a buffer of the application. -/
def ReceiverMemory.setBuffer (b : ℕ) (buffer : ℕ → U8) (m : ReceiverMemory) : ReceiverMemory :=
  { m with buffers := Function.update m.buffers b buffer }

/-- The same library, leaving other values behind in a matrix it has inverted. -/
def Isal.withLeftover (isal : Isal) (leftover : ByteMatrix → ℕ → ByteMatrix) : Isal :=
  { isal with leftover }

lemma Isal.Contract.withLeftover {isal : Isal} (h : isal.Contract)
    (leftover : ByteMatrix → ℕ → ByteMatrix) : (isal.withLeftover leftover).Contract :=
  ⟨h.systematic, h.encode, h.inverse, h.invertible⟩

lemma Isal.Contract.isSome_iff {isal : Isal} (h : isal.Contract) (matrix : ByteMatrix) (k : ℕ) :
    (isal.gfInvertMatrix matrix k).isSome ↔ ∃ inverse, IsInverse k inverse matrix := by
  constructor
  · intro hsome
    obtain ⟨inverse, hinverse⟩ := Option.isSome_iff_exists.mp hsome
    exact ⟨inverse, h.inverse _ _ _ hinverse⟩
  · rintro ⟨inverse, hinverse⟩
    exact h.invertible _ _ _ hinverse

namespace ECReceiver

/-- The receive is posted in slot `id` with the application's buffer `b`. -/
structure Listens (r : ECReceiver) (id b : ℕ) (m : ReceiverMemory) : Prop where
  handle : ∃ handle, r.recvHandle = some handle ∧ handle.msgId = id
  frontend : (m.frontendBitmap id).isSome
  buffer : (m.message id).bind MessageContext.buffer = some (.user b)

/-- The call gets past all its tests and rebuilds chunks, or leaves its matrices. -/
def Reconstructs (r : ECReceiver) (isal : Isal) (complete : ℕ → Bool) : Prop :=
  r.fallbackActive = false ∧ r.missingData complete ≠ [] ∧
    (r.missingData complete).length ≤ r.layout.m ∧
    r.layout.k ≤ (r.availIdxs complete).length ∧
    ¬ (r.matricesFit (r.availIdxs complete) = true ∧
      ¬ ∃ inverse, IsInverse r.layout.k inverse (r.decodeMatrix isal (r.availIdxs complete)))

section Decode

variable {r : ECReceiver} {isal : Isal} {id b : ℕ} {m : ReceiverMemory}

@[simp] lemma declareComplete_buffers (r : ECReceiver) (id : ℕ) (answer : ℤ) (m : ReceiverMemory) :
    (r.declareComplete id answer m).buffers = m.buffers := by
  simp [declareComplete, ReceiverMemory.mapMessage]

lemma Listens.setBuffer (h : r.Listens id b m) (buffer : ℕ → U8) :
    r.Listens id b (m.setBuffer b buffer) := ⟨h.handle, h.frontend, h.buffer⟩

lemma tryDecode_present (h : r.Listens id b m) (isal : Isal) (answer : ℤ)
    (hmissing : r.missingData (chunkComplete id m) = []) :
    r.tryDecode isal answer m
      = some (true, { r with fallbackActive := false }, r.declareComplete id answer m) := by
  obtain ⟨handle, hhandle, rfl⟩ := h.handle
  have hfront := h.frontend
  rw [Option.isSome_iff_ne_none] at hfront
  simp [tryDecode, hhandle, hmissing, hfront]

/-- The rest of the call when a data chunk is missing. -/
lemma tryDecode_missing (h : r.Listens id b m) (isal : Isal) (answer : ℤ)
    (hmissing : r.missingData (chunkComplete id m) ≠ []) :
    r.tryDecode isal answer m =
      if r.fallbackActive then some (false, r, m)
      else if (r.missingData (chunkComplete id m)).length > r.layout.m then
        let result := r.requestMissing (r.missingData (chunkComplete id m)) answer m
        some (false, result.1, result.2)
      else if (r.availIdxs (chunkComplete id m)).length < r.layout.k then some (false, r, m)
      else (r.recover isal (some (.user b)) (r.availIdxs (chunkComplete id m))
        (r.missingData (chunkComplete id m)) m).map fun result =>
          (result.1, r, if result.1 then r.declareComplete id answer result.2 else result.2) := by
  obtain ⟨handle, hhandle, rfl⟩ := h.handle
  have hfront : (m.frontendBitmap handle.msgId).isNone = false := by
    simpa using h.frontend
  simp only [tryDecode, hhandle, hfront, if_neg hmissing, h.buffer, Bool.false_eq_true, if_false]

/-- Without a reconstruction, missing data chunks make the call return false. -/
lemma tryDecode_declines (hisal : isal.Contract) (h : r.Listens id b m) (answer : ℤ)
    (hmissing : r.missingData (chunkComplete id m) ≠ [])
    (hrec : ¬ r.Reconstructs isal (chunkComplete id m)) :
    ∃ r' m', r.tryDecode isal answer m = some (false, r', m') := by
  rw [tryDecode_missing h isal answer hmissing]
  split_ifs with hfallback hmany hfew
  · exact ⟨_, _, rfl⟩
  · exact ⟨_, _, rfl⟩
  · exact ⟨_, _, rfl⟩
  · rw [Reconstructs, not_and, not_and, not_and, not_and, not_not] at hrec
    obtain ⟨hfit, hsingular⟩ :=
      hrec (by simpa using hfallback) hmissing (not_lt.mp hmany) (not_lt.mp hfew)
    rw [← hisal.isSome_iff, Bool.not_eq_true, Option.isSome_eq_false_iff] at hsingular
    exact ⟨r, m, by simp [recover, hfit, hsingular]⟩

/-- A reconstruction that stays inside its matrices returns true with the rebuilt chunks in the
buffer. -/
lemma tryDecode_rebuilds (hisal : isal.Contract) (h : r.Listens id b m) (answer : ℤ)
    (hrec : r.Reconstructs isal (chunkComplete id m))
    (hfit : r.matricesFit (r.availIdxs (chunkComplete id m)) = true)
    (hrows : (r.missingData (chunkComplete id m)).length ≤ r.layout.k) :
    ∃ m', r.tryDecode isal answer m = some (true, r, m') ∧
      m'.buffers b = (r.missingData (chunkComplete id m)).zipIdx.foldl
        (r.recoverChunk isal (r.availIdxs (chunkComplete id m))) (m.buffers b) := by
  obtain ⟨hfallback, hmissing, hmany, hfew, hmatrices⟩ := hrec
  have hinverse := by simpa only [not_and, not_not, ← hisal.isSome_iff] using hmatrices
  have hsome := hinverse hfit
  rw [tryDecode_missing h isal answer hmissing, hfallback, if_neg Bool.false_ne_true,
    if_neg (not_lt.mpr hmany), if_neg (not_lt.mpr hfew), recover, hfit, if_neg Bool.noConfusion,
    Option.isNone_eq_false_iff.mpr hsome, if_neg Bool.false_ne_true]
  rw [if_neg (not_lt.mpr hrows)]
  exact ⟨_, rfl, by simp⟩

/-- A reconstruction leaves its matrices, or returns true with the rebuilt chunks. -/
lemma tryDecode_reconstructs (hisal : isal.Contract) (h : r.Listens id b m) (answer : ℤ)
    (hrec : r.Reconstructs isal (chunkComplete id m)) :
    r.tryDecode isal answer m = none ∨
      ∃ m', r.tryDecode isal answer m = some (true, r, m') ∧
        m'.buffers b = (r.missingData (chunkComplete id m)).zipIdx.foldl
          (r.recoverChunk isal (r.availIdxs (chunkComplete id m))) (m.buffers b) := by
  by_cases hinside : r.matricesFit (r.availIdxs (chunkComplete id m)) = true ∧
      (r.missingData (chunkComplete id m)).length ≤ r.layout.k
  · exact Or.inr (tryDecode_rebuilds hisal h answer hrec hinside.1 hinside.2)
  · refine Or.inl ?_
    obtain ⟨hfallback, hmissing, hmany, hfew, hmatrices⟩ := hrec
    rw [tryDecode_missing h isal answer hmissing, hfallback, if_neg Bool.false_ne_true,
      if_neg (not_lt.mpr hmany), if_neg (not_lt.mpr hfew), recover]
    split_ifs with hfit hfails hrows
    · rfl
    · rw [not_and, not_not, ← hisal.isSome_iff] at hmatrices
      rw [Option.isNone_iff_eq_none] at hfails
      exact absurd (hmatrices (by simpa using hfit)) (by simp [hfails])
    · rfl
    · exact absurd ⟨by simpa using hfit, not_lt.mp hrows⟩ hinside

/-- With nothing missing the buffer already holds the message. -/
lemma message_of_present (hintact : EncodesIntact isal r.layout) {complete : ℕ → Bool}
    (hmissing : r.missingData complete = []) {message buffer : ℕ → U8}
    (hreceived : HoldsReceived isal r.layout message complete buffer) {i : ℕ}
    (hi : i < r.layout.dataBytes) : buffer i = message i := by
  have hchunk : i / r.layout.chunkBytes < r.layout.dataChunks :=
    (Nat.div_lt_iff_lt_mul r.layout.chunkBytes_pos).mpr
      (hi.trans_le (ECLayout.covered (dataBytes_le_of_intact hintact)))
  have hcomplete : complete (i / r.layout.chunkBytes) = true := by
    have := List.filter_eq_nil_iff.mp hmissing _ (List.mem_range.mpr hchunk)
    simpa using this
  have hbyte := hreceived _ hcomplete _ (Nat.mod_lt i r.layout.chunkBytes_pos)
  rw [Nat.div_add_mod'] at hbyte
  rw [hbyte, hintact message i hi]

/-- When the inversion leaves zeros behind, what is rebuilt is zero. -/
lemma recoverChunk_zero (hisal : isal.Contract) (avail : List ℕ) {storage : ℕ → U8} {x : ℕ}
    (hx : storage x = 0#8) (missing : ℕ × ℕ) :
    r.recoverChunk (isal.withLeftover fun _ _ _ _ => 0#8) avail storage missing x = 0#8 := by
  unfold recoverChunk copyBytes
  split_ifs with h
  · refine (hisal.encode _ _ 1 _ _ 0 _ one_pos (by omega)).trans ?_
    exact gfDot_zero_left _ _
  · exact hx

/-- A reconstruction can come to anything: here the message is all ones and a missing chunk stays
zero. -/
lemma reconstruction_loses (hisal : isal.Contract) (h : r.Listens id b m) (answer : ℤ)
    (hrec : r.Reconstructs isal (chunkComplete id m)) :
    ∃ leftover message buffer, HoldsReceived isal r.layout message (chunkComplete id m) buffer ∧
      ∀ outcome, r.tryDecode (isal.withLeftover leftover) answer (m.setBuffer b buffer)
          = some outcome →
        outcome.1 = true ∧ ∃ i < r.layout.dataBytes, outcome.2.2.buffers b i ≠ message i := by
  refine ⟨fun _ _ _ _ => 0#8, fun _ => 1#8, _,
    holdsReceived_receivedOver (fun _ => 0#8) _ _ _ _, ?_⟩
  intro outcome houtcome
  obtain ⟨c, hc⟩ := List.exists_mem_of_ne_nil _ hrec.2.1
  obtain ⟨hlt, hmissing⟩ := List.mem_filter.mp hc
  rcases tryDecode_reconstructs (hisal.withLeftover fun _ _ _ _ => 0#8)
    (h.setBuffer (receivedOver (fun _ => 0#8) isal r.layout (fun _ => 1#8) (chunkComplete id m)))
    answer hrec with hnone | hsome
  · rw [hnone] at houtcome
    exact absurd houtcome (by simp)
  · obtain ⟨m', hrun, hbuffer⟩ := hsome
    obtain rfl := Option.some.inj (hrun.symm.trans houtcome)
    refine ⟨rfl, c * r.layout.chunkBytes, ECLayout.chunk_start_lt (List.mem_range.mp hlt), ?_⟩
    have hzero : m'.buffers b (c * r.layout.chunkBytes) = 0#8 := by
      rw [hbuffer]
      refine foldl_keeps (P := fun storage : ℕ → U8 => storage (c * r.layout.chunkBytes) = 0#8)
        (fun storage missing _ hx => recoverChunk_zero hisal _ hx missing) ?_
      have hcomplete : chunkComplete id m c = false := by simpa using hmissing
      simp [ReceiverMemory.setBuffer, receivedOver, Nat.mul_div_cancel c r.layout.chunkBytes_pos,
        hcomplete]
    rw [hzero]
    exact (by decide : (0#8 : U8) ≠ 1#8)

/-- When the sender's storage does not begin with the message, data chunks do not give it back. -/
lemma not_intact_loses (hintact : ¬ EncodesIntact isal r.layout) (complete : ℕ → Bool) :
    ∃ message buffer, HoldsReceived isal r.layout message complete buffer ∧
      ∃ i < r.layout.dataBytes, buffer i ≠ message i := by
  simp only [EncodesIntact, not_forall] at hintact
  obtain ⟨message, i, hi, hne⟩ := hintact
  refine ⟨message, _, holdsReceived_receivedOver (fun i => message i + 1) _ _ _ _, i, hi, ?_⟩
  unfold receivedOver
  split_ifs
  · exact hne
  · simp

end Decode

/-! ### Decoding -/

/-- Whatever was sent and whatever an inversion leaves behind, the call is defined, and when it
returns true the buffer begins with the message. -/
def DecodesSoundly (r : ECReceiver) (isal : Isal) (id b : ℕ) (answer : ℤ) (m : ReceiverMemory) :
    Prop :=
  ∀ leftover message buffer, HoldsReceived isal r.layout message (chunkComplete id m) buffer →
    ∃ outcome, r.tryDecode (isal.withLeftover leftover) answer (m.setBuffer b buffer)
      = some outcome ∧
      (outcome.1 = true → ∀ i < r.layout.dataBytes, outcome.2.2.buffers b i = message i)

/-- The same, and the call returns true without a message that asks for retransmissions. -/
def Restores (r : ECReceiver) (isal : Isal) (id b : ℕ) (answer : ℤ) (m : ReceiverMemory) : Prop :=
  ∀ leftover message buffer, HoldsReceived isal r.layout message (chunkComplete id m) buffer →
    ∃ r' m', r.tryDecode (isal.withLeftover leftover) answer (m.setBuffer b buffer)
        = some (true, r', m') ∧
      (∀ i < r.layout.dataBytes, m'.buffers b i = message i) ∧
      ∀ msg ∈ m'.sent, msg ∈ m.sent ∨ msg.msgType = .ecAck

lemma declareComplete_sent {r : ECReceiver} {id : ℕ} {answer : ℤ} {m : ReceiverMemory}
    {msg : ControlMessage} (hmsg : msg ∈ (r.declareComplete id answer m).sent) :
    msg ∈ m.sent ∨ msg.msgType = .ecAck := by
  unfold declareComplete at hmsg
  rcases ReceiverMemory.sendMessage_sent (m.mapMessage id fun msg =>
    { msg with totalChunks := r.layout.dataChunks, state := .completed })
      (ecMessage m .ecAck) answer
    with h | h
  · exact Or.inl (h ▸ hmsg)
  · rw [h, List.mem_append, List.mem_singleton] at hmsg
    exact hmsg.imp_right fun h => congrArg ControlMessage.msgType h

theorem tryDecode_sound_iff {r : ECReceiver} {isal : Isal} (hisal : isal.Contract) {id b : ℕ}
    {m : ReceiverMemory} (h : r.Listens id b m) (answer : ℤ) :
    r.DecodesSoundly isal id b answer m ↔
      ¬ r.Reconstructs isal (chunkComplete id m) ∧
        (r.missingData (chunkComplete id m) = [] → EncodesIntact isal r.layout) := by
  constructor
  · intro hsound
    refine ⟨fun hrec => ?_, fun hmissing => by_contra fun hintact => ?_⟩
    · obtain ⟨leftover, message, buffer, hreceived, hloses⟩ :=
        reconstruction_loses hisal h answer hrec
      obtain ⟨outcome, hrun, hmessage⟩ := hsound leftover message buffer hreceived
      obtain ⟨htrue, i, hi, hne⟩ := hloses outcome hrun
      exact hne (hmessage htrue i hi)
    · obtain ⟨message, buffer, hreceived, i, hi, hne⟩ :=
        not_intact_loses hintact (chunkComplete id m)
      obtain ⟨outcome, hrun, hmessage⟩ := hsound isal.leftover message buffer hreceived
      rw [tryDecode_present (h.setBuffer buffer) _ answer hmissing] at hrun
      obtain rfl := Option.some.inj hrun
      refine hne ?_
      rw [← hmessage rfl i hi, declareComplete_buffers]
      exact (congrFun (Function.update_self b buffer m.buffers) i).symm
  · rintro ⟨hrec, hintact⟩ leftover message buffer hreceived
    by_cases hmissing : r.missingData (chunkComplete id m) = []
    · refine ⟨_, tryDecode_present (h.setBuffer buffer) _ answer hmissing, fun _ i hi => ?_⟩
      rw [declareComplete_buffers]
      exact (congrFun (Function.update_self b buffer m.buffers) i).trans
        (message_of_present (hintact hmissing) hmissing hreceived hi)
    · obtain ⟨r', m', hrun⟩ := tryDecode_declines (hisal.withLeftover leftover)
        (h.setBuffer buffer) answer hmissing hrec
      exact ⟨_, hrun, fun htrue => absurd htrue Bool.false_ne_true⟩

theorem tryDecode_restores_iff {r : ECReceiver} {isal : Isal} (hisal : isal.Contract) {id b : ℕ}
    {m : ReceiverMemory} (h : r.Listens id b m) (answer : ℤ) :
    r.Restores isal id b answer m ↔
      r.missingData (chunkComplete id m) = [] ∧ EncodesIntact isal r.layout := by
  constructor
  · intro hrestores
    have hmissing : r.missingData (chunkComplete id m) = [] := by
      by_contra hmissing
      by_cases hrec : r.Reconstructs isal (chunkComplete id m)
      · obtain ⟨leftover, message, buffer, hreceived, hloses⟩ :=
          reconstruction_loses hisal h answer hrec
        obtain ⟨r', m', hrun, hmessage, -⟩ := hrestores leftover message buffer hreceived
        obtain ⟨-, i, hi, hne⟩ := hloses _ hrun
        exact hne (hmessage i hi)
      · obtain ⟨r', m', hrun, -, -⟩ := hrestores isal.leftover (fun _ => 0#8) _
          (holdsReceived_receivedOver (fun _ => 0#8) _ _ _ _)
        obtain ⟨_, _, hdeclines⟩ := tryDecode_declines hisal (h.setBuffer _) answer hmissing hrec
        exact absurd (hdeclines.symm.trans hrun) (by simp)
    refine ⟨hmissing, by_contra fun hintact => ?_⟩
    obtain ⟨message, buffer, hreceived, i, hi, hne⟩ :=
      not_intact_loses hintact (chunkComplete id m)
    obtain ⟨r', m', hrun, hmessage, -⟩ := hrestores isal.leftover message buffer hreceived
    rw [tryDecode_present (h.setBuffer buffer) _ answer hmissing] at hrun
    simp only [Option.some.injEq, Prod.mk.injEq, true_and] at hrun
    refine hne ?_
    rw [← hmessage i hi, ← hrun.2, declareComplete_buffers]
    exact (congrFun (Function.update_self b buffer m.buffers) i).symm
  · rintro ⟨hmissing, hintact⟩ leftover message buffer hreceived
    refine ⟨_, _, tryDecode_present (h.setBuffer buffer) _ answer hmissing, fun i hi => ?_,
      fun msg hmsg => declareComplete_sent (m := m.setBuffer b buffer) hmsg⟩
    rw [declareComplete_buffers]
    exact (congrFun (Function.update_self b buffer m.buffers) i).trans
      (message_of_present hintact hmissing hreceived hi)

end ECReceiver

/-! ### Losses a code could bear -/

/-- Data and parity chunks of stripe `s`. -/
def ECLayout.stripeChunks (l : ECLayout) (s : ℕ) : List ℕ :=
  List.range' (s * l.k) (min l.k (l.dataChunks - s * l.k)) ++ (List.range l.m).map (l.parityChunk s)

/-- At most `m` data chunks are lost, and at most `m` chunks of each stripe. -/
def ECReceiver.Admissible (r : ECReceiver) (complete : ℕ → Bool) : Prop :=
  (r.missingData complete).length ≤ r.layout.m ∧
    ∀ s < r.layout.stripes,
      ((r.layout.stripeChunks s).filter fun c => !complete c).length ≤ r.layout.m

/-- Any `k` rows of the generator matrix can be inverted. -/
def Isal.IndependentRows (isal : Isal) (k m : ℕ) : Prop :=
  ∀ rows : ℕ → ℕ, (∀ i < k, rows i < k + m) → (∀ i < k, ∀ j < k, rows i = rows j → i = j) →
    ∃ inverse, IsInverse k inverse fun i => isal.gfGenRsMatrix (k + m) k (rows i)

/-- A library that meets the contract. Like Gauss-Jordan elimination it turns the matrix it inverts
into the identity. -/
noncomputable def Isal.reference : Isal where
  Tables := ByteMatrix
  gfGenRsMatrix _ k i j :=
    if i < k then if i = j then 1#8 else 0#8 else gfPow (gfPow 2#8 (i - k)) j
  ecInitTables _ _ matrix := matrix
  ecEncodeData _ k _ tables data row byte := gfDot k (tables row) fun i => data i byte
  gfInvertMatrix matrix k :=
    open Classical in
    if h : ∃ inverse, IsInverse k inverse matrix then some h.choose else none
  leftover _ _ i j := if i = j then 1#8 else 0#8

lemma Isal.reference_contract : Isal.reference.Contract where
  systematic rows k i j hi _ := if_pos hi
  encode _ _ _ _ _ _ _ _ _ := rfl
  inverse matrix k inverse h := by
    simp only [reference] at h
    split_ifs at h with hex
    exact Option.some.inj h ▸ hex.choose_spec
  invertible matrix k inverse h := by
    simp only [reference]
    rw [dif_pos ⟨inverse, h⟩]
    rfl

lemma Isal.reference_independentRows : Isal.reference.IndependentRows 2 1 := by
  intro rows hrows hne
  have h0 := hrows 0 (by decide)
  have h1 := hrows 1 (by decide)
  have h01 : rows 0 ≠ rows 1 := fun h => absurd (hne 0 (by decide) 1 (by decide) h) (by decide)
  -- the determinant is one, so the adjugate is the inverse
  let entry i j := Isal.reference.gfGenRsMatrix 3 2 (rows i) j
  refine ⟨fun i j => if i = j then entry (1 - i) (1 - i) else entry i j, fun i hi j hj => ?_⟩
  have hproduct : ∀ a < 3, ∀ b < 3, a ≠ b → ∀ i < 2, ∀ j < 2,
      let entry i j := Isal.reference.gfGenRsMatrix 3 2 (if i = 0 then a else b) j
      gfDot 2 (fun j => if i = j then entry (1 - i) (1 - i) else entry i j) (fun l => entry l j)
        = if i = j then 1#8 else 0#8 := by
    decide +kernel
  have h := hproduct (rows 0) h0 (rows 1) h1 h01 i hi j hj
  interval_cases i <;> interval_cases j <;> exact h

/-- Two data chunks and one parity chunk of one byte. -/
def sampleEcReceiver : ECReceiver where
  cfg := ⟨2, 1, 2, 3⟩
  layout := ECLayout.of ⟨2, 1, 2, 3⟩
    { ConnectionParams.zero with mtuBytes := 1, packetsPerChunk := 1 } 3
  recvHandle := some ⟨0, 1, 0, 3⟩
  decodeAttempts := 0
  fallbackActive := false

/-- A receiver with the chunks in the bitmap `word`. -/
def sampleChunks (word : U64) : ReceiverMemory where
  conn :=
    { connectionCtx := ConnectionContext.fresh.setMessage 0
        { MessageContext.fresh with
          generation := 1
          state := .active
          buffer := some (.user 0)
          bufferSize := 3
          totalPackets := 3
          totalChunks := 3
          packetsPerChunk := 1
          frontendBitmap := some ⟨fun _ => word, 1, 3, 1, false, true, false⟩ }
      udpReceiver := none
      parentCtx := 0
      tcpServer := some ⟨5⟩
      tcpClient := none
      isReceiver := true }
  buffers _ _ := 0
  sent := []
  lastCtrl := none

def sampleMessage (i : ℕ) : U8 := BitVec.ofNat 8 (i + 1)

lemma sampleListens (word : U64) : sampleEcReceiver.Listens 0 0 (sampleChunks word) :=
  ⟨⟨_, rfl, rfl⟩, rfl, rfl⟩

lemma sampleFits : sampleEcReceiver.layout.Fits := ⟨by decide +kernel, by decide +kernel⟩

/-- Any two chunks of the sample are taken for enough to rebuild the third. -/
lemma sampleReconstructs {word : U64} {avail : List ℕ}
    (havail : sampleEcReceiver.availIdxs (chunkComplete 0 (sampleChunks word)) = avail)
    (hrows : ∀ i < 2, avail.getD i 0 < 3)
    (hne : ∀ i < 2, ∀ j < 2, avail.getD i 0 = avail.getD j 0 → i = j)
    (hmissing : sampleEcReceiver.missingData (chunkComplete 0 (sampleChunks word)) ≠ [])
    (hmany : (sampleEcReceiver.missingData (chunkComplete 0 (sampleChunks word))).length ≤ 1)
    (hfew : 2 ≤ avail.length) :
    sampleEcReceiver.Reconstructs .reference (chunkComplete 0 (sampleChunks word)) := by
  refine ⟨rfl, hmissing, hmany, havail ▸ hfew, fun h => h.2 ?_⟩
  rw [havail]
  exact Isal.reference_independentRows (fun i => avail.getD i 0) hrows hne

/-- All chunks are there. -/
theorem tryDecode_sound_sample :
    sampleEcReceiver.DecodesSoundly .reference 0 0 288 (sampleChunks 7#64) :=
  (ECReceiver.tryDecode_sound_iff Isal.reference_contract (sampleListens _) 288).mpr
    ⟨fun h => absurd h.2.1 (by decide +kernel),
      fun _ => encodesIntact_of_fits .reference sampleFits⟩

theorem tryDecode_restores_sample :
    sampleEcReceiver.Restores .reference 0 0 288 (sampleChunks 7#64) :=
  (ECReceiver.tryDecode_restores_iff Isal.reference_contract (sampleListens _) 288).mpr
    ⟨by decide +kernel, encodesIntact_of_fits .reference sampleFits⟩

/-- The second data chunk is lost: the call returns true with a copy of the first in its place. -/
theorem tryDecode_unsound_sample :
    let buffer := receivedOver (fun _ => 0) .reference sampleEcReceiver.layout sampleMessage
      (chunkComplete 0 (sampleChunks 5#64))
    Isal.reference.Contract ∧
      HoldsReceived .reference sampleEcReceiver.layout sampleMessage
        (chunkComplete 0 (sampleChunks 5#64)) buffer ∧
      ∃ m', sampleEcReceiver.tryDecode .reference 288 ((sampleChunks 5#64).setBuffer 0 buffer)
          = some (true, sampleEcReceiver, m') ∧
        1 < sampleEcReceiver.layout.dataBytes ∧ m'.buffers 0 1 = 1 ∧ sampleMessage 1 = 2 := by
  intro buffer
  refine ⟨Isal.reference_contract, holdsReceived_receivedOver _ _ _ _ _, ?_⟩
  have havail : sampleEcReceiver.availIdxs (chunkComplete 0 (sampleChunks 5#64)) = [0, 2] := by
    decide +kernel
  obtain ⟨m', hrun, hbuffer⟩ := ECReceiver.tryDecode_rebuilds Isal.reference_contract
    ((sampleListens 5#64).setBuffer buffer) 288
    (sampleReconstructs havail (by decide) (by decide) (by decide +kernel) (by decide +kernel)
      (by decide)) (by decide +kernel) (by decide +kernel)
  refine ⟨m', hrun, by decide +kernel, ?_, rfl⟩
  rw [hbuffer]
  decide +kernel

/-- The first data chunk is lost, which an erasure code of one parity chunk could bear: the call
returns true without having restored it. -/
theorem tryDecode_not_restored_sample :
    let buffer := receivedOver (fun _ => 0) .reference sampleEcReceiver.layout sampleMessage
      (chunkComplete 0 (sampleChunks 6#64))
    Isal.reference.Contract ∧ Isal.reference.IndependentRows 2 1 ∧
      sampleEcReceiver.Admissible (chunkComplete 0 (sampleChunks 6#64)) ∧
      HoldsReceived .reference sampleEcReceiver.layout sampleMessage
        (chunkComplete 0 (sampleChunks 6#64)) buffer ∧
      ∃ m', sampleEcReceiver.tryDecode .reference 288 ((sampleChunks 6#64).setBuffer 0 buffer)
          = some (true, sampleEcReceiver, m') ∧
        0 < sampleEcReceiver.layout.dataBytes ∧ m'.buffers 0 0 = 2 ∧ sampleMessage 0 = 1 := by
  intro buffer
  refine ⟨Isal.reference_contract, Isal.reference_independentRows,
    ⟨by decide +kernel, by decide +kernel⟩, holdsReceived_receivedOver _ _ _ _ _, ?_⟩
  have havail : sampleEcReceiver.availIdxs (chunkComplete 0 (sampleChunks 6#64)) = [1, 2] := by
    decide +kernel
  obtain ⟨m', hrun, hbuffer⟩ := ECReceiver.tryDecode_rebuilds Isal.reference_contract
    ((sampleListens 6#64).setBuffer buffer) 288
    (sampleReconstructs havail (by decide) (by decide) (by decide +kernel) (by decide +kernel)
      (by decide)) (by decide +kernel) (by decide +kernel)
  refine ⟨m', hrun, by decide +kernel, ?_, rfl⟩
  rw [hbuffer]
  decide +kernel

end SdrUdp
