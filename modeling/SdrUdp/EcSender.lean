import SdrUdp.ErasureCode
import SdrUdp.SrSender

/-!
# The erasure code, the sending side

`ECSender` posts data and parity as one message and polls for the receiver's verdict. An access
outside `chunk_acked_` or the gap arrays is undefined.
-/

namespace SdrUdp

open SdrUdp.Core

/-- Sender-side bookkeeping, with every packet it has handed to the network. `params` are those of
the connection, `chunkAcked` is sized by `encode_and_send`. -/
structure ECSender where
  cfg : ECConfig
  handle : SDRSendHandle
  params : ConnectionParams
  chunkAcked : List Bool
  sent : List SDRPacket

namespace ECSender

/-- The bytes of `send_storage_` for a message of `length` bytes in `buffer`. -/
def storage (isal : Isal) (cfg : ECConfig) (params : ConnectionParams) (buffer : ℕ → U8)
    (length : ℕ) : List U8 :=
  let l := ECLayout.of cfg params length
  (List.range l.totalBytes).map (encode isal l buffer)

/-- `encode_and_send` once `sdr_send_post` has returned the handle; `params` are those of the
connection before and `cts` those after it. -/
def posted (cfg : ECConfig) (params cts : ConnectionParams) (length : ℕ) (handle : SDRSendHandle) :
    ECSender where
  cfg := cfg
  handle := handle
  params := cts
  chunkAcked := List.replicate (ECLayout.of cfg params length).dataChunks false
  sent := []

/-- The chunk size that `poll` computes. -/
def chunkBytes (s : ECSender) : ℕ := ecChunkBytes s.params

/-- The number of data chunks that `poll` computes; it does not know the length of the message. -/
def dataChunks (s : ECSender) : ℕ := ecDataChunks s.cfg.dataBytes.toNat s.chunkBytes

/-- The packets that `retransmit_chunk` sends. -/
def chunkPackets (s : ECSender) (chunkId : ℕ) : List SDRPacket :=
  let mtu := ecMtuBytes s.params
  let ppc := ecPacketsPerChunk s.params
  let offsets := ((List.range ppc).map fun pkt => (chunkId * ppc + pkt) % 2 ^ 32).takeWhile fun o =>
    o * mtu < s.handle.userBuffer.length
  offsets.filterMap (dataPacket s.params.transferId s.handle.msgId
    (orDefault s.params.packetsPerChunk 32) mtu s.handle.userBuffer)

/-- `retransmit_chunk`. -/
def retransmitChunk (s : ECSender) (chunkId : ℕ) : ECSender :=
  { s with sent := s.sent ++ s.chunkPackets chunkId }

/-- Whether the bitmap of a message has the bit of chunk `c`. -/
def bitOf (msg : ControlMessage) (c : ℕ) : Bool :=
  if h : c / 64 < 16 then (msg.chunkBitmap[c / 64]).getLsbD (c % 64) else false

/-- The chunks that a bitmap of up to 16 words covers. -/
def bitmapChunks (s : ECSender) (msg : ControlMessage) : List ℕ :=
  List.range (min s.dataChunks (64 * min msg.chunkBitmapWords.toNat 16))

/-- `chunk_acked_[c] = true`. -/
def mark (s : ECSender) (c : ℕ) : Option ECSender :=
  if c < s.chunkAcked.length then some { s with chunkAcked := s.chunkAcked.set c true } else none

/-- `apply_bitmap`. -/
def applyBitmap (s : ECSender) (msg : ControlMessage) : Option ECSender :=
  (s.bitmapChunks msg).foldlM (fun s c => if bitOf msg c then s.mark c else some s) s

/-- The loop over one gap. -/
def retransmitGap (s : ECSender) (start len : ℕ) : Option ECSender :=
  let stop := min ((start + len) % 2 ^ 32) s.dataChunks
  (List.range' start (stop - start)).foldlM (fun s c =>
    match s.chunkAcked[c]? with
    | none       => none
    | some acked => some (if acked then s else s.retransmitChunk c)) s

/-- The loop over the gaps of a message. -/
def retransmitGaps (s : ECSender) (msg : ControlMessage) : Option ECSender :=
  (List.range msg.numGaps.toNat).foldlM (fun s i =>
    if h : i < 16 then s.retransmitGap (msg.gapStart[i]).toNat (msg.gapLen[i]).toNat else none) s

/-- `retransmit_missing_bitmap`. -/
def retransmitMissingBitmap (s : ECSender) (msg : ControlMessage) (limit : ℕ) : ECSender :=
  (((s.bitmapChunks msg).filter fun c => !bitOf msg c).take limit).foldl retransmitChunk s

/-- The test whether all of some chunks are acknowledged; it stops at the first that is not. -/
def allAcked (chunkAcked : List Bool) : List ℕ → Option Bool
  | []     => some true
  | c :: l =>
    match chunkAcked[c]? with
    | none       => none
    | some false => some false
    | some true  => allAcked chunkAcked l

/-- What `poll` does with a message that reports on chunks. -/
def onReport (s : ECSender) (msg : ControlMessage) : Option (ECSender × Bool) := do
  let s ← s.applyBitmap msg
  let s ← s.retransmitGaps msg
  let s := s.retransmitMissingBitmap msg 8
  let allDone ← allAcked s.chunkAcked (List.range s.dataChunks)
  pure (s, allDone)

/-! ### What a report changes -/

/-- Chunks are acknowledged by the bitmap of the message only, and the configuration stays. -/
structure Reported (msg : ControlMessage) (s s' : ECSender) : Prop where
  cfg : s'.cfg = s.cfg
  params : s'.params = s.params
  length : s'.chunkAcked.length = s.chunkAcked.length
  acked : ∀ c, s'.chunkAcked[c]? = some true → s.chunkAcked[c]? = some true ∨ BitmapAck msg c

section Reported

variable {msg : ControlMessage} {s s' s'' : ECSender}

lemma Reported.refl (msg : ControlMessage) (s : ECSender) : Reported msg s s :=
  ⟨rfl, rfl, rfl, fun _ => Or.inl⟩

lemma Reported.trans (h : Reported msg s s') (h' : Reported msg s' s'') : Reported msg s s'' :=
  ⟨h'.cfg.trans h.cfg, h'.params.trans h.params, h'.length.trans h.length,
    fun c hc => (h'.acked c hc).elim (h.acked c) Or.inr⟩

lemma Reported.dataChunks (h : Reported msg s s') : s'.dataChunks = s.dataChunks := by
  simp only [ECSender.dataChunks, chunkBytes, h.cfg, h.params]

lemma retransmitChunk_reported (msg : ControlMessage) (s : ECSender) (c : ℕ) :
    Reported msg s (s.retransmitChunk c) := ⟨rfl, rfl, rfl, fun _ => Or.inl⟩

lemma mark_reported {c : ℕ} (hack : BitmapAck msg c) (h : s.mark c = some s') :
    Reported msg s s' := by
  unfold mark at h
  split_ifs at h
  obtain rfl := Option.some.inj h
  refine ⟨rfl, rfl, List.length_set, fun c' hc' => ?_⟩
  by_cases heq : c' = c
  · exact Or.inr (heq ▸ hack)
  · rw [List.getElem?_set_ne (Ne.symm heq)] at hc'
    exact Or.inl hc'

/-- Within the covered chunks a set bit is an acknowledgement. -/
lemma bitmapAck_of_bitOf {c : ℕ} (hc : c ∈ s.bitmapChunks msg) (hbit : bitOf msg c = true) :
    BitmapAck msg c := by
  rw [bitmapChunks, List.mem_range] at hc
  have hword : c / 64 < 16 := by omega
  rw [bitOf, dif_pos hword] at hbit
  exact ⟨by omega, hword, hbit⟩

lemma applyBitmap_reported (h : s.applyBitmap msg = some s') : Reported msg s s' := by
  refine foldlM_keeps (P := Reported msg s) (fun s₁ c hc s₂ hstep hs₁ => ?_) h (Reported.refl msg s)
  split_ifs at hstep with hbit
  · exact hs₁.trans (mark_reported (bitmapAck_of_bitOf hc hbit) hstep)
  · exact Option.some.inj hstep ▸ hs₁

lemma retransmitGap_reported {start len : ℕ} (h : s.retransmitGap start len = some s') :
    Reported msg s s' := by
  refine foldlM_keeps (P := Reported msg s) (fun s₁ c _ s₂ hstep hs₁ => ?_) h (Reported.refl msg s)
  split at hstep
  · exact absurd hstep (by simp)
  · obtain rfl := Option.some.inj hstep
    split_ifs
    · exact hs₁
    · exact hs₁.trans (retransmitChunk_reported msg s₁ c)

lemma retransmitGaps_reported (h : s.retransmitGaps msg = some s') : Reported msg s s' := by
  refine foldlM_keeps (P := Reported msg s) (fun s₁ i _ s₂ hstep hs₁ => ?_) h (Reported.refl msg s)
  split_ifs at hstep
  exact hs₁.trans (retransmitGap_reported hstep)

lemma retransmitMissingBitmap_reported (s : ECSender) (msg : ControlMessage) (limit : ℕ) :
    Reported msg s (s.retransmitMissingBitmap msg limit) :=
  foldl_keeps (P := Reported msg s) (fun s₁ c _ hs₁ =>
    hs₁.trans (retransmitChunk_reported msg s₁ c))
    (Reported.refl msg s)

lemma allAcked_eq_true {chunkAcked : List Bool} {l : List ℕ}
    (h : allAcked chunkAcked l = some true) :
    ∀ c ∈ l, chunkAcked[c]? = some true := by
  induction l with
  | nil => simp
  | cons c l ih =>
    unfold allAcked at h
    split at h
    · exact absurd h (by simp)
    · exact absurd h (by simp)
    · rename_i hacked
      rintro c' (_ | ⟨_, hc'⟩)
      · exact hacked
      · exact ih h c' hc'

/-- A report acknowledges what its bitmap does; it ends the poll only when all data chunks that the
poll counts are acknowledged. -/
lemma onReport_spec {allDone : Bool} (h : s.onReport msg = some (s', allDone)) :
    Reported msg s s' ∧
      (allDone = true → ∀ c < s'.dataChunks, s'.chunkAcked[c]? = some true) := by
  unfold onReport at h
  simp only [Option.bind_eq_bind, Option.bind_eq_some_iff, Option.pure_def, Option.some.injEq,
    Prod.mk.injEq] at h
  obtain ⟨s₁, hbitmap, s₂, hgaps, done, hdone, rfl, rfl⟩ := h
  refine ⟨((applyBitmap_reported hbitmap).trans (retransmitGaps_reported hgaps)).trans
    (retransmitMissingBitmap_reported _ _ _), fun hall c hc => ?_⟩
  exact allAcked_eq_true (hall ▸ hdone) c (List.mem_range.mpr hc)

end Reported

section Defined

variable {msg : ControlMessage} {s : ECSender}

lemma applyBitmap_defined (msg : ControlMessage) (hsize : s.dataChunks ≤ s.chunkAcked.length) :
    ∃ s', s.applyBitmap msg = some s' ∧ s'.chunkAcked.length = s.chunkAcked.length := by
  refine foldlM_succeeds (P := fun s' : ECSender => s'.chunkAcked.length = s.chunkAcked.length)
    (fun s₁ c hc hs₁ => ?_) rfl
  rw [bitmapChunks, List.mem_range] at hc
  split_ifs
  · exact ⟨_, if_pos (by omega), List.length_set.trans hs₁⟩
  · exact ⟨s₁, rfl, hs₁⟩

lemma retransmitGap_defined (hsize : s.dataChunks ≤ s.chunkAcked.length) (start len : ℕ) :
    ∃ s', s.retransmitGap start len = some s' := by
  refine (foldlM_succeeds (P := fun s' : ECSender => s'.chunkAcked.length = s.chunkAcked.length)
    (fun s₁ c hc hs₁ => ?_) rfl).imp fun _ => And.left
  rw [List.mem_range'_1] at hc
  have hlt : c < s₁.chunkAcked.length := by omega
  rw [List.getElem?_eq_getElem hlt]
  refine ⟨_, rfl, ?_⟩
  split_ifs <;> exact hs₁

lemma retransmitGaps_defined (hgaps : msg.numGaps.toNat ≤ 16)
    (hsize : s.dataChunks ≤ s.chunkAcked.length) : ∃ s', s.retransmitGaps msg = some s' := by
  refine (foldlM_succeeds (P := Reported msg s) (fun s₁ i hi hs₁ => ?_) (Reported.refl msg s)).imp
    fun _ => And.left
  rw [List.mem_range] at hi
  rw [dif_pos (by omega)]
  obtain ⟨s₂, hs₂⟩ := retransmitGap_defined (s := s₁)
    (by rw [hs₁.dataChunks, hs₁.length]; exact hsize)
    (msg.gapStart[i]).toNat (msg.gapLen[i]).toNat
  exact ⟨s₂, hs₂, hs₁.trans (retransmitGap_reported hs₂)⟩

lemma allAcked_defined (chunkAcked : List Bool) {l : List ℕ} (h : ∀ c ∈ l, c < chunkAcked.length) :
    ∃ allDone, allAcked chunkAcked l = some allDone := by
  induction l with
  | nil => exact ⟨true, rfl⟩
  | cons c l ih =>
    have hc := h c List.mem_cons_self
    unfold allAcked
    rw [List.getElem?_eq_getElem hc]
    cases chunkAcked[c] with
    | false => exact ⟨false, rfl⟩
    | true => exact ih fun c' hc' => h c' (List.mem_cons_of_mem c hc')

/-- With at most 16 gaps, and no more data chunks than were sent, every access is inside its
array. -/
lemma onReport_defined (hgaps : msg.numGaps.toNat ≤ 16)
    (hsize : s.dataChunks ≤ s.chunkAcked.length) : ∃ result, s.onReport msg = some result := by
  obtain ⟨s₁, hbitmap, -⟩ := applyBitmap_defined msg hsize
  have h₁ := applyBitmap_reported hbitmap
  obtain ⟨s₂, hretransmit⟩ := retransmitGaps_defined hgaps
    (show s₁.dataChunks ≤ s₁.chunkAcked.length by rw [h₁.dataChunks, h₁.length]; exact hsize)
  have h₂ := (h₁.trans (retransmitGaps_reported hretransmit)).trans
    (retransmitMissingBitmap_reported s₂ msg 8)
  obtain ⟨allDone, hdone⟩ := allAcked_defined (s₂.retransmitMissingBitmap msg 8).chunkAcked
    (l := List.range (s₂.retransmitMissingBitmap msg 8).dataChunks) fun c hc => by
      rw [List.mem_range, h₂.dataChunks] at hc
      rw [h₂.length]
      omega
  exact ⟨(s₂.retransmitMissingBitmap msg 8, allDone),
    by simp [onReport, hbitmap, hretransmit, hdone]⟩

end Defined

/-! ### The answer to a request -/

/-- A message of the receiver that asks for missing chunks; it has no bitmap. -/
structure Request (msg : ControlMessage) : Prop where
  msgType : msg.msgType = .ecNack ∨ msg.msgType = .ecFallbackSr
  numGaps : msg.numGaps.toNat ≤ 16
  bitmapWords : msg.chunkBitmapWords.toNat = 0

/-- The chunks of one gap that the sender counts as data. -/
def gapChunks (s : ECSender) (msg : ControlMessage) (i : ℕ) : List ℕ :=
  if h : i < 16 then
    let start := (msg.gapStart[i]).toNat
    List.range' start (min ((start + (msg.gapLen[i]).toNat) % 2 ^ 32) s.dataChunks - start)
  else []

/-- The packets that are sent for a request when no chunk is acknowledged. -/
def answer (s : ECSender) (msg : ControlMessage) : List SDRPacket :=
  (List.range msg.numGaps.toNat).flatMap fun i => (s.gapChunks msg i).flatMap s.chunkPackets

/-- Packets are sent. -/
def emit (s : ECSender) (packets : List SDRPacket) : ECSender :=
  { s with sent := s.sent ++ packets }

section Answer

variable {s : ECSender} {msg : ControlMessage}

@[simp] lemma emit_nil (s : ECSender) : s.emit [] = s := by simp [emit]

@[simp] lemma emit_emit (s : ECSender) (l l' : List SDRPacket) :
    (s.emit l).emit l' = s.emit (l ++ l') := by simp [emit]

@[simp] lemma dataChunks_emit (s : ECSender) (l : List SDRPacket) :
    (s.emit l).dataChunks = s.dataChunks := rfl

@[simp] lemma answer_emit (s : ECSender) (l : List SDRPacket) : (s.emit l).answer = s.answer := rfl

/-- A sender that counts no data chunks has no answer. -/
lemma answer_eq_nil (hzero : s.dataChunks = 0) : s.answer msg = [] := by
  simp only [answer, List.flatMap_eq_nil_iff]
  intro i _ c hc
  simp only [gapChunks, hzero, Nat.min_zero, Nat.zero_sub, List.range'_zero, dite_eq_ite, ite_self,
    List.not_mem_nil] at hc

/-- Rounds that send packets, one after the other. -/
lemma foldlM_emit {α : Type} {f : ECSender → α → Option ECSender} {g : α → List SDRPacket}
    {l : List α} (hf : ∀ sent, ∀ a ∈ l, f (s.emit sent) a = some ((s.emit sent).emit (g a))) :
    l.foldlM f s = some (s.emit (l.flatMap g)) := by
  suffices hsome : ∀ sent, l.foldlM f (s.emit sent) = some (s.emit (sent ++ l.flatMap g)) by
    simpa using hsome []
  induction l with
  | nil => simp
  | cons a l ih =>
    intro sent
    rw [List.foldlM_cons, hf sent a List.mem_cons_self, Option.bind_eq_bind, Option.bind_some,
      emit_emit, ih (fun sent b hb => hf sent b (List.mem_cons_of_mem a hb)), List.flatMap_cons,
      List.append_assoc]

/-- A request sends the packets of the chunks in its gaps, and acknowledges nothing. -/
lemma onReport_request (hmsg : Request msg) (hacked : ∀ acked ∈ s.chunkAcked, acked = false)
    (hsize : s.dataChunks ≤ s.chunkAcked.length) :
    s.onReport msg = some (s.emit (s.answer msg), decide (s.dataChunks = 0)) := by
  have hbitmap : ∀ s : ECSender, s.bitmapChunks msg = [] := fun s => by
    simp [bitmapChunks, hmsg.bitmapWords]
  have hgap : ∀ sent, ∀ i ∈ List.range msg.numGaps.toNat,
      (if h : i < 16 then (s.emit sent).retransmitGap (msg.gapStart[i]).toNat (msg.gapLen[i]).toNat
        else none)
      = some ((s.emit sent).emit ((s.gapChunks msg i).flatMap s.chunkPackets)) := by
    intro sent i hi
    have hlt : i < 16 := (List.mem_range.mp hi).trans_le hmsg.numGaps
    rw [dif_pos hlt, gapChunks, dif_pos hlt]
    refine foldlM_emit fun sent' c hc => ?_
    rw [dataChunks_emit, List.mem_range'_1] at hc
    have hc' : c < s.chunkAcked.length := by omega
    have hget : ((s.emit sent).emit sent').chunkAcked[c]? = some false := by
      change s.chunkAcked[c]? = some false
      rw [List.getElem?_eq_getElem hc', hacked _ (List.getElem_mem hc')]
    rw [hget]
    rfl
  have hgaps : s.retransmitGaps msg = some (s.emit (s.answer msg)) := foldlM_emit hgap
  have hdone : allAcked (s.emit (s.answer msg)).chunkAcked (List.range s.dataChunks)
      = some (decide (s.dataChunks = 0)) := by
    change allAcked s.chunkAcked (List.range s.dataChunks) = _
    cases hzero : s.dataChunks with
    | zero => rfl
    | succ n =>
      have hpos : 0 < s.chunkAcked.length := by omega
      rw [List.range_succ_eq_map, allAcked, List.getElem?_eq_getElem hpos,
        hacked _ (List.getElem_mem hpos)]
      rfl
  simp [onReport, applyBitmap, retransmitMissingBitmap, hbitmap, hgaps, hdone]

end Answer

end ECSender

/-- A sender in a call of `ECSender::poll`. -/
structure ECPoll where
  sender : ECSender
  connected : Bool
  state : PollState

namespace ECPoll

/-- The poll ends once a report leaves nothing to wait for. -/
def afterReport (connected : Bool) (result : ECSender × Bool) : ECPoll :=
  ⟨result.1, connected, if result.2 then .returned 0 else .main⟩

/-- One call of `receive_message` and what `poll` makes of it. -/
def step (p : ECPoll) (event : ChannelEvent) : Option ECPoll :=
  let event := event.seen p.connected
  let connected := event.keepsConnection
  match p.state with
  | .returned _ => some p
  | .sendPoll _ =>
    match sendPollRound event with
    | none    => some { p with connected }
    | some rc =>
      if rc = 0 then some { p with connected, state := .returned 0 }
      else some { p with connected, state := if connected then .main else .returned (-1) }
  | .main =>
    match event with
    | .message _ msg =>
      match msg.msgType with
      | .ecAck | .completeAck => some { p with connected, state := .returned 0 }
      | .ecNack | .ecFallbackSr | .srNack | .srAck =>
        (p.sender.onReport msg).map (afterReport connected)
      | _ => some { p with connected }
    | _ => some { p with connected, state := enterSendPoll connected true }

/-- Calling `poll` (again). -/
def call (p : ECPoll) : ECPoll := { p with state := .main }

end ECPoll

end SdrUdp
