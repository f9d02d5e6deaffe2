import SdrUdp.EcGeometry
import SdrUdp.SrBounds
import SdrUdp.StreamPost

/-!
# What a control message can break

The four functions that wait for a control message use its counts, its sizes and its gap lists as
they arrive. None of their divisions and array accesses fails, except a division by the `mtu_bytes`
of a stream's CTS and the accesses to a gap list that is longer than its arrays.
-/

namespace SdrUdp

open SdrUdp.Core

/-- `a % b`. -/
def remIn (a b : ℕ) : Option ℕ := if b = 0 then none else some (a % b)

/-- `(n + d - 1) / d`. -/
def ceilDivIn (n d : ℕ) : Option ℕ := divIn ((n + d - 1) % 2 ^ 64) d

lemma ceilDivIn_eq (n : ℕ) {d : ℕ} (hd : d ≠ 0) : ceilDivIn n d = some (ceilDiv n d) :=
  divIn_eq _ hd

/-! ### The handlers with their accesses checked -/

/-- Packet `i` of a message and the channel that it is for. -/
def channelPacket (cts : ControlMessage) (msgId : ℕ) (data : List U8) (i : ℕ) :
    Option (ℕ × Option SDRPacket) := do
  let channel ← remIn i (orDefault cts.params.numChannels 1).toNat
  some (channel, dataPacket cts.params.transferId msgId cts.params.packetsPerChunk
    cts.params.mtuBytes.toNat data i)

/-- `sdr_send_post` from the CTS on. -/
def sendPostOnCtsIn (conn : SDRConnection) (msgId : ℕ) (data : List U8) (cts : ControlMessage)
    (socketReady : Bool) : Option (CtsOutcome × SDRConnection) :=
  let ctx := conn.connectionCtx.initializeContext cts.connectionId cts.params
  let conn := { conn with connectionCtx := ctx }
  if cts.params.mtuBytes = 0 then some (.rejected, conn)
  else if cts.params.packetsPerChunk = 0 then some (.rejected, conn)
  else do
    let handle : SDRSendHandle := ⟨msgId, cts.params.transferId, data⟩
    let mtuBytes := cts.params.mtuBytes.toNat
    let totalPackets ← ceilDivIn data.length mtuBytes
    let _expectedTotalPackets ← ceilDivIn cts.params.totalBytes.toNat mtuBytes
    if socketReady = false then some (.failed msgId, conn)
    else if ctx.autoSendData = false then some (.sent handle [], conn)
    else do
      let packets ← (List.range totalPackets).mapM (channelPacket cts msgId data)
      some (.sent handle (packets.filterMap Prod.snd), conn)

namespace ECSender

/-- `apply_bitmap`. -/
def applyBitmapIn (s : ECSender) (msg : ControlMessage) : Option ECSender :=
  bitmapLoop msg 16 s.dataChunks (fun s c bit => if bit = true then s.mark c else some s) s

/-- A round of `retransmit_missing_bitmap`, which carries the number of chunks sent so far. -/
def retransmitUnset (limit : ℕ) (acc : ECSender × ℕ) (c : ℕ) (bit : Bool) : ECSender × ℕ :=
  if acc.2 < limit ∧ bit = false then (acc.1.retransmitChunk c, acc.2 + 1) else acc

/-- `retransmit_missing_bitmap`. -/
def retransmitMissingBitmapIn (s : ECSender) (msg : ControlMessage) (limit : ℕ) :
    Option ECSender := do
  let acc ← bitmapLoop msg 16 s.dataChunks
    (fun acc c bit => some (retransmitUnset limit acc c bit)) (s, 0)
  some acc.1

/-- What `poll` does with a message that reports on chunks. -/
def onReportIn (s : ECSender) (msg : ControlMessage) : Option (ECSender × Bool) := do
  let s ← s.applyBitmapIn msg
  let s ← s.retransmitGaps msg
  let s ← s.retransmitMissingBitmapIn msg 8
  let allDone ← allAcked s.chunkAcked (List.range s.dataChunks)
  some (s, allDone)

end ECSender

/-- The messages that `ECSender::poll` takes for reports on chunks. -/
def ControlMsgType.ReportsChunks (t : ControlMsgType) : Prop :=
  t = .ecNack ∨ t = .ecFallbackSr ∨ t = .srNack ∨ t = .srAck

/-- One call of `receive_message` and what `ECSender::poll` makes of it, after it has counted the
data chunks. -/
def ECPoll.stepIn (p : ECPoll) (event : ChannelEvent) : Option ECPoll := do
  let _dataChunks ← ceilDivIn p.sender.cfg.dataBytes.toNat p.sender.chunkBytes
  let event := event.seen p.connected
  let connected := event.keepsConnection
  match p.state with
  | .returned _ => some p
  | .sendPoll _ =>
    match sendPollRound event with
    | none    => some { p with connected }
    | some rc =>
      if rc = 0 then some { p with connected, state := .returned 0 }
      else some { p with connected, state := if connected then .main else .returned (-1) }
  | .main =>
    match event with
    | .message _ msg =>
      match msg.msgType with
      | .ecAck | .completeAck => some { p with connected, state := .returned 0 }
      | .ecNack | .ecFallbackSr | .srNack | .srAck =>
        (p.sender.onReportIn msg).map (afterReport connected)
      | _ => some { p with connected }
    | _ => some { p with connected, state := enterSendPoll connected true }

/-! ### Posts -/

/-- Every packet has a channel. -/
lemma channelPacket_eq (cts : ControlMessage) (msgId : ℕ) (data : List U8) (i : ℕ) :
    channelPacket cts msgId data i = pure (i % (orDefault cts.params.numChannels 1).toNat,
      dataPacket cts.params.transferId msgId cts.params.packetsPerChunk cts.params.mtuBytes.toNat
        data i) := by
  rw [channelPacket, remIn, if_neg (orDefault_toNat_pos (by decide)).ne']
  rfl

/-- `sdr_send_post` checks every divisor. -/
lemma sendPostOnCtsIn_eq (conn : SDRConnection) (msgId : ℕ) (data : List U8) (cts : ControlMessage)
    (socketReady : Bool) : sendPostOnCtsIn conn msgId data cts socketReady
      = some (sendPostOnCts conn msgId data cts socketReady) := by
  unfold sendPostOnCtsIn sendPostOnCts
  dsimp only
  by_cases hmtu : cts.params.mtuBytes = 0
  · rw [if_pos hmtu, if_pos hmtu]
  by_cases hppc : cts.params.packetsPerChunk = 0
  · rw [if_neg hmtu, if_neg hmtu, if_pos hppc, if_pos hppc]
  rw [if_neg hmtu, if_neg hmtu, if_neg hppc, if_neg hppc,
    ceilDivIn_eq _ (BitVec.toNat_pos_of_ne_zero hmtu).ne',
    ceilDivIn_eq _ (BitVec.toNat_pos_of_ne_zero hmtu).ne',
    Option.bind_eq_bind, Option.bind_some, Option.bind_eq_bind, Option.bind_some]
  by_cases hsocket : socketReady = false
  · rw [if_pos hsocket, if_pos hsocket]
  by_cases hauto : (conn.connectionCtx.initializeContext cts.connectionId
      cts.params).autoSendData = false
  · rw [if_neg hsocket, if_neg hsocket, if_pos hauto, if_pos hauto]
  rw [if_neg hsocket, if_neg hsocket, if_neg hauto, if_neg hauto]
  rw [funext (channelPacket_eq cts msgId data), List.mapM_pure, Option.pure_def, Option.bind_some,
    List.filterMap_map]
  rfl

/-- `sdr_send_stream_start` divides by the `mtu_bytes` of the CTS. -/
lemma streamStartOn_ne_fault_iff (conn : SDRConnection) (msgId : ℕ) (data : List U8)
    (msg : ControlMessage) : (streamStartOn conn msgId data (.message msg)).1 ≠ .fault ↔
      (msg.msgType = .cts → msg.params.mtuBytes ≠ 0) := by
  unfold streamStartOn
  dsimp only
  by_cases hcts : msg.msgType = .cts
  · by_cases hmtu : msg.params.mtuBytes = 0
    · simp [hcts, hmtu]
    · rw [if_neg (not_not.mpr hcts), if_neg hmtu]
      exact iff_of_true (by simp) fun _ => hmtu
  · rw [if_pos hcts]
    exact iff_of_true (by simp) fun h => absurd h hcts

/-! ### Reports on chunks -/

namespace ECSender

variable {s : ECSender} {msg : ControlMessage}

lemma applyBitmapIn_eq (s : ECSender) (msg : ControlMessage) :
    s.applyBitmapIn msg = s.applyBitmap msg := bitmapLoop_eq msg le_rfl s.dataChunks _ s

/-- The chunks that a loop with a counter sends are the first ones whose bit is not set. -/
lemma fst_foldl_retransmitUnset (limit : ℕ) (msg : ControlMessage) (chunks : List ℕ)
    (acc : ECSender × ℕ) :
    (chunks.foldl (fun acc c => retransmitUnset limit acc c (bitOf msg c)) acc).1
      = ((chunks.filter fun c => !bitOf msg c).take (limit - acc.2)).foldl retransmitChunk
          acc.1 := by
  induction chunks generalizing acc with
  | nil => simp
  | cons c chunks ih =>
    rw [List.foldl_cons, ih, retransmitUnset]
    by_cases hbit : bitOf msg c = false
    · rw [List.filter_cons_of_pos (by simp [hbit])]
      by_cases hlimit : acc.2 < limit
      · rw [if_pos ⟨hlimit, hbit⟩, show limit - acc.2 = limit - (acc.2 + 1) + 1 by omega,
          List.take_succ_cons, List.foldl_cons]
      · rw [if_neg fun h => hlimit h.1, Nat.sub_eq_zero_of_le (not_lt.mp hlimit), List.take_zero,
          List.take_zero]
    · rw [if_neg fun h => hbit h.2, List.filter_cons_of_neg (by simpa using hbit)]

lemma retransmitMissingBitmapIn_eq (s : ECSender) (msg : ControlMessage) (limit : ℕ) :
    s.retransmitMissingBitmapIn msg limit = some (s.retransmitMissingBitmap msg limit) := by
  have hloop := @foldlM_eq_foldl _ _ (fun _ => True)
    (fun acc c => some (retransmitUnset limit acc c (bitOf msg c)))
    (fun acc c => retransmitUnset limit acc c (bitOf msg c)) (s.bitmapChunks msg)
    (fun _ _ _ _ => rfl) (fun _ _ _ _ => trivial) (s, 0) trivial
  rw [retransmitMissingBitmapIn, bitmapLoop_eq msg le_rfl]
  refine (congrArg (Option.bind · _) hloop).trans ?_
  rw [Option.bind_some, fst_foldl_retransmitUnset, Nat.sub_zero]
  rfl

/-- A report does what it does with every access checked. -/
lemma onReportIn_eq (s : ECSender) (msg : ControlMessage) :
    s.onReportIn msg = s.onReport msg := by
  simp only [onReportIn, onReport, applyBitmapIn_eq, retransmitMissingBitmapIn_eq,
    Option.bind_eq_bind, Option.bind_some, Option.pure_def]

/-- The loop over the gaps stops nowhere before `num_gaps`. -/
lemma numGaps_le_of_onReport {result : ECSender × Bool} (h : s.onReport msg = some result) :
    msg.numGaps.toNat ≤ 16 := by
  by_contra hmany
  have hnone : ∀ s : ECSender, s.retransmitGaps msg = none := fun s =>
    foldlM_eq_none (List.mem_range.mpr (not_le.mp hmany)) (fun _ => dif_neg (lt_irrefl 16)) s
  simp only [onReport, Option.bind_eq_bind, hnone, Option.bind_none, Option.bind_fun_none] at h
  exact absurd h (by simp)

lemma onReportIn_isSome_iff (hsize : s.chunkAcked.length = s.dataChunks) :
    (s.onReportIn msg).isSome ↔ msg.numGaps.toNat ≤ 16 := by
  rw [onReportIn_eq, Option.isSome_iff_exists]
  constructor
  · rintro ⟨result, h⟩
    exact numGaps_le_of_onReport h
  · intro hgaps
    exact onReport_defined hgaps hsize.ge

end ECSender

/-- A step reads the gaps of a report only, and the divisor of `poll` is a product of two positive
numbers. -/
lemma ECPoll.stepIn_isSome_iff {p : ECPoll}
    (hsize : p.sender.chunkAcked.length = p.sender.dataChunks) (own : Bool) (msg : ControlMessage) :
    (p.stepIn (.message own msg)).isSome ↔
      (p.connected = true → p.state = .main → msg.msgType.ReportsChunks →
        msg.numGaps.toNat ≤ 16) := by
  have hdivisor : p.sender.chunkBytes ≠ 0 := by
    rw [ECSender.chunkBytes, ecChunkBytes_eq]
    exact (Nat.mul_pos (ecMtuBytes_pos _) (ecPacketsPerChunk_pos _)).ne'
  unfold stepIn
  rw [ceilDivIn_eq _ hdivisor, Option.bind_eq_bind, Option.bind_some]
  dsimp only
  cases p.state with
  | returned rc => exact iff_of_true rfl fun _ h => absurd h (by simp)
  | sendPoll afterTimeout =>
    refine iff_of_true ?_ fun _ h => absurd h (by simp)
    dsimp only
    split
    · rfl
    · split_ifs <;> rfl
  | main =>
    cases p.connected with
    | false => exact iff_of_true rfl fun h => absurd h (by simp)
    | true =>
      have hreport : (p.sender.onReportIn msg).isSome ↔ msg.numGaps.toNat ≤ 16 :=
        ECSender.onReportIn_isSome_iff hsize
      simp only [ChannelEvent.seen, if_true, ControlMsgType.ReportsChunks]
      cases msg.msgType <;> simp [hreport]

/-! ### All handlers -/

/-- What is waiting for a control message. -/
inductive ControlHandler where
  | sendPost (conn : SDRConnection) (msgId : ℕ) (data : List U8) (socketReady : Bool)
  | streamStart (conn : SDRConnection) (msgId : ℕ) (data : List U8)
  | srPoll (p : SRPoll) (now : Clock)
  | ecPoll (p : ECPoll)

namespace ControlHandler

/-- The handler gets through the message without a division by zero and without an access outside an
array. -/
def Safe (msg : ControlMessage) : ControlHandler → Prop
  | sendPost conn msgId data socketReady =>
    msg.msgType = .cts → (sendPostOnCtsIn conn msgId data msg socketReady).isSome
  | streamStart conn msgId data => (streamStartOn conn msgId data (.message msg)).1 ≠ .fault
  | srPoll p now                => ∀ own, (p.stepIn now (.message own msg)).isSome
  | ecPoll p                    => ∀ own, (p.stepIn (.message own msg)).isSome

/-- A sender of selective repeat is where its calls have brought it; one of the erasure code counts
the chunks it has sent. -/
def Reached : ControlHandler → Prop
  | srPoll p _ => p.Reached
  | ecPoll p   => p.sender.chunkAcked.length = p.sender.dataChunks
  | _          => True

/-- A stream's CTS has an MTU and a gap list fits its arrays. Selective repeat does not read beyond
the first 16 gaps when it sends 8 chunks for them: when 8 chunks that they list are not acknowledged
with the message and were sent 50 ms ago or earlier when the loop comes to them. -/
def Handles (msg : ControlMessage) : ControlHandler → Prop
  | sendPost _ _ _ _  => True
  | streamStart _ _ _ => msg.msgType = .cts → msg.params.mtuBytes ≠ 0
  | srPoll p now      => p.connected = true → p.state = .main → msg.msgType = .srNack →
    (p.sender.merge msg).GapsInside msg now
  | ecPoll p          => p.connected = true → p.state = .main → msg.msgType.ReportsChunks →
    msg.numGaps.toNat ≤ 16

lemma srPoll_safe_iff {p : SRPoll} (hp : p.Reached) (now : Clock) (msg : ControlMessage) :
    (srPoll p now).Safe msg ↔ (srPoll p now).Handles msg := by
  obtain ⟨hmtu, hsized⟩ := hp.sized
  have hstep : ∀ own, (p.stepIn now (.message own msg)).isSome ↔
      p.ReadsInside now (.message own msg) := fun own => by
    rw [Option.isSome_iff_exists]
    constructor
    · rintro ⟨p', h⟩
      exact ((SRPoll.stepIn_eq_some hmtu hsized now _).mp h).1
    · intro h
      exact ⟨_, (SRPoll.stepIn_eq_some hmtu hsized now _).mpr ⟨h, rfl⟩⟩
  simp only [Safe, Handles, hstep, SRPoll.ReadsInside]
  constructor
  · intro h hconnected hmain hnack
    exact h true hmain true msg (by rw [hconnected]; rfl) hnack
  · intro h own hmain own' msg' hseen hnack
    cases hconnected : p.connected with
    | false =>
      rw [hconnected] at hseen
      exact absurd hseen (by simp [ChannelEvent.seen])
    | true =>
      rw [hconnected] at hseen
      obtain ⟨-, rfl⟩ := ChannelEvent.message.inj hseen
      exact h hconnected hmain hnack

/-- A handler gets through exactly the messages whose counts and sizes it can use. -/
theorem safe_iff {h : ControlHandler} (hreached : h.Reached) (msg : ControlMessage) :
    h.Safe msg ↔ h.Handles msg := by
  cases h with
  | sendPost conn msgId data socketReady =>
    refine iff_of_true (fun _ => ?_) trivial
    rw [sendPostOnCtsIn_eq]
    rfl
  | streamStart conn msgId data => exact streamStartOn_ne_fault_iff conn msgId data msg
  | srPoll p now => exact srPoll_safe_iff hreached now msg
  | ecPoll p =>
    constructor
    · intro h
      exact (ECPoll.stepIn_isSome_iff hreached true msg).mp (h true)
    · intro h own
      exact (ECPoll.stepIn_isSome_iff hreached own msg).mpr h

end ControlHandler

/-- A message with `numGaps` gaps of no chunks and no other fields set. -/
def gapMessage (msgType : ControlMsgType) (numGaps : U16) : ControlMessage :=
  { ControlMessage.zero with magic := ControlMessage.magicValue, msgType, numGaps }

/-- Two chunks, both sent. -/
def samplePoll : SRPoll :=
  ⟨SRSender.start .default ⟨0, 1, [1, 2]⟩ bytewiseParams (.still 0), true, .main⟩

/-- The same bytes sent with the erasure code. -/
def sampleEcPoll : ECPoll :=
  ⟨ECSender.posted ⟨1, 1, 2, 3⟩ bytewiseParams bytewiseParams 2 ⟨0, 1, [1, 2]⟩, true, .main⟩

/-- An SR_NACK that fills its arrays. -/
theorem safe_sixteen : (ControlHandler.srPoll samplePoll (.still 0)).Safe (gapMessage .srNack 16) :=
  (ControlHandler.safe_iff (h := .srPoll samplePoll (.still 0)) (.start _ _ _ (.still 0)) _).mpr
    fun _ _ _ => Or.inl (by decide)

/-- A CTS without an MTU, and NACKs with 17 gaps; `deserialize` accepts them all. -/
theorem not_safe_seventeen :
    (∀ msg ∈ [gapMessage .cts 0, gapMessage .srNack 17, gapMessage .ecNack 17],
      ControlMessage.deserialize msg.wire = some msg) ∧
    (ControlHandler.srPoll samplePoll (.still 0)).Reached ∧
    (ControlHandler.ecPoll sampleEcPoll).Reached ∧
    ¬ (ControlHandler.streamStart (.idleSender 0) 0 [1, 2]).Safe (gapMessage .cts 0) ∧
    ¬ (ControlHandler.srPoll samplePoll (.still 0)).Safe (gapMessage .srNack 17) ∧
    ¬ (ControlHandler.ecPoll sampleEcPoll).Safe (gapMessage .ecNack 17) := by
  have hsize : sampleEcPoll.sender.chunkAcked.length = sampleEcPoll.sender.dataChunks := by decide
  have hpoll : samplePoll.Reached := .start _ _ _ (.still 0)
  refine ⟨fun msg hmsg => ?_, hpoll, hsize, fun h => h rfl, fun h => ?_, fun h => ?_⟩
  · rw [ControlMessage.deserialize_wire]
    refine if_pos ?_
    simp only [List.mem_cons, List.not_mem_nil, or_false] at hmsg
    rcases hmsg with rfl | rfl | rfl <;> rfl
  · have hgaps := (ControlHandler.srPoll_safe_iff hpoll (.still 0) _).mp h rfl rfl rfl
    exact hgaps.elim (by decide) (by decide +kernel)
  · have hgaps := (ECPoll.stepIn_isSome_iff hsize true _).mp (h true) rfl rfl (Or.inl rfl)
    exact absurd hgaps (by decide)

end SdrUdp
