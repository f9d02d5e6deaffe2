import SdrUdp.SlotHistory
import SdrUdp.SendPost

/-!
# What is negotiated can be sent

`sdr_recv_post` takes its own MTU if it has one, else the MTU of the OFFER, else the largest payload
of a packet, and keeps the result for its next transfer. The largest payload is a little too large
for a UDP datagram.
-/

namespace SdrUdp

open SdrUdp.Core

/-- The largest payload of a UDP datagram over IPv4. -/
def maxUdpPayload : ℕ := 65507

/-- The MTU before it is cut to the largest payload. -/
def effectiveMtu (own offer : ConnectionParams) : U32 :=
  orDefault own.mtuBytes (orDefault offer.mtuBytes (BitVec.ofNat 32 SDRPacket.maxPayloadSize))

/-- With the parameters of a CTS, everything that `sdr_send_post` builds can be sent. -/
structure Sendable (params : ConnectionParams) : Prop where
  mtuBytes : 1 ≤ params.mtuBytes.toNat
  packetsPerChunk : 1 ≤ params.packetsPerChunk.toNat
  numChannels : 1 ≤ params.numChannels.toNat
  fits : SDRPacketHeader.size + params.mtuBytes.toNat ≤ maxUdpPayload
  datagrams : ∀ (conn : SDRConnection) (msgId : ℕ) (data : List U8) (cts : ControlMessage)
    (socketReady : Bool) (handle : SDRSendHandle) (packets : List SDRPacket),
    cts.params = params → (sendPostOnCts conn msgId data cts socketReady).1 = .sent handle packets →
      ∀ packet ∈ packets, packet.datagram.length ≤ maxUdpPayload

/-! ### One negotiation -/

lemma effectiveMtu_ne_zero (own offer : ConnectionParams) : effectiveMtu own offer ≠ 0 :=
  orDefault_ne_zero (orDefault_ne_zero (by decide))

lemma negotiate_mtuBytes_toNat (own offer : ConnectionParams) (length : ℕ) :
    (negotiate own offer length).mtuBytes.toNat
      = min (effectiveMtu own offer).toNat SDRPacket.maxPayloadSize := by
  have hmtu : (negotiate own offer length).mtuBytes
      = if effectiveMtu own offer < BitVec.ofNat 32 SDRPacket.maxPayloadSize
        then effectiveMtu own offer else BitVec.ofNat 32 SDRPacket.maxPayloadSize := by
    simp only [negotiate]
    rw [show orDefault (orDefault own.mtuBytes _) _ = effectiveMtu own offer from
      if_neg (effectiveMtu_ne_zero own offer)]
  rw [hmtu]
  split_ifs with h
  · exact (min_eq_left (BitVec.lt_def.mp h).le).symm
  · exact (min_eq_right (BitVec.le_def.mp (BitVec.not_lt.mp h))).symm

lemma negotiate_numChannels (own offer : ConnectionParams) (length : ℕ) :
    1 ≤ (negotiate own offer length).numChannels.toNat :=
  orDefault_toNat_pos (orDefault_ne_zero (by decide))

/-- A datagram is a header and at most an MTU of payload. -/
lemma length_datagram_le {transferId : U32} {msgId : ℕ} {packetsPerChunk : U16} {mtuBytes : ℕ}
    {data : List U8} {o : ℕ} {p : SDRPacket}
    (h : dataPacket transferId msgId packetsPerChunk mtuBytes data o = some p) :
    p.datagram.length ≤ SDRPacketHeader.size + mtuBytes := by
  rw [dataPacket, SDRPacket.createDataPacket, if_neg (by omega)] at h
  obtain rfl := Option.some.inj h
  rw [SDRPacket.datagram, List.length_append, Codec.length_encode, SDRPacketHeader.layout_width,
    List.length_take]
  omega

lemma length_datagram_of_sent {conn : SDRConnection} {msgId : ℕ} {data : List U8}
    {cts : ControlMessage} {socketReady : Bool} {handle : SDRSendHandle} {packets : List SDRPacket}
    (h : (sendPostOnCts conn msgId data cts socketReady).1 = .sent handle packets) :
    ∀ packet ∈ packets, packet.datagram.length
      ≤ SDRPacketHeader.size + cts.params.mtuBytes.toNat := by
  simp only [sendPostOnCts] at h
  split_ifs at h
  · simp only [CtsOutcome.sent.injEq] at h
    simp [← h.2]
  · simp only [CtsOutcome.sent.injEq] at h
    rw [← h.2]
    intro packet hpacket
    obtain ⟨o, -, ho⟩ := List.mem_filterMap.mp hpacket
    exact length_datagram_le ho

/-- What is negotiated can be sent exactly when the MTU fits into a datagram. -/
lemma sendable_negotiate_iff (own offer : ConnectionParams) (length : ℕ) (generation : U32) :
    Sendable ((negotiate own offer length).withTransferId generation) ↔
      SDRPacketHeader.size + (effectiveMtu own offer).toNat ≤ maxUdpPayload := by
  have hmtu := negotiate_mtuBytes_toNat own offer length
  have hmax : maxUdpPayload < SDRPacketHeader.size + SDRPacket.maxPayloadSize := by decide
  constructor
  · intro h
    have hfits : SDRPacketHeader.size + (negotiate own offer length).mtuBytes.toNat
        ≤ maxUdpPayload := h.fits
    omega
  · intro h
    have hfits : SDRPacketHeader.size + (negotiate own offer length).mtuBytes.toNat
        ≤ maxUdpPayload := by omega
    refine ⟨(negotiate_mtuBytes own offer length).1, negotiate_packetsPerChunk own offer length,
      negotiate_numChannels own offer length, hfits, ?_⟩
    intro conn msgId data cts socketReady handle packets hparams hsent packet hpacket
    refine (length_datagram_of_sent hsent packet hpacket).trans ?_
    rw [hparams]
    exact hfits

/-! ### Successive transfers -/

/-- A call on a connection of the receiving process. -/
inductive SessionCall where
  | call (c : Call)
  | setParams (i : ℕ) (params : ConnectionParams)

namespace ReceiverProcess

/-- `sdr_set_params` on connection `i`. -/
def sdrSetParams (p : ReceiverProcess) (i : ℕ) (params : ConnectionParams) : ReceiverProcess :=
  let m := p.connections i
  let ctx := m.conn.connectionCtx
  p.setConnection i
    { m with conn.connectionCtx := ctx.initializeContext ctx.connectionId params }

def sessionCall (p : ReceiverProcess) : SessionCall → ReceiverProcess
  | .call c             => (call ([], p) c).2
  | .setParams i params => p.sdrSetParams i params

/-- The CTS that a call sends. -/
def ctsSent (p : ReceiverProcess) : SessionCall → List ControlMessage
  | .call (.recvPost i buffer length received opened answer) =>
    (p.sdrRecvPost i buffer length received opened answer).1.cts.toList
  | _ => []

/-- The MTU that a post is going to take fits into a datagram. -/
def MtuFits (p : ReceiverProcess) : SessionCall → Prop
  | .call (.recvPost i _ _ received _ _) =>
    ∀ offer rest, waitFor .offer received = some (some offer, rest) →
      SDRPacketHeader.size
        + (effectiveMtu (p.connections i).conn.connectionCtx.params offer.params).toNat
          ≤ maxUdpPayload
  | _ => True

/-- The CTS carries what was negotiated from the OFFER. -/
lemma sdrRecvPost_cts {p : ReceiverProcess} {i buffer length : ℕ} {received : List Received}
    {opened : Bool} {answer : ℤ} {cts : ControlMessage}
    (h : (p.sdrRecvPost i buffer length received opened answer).1.cts = some cts) :
    ∃ offer rest, waitFor .offer received = some (some offer, rest) ∧
      cts.params = (negotiate (p.connections i).conn.connectionCtx.params offer.params
        length).withTransferId p.receiverGenerationCounter := by
  simp only [sdrRecvPost] at h
  split_ifs at h
  · simp [RecvPostResult.cts] at h
  split at h
  · simp [RecvPostResult.cts] at h
  · simp [RecvPostResult.cts] at h
  rename_i offer rest hoffer
  refine ⟨offer, rest, hoffer, ?_⟩
  have hspec := recvPostOnOffer_spec (p.connections i)
    (allocateMsgId (p.contexts (p.connections i).conn.parentCtx)).1 p.receiverGenerationCounter
    buffer length offer.params opened answer
  simp only [onOffer] at h
  generalize recvPostOnOffer _ _ _ _ _ _ _ _ = result at h hspec
  obtain ⟨outcome, m⟩ := result
  cases outcome with
  | refused => simp [RecvPostResult.cts] at h
  | failed handle => simp [RecvPostResult.cts] at h
  | ready handle cts' =>
    have hcts : cts' = some cts := by
      dsimp only at h
      split at h
      · exact h
      · exact h
      · exact h
    exact (hspec.cts handle cts (by rw [hcts])).2

/-- What one call sends can be met exactly when its MTU fits. -/
lemma ctsSent_sendable_iff (p : ReceiverProcess) (c : SessionCall) :
    (∀ cts ∈ p.ctsSent c, Sendable cts.params) ↔ (p.ctsSent c ≠ [] → p.MtuFits c) := by
  match c with
  | .call (.recvComplete i handle answer) => simp [ctsSent]
  | .call (.releaseMessage i msgId) => simp [ctsSent]
  | .setParams i params => simp [ctsSent]
  | .call (.recvPost i buffer length received opened answer) =>
    cases hcts : (p.sdrRecvPost i buffer length received opened answer).1.cts with
    | none => simp [ctsSent, hcts]
    | some cts =>
      obtain ⟨offer, rest, hoffer, hparams⟩ := sdrRecvPost_cts hcts
      have hsendable := sendable_negotiate_iff (p.connections i).conn.connectionCtx.params
        offer.params length p.receiverGenerationCounter
      simp only [ctsSent, hcts, Option.toList_some, List.mem_singleton, forall_eq, ne_eq,
        List.cons_ne_nil, not_false_eq_true, forall_const, hparams, hsendable, MtuFits]
      constructor
      · intro h offer' rest' hoffer'
        have hsame := (Prod.mk.inj (Option.some.inj (hoffer'.symm.trans hoffer))).1
        obtain rfl := Option.some.inj hsame
        exact h
      · intro h
        exact h offer rest hoffer

/-- Over any transfers and reconfigurations, every CTS can be met exactly when every post that sends
one has an MTU that fits. -/
theorem ctsSent_sendable (p : ReceiverProcess) (calls : List SessionCall) :
    (∀ cts ∈ emitted sessionCall ctsSent calls p, Sendable cts.params) ↔
      EachStep (fun p c => p.ctsSent c ≠ [] → p.MtuFits c) sessionCall calls p := by
  rw [forall_mem_emitted_iff]
  exact eachStep_congr ctsSent_sendable_iff

end ReceiverProcess

/-- Where neither side has configured an MTU, the CTS asks for datagrams of 65528 bytes. -/
theorem not_ctsSent_sendable_default : ¬ ∀ cts ∈ emitted ReceiverProcess.sessionCall
    ReceiverProcess.ctsSent [.call (samplePost 0)] sampleReceiver, Sendable cts.params := by
  intro h
  have hsent : sampleCts 1 ∈ emitted ReceiverProcess.sessionCall ReceiverProcess.ctsSent
      [.call (samplePost 0)] sampleReceiver := by decide +kernel
  have hfits := (h (sampleCts 1) hsent).fits
  exact absurd hfits (by decide)

end SdrUdp
