import SdrUdp.Receiver
import SdrUdp.RecvPost

/-!
# Posting a send

`sdr_send_post` sends an OFFER, waits for the CTS, answers with an ACCEPT, draws its own message id
and sends the packets of the message.
-/

namespace SdrUdp

open SdrUdp.Core

/-- Send handle. -/
structure SDRSendHandle where
  msgId : ℕ
  generation : U32
  userBuffer : List U8
  deriving DecidableEq

/-- The packet with number `packetOffset` of a message, as every sending loop builds it. -/
def dataPacket (transferId : U32) (msgId : ℕ) (packetsPerChunk : U16) (mtuBytes : ℕ)
    (data : List U8) (packetOffset : ℕ) : Option SDRPacket :=
  let dataOffset := packetOffset * mtuBytes
  let len := min (min mtuBytes (data.length - dataOffset)) SDRPacket.maxPayloadSize
  SDRPacket.createDataPacket transferId msgId packetOffset packetsPerChunk (data.drop dataOffset)
    len

/-- The OFFER of `sdr_send_post`. -/
def offerMessage (ctx : ConnectionContext) (length : ℕ) : ControlMessage :=
  { ControlMessage.zero with
    magic := ControlMessage.magicValue
    msgType := .offer
    connectionId := ctx.connectionId
    params := desiredParams ctx.params length }

/-- The ACCEPT that answers a CTS. -/
def acceptMessage (cts : ControlMessage) : ControlMessage :=
  { ControlMessage.zero with
    magic := ControlMessage.magicValue
    msgType := .accept
    connectionId := cts.connectionId
    params := cts.params }

/-- A connected sending connection with nothing configured. -/
def SDRConnection.idleSender (parentCtx : ℕ) : SDRConnection where
  connectionCtx := ConnectionContext.fresh.initializeContext 1 .zero
  udpReceiver := none
  parentCtx
  tcpServer := none
  tcpClient := some ⟨true⟩
  isReceiver := false

/-- `sdr_send_post` may go as far as its OFFER. -/
def canOffer (conn : SDRConnection) (length : ℕ) : Bool :=
  decide (length ≠ 0) && !conn.isReceiver && conn.tcpClient.any TCPControlClient.isConnected

/-- How the rest of `sdr_send_post` ends; the ACCEPT has left in every case. -/
inductive CtsOutcome where
  | rejected
  | failed (msgId : ℕ)
  | sent (handle : SDRSendHandle) (packets : List SDRPacket)

/-- The message id that was drawn. -/
def CtsOutcome.drawn : CtsOutcome → Option ℕ
  | rejected      => none
  | failed msgId  => some msgId
  | sent handle _ => some handle.msgId

/-- `sdr_send_post` from the CTS on, with the id `msgId` that `allocate_msg_id` would give.
`socketReady` says whether the UDP socket could be set up and the server's address parsed. -/
def sendPostOnCts (conn : SDRConnection) (msgId : ℕ) (data : List U8) (cts : ControlMessage)
    (socketReady : Bool) : CtsOutcome × SDRConnection :=
  let ctx := conn.connectionCtx.initializeContext cts.connectionId cts.params
  let conn := { conn with connectionCtx := ctx }
  if cts.params.mtuBytes = 0 then (.rejected, conn)
  else if cts.params.packetsPerChunk = 0 then (.rejected, conn)
  else if socketReady = false then (.failed msgId, conn)
  else
    let handle : SDRSendHandle := ⟨msgId, cts.params.transferId, data⟩
    let mtuBytes := cts.params.mtuBytes.toNat
    let packets := if ctx.autoSendData = false then []
      else (List.range (ceilDiv data.length mtuBytes)).filterMap
        (dataPacket cts.params.transferId msgId cts.params.packetsPerChunk mtuBytes data)
    (.sent handle packets, conn)

/-- The sender takes over the parameters of the CTS, whatever comes of the post. -/
lemma sendPostOnCts_params (conn : SDRConnection) (msgId : ℕ) (data : List U8)
    (cts : ControlMessage) (socketReady : Bool) :
    (sendPostOnCts conn msgId data cts socketReady).2.connectionCtx.params = cts.params := by
  unfold sendPostOnCts
  dsimp only
  split_ifs <;> rfl

/-! ### What a packet carries -/

/-- The bytes of packet `o`. -/
def packetBytes (mtuBytes : ℕ) (data : List U8) (o : ℕ) : List U8 :=
  (data.drop (o * mtuBytes)).take mtuBytes

/-- Every packet arrives as it was built, with the chunk number filled in. -/
lemma parse_dataPacket {transferId : U32} {msgId : ℕ} {packetsPerChunk : U16} {mtuBytes : ℕ}
    {data : List U8} {o : ℕ} {p : SDRPacket}
    (h : dataPacket transferId msgId packetsPerChunk mtuBytes data o = some p) :
    SDRPacket.parse p.datagram
        = some ⟨{ p.header with chunkSeq := p.header.getChunkId }, p.payload⟩ ∧
      p.header.transferId = transferId ∧ p.header.msgId = BitVec.ofNat 10 msgId := by
  refine ⟨SDRPacket.parse_datagram (by rw [List.length_drop]; omega) h, ?_⟩
  unfold dataPacket SDRPacket.createDataPacket at h
  rw [if_neg (by omega)] at h
  obtain rfl := Option.some.inj h
  exact ⟨rfl, rfl⟩

lemma packetsPerChunk_dataPacket {transferId : U32} {msgId : ℕ} {packetsPerChunk : U16}
    {mtuBytes : ℕ} {data : List U8} {o : ℕ} {p : SDRPacket}
    (h : dataPacket transferId msgId packetsPerChunk mtuBytes data o = some p) :
    p.header.packetsPerChunk = packetsPerChunk := by
  unfold dataPacket SDRPacket.createDataPacket at h
  rw [if_neg (by omega)] at h
  obtain rfl := Option.some.inj h
  rfl

lemma dataPacket_spec (transferId : U32) (msgId : ℕ) (packetsPerChunk : U16) {mtuBytes : ℕ}
    (hmtu : mtuBytes ≤ SDRPacket.maxPayloadSize) (data : List U8) (o : ℕ) :
    ∃ p, dataPacket transferId msgId packetsPerChunk mtuBytes data o = some p ∧
      p.header.msgId = BitVec.ofNat 10 msgId ∧ p.header.transferId = transferId ∧
      p.header.packetOffset = BitVec.ofNat 18 o ∧ p.payload = packetBytes mtuBytes data o ∧
      SDRPacket.parse p.datagram
        = some ⟨{ p.header with chunkSeq := p.header.getChunkId }, p.payload⟩ := by
  have hlen : min (min mtuBytes (data.length - o * mtuBytes)) SDRPacket.maxPayloadSize
      = min mtuBytes (data.length - o * mtuBytes) := by omega
  have hsome : ∃ p, dataPacket transferId msgId packetsPerChunk mtuBytes data o = some p := by
    unfold dataPacket SDRPacket.createDataPacket
    rw [if_neg (by omega)]
    exact ⟨_, rfl⟩
  obtain ⟨p, hp⟩ := hsome
  obtain ⟨hparse, htransfer, hmsg⟩ := parse_dataPacket hp
  refine ⟨p, hp, hmsg, htransfer, ?_⟩
  unfold dataPacket SDRPacket.createDataPacket at hp
  rw [if_neg (by omega)] at hp
  obtain rfl := Option.some.inj hp
  refine ⟨rfl, ?_, hparse⟩
  simp only [packetBytes, hlen]
  rw [List.take_eq_take_iff, List.length_drop]
  omega

/-- What `sdr_send_post` hands to the network when it succeeds. -/
lemma packets_of_sendPostOnCts {conn conn' : SDRConnection} {msgId : ℕ} {data : List U8}
    {cts : ControlMessage} {socketReady : Bool} {handle : SDRSendHandle}
    {packets : List SDRPacket}
    (h : sendPostOnCts conn msgId data cts socketReady = (.sent handle packets, conn')) :
    handle.msgId = msgId ∧ ∀ q ∈ packets, ∃ o, dataPacket cts.params.transferId msgId
      cts.params.packetsPerChunk cts.params.mtuBytes.toNat data o = some q := by
  unfold sendPostOnCts at h
  dsimp only at h
  split_ifs at h
  · exact absurd (congrArg Prod.fst h) (by simp)
  · exact absurd (congrArg Prod.fst h) (by simp)
  · exact absurd (congrArg Prod.fst h) (by simp)
  · obtain ⟨rfl, rfl⟩ := CtsOutcome.sent.inj (Prod.mk.inj h).1
    exact ⟨rfl, by simp⟩
  · obtain ⟨rfl, rfl⟩ := CtsOutcome.sent.inj (Prod.mk.inj h).1
    refine ⟨rfl, fun q hq => ?_⟩
    obtain ⟨o, -, ho⟩ := List.mem_filterMap.mp hq
    exact ⟨o, ho⟩

/-- They are packets of the message. -/
lemma sendPostOnCts_packets {conn conn' : SDRConnection} {msgId : ℕ} {data : List U8}
    {cts : ControlMessage} {socketReady : Bool} {handle : SDRSendHandle}
    {packets : List SDRPacket}
    (h : sendPostOnCts conn msgId data cts socketReady = (.sent handle packets, conn')) :
    handle.msgId = msgId ∧ handle.userBuffer = data ∧
      ∀ q ∈ packets, ∃ o < ceilDiv data.length cts.params.mtuBytes.toNat,
        dataPacket cts.params.transferId msgId cts.params.packetsPerChunk
          cts.params.mtuBytes.toNat data o = some q := by
  unfold sendPostOnCts at h
  dsimp only at h
  split_ifs at h
  · exact absurd (congrArg Prod.fst h) (by simp)
  · exact absurd (congrArg Prod.fst h) (by simp)
  · exact absurd (congrArg Prod.fst h) (by simp)
  · obtain ⟨rfl, rfl⟩ := CtsOutcome.sent.inj (Prod.mk.inj h).1
    exact ⟨rfl, rfl, List.forall_mem_nil _⟩
  · obtain ⟨rfl, rfl⟩ := CtsOutcome.sent.inj (Prod.mk.inj h).1
    refine ⟨rfl, rfl, fun q hq => ?_⟩
    obtain ⟨o, ho, hpacket⟩ := List.mem_filterMap.mp hq
    exact ⟨o, List.mem_range.mp ho, hpacket⟩

/-! ### The round trip -/

/-- What a worker thread passes to `process_packet` when packet `o` arrives. -/
def delivered (transferId : U32) (msgId : ℕ) (packetsPerChunk : U16) (mtuBytes : ℕ)
    (data : List U8) (o : ℕ) : Option SDRPacket :=
  (dataPacket transferId msgId packetsPerChunk mtuBytes data o).bind fun p =>
    SDRPacket.parse p.datagram

/-- A packet as the receiver sees it is packet `o` as the sender meant it. -/
structure MeantPacket (transferId : U32) (msgId : ℕ) (packetsPerChunk : U16) (mtuBytes : ℕ)
    (data : List U8) (o : ℕ) (q : SDRPacket) : Prop where
  msgId : q.header.msgId.toNat = msgId
  transferId : q.header.transferId = transferId
  packetOffset : q.header.packetOffset.toNat = o
  chunkSeq : q.header.chunkSeq.toNat = o / packetsPerChunk.toNat
  packetsPerChunk : q.header.packetsPerChunk = packetsPerChunk
  payload : q.payload = packetBytes mtuBytes data o

/-- Every packet of a message arrives as it was meant, and no two with the same offset. -/
structure RoundTrips (transferId : U32) (msgId : ℕ) (packetsPerChunk : U16) (mtuBytes : ℕ)
    (data : List U8) : Prop where
  meant : ∀ o, o * mtuBytes < data.length → ∃ q,
    delivered transferId msgId packetsPerChunk mtuBytes data o = some q ∧
      MeantPacket transferId msgId packetsPerChunk mtuBytes data o q
  apart : ∀ o o' q q', o * mtuBytes < data.length → o' * mtuBytes < data.length →
    delivered transferId msgId packetsPerChunk mtuBytes data o = some q →
    delivered transferId msgId packetsPerChunk mtuBytes data o' = some q' →
    q.header.packetOffset = q'.header.packetOffset → o = o'

section RoundTrip

variable (transferId : U32) {msgId : ℕ} {packetsPerChunk : U16} {mtuBytes : ℕ}

/-- The offset arrives modulo 2^18, and the chunk number is computed from what is left of it. -/
lemma delivered_spec (hmtu : mtuBytes ≤ SDRPacket.maxPayloadSize) (hmsg : msgId < 1024)
    (hppc : packetsPerChunk ≠ 0) (data : List U8) (o : ℕ) :
    ∃ q, delivered transferId msgId packetsPerChunk mtuBytes data o = some q ∧
      q.header.packetOffset = BitVec.ofNat 18 o ∧
      (o < 2 ^ 18 → MeantPacket transferId msgId packetsPerChunk mtuBytes data o q) := by
  obtain ⟨p, hp, hid, htransfer, hoffset, hpayload, hparse⟩ :=
    dataPacket_spec transferId msgId packetsPerChunk hmtu data o
  have hppcEq := packetsPerChunk_dataPacket hp
  have hdelivered : delivered transferId msgId packetsPerChunk mtuBytes data o
      = some ⟨{ p.header with chunkSeq := p.header.getChunkId }, p.payload⟩ := by
    rw [delivered, hp]
    exact hparse
  refine ⟨_, hdelivered, hoffset, fun ho => ?_⟩
  have hoffset' : p.header.packetOffset.toNat = o := by
    rw [hoffset, BitVec.toNat_ofNat, Nat.mod_eq_of_lt ho]
  refine ⟨?_, htransfer, hoffset', ?_, hppcEq, hpayload⟩
  · rw [hid, BitVec.toNat_ofNat, Nat.mod_eq_of_lt hmsg]
  · have hdiv : o / packetsPerChunk.toNat ≤ o := Nat.div_le_self _ _
    dsimp only
    rw [SDRPacketHeader.getChunkId, hppcEq, if_neg hppc, hoffset', BitVec.toNat_ofNat,
      Nat.mod_eq_of_lt (by omega)]

/-- A message survives the encoding exactly when its packets can be told apart by 18 bits. -/
theorem roundTrips_iff (hmtu : mtuBytes ≤ SDRPacket.maxPayloadSize)
    (hmsg : msgId < 1024) (hppc : packetsPerChunk ≠ 0) (data : List U8) :
    RoundTrips transferId msgId packetsPerChunk mtuBytes data ↔
      data.length ≤ 2 ^ 18 * mtuBytes := by
  constructor
  · intro h
    by_contra hlong
    obtain ⟨q, hq, hmeant⟩ := h.meant (2 ^ 18) (not_le.mp hlong)
    have := q.header.packetOffset.isLt
    rw [hmeant.packetOffset] at this
    exact lt_irrefl _ this
  · intro hlen
    have hlt : ∀ {o : ℕ}, o * mtuBytes < data.length → o < 2 ^ 18 := fun ho =>
      Nat.lt_of_mul_lt_mul_right (ho.trans_le hlen)
    refine ⟨fun o ho => ?_, fun o o' q q' ho ho' hq hq' heq => ?_⟩
    · obtain ⟨q, hq, -, hmeant⟩ := delivered_spec transferId hmtu hmsg hppc data o
      exact ⟨q, hq, hmeant (hlt ho)⟩
    · obtain ⟨r, hr, -, hmeant⟩ := delivered_spec transferId hmtu hmsg hppc data o
      obtain ⟨r', hr', -, hmeant'⟩ := delivered_spec transferId hmtu hmsg hppc data o'
      obtain rfl := Option.some.inj (hq.symm.trans hr)
      obtain rfl := Option.some.inj (hq'.symm.trans hr')
      rw [← (hmeant (hlt ho)).packetOffset, ← (hmeant' (hlt ho')).packetOffset, heq]

end RoundTrip

/-- Three packets of two bytes. -/
theorem roundTrips_three : RoundTrips 7 3 2 2 [1, 2, 3, 4, 5] :=
  (roundTrips_iff 7 (by decide) (by decide) (by decide) _).mpr (by decide)

/-- One packet more than 18 bits can count: the last one arrives with the offset of the first. -/
theorem not_roundTrips_long : ¬ RoundTrips 1 0 1 1 (List.replicate (2 ^ 18 + 1) 0) := by
  intro h
  have hspec := delivered_spec 1 (show 1 ≤ SDRPacket.maxPayloadSize by decide)
    (show 0 < 1024 by decide) (show (1 : U16) ≠ 0 by decide) (List.replicate (2 ^ 18 + 1) 0)
  obtain ⟨q, hq, hoffset, -⟩ := hspec 0
  obtain ⟨q', hq', hoffset', -⟩ := hspec (2 ^ 18)
  have heq := h.apart 0 (2 ^ 18) q q' (by rw [List.length_replicate]; decide)
    (by rw [List.length_replicate]; decide) hq hq' (by rw [hoffset, hoffset']; rfl)
  exact absurd heq (by decide)

end SdrUdp
