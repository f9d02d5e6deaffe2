import SdrUdp.SendPost

/-!
# Streaming sends

`sdr_send_stream_start` takes a CTS without having sent an OFFER, and `sdr_send_stream_continue`
sends the packets of a byte range.
-/

namespace SdrUdp

open SdrUdp.Core

/-- Stream handle. -/
structure SDRStreamHandle where
  msgId : ℕ
  generation : U32
  userBuffer : List U8
  totalPackets : ℕ
  isActive : Bool
  deriving DecidableEq

/-- How `sdr_send_stream_start` ends: with -1, in a division by a zero `mtu_bytes`, or with 0. -/
inductive StreamStart where
  | refused
  | fault
  | started (handle : SDRStreamHandle)
  deriving DecidableEq

/-- `sdr_send_stream_start` has something to wait for. -/
def canStream (conn : SDRConnection) : Bool :=
  !conn.isReceiver && conn.tcpClient.any TCPControlClient.isConnected

/-- `sdr_send_stream_start` once its only call of `receive_message` is back, with the id `msgId`
that `allocate_msg_id` would give. -/
def streamStartOn (conn : SDRConnection) (msgId : ℕ) (data : List U8) (received : Received) :
    StreamStart × SDRConnection :=
  match received with
  | .message cts =>
    if cts.msgType ≠ .cts then (.refused, conn)
    else
      let conn := { conn with
        connectionCtx := conn.connectionCtx.initializeContext cts.connectionId cts.params }
      if cts.params.mtuBytes = 0 then (.fault, conn)
      else
        (.started
          { msgId
            generation := cts.params.transferId
            userBuffer := data
            totalPackets := ceilDiv data.length cts.params.mtuBytes.toNat
            isActive := true }, conn)
  | .timeout      => (.refused, conn)
  | .disconnected => (.refused, conn)

/-- The packet with number `i` of a stream; its place in the buffer is a 32-bit product. -/
def streamPacket (transferId : U32) (msgId : ℕ) (packetsPerChunk : U16) (mtuBytes : ℕ)
    (data : List U8) (i : ℕ) : Option SDRPacket :=
  let dataOffset := i * mtuBytes % 2 ^ 32
  SDRPacket.createDataPacket transferId msgId i packetsPerChunk (data.drop dataOffset)
    (min mtuBytes (data.length - dataOffset))

/-- The packets of the bytes from `offset` on: first packet and packet after the last. -/
def streamRange (mtuBytes : ℕ) (offset : U32) (length : ℕ) : ℕ × ℕ :=
  (offset.toNat / mtuBytes,
    (offset.toNat + length + mtuBytes - 1) % 2 ^ 64 / mtuBytes % 2 ^ 32)

/-- `sdr_send_stream_continue` of an active stream, `params` being those of the connection: the
numbers of the packets it builds. -/
def SDRStreamHandle.offsets (h : SDRStreamHandle) (params : ConnectionParams) (offset : U32)
    (length : ℕ) : List ℕ :=
  let range := streamRange params.mtuBytes.toNat offset length
  List.range' range.1 (min range.2 h.totalPackets - range.1)

/-- `sdr_send_stream_continue`: the packets it sends; none from a handle that is not active. -/
def SDRStreamHandle.streamContinue (h : SDRStreamHandle) (params : ConnectionParams)
    (offset : U32) (length : ℕ) : List SDRPacket :=
  if h.isActive = false then []
  else (h.offsets params offset length).filterMap
    (streamPacket params.transferId h.msgId params.packetsPerChunk params.mtuBytes.toNat
      h.userBuffer)

/-! ### Packets of a stream -/

/-- A stream's packet is the message's packet with the bytes of another place. -/
lemma streamPacket_spec (transferId : U32) (msgId : ℕ) (packetsPerChunk : U16) {mtuBytes : ℕ}
    (hmtu : mtuBytes ≤ SDRPacket.maxPayloadSize) (data : List U8) (i : ℕ) :
    ∃ p, streamPacket transferId msgId packetsPerChunk mtuBytes data i = some p ∧
      p.payload = (data.drop (i * mtuBytes % 2 ^ 32)).take mtuBytes ∧
      SDRPacket.parse p.datagram
        = some ⟨{ p.header with chunkSeq := p.header.getChunkId }, p.payload⟩ := by
  have hsome : ∃ p, streamPacket transferId msgId packetsPerChunk mtuBytes data i = some p := by
    unfold streamPacket SDRPacket.createDataPacket
    rw [if_neg (by omega)]
    exact ⟨_, rfl⟩
  obtain ⟨p, hp⟩ := hsome
  refine ⟨p, hp, ?_, SDRPacket.parse_datagram (by rw [List.length_drop]; omega) hp⟩
  unfold streamPacket SDRPacket.createDataPacket at hp
  rw [if_neg (by omega)] at hp
  obtain rfl := Option.some.inj hp
  dsimp only
  rw [List.take_eq_take_iff, List.length_drop]
  omega

/-- The two packets are built alike from the bytes they take. -/
lemma streamPacket_eq (transferId : U32) (msgId : ℕ) (packetsPerChunk : U16) {mtuBytes : ℕ}
    (hmtu : mtuBytes ≤ SDRPacket.maxPayloadSize) {data : List U8} {i : ℕ}
    (hbytes : (data.drop (i * mtuBytes % 2 ^ 32)).take mtuBytes = packetBytes mtuBytes data i) :
    streamPacket transferId msgId packetsPerChunk mtuBytes data i
      = dataPacket transferId msgId packetsPerChunk mtuBytes data i := by
  have hlen := congrArg List.length hbytes
  simp only [packetBytes, List.length_take, List.length_drop] at hlen
  have hstream : min mtuBytes (data.length - i * mtuBytes % 2 ^ 32)
      = min (min mtuBytes (data.length - i * mtuBytes)) SDRPacket.maxPayloadSize := by omega
  have hpayload : (data.drop (i * mtuBytes % 2 ^ 32)).take
        (min mtuBytes (data.length - i * mtuBytes % 2 ^ 32))
      = (data.drop (i * mtuBytes)).take
        (min (min mtuBytes (data.length - i * mtuBytes)) SDRPacket.maxPayloadSize) := by
    rw [← hstream, hlen]
    calc (data.drop (i * mtuBytes % 2 ^ 32)).take (min mtuBytes (data.length - i * mtuBytes))
        = ((data.drop (i * mtuBytes % 2 ^ 32)).take mtuBytes).take
            (min mtuBytes (data.length - i * mtuBytes)) := by
          rw [List.take_take]; congr 1; omega
      _ = (packetBytes mtuBytes data i).take (min mtuBytes (data.length - i * mtuBytes)) := by
          rw [hbytes]
      _ = (data.drop (i * mtuBytes)).take (min mtuBytes (data.length - i * mtuBytes)) := by
          rw [packetBytes, List.take_take]; congr 1; omega
  unfold streamPacket dataPacket SDRPacket.createDataPacket
  dsimp only
  rw [hpayload, hstream]

/-- The datagrams agree exactly when the bytes do. -/
lemma streamPacket_datagram_iff (transferId : U32) (msgId : ℕ) (packetsPerChunk : U16)
    {mtuBytes : ℕ} (hmtu : mtuBytes ≤ SDRPacket.maxPayloadSize) (data : List U8) (i : ℕ) :
    (streamPacket transferId msgId packetsPerChunk mtuBytes data i).map SDRPacket.datagram
        = (dataPacket transferId msgId packetsPerChunk mtuBytes data i).map SDRPacket.datagram ↔
      (data.drop (i * mtuBytes % 2 ^ 32)).take mtuBytes = packetBytes mtuBytes data i := by
  constructor
  · intro h
    obtain ⟨p, hp, hpayload, hparse⟩ :=
      streamPacket_spec transferId msgId packetsPerChunk hmtu data i
    obtain ⟨q, hq, -, -, -, hqpayload, hqparse⟩ :=
      dataPacket_spec transferId msgId packetsPerChunk hmtu data i
    rw [hp, hq] at h
    have hdatagram : p.datagram = q.datagram := Option.some.inj h
    rw [hdatagram, hqparse] at hparse
    rw [← hpayload, ← hqpayload]
    exact (congrArg SDRPacket.payload (Option.some.inj hparse)).symm
  · intro h
    rw [streamPacket_eq transferId msgId packetsPerChunk hmtu h]

end SdrUdp
