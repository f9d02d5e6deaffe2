import SdrUdp.TcpControl

/-!
# Data packets

`SDRPacketHeader` with its packed layout, the packet builder of the sender and the parser of the
receiver's worker threads.
-/

namespace SdrUdp

open SdrUdp.Core

/-- The packed UDP header; `msg_id`, `packet_offset` and `_reserved2` are bit-fields of one 32-bit
word. -/
structure SDRPacketHeader where
  magic : U16
  type : U8
  reserved1 : U8
  transferId : U32
  msgId : BitVec 10
  packetOffset : BitVec 18
  reserved2 : BitVec 4
  submsgId : U16
  chunkSeq : U32
  packetsPerChunk : U16
  fecK : U16
  fecM : U16
  parityIdx : U16
  payloadLen : U16
  flags : U8
  reserved3 : Vector U8 3
  deriving DecidableEq

namespace SDRPacketHeader

def magicValue : U16 := 0x5344

/-- `memset(&header, 0, sizeof(header))`. -/
def zero : SDRPacketHeader := ⟨0, 0, 0, 0, 0, 0, 0, 0, 0, 0, 0, 0, 0, 0, 0, Vector.replicate 3 0⟩

def getChunkId (h : SDRPacketHeader) : U32 :=
  if h.packetsPerChunk = 0 then 0
  else BitVec.ofNat 32 (h.packetOffset.toNat / h.packetsPerChunk.toNat)

def isValid (h : SDRPacketHeader) : Bool := h.magic == magicValue

end SDRPacketHeader

/-! ### Byte order -/

/-- `htons`, `htonl` and their inverses on a little-endian host: the bytes in reverse order. -/
def byteSwap (n : ℕ) (x : BitVec (8 * n)) : BitVec (8 * n) :=
  (Codec.uint n).decode ((Codec.uint n).encode x).reverse

lemma leBytes_leValue (l : List U8) : leBytes l.length (leValue l.length l) = l := by
  induction l with
  | nil => rfl
  | cons b l ih =>
    have hmod : BitVec.ofNat 8 (b.toNat + 256 * leValue l.length l) = b := by
      apply BitVec.eq_of_toNat_eq
      have := b.isLt
      simp only [BitVec.toNat_ofNat]
      omega
    have hdiv : (b.toNat + 256 * leValue l.length l) / 256 = leValue l.length l := by
      have := b.isLt
      omega
    rw [List.length_cons, leValue, leBytes, hmod, hdiv, ih]

lemma leValue_lt (n : ℕ) (l : List U8) : leValue n l < 256 ^ n := by
  induction n generalizing l with
  | zero => simp [leValue]
  | succ n ih =>
    cases l with
    | nil => simp [leValue]
    | cons b l =>
      have hb := b.isLt
      have hl := ih l
      rw [leValue, pow_succ']
      omega

@[simp] lemma byteSwap_byteSwap (n : ℕ) (x : BitVec (8 * n)) : byteSwap n (byteSwap n x) = x := by
  have hlen : ((Codec.uint n).encode x).reverse.length = n := by
    rw [List.length_reverse, (Codec.uint n).length_encode]; rfl
  have hround : (Codec.uint n).encode ((Codec.uint n).decode ((Codec.uint n).encode x).reverse)
      = ((Codec.uint n).encode x).reverse := by
    have hpow : (256 : ℕ) ^ n = 2 ^ (8 * n) := by rw [pow_mul]; rfl
    generalize ((Codec.uint n).encode x).reverse = l at hlen
    subst hlen
    change leBytes l.length (BitVec.ofNat _ (leValue l.length l)).toNat = l
    rw [BitVec.toNat_ofNat, ← hpow, Nat.mod_eq_of_lt (leValue_lt _ _), leBytes_leValue]
  rw [byteSwap, byteSwap, hround, List.reverse_reverse, Codec.decode_encode]

namespace SDRPacketHeader

/-- Swap every multi-byte field that is not a bit-field; both `to_network_order` and
`to_host_order` do this. -/
def swapOrder (h : SDRPacketHeader) : SDRPacketHeader :=
  { h with
    magic := byteSwap 2 h.magic
    transferId := byteSwap 4 h.transferId
    chunkSeq := byteSwap 4 h.chunkSeq
    submsgId := byteSwap 2 h.submsgId
    packetsPerChunk := byteSwap 2 h.packetsPerChunk
    fecK := byteSwap 2 h.fecK
    fecM := byteSwap 2 h.fecM
    parityIdx := byteSwap 2 h.parityIdx
    payloadLen := byteSwap 2 h.payloadLen }

def toNetworkOrder (h : SDRPacketHeader) : SDRPacketHeader := h.swapOrder

def toHostOrder (h : SDRPacketHeader) : SDRPacketHeader := h.swapOrder

lemma toHostOrder_toNetworkOrder (h : SDRPacketHeader) : h.toNetworkOrder.toHostOrder = h := by
  simp only [toNetworkOrder, toHostOrder, swapOrder]
  congr 1 <;> exact byteSwap_byteSwap _ _

/-- The bit-field word, lowest field first. -/
def packFields (msgId : BitVec 10) (packetOffset : BitVec 18) (reserved : BitVec 4) : U32 :=
  BitVec.ofNat 32 (msgId.toNat + 2 ^ 10 * packetOffset.toNat + 2 ^ 28 * reserved.toNat)

def unpackFields (word : U32) : BitVec 10 × BitVec 18 × BitVec 4 :=
  (BitVec.ofNat 10 word.toNat, BitVec.ofNat 18 (word.toNat / 2 ^ 10),
    BitVec.ofNat 4 (word.toNat / 2 ^ 28))

lemma unpackFields_packFields (msgId : BitVec 10) (packetOffset : BitVec 18) (reserved : BitVec 4) :
    unpackFields (packFields msgId packetOffset reserved) = (msgId, packetOffset, reserved) := by
  have hm := msgId.isLt
  have ho := packetOffset.isLt
  have hr := reserved.isLt
  have hword : (packFields msgId packetOffset reserved).toNat
      = msgId.toNat + 2 ^ 10 * packetOffset.toNat + 2 ^ 28 * reserved.toNat := by
    rw [packFields, BitVec.toNat_ofNat]
    exact Nat.mod_eq_of_lt (by omega)
  refine Prod.ext ?_ (Prod.ext ?_ ?_) <;> apply BitVec.eq_of_toNat_eq <;>
    simp only [unpackFields, hword, BitVec.toNat_ofNat] <;> omega

/-- The packed layout: no padding between the fields. -/
def layout : Codec SDRPacketHeader :=
  (uint16.pair <| uint8.pair <| uint8.pair <| uint32.pair <|
    (uint32.via unpackFields (fun f => packFields f.1 f.2.1 f.2.2)
      (fun f => unpackFields_packFields f.1 f.2.1 f.2.2)).pair <|
    uint16.pair <| uint32.pair <| uint16.pair <| uint16.pair <| uint16.pair <| uint16.pair <|
    uint16.pair <| uint8.pair <| uint8.vector 3).via
    (fun (magic, type, reserved1, transferId, (msgId, packetOffset, reserved2), submsgId, chunkSeq,
        packetsPerChunk, fecK, fecM, parityIdx, payloadLen, flags, reserved3) =>
      { magic, type, reserved1, transferId, msgId, packetOffset, reserved2, submsgId, chunkSeq,
        packetsPerChunk, fecK, fecM, parityIdx, payloadLen, flags, reserved3 })
    (fun h => (h.magic, h.type, h.reserved1, h.transferId, (h.msgId, h.packetOffset, h.reserved2),
      h.submsgId, h.chunkSeq, h.packetsPerChunk, h.fecK, h.fecM, h.parityIdx, h.payloadLen, h.flags,
      h.reserved3))
    (fun _ => rfl)

/-- `sizeof(SDRPacketHeader)`. -/
def size : ℕ := 32

lemma layout_width : layout.width = size := rfl

end SDRPacketHeader

/-! ### Building and parsing packets -/

/-- A packet in host byte order. -/
structure SDRPacket where
  header : SDRPacketHeader
  payload : List U8
  deriving DecidableEq

namespace SDRPacket

def maxPayloadSize : ℕ := 64 * 1024 - 8 - SDRPacketHeader.size

/-- `create_data_packet`; the assignments to the bit-fields and to `payload_len` truncate. -/
def createDataPacket (transferId : U32) (msgId packetOffset : ℕ) (packetsPerChunk : U16)
    (data : List U8) (dataLen : ℕ) : Option SDRPacket :=
  if dataLen > maxPayloadSize then none
  else some
    { header :=
        { SDRPacketHeader.zero with
          magic := SDRPacketHeader.magicValue
          type := 0
          transferId := transferId
          msgId := BitVec.ofNat 10 msgId
          packetOffset := BitVec.ofNat 18 packetOffset
          packetsPerChunk := packetsPerChunk
          payloadLen := BitVec.ofNat 16 dataLen }
      payload := data.take dataLen }

/-- The datagram handed to `sendto`: `chunk_seq` is filled in, then the header changes its byte
order. -/
def datagram (p : SDRPacket) : List U8 :=
  let header := { p.header with chunkSeq := p.header.getChunkId }
  SDRPacketHeader.layout.encode header.toNetworkOrder ++ p.payload

/-- What a worker thread makes of the bytes `recvfrom` gave it: the header in host order and the
payload, cut to the smaller of the two lengths. -/
def parse (bytes : List U8) : Option SDRPacket :=
  if bytes.length < SDRPacketHeader.size then none
  else
    let header := (SDRPacketHeader.layout.decode bytes).toHostOrder
    if header.isValid = false then none
    else
      let payload := bytes.drop SDRPacketHeader.size
      some ⟨header, payload.take (min payload.length header.payloadLen.toNat)⟩

/-- The receiver sees the packet the sender built, with the chunk number filled in. -/
lemma parse_datagram {transferId : U32} {msgId packetOffset : ℕ} {packetsPerChunk : U16}
    {data : List U8} {dataLen : ℕ} {p : SDRPacket} (hlen : dataLen ≤ data.length)
    (h : createDataPacket transferId msgId packetOffset packetsPerChunk data dataLen = some p) :
    parse p.datagram = some ⟨{ p.header with chunkSeq := p.header.getChunkId }, p.payload⟩ := by
  unfold createDataPacket at h
  split_ifs at h with hmax
  have hfit : dataLen < 2 ^ 16 := by
    simp only [maxPayloadSize, SDRPacketHeader.size] at hmax
    omega
  obtain rfl := Option.some.inj h
  generalize hheader : ({ SDRPacketHeader.zero with
    magic := SDRPacketHeader.magicValue
    type := 0
    transferId := transferId
    msgId := BitVec.ofNat 10 msgId
    packetOffset := BitVec.ofNat 18 packetOffset
    packetsPerChunk := packetsPerChunk
    payloadLen := BitVec.ofNat 16 dataLen } : SDRPacketHeader) = header
  have hmagic : header.magic = SDRPacketHeader.magicValue := by rw [← hheader]
  have hpay : header.payloadLen.toNat = dataLen := by
    rw [← hheader]
    simpa using hfit
  simp only [datagram]
  generalize hseq : ({ header with chunkSeq := header.getChunkId } : SDRPacketHeader) = full
  have hmagic' : full.magic = SDRPacketHeader.magicValue := by rw [← hseq]; exact hmagic
  have hpay' : full.payloadLen.toNat = dataLen := by rw [← hseq]; exact hpay
  have hwidth : (SDRPacketHeader.layout.encode full.toNetworkOrder).length
      = SDRPacketHeader.size :=
    SDRPacketHeader.layout.length_encode _
  have hnot : ¬ (SDRPacketHeader.layout.encode full.toNetworkOrder ++ data.take dataLen).length
      < SDRPacketHeader.size := by
    rw [List.length_append, hwidth]; omega
  have htake : (data.take dataLen).length = dataLen := by
    rw [List.length_take]; omega
  simp only [parse, if_neg hnot, SDRPacketHeader.layout.decode_append,
    SDRPacketHeader.toHostOrder_toNetworkOrder, SDRPacketHeader.isValid, hmagic', beq_self_eq_true,
    Bool.true_eq_false, if_false, List.drop_left' hwidth, hpay', htake, min_self]
  rw [List.take_of_length_le (by omega)]

end SDRPacket

end SdrUdp
