import SdrUdp.Core.Blocks
import SdrUdp.TcpControl
import SdrUdp.Bitmap
import SdrUdp.Packet

/-!
# Connections and their message tables

`ConnectionContext` holds the parameters of a connection and one slot for each of the 1024 message
ids. A slot is reused under a rotating generation.
-/

namespace SdrUdp

open SdrUdp.Core

/-- State of a message slot. -/
inductive MessageState where
  | active
  | completed
  | dead
  | nullState
  deriving DecidableEq

/-- What a message's `buffer` points to: a buffer of the application, or the connection's null
sink. -/
inductive BufferPtr where
  | user (id : ℕ)
  | nullSink
  deriving DecidableEq

/-- Ceiling division of two `size_t` values. -/
def ceilDiv (n d : ℕ) : ℕ := (n + d - 1) % 2 ^ 64 / d

lemma ceilDiv_eq {n d : ℕ} (h : n + d ≤ 2 ^ 64) : ceilDiv n d = n ⌈/⌉ d := by
  rw [ceilDiv, Nat.mod_eq_of_lt (by omega), Nat.ceilDiv_eq_add_pred_div]

lemma lt_ceil_iff {x d : ℕ} (hd : 0 < d) (k : ℕ) : k < (x + d - 1) / d ↔ k * d < x :=
  lt_ceilDiv_iff_mul_lt hd x k

lemma lt_ceilDiv_iff {x d : ℕ} (hd : 0 < d) (hx : x + d ≤ 2 ^ 64) (k : ℕ) :
    k < ceilDiv x d ↔ k * d < x := by
  rw [ceilDiv_eq hx, lt_ceilDiv_iff_mul_lt hd]

/-- Message context, one for each message. -/
structure MessageContext where
  msgId : ℕ
  generation : U32
  state : MessageState
  buffer : Option BufferPtr
  bufferSize : ℕ
  totalPackets : ℕ
  totalChunks : ℕ
  packetsPerChunk : U16
  backendBitmap : Option BackendBitmap
  frontendBitmap : Option FrontendBitmap
  connectionParams : ConnectionParams

/-- The default constructor. -/
def MessageContext.fresh : MessageContext :=
  ⟨0, 0, .nullState, none, 0, 0, 0, 0, none, none, .zero⟩

/-- Connection context, one for each connection. -/
structure ConnectionContext where
  connectionId : U32
  params : ConnectionParams
  isInitialized : Bool
  autoSendData : Bool
  msgTable : ℕ → Option MessageContext
  generationCounters : ℕ → U32

namespace ConnectionContext

def maxMessages : ℕ := 1024

/-- `null_sink_.size()`. -/
def nullSinkSize : ℕ := 1

/-- The constructor; generations start at 1. -/
def fresh : ConnectionContext where
  connectionId := 0
  params := .zero
  isInitialized := false
  autoSendData := true
  msgTable _ := none
  generationCounters _ := 1

def initializeContext (c : ConnectionContext) (connectionId : U32) (params : ConnectionParams) :
    ConnectionContext :=
  { c with connectionId, params, isInitialized := true }

/-- A slot that `allocate_message_slot` refuses: a transfer is in progress, or the requested
generation is not newer than that of the finished message. -/
def slotBusy (slot : Option MessageContext) (generation : U32) : Bool :=
  match slot with
  | none   => false
  | some m => m.state == .active ||
      ((m.state == .completed || m.state == .dead) && decide (generation ≤ m.generation))

/-- The slot gets the next generation of its own counter; the requested one is only compared. -/
def allocateMessageSlot (c : ConnectionContext) (msgId : ℕ) (generation : U32) :
    Option (MessageContext × ConnectionContext) :=
  if msgId ≥ maxMessages then none
  else if slotBusy (c.msgTable msgId) generation then none
  else
    let msg : MessageContext :=
      { MessageContext.fresh with
        msgId := msgId
        generation := c.generationCounters msgId
        state := .active
        connectionParams := c.params }
    some (msg,
      { c with
        msgTable := Function.update c.msgTable msgId (some msg)
        generationCounters := Function.update c.generationCounters msgId
          (c.generationCounters msgId + 1) })

def getMessage (c : ConnectionContext) (msgId : ℕ) : Option MessageContext :=
  if msgId ≥ maxMessages then none
  else match c.msgTable msgId with
    | none   => none
    | some m => if m.state = .nullState then none else some m

def releaseMessage (c : ConnectionContext) (msgId : ℕ) : ConnectionContext :=
  if msgId ≥ maxMessages then c
  else { c with msgTable := Function.update c.msgTable msgId none }

/-- What `complete_message` does to the message: late packets go to the null sink. -/
def retire (m : MessageContext) : MessageContext :=
  { m with state := .dead, buffer := some .nullSink }

def completeMessage (c : ConnectionContext) (msgId : ℕ) : ConnectionContext :=
  if msgId ≥ maxMessages then c
  else { c with msgTable := Function.update c.msgTable msgId ((c.msgTable msgId).map retire) }

/-- Write through the pointer a caller holds to the message in slot `msgId`. -/
def setMessage (c : ConnectionContext) (msgId : ℕ) (m : MessageContext) : ConnectionContext :=
  { c with msgTable := Function.update c.msgTable msgId (some m) }

/-- `calculate_bitmap_sizes`: packets and chunks of a message. -/
def calculateBitmapSizes (totalBytes : ℕ) (mtuBytes : U32) (packetsPerChunk : U16) : ℕ × ℕ :=
  if mtuBytes = 0 ∨ packetsPerChunk = 0 then (0, 0)
  else
    let totalPackets := ceilDiv totalBytes mtuBytes.toNat
    (totalPackets, ceilDiv totalPackets packetsPerChunk.toNat)

lemma calculateBitmapSizes_of_pos (totalBytes : ℕ) {mtuBytes : U32} {packetsPerChunk : U16}
    (hmtu : 0 < mtuBytes.toNat) (hppc : 0 < packetsPerChunk.toNat) :
    calculateBitmapSizes totalBytes mtuBytes packetsPerChunk
      = (ceilDiv totalBytes mtuBytes.toNat,
          ceilDiv (ceilDiv totalBytes mtuBytes.toNat) packetsPerChunk.toNat) := by
  rw [calculateBitmapSizes, if_neg]
  exact not_or.mpr ⟨ne_zero_of_toNat_pos hmtu, ne_zero_of_toNat_pos hppc⟩

end ConnectionContext

/-! ### The handshake's parameters -/

/-- `strncpy` of at most 15 characters into `udp_server_ip`, and the terminating zero. -/
def copyServerIp (src : List U8) : Vector U8 16 :=
  let chars := (src.take 15).takeWhile (· ≠ 0)
  Vector.ofFn fun i => chars.getD i 0

/-- The characters of `"127.0.0.1"`. -/
def loopbackIp : List U8 := [49, 50, 55, 46, 48, 46, 48, 46, 49]

/-- A value if it is not zero, else a default. -/
def orDefault {w : ℕ} (x dflt : BitVec w) : BitVec w := if x = 0 then dflt else x

/-- What `sdr_send_post` proposes in its OFFER. -/
def desiredParams (own : ConnectionParams) (length : ℕ) : ConnectionParams :=
  { own with
    totalBytes := BitVec.ofNat 64 length
    mtuBytes := orDefault own.mtuBytes (BitVec.ofNat 32 SDRPacket.maxPayloadSize)
    packetsPerChunk := orDefault own.packetsPerChunk 32
    numChannels := orDefault own.numChannels 1
    udpServerPort := 0
    udpServerIp := Vector.replicate 16 0 }

/-- What `sdr_recv_post` makes of its own parameters, the sender's OFFER and the buffer length; the
transfer id follows later. -/
def negotiate (own offer : ConnectionParams) (length : ℕ) : ConnectionParams :=
  let maxPayload := BitVec.ofNat 32 SDRPacket.maxPayloadSize
  let proposedMtu := orDefault (orDefault own.mtuBytes (orDefault offer.mtuBytes maxPayload))
    maxPayload
  let serverPort := orDefault own.udpServerPort (orDefault own.channelBasePort 9999)
  { own with
    totalBytes := orDefault offer.totalBytes (BitVec.ofNat 64 length)
    mtuBytes := if proposedMtu < maxPayload then proposedMtu else maxPayload
    packetsPerChunk := orDefault own.packetsPerChunk (orDefault offer.packetsPerChunk 64)
    numChannels := orDefault offer.numChannels (orDefault own.numChannels 1)
    udpServerPort := serverPort
    channelBasePort := orDefault own.channelBasePort serverPort
    udpServerIp :=
      if own.udpServerIp[0] = 0 then
        if offer.udpServerIp[0] ≠ 0 then copyServerIp offer.udpServerIp.toList
        else copyServerIp loopbackIp
      else own.udpServerIp
    transferId := orDefault own.transferId 1 }

/-- `params.transfer_id = generation`. -/
def ConnectionParams.withTransferId (p : ConnectionParams) (generation : U32) : ConnectionParams :=
  { p with transferId := generation }

@[simp] lemma ConnectionParams.transferId_withTransferId (p : ConnectionParams) (generation : U32) :
    (p.withTransferId generation).transferId = generation := rfl

/-- An address that is not the empty string. -/
def HasAddress (ip : Vector U8 16) : Prop := ip[0] ≠ 0

/-- An address that is not empty is copied as such. -/
lemma hasAddress_copyServerIp {src : List U8} {c : U8} (hsrc : src.head? = some c) (hc : c ≠ 0) :
    HasAddress (copyServerIp src) := by
  obtain ⟨rest, rfl⟩ := List.head?_eq_some_iff.mp hsrc
  have hchars : ((c :: rest).take 15).takeWhile (· ≠ 0)
      = c :: (rest.take 14).takeWhile (· ≠ 0) := by
    rw [List.take_succ_cons, List.takeWhile_cons_of_pos (by simpa using hc)]
  simp only [HasAddress, copyServerIp, Vector.getElem_ofFn, hchars]
  exact hc

lemma orDefault_of_ne {w : ℕ} {x dflt : BitVec w} (h : x ≠ 0) : orDefault x dflt = x := if_neg h

lemma orDefault_zero {w : ℕ} (dflt : BitVec w) : orDefault 0 dflt = dflt := if_pos rfl

lemma orDefault_ne_zero {w : ℕ} {x dflt : BitVec w} (h : dflt ≠ 0) : orDefault x dflt ≠ 0 := by
  unfold orDefault; split_ifs with hx
  · exact h
  · exact hx

lemma orDefault_toNat_pos {w : ℕ} {x dflt : BitVec w} (h : dflt ≠ 0) :
    0 < (orDefault x dflt).toNat := BitVec.toNat_pos_of_ne_zero (orDefault_ne_zero h)

/-- The negotiated sizes are usable whatever was configured and offered. -/
lemma negotiate_mtuBytes (own offer : ConnectionParams) (length : ℕ) :
    0 < (negotiate own offer length).mtuBytes.toNat ∧
      (negotiate own offer length).mtuBytes.toNat ≤ SDRPacket.maxPayloadSize := by
  have hmax : (BitVec.ofNat 32 SDRPacket.maxPayloadSize).toNat = SDRPacket.maxPayloadSize := rfl
  simp only [negotiate]
  generalize hproposed : orDefault (orDefault own.mtuBytes _) _ = proposed
  have hpos : 0 < proposed.toNat := hproposed ▸ orDefault_toNat_pos (by decide)
  split_ifs with h
  · rw [BitVec.lt_def, hmax] at h
    exact ⟨hpos, h.le⟩
  · rw [hmax]
    exact ⟨by decide, le_rfl⟩

lemma negotiate_packetsPerChunk (own offer : ConnectionParams) (length : ℕ) :
    0 < (negotiate own offer length).packetsPerChunk.toNat :=
  orDefault_toNat_pos (orDefault_ne_zero (by decide))

/-- The negotiated address is never empty. -/
lemma negotiate_udpServerIp (own offer : ConnectionParams) (length : ℕ) :
    HasAddress (negotiate own offer length).udpServerIp := by
  simp only [negotiate]
  split_ifs with hown hoffer
  · refine hasAddress_copyServerIp ?_ hoffer
    rw [List.head?_eq_getElem?, Vector.getElem?_toList, Vector.getElem?_eq_getElem (by decide)]
  · exact hasAddress_copyServerIp rfl (by decide)
  · exact hown

/-! ### Slots -/

namespace ConnectionContext

lemma allocateMessageSlot_eq_some {c c' : ConnectionContext} {msgId : ℕ} {generation : U32}
    {m : MessageContext} (h : c.allocateMessageSlot msgId generation = some (m, c')) :
    msgId < maxMessages ∧ slotBusy (c.msgTable msgId) generation = false ∧
      m.generation = c.generationCounters msgId ∧ m.state = .active ∧
      m.connectionParams = c.params ∧ m.msgId = msgId ∧
      c' = { c with
        msgTable := Function.update c.msgTable msgId (some m)
        generationCounters := Function.update c.generationCounters msgId
          (c.generationCounters msgId + 1) } := by
  unfold allocateMessageSlot at h
  split_ifs at h with hid hbusy
  obtain ⟨rfl, rfl⟩ := Prod.mk.inj (Option.some.inj h)
  exact ⟨not_le.mp hid, by simpa using hbusy, rfl, rfl, rfl, rfl, rfl⟩

lemma allocateMessageSlot_eq_none_iff (c : ConnectionContext) {msgId : ℕ}
    (hid : msgId < maxMessages)
    (generation : U32) :
    c.allocateMessageSlot msgId generation = none ↔
      slotBusy (c.msgTable msgId) generation = true := by
  unfold allocateMessageSlot
  rw [if_neg (not_le.mpr hid)]
  split_ifs with hbusy
  · exact iff_of_true rfl hbusy
  · exact iff_of_false (by simp) hbusy

@[simp] lemma initializeContext_msgTable (c : ConnectionContext) (id : U32) (p : ConnectionParams) :
    (c.initializeContext id p).msgTable = c.msgTable := rfl

@[simp] lemma initializeContext_generationCounters (c : ConnectionContext) (id : U32)
    (p : ConnectionParams) : (c.initializeContext id p).generationCounters
      = c.generationCounters := rfl

@[simp] lemma initializeContext_params (c : ConnectionContext) (id : U32) (p : ConnectionParams) :
    (c.initializeContext id p).params = p := rfl

@[simp] lemma setMessage_generationCounters (c : ConnectionContext) (i : ℕ) (m : MessageContext) :
    (c.setMessage i m).generationCounters = c.generationCounters := rfl

@[simp] lemma releaseMessage_generationCounters (c : ConnectionContext) (i : ℕ) :
    (c.releaseMessage i).generationCounters = c.generationCounters := by
  unfold releaseMessage; split_ifs <;> rfl

@[simp] lemma completeMessage_generationCounters (c : ConnectionContext) (i : ℕ) :
    (c.completeMessage i).generationCounters = c.generationCounters := by
  unfold completeMessage; split_ifs <;> rfl

lemma getMessage_of_lt (c : ConnectionContext) {i : ℕ} (h : i < maxMessages) :
    c.getMessage i = (c.msgTable i).filter (fun m => m.state ≠ .nullState) := by
  unfold getMessage
  rw [if_neg (by omega)]
  cases c.msgTable i with
  | none => rfl
  | some m => by_cases hs : m.state = .nullState <;> simp [Option.filter, hs]

end ConnectionContext

end SdrUdp
