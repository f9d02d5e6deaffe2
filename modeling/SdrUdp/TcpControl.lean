import SdrUdp.Core.Codec

/-!
# The TCP control channel

`ControlMessage` with its struct layout, and the blocking receive loops of `TCPControlServer` and
`TCPControlClient` over a byte stream. The kernel is an event list: it says, call after call, what
`recv` does.
-/

namespace SdrUdp

open SdrUdp.Core

/-! ### Messages -/

/-- Message types of the control plane; the wire byte is not checked, so any other code can
arrive. -/
inductive ControlMsgType where
  | offer
  | cts
  | accept
  | reject
  | completeAck
  | incompleteNack
  | srAck
  | srNack
  | ecAck
  | ecNack
  | ecFallbackSr
  | unlisted (code : U8) (h : 11 ≤ code.toNat)
  deriving DecidableEq

namespace ControlMsgType

/-- The enumerator's value. -/
def toByte : ControlMsgType → U8
  | offer           => 0
  | cts             => 1
  | accept          => 2
  | reject          => 3
  | completeAck     => 4
  | incompleteNack  => 5
  | srAck           => 6
  | srNack          => 7
  | ecAck           => 8
  | ecNack          => 9
  | ecFallbackSr    => 10
  | unlisted code _ => code

/-- The enumerator of a byte. -/
def ofByte (b : U8) : ControlMsgType :=
  if h : 11 ≤ b.toNat then unlisted b h
  else match b.toNat with
    | 0 => offer
    | 1 => cts
    | 2 => accept
    | 3 => reject
    | 4 => completeAck
    | 5 => incompleteNack
    | 6 => srAck
    | 7 => srNack
    | 8 => ecAck
    | 9 => ecNack
    | _ => ecFallbackSr

lemma ofByte_toByte (t : ControlMsgType) : ofByte t.toByte = t := by
  cases t with
  | unlisted code h => simp [ofByte, toByte, h]
  | _ => rfl

end ControlMsgType

/-- Parameters exchanged in OFFER and CTS. -/
structure ConnectionParams where
  transferId : U32
  totalBytes : U64
  mtuBytes : U32
  packetBytes : U32
  chunkBytes : U32
  packetsPerChunk : U16
  totalChunks : U16
  fecK : U16
  fecM : U16
  maxInflight : U32
  rtoMs : U32
  rttAlphaMs : U32
  numChannels : U16
  channelBasePort : U16
  udpServerIp : Vector U8 16
  udpServerPort : U16
  deriving DecidableEq

/-- `memset(&params, 0, sizeof(params))`. -/
def ConnectionParams.zero : ConnectionParams :=
  ⟨0, 0, 0, 0, 0, 0, 0, 0, 0, 0, 0, 0, 0, 0, Vector.replicate 16 0, 0⟩

/-- A message of the control channel. -/
structure ControlMessage where
  magic : U16
  msgType : ControlMsgType
  connectionId : U32
  params : ConnectionParams
  chunkBitmapWords : U16
  chunkBitmap : Vector U64 16
  numGaps : U16
  gapStart : Vector U16 16
  gapLen : Vector U16 16
  deriving DecidableEq

namespace ControlMessage

def magicValue : U16 := 0x5344

/-- `ControlMessage msg{}`. -/
def zero : ControlMessage :=
  ⟨0, .offer, 0, .zero, 0, Vector.replicate 16 0, 0, Vector.replicate 16 0, Vector.replicate 16 0⟩

end ControlMessage

/-! ### Struct layout

Natural alignment on a 64-bit little-endian target: the paddings are those the compiler inserts.
Both ends copy the struct as it lies in memory. -/

section Layout

def uint8 : Codec U8 := Codec.uint 1
def uint16 : Codec U16 := Codec.uint 2
def uint32 : Codec U32 := Codec.uint 4
def uint64 : Codec U64 := Codec.uint 8

/-- Layout of `ConnectionParams`. -/
def connectionParamsLayout : Codec ConnectionParams :=
  (uint32.pair <| (Codec.pad 4).pair <| uint64.pair <| uint32.pair <| uint32.pair <| uint32.pair <|
    uint16.pair <| uint16.pair <| uint16.pair <| uint16.pair <| uint32.pair <| uint32.pair <|
    uint32.pair <| uint16.pair <| uint16.pair <| (uint8.vector 16).pair <| uint16.pair <|
    Codec.pad 2).via
    (fun (transferId, _, totalBytes, mtuBytes, packetBytes, chunkBytes, packetsPerChunk,
        totalChunks, fecK, fecM, maxInflight, rtoMs, rttAlphaMs, numChannels, channelBasePort,
        udpServerIp, udpServerPort, _) =>
      { transferId, totalBytes, mtuBytes, packetBytes, chunkBytes, packetsPerChunk, totalChunks,
        fecK, fecM, maxInflight, rtoMs, rttAlphaMs, numChannels, channelBasePort, udpServerIp,
        udpServerPort })
    (fun p => (p.transferId, (), p.totalBytes, p.mtuBytes, p.packetBytes, p.chunkBytes,
      p.packetsPerChunk, p.totalChunks, p.fecK, p.fecM, p.maxInflight, p.rtoMs, p.rttAlphaMs,
      p.numChannels, p.channelBasePort, p.udpServerIp, p.udpServerPort, ()))
    (fun _ => rfl)

/-- Layout of `ControlMsgType`. -/
def controlMsgTypeLayout : Codec ControlMsgType :=
  uint8.via ControlMsgType.ofByte ControlMsgType.toByte ControlMsgType.ofByte_toByte

/-- Layout of `ControlMessage`. -/
def controlMessageLayout : Codec ControlMessage :=
  (uint16.pair <| controlMsgTypeLayout.pair <| (Codec.pad 1).pair <| uint32.pair <|
    connectionParamsLayout.pair <| uint16.pair <| (Codec.pad 6).pair <| (uint64.vector 16).pair <|
    uint16.pair <| (uint16.vector 16).pair <| (uint16.vector 16).pair <| Codec.pad 6).via
    (fun (magic, msgType, _, connectionId, params, chunkBitmapWords, _, chunkBitmap, numGaps,
        gapStart, gapLen, _) =>
      { magic, msgType, connectionId, params, chunkBitmapWords, chunkBitmap, numGaps, gapStart,
        gapLen })
    (fun m => (m.magic, m.msgType, (), m.connectionId, m.params, m.chunkBitmapWords, (),
      m.chunkBitmap, m.numGaps, m.gapStart, m.gapLen, ()))
    (fun _ => rfl)

/-- `sizeof(ControlMessage)`. -/
def sizeofControlMessage : ℕ := 288

lemma connectionParamsLayout_width : connectionParamsLayout.width = 72 := rfl

lemma controlMessageLayout_width : controlMessageLayout.width = sizeofControlMessage := rfl

end Layout

namespace ControlMessage

/-- The bytes written into a buffer of `bufferSize` bytes; none when it is too small. -/
def serialize (m : ControlMessage) (bufferSize : ℕ) : List U8 :=
  if bufferSize < sizeofControlMessage then [] else controlMessageLayout.encode m

/-- Read a message; `none` stands for the result `false`. -/
def deserialize (buffer : List U8) : Option ControlMessage :=
  if buffer.length < sizeofControlMessage then none
  else
    let m := controlMessageLayout.decode buffer
    if m.magic ≠ magicValue then none else some m

/-- What `send_message` puts on the stream. -/
def wire (m : ControlMessage) : List U8 := m.serialize sizeofControlMessage

@[simp] lemma length_wire (m : ControlMessage) : m.wire.length = sizeofControlMessage := by
  simp [wire, serialize, controlMessageLayout.length_encode, controlMessageLayout_width]

lemma deserialize_wire (m : ControlMessage) :
    deserialize m.wire = if m.magic = magicValue then some m else none := by
  have hdec : controlMessageLayout.decode m.wire = m := by
    simp [wire, serialize, controlMessageLayout.decode_encode]
  simp [deserialize, hdec]

end ControlMessage

/-! ### Endpoints -/

/-- The receiver's end of the channel, as far as messages go. -/
structure TCPControlServer where
  clientFd : ℤ
  deriving DecidableEq

/-- The sender's end of the channel. -/
structure TCPControlClient where
  isConnected : Bool
  deriving DecidableEq

/-- What one call of `recv` does: hand over at most `n` bytes, time out (`EAGAIN`), report that the
peer closed, or fail. -/
inductive RecvEvent where
  | arrived (n : ℕ)
  | eagain
  | closed
  | failed
  deriving DecidableEq

/-- Bytes the peer has sent and that were not read yet, and what the next `recv` calls do. -/
structure Inbound where
  stream : List U8
  events : List RecvEvent
  deriving DecidableEq

/-- How a receive loop ends; `pending` when it still waits for the kernel. -/
inductive LoopExit where
  | filled (buffer : List U8)
  | timedOut
  | lost
  | pending

/-- The loop of `receive_message`: the `buffer` is local, so whatever it holds is gone when the loop
leaves early. -/
def receiveLoop : List RecvEvent → List U8 → List U8 → LoopExit × Inbound
  | [], stream, buffer =>
    if buffer.length < sizeofControlMessage then (.pending, ⟨stream, []⟩)
    else (.filled buffer, ⟨stream, []⟩)
  | event :: events, stream, buffer =>
    if buffer.length < sizeofControlMessage then
      match event with
      | .arrived n =>
        let got := min n (min (sizeofControlMessage - buffer.length) stream.length)
        if got = 0 then (.timedOut, ⟨stream, events⟩)
        else receiveLoop events (stream.drop got) (buffer ++ stream.take got)
      | .eagain => (.timedOut, ⟨stream, events⟩)
      | .closed => (.lost, ⟨stream, events⟩)
      | .failed => (.lost, ⟨stream, events⟩)
    else (.filled buffer, ⟨stream, event :: events⟩)

/-- The result of one `receive_message`: `true` with a message, `false` with the connection still
up, or `false` with the connection given up. -/
inductive Received where
  | message (m : ControlMessage)
  | timeout
  | disconnected
  deriving DecidableEq

/-- What a filled buffer amounts to: `deserialize` refuses it when the magic is wrong. -/
def Received.ofBuffer (buffer : List U8) : Received :=
  match ControlMessage.deserialize buffer with
  | some m => .message m
  | none   => .timeout

/-- `receive_message` of an endpoint `σ`; no result while the loop still waits for the kernel. -/
def receiveOn {σ : Type} (isOpen : σ → Bool) (close : σ → σ) (endpoint : σ) (inbound : Inbound) :
    Option Received × σ × Inbound :=
  if isOpen endpoint = false then (some .disconnected, endpoint, inbound)
  else match receiveLoop inbound.events inbound.stream [] with
    | (.filled buffer, rest) => (some (.ofBuffer buffer), endpoint, rest)
    | (.timedOut, rest)      => (some .timeout, endpoint, rest)
    | (.lost, rest)          => (some .disconnected, close endpoint, rest)
    | (.pending, rest)       => (none, endpoint, rest)

def TCPControlServer.isOpen (s : TCPControlServer) : Bool := decide (0 ≤ s.clientFd)

def TCPControlServer.receiveMessage (s : TCPControlServer) (inbound : Inbound) :
    Option Received × TCPControlServer × Inbound :=
  receiveOn isOpen (fun s => { s with clientFd := -1 }) s inbound

def TCPControlClient.receiveMessage (c : TCPControlClient) (inbound : Inbound) :
    Option Received × TCPControlClient × Inbound :=
  receiveOn TCPControlClient.isConnected (fun c => { c with isConnected := false }) c inbound

/-- `send_message` of the client, `sent` being what `send` returns: the result, the client and the
bytes that entered the stream. -/
def TCPControlClient.sendMessage (c : TCPControlClient) (m : ControlMessage) (sent : ℤ) :
    Bool × TCPControlClient × List U8 :=
  if c.isConnected = false then (false, c, [])
  else
    let buffer := m.serialize sizeofControlMessage
    if sent < 0 then (false, { c with isConnected := false }, [])
    else if sent.toNat ≠ buffer.length then (false, c, buffer.take sent.toNat)
    else (true, c, buffer)

/-- `send_message` of the server; a failed `send` does not close the connection. -/
def TCPControlServer.sendMessage (s : TCPControlServer) (m : ControlMessage) (sent : ℤ) :
    Bool × TCPControlServer × List U8 :=
  if s.clientFd < 0 then (false, s, [])
  else
    let buffer := m.serialize sizeofControlMessage
    if sent < 0 then (false, s, [])
    else if sent.toNat ≠ buffer.length then (false, s, buffer.take sent.toNat)
    else (true, s, buffer)

/-- A successful send puts exactly one message image on the stream. -/
lemma TCPControlClient.sendMessage_bytes {c : TCPControlClient} {m : ControlMessage} {sent : ℤ}
    (h : (c.sendMessage m sent).1 = true) : (c.sendMessage m sent).2.2 = m.wire := by
  simp only [sendMessage] at h ⊢
  split_ifs at h ⊢ with hopen hfail hpart
  rfl

lemma TCPControlServer.sendMessage_bytes {s : TCPControlServer} {m : ControlMessage} {sent : ℤ}
    (h : (s.sendMessage m sent).1 = true) : (s.sendMessage m sent).2.2 = m.wire := by
  simp only [sendMessage] at h ⊢
  split_ifs at h ⊢ with hopen hfail hpart
  rfl

end SdrUdp
