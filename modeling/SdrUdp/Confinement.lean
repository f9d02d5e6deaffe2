import SdrUdp.ChunkCheck
import SdrUdp.RecvPost

/-!
# What a datagram can change

A worker checks a datagram in two functions, and the buffer and the bitmap each have their own
bound. A datagram that is refused changes nothing, and any other one stays within its own message,
as long as the words of the bitmap are there.
-/

namespace SdrUdp

open SdrUdp.Core ReceiverMemory

/-! ### A worker with bounds -/

namespace BackendBitmap

/-- `is_packet_received`; `none` when it reads beyond the bitmap. -/
def isPacketReceivedIn (b : BackendBitmap) (packetOffset : ℕ) : Option Bool :=
  if packetOffset ≥ b.totalPackets then some false
  else (b.loadWord (packetOffset / 64)).map fun value =>
    value &&& bitMask (packetOffset % 64) != 0#64

/-- `set_packet_received`; `none` when it writes beyond the bitmap. -/
def setPacketReceivedIn (b : BackendBitmap) (packetOffset : ℕ) : Option (Bool × BackendBitmap) :=
  if packetOffset ≥ b.totalPackets then some (false, b)
  else (b.loadWord (packetOffset / 64)).map fun _ => b.setPacketReceived packetOffset

/-- The word of a packet is there, or the packet is none of the message. -/
def Holds (b : BackendBitmap) (packetOffset : ℕ) : Prop :=
  packetOffset < b.totalPackets → packetOffset / 64 < b.numWords

variable {b : BackendBitmap} {o : ℕ}

lemma isPacketReceivedIn_of_holds (h : b.Holds o) :
    b.isPacketReceivedIn o = some (b.isPacketReceived o) := by
  by_cases ho : o ≥ b.totalPackets
  · rw [isPacketReceivedIn, isPacketReceived, if_pos ho, if_pos ho]
  · rw [isPacketReceivedIn, isPacketReceived, if_neg ho, if_neg ho,
      loadWord_of_lt b (h (not_le.mp ho)), Option.map_some]

lemma isPacketReceivedIn_of_not_holds (h : ¬ b.Holds o) : b.isPacketReceivedIn o = none := by
  obtain ⟨hlt, hword⟩ := Classical.not_imp.mp h
  rw [isPacketReceivedIn, if_neg (not_le.mpr hlt), loadWord_of_ge b (not_lt.mp hword),
    Option.map_none]

lemma setPacketReceivedIn_of_holds (h : b.Holds o) :
    b.setPacketReceivedIn o = some (b.setPacketReceived o) := by
  by_cases ho : o ≥ b.totalPackets
  · rw [setPacketReceivedIn, setPacketReceived, if_pos ho, if_pos ho]
  · rw [setPacketReceivedIn, if_neg ho, loadWord_of_lt b (h (not_le.mp ho)), Option.map_some]

end BackendBitmap

/-- `process_packet` of a worker that runs alone; `none` when it leaves the packet bitmap. -/
def processPacketIn (header : SDRPacketHeader) (payload : List U8) (m : ReceiverMemory) :
    Option ReceiverMemory :=
  let id := header.msgId.toNat
  let offset := header.packetOffset.toNat
  match m.conn.connectionCtx.getMessage id with
  | none     => some m
  | some msg =>
    if msg.generation ≠ header.transferId then some m
    else if msg.state ≠ .active then some m
    else do
      let duplicate ← match msg.backendBitmap with
        | none   => some false
        | some b => b.isPacketReceivedIn offset
      if duplicate then some m
      else do
        let (_, m) ← (writePacketToBuffer id offset payload).run m
        match msg.backendBitmap with
          | none   => some m
          | some b => (b.setPacketReceivedIn offset).map fun _ => m.setReceived id offset

/-- A round of `receiver_thread_func` of a worker that runs alone. -/
def receiveDatagramIn (bytes : List U8) (m : ReceiverMemory) : Option ReceiverMemory :=
  match SDRPacket.parse bytes with
  | none   => some m
  | some p => processPacketIn p.header p.payload m

/-! ### The seven ways to be refused -/

/-- The header of a datagram, in host order. -/
def datagramHeader (bytes : List U8) : SDRPacketHeader :=
  (SDRPacketHeader.layout.decode bytes).toHostOrder

/-- The message that a datagram names. -/
def namedMessage (bytes : List U8) (m : ReceiverMemory) : Option MessageContext :=
  m.conn.connectionCtx.getMessage (datagramHeader bytes).msgId.toNat

/-- A datagram that must not change anything. -/
inductive Refused (m : ReceiverMemory) (bytes : List U8) : Prop
  | short (h : bytes.length < SDRPacketHeader.size)
  | magic (h : (datagramHeader bytes).isValid = false)
  | noSlot (h : namedMessage bytes m = none)
  | generation (msg : MessageContext) (hmsg : namedMessage bytes m = some msg)
      (h : msg.generation ≠ (datagramHeader bytes).transferId)
  | finished (msg : MessageContext) (hmsg : namedMessage bytes m = some msg)
      (h : msg.state = .completed ∨ msg.state = .dead)
  | duplicate (msg : MessageContext) (b : BackendBitmap) (hmsg : namedMessage bytes m = some msg)
      (hb : msg.backendBitmap = some b)
      (h : b.isPacketReceived (datagramHeader bytes).packetOffset.toNat = true)
  | beyond (msg : MessageContext) (b : BackendBitmap) (hmsg : namedMessage bytes m = some msg)
      (hb : msg.backendBitmap = some b)
      (h : b.totalPackets ≤ (datagramHeader bytes).packetOffset.toNat)

/-- An ACTIVE message as `sdr_recv_post` sets it up: the bitmap has a bit for every packet of the
buffer, in as many words as the constructor makes of it. -/
structure SetUp (msg : MessageContext) : Prop where
  mtuBytes : 1 ≤ msg.connectionParams.mtuBytes.toNat
  buffer : ∃ b, msg.buffer = some (.user b)
  backend : ∃ b, msg.backendBitmap = some b ∧ b.totalPackets < 2 ^ 32 ∧
    b.totalPackets = (msg.bufferSize + msg.connectionParams.mtuBytes.toNat - 1)
      / msg.connectionParams.mtuBytes.toNat ∧
    b.numWords = (b.totalPackets + 63) % 2 ^ 32 / 64

/-- Every ACTIVE message of the table is set up. -/
def TableSetUp (m : ReceiverMemory) : Prop :=
  ∀ i msg, m.message i = some msg → msg.state = .active → SetUp msg

/-- The memory `m'` differs from `m` in the bytes from `place` to the end of the named message's
buffer, which come from the datagram, and in the bit of the packet. -/
structure OwnBytesOnly (bytes : List U8) (m m' : ReceiverMemory) (buffer place bufferSize : ℕ)
    (b : BackendBitmap) : Prop where
  others : ∀ buffer' ≠ buffer, m'.buffers buffer' = m.buffers buffer'
  outside : ∀ j, j < place ∨ bufferSize ≤ j → m'.buffers buffer j = m.buffers buffer j
  read : ∀ k, m'.buffers buffer (place + k) = m.buffers buffer (place + k) ∨
    ∃ hk : SDRPacketHeader.size + k < bytes.length,
      m'.buffers buffer (place + k) = bytes.get ⟨SDRPacketHeader.size + k, hk⟩
  bitmaps : ∀ i ≠ (datagramHeader bytes).msgId.toNat, m'.backendBitmap i = m.backendBitmap i
  bit : ∃ b', m'.backendBitmap (datagramHeader bytes).msgId.toNat = some b' ∧
    b'.received = insert (datagramHeader bytes).packetOffset.toNat b.received ∧
    b'.totalPackets = b.totalPackets ∧ b'.numWords = b.numWords
  frontend : ∀ i, m'.frontendBitmap i = m.frontendBitmap i

/-- Handling a datagram reads and writes no word beyond a bitmap, changes nothing when it is refused
and nothing but its own message when it is not. -/
structure Confined (m : ReceiverMemory) (bytes : List U8) : Prop where
  inBounds : (receiveDatagramIn bytes m).isSome
  refused : Refused m bytes → ∀ m', receiveDatagramIn bytes m = some m' →
    m'.buffers = m.buffers ∧ (∀ i, m'.backendBitmap i = m.backendBitmap i) ∧
      ∀ i, m'.frontendBitmap i = m.frontendBitmap i
  accepted : ¬ Refused m bytes → ∀ m', receiveDatagramIn bytes m = some m' →
    ∃ msg buffer b, m.message (datagramHeader bytes).msgId.toNat = some msg ∧
      msg.buffer = some (.user buffer) ∧ msg.backendBitmap = some b ∧
      OwnBytesOnly bytes m m' buffer ((datagramHeader bytes).packetOffset.toNat
        * msg.connectionParams.mtuBytes.toNat) msg.bufferSize b

/-- A datagram that gets as far as the bitmap finds a number of words that did not overflow. -/
def WordsFit (m : ReceiverMemory) (bytes : List U8) : Prop :=
  ∀ msg b, SDRPacketHeader.size ≤ bytes.length → (datagramHeader bytes).isValid = true →
    namedMessage bytes m = some msg → msg.generation = (datagramHeader bytes).transferId →
    msg.state = .active → msg.backendBitmap = some b →
    (datagramHeader bytes).packetOffset.toNat < b.totalPackets → b.totalPackets + 63 < 2 ^ 32

/-! ### What becomes of a datagram -/

section WriteBytes

variable {buffer : ℕ → U8} {offset : ℕ} {data : List U8}

lemma writeBytes_outside {j : ℕ} (h : j < offset ∨ offset + data.length ≤ j) :
    writeBytes buffer offset data j = buffer j := if_neg (by omega)

lemma writeBytes_inside {k : ℕ} (h : k < data.length) :
    writeBytes buffer offset data (offset + k) = data.getD k 0 := by
  rw [writeBytes, if_pos (by omega), Nat.add_sub_cancel_left]

end WriteBytes

/-- The payload of a datagram, cut to the smaller of the two lengths. -/
def datagramPayload (bytes : List U8) : List U8 :=
  let payload := bytes.drop SDRPacketHeader.size
  payload.take (min payload.length (datagramHeader bytes).payloadLen.toNat)

section Datagram

variable {bytes : List U8} {m : ReceiverMemory}

lemma parse_eq_some (hlen : SDRPacketHeader.size ≤ bytes.length)
    (hvalid : (datagramHeader bytes).isValid = true) :
    SDRPacket.parse bytes = some ⟨datagramHeader bytes, datagramPayload bytes⟩ := by
  rw [SDRPacket.parse, if_neg (not_lt.mpr hlen)]
  exact if_neg (by simpa [datagramHeader] using hvalid)

lemma parse_eq_none (h : bytes.length < SDRPacketHeader.size ∨
    (datagramHeader bytes).isValid = false) : SDRPacket.parse bytes = none := by
  rw [SDRPacket.parse]
  split_ifs with hlen
  · rfl
  · exact if_pos (h.resolve_left hlen)

lemma getMessage_eq_some {id : BitVec 10} {msg : MessageContext}
    (h : m.conn.connectionCtx.getMessage id.toNat = some msg) :
    m.message id.toNat = some msg ∧ msg.state ≠ .nullState := by
  rw [ConnectionContext.getMessage_of_lt _ id.isLt, Option.filter_eq_some_iff] at h
  exact ⟨h.1, by simpa using h.2⟩

lemma namedMessage_eq_some {msg : MessageContext} (h : namedMessage bytes m = some msg) :
    m.message (datagramHeader bytes).msgId.toNat = some msg ∧ msg.state ≠ .nullState :=
  getMessage_eq_some h

/-- A write behind the buffer does not happen, and any other one is cut. -/
lemma run_writePacketToBuffer {id : ℕ} {msg : MessageContext} {buffer : ℕ}
    (hmsg : m.message id = some msg) (hbuf : msg.buffer = some (.user buffer))
    (hmtu : 1 ≤ msg.connectionParams.mtuBytes.toNat) (o : ℕ) (payload : List U8) :
    (writePacketToBuffer id o payload).run m = some (⟨⟩,
      if msg.bufferSize ≤ o * msg.connectionParams.mtuBytes.toNat then m
      else m.writeBuffer (.user buffer) (o * msg.connectionParams.mtuBytes.toNat)
        (payload.take (msg.bufferSize - o * msg.connectionParams.mtuBytes.toNat))) := by
  have hne : msg.connectionParams.mtuBytes.toNat ≠ 0 := Nat.one_le_iff_ne_zero.mp hmtu
  simp only [writePacketToBuffer, Prog.run_bind, Prog.run_load, Option.bind_some, hmsg, hbuf,
    if_neg hne, ge_iff_le]
  split_ifs
  · rfl
  · rfl

lemma conn_writeBuffer (ptr : BufferPtr) (offset : ℕ) (data : List U8) (m : ReceiverMemory) :
    (m.writeBuffer ptr offset data).conn = m.conn := by
  cases ptr with
  | user b => rfl
  | nullSink => rfl

lemma run_writePacketToBuffer_conn {id o : ℕ} {payload : List U8} {r : PUnit × ReceiverMemory}
    (h : (writePacketToBuffer id o payload).run m = some r) : r.2.conn = m.conn := by
  simp only [writePacketToBuffer, Prog.run_bind, Prog.run_load, Option.bind_some] at h
  split at h
  · rw [← Option.some.inj h]
  split at h
  · rw [← Option.some.inj h]
  split_ifs at h
  · rw [← Option.some.inj h]
  · rw [← Option.some.inj h]
    exact conn_writeBuffer _ _ _ _
  · rw [← Option.some.inj h]
  · rw [← Option.some.inj h]
    exact conn_writeBuffer _ _ _ _

/-- A message without a bitmap keeps none. -/
lemma setReceived_of_none {id o : ℕ} {msg : MessageContext} (hmsg : m.message id = some msg)
    (hb : msg.backendBitmap = none) : m.setReceived id o = m := by
  have hmsg' : m.conn.connectionCtx.msgTable id = some msg := hmsg
  simp only [setReceived, mapMessage, hmsg, Option.map_some, hb, Option.map_none]
  rw [← hb, ← hmsg', Function.update_eq_self]

/-- The bit of a packet that is none of the message stays as it is. -/
lemma setReceived_of_ge {id o : ℕ} {msg : MessageContext} {b : BackendBitmap}
    (hmsg : m.message id = some msg) (hb : msg.backendBitmap = some b) (ho : b.totalPackets ≤ o) :
    m.setReceived id o = m := by
  have hsame : (b.setPacketReceived o).2 = b := by
    rw [BackendBitmap.setPacketReceived, if_pos ho]
  have hmsg' : m.conn.connectionCtx.msgTable id = some msg := hmsg
  simp only [setReceived, mapMessage, hmsg, Option.map_some, hb, hsame]
  rw [← hb, ← hmsg', Function.update_eq_self]

/-- A datagram that is taken: it names an ACTIVE message, and the packet is new to it. -/
structure Taken (bytes : List U8) (m : ReceiverMemory) (msg : MessageContext) (buffer : ℕ)
    (b : BackendBitmap) : Prop where
  message : m.message (datagramHeader bytes).msgId.toNat = some msg
  bufferPtr : msg.buffer = some (.user buffer)
  backend : msg.backendBitmap = some b
  lt : (datagramHeader bytes).packetOffset.toNat < b.totalPackets
  place : (datagramHeader bytes).packetOffset.toNat * msg.connectionParams.mtuBytes.toNat
    < msg.bufferSize
  after : receiveDatagramIn bytes m = some ((m.writeBuffer (.user buffer)
    ((datagramHeader bytes).packetOffset.toNat * msg.connectionParams.mtuBytes.toNat)
    ((datagramPayload bytes).take (msg.bufferSize - (datagramHeader bytes).packetOffset.toNat
      * msg.connectionParams.mtuBytes.toNat))).setReceived (datagramHeader bytes).msgId.toNat
        (datagramHeader bytes).packetOffset.toNat)

section Active

variable {msg : MessageContext} (hlen : SDRPacketHeader.size ≤ bytes.length)
  (hvalid : (datagramHeader bytes).isValid = true) (hmsg : namedMessage bytes m = some msg)
  (hgen : msg.generation = (datagramHeader bytes).transferId) (hstate : msg.state = .active)
include hlen hvalid hmsg hgen hstate

/-- What a worker does with a packet of an ACTIVE message. -/
lemma receiveDatagramIn_active {b : BackendBitmap} (hb : msg.backendBitmap = some b) :
    receiveDatagramIn bytes m
      = (b.isPacketReceivedIn (datagramHeader bytes).packetOffset.toNat).bind fun duplicate =>
        if duplicate then some m
        else ((writePacketToBuffer (datagramHeader bytes).msgId.toNat
          (datagramHeader bytes).packetOffset.toNat (datagramPayload bytes)).run m).bind fun r =>
            (b.setPacketReceivedIn (datagramHeader bytes).packetOffset.toNat).map fun _ =>
              r.2.setReceived (datagramHeader bytes).msgId.toNat
                (datagramHeader bytes).packetOffset.toNat := by
  rw [namedMessage] at hmsg
  rw [receiveDatagramIn, parse_eq_some hlen hvalid]
  simp [processPacketIn, hmsg, hgen, hstate, hb]

/-- A new packet of the message is not refused. -/
lemma not_refused {b : BackendBitmap} (hb : msg.backendBitmap = some b)
    (hdup : b.isPacketReceived (datagramHeader bytes).packetOffset.toNat = false)
    (hlt : (datagramHeader bytes).packetOffset.toNat < b.totalPackets) : ¬ Refused m bytes := by
  intro hrefused
  cases hrefused with
  | short h => exact absurd hlen h.not_ge
  | magic h => exact absurd (hvalid.symm.trans h) (by simp)
  | noSlot h => exact absurd (hmsg.symm.trans h) (by simp)
  | generation msg' hmsg' h =>
    obtain rfl := Option.some.inj (hmsg.symm.trans hmsg')
    exact h hgen
  | finished msg' hmsg' h =>
    obtain rfl := Option.some.inj (hmsg.symm.trans hmsg')
    simp [hstate] at h
  | duplicate msg' b' hmsg' hb' h =>
    obtain rfl := Option.some.inj (hmsg.symm.trans hmsg')
    obtain rfl := Option.some.inj (hb.symm.trans hb')
    exact absurd (hdup.symm.trans h) (by simp)
  | beyond msg' b' hmsg' hb' h =>
    obtain rfl := Option.some.inj (hmsg.symm.trans hmsg')
    obtain rfl := Option.some.inj (hb.symm.trans hb')
    exact absurd hlt h.not_gt

lemma refused_or_taken_active (hm : TableSetUp m) (hfit : WordsFit m bytes) :
    (Refused m bytes ∧ receiveDatagramIn bytes m = some m) ∨
      ¬ Refused m bytes ∧ ∃ msg buffer b, Taken bytes m msg buffer b := by
  obtain ⟨hmessage, hnull⟩ := namedMessage_eq_some hmsg
  obtain ⟨hmtu, ⟨buffer, hbuf⟩, b, hb, -, htotal, hwords⟩ := hm _ msg hmessage hstate
  have hholds : b.Holds (datagramHeader bytes).packetOffset.toNat := by
    intro ho
    have := hfit msg b hlen hvalid hmsg hgen hstate hb ho
    rw [hwords, Nat.mod_eq_of_lt this]
    omega
  have hafter := receiveDatagramIn_active hlen hvalid hmsg hgen hstate hb
  rw [BackendBitmap.isPacketReceivedIn_of_holds hholds, Option.bind_some,
    BackendBitmap.setPacketReceivedIn_of_holds hholds,
    run_writePacketToBuffer hmessage hbuf hmtu, Option.bind_some, Option.map_some] at hafter
  have hplace := lt_ceil_iff (x := msg.bufferSize) hmtu (datagramHeader bytes).packetOffset.toNat
  rw [← htotal] at hplace
  cases hdup : b.isPacketReceived (datagramHeader bytes).packetOffset.toNat with
  | true =>
    refine Or.inl ⟨.duplicate msg b hmsg hb hdup, ?_⟩
    rw [hafter, hdup, if_pos rfl]
  | false =>
    rw [hdup, if_neg (by simp)] at hafter
    by_cases ho : b.totalPackets ≤ (datagramHeader bytes).packetOffset.toNat
    · refine Or.inl ⟨.beyond msg b hmsg hb ho, ?_⟩
      rw [hafter, if_pos (not_lt.mp fun h => (hplace.mpr h).not_ge ho), setReceived_of_ge hmessage
        hb ho]
    · have hlt := not_le.mp ho
      refine Or.inr ⟨not_refused hlen hvalid hmsg hgen hstate hb hdup hlt, msg, buffer, b, hmessage,
        hbuf, hb, hlt, hplace.mp hlt, ?_⟩
      rw [hafter, if_neg (not_le.mpr (hplace.mp hlt))]

end Active

/-- A datagram is refused and changes nothing, or is taken. -/
lemma refused_or_taken (hm : TableSetUp m) (hfit : WordsFit m bytes) :
    (Refused m bytes ∧ receiveDatagramIn bytes m = some m) ∨
      ¬ Refused m bytes ∧ ∃ msg buffer b, Taken bytes m msg buffer b := by
  by_cases hparse : bytes.length < SDRPacketHeader.size ∨ (datagramHeader bytes).isValid = false
  · refine Or.inl ⟨hparse.elim .short .magic, ?_⟩
    rw [receiveDatagramIn, parse_eq_none hparse]
  obtain ⟨hlen, hvalid⟩ := not_or.mp hparse
  rw [not_lt] at hlen
  rw [Bool.not_eq_false] at hvalid
  have hrun : receiveDatagramIn bytes m
      = processPacketIn (datagramHeader bytes) (datagramPayload bytes) m := by
    rw [receiveDatagramIn, parse_eq_some hlen hvalid]
  cases hmsg : namedMessage bytes m with
  | none =>
    refine Or.inl ⟨.noSlot hmsg, ?_⟩
    rw [namedMessage] at hmsg
    rw [hrun, processPacketIn, hmsg]
  | some msg =>
    by_cases hgen : msg.generation = (datagramHeader bytes).transferId
    · by_cases hstate : msg.state = .active
      · exact refused_or_taken_active hlen hvalid hmsg hgen hstate hm hfit
      · have hfinished : msg.state = .completed ∨ msg.state = .dead := by
          have hnull := (namedMessage_eq_some hmsg).2
          cases hs : msg.state with
          | active => exact absurd hs hstate
          | completed => exact Or.inl rfl
          | dead => exact Or.inr rfl
          | nullState => exact absurd hs hnull
        refine Or.inl ⟨.finished msg hmsg hfinished, ?_⟩
        rw [namedMessage] at hmsg
        simp [hrun, processPacketIn, hmsg, hgen, hstate]
    · refine Or.inl ⟨.generation msg hmsg hgen, ?_⟩
      rw [namedMessage] at hmsg
      simp [hrun, processPacketIn, hmsg, hgen]

end Datagram

lemma run_processPacket_of_message {header : SDRPacketHeader} {m : ReceiverMemory}
    {msg : MessageContext} (hget : m.conn.connectionCtx.getMessage header.msgId.toNat = some msg)
    (payload : List U8) : (processPacket header payload).run m
      = if msg.generation ≠ header.transferId then some (⟨⟩, m)
        else if msg.state ≠ .active then some (⟨⟩, m)
        else if msg.backendBitmap.any fun b => b.isPacketReceived header.packetOffset.toNat
        then some (⟨⟩, m)
        else ((writePacketToBuffer header.msgId.toNat header.packetOffset.toNat payload).run m).map
          fun r => (⟨⟩, r.2.setReceived header.msgId.toNat header.packetOffset.toNat) := by
  have hmessage := (getMessage_eq_some hget).1
  have hback : m.backendBitmap header.msgId.toNat = msg.backendBitmap := by
    rw [ReceiverMemory.backendBitmap, hmessage, Option.bind_some]
  simp only [processPacket, Prog.run_bind, Prog.run_load, Option.bind_some, hget]
  split_ifs with hgen hstate hdup
  · rfl
  · simp [hmessage, hstate]
  · rw [not_not] at hstate
    simp [hmessage, hstate, hback, hdup]
  · rw [not_not] at hstate
    simp only [Prog.run_bind, Prog.run_load, Option.bind_some, hmessage, hstate, hback,
      Option.map_some, ne_eq, not_true_eq_false, if_false, if_neg hdup]
    rw [Option.map_eq_bind]
    rfl

/-- Setting the bit of a packet within bounds is always possible where reading it was. -/
lemma setPacketReceivedIn_isSome {b : BackendBitmap} {o : ℕ} {r : Bool}
    (h : b.isPacketReceivedIn o = some r) :
    r = b.isPacketReceived o ∧ (b.setPacketReceivedIn o).isSome := by
  by_cases hholds : b.Holds o
  · rw [BackendBitmap.isPacketReceivedIn_of_holds hholds] at h
    rw [BackendBitmap.setPacketReceivedIn_of_holds hholds]
    exact ⟨(Option.some.inj h).symm, rfl⟩
  · rw [BackendBitmap.isPacketReceivedIn_of_not_holds hholds] at h
    exact absurd h (by simp)

/-- What a worker does alone within bounds is what it does. -/
theorem run_receiveDatagram {bytes : List U8} {m m' : ReceiverMemory}
    (h : receiveDatagramIn bytes m = some m') : (receiveDatagram bytes).run m = some (⟨⟩, m') := by
  rw [receiveDatagramIn] at h
  rw [receiveDatagram]
  cases hparse : SDRPacket.parse bytes with
  | none =>
    simp only [hparse, Option.some.injEq] at h
    rw [Prog.run_pure, h]
  | some p =>
    simp only [hparse, processPacketIn] at h
    cases hget : m.conn.connectionCtx.getMessage p.header.msgId.toNat with
    | none =>
      simp only [hget, Option.some.injEq] at h
      subst h
      simp only [processPacket, Prog.run_bind, Prog.run_load, Option.bind_some, hget, Prog.run_pure]
    | some msg =>
      simp only [hget] at h
      rw [run_processPacket_of_message hget]
      split_ifs at h ⊢ with hgen hstate hdup
      · rw [Option.some.inj h]
      · rw [Option.some.inj h]
      · obtain ⟨b, hb, hreceived⟩ := (Option.any_eq_true _ _).mp hdup
        simp only [hb, Option.bind_eq_bind, Option.bind_eq_some_iff] at h
        obtain ⟨r, hr, h⟩ := h
        rw [(setPacketReceivedIn_isSome hr).1, hreceived, if_pos rfl] at h
        rw [Option.some.inj h]
      · cases hb : msg.backendBitmap with
        | none =>
          simp only [hb, Option.bind_eq_bind, Option.bind_some, Bool.false_eq_true, if_false,
            Option.bind_eq_some_iff, Option.some.injEq] at h
          obtain ⟨r, hr, rfl⟩ := h
          have hmessage : r.2.message p.header.msgId.toNat = some msg := by
            rw [message, run_writePacketToBuffer_conn hr]
            exact (getMessage_eq_some hget).1
          rw [hr, Option.map_some, setReceived_of_none hmessage hb]
        | some b =>
          simp only [hb, Option.bind_eq_bind, Option.bind_eq_some_iff] at h
          obtain ⟨duplicate, hr, h⟩ := h
          obtain ⟨rfl, hset⟩ := setPacketReceivedIn_isSome hr
          rw [hb, Option.any_some, Bool.not_eq_true] at hdup
          rw [hdup, if_neg (by simp), Option.bind_eq_some_iff] at h
          obtain ⟨r, hr, h⟩ := h
          obtain ⟨x, -, rfl⟩ := Option.map_eq_some_iff.mp h
          rw [hr, Option.map_some]

/-! ### Confinement -/

section Taken

variable {bytes : List U8} {m : ReceiverMemory} {msg : MessageContext} {buffer : ℕ}
  {b : BackendBitmap}

/-- What is written comes from the datagram. -/
lemma getD_datagramPayload_take {n k : ℕ} (hk : k < ((datagramPayload bytes).take n).length) :
    ∃ hk : SDRPacketHeader.size + k < bytes.length, ((datagramPayload bytes).take n).getD k 0
      = bytes.get ⟨SDRPacketHeader.size + k, hk⟩ := by
  have hlen := hk
  simp only [datagramPayload, List.length_take, List.length_drop] at hlen
  refine ⟨by omega, ?_⟩
  rw [List.getD_eq_getElem?_getD, List.getElem?_eq_getElem hk]
  simp [datagramPayload, List.getElem_take]

lemma Taken.ownBytesOnly (h : Taken bytes m msg buffer b) {m' : ReceiverMemory}
    (hm' : receiveDatagramIn bytes m = some m') :
    OwnBytesOnly bytes m m' buffer ((datagramHeader bytes).packetOffset.toNat
      * msg.connectionParams.mtuBytes.toNat) msg.bufferSize b := by
  obtain rfl := Option.some.inj (h.after.symm.trans hm')
  generalize hplace : (datagramHeader bytes).packetOffset.toNat
    * msg.connectionParams.mtuBytes.toNat = place
  generalize hdata : (datagramPayload bytes).take (msg.bufferSize - place) = data
  have hfits : place + data.length ≤ msg.bufferSize := by
    have hlt := h.place
    rw [hplace] at hlt
    rw [← hdata, List.length_take]
    omega
  have hwritten : ((m.writeBuffer (.user buffer) place data).setReceived
      (datagramHeader bytes).msgId.toNat (datagramHeader bytes).packetOffset.toNat).buffers buffer
        = writeBytes (m.buffers buffer) place data := Function.update_self _ _ _
  refine ⟨?_, ?_, ?_, ?_, ?_, ?_⟩
  · intro buffer' hne
    exact Function.update_of_ne hne _ _
  · intro j hj
    rw [hwritten, writeBytes_outside (hj.imp_right hfits.trans)]
  · intro k
    rw [hwritten]
    by_cases hk : k < data.length
    · rw [writeBytes_inside hk, ← hdata]
      exact Or.inr (getD_datagramPayload_take (hdata ▸ hk))
    · exact Or.inl (writeBytes_outside (Or.inr (by omega)))
  · intro i hi
    rw [backendBitmap, setReceived, message_mapMessage_of_ne hi]
    rfl
  · have hback : ((m.writeBuffer (.user buffer) place data).setReceived
        (datagramHeader bytes).msgId.toNat (datagramHeader bytes).packetOffset.toNat).backendBitmap
          (datagramHeader bytes).msgId.toNat
        = some (b.setPacketReceived (datagramHeader bytes).packetOffset.toNat).2 := by
      have hmsg : (m.writeBuffer (.user buffer) place data).message
          (datagramHeader bytes).msgId.toNat = some msg := h.message
      rw [backendBitmap, setReceived, message_mapMessage, hmsg]
      simp [h.backend]
    refine ⟨_, hback, ?_, BackendBitmap.totalPackets_setPacketReceived _ _, ?_⟩
    · rw [BackendBitmap.received_setPacketReceived, if_pos h.lt]
    · rw [BackendBitmap.setPacketReceived, if_neg (not_le.mpr h.lt)]
  · intro i
    exact frontendBitmap_setReceived i _ _ _

end Taken

/-- A bitmap whose number of words overflowed has no words at all. -/
lemma not_inBounds_of_overflow {bytes : List U8} {m : ReceiverMemory} (hm : TableSetUp m)
    (h : ¬ WordsFit m bytes) : receiveDatagramIn bytes m = none := by
  simp only [WordsFit, not_forall] at h
  obtain ⟨msg, b, hlen, hvalid, hmsg, hgen, hstate, hb, ho, hover⟩ := h
  obtain ⟨-, -, b', hb', hlt, -, hwords⟩ := hm _ msg (namedMessage_eq_some hmsg).1 hstate
  obtain rfl := Option.some.inj (hb.symm.trans hb')
  have hnot : ¬ b.Holds (datagramHeader bytes).packetOffset.toNat := by
    intro hholds
    have := hholds ho
    omega
  rw [receiveDatagramIn_active hlen hvalid hmsg hgen hstate hb,
    BackendBitmap.isPacketReceivedIn_of_not_holds hnot, Option.bind_none]

/-- Handling a datagram is confined exactly when the message it gets to has a bitmap whose number of
words did not overflow. -/
theorem confined_iff {m : ReceiverMemory} (hm : TableSetUp m) (bytes : List U8) :
    Confined m bytes ↔ WordsFit m bytes := by
  constructor
  · intro h
    by_contra hfit
    have hsome := h.inBounds
    rw [not_inBounds_of_overflow hm hfit] at hsome
    exact absurd hsome (by simp)
  · intro hfit
    rcases refused_or_taken hm hfit with ⟨hrefused, hrun⟩ | ⟨hnot, msg, buffer, b, htaken⟩
    · refine ⟨by rw [hrun]; rfl, fun _ m' hm' => ?_, fun h => absurd hrefused h⟩
      obtain rfl := Option.some.inj (hrun.symm.trans hm')
      exact ⟨rfl, fun _ => rfl, fun _ => rfl⟩
    · refine ⟨by rw [htaken.after]; rfl, fun h => absurd h hnot, fun _ m' hm' => ?_⟩
      exact ⟨msg, buffer, b, htaken.message, htaken.bufferPtr, htaken.backend,
        htaken.ownBytesOnly hm'⟩

/-! ### A receiver with one message -/

/-- A message of `length` bytes in slot 0, cut into packets of `mtuBytes`. -/
def ReceiverMemory.posted (length : ℕ) (mtuBytes : U32) : ReceiverMemory :=
  { ReceiverMemory.idle with
    conn.connectionCtx := ReceiverMemory.idle.conn.connectionCtx.setMessage 0
      (initMessage { MessageContext.fresh with generation := 1, state := .active } 0 length
        { ConnectionParams.zero with mtuBytes, packetsPerChunk := 1 }) }

/-- A datagram of packet 0 of this message, with two bytes. -/
def sampleDatagram : List U8 :=
  SDRPacketHeader.layout.encode { SDRPacketHeader.zero with
    magic := SDRPacketHeader.magicValue, transferId := 1, payloadLen := 2 }.toNetworkOrder ++ [7, 8]

lemma message_posted {length : ℕ} {mtuBytes : U32} {i : ℕ} {msg : MessageContext}
    (h : (ReceiverMemory.posted length mtuBytes).message i = some msg) :
    i = 0 ∧ (ReceiverMemory.posted length mtuBytes).message 0 = some msg := by
  by_cases hi : i = 0
  · subst hi
    exact ⟨rfl, h⟩
  · simp [posted, message, ConnectionContext.setMessage, hi, ReceiverMemory.idle,
      ConnectionContext.fresh, ConnectionContext.initializeContext] at h

/-- A message of five packets. -/
theorem confined_five : Confined (ReceiverMemory.posted 10 2) sampleDatagram := by
  refine (confined_iff ?_ sampleDatagram).mpr ?_
  · intro i msg hmsg _
    obtain rfl := Option.some.inj (message_posted hmsg).2
    exact ⟨by decide, ⟨0, rfl⟩, _, rfl, by decide, by decide, rfl⟩
  · intro msg b _ _ hmsg _ _ hb _
    obtain rfl := Option.some.inj (message_posted (namedMessage_eq_some hmsg).1).2
    obtain rfl := Option.some.inj hb
    decide

/-- The bitmap of 2^32 - 1 packets has no words, and the first datagram leaves it. -/
theorem not_confined_large : TableSetUp (ReceiverMemory.posted (2 ^ 32 - 1) 1) ∧
    ¬ Confined (ReceiverMemory.posted (2 ^ 32 - 1) 1) sampleDatagram := by
  constructor
  · intro i msg hmsg _
    obtain rfl := Option.some.inj (message_posted hmsg).2
    exact ⟨by decide, ⟨0, rfl⟩, _, rfl, by decide, by decide, rfl⟩
  · intro h
    exact absurd h.inBounds (by decide +kernel)

end SdrUdp
