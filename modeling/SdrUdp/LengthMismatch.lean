import SdrUdp.BitmapPair
import SdrUdp.DataPath

/-!
# Completion when the lengths differ

The receiver cuts its own buffer into packets and chunks and never learns the length of the message.
A bit is set for whatever arrives, so the receiver can take a message of another length for
complete.
-/

namespace SdrUdp

open SdrUdp.Core

/-- The message was received as a whole: it fits into the buffer of `length` bytes and lies there,
and every chunk whose bit is set holds nothing but its bytes. -/
structure Transfer.Whole (t : Transfer) (length : ℕ) (m : ReceiverMemory) : Prop where
  length_le : t.data.length ≤ length
  message : ∀ j < t.data.length, m.buffers t.buffer j = t.data.getD j 0
  chunks : ∀ c ∈ t.completed m, ∀ j, c * t.packetsPerChunk * t.mtuBytes ≤ j →
    j < (c + 1) * t.packetsPerChunk * t.mtuBytes → j < length →
    j < t.data.length ∧ m.buffers t.buffer j = t.data.getD j 0

/-- Whatever packets of the message arrive, and in whatever order, the receiver sends a COMPLETE_ACK
for the whole message only. -/
def Transfer.CompletesWhole (t : Transfer) (transferId : U32) (packetsPerChunk : U16)
    (handle : SDRRecvHandle) (length : ℕ) (m₀ : ReceiverMemory) : Prop :=
  ∀ s, Pool.Reachable (ReceiverProgram t transferId packetsPerChunk Set.univ handle True) m₀ s →
    ∀ new, s.memory.sent = m₀.sent ++ new → (∃ msg ∈ new, msg.msgType = .completeAck) →
      t.Whole length s.memory

/-! ### What the acknowledged packets tell -/

/-- The threads of a transfer work on the bitmaps of its slot: the packets that are accepted are
those of the sender, under the number that the header can hold. -/
lemma ReceiverProgram.bitmapProgram {t : Transfer} {b : BitmapPair} {transferId : U32}
    {packetsPerChunk : U16} {handle : SDRRecvHandle} {completing : Prop}
    (hmtu : t.mtuBytes ≤ SDRPacket.maxPayloadSize) (hslot : handle.msgId = b.slot) (th : Thread)
    (p : Prog ReceiverMemory PUnit)
    (h : ReceiverProgram t transferId packetsPerChunk Set.univ handle completing th p) :
    BitmapProgram b {o | transferId = b.generation ∧ ∃ i < t.totalPackets, i % 2 ^ 18 = o}
      th p := by
  cases h with
  | worker i o packet _ ho hpacket =>
    obtain ⟨packet', hpacket', -, htransfer, hoffset, -, hparse⟩ :=
      dataPacket_spec transferId handle.msgId packetsPerChunk hmtu t.data o
    obtain rfl := Option.some.inj (hpacket.symm.trans hpacket')
    rw [receiveDatagram, hparse]
    refine .packet i _ _ fun _ hgen => ⟨htransfer.symm.trans hgen, o, ho, ?_⟩
    dsimp only
    rw [hoffset, BitVec.toNat_ofNat]
  | poll => exact hslot ▸ .poll
  | pump i cfg now answer => exact .pump i cfg handle hslot now answer
  | complete i answer _ => exact .complete i handle hslot answer

lemma ReceiverProgram.bitmapSteps {t : Transfer} {b : BitmapPair} {transferId : U32}
    {packetsPerChunk : U16} {handle : SDRRecvHandle} {completing : Prop}
    (hmtu : t.mtuBytes ≤ SDRPacket.maxPayloadSize) (hslot : handle.msgId = b.slot)
    {s s' : Pool Thread ReceiverMemory}
    (hs : Relation.ReflTransGen (Pool.Step
      (ReceiverProgram t transferId packetsPerChunk Set.univ handle completing)) s s') :
    Relation.ReflTransGen (Pool.Step (BitmapProgram b
      {o | transferId = b.generation ∧ ∃ i < t.totalPackets, i % 2 ^ 18 = o})) s s' :=
  Pool.steps_mono (ReceiverProgram.bitmapProgram hmtu hslot) hs

/-! ### A run that fills the bitmaps -/

/-- The message while the workers fill it: the first `k` packets are recorded, the poller polls, and
nothing was sent. -/
structure Filling (t : BitmapPair) (buffer length mtuBytes : ℕ) (m₀ : ReceiverMemory) (k : ℕ)
    (m : ReceiverMemory) : Prop where
  message : ∃ msg b f, m.message t.slot = some msg ∧ t.Shape msg b f ∧ msg.state = .active ∧
    msg.buffer = some (.user buffer) ∧ msg.bufferSize = length ∧
    msg.connectionParams.mtuBytes.toNat = mtuBytes ∧ f.polling = true ∧ f.shouldStop = false ∧
    bits b.packetBitmap = {o | o < k}
  sent : m.sent = m₀.sent
  tcpServer : m.conn.tcpServer = m₀.conn.tcpServer

namespace Filling

variable {t : BitmapPair} {buffer length mtuBytes k : ℕ} {m₀ m : ReceiverMemory}

/-- A worker records the next packet. -/
lemma packet (h : Filling t buffer length mtuBytes m₀ k m) (hk : k < t.totalPackets)
    (hmtu : mtuBytes ≠ 0) (hfit : k * mtuBytes < length) {header : SDRPacketHeader}
    (hid : header.msgId.toNat = t.slot) (hgen : header.transferId = t.generation)
    (hoffset : header.packetOffset.toNat = k) (payload : List U8) :
    ∃ m', (processPacket header payload).run m = some (⟨⟩, m') ∧
      Filling t buffer length mtuBytes m₀ (k + 1) m' ∧
      m'.frontendBitmap t.slot = m.frontendBitmap t.slot := by
  obtain ⟨msg, b, f, hmsg, hs, hactive, hbuf, hsize, hmsgMtu, hpoll, hstop, hbits⟩ := h.message
  have hnew : b.isPacketReceived header.packetOffset.toNat = false := by
    refine Bool.eq_false_iff.mpr fun hreceived => ?_
    have hmem := ((b.isPacketReceived_iff _).mp hreceived).2
    rw [BackendBitmap.received, hbits, hoffset] at hmem
    exact lt_irrefl k hmem
  have hrun := run_processPacket header (hid ▸ hmsg) hactive (hs.generation.trans hgen.symm)
    hs.backend hbuf (hmsgMtu ▸ hmtu) hnew (by rw [hoffset, hmsgMtu, hsize]; exact hfit) payload
  rw [hid, hoffset] at hrun
  refine ⟨_, hrun, ⟨⟨{ msg with
      backendBitmap := msg.backendBitmap.map fun b => (b.setPacketReceived k).2 },
    (b.setPacketReceived k).2, f, ?_, ⟨hs.generation, hs.state, hs.chunkCount,
      by simp [hs.backend], hs.frontend,
      by simp [hs.totalPackets], by simp [hs.packetsPerChunk], hs.chunks,
      fun hroom => (hs.packetsConfined hroom).setPacketReceived k, hs.chunksConfined⟩,
    hactive, hbuf, hsize, hmsgMtu, hpoll, hstop, ?_⟩, h.sent, h.tcpServer⟩,
    (ReceiverMemory.frontendBitmap_setReceived _ _ _ _).trans rfl⟩
  · rw [ReceiverMemory.setReceived, ReceiverMemory.message_mapMessage]
    exact congrArg (Option.map _) hmsg
  have hset := b.received_setPacketReceived k
  rw [hs.totalPackets, if_pos hk, BackendBitmap.received, BackendBitmap.received, hbits] at hset
  rw [hset]
  ext o
  simp only [Set.mem_insert_iff, Set.mem_ofPred_eq]
  omega

/-- The poller sets a bit. -/
lemma setChunk (h : Filling t buffer length mtuBytes m₀ k m) {c : ℕ} (hc : c < t.totalChunks) :
    Filling t buffer length mtuBytes m₀ k (m.mapFrontend t.slot fun f => f.setChunk c) := by
  obtain ⟨msg, b, f, hmsg, hs, hactive, hbuf, hsize, hmsgMtu, hpoll, hstop, hbits⟩ := h.message
  exact ⟨⟨{ msg with frontendBitmap := msg.frontendBitmap.map fun f => f.setChunk c }, b,
    f.setChunk c, by simp [ReceiverMemory.mapFrontend, hmsg],
      ⟨hs.generation, hs.state, hs.chunkCount, hs.backend, by simp [hs.frontend], hs.totalPackets,
      hs.packetsPerChunk, hs.chunks, hs.packetsConfined,
      fun hroom => (hs.chunksConfined hroom).setChunk (hs.chunks ▸ hc)⟩,
    hactive, hbuf, hsize, hmsgMtu, hpoll, hstop, hbits⟩, h.sent, h.tcpServer⟩

/-- A round of the poller over the full packet bitmap fills the chunk bitmap. -/
lemma poll (h : Filling t buffer length mtuBytes m₀ t.totalPackets m) (hfits : t.Fits)
    {accepted : Set ℕ} (hI : t.Inv accepted m₀ m) :
    ∃ m', (pollingRound t.slot).run m = some (⟨⟩, m') ∧
      Filling t buffer length mtuBytes m₀ t.totalPackets m' ∧
      ∀ c < t.totalChunks, c ∈ t.completed m' := by
  obtain ⟨msg, b, f, hmsg, hs, -, -, -, -, hpoll, hstop, hbits⟩ := h.message
  have hround : (pollingRound t.slot).run m = (updateChunkBitmap t.slot t.totalPackets
      t.packetsPerChunk t.totalChunks t.totalChunks 0).run m := by
    simp only [pollingRound, Prog.run_bind, Prog.run_load, Option.bind_some, hmsg, hs.frontend,
      hs.backend, hpoll, hstop, hs.totalPackets, hs.packetsPerChunk, hs.chunks]
    rfl
  obtain ⟨m', hrun, hm'⟩ := run_updateChunkBitmap (fun m c hc _ (hm : Filling t buffer length
    mtuBytes m₀ t.totalPackets m) => hm.setChunk hc) (Nat.zero_add t.totalChunks).le h
  refine ⟨m', hround.trans hrun, hm', fun c hc => ?_⟩
  have hall : ∀ o, t.InChunk c o → o ∈ t.received m := by
    intro o ho
    rw [BitmapPair.received, BitmapPair.packetWords_eq hmsg hs, hbits]
    exact ho.2.2
  exact ((BitmapPair.updateChunkBitmap_sets hfits (t.pollable_inv accepted m₀) t.totalChunks 0
    (by omega)
    (Nat.zero_le c) (by omega) hI hall).of_run hI hrun).2

end Filling

/-! ### Completion with the poller at work -/

/-- `sdr_recv_complete` after `stop_polling` has returned. -/
def recvCompleteJoined (handle : SDRRecvHandle) (answer : ℤ) : Prog ReceiverMemory PUnit := do
  let isComplete ← transferComplete handle.msgId
  Prog.modify (ReceiverMemory.completeMessage handle.msgId)
  Prog.modify fun m =>
    m.sendMessage (completionMessage m.conn.connectionCtx.connectionId isComplete) answer

/-- While the poller is there, the application raises the stop flag and blocks. -/
lemma steps_stopPolling {allowed : Thread → Prog ReceiverMemory PUnit → Prop}
    {handle : SDRRecvHandle} {answer : ℤ}
      (hallowed : allowed (.app 0) (sdrRecvComplete handle answer))
    {m : ReceiverMemory} (hpolling : (m.frontendBitmap handle.msgId).any FrontendBitmap.polling
      = true)
    (threads : Thread → Prog ReceiverMemory PUnit) (hidle : threads (.app 0) = .done ⟨⟩) :
    Relation.ReflTransGen (Pool.Step allowed) ⟨m, threads⟩
      ⟨m.mapFrontend handle.msgId fun f => { f with shouldStop := true },
        Function.update threads (.app 0) (.await
          (fun m => !(m.frontendBitmap handle.msgId).any FrontendBitmap.polling)
          (recvCompleteJoined handle answer))⟩ := by
  have hstart : sdrRecvComplete handle answer = .atomic id fun m =>
      (if (m.frontendBitmap handle.msgId).any FrontendBitmap.polling = false then pure ⟨⟩
        else do
          Prog.modify (ReceiverMemory.mapFrontend handle.msgId fun f =>
            { f with shouldStop := true })
          Prog.waitUntil fun m => !(m.frontendBitmap handle.msgId).any FrontendBitmap.polling) >>=
        fun _ => recvCompleteJoined handle answer := rfl
  have hspawn := Pool.Step.spawn (s := ⟨m, threads⟩) (.app 0) _ hidle hallowed
  have hload := Pool.step_atomic allowed m threads (.app 0) id fun m =>
    (if (m.frontendBitmap handle.msgId).any FrontendBitmap.polling = false then pure ⟨⟩
      else do
        Prog.modify (ReceiverMemory.mapFrontend handle.msgId fun f => { f with shouldStop := true })
        Prog.waitUntil fun m => !(m.frontendBitmap handle.msgId).any FrontendBitmap.polling) >>=
      fun _ => recvCompleteJoined handle answer
  rw [if_neg (by rw [hpolling]; decide)] at hload
  exact .head hspawn (.head hload (.head (Pool.step_atomic allowed m threads (.app 0) _ _) .refl))

/-- With all chunk bits set, what is left of `sdr_recv_complete` sends a COMPLETE_ACK. -/
lemma run_recvCompleteJoined {t : BitmapPair} {handle : SDRRecvHandle}
    (hslot : handle.msgId = t.slot)
    {m : ReceiverMemory} {msg : MessageContext} {b : BackendBitmap} {f : FrontendBitmap}
    (hmsg : m.message t.slot = some msg) (hs : t.Shape msg b f) (hactive : msg.state = .active)
    (hpos : 0 < t.totalChunks) (hlt : t.totalChunks < 2 ^ 32)
    (hall : ∀ c < t.totalChunks, c ∈ t.completed m) {server : TCPControlServer}
    (hserver : m.conn.tcpServer = some server) (hfd : 0 ≤ server.clientFd) :
    ∃ m' ack, (recvCompleteJoined handle sizeofControlMessage).run m = some (⟨⟩, m') ∧
      m'.sent = m.sent ++ [ack] ∧ ack.msgType = .completeAck := by
  have hcount := (FrontendBitmap.le_countCompleted_iff _ t.totalChunks rfl).mpr hall
  have hcomplete : (transferComplete t.slot).run m = some (true, m) := by
    unfold transferComplete
    simp only [Prog.run_bind, Prog.run_load, Option.bind_some, hmsg, hactive, hs.frontend,
      reduceCtorEq,
      if_false, FrontendBitmap.getTotalChunksCompleted, run_countCompleted, Option.elim_some,
      hs.chunks, hs.chunkCount, Nat.mod_eq_of_lt hlt, Prog.run_pure]
    rw [decide_eq_true hpos, decide_eq_true hcount, Bool.and_self]
  refine ⟨(m.completeMessage t.slot).sendMessage (completionMessage
      (m.completeMessage t.slot).conn.connectionCtx.connectionId true) sizeofControlMessage,
    completionMessage (m.completeMessage t.slot).conn.connectionCtx.connectionId true, ?_, ?_, rfl⟩
  · simp [recvCompleteJoined, hslot, hcomplete]
  · have hserver' : (m.completeMessage t.slot).conn.tcpServer = some server := hserver
    simp only [ReceiverMemory.sendMessage, hserver', TCPControlServer.sendMessage_whole hfd,
      if_true]
    rfl

/-- The message when the application has joined the poller: its bitmaps are those of before. -/
structure Joined (t : BitmapPair) (m m' : ReceiverMemory) : Prop where
  message : ∃ msg b f, m'.message t.slot = some msg ∧ t.Shape msg b f ∧ msg.state = .active ∧
    f.polling = false
  packetWords : m'.packetWords t.slot = m.packetWords t.slot
  chunkWords : m'.chunkWords t.slot = m.chunkWords t.slot
  sent : m'.sent = m.sent
  tcpServer : m'.conn.tcpServer = m.conn.tcpServer

/-- The application raises the stop flag and blocks; the poller sees the flag and leaves. -/
lemma Filling.steps_joined {t : BitmapPair} {buffer length mtuBytes k : ℕ} {m₀ m : ReceiverMemory}
    (h : Filling t buffer length mtuBytes m₀ k m)
    (allowed : Thread → Prog ReceiverMemory PUnit → Prop) {handle : SDRRecvHandle}
    (hslot : handle.msgId = t.slot) {answer : ℤ}
    (happ : allowed (.app 0) (sdrRecvComplete handle answer))
    (hpoller : allowed .poller (pollingRound handle.msgId)) :
    ∃ m', Relation.ReflTransGen (Pool.Step allowed) ⟨m, fun _ => .done ⟨⟩⟩
        ⟨m', Function.update (fun _ => .done ⟨⟩) (.app 0) (.await
          (fun m => !(m.frontendBitmap handle.msgId).any FrontendBitmap.polling)
          (recvCompleteJoined handle answer))⟩ ∧ Joined t m m' := by
  obtain ⟨msg, b, f, hmsg, hs, hactive, -, -, -, hpoll, -, -⟩ := h.message
  have hpolling : (m.frontendBitmap handle.msgId).any FrontendBitmap.polling = true := by
    simp [hslot, ReceiverMemory.frontendBitmap, hmsg, hs.frontend, hpoll]
  obtain ⟨m₁, hm₁⟩ : ∃ m₁, m₁ = m.mapFrontend t.slot fun f => { f with shouldStop := true } :=
    ⟨_, rfl⟩
  obtain ⟨m₂, hm₂⟩ : ∃ m₂, m₂ = m₁.mapFrontend t.slot fun f => { f with polling := false } :=
    ⟨_, rfl⟩
  have hmsg₁ : m₁.message t.slot = some { msg with
      frontendBitmap := some { f with shouldStop := true } } := by
    simp [hm₁, ReceiverMemory.mapFrontend, hmsg, hs.frontend]
  have hmsg₂ : m₂.message t.slot = some { msg with
      frontendBitmap := some { f with shouldStop := true, polling := false } } := by
    simp [hm₂, ReceiverMemory.mapFrontend, hmsg₁]
  have hs₂ : t.Shape { msg with
      frontendBitmap := some { f with shouldStop := true, polling := false } } b
      { f with shouldStop := true, polling := false } :=
    ⟨hs.generation, hs.state, hs.chunkCount, hs.backend, rfl, hs.totalPackets, hs.packetsPerChunk,
      hs.chunks, hs.packetsConfined,
      fun hroom => ⟨(hs.chunksConfined hroom).chunks, (hs.chunksConfined hroom).overrun⟩⟩
  have hleave : (pollingRound handle.msgId).run m₁ = some (⟨⟩, m₂) := by
    rw [hm₂, hslot]
    simp [pollingRound, hmsg₁, hs.backend, hpoll]
  have hstop := steps_stopPolling happ hpolling (fun _ => .done ⟨⟩) rfl
  rw [hslot, ← hm₁, ← hslot] at hstop
  refine ⟨m₂, hstop.trans (Pool.steps_of_spawn hpoller hleave
    (Function.update_of_ne (by simp) _ _)),
    ⟨⟨_, b, _, hmsg₂, hs₂, hactive, rfl⟩, ?_, ?_, ?_, ?_⟩⟩
  · rw [BitmapPair.packetWords_eq hmsg₂ hs₂, BitmapPair.packetWords_eq hmsg hs]
  · rw [BitmapPair.chunkWords_eq hmsg₂ hs₂, BitmapPair.chunkWords_eq hmsg hs]
  · rw [hm₂, hm₁]
    rfl
  · rw [hm₂, hm₁]
    rfl

lemma Joined.polling {t : BitmapPair} {m m' : ReceiverMemory} (h : Joined t m m') :
    (m'.frontendBitmap t.slot).any FrontendBitmap.polling = false := by
  obtain ⟨msg, b, f, hmsg, hs, -, hpolling⟩ := h.message
  simp [ReceiverMemory.frontendBitmap, hmsg, hs.frontend, hpolling]

/-- Once all packets are recorded, the application gets its COMPLETE_ACK. -/
lemma Filling.steps_complete {t : BitmapPair} {buffer length mtuBytes : ℕ} {m₀ m : ReceiverMemory}
    (h : Filling t buffer length mtuBytes m₀ t.totalPackets m)
    (hall : ∀ c < t.totalChunks, c ∈ t.completed m) (hpos : 0 < t.totalChunks)
    (hlt : t.totalChunks < 2 ^ 32) {server : TCPControlServer}
    (hserver : m₀.conn.tcpServer = some server) (hfd : 0 ≤ server.clientFd)
    (allowed : Thread → Prog ReceiverMemory PUnit → Prop) {handle : SDRRecvHandle}
    (hslot : handle.msgId = t.slot)
    (happ : allowed (.app 0) (sdrRecvComplete handle sizeofControlMessage))
    (hpoller : allowed .poller (pollingRound handle.msgId)) :
    ∃ m' ack, Relation.ReflTransGen (Pool.Step allowed) ⟨m, fun _ => .done ⟨⟩⟩
        ⟨m', fun _ => .done ⟨⟩⟩ ∧
      m'.sent = m₀.sent ++ [ack] ∧ ack.msgType = .completeAck := by
  obtain ⟨m₂, hsteps, hjoined⟩ := h.steps_joined allowed hslot happ hpoller
  obtain ⟨msg, b, f, hmsg, hs, hactive, -⟩ := hjoined.message
  have hall₂ : ∀ c < t.totalChunks, c ∈ t.completed m₂ := by
    rw [BitmapPair.completed, hjoined.chunkWords]
    exact hall
  obtain ⟨m', ack, hrun, hsent, hack⟩ := run_recvCompleteJoined hslot hmsg hs hactive hpos hlt hall₂
    (hjoined.tcpServer.trans (h.tcpServer.trans hserver)) hfd
  refine ⟨m', ack, ?_, by rw [hsent, hjoined.sent, h.sent], hack⟩
  have hready : (!(m₂.frontendBitmap handle.msgId).any FrontendBitmap.polling) = true := by
    rw [hslot, hjoined.polling]
    rfl
  have hwake := Pool.step_await allowed (r := fun m : ReceiverMemory =>
    !(m.frontendBitmap handle.msgId).any FrontendBitmap.polling) hready (fun _ => .done ⟨⟩) (.app 0)
    (recvCompleteJoined handle sizeofControlMessage)
  have hrest := Pool.steps_of_run allowed hrun (.app 0) fun _ => .done ⟨⟩
  rw [Function.update_eq_self (Thread.app 0) fun _ : Thread =>
    (.done ⟨⟩ : Prog ReceiverMemory PUnit)]
    at hrest
  exact hsteps.trans (.head hwake hrest)

/-! ### The lengths that matter -/

/-- The connection of a post that has sent its CTS is open. -/
lemma recvPostOnOffer_server {m m' : ReceiverMemory} {msgId buffer length : ℕ} {generation : U32}
    {offer : ConnectionParams} {opened : Bool} {answer : ℤ} {handle : SDRRecvHandle}
    {cts : ControlMessage}
    (h : recvPostOnOffer m msgId generation buffer length offer opened answer
      = (.ready handle (some cts), m')) :
    ∃ server, m'.conn.tcpServer = some server ∧ 0 ≤ server.clientFd := by
  unfold recvPostOnOffer at h
  dsimp only at h
  split at h
  · exact absurd (congrArg Prod.fst h) (by simp)
  · split_ifs at h
    · exact absurd (congrArg Prod.fst h) (by simp)
    · split at h
      · exact absurd (congrArg Prod.fst h) (by simp)
      · rename_i server hserver
        split_ifs at h with hfd hsend
        · exact absurd (congrArg Prod.fst h) (by simp)
        · exact absurd (congrArg Prod.fst h) (by simp)
        · obtain ⟨-, rfl⟩ := Prod.mk.inj h
          refine ⟨server, ?_, not_lt.mp hfd⟩
          simp only [ReceiverMemory.sendMessage, hserver, TCPControlServer.sendMessage]
          split_ifs <;> rfl

namespace Transfer

variable {t : Transfer} {b : BitmapPair} {length : ℕ} {handle : SDRRecvHandle} {m₀ : ReceiverMemory}
  {packetsPerChunk : U16}

variable (packetsPerChunk)

/-- A message with enough packets fills the packet bitmap, and the workers leave the chunk bitmap
alone. -/
lemma steps_fill (allowed : Thread → Prog ReceiverMemory PUnit → Prop)
    (hallowed : ∀ o p, o < t.totalPackets →
      dataPacket b.generation handle.msgId packetsPerChunk t.mtuBytes t.data o = some p →
      allowed (.worker 0) (receiveDatagram p.datagram))
    (hmtu : 0 < t.mtuBytes) (hmax : t.mtuBytes ≤ SDRPacket.maxPayloadSize)
    (hslot : handle.msgId = b.slot) (hfits : b.Fits)
    (hfit : ∀ o < b.totalPackets, o * t.mtuBytes < length) (hoffset : b.totalPackets ≤ 2 ^ 18)
    (h₀ : Filling b t.buffer length t.mtuBytes m₀ 0 m₀) (k : ℕ) (hk : k ≤ b.totalPackets)
    (hle : k ≤ t.totalPackets) :
    ∃ m, Pool.Reachable allowed m₀ ⟨m, fun _ => .done ⟨⟩⟩ ∧
      Filling b t.buffer length t.mtuBytes m₀ k m ∧
      m.frontendBitmap b.slot = m₀.frontendBitmap b.slot := by
  induction k with
  | zero => exact ⟨m₀, .refl, h₀, rfl⟩
  | succ k ih =>
    obtain ⟨m, hreach, hm, hfront⟩ := ih (by omega) (by omega)
    obtain ⟨p, hp, hid, htransfer, hpacket, -, hparse⟩ :=
      dataPacket_spec b.generation handle.msgId packetsPerChunk hmax t.data k
    have hlt := hfits.slot
    have hid' : p.header.msgId.toNat = b.slot := by
      rw [hid, BitVec.toNat_ofNat, hslot]
      exact Nat.mod_eq_of_lt hlt
    have hpacket' : p.header.packetOffset.toNat = k := by
      rw [hpacket, BitVec.toNat_ofNat]
      exact Nat.mod_eq_of_lt (by omega)
    obtain ⟨m', hrun, hm', hfront'⟩ : ∃ m', (processPacket { p.header with
        chunkSeq := p.header.getChunkId } p.payload).run m = some (⟨⟩, m') ∧
        Filling b t.buffer length t.mtuBytes m₀ (k + 1) m' ∧
        m'.frontendBitmap b.slot = m.frontendBitmap b.slot :=
      hm.packet (by omega) hmtu.ne' (hfit k (by omega)) hid' htransfer hpacket' p.payload
    refine ⟨m', hreach.trans (Pool.steps_of_spawn (hallowed k p (by omega) hp) ?_ rfl), hm',
      hfront'.trans hfront⟩
    rw [receiveDatagram, hparse]
    exact hrun

/-- The message right after the post. -/
lemma filling_of_post {m : ReceiverMemory} {msgId buffer : ℕ} {generation : U32}
    {offer : ConnectionParams}
    (hset : SlotSetUp m msgId generation buffer length offer handle m₀) (hb : b.slot = msgId)
    (hbuilt : b.Built m₀) :
    Filling b buffer length (negotiate m.conn.connectionCtx.params offer length).mtuBytes.toNat m₀ 0
      m₀ := by
  obtain ⟨msg, htable, -, hactive⟩ := hset.table
  obtain ⟨msg', hmsg', hs⟩ := hbuilt
  have hmsg : m₀.message b.slot = some (initMessage msg buffer length
      ((negotiate m.conn.connectionCtx.params offer length).withTransferId generation)) := by
    rw [ReceiverMemory.message, htable, hb, Function.update_self]
  obtain rfl := Option.some.inj (hmsg'.symm.trans hmsg)
  refine ⟨⟨_, _, _, hmsg, hs, hactive, rfl, rfl, rfl, rfl, rfl, ?_⟩, rfl, rfl⟩
  refine bits_zero.trans (Set.eq_empty_of_forall_notMem fun o => Nat.not_lt_zero o).symm

/-- A message of another length that fills the packet bitmap is taken for complete. -/
lemma exists_ack (hmtu : 0 < t.mtuBytes) (hmax : t.mtuBytes ≤ SDRPacket.maxPayloadSize)
    (hslot : handle.msgId = b.slot) (hfits : b.Fits)
    (hfit : ∀ o < b.totalPackets, o * t.mtuBytes < length) (hoffset : b.totalPackets ≤ 2 ^ 18)
    (hle : b.totalPackets ≤ t.totalPackets) (hbuilt : b.Built m₀)
    (h₀ : Filling b t.buffer length t.mtuBytes m₀ 0 m₀) {server : TCPControlServer}
    (hserver : m₀.conn.tcpServer = some server) (hfd : 0 ≤ server.clientFd) :
    ∃ s ack, Pool.Reachable
        (ReceiverProgram t b.generation packetsPerChunk Set.univ handle True) m₀ s ∧
      s.memory.sent = m₀.sent ++ [ack] ∧ ack.msgType = .completeAck ∧
      ∀ c < b.totalChunks, c ∈ b.completed s.memory := by
  obtain ⟨m₁, hreach₁, hm₁, -⟩ := steps_fill packetsPerChunk
    (ReceiverProgram t b.generation packetsPerChunk Set.univ handle True)
    (fun o p ho hp => .worker 0 o p trivial ho hp) hmtu hmax hslot hfits hfit hoffset h₀
    b.totalPackets le_rfl hle
  have hmeeting₁ := BitmapPair.reachable_meeting hfits hbuilt
    (ReceiverProgram.bitmapSteps hmax hslot hreach₁)
  obtain ⟨m₂, hrun, hm₂, hall⟩ := hm₁.poll hfits hmeeting₁.1
  have hreach₂ := hreach₁.trans (Pool.steps_of_spawn .poll (hslot ▸ hrun) rfl)
  have hmeeting₂ := BitmapPair.reachable_meeting hfits hbuilt
    (ReceiverProgram.bitmapSteps hmax hslot hreach₂)
  have hpos : 0 < b.totalChunks := (Nat.zero_le _).trans_lt (hfits.inChunk hfits.totalPackets).1
  obtain ⟨m₃, ack, hsteps, hsent, hack⟩ := hm₂.steps_complete hall hpos hfits.totalChunks_lt hserver
    hfd (ReceiverProgram t b.generation packetsPerChunk Set.univ handle True) hslot
    (.complete 0 sizeofControlMessage trivial) .poll
  have hgrows := hmeeting₂.steps_rel (P := b.Grows) BitmapPair.rely_grows
    (BitmapPair.program_meets hfits) (fun _ _ _ h => h)
    (ReceiverProgram.bitmapSteps hmax hslot hsteps)
  exact ⟨_, ack, hreach₂.trans hsteps, hsent, hack, fun c hc => hgrows.completed (hall c hc)⟩

end Transfer

/-- What a post that has sent its CTS leaves for a message of the sender: the transfer `t` and the
bitmaps `b`, which count the packets of the buffer. -/
structure Posted (t : Transfer) (b : BitmapPair) (length : ℕ) (handle : SDRRecvHandle)
    (m₀ : ReceiverMemory) : Prop where
  mtu_pos : 0 < t.mtuBytes
  mtu_le : t.mtuBytes ≤ SDRPacket.maxPayloadSize
  handle : handle.msgId = b.slot
  slot : b.slot = t.slot
  packetsPerChunk : b.packetsPerChunk = t.packetsPerChunk
  totalPackets : b.totalPackets = (length + t.mtuBytes - 1) / t.mtuBytes
  fits : b.Fits
  built : b.Built m₀

lemma posted_of_post {m m₀ : ReceiverMemory} {msgId buffer length : ℕ} {generation : U32}
    {offer : ConnectionParams} {handle : SDRRecvHandle} (hlength : 0 < length)
    (hset : SlotSetUp m msgId generation buffer length offer handle m₀)
    {params : ConnectionParams} (hparams : negotiate m.conn.connectionCtx.params offer length
      = params)
    (data : List U8)
    (hsize : (length + params.mtuBytes.toNat - 1) / params.mtuBytes.toNat
      + params.packetsPerChunk.toNat < 2 ^ 32) :
    Posted (.ofPost msgId buffer data params) (.ofPost msgId length
      (m.conn.connectionCtx.generationCounters msgId) params) length handle m₀ := by
  obtain ⟨hmtu, hmax⟩ := negotiate_mtuBytes m.conn.connectionCtx.params offer length
  have hppc := negotiate_packetsPerChunk m.conn.connectionCtx.params offer length
  rw [hparams] at hmtu hmax hppc
  have hceil : ceilDiv length params.mtuBytes.toNat
      = (length + params.mtuBytes.toNat - 1) / params.mtuBytes.toNat := by
    have hlt := (Nat.div_lt_iff_lt_mul hmtu).mp ((Nat.le_add_right _ _).trans_lt hsize)
    have hmul := Nat.mul_le_mul_left (2 ^ 32) hmax
    have hmax' : SDRPacket.maxPayloadSize = 65496 := rfl
    rw [ceilDiv, Nat.mod_eq_of_lt (by omega)]
  have hpos : 0 < ceilDiv length params.mtuBytes.toNat := by
    rw [hceil]
    exact Nat.div_pos (by omega) hmtu
  rw [← hceil] at hsize
  have hbuilt := BitmapPair.built_of_post hset (by rw [hparams]; exact hsize)
  rw [hparams] at hbuilt
  exact ⟨hmtu, hmax, by rw [hset.handle]; rfl, rfl, rfl, hceil, ⟨hset.lt, hpos, hppc, hsize⟩,
    hbuilt⟩

namespace Posted

variable {t : Transfer} {b : BitmapPair} {length : ℕ} {handle : SDRRecvHandle} {m₀ : ReceiverMemory}
  {packetsPerChunk : U16}

/-- A COMPLETE_ACK says that the sender's packets carry the generation of the slot and that
there are as many of them, told apart by 18 bits, as the buffer wants. -/
lemma of_ack (h : Posted t b length handle m₀) {transferId : U32} {s : Pool Thread ReceiverMemory}
    (hs : Pool.Reachable (ReceiverProgram t transferId packetsPerChunk Set.univ handle True) m₀ s)
    {new : List ControlMessage} (hnew : s.memory.sent = m₀.sent ++ new)
    (hack : ∃ msg ∈ new, msg.msgType = .completeAck) :
    transferId = b.generation ∧ b.totalPackets ≤ min t.totalPackets (2 ^ 18) := by
  have hI := (BitmapPair.reachable_meeting h.fits h.built
    (ReceiverProgram.bitmapSteps h.mtu_le h.handle hs)).1
  obtain ⟨new', hnew', hacks⟩ := hI.acks
  obtain rfl := List.append_cancel_left (hnew.symm.trans hnew')
  obtain ⟨ack, hmem, htype⟩ := hack
  have hpos := h.fits.totalPackets
  obtain ⟨hgen, i, hi, hmod⟩ :=
    (hI.packets _ (hacks ack hmem htype (b.totalPackets - 1) (by omega))).1
  exact ⟨hgen, by omega⟩

/-- Where the bitmaps can be filled and a COMPLETE_ACK speaks the truth, the lengths are equal. -/
lemma length_eq (h : Posted t b length handle m₀)
    (hfew : b.totalPackets ≤ min t.totalPackets (2 ^ 18))
    (h₀ : Filling b t.buffer length t.mtuBytes m₀ 0 m₀) {server : TCPControlServer}
    (hserver : m₀.conn.tcpServer = some server) (hfd : 0 ≤ server.clientFd)
    (hcompletes : t.CompletesWhole b.generation packetsPerChunk handle length m₀) :
    t.data.length = length := by
  obtain ⟨s, ack, hs, hsent, htype, hall⟩ := Transfer.exists_ack packetsPerChunk h.mtu_pos h.mtu_le
    h.handle h.fits (fun o ho => (lt_ceil_iff h.mtu_pos o).mp (h.totalPackets ▸ ho)) (by omega)
    (by omega) h.built h₀ hserver hfd
  have hwhole := hcompletes s hs [ack] hsent ⟨ack, List.mem_singleton_self _, htype⟩
  -- the last byte of the buffer belongs to a chunk that is reported complete
  have hpos := h.fits.totalPackets
  obtain ⟨hc, hlo, hhi, -⟩ := h.fits.inChunk (show b.totalPackets - 1 < b.totalPackets by omega)
  have hbit := hall _ hc
  rw [BitmapPair.completed, h.slot] at hbit
  rw [h.packetsPerChunk] at hbit hlo hhi
  have hstart := Nat.mul_le_mul_right t.mtuBytes hlo
  have hstop := Nat.mul_le_mul_right t.mtuBytes (Nat.succ_le_of_lt hhi)
  have hbefore : (b.totalPackets - 1) * t.mtuBytes < length :=
    (lt_ceil_iff h.mtu_pos _).mp (h.totalPackets ▸ Nat.sub_lt hpos Nat.one_pos)
  have hafter : ¬ b.totalPackets * t.mtuBytes < length := fun hlt =>
    lt_irrefl _ ((lt_ceil_iff h.mtu_pos _).mpr hlt |>.trans_eq h.totalPackets.symm)
  rw [Nat.succ_eq_add_one, Nat.sub_add_cancel hpos] at hstop
  have hcover := (hwhole.chunks _ hbit (length - 1) (by omega) (by omega) (by omega)).1
  have hle := hwhole.length_le
  omega

end Posted

/-- A transfer of equal lengths completes as a whole, however many packets it has. -/
lemma whole_of_equal {m m₀ : ReceiverMemory} {msgId buffer : ℕ} {generation transferId : U32}
    {data : List U8} {offer : ConnectionParams} {opened : Bool} {answer : ℤ}
    {handle : SDRRecvHandle} {cts : Option ControlMessage}
    (hpost : recvPostOnOffer m msgId generation buffer data.length offer opened answer
      = (.ready handle cts, m₀))
    {t : Transfer} (ht : t = .ofPost msgId buffer data
      (negotiate m.conn.connectionCtx.params offer data.length))
    (hmtu : 0 < t.mtuBytes) (hcount : t.totalPackets ≤ 2 ^ 18) {s : Pool Thread ReceiverMemory}
    (hs : Pool.Reachable (ReceiverProgram t transferId
      (negotiate m.conn.connectionCtx.params offer data.length).packetsPerChunk Set.univ
        handle True)
      m₀ s) {new : List ControlMessage} (hnew : s.memory.sent = m₀.sent ++ new)
    (hack : ∃ msg ∈ new, msg.msgType = .completeAck) : t.Whole data.length s.memory := by
  have hlong : ¬ 2 ^ 18 * t.mtuBytes < t.data.length := fun hlt =>
    absurd ((lt_ceil_iff hmtu (2 ^ 18)).mpr hlt) (not_lt.mpr hcount)
  subst ht
  obtain ⟨hfits, hI⟩ := Transfer.reachable_post hpost (not_lt.mp hlong) hs
  obtain ⟨new', hnew', hwhole⟩ := (hI.sound hfits).complete
  obtain rfl := List.append_cancel_left (hnew.symm.trans hnew')
  exact ⟨le_rfl, hwhole hack, fun c _ j _ _ hj => ⟨hj, hwhole hack j hj⟩⟩

section Post

variable {m m₀ : ReceiverMemory} {msgId buffer length : ℕ} {generation : U32}
  {offer : ConnectionParams} {opened : Bool} {answer : ℤ} {handle : SDRRecvHandle}
  {cts : ControlMessage}

/-- A message whose packets are accepted and fill the bitmap must have the length of the buffer. -/
lemma length_eq_of_completesWhole (hlength : 0 < length)
    (hpost : recvPostOnOffer m msgId generation buffer length offer opened answer
      = (.ready handle (some cts), m₀)) {params : ConnectionParams}
    (hparams : negotiate m.conn.connectionCtx.params offer length = params) (data : List U8)
    (hsize : (length + params.mtuBytes.toNat - 1) / params.mtuBytes.toNat
      + params.packetsPerChunk.toNat < 2 ^ 32)
    (hgen : m.conn.connectionCtx.generationCounters msgId = generation)
    (hfew : (length + params.mtuBytes.toNat - 1) / params.mtuBytes.toNat
      ≤ min (Transfer.ofPost msgId buffer data params).totalPackets (2 ^ 18))
    (hcompletes : (Transfer.ofPost msgId buffer data params).CompletesWhole generation
      params.packetsPerChunk handle length m₀) : data.length = length := by
  have hspec := recvPostOnOffer_spec m msgId generation buffer length offer opened answer
  rw [hpost] at hspec
  have hset := hspec.setUp handle rfl
  have hposted := posted_of_post hlength hset hparams data hsize
  obtain ⟨server, hserver, hfd⟩ := recvPostOnOffer_server hpost
  have h₀ := Transfer.filling_of_post hset rfl hposted.built
  rw [hparams] at h₀
  rw [← hgen] at hcompletes
  exact hposted.length_eq (hposted.totalPackets ▸ hfew) h₀ hserver hfd hcompletes

/-- A receive that counts fewer than `2 ^ 32` packets takes a message for complete as a whole only,
exactly when the packets of the message are not accepted, the lengths are equal, or the message has
fewer packets, among those that the 18 bits of the header can tell apart, than the buffer wants.
Nobody compares the lengths. -/
theorem completesWhole_iff (hlength : 0 < length)
    (hpost : recvPostOnOffer m msgId generation buffer length offer opened answer
      = (.ready handle (some cts), m₀)) (data : List U8) :
    let params := negotiate m.conn.connectionCtx.params offer length
    let t := Transfer.ofPost msgId buffer data params
    let wanted := (length + t.mtuBytes - 1) / t.mtuBytes
    let harmless := m.conn.connectionCtx.generationCounters msgId ≠ generation ∨
      data.length = length ∨ min t.totalPackets (2 ^ 18) < wanted
    (wanted + t.packetsPerChunk < 2 ^ 32 ∧ harmless →
      t.CompletesWhole generation params.packetsPerChunk handle length m₀) ∧
    (t.CompletesWhole generation params.packetsPerChunk handle length m₀ →
      wanted + t.packetsPerChunk < 2 ^ 32 → harmless) := by
  intro params t wanted harmless
  have hspec := recvPostOnOffer_spec m msgId generation buffer length offer opened answer
  rw [hpost] at hspec
  have hset := hspec.setUp handle rfl
  constructor
  · rintro ⟨hsize, hharmless⟩ s hs new hnew hack
    have hposted := posted_of_post hlength hset rfl data hsize
    obtain ⟨hgen, hfew⟩ := hposted.of_ack hs hnew hack
    rw [hposted.totalPackets] at hfew
    have hlen : data.length = length := by
      rcases hharmless with hne | hlen | hlt
      · exact absurd hgen.symm hne
      · exact hlen
      · exact absurd hfew (not_le.mpr hlt)
    subst hlen
    exact whole_of_equal hpost rfl hposted.mtu_pos (hfew.trans (min_le_right _ _)) hs hnew hack
  · intro hcompletes hsize
    by_cases hgen : m.conn.connectionCtx.generationCounters msgId = generation
    · by_cases hfew : wanted ≤ min t.totalPackets (2 ^ 18)
      · exact Or.inr (Or.inl
          (length_eq_of_completesWhole hlength hpost rfl data hsize hgen hfew hcompletes))
      · exact Or.inr (Or.inr (not_le.mp hfew))
    · exact Or.inl hgen

end Post

lemma sample_ready : (recvPostOnOffer samplePostMemory 0 1 0 5 (desiredParams .zero 5) true
    sizeofControlMessage).1 = .ready ⟨0, 1, 0, 5⟩ (some (ctsMessage 1 ((negotiate
      samplePostMemory.conn.connectionCtx.params (desiredParams .zero 5) 5).withTransferId
        1))) := by
  decide +kernel

/-- A message of the length of the buffer. -/
theorem completesWhole_iff_sample :
    let post := recvPostOnOffer samplePostMemory 0 1 0 5 (desiredParams .zero 5) true
      sizeofControlMessage
    let params := negotiate samplePostMemory.conn.connectionCtx.params (desiredParams .zero 5) 5
    (Transfer.ofPost 0 0 sampleData params).CompletesWhole 1 params.packetsPerChunk ⟨0, 1, 0, 5⟩ 5
      post.2 := by
  have hready := sample_ready
  generalize hpost : recvPostOnOffer samplePostMemory 0 1 0 5 (desiredParams .zero 5) true
    sizeofControlMessage = post at hready
  exact (completesWhole_iff (by decide) (hpost.trans (Prod.ext hready rfl)) sampleData).1
    ⟨by decide +kernel, Or.inr (Or.inl rfl)⟩

/-- A message of six bytes is cut to the five bytes of the buffer and acknowledged as complete. -/
theorem not_completesWhole_cut :
    let post := recvPostOnOffer samplePostMemory 0 1 0 5 (desiredParams .zero 5) true
      sizeofControlMessage
    let params := negotiate samplePostMemory.conn.connectionCtx.params (desiredParams .zero 5) 5
    ¬ (Transfer.ofPost 0 0 [1, 2, 3, 4, 5, 6] params).CompletesWhole 1 params.packetsPerChunk
      ⟨0, 1, 0, 5⟩ 5 post.2 := by
  have hready := sample_ready
  generalize hpost : recvPostOnOffer samplePostMemory 0 1 0 5 (desiredParams .zero 5) true
    sizeofControlMessage = post at hready
  intro params post hcompletes
  have hlen := length_eq_of_completesWhole (by decide) (hpost.trans (Prod.ext hready rfl)) rfl
    [1, 2, 3, 4, 5, 6] (by decide +kernel) rfl (by decide +kernel) hcompletes
  exact absurd hlen (by decide)

end SdrUdp
