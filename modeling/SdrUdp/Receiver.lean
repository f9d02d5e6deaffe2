import SdrUdp.Connection

/-!
# The receiving end

What the threads of a receiving connection share, and those threads: the workers that process
datagrams, the frontend poller and the application's `sdr_recv_complete`.
-/

namespace SdrUdp

open SdrUdp.Core

/-- The UDP receiver of a connection; its workers appear as threads. -/
structure UDPReceiver where
  isRunning : Bool
  basePort : U16
  numChannels : U16
  deriving DecidableEq

/-- `start`; `opened` says whether all sockets could be opened and bound. -/
def UDPReceiver.start (r : UDPReceiver) (basePort numChannels : U16) (opened : Bool) :
    Bool × UDPReceiver :=
  if r.isRunning then (false, r)
  else
    let channels := if numChannels < 1 then 1 else numChannels
    (opened, { isRunning := opened, basePort, numChannels := channels })

/-- Connection handle. -/
structure SDRConnection where
  connectionCtx : ConnectionContext
  udpReceiver : Option UDPReceiver
  parentCtx : ℕ
  tcpServer : Option TCPControlServer
  tcpClient : Option TCPControlClient
  isReceiver : Bool

/-- Receive handle; its `msg_ctx` is the message in slot `msgId`. -/
structure SDRRecvHandle where
  msgId : ℕ
  generation : U32
  userBuffer : ℕ
  bufferSize : ℕ
  deriving DecidableEq

/-- `memcpy` to `buffer + offset`. -/
def writeBytes (buffer : ℕ → U8) (offset : ℕ) (data : List U8) : ℕ → U8 :=
  fun i => if offset ≤ i ∧ i < offset + data.length then data.getD (i - offset) 0 else buffer i

/-- What the threads of a receiving connection share: the connection, the application's buffers, the
control messages sent so far and the `last_ctrl` of `pump`. `sinkWrites` are the offsets and the
bytes that went to the connection's null sink. -/
structure ReceiverMemory where
  conn : SDRConnection
  buffers : ℕ → ℕ → U8
  sent : List ControlMessage
  lastCtrl : Option ℕ
  sinkWrites : List (ℕ × List U8) := []

namespace ReceiverMemory

/-- The message in a slot. -/
def message (id : ℕ) (m : ReceiverMemory) : Option MessageContext :=
  m.conn.connectionCtx.msgTable id

/-- Change the message in a slot in place. -/
def mapMessage (id : ℕ) (f : MessageContext → MessageContext) (m : ReceiverMemory) :
    ReceiverMemory :=
  { m with
    conn.connectionCtx.msgTable :=
      Function.update m.conn.connectionCtx.msgTable id ((m.message id).map f) }

def backendBitmap (id : ℕ) (m : ReceiverMemory) : Option BackendBitmap :=
  (m.message id).bind MessageContext.backendBitmap

def frontendBitmap (id : ℕ) (m : ReceiverMemory) : Option FrontendBitmap :=
  (m.message id).bind MessageContext.frontendBitmap

/-- The words of the packet bitmap. -/
def packetWords (id : ℕ) (m : ReceiverMemory) : ℕ → U64 :=
  (m.backendBitmap id).elim (fun _ => 0#64) BackendBitmap.packetBitmap

/-- The words of the chunk bitmap. -/
def chunkWords (id : ℕ) (m : ReceiverMemory) : ℕ → U64 :=
  (m.frontendBitmap id).elim (fun _ => 0#64) FrontendBitmap.chunkBitmap

/-- `memcpy` through a message's buffer pointer. What goes to the null sink is not read again, but
it may go past its end. -/
def writeBuffer (ptr : BufferPtr) (offset : ℕ) (data : List U8) (m : ReceiverMemory) :
    ReceiverMemory :=
  match ptr with
  | .user b   => { m with
      buffers := Function.update m.buffers b (writeBytes (m.buffers b) offset data) }
  | .nullSink => { m with sinkWrites := m.sinkWrites ++ [(offset, data)] }

/-- What was written to the null sink between `m` and `m'` fits it. -/
def WithinSink (m m' : ReceiverMemory) : Prop :=
  ∀ w ∈ m'.sinkWrites.drop m.sinkWrites.length,
    w.1 + w.2.length ≤ ConnectionContext.nullSinkSize

/-- `set_packet_received` on the message in slot `id`. -/
def setReceived (id offset : ℕ) : ReceiverMemory → ReceiverMemory :=
  mapMessage id fun msg =>
    { msg with backendBitmap := msg.backendBitmap.map fun b => (b.setPacketReceived offset).2 }

/-- Change the frontend bitmap of the message in slot `id`. -/
def mapFrontend (id : ℕ) (f : FrontendBitmap → FrontendBitmap) : ReceiverMemory → ReceiverMemory :=
  mapMessage id fun msg => { msg with frontendBitmap := msg.frontendBitmap.map f }

/-- `send_message` of the connection's server, `answer` being what `send` returns. -/
def sendMessage (msg : ControlMessage) (answer : ℤ) (m : ReceiverMemory) : ReceiverMemory :=
  match m.conn.tcpServer with
  | none        => m
  | some server =>
    let result := server.sendMessage msg answer
    { m with
      conn.tcpServer := some result.2.1
      sent := if result.1 then m.sent ++ [msg] else m.sent }

/-- `complete_message` on the connection. -/
def completeMessage (id : ℕ) (m : ReceiverMemory) : ReceiverMemory :=
  { m with conn.connectionCtx := m.conn.connectionCtx.completeMessage id }

@[simp] lemma message_mapMessage (id : ℕ) (g : MessageContext → MessageContext)
    (m : ReceiverMemory) : (m.mapMessage id g).message id = (m.message id).map g := by
  simp [mapMessage, message]

lemma message_mapMessage_of_ne {id id' : ℕ} (h : id' ≠ id) (g : MessageContext → MessageContext)
    (m : ReceiverMemory) : (m.mapMessage id g).message id' = m.message id' :=
  Function.update_of_ne h _ _

/-- Changing the rest of a message leaves the frontend bitmaps alone. -/
lemma frontendBitmap_mapMessage {g : MessageContext → MessageContext}
    (hg : ∀ msg, (g msg).frontendBitmap = msg.frontendBitmap) (id id' : ℕ) (m : ReceiverMemory) :
    (m.mapMessage id' g).frontendBitmap id = m.frontendBitmap id := by
  by_cases hid : id = id'
  · subst hid
    rw [frontendBitmap, message_mapMessage]
    cases hmsg : m.message id with
    | none => simp [frontendBitmap, hmsg]
    | some msg => simp [frontendBitmap, hmsg, hg]
  · rw [frontendBitmap, message_mapMessage_of_ne hid]
    rfl

lemma frontendBitmap_setReceived (id id' o : ℕ) (m : ReceiverMemory) :
    (m.setReceived id' o).frontendBitmap id = m.frontendBitmap id :=
  frontendBitmap_mapMessage (g := fun msg => { msg with
    backendBitmap := msg.backendBitmap.map fun b => (b.setPacketReceived o).2 })
      (fun _ => rfl) id id' m

lemma completeMessage_of_lt {id : ℕ} (h : id < ConnectionContext.maxMessages)
    (m : ReceiverMemory) : m.completeMessage id = m.mapMessage id ConnectionContext.retire := by
  simp [completeMessage, mapMessage, ConnectionContext.completeMessage, Nat.not_le.mpr h, message]

lemma completeMessage_of_ge {id : ℕ} (h : ConnectionContext.maxMessages ≤ id)
    (m : ReceiverMemory) : m.completeMessage id = m := by
  simp [completeMessage, ConnectionContext.completeMessage, h]

/-- Sending changes nothing but the stream: a failed `send` does not close the connection. -/
lemma sendMessage_conn (m : ReceiverMemory) (msg : ControlMessage) (answer : ℤ) :
    (m.sendMessage msg answer).conn = m.conn := by
  unfold sendMessage
  split
  · rfl
  · rename_i server hserver
    have hsame : (server.sendMessage msg answer).2.1 = server := by
      unfold TCPControlServer.sendMessage
      dsimp only
      split_ifs <;> rfl
    dsimp only
    rw [hsame, ← hserver]

@[simp] lemma sendMessage_connectionCtx (m : ReceiverMemory) (msg : ControlMessage) (answer : ℤ) :
    (m.sendMessage msg answer).conn.connectionCtx = m.conn.connectionCtx := by
  unfold sendMessage; split <;> rfl

@[simp] lemma sendMessage_parentCtx (m : ReceiverMemory) (msg : ControlMessage) (answer : ℤ) :
    (m.sendMessage msg answer).conn.parentCtx = m.conn.parentCtx := by
  unfold sendMessage; split <;> rfl

@[simp] lemma sendMessage_buffers (m : ReceiverMemory) (msg : ControlMessage) (answer : ℤ) :
    (m.sendMessage msg answer).buffers = m.buffers := by
  unfold sendMessage; split <;> rfl

@[simp] lemma sendMessage_sinkWrites (m : ReceiverMemory) (msg : ControlMessage) (answer : ℤ) :
    (m.sendMessage msg answer).sinkWrites = m.sinkWrites := by
  unfold sendMessage; split <;> rfl

@[simp] lemma sendMessage_message (m : ReceiverMemory) (msg : ControlMessage) (answer : ℤ)
    (id : ℕ) : (m.sendMessage msg answer).message id = m.message id := by
  rw [message, message, sendMessage_connectionCtx]

/-- A send leaves the message behind or fails. -/
lemma sendMessage_sent (m : ReceiverMemory) (msg : ControlMessage) (answer : ℤ) :
    (m.sendMessage msg answer).sent = m.sent ∨ (m.sendMessage msg answer).sent
      = m.sent ++ [msg] := by
  unfold sendMessage
  split
  · exact Or.inl rfl
  · dsimp only
    split_ifs
    · exact Or.inr rfl
    · exact Or.inl rfl

end ReceiverMemory

/-- A receiving connection before its first post, with nothing configured. -/
def ReceiverMemory.idle : ReceiverMemory where
  conn :=
    { connectionCtx := ConnectionContext.fresh.initializeContext 1 .zero
      udpReceiver := none
      parentCtx := 0
      tcpServer := some ⟨5⟩
      tcpClient := none
      isReceiver := true }
  buffers _ _ := 0
  sent := []
  lastCtrl := none

open ReceiverMemory

/-! ### Workers -/

/-- `write_packet_to_buffer`: a payload that would run past the buffer is cut. -/
def writePacketToBuffer (id packetOffset : ℕ) (payload : List U8) : Prog ReceiverMemory PUnit := do
  match ← Prog.load (message id) with
  | none     => pure ⟨⟩
  | some msg =>
    match msg.buffer with
    | none     => pure ⟨⟩
    | some ptr =>
      let mtuBytes := msg.connectionParams.mtuBytes.toNat
      let bufferOffset := packetOffset * (if mtuBytes = 0 then 1 else mtuBytes)
      if bufferOffset ≥ msg.bufferSize then pure ⟨⟩
      else Prog.modify (writeBuffer ptr bufferOffset (payload.take (msg.bufferSize - bufferOffset)))

/-- `process_packet`. The message is looked up again at every step: another thread may have
completed it in between. -/
def processPacket (header : SDRPacketHeader) (payload : List U8) : Prog ReceiverMemory PUnit := do
  let id := header.msgId.toNat
  let offset := header.packetOffset.toNat
  match ← Prog.load fun m => m.conn.connectionCtx.getMessage id with
  | none     => pure ⟨⟩
  | some msg =>
    if msg.generation ≠ header.transferId then pure ⟨⟩
    else
      let state ← Prog.load fun m => (m.message id).map MessageContext.state
      if state ≠ some .active then pure ⟨⟩
      else
        let duplicate ← Prog.load fun m =>
          (m.backendBitmap id).any fun b => b.isPacketReceived offset
        if duplicate then pure ⟨⟩
        else
          writePacketToBuffer id offset payload
          Prog.modify (setReceived id offset)

/-- One round of `receiver_thread_func` on the bytes that `recvfrom` returned. -/
def receiveDatagram (bytes : List U8) : Prog ReceiverMemory PUnit :=
  match SDRPacket.parse bytes with
  | none   => pure ⟨⟩
  | some p => processPacket p.header p.payload

/-! ### The frontend poller -/

/-- `check_and_set_chunk`. -/
def checkAndSetChunk (id totalPackets packetsPerChunk totalChunks chunk : ℕ) :
    Prog ReceiverMemory Bool := do
  let marked ← FrontendBitmap.isChunkComplete (fun w => Prog.load fun m => chunkWords id m w)
    totalChunks chunk
  if marked then pure true
  else
    let complete ← BackendBitmap.isChunkComplete (fun w => Prog.load fun m => packetWords id m w)
      totalPackets packetsPerChunk chunk
    if complete = false then pure false
    else
      Prog.atomic (mapFrontend id fun f => f.setChunk chunk) fun m =>
        pure (chunkWords id m (chunk / 64) &&& bitMask (chunk % 64) == 0#64)

/-- The loop of `update_chunk_bitmap`. -/
def updateChunkBitmap (id totalPackets packetsPerChunk totalChunks : ℕ) :
    ℕ → ℕ → Prog ReceiverMemory PUnit
  | 0, _ => pure ⟨⟩
  | chunks + 1, chunk => do
    let _ ← checkAndSetChunk id totalPackets packetsPerChunk totalChunks chunk
    updateChunkBitmap id totalPackets packetsPerChunk totalChunks chunks (chunk + 1)

/-- One round of `polling_thread_func`; the thread ends when it sees the stop flag. -/
def pollingRound (id : ℕ) : Prog ReceiverMemory PUnit := do
  match ← Prog.load (message id) with
  | none     => pure ⟨⟩
  | some msg =>
    match msg.frontendBitmap, msg.backendBitmap with
    | some front, some back =>
      if front.polling = false then pure ⟨⟩
      else if front.shouldStop then Prog.modify (mapFrontend id fun f =>
        { f with polling := false })
      else
        let total := front.totalChunks
        updateChunkBitmap id back.totalPackets back.packetsPerChunk total total 0
    | _, _ => pure ⟨⟩

/-! ### Completion -/

/-- The application side of `stop_polling`: raise the flag and join the thread. -/
def stopPolling (id : ℕ) : Prog ReceiverMemory PUnit := do
  let polling ← Prog.load fun m => (m.frontendBitmap id).any FrontendBitmap.polling
  if polling = false then pure ⟨⟩
  else
    Prog.modify (mapFrontend id fun f => { f with shouldStop := true })
    Prog.waitUntil fun m => !(m.frontendBitmap id).any FrontendBitmap.polling

/-- Whether `sdr_recv_complete` takes the transfer for complete. -/
def transferComplete (id : ℕ) : Prog ReceiverMemory Bool := do
  let msg ← Prog.load (message id)
  match msg with
  | none     => pure false
  | some msg =>
    if msg.state = .completed then pure true
    else match msg.frontendBitmap with
      | none       => pure false
      | some front => do
        let chunksReceived ← FrontendBitmap.getTotalChunksCompleted
          (fun w => Prog.load fun m => chunkWords id m w) front.totalChunks
        let totalChunks ← Prog.load fun m =>
          (m.message id).elim 0 fun msg => msg.totalChunks % 2 ^ 32
        pure (decide (totalChunks > 0) && decide (chunksReceived ≥ totalChunks))

/-- The message that ends a transfer. -/
def completionMessage (connectionId : U32) (isComplete : Bool) : ControlMessage :=
  { ControlMessage.zero with
    magic := ControlMessage.magicValue
    msgType := if isComplete then .completeAck else .incompleteNack
    connectionId := connectionId }

/-- `sdr_recv_complete`. -/
def sdrRecvComplete (handle : SDRRecvHandle) (answer : ℤ) : Prog ReceiverMemory PUnit := do
  stopPolling handle.msgId
  let isComplete ← transferComplete handle.msgId
  Prog.modify (completeMessage handle.msgId)
  Prog.modify fun m =>
    m.sendMessage (completionMessage m.conn.connectionCtx.connectionId isComplete) answer

/-- The threads at the receiver. -/
inductive Thread where
  | worker (i : ℕ)
  | poller
  | app (i : ℕ)
  deriving DecidableEq

/-! ### Completion of a message at rest -/

lemma run_isChunkComplete (id total chunk : ℕ) (m : ReceiverMemory) :
    (FrontendBitmap.isChunkComplete (fun w => Prog.load fun m => chunkWords id m w) total
      chunk).run m = some (FrontendBitmap.isChunkComplete (m := Id) (chunkWords id m) total chunk,
        m) := by
  unfold FrontendBitmap.isChunkComplete
  split_ifs
  · rfl
  · rfl

lemma run_countCompleted (id total chunks chunk : ℕ) (m : ReceiverMemory) :
    (FrontendBitmap.countCompleted (fun w => Prog.load fun m => chunkWords id m w) total chunks
      chunk).run m
      = some (FrontendBitmap.countCompleted (m := Id) (chunkWords id m) total chunks chunk, m) := by
  induction chunks generalizing chunk with
  | zero => rfl
  | succ chunks ih =>
    simp only [FrontendBitmap.countCompleted, Prog.run_bind, run_isChunkComplete, Option.bind_some,
      ih, Prog.run_pure]
    rfl

lemma run_transferComplete (id : ℕ) (m : ReceiverMemory) :
    ∃ isComplete, (transferComplete id).run m = some (isComplete, m) := by
  unfold transferComplete
  simp only [Prog.run_bind, Prog.run_load, Option.bind_some]
  split
  · exact ⟨false, rfl⟩
  · split_ifs
    · exact ⟨true, rfl⟩
    · split
      · exact ⟨false, rfl⟩
      · simp only [FrontendBitmap.getTotalChunksCompleted, Prog.run_bind, run_countCompleted,
          Option.bind_some, Prog.run_load, Prog.run_pure]
        exact ⟨_, rfl⟩

/-- With the poller gone, completing a message retires it and sends the verdict. -/
lemma run_sdrRecvComplete {handle : SDRRecvHandle} {m : ReceiverMemory}
    (hpolling : (m.frontendBitmap handle.msgId).any FrontendBitmap.polling = false) (answer : ℤ) :
    ∃ isComplete, (sdrRecvComplete handle answer).run m = some (⟨⟩,
      (m.completeMessage handle.msgId).sendMessage
        (completionMessage (m.completeMessage handle.msgId).conn.connectionCtx.connectionId
          isComplete) answer) := by
  obtain ⟨isComplete, hrun⟩ := run_transferComplete handle.msgId m
  refine ⟨isComplete, ?_⟩
  simp [sdrRecvComplete, stopPolling, hpolling, hrun]

lemma any_polling_joined (id : ℕ) (m : ReceiverMemory) :
    ((m.mapFrontend id fun f => { f with polling := false }).frontendBitmap id).any
      FrontendBitmap.polling = false := by
  simp only [ReceiverMemory.mapFrontend, ReceiverMemory.mapMessage, ReceiverMemory.frontendBitmap,
    ReceiverMemory.message, Function.update_self]
  cases m.conn.connectionCtx.msgTable id with
  | none => rfl
  | some msg => cases hf : msg.frontendBitmap <;> simp [hf]

/-! ### A pass of the poller alone -/

lemma run_checkMiddleWords (id n word : ℕ) (m : ReceiverMemory) :
    ∃ r, (BackendBitmap.checkMiddleWords (fun w => Prog.load fun m => packetWords id m w) n
      word).run m
      = some (r, m) := by
  induction n generalizing word with
  | zero => exact ⟨true, rfl⟩
  | succ n ih =>
    simp only [BackendBitmap.checkMiddleWords, Prog.run_bind, Prog.run_load, Option.bind_some]
    split_ifs
    · exact ⟨false, rfl⟩
    · exact ih (word + 1)

lemma run_backendComplete (id total ppc chunk : ℕ) (m : ReceiverMemory) :
    ∃ r, (BackendBitmap.isChunkComplete (fun w => Prog.load fun m => packetWords id m w) total ppc
      chunk).run m = some (r, m) := by
  unfold BackendBitmap.isChunkComplete BackendBitmap.checkChunkRange
  dsimp only
  generalize chunk * ppc % 2 ^ 32 = start
  generalize (if (start + ppc) % 2 ^ 32 > total then total else (start + ppc) % 2 ^ 32) = stop
  split_ifs
  · exact ⟨_, rfl⟩
  · simp only [Prog.run_bind, Prog.run_load, Option.bind_some]
    split_ifs
    · exact ⟨false, rfl⟩
    · obtain ⟨middle, hmiddle⟩ := run_checkMiddleWords id
        ((stop + (2 ^ 32 - 1)) % 2 ^ 32 / 64 - (start / 64 + 1)) (start / 64 + 1) m
      simp only [Prog.run_bind, hmiddle, Option.bind_some]
      split_ifs
      · exact ⟨false, rfl⟩
      · exact ⟨_, rfl⟩

/-- A pass keeps what setting the bits of complete chunks keeps. -/
lemma run_updateChunkBitmap {K : ReceiverMemory → Prop}
    {id totalPackets packetsPerChunk totalChunks : ℕ}
    (hK : ∀ m c, c < totalChunks → (BackendBitmap.isChunkComplete
      (fun w => Prog.load fun m => packetWords id m w) totalPackets packetsPerChunk c).run m
        = some (true, m) → K m → K (m.mapFrontend id fun f => f.setChunk c))
    {chunks chunk : ℕ} (hle : chunk + chunks ≤ totalChunks) {m : ReceiverMemory} (h : K m) :
    ∃ m', (updateChunkBitmap id totalPackets packetsPerChunk totalChunks chunks chunk).run m
      = some (⟨⟩, m') ∧ K m' := by
  induction chunks generalizing chunk m with
  | zero => exact ⟨m, rfl, h⟩
  | succ chunks ih =>
    have hcheck : ∃ r m', (checkAndSetChunk id totalPackets packetsPerChunk totalChunks chunk).run m
        = some (r, m') ∧ K m' := by
      obtain ⟨complete, hcomplete⟩ := run_backendComplete id totalPackets packetsPerChunk chunk m
      simp only [checkAndSetChunk, Prog.run_bind, run_isChunkComplete, Option.bind_some]
      split_ifs
      · exact ⟨true, m, rfl, h⟩
      · simp only [Prog.run_bind, hcomplete, Option.bind_some]
        cases complete with
        | false => exact ⟨false, m, rfl, h⟩
        | true => exact ⟨_, _, rfl, hK m chunk (by omega) hcomplete h⟩
    obtain ⟨r, m₁, hrun, h₁⟩ := hcheck
    obtain ⟨m₂, hrest, h₂⟩ := ih (show chunk + 1 + chunks ≤ totalChunks by omega) h₁
    exact ⟨m₂, by simp only [updateChunkBitmap, Prog.run_bind, hrun, Option.bind_some, hrest], h₂⟩

/-! ### A worker at rest -/

lemma packetWords_of_message {id : ℕ} {m : ReceiverMemory} {msg : MessageContext}
    {bitmap : BackendBitmap} (hmsg : m.message id = some msg)
    (hbitmap : msg.backendBitmap = some bitmap) : m.packetWords id = bitmap.packetBitmap := by
  simp [ReceiverMemory.packetWords, ReceiverMemory.backendBitmap, hmsg, hbitmap]

lemma mem_packetWords_setReceived {id o : ℕ} {m : ReceiverMemory} {msg : MessageContext}
    {bitmap : BackendBitmap} (hmsg : m.message id = some msg)
    (hbitmap : msg.backendBitmap = some bitmap) (hlt : o < bitmap.totalPackets) :
    o ∈ bits ((m.setReceived id o).packetWords id) := by
  have hmsg' : (m.setReceived id o).message id = some
      { msg with backendBitmap := msg.backendBitmap.map fun b => (b.setPacketReceived o).2 } := by
    simp [ReceiverMemory.setReceived, hmsg]
  have hset := bitmap.received_setPacketReceived o
  rw [if_pos hlt, BackendBitmap.received] at hset
  rw [packetWords_of_message hmsg'
    (congrArg (Option.map fun b => (b.setPacketReceived o).2) hbitmap), hset]
  exact Set.mem_insert _ _

/-- What a worker does with a packet that is new to the message it is taken for. -/
lemma run_processPacket (header : SDRPacketHeader) {b : ℕ} {m : ReceiverMemory}
    {msg : MessageContext}
    {bitmap : BackendBitmap} (hmsg : m.message header.msgId.toNat = some msg)
    (hactive : msg.state = .active) (hgen : msg.generation = header.transferId)
    (hbitmap : msg.backendBitmap = some bitmap) (hbuf : msg.buffer = some (.user b))
    (hmtu : msg.connectionParams.mtuBytes.toNat ≠ 0)
    (hnew : bitmap.isPacketReceived header.packetOffset.toNat = false)
    (hfit : header.packetOffset.toNat * msg.connectionParams.mtuBytes.toNat < msg.bufferSize)
    (payload : List U8) :
    (processPacket header payload).run m = some (⟨⟩,
      (m.writeBuffer (.user b)
        (header.packetOffset.toNat * msg.connectionParams.mtuBytes.toNat)
        (payload.take (msg.bufferSize -
          header.packetOffset.toNat * msg.connectionParams.mtuBytes.toNat))).setReceived
        header.msgId.toNat header.packetOffset.toNat) := by
  have hget : m.conn.connectionCtx.getMessage header.msgId.toNat = some msg := by
    have htable : m.conn.connectionCtx.msgTable header.msgId.toNat = some msg := hmsg
    rw [ConnectionContext.getMessage_of_lt _ header.msgId.isLt, htable]
    simp [Option.filter, hactive]
  have hback : m.backendBitmap header.msgId.toNat = some bitmap := by
    simp [ReceiverMemory.backendBitmap, hmsg, hbitmap]
  simp [processPacket, writePacketToBuffer, hget, hgen, hmsg, hactive, hback, hnew, hbuf, hmtu,
    Nat.not_le.mpr hfit]

/-! ### Sends that go through -/

lemma TCPControlServer.sendMessage_whole {server : TCPControlServer} (hfd : 0 ≤ server.clientFd)
    (msg : ControlMessage) :
    server.sendMessage msg sizeofControlMessage = (true, server, msg.wire) := by
  have hlen := msg.length_wire
  rw [ControlMessage.wire] at hlen
  simp [sendMessage, not_lt.mpr hfd, hlen, ControlMessage.wire]

end SdrUdp
