import SdrUdp.Receiver

/-!
# Posting a receive

`sdr_recv_post` takes an OFFER, draws a message id and a generation, sets up the message slot, sends
the CTS and waits for the ACCEPT.
-/

namespace SdrUdp

open SdrUdp.Core

/-- Main initialization: the message ids of all connections of a context come from it. -/
structure SDRContext where
  nextMsgId : ℕ
  deriving DecidableEq

/-- `allocate_msg_id`. -/
def allocateMsgId (ctx : SDRContext) : ℕ × SDRContext :=
  (ctx.nextMsgId % 1024, ⟨(ctx.nextMsgId + 1) % 1024⟩)

/-- `start_polling`. -/
def FrontendBitmap.startPolling (f : FrontendBitmap) : FrontendBitmap :=
  if f.polling then f else { f with shouldStop := false, polling := true }

/-- The loops around `receive_message` that wait for one type of message; `none` while they
wait. -/
def waitFor (type : ControlMsgType) : List Received → Option (Option ControlMessage × List Received)
  | []                     => none
  | .message msg :: rest   =>
    if msg.msgType = type then some (some msg, rest) else waitFor type rest
  | .timeout :: rest       => waitFor type rest
  | .disconnected :: rest  => some (none, rest)

/-- The message of a fresh slot, set up for a transfer. -/
def initMessage (msg : MessageContext) (buffer length : ℕ) (params : ConnectionParams) :
    MessageContext :=
  let sizes := ConnectionContext.calculateBitmapSizes length params.mtuBytes params.packetsPerChunk
  let backend := BackendBitmap.create (sizes.1 % 2 ^ 32) params.packetsPerChunk.toNat
  { msg with
    buffer := some (.user buffer)
    bufferSize := length
    totalPackets := sizes.1
    totalChunks := sizes.2
    packetsPerChunk := params.packetsPerChunk
    connectionParams := params
    backendBitmap := some backend
    frontendBitmap := some (FrontendBitmap.create backend (sizes.2 % 2 ^ 32)).startPolling }

/-- The CTS; the fields it does not set are not read. -/
def ctsMessage (connectionId : U32) (params : ConnectionParams) : ControlMessage :=
  { ControlMessage.zero with
    magic := ControlMessage.magicValue
    msgType := .cts
    connectionId := connectionId
    params := params }

/-- Start the UDP receiver of a connection unless there is one already. -/
def startReceiver (receiver : Option UDPReceiver) (params : ConnectionParams) (opened : Bool) :
    Bool × Option UDPReceiver :=
  match receiver with
  | some r => (true, some r)
  | none   =>
    let result := UDPReceiver.start ⟨false, 0, 1⟩ params.channelBasePort params.numChannels opened
    (result.1, some result.2)

/-- How far `sdr_recv_post` gets with an OFFER; the handle is written before the calls that can
fail. -/
inductive OfferOutcome where
  | refused
  | failed (handle : SDRRecvHandle)
  | ready (handle : SDRRecvHandle) (cts : Option ControlMessage)
  deriving DecidableEq

/-- `sdr_recv_post` from the OFFER to the CTS, with the message id and the generation drawn for it.
`opened` says whether the UDP sockets could be opened, `answer` is what `send` returns for the
CTS. -/
def recvPostOnOffer (m : ReceiverMemory) (msgId : ℕ) (generation : U32) (buffer length : ℕ)
    (offer : ConnectionParams) (opened : Bool) (answer : ℤ) : OfferOutcome × ReceiverMemory :=
  let own := m.conn.connectionCtx
  let negotiated := negotiate own.params offer length
  let ctx := own.initializeContext own.connectionId negotiated
  let params := negotiated.withTransferId generation
  match ctx.allocateMessageSlot msgId generation with
  | none            => (.refused, { m with conn.connectionCtx := ctx })
  | some (msg, ctx) =>
    let ctx := ctx.setMessage msgId (initMessage msg buffer length params)
    let handle : SDRRecvHandle := ⟨msgId, generation, buffer, length⟩
    let started := startReceiver m.conn.udpReceiver params opened
    let m := { m with conn.connectionCtx := ctx, conn.udpReceiver := started.2 }
    if started.1 = false then (.failed handle, m)
    else match m.conn.tcpServer with
      | none        => (.ready handle none, m)
      | some server =>
        if server.clientFd < 0 then (.ready handle none, m)
        else
          let cts := ctsMessage ctx.connectionId params
          let result := server.sendMessage cts answer
          let m := m.sendMessage cts answer
          if result.1 = false then (.failed handle, m) else (.ready handle (some cts), m)

/-- The handle written for the caller. -/
def OfferOutcome.handle : OfferOutcome → Option SDRRecvHandle
  | refused        => none
  | failed handle  => some handle
  | ready handle _ => some handle

/-- The slot of an accepted OFFER: the message with its rotated generation and the parameters
announced in the CTS. -/
structure SlotSetUp (m : ReceiverMemory) (msgId : ℕ) (generation : U32) (buffer length : ℕ)
    (offer : ConnectionParams) (handle : SDRRecvHandle) (m' : ReceiverMemory) : Prop where
  lt : msgId < ConnectionContext.maxMessages
  free : ConnectionContext.slotBusy (m.message msgId) generation = false
  handle : handle = ⟨msgId, generation, buffer, length⟩
  table : ∃ msg, m'.conn.connectionCtx.msgTable
      = Function.update m.conn.connectionCtx.msgTable msgId (some (initMessage msg buffer length
          ((negotiate m.conn.connectionCtx.params offer length).withTransferId generation))) ∧
    msg.generation = m.conn.connectionCtx.generationCounters msgId ∧ msg.state = .active
  counters : m'.conn.connectionCtx.generationCounters
    = Function.update m.conn.connectionCtx.generationCounters msgId
        (m.conn.connectionCtx.generationCounters msgId + 1)

/-- What `sdr_recv_post` does between OFFER and CTS. -/
structure OfferSpec (m : ReceiverMemory) (msgId : ℕ) (generation : U32) (buffer length : ℕ)
    (offer : ConnectionParams) (outcome : OfferOutcome) (m' : ReceiverMemory) : Prop where
  parentCtx : m'.conn.parentCtx = m.conn.parentCtx
  buffers : m'.buffers = m.buffers
  params : m'.conn.connectionCtx.params = negotiate m.conn.connectionCtx.params offer length
  refused : outcome.handle = none →
    m'.conn.connectionCtx.msgTable = m.conn.connectionCtx.msgTable ∧
      m'.conn.connectionCtx.generationCounters = m.conn.connectionCtx.generationCounters
  setUp : ∀ handle, outcome.handle = some handle →
    SlotSetUp m msgId generation buffer length offer handle m'
  cts : ∀ handle cts, outcome = .ready handle (some cts) →
    cts.msgType = .cts ∧
      cts.params = (negotiate m.conn.connectionCtx.params offer length).withTransferId generation

lemma recvPostOnOffer_spec (m : ReceiverMemory) (msgId : ℕ) (generation : U32) (buffer length : ℕ)
    (offer : ConnectionParams) (opened : Bool) (answer : ℤ) :
    OfferSpec m msgId generation buffer length offer
      (recvPostOnOffer m msgId generation buffer length offer opened answer).1
      (recvPostOnOffer m msgId generation buffer length offer opened answer).2 := by
  unfold recvPostOnOffer
  dsimp only
  split
  · exact ⟨rfl, rfl, rfl, fun _ => ⟨rfl, rfl⟩, fun _ h => (nomatch h), fun _ _ h => (nomatch h)⟩
  · rename_i msg ctx hslot
    obtain ⟨hlt, hfree, hgen, hstate, -, -, rfl⟩ :=
      ConnectionContext.allocateMessageSlot_eq_some hslot
    have hset : ∀ (handle : SDRRecvHandle) (m' : ReceiverMemory),
        handle = ⟨msgId, generation, buffer, length⟩ →
        m'.conn.connectionCtx.msgTable = Function.update m.conn.connectionCtx.msgTable msgId
          (some (initMessage msg buffer length
            ((negotiate m.conn.connectionCtx.params offer length).withTransferId generation))) →
        m'.conn.connectionCtx.generationCounters
          = Function.update m.conn.connectionCtx.generationCounters msgId
            (m.conn.connectionCtx.generationCounters msgId + 1) →
        SlotSetUp m msgId generation buffer length offer handle m' :=
      fun handle m' hh ht hc => ⟨hlt, hfree, hh, ⟨msg, ht, hgen, hstate⟩, hc⟩
    have htable : ∀ x y : Option MessageContext, Function.update
        (Function.update m.conn.connectionCtx.msgTable msgId x) msgId y
          = Function.update m.conn.connectionCtx.msgTable msgId y :=
      fun x y => Function.update_idem _ _ _
    split_ifs with hstart
    · refine ⟨rfl, rfl, rfl, fun h => (nomatch h), fun handle h => ?_, fun _ _ h => (nomatch h)⟩
      exact hset handle _ (Option.some.inj h).symm (htable _ _) rfl
    · split
      · refine ⟨rfl, rfl, rfl, fun h => (nomatch h), fun handle h => ?_, fun _ _ h => ?_⟩
        · exact hset handle _ (Option.some.inj h).symm (htable _ _) rfl
        · exact absurd (OfferOutcome.ready.inj h).2 (by simp)
      · split_ifs with hfd hsent
        · refine ⟨rfl, rfl, rfl, fun h => (nomatch h), fun handle h => ?_, fun _ _ h => ?_⟩
          · exact hset handle _ (Option.some.inj h).symm (htable _ _) rfl
          · exact absurd (OfferOutcome.ready.inj h).2 (by simp)
        · refine ⟨by simp, by simp, by rw [ReceiverMemory.sendMessage_connectionCtx]; rfl,
            fun h => (nomatch h), fun handle h => ?_,
            fun _ _ h => (nomatch h)⟩
          refine hset handle _ (Option.some.inj h).symm ?_ ?_
          · rw [ReceiverMemory.sendMessage_connectionCtx]; exact htable _ _
          · rw [ReceiverMemory.sendMessage_connectionCtx]; rfl
        · refine ⟨by simp, by simp, by rw [ReceiverMemory.sendMessage_connectionCtx]; rfl,
            fun h => (nomatch h), fun handle h => ?_,
            fun _ cts h => ?_⟩
          · refine hset handle _ (Option.some.inj h).symm ?_ ?_
            · rw [ReceiverMemory.sendMessage_connectionCtx]; exact htable _ _
            · rw [ReceiverMemory.sendMessage_connectionCtx]; rfl
          · obtain rfl := Option.some.inj (OfferOutcome.ready.inj h).2
            exact ⟨rfl, rfl⟩

/-! ### Whole calls -/

/-- The receiving process: the generation counter is shared by all its connections. -/
structure ReceiverProcess where
  receiverGenerationCounter : U32
  contexts : ℕ → SDRContext
  connections : ℕ → ReceiverMemory

/-- What came of a call of `sdr_recv_post`: it returned -1 without or with a message id drawn, it
still waits, or it returned 0. -/
inductive RecvPostResult where
  | invalid
  | noOffer
  | awaitsOffer
  | refused (msgId : ℕ)
  | failed (handle : SDRRecvHandle)
  | awaitsAccept (handle : SDRRecvHandle) (cts : Option ControlMessage)
  | noAccept (handle : SDRRecvHandle) (cts : Option ControlMessage)
  | posted (handle : SDRRecvHandle) (cts : Option ControlMessage)
  deriving DecidableEq

namespace ReceiverProcess

/-- The receive loop saw the connection closed. -/
def closeServer (m : ReceiverMemory) : ReceiverMemory :=
  { m with conn.tcpServer := m.conn.tcpServer.map fun s => { s with clientFd := -1 } }

def setConnection (p : ReceiverProcess) (i : ℕ) (m : ReceiverMemory) : ReceiverProcess :=
  { p with connections := Function.update p.connections i m }

/-- `sdr_recv_post` once the OFFER is there: ids are drawn, the slot is set up, the CTS sent. -/
def onOffer (p : ReceiverProcess) (i buffer length : ℕ) (offer : ConnectionParams) (opened : Bool)
    (answer : ℤ) : ℕ × OfferOutcome × ReceiverProcess :=
  let m := p.connections i
  let drawn := allocateMsgId (p.contexts m.conn.parentCtx)
  let result := recvPostOnOffer m drawn.1 p.receiverGenerationCounter buffer length offer opened
    answer
  (drawn.1, result.1,
    { receiverGenerationCounter := p.receiverGenerationCounter + 1
      contexts := Function.update p.contexts m.conn.parentCtx drawn.2
      connections := Function.update p.connections i result.2 })

/-- `sdr_recv_post` on connection `i`; `received` lists what the calls of `receive_message` find. -/
def sdrRecvPost (p : ReceiverProcess) (i buffer length : ℕ) (received : List Received)
    (opened : Bool) (answer : ℤ) : RecvPostResult × ReceiverProcess :=
  let conn := (p.connections i).conn
  if length = 0 ∨ conn.isReceiver = false ∨ conn.tcpServer.isNone then (.invalid, p)
  else match waitFor .offer received with
    | none                       => (.awaitsOffer, p)
    | some (none, _)             => (.noOffer, p.setConnection i (closeServer (p.connections i)))
    | some (some offer, received) =>
      match p.onOffer i buffer length offer.params opened answer with
      | (msgId, .refused, p)        => (.refused msgId, p)
      | (_, .failed handle, p)      => (.failed handle, p)
      | (_, .ready handle cts, p)   =>
        match waitFor .accept received with
        | none                => (.awaitsAccept handle cts, p)
        | some (none, _)      =>
          (.noAccept handle cts, p.setConnection i (closeServer (p.connections i)))
        | some (some _, _)    => (.posted handle cts, p)

/-- `sdr_recv_complete`, called where no other thread works on the message: `stop_polling` returns
once the poller is gone, and the rest runs through. -/
def sdrRecvComplete (p : ReceiverProcess) (i : ℕ) (handle : SDRRecvHandle) (answer : ℤ) :
    ReceiverProcess :=
  let joined := (p.connections i).mapFrontend handle.msgId fun f => { f with polling := false }
  match (SdrUdp.sdrRecvComplete handle answer).run joined with
  | none        => p
  | some (_, m) => p.setConnection i m

def releaseMessage (p : ReceiverProcess) (i msgId : ℕ) : ReceiverProcess :=
  let m := p.connections i
  p.setConnection i { m with conn.connectionCtx := m.conn.connectionCtx.releaseMessage msgId }

end ReceiverProcess

/-- A call of the receiving application. -/
inductive Call where
  | recvPost (i buffer length : ℕ) (received : List Received) (opened : Bool) (answer : ℤ)
  | recvComplete (i : ℕ) (handle : SDRRecvHandle) (answer : ℤ)
  | releaseMessage (i msgId : ℕ)

end SdrUdp
