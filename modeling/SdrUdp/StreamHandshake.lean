import SdrUdp.StreamPost

/-!
# Establishing a stream

`sdr_send_stream_start` waits for a CTS, `sdr_recv_post` for an OFFER. Both calls run on one fresh
connection, as often and in whatever order their applications like.
-/

namespace SdrUdp

open SdrUdp.Core

/-- Where `sdr_send_stream_start` is. -/
inductive StreamPhase where
  | idle
  | awaitsCts (data : List U8)

/-- Where `sdr_recv_post` is. -/
inductive PostPhase where
  | idle
  | awaitsOffer (buffer length : ℕ)
  | awaitsAccept (handle : SDRRecvHandle) (cts : Option ControlMessage)

/-- The two ends of a connection, the messages under way and what the finished calls returned. -/
structure StreamSetup where
  sender : SDRConnection
  senderCtx : SDRContext
  streaming : StreamPhase
  receiver : ReceiverProcess
  posting : PostPhase
  toSender : List ControlMessage
  toReceiver : List ControlMessage
  streams : List StreamStart
  posts : List RecvPostResult

namespace StreamSetup

/-- A fresh connection: nothing was called, nothing was sent. -/
def fresh (sender : SDRConnection) (senderCtx : SDRContext) (receiver : ReceiverProcess) :
    StreamSetup where
  sender
  senderCtx
  streaming := .idle
  receiver
  posting := .idle
  toSender := []
  toReceiver := []
  streams := []
  posts := []

/-- `sdr_send_stream_start` has its message or gives up; the message id is drawn only after a
CTS. -/
def endStream (s : StreamSetup) (data : List U8) (received : Received) : StreamSetup :=
  let drawn := allocateMsgId s.senderCtx
  let result := streamStartOn s.sender drawn.1 data received
  { s with
    sender := result.2
    senderCtx := if result.1 = .refused then s.senderCtx else drawn.2
    streaming := .idle
    streams := result.1 :: s.streams }

/-- The receive loop of the client saw the connection closed. -/
def closeClient (s : StreamSetup) : StreamSetup :=
  { s with sender.tcpClient := s.sender.tcpClient.map fun c => { c with isConnected := false } }

/-- `sdr_recv_post` ends with `result`. -/
def endPost (s : StreamSetup) (result : RecvPostResult) : StreamSetup :=
  { s with posting := .idle, posts := result :: s.posts }

/-- `sdr_recv_post` on connection `i` has its OFFER. -/
def onOffer (s : StreamSetup) (i buffer length : ℕ) (offer : ControlMessage) (opened : Bool)
    (answer : ℤ) : StreamSetup :=
  match s.receiver.onOffer i buffer length offer.params opened answer with
  | (msgId, .refused, p)      => { s with receiver := p }.endPost (.refused msgId)
  | (_, .failed handle, p)    => { s with receiver := p }.endPost (.failed handle)
  | (_, .ready handle cts, p) =>
    { s with
      receiver := p
      posting := .awaitsAccept handle cts
      toSender := s.toSender ++ cts.toList }

/-- The receive loop of the server saw the connection closed. -/
def closeServer (s : StreamSetup) (i : ℕ) : StreamSetup :=
  { s with
    receiver := s.receiver.setConnection i
      (ReceiverProcess.closeServer (s.receiver.connections i)) }

/-- One step of one of the two calls; the channels are FIFO and lose nothing. -/
inductive Step (i : ℕ) : StreamSetup → StreamSetup → Prop
  | refuseStream {s} (idle : s.streaming = .idle) (hcan : canStream s.sender = false) :
      Step i s { s with streams := .refused :: s.streams }
  | startStream {s} (data : List U8) (idle : s.streaming = .idle)
      (hcan : canStream s.sender = true) :
      Step i s { s with streaming := .awaitsCts data }
  | takeMessage {s} {data : List U8} {msg : ControlMessage} {rest : List ControlMessage}
      (h : s.streaming = .awaitsCts data) (hq : s.toSender = msg :: rest) :
      Step i s ({ s with toSender := rest }.endStream data (.message msg))
  | streamTimeout {s} {data : List U8} (h : s.streaming = .awaitsCts data) :
      Step i s (s.endStream data .timeout)
  | streamClosed {s} {data : List U8} (h : s.streaming = .awaitsCts data) :
      Step i s (s.endStream data .disconnected).closeClient
  | refusePost {s} {length : ℕ} (idle : s.posting = .idle)
      (hinvalid : length = 0 ∨ (s.receiver.connections i).conn.isReceiver = false ∨
        (s.receiver.connections i).conn.tcpServer.isNone) :
      Step i s (s.endPost .invalid)
  | startPost {s} (buffer length : ℕ) (idle : s.posting = .idle)
      (hvalid : ¬ (length = 0 ∨ (s.receiver.connections i).conn.isReceiver = false ∨
        (s.receiver.connections i).conn.tcpServer.isNone)) :
      Step i s { s with posting := .awaitsOffer buffer length }
  | takeOffer {s} {buffer length : ℕ} {msg : ControlMessage} {rest : List ControlMessage}
      (opened : Bool) (answer : ℤ) (h : s.posting = .awaitsOffer buffer length)
      (hq : s.toReceiver = msg :: rest) (htype : msg.msgType = .offer) :
      Step i s ({ s with toReceiver := rest }.onOffer i buffer length msg opened answer)
  | skipBeforeOffer {s} {buffer length : ℕ} {msg : ControlMessage} {rest : List ControlMessage}
      (h : s.posting = .awaitsOffer buffer length) (hq : s.toReceiver = msg :: rest)
      (htype : msg.msgType ≠ .offer) : Step i s { s with toReceiver := rest }
  | noOffer {s} {buffer length : ℕ} (h : s.posting = .awaitsOffer buffer length) :
      Step i s ((s.closeServer i).endPost .noOffer)
  | takeAccept {s} {handle : SDRRecvHandle} {cts : Option ControlMessage} {msg : ControlMessage}
      {rest : List ControlMessage} (h : s.posting = .awaitsAccept handle cts)
      (hq : s.toReceiver = msg :: rest) (htype : msg.msgType = .accept) :
      Step i s ({ s with toReceiver := rest }.endPost (.posted handle cts))
  | skipBeforeAccept {s} {handle : SDRRecvHandle} {cts : Option ControlMessage}
      {msg : ControlMessage} {rest : List ControlMessage} (h : s.posting = .awaitsAccept handle cts)
      (hq : s.toReceiver = msg :: rest) (htype : msg.msgType ≠ .accept) :
      Step i s { s with toReceiver := rest }
  | noAccept {s} {handle : SDRRecvHandle} {cts : Option ControlMessage}
      (h : s.posting = .awaitsAccept handle cts) :
      Step i s ((s.closeServer i).endPost (.noAccept handle cts))

/-- Some run gets both calls to return 0. -/
def Establishes (i : ℕ) (start : StreamSetup) : Prop :=
  ∃ s, Relation.ReflTransGen (Step i) start s ∧
    (∃ handle, StreamStart.started handle ∈ s.streams) ∧
    ∃ handle cts, RecvPostResult.posted handle cts ∈ s.posts

/-! ### Each waits for the other -/

/-- Nobody has sent anything: a call that waits waits for the first message. -/
structure Stuck (s : StreamSetup) : Prop where
  toSender : s.toSender = []
  toReceiver : s.toReceiver = []
  posting : ∀ handle cts, s.posting ≠ .awaitsAccept handle cts
  streams : ∀ handle, StreamStart.started handle ∉ s.streams
  posts : ∀ handle cts, RecvPostResult.posted handle cts ∉ s.posts

variable {i : ℕ} {s s' : StreamSetup}

lemma stuck_fresh (sender : SDRConnection) (senderCtx : SDRContext) (receiver : ReceiverProcess) :
    (fresh sender senderCtx receiver).Stuck :=
  ⟨rfl, rfl, fun _ _ h => PostPhase.noConfusion h, fun _ => List.not_mem_nil,
    fun _ _ => List.not_mem_nil⟩

/-- A call that ends without a message has not succeeded. -/
lemma Stuck.endStream (h : s.Stuck) (data : List U8) {received : Received}
    (hr : received = .timeout ∨ received = .disconnected) : (s.endStream data received).Stuck := by
  refine ⟨h.toSender, h.toReceiver, h.posting, fun handle hmem => ?_, h.posts⟩
  rcases List.mem_cons.mp hmem with hmem | hmem
  · rcases hr with rfl | rfl <;> exact StreamStart.noConfusion hmem
  · exact h.streams handle hmem

lemma Stuck.endPost (h : s.Stuck) {result : RecvPostResult}
    (hr : ∀ handle cts, RecvPostResult.posted handle cts ≠ result) : (s.endPost result).Stuck := by
  refine ⟨h.toSender, h.toReceiver, fun _ _ h => PostPhase.noConfusion h, h.streams,
    fun handle cts hmem => ?_⟩
  rcases List.mem_cons.mp hmem with hmem | hmem
  · exact hr handle cts hmem
  · exact h.posts handle cts hmem

/-- No step gets anybody out. -/
lemma Stuck.step (h : s.Stuck) (hstep : Step i s s') : s'.Stuck := by
  cases hstep with
  | refuseStream idle hcan =>
    refine ⟨h.toSender, h.toReceiver, h.posting, fun handle hmem => ?_, h.posts⟩
    rcases List.mem_cons.mp hmem with hmem | hmem
    · exact StreamStart.noConfusion hmem
    · exact h.streams handle hmem
  | startStream data idle hcan => exact ⟨h.toSender, h.toReceiver, h.posting, h.streams, h.posts⟩
  | takeMessage hs hq => exact absurd (h.toSender.symm.trans hq) (List.cons_ne_nil _ _).symm
  | streamTimeout hs => exact h.endStream _ (Or.inl rfl)
  | streamClosed hs =>
    obtain ⟨h₁, h₂, h₃, h₄, h₅⟩ := h.endStream _ (Or.inr rfl)
    exact ⟨h₁, h₂, h₃, h₄, h₅⟩
  | refusePost idle hinvalid => exact h.endPost fun _ _ => RecvPostResult.noConfusion
  | startPost buffer length idle hvalid =>
    exact ⟨h.toSender, h.toReceiver, fun _ _ h => PostPhase.noConfusion h, h.streams, h.posts⟩
  | takeOffer opened answer hs hq htype =>
    exact absurd (h.toReceiver.symm.trans hq) (List.cons_ne_nil _ _).symm
  | skipBeforeOffer hs hq htype =>
    exact absurd (h.toReceiver.symm.trans hq) (List.cons_ne_nil _ _).symm
  | noOffer hs =>
    have hclosed : (s.closeServer i).Stuck :=
      ⟨h.toSender, h.toReceiver, h.posting, h.streams, h.posts⟩
    exact hclosed.endPost fun _ _ => RecvPostResult.noConfusion
  | takeAccept hs hq htype => exact absurd hs (h.posting _ _)
  | skipBeforeAccept hs hq htype => exact absurd hs (h.posting _ _)
  | noAccept hs => exact absurd hs (h.posting _ _)

lemma Stuck.steps (h : s.Stuck) (hs : Relation.ReflTransGen (Step i) s s') : s'.Stuck := by
  induction hs with
  | refl => exact h
  | tail _ hstep ih => exact ih.step hstep

lemma Stuck.hopeless (h : s.Stuck) : ¬ s.Establishes i := by
  rintro ⟨s', hs, ⟨handle, hmem⟩, -⟩
  exact (h.steps hs).streams handle hmem

/-- Streaming cannot be established: `sdr_send_stream_start` never sends the OFFER that
`sdr_recv_post` waits for before its CTS. -/
theorem not_establishes (i : ℕ) (sender : SDRConnection) (senderCtx : SDRContext)
    (receiver : ReceiverProcess) : ¬ (fresh sender senderCtx receiver).Establishes i :=
  (stuck_fresh sender senderCtx receiver).hopeless

/-- Two connected ends with nothing configured. -/
theorem not_establishes_sample : ¬ (fresh (.idleSender 0) ⟨0⟩
    ⟨1, fun _ => ⟨0⟩, fun _ => .idle⟩).Establishes 0 :=
  (stuck_fresh (.idleSender 0) ⟨0⟩ _).hopeless

/-- What is missing are the two messages of `sdr_send_post`: with an OFFER and an ACCEPT on
their way to a receiver that is ready, both calls return 0. -/
theorem establishes_of_offer {i buffer length : ℕ} {sender : SDRConnection} {senderCtx : SDRContext}
    {receiver receiver' : ReceiverProcess} {offer accept cts : ControlMessage} {opened : Bool}
    {answer : ℤ} {msgId : ℕ} {handle : SDRRecvHandle} (data : List U8)
    (hcan : canStream sender = true)
    (hvalid : ¬ (length = 0 ∨ (receiver.connections i).conn.isReceiver = false ∨
      (receiver.connections i).conn.tcpServer.isNone))
    (hoffer : offer.msgType = .offer) (haccept : accept.msgType = .accept)
    (hready : receiver.onOffer i buffer length offer.params opened answer
      = (msgId, .ready handle (some cts), receiver'))
    (hcts : cts.msgType = .cts) (hmtu : cts.params.mtuBytes ≠ 0) :
    ({ fresh sender senderCtx receiver with toReceiver := [offer, accept] }).Establishes i := by
  obtain ⟨stream, hstream⟩ : ∃ stream, (streamStartOn sender (allocateMsgId senderCtx).1 data
      (.message cts)).1 = .started stream := by
    simp only [streamStartOn, hcts, hmtu, ne_eq, not_true_eq_false, if_false]
    exact ⟨_, rfl⟩
  have hpost : Step i _ _ := .startPost (s := { fresh sender senderCtx receiver with
    toReceiver := [offer, accept] }) buffer length rfl hvalid
  have hsetUp : Step i _ _ := .takeOffer opened answer (s := { fresh sender senderCtx receiver with
    toReceiver := [offer, accept], posting := .awaitsOffer buffer length }) rfl rfl hoffer
  simp only [onOffer, fresh, hready, List.nil_append, Option.toList_some] at hsetUp
  refine ⟨_, .tail (.tail (.tail (.tail (.single hpost) hsetUp) (.takeAccept rfl rfl haccept))
    (.startStream data rfl hcan)) (.takeMessage rfl rfl), ⟨stream, ?_⟩, handle, some cts,
    List.mem_cons_self⟩
  exact List.mem_cons.mpr (Or.inl hstream.symm)

end StreamSetup

end SdrUdp
