import SdrUdp.SendPost

/-!
# Handshakes and completions of several connections

Both ends of every connection call the API in any order, while the receivers' threads work. A
message id is drawn from the context a connection belongs to, on each side at its own moment.
Completion messages travel on the same stream as the CTS of the next handshake.
-/

namespace SdrUdp

open SdrUdp.Core

/-- A message on its way to the sender, and the number of the receive it was sent for. -/
structure InFlight where
  message : ControlMessage
  post : ℕ

/-- A receive that has sent its CTS. `draws` ids were drawn from its context before its own, and
`generation` is the one that its slot was given. -/
structure PostedRecv where
  handle : SDRRecvHandle
  draws : ℕ
  generation : U32

/-- A send that has got its handle from the CTS of receive number `post`. -/
structure PostedSend where
  post : ℕ
  handle : SDRSendHandle
  packets : List SDRPacket

/-- Where the receiving application is. -/
inductive ReceivePhase where
  | idle
  | awaitsOffer (buffer length : ℕ)
  | awaitsAccept

/-- Where the sending application is. -/
inductive SendPhase where
  | idle
  | awaitsCts (data : List U8)
  | gotCts (data : List U8) (cts : InFlight)
  | polling (send : ℕ)

/-- A connection with both its ends. `posts` and `sends` are the handles given out so far, `failed`
those that a receive had stored before it failed, `completes` the receives whose completion message
was sent, and `consumed` the completion messages taken: by the poll of which send, or by a
handshake, and about which receive. -/
structure Session where
  receiver : ReceiverMemory
  sender : SDRConnection
  receiving : ReceivePhase
  sending : SendPhase
  toReceiver : List ControlMessage
  toSender : List InFlight
  posts : List PostedRecv
  sends : List PostedSend
  failed : List SDRRecvHandle
  completes : List ℕ
  consumed : List (Option ℕ × ℕ)

/-- What happens on a connection. -/
inductive SessionEvent where
  | recvPost (buffer length : ℕ)
  | takeOffer (generation : U32) (opened : Bool) (answer : ℤ)
  | takeAccept
  | receiverLost
  | packet (bytes : List U8)
  | poll (msgId : ℕ)
  | recvComplete (post : ℕ) (answer : ℤ)
  | sendPost (data : List U8) (answer : ℤ)
  | takeCts (answer : ℤ)
  | finishSend (socketReady : Bool)
  | sendPoll (send : ℕ)
  | takeCompletion
  | senderLost

/-- The messages that `sdr_send_poll` waits for. -/
def ControlMessage.isCompletion (msg : ControlMessage) : Bool :=
  msg.msgType = .completeAck ∨ msg.msgType = .incompleteNack

namespace Session

/-- A connection on which nothing was called yet. -/
def fresh (receiver : ReceiverMemory) (sender : SDRConnection) : Session where
  receiver
  sender
  receiving := .idle
  sending := .idle
  toReceiver := []
  toSender := []
  posts := []
  sends := []
  failed := []
  completes := []
  consumed := []

/-! ### The receiving end -/

/-- `receive_message` of the server can still return something. -/
def serverOpen (s : Session) : Bool := s.receiver.conn.tcpServer.any fun t =>
  decide (0 ≤ t.clientFd)

/-- `sdr_recv_post` up to its first `receive_message`. -/
def recvPost (s : Session) (buffer length : ℕ) : Session :=
  match s.receiving with
  | .idle =>
    if length = 0 ∨ s.receiver.conn.isReceiver = false ∨ s.receiver.conn.tcpServer.isNone then s
    else { s with receiving := .awaitsOffer buffer length }
  | _ => s

/-- `sdr_recv_post` takes a message while it waits for an OFFER. `msgId` is the id that its context
would give, and `draws` counts the ids drawn before. -/
def takeOffer (s : Session) (msgId draws : ℕ) (generation : U32) (opened : Bool) (answer : ℤ) :
    Session :=
  match s.receiving, s.toReceiver with
  | .awaitsOffer buffer length, msg :: rest =>
    if s.serverOpen = false then s
    else if msg.msgType ≠ .offer then { s with toReceiver := rest }
    else
      match recvPostOnOffer s.receiver msgId generation buffer length msg.params opened answer with
      | (.ready handle (some cts), m) =>
        { s with
          receiver := m
          receiving := .awaitsAccept
          toReceiver := rest
          toSender := s.toSender ++ [⟨cts, s.posts.length⟩]
          posts := s.posts
            ++ [⟨handle, draws, s.receiver.conn.connectionCtx.generationCounters msgId⟩] }
      | (outcome, m) =>
        { s with
          receiver := m
          receiving := .idle
          toReceiver := rest
          failed := s.failed ++ outcome.handle.toList }
  | _, _ => s

/-- `takeOffer` draws an id. -/
def drawsOnOffer (s : Session) : Bool :=
  match s.receiving, s.toReceiver with
  | .awaitsOffer _ _, msg :: _ => s.serverOpen && decide (msg.msgType = .offer)
  | _, _ => false

/-- `sdr_recv_post` takes a message while it waits for the ACCEPT. -/
def takeAccept (s : Session) : Session :=
  match s.receiving, s.toReceiver with
  | .awaitsAccept, msg :: rest =>
    if s.serverOpen = false then s
    else if msg.msgType = .accept then { s with receiving := .idle, toReceiver := rest }
    else { s with toReceiver := rest }
  | _, _ => s

/-- The receiver finds the connection closed, and a waiting `sdr_recv_post` fails. -/
def receiverLost (s : Session) : Session :=
  { s with
    receiver := ReceiverProcess.closeServer s.receiver
    receiving := .idle }

/-- A thread of the receiver runs `p`. -/
def run (s : Session) (p : Prog ReceiverMemory PUnit) : Session :=
  match p.run s.receiver with
  | none        => s
  | some (_, m) => { s with receiver := m }

/-- `sdr_recv_complete` of receive number `post`; the poller has left by the time its message is
sent. -/
def recvComplete (s : Session) (post : ℕ) (answer : ℤ) : Session :=
  match s.posts[post]? with
  | none   => s
  | some p =>
    let joined := s.receiver.mapFrontend p.handle.msgId fun f => { f with polling := false }
    match (sdrRecvComplete p.handle answer).run joined with
    | none        => s
    | some (_, m) =>
      let new := m.sent.drop s.receiver.sent.length
      { s with
        receiver := m
        toSender := s.toSender ++ new.map fun msg => ⟨msg, post⟩
        completes := s.completes ++ new.map fun _ => post }

/-! ### The sending end -/

def clientOpen (s : Session) : Bool := s.sender.tcpClient.any TCPControlClient.isConnected

/-- The client sends a message, `answer` being what `send` returns. -/
def clientSends (s : Session) (msg : ControlMessage) (answer : ℤ) : Bool × Session :=
  match s.sender.tcpClient with
  | none        => (false, s)
  | some client =>
    let result := client.sendMessage msg answer
    (result.1,
      { s with
        sender.tcpClient := some result.2.1
        toReceiver := if result.1 then s.toReceiver ++ [msg] else s.toReceiver })

/-- `sdr_send_post` up to its first `receive_message`. -/
def sendPost (s : Session) (data : List U8) (answer : ℤ) : Session :=
  match s.sending with
  | .idle =>
    if canOffer s.sender data.length = false then s
    else
      let result := s.clientSends (offerMessage s.sender.connectionCtx data.length) answer
      if result.1 then { result.2 with sending := .awaitsCts data } else result.2
  | _ => s

/-- A completion message that a loop has taken is gone. -/
def consume (s : Session) (taker : Option ℕ) (f : InFlight) : List (Option ℕ × ℕ) :=
  if f.message.isCompletion then s.consumed ++ [(taker, f.post)] else s.consumed

/-- `sdr_send_post` takes a message while it waits for a CTS, and answers the CTS. -/
def takeCts (s : Session) (answer : ℤ) : Session :=
  match s.sending, s.toSender with
  | .awaitsCts data, f :: rest =>
    if s.clientOpen = false then s
    else if f.message.msgType ≠ .cts then
      { s with toSender := rest, consumed := s.consume none f }
    else
      let s := (s.clientSends (acceptMessage f.message) answer).2
      { s with toSender := rest, sending := .gotCts data f }
  | _, _ => s

/-- The rest of `sdr_send_post`, with the id that its context would give. -/
def finishSend (s : Session) (msgId : ℕ) (socketReady : Bool) : Session :=
  match s.sending with
  | .gotCts data cts =>
    match sendPostOnCts s.sender msgId data cts.message socketReady with
    | (.sent handle packets, conn) =>
      { s with
        sender := conn
        sending := .idle
        sends := s.sends ++ [⟨cts.post, handle, packets⟩] }
    | (_, conn) => { s with sender := conn, sending := .idle }
  | _ => s

/-- `finishSend` draws an id. -/
def drawsOnFinish (s : Session) : Bool :=
  match s.sending with
  | .gotCts _ cts =>
    decide (cts.message.params.mtuBytes ≠ 0) && decide (cts.message.params.packetsPerChunk ≠ 0)
  | _ => false

/-- `sdr_send_poll` of send number `send` up to its first `receive_message`. -/
def sendPoll (s : Session) (send : ℕ) : Session :=
  match s.sending with
  | .idle => if s.clientOpen ∧ send < s.sends.length then { s with sending := .polling send } else s
  | _ => s

/-- `sdr_send_poll` takes a message. -/
def takeCompletion (s : Session) : Session :=
  match s.sending, s.toSender with
  | .polling send, f :: rest =>
    if s.clientOpen = false then s
    else
      { s with
        toSender := rest
        consumed := s.consume (some send) f
        sending := if f.message.isCompletion then .idle else .polling send }
  | _, _ => s

/-- The sender finds the connection closed, and a waiting call fails. -/
def senderLost (s : Session) : Session :=
  match s.sending with
  | .awaitsCts _ | .polling _ =>
    { s with
      sender.tcpClient := s.sender.tcpClient.map fun c => { c with isConnected := false }
      sending := .idle }
  | _ => s

/-- One event on the connection. `recvId` and `sendId` are the ids that the contexts of the two ends
would give, and `draws` counts the ids that were drawn from the receiver's. -/
def step (s : Session) (recvId draws sendId : ℕ) : SessionEvent → Session
  | .recvPost buffer length             => s.recvPost buffer length
  | .takeOffer generation opened answer => s.takeOffer recvId draws generation opened answer
  | .takeAccept                         => s.takeAccept
  | .receiverLost                       => s.receiverLost
  | .packet bytes                       => s.run (receiveDatagram bytes)
  | .poll msgId                         => s.run (pollingRound msgId)
  | .recvComplete post answer           => s.recvComplete post answer
  | .sendPost data answer               => s.sendPost data answer
  | .takeCts answer                     => s.takeCts answer
  | .finishSend socketReady             => s.finishSend sendId socketReady
  | .sendPoll send                      => s.sendPoll send
  | .takeCompletion                     => s.takeCompletion
  | .senderLost                         => s.senderLost

/-- The context that an event draws an id from. -/
def drawn (s : Session) : SessionEvent → Option ℕ
  | .takeOffer _ _ _ => if s.drawsOnOffer then some s.receiver.conn.parentCtx else none
  | .finishSend _    => if s.drawsOnFinish then some s.sender.parentCtx else none
  | _                => none

end Session

/-- Any number of connections over any number of contexts; `draws` counts the ids drawn from
each. -/
structure Network where
  contexts : ℕ → SDRContext
  draws : ℕ → ℕ
  sessions : ℕ → Session

namespace Network

/-- One event on connection `e.1`. -/
def step (w : Network) (e : ℕ × SessionEvent) : Network :=
  let s := w.sessions e.1
  let recvCtx := s.receiver.conn.parentCtx
  let w' := { w with
    sessions := Function.update w.sessions e.1 (s.step (allocateMsgId (w.contexts recvCtx)).1
      (w.draws recvCtx) (allocateMsgId (w.contexts s.sender.parentCtx)).1 e.2) }
  match s.drawn e.2 with
  | none   => w'
  | some c =>
    { w' with
      contexts := Function.update w.contexts c (allocateMsgId (w.contexts c)).2
      draws := Function.update w.draws c (w.draws c + 1) }

/-- Fresh contexts and fresh connections. -/
structure Initial (w : Network) : Prop where
  contexts : ∀ c, w.contexts c = ⟨0⟩
  draws : ∀ c, w.draws c = 0
  sessions : ∀ i, ∃ receiver sender, w.sessions i = .fresh receiver sender

end Network

/-! ### What an event can do -/

namespace Session

/-- What an event does to the handles and to the stream towards the sender. -/
inductive Effect (s : Session) (recvId draws sendId : ℕ) : SessionEvent → Session → Prop
  | quiet {e : SessionEvent} {s' : Session} (posts : s'.posts = s.posts)
    (sends : s'.sends = s.sends)
      (toSender : s'.toSender = s.toSender) (completes : s'.completes = s.completes)
      (consumed : s'.consumed = s.consumed)
      (sending : s'.sending = s.sending ∨ ∀ data f, s'.sending ≠ .gotCts data f)
      (polling : ∀ send, s'.sending = .polling send →
        s.sending = .polling send ∨ send < s.sends.length)
      (finish : ∀ ready data f, e = .finishSend ready → s.sending ≠ .gotCts data f)
      (poll : e = .takeCompletion → ∀ send f rest, s.sending = .polling send →
        s.toSender = f :: rest → s.clientOpen = false) :
      Effect s recvId draws sendId e s'
  | posted {generation : U32} {opened : Bool} {answer : ℤ} {s' : Session}
      (handle : SDRRecvHandle) (cts : ControlMessage) (slotGeneration : U32)
      (msgId : handle.msgId = recvId) (type : cts.msgType = .cts)
      (posts : s'.posts = s.posts ++ [⟨handle, draws, slotGeneration⟩])
      (toSender : s'.toSender = s.toSender ++ [⟨cts, s.posts.length⟩])
      (sends : s'.sends = s.sends) (completes : s'.completes = s.completes)
      (consumed : s'.consumed = s.consumed) (sending : s'.sending = s.sending) :
      Effect s recvId draws sendId (.takeOffer generation opened answer) s'
  | completed {post : ℕ} {answer : ℤ} {s' : Session} (new : List ControlMessage)
      (lt : post < s.posts.length)
      (type : ∀ msg ∈ new, msg.isCompletion = true)
      (toSender : s'.toSender = s.toSender ++ new.map fun msg => ⟨msg, post⟩)
      (completes : s'.completes = s.completes ++ new.map fun _ => post)
      (posts : s'.posts = s.posts) (sends : s'.sends = s.sends)
      (consumed : s'.consumed = s.consumed) (sending : s'.sending = s.sending) :
      Effect s recvId draws sendId (.recvComplete post answer) s'
  | gotCts {answer : ℤ} {s' : Session} (data : List U8) (f : InFlight)
      (queue : s.toSender = f :: s'.toSender)
      (type : f.message.msgType = .cts) (sending : s'.sending = .gotCts data f)
      (posts : s'.posts = s.posts) (sends : s'.sends = s.sends)
      (completes : s'.completes = s.completes) (consumed : s'.consumed = s.consumed) :
      Effect s recvId draws sendId (.takeCts answer) s'
  | skipped {answer : ℤ} {s' : Session} (f : InFlight) (queue : s.toSender = f :: s'.toSender)
      (consumed : s'.consumed = s.consume none f) (sending : s'.sending = s.sending)
      (posts : s'.posts = s.posts) (sends : s'.sends = s.sends)
      (completes : s'.completes = s.completes) :
      Effect s recvId draws sendId (.takeCts answer) s'
  | sent {ready : Bool} {s' : Session} (data : List U8) (f : InFlight) (handle : SDRSendHandle)
      (packets : List SDRPacket) (got : s.sending = .gotCts data f)
      (mtuBytes : f.message.params.mtuBytes ≠ 0)
      (packetsPerChunk : f.message.params.packetsPerChunk ≠ 0) (socket : ready = true)
      (msgId : handle.msgId = sendId) (generation : handle.generation = f.message.params.transferId)
      (named : ∀ p ∈ packets, p.header.msgId = BitVec.ofNat 10 sendId ∧
        p.header.transferId = f.message.params.transferId)
      (sends : s'.sends = s.sends ++ [⟨f.post, handle, packets⟩]) (sending : s'.sending = .idle)
      (posts : s'.posts = s.posts) (toSender : s'.toSender = s.toSender)
      (completes : s'.completes = s.completes) (consumed : s'.consumed = s.consumed) :
      Effect s recvId draws sendId (.finishSend ready) s'
  | unsent {ready : Bool} {s' : Session} (data : List U8) (f : InFlight)
      (got : s.sending = .gotCts data f)
      (failed : ¬ (f.message.params.mtuBytes ≠ 0 ∧ f.message.params.packetsPerChunk ≠ 0 ∧
        ready = true))
      (sends : s'.sends = s.sends) (sending : s'.sending = .idle)
      (posts : s'.posts = s.posts) (toSender : s'.toSender = s.toSender)
      (completes : s'.completes = s.completes) (consumed : s'.consumed = s.consumed) :
      Effect s recvId draws sendId (.finishSend ready) s'
  | polled {s' : Session} (send : ℕ) (f : InFlight) (polling : s.sending = .polling send)
      (clientOpen : s.clientOpen = true) (queue : s.toSender = f :: s'.toSender)
      (consumed : s'.consumed = s.consume (some send) f)
      (sending : s'.sending = .idle ∨ s'.sending = s.sending)
      (posts : s'.posts = s.posts) (sends : s'.sends = s.sends)
      (completes : s'.completes = s.completes) :
      Effect s recvId draws sendId .takeCompletion s'

variable {s s' : Session} {recvId draws sendId : ℕ}

/-- Events other than the end of a handshake and the turn of a poll that leave all of this alone. -/
lemma Effect.of_quiet {e : SessionEvent} (hfinish : ∀ ready, e ≠ .finishSend ready)
    (hpoll : e ≠ .takeCompletion) (posts : s'.posts = s.posts) (sends : s'.sends = s.sends)
    (toSender : s'.toSender = s.toSender) (completes : s'.completes = s.completes)
    (consumed : s'.consumed = s.consumed) (sending : s'.sending = s.sending) :
    Effect s recvId draws sendId e s' :=
  .quiet posts sends toSender completes consumed (Or.inl sending) (fun _ h => Or.inl (sending ▸ h))
    (fun ready _ _ h => absurd h (hfinish ready)) fun h => absurd h hpoll

lemma Effect.notGot {f : InFlight} {send : ℕ} (hpolling : s.sending = .polling send)
    (h : s'.sending = .idle ∨ s'.sending = s.sending) (data : List U8) :
    s'.sending ≠ .gotCts data f := by
  rcases h with h | h
  · rw [h]
    exact SendPhase.noConfusion
  · rw [h, hpolling]
    exact SendPhase.noConfusion

lemma recvPost_effect (buffer length : ℕ) :
    Effect s recvId draws sendId (.recvPost buffer length) (s.recvPost buffer length) := by
  unfold recvPost
  split
  · split_ifs <;> exact .of_quiet (by simp) (by simp) rfl rfl rfl rfl rfl rfl
  · exact .of_quiet (by simp) (by simp) rfl rfl rfl rfl rfl rfl

lemma takeAccept_effect : Effect s recvId draws sendId .takeAccept s.takeAccept := by
  unfold takeAccept
  split
  · split_ifs <;> exact .of_quiet (by simp) (by simp) rfl rfl rfl rfl rfl rfl
  · exact .of_quiet (by simp) (by simp) rfl rfl rfl rfl rfl rfl

lemma run_effect {e : SessionEvent} (hfinish : ∀ ready, e ≠ .finishSend ready)
    (hpoll : e ≠ .takeCompletion) (p : Prog ReceiverMemory PUnit) :
    Effect s recvId draws sendId e (s.run p) := by
  unfold run
  split <;> exact .of_quiet hfinish hpoll rfl rfl rfl rfl rfl rfl

lemma takeOffer_effect (generation : U32) (opened : Bool) (answer : ℤ) :
    Effect s recvId draws sendId (.takeOffer generation opened answer)
      (s.takeOffer recvId draws generation opened answer) := by
  unfold takeOffer
  split
  · rename_i buffer length msg rest _ _
    split_ifs
    · exact .of_quiet (by simp) (by simp) rfl rfl rfl rfl rfl rfl
    · exact .of_quiet (by simp) (by simp) rfl rfl rfl rfl rfl rfl
    · have hspec := recvPostOnOffer_spec s.receiver recvId generation buffer length msg.params
        opened answer
      split
      · rename_i handle cts m hout
        rw [hout] at hspec
        refine .posted handle cts _ ?_ (hspec.cts handle cts rfl).1 rfl rfl rfl rfl rfl rfl
        rw [(hspec.setUp handle rfl).handle]
      · exact .of_quiet (by simp) (by simp) rfl rfl rfl rfl rfl rfl
  · exact .of_quiet (by simp) (by simp) rfl rfl rfl rfl rfl rfl

lemma recvComplete_effect (post : ℕ) (answer : ℤ) :
    Effect s recvId draws sendId (.recvComplete post answer) (s.recvComplete post answer) := by
  unfold recvComplete
  split
  · exact .of_quiet (by simp) (by simp) rfl rfl rfl rfl rfl rfl
  · rename_i p hp
    have hlt : post < s.posts.length := (List.getElem?_eq_some_iff.mp hp).1
    obtain ⟨isComplete, hrun⟩ := run_sdrRecvComplete
      (any_polling_joined p.handle.msgId s.receiver) answer
    dsimp only
    rw [hrun]
    dsimp only
    refine .completed _ hlt (fun msg hmsg => ?_) rfl rfl rfl rfl rfl rfl
    have hsent := ReceiverMemory.sendMessage_sent
      ((s.receiver.mapFrontend p.handle.msgId fun f => { f with polling := false }).completeMessage
        p.handle.msgId) (completionMessage ((s.receiver.mapFrontend p.handle.msgId fun f =>
          { f with polling := false }).completeMessage
            p.handle.msgId).conn.connectionCtx.connectionId isComplete) answer
    have hold : ((s.receiver.mapFrontend p.handle.msgId fun f =>
        { f with polling := false }).completeMessage p.handle.msgId).sent = s.receiver.sent := rfl
    rw [hold] at hsent
    rcases hsent with hsent | hsent
    · rw [hsent, List.drop_length] at hmsg
      exact absurd hmsg List.not_mem_nil
    · rw [hsent, List.drop_left] at hmsg
      rw [List.mem_singleton.mp hmsg]
      cases isComplete <;> rfl

lemma clientSends_frame (msg : ControlMessage) (answer : ℤ) :
    (s.clientSends msg answer).2.posts = s.posts ∧ (s.clientSends msg answer).2.sends = s.sends ∧
      (s.clientSends msg answer).2.toSender = s.toSender ∧
      (s.clientSends msg answer).2.completes = s.completes ∧
      (s.clientSends msg answer).2.consumed = s.consumed ∧
      (s.clientSends msg answer).2.sending = s.sending := by
  unfold clientSends
  split <;> exact ⟨rfl, rfl, rfl, rfl, rfl, rfl⟩

lemma sendPost_effect (data : List U8) (answer : ℤ) :
    Effect s recvId draws sendId (.sendPost data answer) (s.sendPost data answer) := by
  unfold sendPost
  split
  · split_ifs
    · exact .of_quiet (by simp) (by simp) rfl rfl rfl rfl rfl rfl
    · obtain ⟨hposts, hsends, htoSender, hcompletes, hconsumed, hsending⟩ := s.clientSends_frame
        (offerMessage s.sender.connectionCtx data.length) answer
      dsimp only
      split_ifs
      · exact .quiet hposts hsends htoSender hcompletes hconsumed
          (Or.inr fun _ _ h => SendPhase.noConfusion h) (fun _ h => SendPhase.noConfusion h)
          (by simp) (by simp)
      · exact .of_quiet (by simp) (by simp) hposts hsends htoSender hcompletes hconsumed hsending
  · exact .of_quiet (by simp) (by simp) rfl rfl rfl rfl rfl rfl

lemma takeCts_effect (answer : ℤ) :
    Effect s recvId draws sendId (.takeCts answer) (s.takeCts answer) := by
  unfold takeCts
  split
  · rename_i data f rest hsending hqueue
    split_ifs with hopen htype
    · exact .of_quiet (by simp) (by simp) rfl rfl rfl rfl rfl rfl
    · exact .skipped f hqueue rfl rfl rfl rfl rfl
    · obtain ⟨hposts, hsends, -, hcompletes, hconsumed, -⟩ := s.clientSends_frame
        (acceptMessage f.message) answer
      exact .gotCts data f hqueue (not_not.mp htype) rfl hposts hsends hcompletes hconsumed
  · exact .of_quiet (by simp) (by simp) rfl rfl rfl rfl rfl rfl

lemma sendPoll_effect (send : ℕ) :
    Effect s recvId draws sendId (.sendPoll send) (s.sendPoll send) := by
  unfold sendPoll
  split
  · split_ifs with hcan
    · refine .quiet rfl rfl rfl rfl rfl (Or.inr fun _ _ h => SendPhase.noConfusion h)
        (fun n h => Or.inr ?_) (by simp) (by simp)
      exact SendPhase.polling.inj h ▸ hcan.2
    · exact .of_quiet (by simp) (by simp) rfl rfl rfl rfl rfl rfl
  · exact .of_quiet (by simp) (by simp) rfl rfl rfl rfl rfl rfl

lemma takeCompletion_effect : Effect s recvId draws sendId .takeCompletion s.takeCompletion := by
  unfold takeCompletion
  split
  · rename_i send f rest hpolling hqueue
    by_cases hclosed : s.clientOpen = false
    · rw [if_pos hclosed]
      exact .quiet rfl rfl rfl rfl rfl (Or.inl rfl) (fun _ h => Or.inl h) (by simp)
        fun _ _ _ _ _ _ => hclosed
    · rw [if_neg hclosed]
      refine .polled send f hpolling (Bool.eq_true_of_not_eq_false hclosed) hqueue rfl ?_ rfl
        rfl rfl
      dsimp only
      split_ifs
      · exact Or.inl rfl
      · exact Or.inr hpolling.symm
  · rename_i hnone
    exact .quiet rfl rfl rfl rfl rfl (Or.inl rfl) (fun _ h => Or.inl h) (by simp)
      fun _ send f rest hpolling hqueue => (hnone send f rest hpolling hqueue).elim

lemma senderLost_effect : Effect s recvId draws sendId .senderLost s.senderLost := by
  unfold senderLost
  split
  · exact .quiet rfl rfl rfl rfl rfl (Or.inr fun _ _ h => SendPhase.noConfusion h)
      (fun _ h => SendPhase.noConfusion h) (by simp) (by simp)
  · exact .quiet rfl rfl rfl rfl rfl (Or.inr fun _ _ h => SendPhase.noConfusion h)
      (fun _ h => SendPhase.noConfusion h) (by simp) (by simp)
  · exact .of_quiet (by simp) (by simp) rfl rfl rfl rfl rfl rfl

end Session

/-- A send gets its handle when the parameters of the CTS can be used and the socket is there. -/
lemma sendPostOnCts_sent (conn : SDRConnection) (msgId : ℕ) (data : List U8) {cts : ControlMessage}
    (hmtu : cts.params.mtuBytes ≠ 0) (hppc : cts.params.packetsPerChunk ≠ 0) :
    ∃ handle packets conn', sendPostOnCts conn msgId data cts true = (.sent handle packets, conn') ∧
      handle.msgId = msgId ∧ handle.generation = cts.params.transferId ∧
      ∀ p ∈ packets, p.header.msgId = BitVec.ofNat 10 msgId ∧
        p.header.transferId = cts.params.transferId := by
  unfold sendPostOnCts
  dsimp only
  rw [if_neg hmtu, if_neg hppc, if_neg (by decide)]
  refine ⟨_, _, _, rfl, rfl, rfl, fun p hp => ?_⟩
  split_ifs at hp
  · exact absurd hp List.not_mem_nil
  · obtain ⟨o, -, hpacket⟩ := List.mem_filterMap.mp hp
    exact (parse_dataPacket hpacket).2.symm

lemma sendPostOnCts_unsent (conn : SDRConnection) (msgId : ℕ) (data : List U8)
    {cts : ControlMessage}
    {socketReady : Bool} (h : ¬ (cts.params.mtuBytes ≠ 0 ∧ cts.params.packetsPerChunk ≠ 0 ∧
      socketReady = true)) (handle : SDRSendHandle) (packets : List SDRPacket)
    (conn' : SDRConnection) :
    sendPostOnCts conn msgId data cts socketReady ≠ (.sent handle packets, conn') := by
  intro heq
  unfold sendPostOnCts at heq
  dsimp only at heq
  split_ifs at heq with hmtu hppc hsocket
  · exact CtsOutcome.noConfusion (congrArg Prod.fst heq)
  · exact CtsOutcome.noConfusion (congrArg Prod.fst heq)
  · exact CtsOutcome.noConfusion (congrArg Prod.fst heq)
  · exact h ⟨hmtu, hppc, Bool.eq_true_of_not_eq_false hsocket⟩
  · exact h ⟨hmtu, hppc, Bool.eq_true_of_not_eq_false hsocket⟩

namespace Session

variable {s s' : Session} {recvId draws sendId : ℕ}

lemma finishSend_effect (socketReady : Bool) :
    Effect s recvId draws sendId (.finishSend socketReady) (s.finishSend sendId socketReady) := by
  unfold finishSend
  split
  · rename_i data f hgot
    by_cases hok : f.message.params.mtuBytes ≠ 0 ∧ f.message.params.packetsPerChunk ≠ 0 ∧
      socketReady = true
    · obtain ⟨hmtu, hppc, rfl⟩ := hok
      obtain ⟨handle, packets, conn, hsent, hid, hgeneration, hnamed⟩ :=
        sendPostOnCts_sent s.sender sendId data hmtu hppc
      rw [hsent]
      exact .sent data f handle packets hgot hmtu hppc rfl hid hgeneration hnamed rfl rfl rfl rfl
        rfl rfl
    · split
      · rename_i handle packets conn hsent
        exact absurd hsent (sendPostOnCts_unsent _ _ _ hok _ _ _)
      · exact .unsent data f hgot hok rfl rfl rfl rfl rfl rfl
  · rename_i hnone
    exact .quiet rfl rfl rfl rfl rfl (Or.inl rfl) (fun _ h => Or.inl h)
      (fun _ data f _ => hnone data f) (by simp)

/-- The effect of every event. -/
lemma step_effect (s : Session) (recvId draws sendId : ℕ) (e : SessionEvent) :
    Effect s recvId draws sendId e (s.step recvId draws sendId e) := by
  cases e with
  | recvPost buffer length => exact recvPost_effect buffer length
  | takeOffer generation opened answer => exact takeOffer_effect generation opened answer
  | takeAccept => exact takeAccept_effect
  | receiverLost => exact .of_quiet (by simp) (by simp) rfl rfl rfl rfl rfl rfl
  | packet bytes => exact run_effect (by simp) (by simp) _
  | poll msgId => exact run_effect (by simp) (by simp) _
  | recvComplete post answer => exact recvComplete_effect post answer
  | sendPost data answer => exact sendPost_effect data answer
  | takeCts answer => exact takeCts_effect answer
  | finishSend socketReady => exact finishSend_effect socketReady
  | sendPoll send => exact sendPoll_effect send
  | takeCompletion => exact takeCompletion_effect
  | senderLost => exact senderLost_effect

end Session

/-- What holds of every session holds after an event when it holds of the session that had the
event. -/
lemma Network.forall_step_iff {w : Network} {P : Session → Prop} (h : ∀ i, P (w.sessions i))
    (e : ℕ × SessionEvent) :
    (∀ i, P ((w.step e).sessions i)) ↔ P ((w.sessions e.1).step
      (allocateMsgId (w.contexts (w.sessions e.1).receiver.conn.parentCtx)).1
      (w.draws (w.sessions e.1).receiver.conn.parentCtx)
      (allocateMsgId (w.contexts (w.sessions e.1).sender.parentCtx)).1 e.2) := by
  have hsessions : (w.step e).sessions = Function.update w.sessions e.1 ((w.sessions e.1).step
      (allocateMsgId (w.contexts (w.sessions e.1).receiver.conn.parentCtx)).1
      (w.draws (w.sessions e.1).receiver.conn.parentCtx)
      (allocateMsgId (w.contexts (w.sessions e.1).sender.parentCtx)).1 e.2) := by
    unfold step
    dsimp only
    split <;> rfl
  rw [hsessions]
  constructor
  · intro h'
    simpa using h' e.1
  · intro h' i
    by_cases hi : i = e.1
    · subst hi
      rwa [Function.update_self]
    · rw [Function.update_of_ne hi]
      exact h i

end SdrUdp
