import SdrUdp.Matching
import SdrUdp.LengthMismatch
import SdrUdp.SendCommit

/-!
# Handshakes that go through, and one that does not

Each loop that waits for a message of the handshake throws the others away. As long as no connection
is lost and every message leaves whole, a loop meets none but its own, so that the receives and the
sends of a connection pair up in order. An OFFER whose receive cannot be set up leaves the sender
waiting for a CTS that nobody will send.
-/

namespace SdrUdp

open SdrUdp.Core

/-! ### What the ends wait for -/

/-- A receiver that waits for an ACCEPT still has it to come. -/
def ReceivePhase.owed : ReceivePhase → List ControlMsgType
  | .awaitsAccept => [.accept]
  | _             => []

/-- A sender that waits for a CTS has sent an OFFER. -/
def SendPhase.owing : SendPhase → List ControlMsgType
  | .awaitsCts _ => [.offer]
  | _            => []

/-- The parameters of a CTS can be used. -/
def ControlMessage.Usable (cts : ControlMessage) : Prop :=
  cts.params.mtuBytes ≠ 0 ∧ cts.params.packetsPerChunk ≠ 0

namespace Session

/-- Where the handshake of the two ends is: the CTS is under way, or the sender has still to learn
of the receive or has answered. -/
inductive Meeting (s : Session) : Prop
  | apart (noCts : s.ctsQueue = [])
      (stream : s.toReceiver.map ControlMessage.msgType = s.receiving.owed ++ s.sending.owing)
  | together (post : ℕ) (data : List U8) (cts : s.ctsQueue = [post])
      (receiving : s.receiving = .awaitsAccept) (sending : s.sending = .awaitsCts data)
      (stream : s.toReceiver = [])

/-- Two connected ends whose handshakes pair up. -/
structure Paired (s : Session) : Prop where
  serverOpen : s.serverOpen = true
  clientOpen : s.clientOpen = true
  usable : ∀ f ∈ s.toSender, f.message.msgType = .cts → f.message.Usable
  got : ∀ data f, s.sending = .gotCts data f → f.message.Usable
  order : s.ctsOrder = List.range s.posts.length
  meeting : s.Meeting

/-- A message taken by a receiver that waits for an OFFER is answered with a CTS. -/
def answersOffer (s : Session) (recvId : ℕ) (generation : U32) (opened : Bool) (answer : ℤ) :
    Bool :=
  match s.receiving, s.toReceiver with
  | .awaitsOffer buffer length, msg :: _ =>
    match recvPostOnOffer s.receiver recvId generation buffer length msg.params opened answer with
    | (.ready _ (some _), _) => true
    | _                      => false
  | _, _ => true

/-- The event loses no connection, its message leaves whole, and an OFFER that it takes is
answered. -/
def Smooth (s : Session) (recvId : ℕ) : SessionEvent → Prop
  | .takeOffer generation opened answer => s.answersOffer recvId generation opened answer = true
  | .recvComplete _ answer | .sendPost _ answer | .takeCts answer => answer = sizeofControlMessage
  | .finishSend socketReady => socketReady = true
  | .receiverLost | .senderLost => False
  | _ => True

end Session

/-! ### The ends stay connected -/

/-- The control connection of the receiver is there. -/
def ReceiverMemory.Connected (m : ReceiverMemory) : Prop :=
  (m.conn.tcpServer.any fun t => decide (0 ≤ t.clientFd)) = true

lemma ReceiverMemory.Connected.sendMessage {m : ReceiverMemory} (h : m.Connected)
    (msg : ControlMessage) (answer : ℤ) : (m.sendMessage msg answer).Connected := by
  rw [Connected, m.sendMessage_conn msg answer]
  exact h

/-- No action of the receiver closes the control connection. -/
lemma ReceiverAction.connected {act : ReceiverMemory → ReceiverMemory} (h : ReceiverAction act)
    {m : ReceiverMemory} (hm : m.Connected) : (act m).Connected := by
  cases h with
  | verdict isComplete answer => exact hm.sendMessage _ answer
  | skip => exact hm
  | write ptr offset data =>
    cases ptr with
    | user b => exact hm
    | nullSink => exact hm
  | setReceived id offset => exact hm
  | setChunk id c => exact hm
  | stop id => exact hm
  | leave id => exact hm
  | retire id => exact hm

/-- A thread of the receiver that runs to its end leaves the control connection open. -/
lemma ReceiverMemory.Connected.run {p : Prog ReceiverMemory PUnit} (hp : Prog.Uses ReceiverAction p)
    {m m' : ReceiverMemory} (h : m.Connected) (hrun : p.run m = some (⟨⟩, m')) : m'.Connected := by
  have hmeets : Prog.Meets Connected Eq (fun _ _ => True) (fun _ _ => True) p m :=
    hp.meets (fun act hact m hm => ⟨hact.connected hm, trivial⟩) m
  exact (hmeets.of_run h hrun).1

namespace Session

variable {s s' : Session} {recvId draws sendId : ℕ}

lemma run_serverOpen (h : s.serverOpen = true) {p : Prog ReceiverMemory PUnit}
    (hp : Prog.Uses ReceiverAction p) : (s.run p).serverOpen = true := by
  unfold run
  split
  · exact h
  · rename_i m hrun
    exact ReceiverMemory.Connected.run hp h hrun

/-- A message of a connected client leaves whole when `send` takes all of it. -/
lemma clientSends_whole (h : s.clientOpen = true) (msg : ControlMessage) :
    ∃ client, client.isConnected = true ∧ s.clientSends msg sizeofControlMessage
      = (true, { s with
          sender.tcpClient := some client
          toReceiver := s.toReceiver ++ [msg] }) := by
  obtain ⟨client, hclient, hconnected⟩ := (Option.any_eq_true _ _).mp h
  have hsent := (client.sendMessage_iff msg sizeofControlMessage).mpr ⟨hconnected, rfl⟩
  refine ⟨_, client.sendMessage_isConnected hsent, ?_⟩
  unfold clientSends
  rw [hclient]
  dsimp only
  rw [hsent, if_pos rfl]

/-! ### The receiving end -/

lemma ctsQueue_append {new : List InFlight} (htoSender : s'.toSender = s.toSender ++ new) :
    s'.ctsQueue = s.ctsQueue ++
      (new.filter fun f => f.message.msgType = .cts).map InFlight.post := by
  unfold ctsQueue
  rw [htoSender, List.filter_append, List.map_append]

lemma Meeting.congr (h : s.Meeting) (hcts : s'.ctsQueue = s.ctsQueue)
    (hreceiving : s'.receiving = s.receiving) (hsending : s'.sending = s.sending)
    (hstream : s'.toReceiver = s.toReceiver) : s'.Meeting := by
  cases h with
  | apart noCts stream =>
    exact .apart (hcts.trans noCts) (by rw [hstream, hreceiving, hsending, stream])
  | together post data cts receiving sending stream =>
    exact .together post data (hcts.trans cts) (hreceiving.trans receiving) (hsending.trans sending)
      (hstream.trans stream)

lemma Meeting.of_receiving (h : s.Meeting) (hreceiving : s.receiving.owed = []) :
    s.ctsQueue = [] ∧ s.toReceiver.map ControlMessage.msgType = s.sending.owing := by
  cases h with
  | apart noCts stream =>
    rw [hreceiving, List.nil_append] at stream
    exact ⟨noCts, stream⟩
  | together post data cts receiving sending stream =>
    rw [receiving] at hreceiving
    exact absurd hreceiving (List.cons_ne_nil _ _)

lemma Meeting.of_sending (h : s.Meeting) (hsending : s.sending.owing = []) :
    s.ctsQueue = [] ∧ s.toReceiver.map ControlMessage.msgType = s.receiving.owed := by
  cases h with
  | apart noCts stream =>
    rw [hsending, List.append_nil] at stream
    exact ⟨noCts, stream⟩
  | together post data cts receiving sending stream =>
    rw [sending] at hsending
    exact absurd hsending (List.cons_ne_nil _ _)

/-- A receiver that waits for an OFFER finds nothing else. -/
lemma Meeting.offer_next (h : s.Meeting) {buffer length : ℕ} {msg : ControlMessage}
    {rest : List ControlMessage} (hreceiving : s.receiving = .awaitsOffer buffer length)
    (hqueue : s.toReceiver = msg :: rest) :
    msg.msgType = .offer ∧ rest = [] ∧ s.ctsQueue = [] ∧ ∃ data, s.sending = .awaitsCts data := by
  obtain ⟨hno, hstream⟩ := h.of_receiving (by rw [hreceiving]; rfl)
  rw [hqueue, List.map_cons] at hstream
  cases hsending : s.sending with
  | awaitsCts data =>
    rw [hsending] at hstream
    obtain ⟨htype, hrest⟩ := List.cons.inj hstream
    exact ⟨htype, List.map_eq_nil_iff.mp hrest, hno, data, rfl⟩
  | idle =>
    rw [hsending] at hstream
    exact absurd hstream (List.cons_ne_nil _ _)
  | gotCts data cts =>
    rw [hsending] at hstream
    exact absurd hstream (List.cons_ne_nil _ _)
  | polling send =>
    rw [hsending] at hstream
    exact absurd hstream (List.cons_ne_nil _ _)

/-- A receiver that waits for the ACCEPT finds it before anything else. -/
lemma Meeting.accept_next (h : s.Meeting) {msg : ControlMessage} {rest : List ControlMessage}
    (hreceiving : s.receiving = .awaitsAccept) (hqueue : s.toReceiver = msg :: rest) :
    msg.msgType = .accept ∧ s.ctsQueue = [] ∧
      rest.map ControlMessage.msgType = s.sending.owing := by
  cases h with
  | apart noCts stream =>
    rw [hqueue, hreceiving, List.map_cons] at stream
    obtain ⟨htype, hrest⟩ := List.cons.inj stream
    exact ⟨htype, noCts, hrest⟩
  | together post data cts receiving sending stream =>
    rw [hqueue] at stream
    exact absurd stream (List.cons_ne_nil _ _)

lemma Paired.recvPost (h : s.Paired) (buffer length : ℕ) : (s.recvPost buffer length).Paired := by
  unfold Session.recvPost
  split
  · rename_i hidle
    obtain ⟨hno, hstream⟩ := h.meeting.of_receiving (by rw [hidle]; rfl)
    split_ifs
    · exact h
    · exact ⟨h.serverOpen, h.clientOpen, h.usable, h.got, h.order, .apart hno hstream⟩
  · exact h

lemma answersOffer_iff {generation : U32} {opened : Bool} {answer : ℤ} {buffer length : ℕ}
    {msg : ControlMessage} {rest : List ControlMessage}
    (hreceiving : s.receiving = .awaitsOffer buffer length) (hqueue : s.toReceiver = msg :: rest) :
    s.answersOffer recvId generation opened answer = true ↔ ∃ handle cts, (recvPostOnOffer
      s.receiver recvId generation buffer length msg.params opened answer).1
        = .ready handle (some cts) := by
  unfold answersOffer
  rw [hreceiving, hqueue]
  dsimp only
  split
  · rename_i handle cts _ hready
    exact iff_of_true rfl ⟨handle, cts, congrArg Prod.fst hready⟩
  · rename_i hnone
    exact iff_of_false Bool.false_ne_true fun ⟨handle, cts, hready⟩ =>
      hnone handle cts _ (Prod.ext hready rfl)

lemma Paired.takeOffer (h : s.Paired) {generation : U32} {opened : Bool} {answer : ℤ}
    (hsmooth : s.Smooth recvId (.takeOffer generation opened answer)) :
    (s.takeOffer recvId draws generation opened answer).Paired := by
  unfold Session.takeOffer
  split
  · rename_i buffer length msg rest hreceiving hqueue
    obtain ⟨htype, rfl, hno, data, hsending⟩ := h.meeting.offer_next hreceiving hqueue
    obtain ⟨handle, cts, hready⟩ := (answersOffer_iff hreceiving hqueue).mp hsmooth
    rw [if_neg (by rw [h.serverOpen]; decide), if_neg (not_not.mpr htype)]
    have hspec := (recvPostOnOffer_spec s.receiver recvId generation buffer length msg.params opened
      answer).cts handle cts hready
    have hserver := recvPostOnOffer_server (Prod.ext hready rfl)
    generalize recvPostOnOffer s.receiver recvId generation buffer length msg.params opened answer
      = result at hready hspec hserver
    obtain ⟨outcome, m⟩ := result
    obtain rfl := hready
    obtain ⟨hcts, hparams⟩ := hspec
    obtain ⟨server, hserver, hfd⟩ := hserver
    have hqueue' : ctsQueue { s with
        receiver := m
        receiving := .awaitsAccept
        toReceiver := []
        toSender := s.toSender ++ [⟨cts, s.posts.length⟩]
        posts := s.posts ++ [⟨handle, draws, s.receiver.conn.connectionCtx.generationCounters
          recvId⟩] } = s.ctsQueue ++ _ := ctsQueue_append rfl
    rw [hno, List.filter_cons_of_pos (by simpa using hcts)] at hqueue'
    refine ⟨?_, h.clientOpen, ?_, h.got, ?_, .together s.posts.length data hqueue' rfl hsending rfl⟩
    · exact (Option.any_eq_true _ _).mpr ⟨server, hserver, decide_eq_true hfd⟩
    · intro f hf hfcts
      rcases List.mem_append.mp hf with hf | hf
      · exact h.usable f hf hfcts
      · obtain rfl := List.mem_singleton.mp hf
        have hmtu := (negotiate_mtuBytes s.receiver.conn.connectionCtx.params msg.params length).1
        have hppc := negotiate_packetsPerChunk s.receiver.conn.connectionCtx.params msg.params
          length
        refine ⟨?_, ?_⟩
        · rw [hparams]
          exact ne_zero_of_toNat_pos hmtu
        · rw [hparams]
          exact ne_zero_of_toNat_pos hppc
    · have horder := h.order
      unfold ctsOrder at horder ⊢
      rw [hno, List.append_nil] at horder
      rw [hqueue', List.length_append, List.length_singleton, List.range_succ, ← horder,
        List.append_assoc]
      rfl
  · exact h

lemma Paired.takeAccept (h : s.Paired) : s.takeAccept.Paired := by
  unfold Session.takeAccept
  split
  · rename_i msg rest hreceiving hqueue
    obtain ⟨htype, hno, hrest⟩ := h.meeting.accept_next hreceiving hqueue
    rw [if_neg (by rw [h.serverOpen]; decide), if_pos htype]
    exact ⟨h.serverOpen, h.clientOpen, h.usable, h.got, h.order, .apart hno hrest⟩
  · exact h

lemma Paired.run (h : s.Paired) {p : Prog ReceiverMemory PUnit} (hp : Prog.Uses ReceiverAction p) :
    (s.run p).Paired := by
  have hserver := run_serverOpen h.serverOpen hp
  unfold Session.run at hserver ⊢
  split at hserver
  · exact h
  · obtain ⟨-, hclient, husable, hgot, horder, hmeeting⟩ := h
    exact ⟨hserver, hclient, husable, hgot, horder, hmeeting.congr rfl rfl rfl rfl⟩

lemma recvComplete_serverOpen (h : s.serverOpen = true) (post : ℕ) (answer : ℤ) :
    (s.recvComplete post answer).serverOpen = true := by
  unfold recvComplete
  split
  · exact h
  · rename_i p _
    obtain ⟨isComplete, hrun⟩ := run_sdrRecvComplete
      (any_polling_joined p.handle.msgId s.receiver) answer
    dsimp only
    rw [hrun]
    have hretired : ((s.receiver.mapFrontend p.handle.msgId fun f =>
        { f with polling := false }).completeMessage p.handle.msgId).Connected := h
    exact hretired.sendMessage _ answer

lemma recvComplete_frame (post : ℕ) (answer : ℤ) :
    (s.recvComplete post answer).sender = s.sender ∧
      (s.recvComplete post answer).receiving = s.receiving ∧
      (s.recvComplete post answer).sending = s.sending ∧
      (s.recvComplete post answer).toReceiver = s.toReceiver ∧
      (s.recvComplete post answer).posts = s.posts ∧
      (s.recvComplete post answer).sends = s.sends := by
  unfold recvComplete
  split
  · exact ⟨rfl, rfl, rfl, rfl, rfl, rfl⟩
  · dsimp only
    split <;> exact ⟨rfl, rfl, rfl, rfl, rfl, rfl⟩

/-- A receive that is completed puts no CTS on the stream. -/
lemma recvComplete_toSender (post : ℕ) (answer : ℤ) :
    ((s.recvComplete post answer).toSender.filter fun f => f.message.msgType = .cts)
      = s.toSender.filter fun f => f.message.msgType = .cts := by
  have heff : s.Effect 0 0 0 (.recvComplete post answer) _ := recvComplete_effect post answer
  generalize s.recvComplete post answer = s' at heff
  cases heff with
  | quiet posts sends toSender completes consumed sending polling finish poll => rw [toSender]
  | completed new lt type toSender completes posts sends consumed sending =>
    rw [toSender, List.filter_append, filter_cts_completions type, List.append_nil]

lemma Paired.recvComplete (h : s.Paired) (post : ℕ) (answer : ℤ) :
    (s.recvComplete post answer).Paired := by
  have hserver := recvComplete_serverOpen h.serverOpen post answer
  have hfilter := s.recvComplete_toSender post answer
  obtain ⟨hsender, hreceiving, hsending, hstream, hposts, hsends⟩ :=
    s.recvComplete_frame post answer
  generalize s.recvComplete post answer = s' at *
  have hcts : s'.ctsQueue = s.ctsQueue := congrArg (List.map InFlight.post) hfilter
  refine ⟨hserver, ?_, fun f hf htype => ?_, fun data f hgot => ?_, ?_,
    h.meeting.congr hcts hreceiving hsending hstream⟩
  · unfold Session.clientOpen
    rw [hsender]
    exact h.clientOpen
  · have hmem : f ∈ s.toSender.filter fun f => f.message.msgType = .cts :=
      hfilter ▸ List.mem_filter.mpr ⟨hf, decide_eq_true htype⟩
    exact h.usable f (List.mem_filter.mp hmem).1 htype
  · exact h.got data f (hsending ▸ hgot)
  · unfold ctsOrder
    rw [hsends, hsending, hcts, hposts]
    exact h.order

/-! ### The sending end -/

lemma Paired.sendPost (h : s.Paired) (data : List U8) :
    (s.sendPost data sizeofControlMessage).Paired := by
  unfold Session.sendPost
  split
  · rename_i hidle
    split_ifs
    · exact h
    · obtain ⟨client, hconnected, hsent⟩ := clientSends_whole h.clientOpen
        (offerMessage s.sender.connectionCtx data.length)
      obtain ⟨hno, hstream⟩ := h.meeting.of_sending (by rw [hidle]; rfl)
      dsimp only
      rw [hsent, if_pos rfl]
      refine ⟨h.serverOpen, hconnected, h.usable, fun _ _ => SendPhase.noConfusion, ?_,
        .apart hno ?_⟩
      · have horder := h.order
        unfold ctsOrder at horder
        rw [hidle] at horder
        exact horder
      · dsimp only
        rw [List.map_append, hstream]
        rfl
  · exact h

lemma Paired.takeCts (h : s.Paired) : (s.takeCts sizeofControlMessage).Paired := by
  unfold Session.takeCts
  split
  · rename_i data f rest hsending hqueue
    have hrest : ∀ g ∈ rest, g.message.msgType = .cts → g.message.Usable := fun g hg =>
      h.usable g (hqueue ▸ List.mem_cons_of_mem f hg)
    rw [if_neg (by rw [h.clientOpen]; decide)]
    have hcts : s.ctsQueue = ((f :: rest).filter fun f => f.message.msgType = .cts).map
        InFlight.post := by rw [ctsQueue, hqueue]
    split_ifs with htype
    · rw [List.filter_cons_of_neg (by simpa using htype)] at hcts
      have horder := h.order
      unfold ctsOrder at horder
      rw [hcts] at horder
      exact ⟨h.serverOpen, h.clientOpen, hrest, h.got, horder,
        h.meeting.congr hcts.symm rfl rfl rfl⟩
    · obtain ⟨client, hconnected, hsent⟩ := clientSends_whole h.clientOpen (acceptMessage f.message)
      rw [List.filter_cons_of_pos (by simpa using htype), List.map_cons] at hcts
      rw [hsent]
      cases h.meeting with
      | apart noCts stream =>
        rw [noCts] at hcts
        exact absurd hcts.symm (List.cons_ne_nil _ _)
      | together post data' cts receiving sending stream => 
        rw [cts] at hcts
        obtain ⟨rfl, hnone⟩ := List.cons.inj hcts
        refine ⟨h.serverOpen, hconnected, hrest, fun d g hg => ?_, ?_, .apart hnone.symm ?_⟩
        · obtain ⟨-, rfl⟩ := SendPhase.gotCts.inj hg
          exact h.usable f (hqueue ▸ List.mem_cons_self) (not_not.mp htype)
        · have horder := h.order
          unfold ctsOrder at horder
          rw [hsending, cts] at horder
          change s.sends.map PostedSend.post ++ ([f.post] ++ List.map _ (rest.filter _)) = _
          rw [← hnone]
          exact horder
        · dsimp only
          rw [stream, receiving]
          rfl
  · exact h

/-- The end of `sdr_send_post` does not touch the control connection. -/
lemma sendPostOnCts_tcpClient (conn : SDRConnection) (msgId : ℕ) (data : List U8)
    (cts : ControlMessage) (socketReady : Bool) :
    (sendPostOnCts conn msgId data cts socketReady).2.tcpClient = conn.tcpClient := by
  unfold sendPostOnCts
  dsimp only
  split_ifs <;> rfl

lemma Paired.finishSend (h : s.Paired) : (s.finishSend sendId true).Paired := by
  unfold Session.finishSend
  split
  · rename_i data f hgot
    obtain ⟨hmtu, hppc⟩ := h.got data f hgot
    obtain ⟨hno, hstream⟩ := h.meeting.of_sending (by rw [hgot]; rfl)
    have hclient := sendPostOnCts_tcpClient s.sender sendId data f.message true
    obtain ⟨handle, packets, conn, hsent, -⟩ := sendPostOnCts_sent s.sender sendId data hmtu hppc
    rw [hsent] at hclient ⊢
    have horder := h.order
    unfold ctsOrder at horder
    rw [hgot, hno, List.append_nil] at horder
    refine ⟨h.serverOpen, ?_, h.usable, fun _ _ => SendPhase.noConfusion, ?_, .apart hno ?_⟩
    · change (conn.tcpClient.any TCPControlClient.isConnected) = true
      rw [hclient]
      exact h.clientOpen
    · change (s.sends ++ [PostedSend.mk f.post handle packets]).map PostedSend.post
        ++ ([] ++ s.ctsQueue) = _
      rw [hno, List.map_append, List.append_nil, List.append_nil]
      exact horder
    · exact hstream.trans (List.append_nil _).symm
  · exact h

lemma Paired.sendPoll (h : s.Paired) (send : ℕ) : (s.sendPoll send).Paired := by
  unfold Session.sendPoll
  split
  · rename_i hidle
    obtain ⟨hno, hstream⟩ := h.meeting.of_sending (by rw [hidle]; rfl)
    have horder := h.order
    unfold ctsOrder at horder
    rw [hidle] at horder
    split_ifs
    · exact ⟨h.serverOpen, h.clientOpen, h.usable, fun _ _ => SendPhase.noConfusion, horder,
        .apart hno (hstream.trans (List.append_nil _).symm)⟩
    · exact h
  · exact h

/-- No CTS is under way that a poll could take. -/
lemma Paired.takeCompletion (h : s.Paired) : s.takeCompletion.Paired := by
  unfold Session.takeCompletion
  split
  · rename_i send f rest hpolling hqueue
    obtain ⟨hno, hstream⟩ := h.meeting.of_sending (by rw [hpolling]; rfl)
    have hrest : (rest.filter fun f => f.message.msgType = .cts).map InFlight.post = [] := by
      have hsub : List.Sublist (ctsQueue { s with toSender := rest }) s.ctsQueue :=
        ctsQueue_sublist hqueue
      rw [hno] at hsub
      exact List.eq_nil_of_sublist_nil hsub
    have horder := h.order
    unfold ctsOrder at horder
    rw [hpolling, hno] at horder
    rw [if_neg (by rw [h.clientOpen]; decide)]
    have husable : ∀ g ∈ rest, g.message.msgType = .cts → g.message.Usable := fun g hg =>
      h.usable g (hqueue ▸ List.mem_cons_of_mem f hg)
    split_ifs
    · refine ⟨h.serverOpen, h.clientOpen, husable, fun _ _ => SendPhase.noConfusion, ?_,
        .apart hrest (hstream.trans (List.append_nil _).symm)⟩
      change s.sends.map PostedSend.post ++ ([] ++ List.map _ (rest.filter _)) = _
      rw [hrest]
      exact horder
    · refine ⟨h.serverOpen, h.clientOpen, husable, fun _ _ => SendPhase.noConfusion, ?_,
        .apart hrest (hstream.trans (List.append_nil _).symm)⟩
      change s.sends.map PostedSend.post ++ ([] ++ List.map _ (rest.filter _)) = _
      rw [hrest]
      exact horder
  · exact h

/-- Smooth events keep the handshakes paired. -/
lemma Paired.step (h : s.Paired) {e : SessionEvent} (hsmooth : s.Smooth recvId e) :
    (s.step recvId draws sendId e).Paired := by
  cases e with
  | recvPost buffer length => exact h.recvPost buffer length
  | takeOffer generation opened answer => exact h.takeOffer hsmooth
  | takeAccept => exact h.takeAccept
  | receiverLost => exact hsmooth.elim
  | packet bytes => exact h.run (receiveDatagram_uses bytes)
  | poll msgId => exact h.run (pollingRound_uses msgId)
  | recvComplete post answer => exact h.recvComplete post answer
  | sendPost data answer =>
    obtain rfl : answer = sizeofControlMessage := hsmooth
    exact h.sendPost data
  | takeCts answer =>
    obtain rfl : answer = sizeofControlMessage := hsmooth
    exact h.takeCts
  | finishSend socketReady =>
    obtain rfl : socketReady = true := hsmooth
    exact h.finishSend
  | sendPoll send => exact h.sendPoll send
  | takeCompletion => exact h.takeCompletion
  | senderLost => exact hsmooth.elim

/-! ### The sender takes what has come -/

/-- The sender takes messages until it has its CTS or none is left. -/
def takeAllCts (s : Session) : Session :=
  (fun s => s.takeCts sizeofControlMessage)^[s.toSender.length] s

lemma takeCts_of_ne (h : ∀ data, s.sending ≠ .awaitsCts data) (answer : ℤ) :
    s.takeCts answer = s := by
  unfold takeCts
  split
  · rename_i data _ _ hsending _
    exact absurd hsending (h data)
  · rfl

lemma takeCts_receiving (answer : ℤ) : (s.takeCts answer).receiving = s.receiving := by
  unfold takeCts
  split
  · split_ifs
    · rfl
    · rfl
    · unfold clientSends
      split <;> rfl
  · rfl

/-- Where the CTS is on its way, the sender gets to it; elsewhere it comes to the end of what there
is. -/
lemma Paired.takeAllCts (h : s.Paired) :
    s.takeAllCts.Paired ∧ s.takeAllCts.receiving = s.receiving ∧
      (s.takeAllCts.toSender = [] ∨ ∀ data, s.takeAllCts.sending ≠ .awaitsCts data) ∧
      ∀ data post, s.sending = .awaitsCts data → s.ctsQueue = [post] →
        ∃ f, s.takeAllCts.sending = .gotCts data f := by
  unfold Session.takeAllCts
  induction hqueue : s.toSender generalizing s with
  | nil =>
    refine ⟨h, rfl, Or.inl hqueue, fun data post _ hcts => ?_⟩
    rw [ctsQueue, hqueue] at hcts
    exact absurd hcts.symm (List.cons_ne_nil _ _)
  | cons f rest ih =>
    have hnext := h.takeCts
    have hreceiving := s.takeCts_receiving sizeofControlMessage
    by_cases hwaits : ∃ data, s.sending = .awaitsCts data
    · obtain ⟨data, hsending⟩ := hwaits
      by_cases htype : f.message.msgType = .cts
      · -- the CTS: the sender answers it and waits no longer
        have hgot : (s.takeCts sizeofControlMessage).sending = .gotCts data f := by
          unfold Session.takeCts
          rw [hsending, hqueue]
          dsimp only
          rw [if_neg (by rw [h.clientOpen]; decide), if_neg (not_not.mpr htype)]
        have hstays : ∀ n, (fun s => s.takeCts sizeofControlMessage)^[n]
            (s.takeCts sizeofControlMessage) = s.takeCts sizeofControlMessage := fun n =>
          Function.iterate_fixed (takeCts_of_ne (fun d hd => by rw [hgot] at hd; cases hd) _) n
        rw [List.length_cons, Function.iterate_succ_apply, hstays]
        refine ⟨hnext, hreceiving, Or.inr fun d hd => ?_, fun d post hd _ => ⟨f, ?_⟩⟩
        · rw [hgot] at hd
          cases hd
        · rw [hsending] at hd
          obtain rfl := SendPhase.awaitsCts.inj hd
          exact hgot
      · -- something else: it is thrown away
        have hskip : s.takeCts sizeofControlMessage
            = { s with toSender := rest, consumed := s.consume none f } := by
          unfold Session.takeCts
          rw [hsending, hqueue]
          dsimp only
          rw [if_neg (by rw [h.clientOpen]; decide), if_pos htype]
        have hcts : (s.takeCts sizeofControlMessage).ctsQueue = s.ctsQueue := by
          rw [hskip, ctsQueue, ctsQueue, hqueue, List.filter_cons_of_neg (by simpa using htype)]
        have hrest := ih hnext (by rw [hskip])
        rw [List.length_cons, Function.iterate_succ_apply]
        refine ⟨hrest.1, hrest.2.1.trans hreceiving, hrest.2.2.1, fun d post hd hpost => ?_⟩
        exact hrest.2.2.2 d post (by rw [hskip]; exact hd) (hcts.trans hpost)
    · have hno : ∀ data, s.sending ≠ .awaitsCts data := fun data hd => hwaits ⟨data, hd⟩
      have hstays : ∀ n, (fun s => s.takeCts sizeofControlMessage)^[n] s = s :=
        Function.iterate_fixed (takeCts_of_ne hno _)
      rw [hstays]
      exact ⟨h, rfl, Or.inr hno, fun d _ hd => absurd hd (hno d)⟩

/-- A receiver that waits for its ACCEPT gets it once the sender has taken its messages. -/
lemma Paired.accepted (h : s.Paired) (hreceiving : s.receiving = .awaitsAccept) :
    s.takeAllCts.takeAccept.receiving = .idle := by
  obtain ⟨hpaired, hsame, hdone, -⟩ := h.takeAllCts
  generalize s.takeAllCts = s' at *
  rw [hreceiving] at hsame
  have hstream : ∃ msg rest, s'.toReceiver = msg :: rest := by
    cases hpaired.meeting with
    | apart noCts stream =>
      rw [hsame] at stream
      obtain ⟨msg, rest, hqueue, -⟩ := List.map_eq_cons_iff.mp stream
      exact ⟨msg, rest, hqueue⟩
    | together post data cts receiving sending stream =>
      rcases hdone with hdone | hdone
      · rw [ctsQueue, hdone] at cts
        exact absurd cts.symm (List.cons_ne_nil _ _)
      · exact absurd sending (hdone data)
  obtain ⟨msg, rest, hqueue⟩ := hstream
  have htype := (hpaired.meeting.accept_next hsame hqueue).1
  unfold Session.takeAccept
  rw [hsame, hqueue]
  dsimp only
  rw [if_neg (by rw [hpaired.serverOpen]; decide), if_pos htype]

/-- A sender that still waits when it has taken its messages has its OFFER before the receiver. -/
lemma Paired.offered (h : s.Paired) {data : List U8}
    (hsending : s.takeAllCts.sending = .awaitsCts data) :
    ∃ msg ∈ s.takeAllCts.toReceiver, msg.msgType = .offer := by
  obtain ⟨hpaired, -, hdone, -⟩ := h.takeAllCts
  generalize s.takeAllCts = s' at *
  rcases hdone with hdone | hdone
  · cases hpaired.meeting with
    | apart noCts stream =>
      rw [hsending] at stream
      have hmem : ControlMsgType.offer ∈ s'.toReceiver.map ControlMessage.msgType := by
        rw [stream]
        exact List.mem_append_right _ List.mem_cons_self
      exact List.mem_map.mp hmem
    | together post data' cts receiving sending stream =>
      rw [ctsQueue, hdone] at cts
      exact absurd cts.symm (List.cons_ne_nil _ _)
  · exact absurd hsending (hdone data)

/-- No CTS is under way to a sender that polls. -/
lemma Paired.no_cts_at_poll (h : s.Paired) {send : ℕ} (hsending : s.sending = .polling send)
    {f : InFlight} (hf : f ∈ s.toSender) : f.message.msgType ≠ .cts := by
  obtain ⟨hno, -⟩ := h.meeting.of_sending (by rw [hsending]; rfl)
  have hnone := List.filter_eq_nil_iff.mp (List.map_eq_nil_iff.mp hno) f hf
  simpa using hnone

/-! ### A sender whose OFFER was lost -/

/-- The sender waits for a CTS, but neither it nor an OFFER is under way. -/
structure Stranded (s : Session) : Prop where
  sending : ∃ data, s.sending = .awaitsCts data
  noCts : s.ctsQueue = []
  noOffer : ∀ msg ∈ s.toReceiver, msg.msgType ≠ .offer

/-- The event changed nothing that a stranded sender waits for. -/
structure Waits (s s' : Session) : Prop where
  sending : s'.sending = s.sending
  posts : s'.posts = s.posts
  sends : s'.sends = s.sends
  ctsQueue : s'.ctsQueue = s.ctsQueue
  toReceiver : ∀ msg ∈ s'.toReceiver, msg ∈ s.toReceiver

lemma Waits.refl (s : Session) : s.Waits s := ⟨rfl, rfl, rfl, rfl, fun _ h => h⟩

lemma Waits.of_eq (h : s' = s) : s.Waits s' := h ▸ .refl s

lemma Stranded.waits (h : s.Stranded) (hw : s.Waits s') : s'.Stranded :=
  ⟨hw.sending ▸ h.sending, hw.ctsQueue.trans h.noCts,
    fun msg hmsg => h.noOffer msg (hw.toReceiver msg hmsg)⟩

lemma Stranded.takeOffer (h : s.Stranded) (generation : U32) (opened : Bool) (answer : ℤ) :
    s.Waits (s.takeOffer recvId draws generation opened answer) := by
  unfold Session.takeOffer
  split
  · rename_i buffer length msg rest _ hqueue
    have htype := h.noOffer msg (hqueue ▸ List.mem_cons_self)
    split_ifs
    · exact .refl s
    · exact ⟨rfl, rfl, rfl, rfl, fun m hm => hqueue ▸ List.mem_cons_of_mem msg hm⟩
  · exact .refl s

lemma takeAccept_waits : s.Waits s.takeAccept := by
  unfold takeAccept
  split
  · rename_i msg rest _ hqueue
    split_ifs
    · exact .refl s
    · exact ⟨rfl, rfl, rfl, rfl, fun m hm => hqueue ▸ List.mem_cons_of_mem msg hm⟩
    · exact ⟨rfl, rfl, rfl, rfl, fun m hm => hqueue ▸ List.mem_cons_of_mem msg hm⟩
  · exact .refl s

lemma Stranded.takeCts (h : s.Stranded) (answer : ℤ) : s.Waits (s.takeCts answer) := by
  unfold Session.takeCts
  split
  · rename_i data f rest _ hqueue
    have htype : f.message.msgType ≠ .cts := by
      have hnone := List.filter_eq_nil_iff.mp (List.map_eq_nil_iff.mp h.noCts) f
        (hqueue ▸ List.mem_cons_self)
      simpa using hnone
    split_ifs
    · exact .refl s
    · refine ⟨rfl, rfl, rfl, ?_, fun _ hm => hm⟩
      rw [Session.ctsQueue, Session.ctsQueue, hqueue,
        List.filter_cons_of_neg (by simpa using htype)]
  · exact .refl s

lemma recvPost_waits (buffer length : ℕ) : s.Waits (s.recvPost buffer length) := by
  unfold recvPost
  split
  · split_ifs
    · exact .refl s
    · exact ⟨rfl, rfl, rfl, rfl, fun _ hm => hm⟩
  · exact .refl s

lemma run_waits (p : Prog ReceiverMemory PUnit) : s.Waits (s.run p) := by
  unfold run
  split
  · exact .refl s
  · exact ⟨rfl, rfl, rfl, rfl, fun _ hm => hm⟩

lemma recvComplete_waits (post : ℕ) (answer : ℤ) : s.Waits (s.recvComplete post answer) := by
  obtain ⟨-, -, hsending, hstream, hposts, hsends⟩ := s.recvComplete_frame post answer
  exact ⟨hsending, hposts, hsends, congrArg (List.map InFlight.post)
    (s.recvComplete_toSender post answer), fun _ hm => hstream ▸ hm⟩

/-- A stranded sender stays where it is until it finds its connection closed. -/
lemma Stranded.step (h : s.Stranded) (recvId draws sendId : ℕ) {e : SessionEvent}
    (he : e ≠ .senderLost) : s.Waits (s.step recvId draws sendId e) := by
  obtain ⟨data, hsending⟩ := h.sending
  cases e with
  | recvPost buffer length => exact recvPost_waits buffer length
  | takeOffer generation opened answer => exact h.takeOffer generation opened answer
  | takeAccept => exact takeAccept_waits
  | receiverLost => exact ⟨rfl, rfl, rfl, rfl, fun _ hm => hm⟩
  | packet bytes => exact run_waits _
  | poll msgId => exact run_waits _
  | recvComplete post answer => exact recvComplete_waits post answer
  | sendPost data answer =>
    have hsame : s.sendPost data answer = s := by rw [sendPost, hsending]
    exact .of_eq hsame
  | takeCts answer => exact h.takeCts answer
  | finishSend socketReady =>
    have hsame : s.finishSend sendId socketReady = s := by rw [finishSend, hsending]
    exact .of_eq hsame
  | sendPoll send =>
    have hsame : s.sendPoll send = s := by rw [sendPoll, hsending]
    exact .of_eq hsame
  | takeCompletion =>
    have hsame : s.takeCompletion = s := by rw [takeCompletion, hsending]
    exact .of_eq hsame
  | senderLost => exact absurd rfl he

lemma exists_of_drawsOnOffer (h : s.drawsOnOffer = true) : ∃ buffer length msg rest,
    s.receiving = .awaitsOffer buffer length ∧ s.toReceiver = msg :: rest := by
  unfold drawsOnOffer at h
  split at h
  · rename_i buffer length msg rest hreceiving hqueue
    exact ⟨buffer, length, msg, rest, hreceiving, hqueue⟩
  · exact absurd h Bool.false_ne_true

/-- `sdr_recv_post` has stored a handle as soon as its slot is set up, whatever fails after that. -/
lemma handle_recvPostOnOffer (m : ReceiverMemory) {msgId : ℕ}
    (hid : msgId < ConnectionContext.maxMessages) (generation : U32) (buffer length : ℕ)
    (offer : ConnectionParams) (opened : Bool) (answer : ℤ) :
    (recvPostOnOffer m msgId generation buffer length offer opened answer).1.handle
      = if ConnectionContext.slotBusy (m.message msgId) generation = true then none
        else some ⟨msgId, generation, buffer, length⟩ := by
  have hnone := (m.conn.connectionCtx.initializeContext m.conn.connectionCtx.connectionId (negotiate
    m.conn.connectionCtx.params offer length)).allocateMessageSlot_eq_none_iff hid generation
  rw [ConnectionContext.initializeContext_msgTable] at hnone
  unfold recvPostOnOffer
  dsimp only
  split
  · rename_i hslot
    exact (if_pos (hnone.mp hslot)).symm
  · rename_i hslot
    have hfree : ¬ ConnectionContext.slotBusy (m.message msgId) generation = true := fun hbusy =>
      Option.some_ne_none _ (hslot.symm.trans (hnone.mpr hbusy))
    rw [if_neg hfree]
    split_ifs
    · rfl
    · split
      · rfl
      · split_ifs <;> rfl

/-- What the failed call of `sdr_recv_post` leaves with its caller. -/
lemma Paired.takeOffer_failed (h : s.Paired)
    (hid : recvId < ConnectionContext.maxMessages) (draws : ℕ) (hdraws : s.drawsOnOffer = true)
    {generation : U32} {opened : Bool} {answer : ℤ}
    (hrefused : s.answersOffer recvId generation opened answer = false) :
    (s.takeOffer recvId draws generation opened answer).receiving = .idle ∧
      ∃ left, (s.takeOffer recvId draws generation opened answer).failed = s.failed ++ left ∧
        left.map SDRRecvHandle.msgId
          = if ConnectionContext.slotBusy (s.receiver.message recvId) generation = true then []
            else [recvId] := by
  obtain ⟨buffer, length, msg, rest, hreceiving, hqueue⟩ := exists_of_drawsOnOffer hdraws
  obtain ⟨htype, -⟩ := h.meeting.offer_next hreceiving hqueue
  have hnone : ¬ ∃ handle cts, (recvPostOnOffer s.receiver recvId generation buffer length
      msg.params opened answer).1 = .ready handle (some cts) := by
    rw [← answersOffer_iff hreceiving hqueue, hrefused]
    exact Bool.false_ne_true
  have hleft := handle_recvPostOnOffer s.receiver hid generation buffer length msg.params opened
    answer
  unfold Session.takeOffer
  rw [hreceiving, hqueue]
  dsimp only
  rw [if_neg (by rw [h.serverOpen]; decide), if_neg (not_not.mpr htype)]
  split
  · rename_i handle cts m hready
    exact absurd ⟨handle, cts, congrArg Prod.fst hready⟩ hnone
  · rename_i outcome m _ hout
    rw [hout] at hleft
    refine ⟨rfl, outcome.handle.toList, rfl, ?_⟩
    rw [hleft]
    split_ifs <;> rfl

/-- An OFFER that is not answered strands the sender. -/
lemma Paired.stranded (h : s.Paired) (recvId draws : ℕ) (hdraws : s.drawsOnOffer = true)
    {generation : U32}
    {opened : Bool} {answer : ℤ}
    (hrefused : s.answersOffer recvId generation opened answer = false) :
    (s.takeOffer recvId draws generation opened answer).Stranded ∧
      (s.takeOffer recvId draws generation opened answer).posts = s.posts ∧
      (s.takeOffer recvId draws generation opened answer).sends = s.sends := by
  obtain ⟨buffer, length, msg, rest, hreceiving, hqueue⟩ := exists_of_drawsOnOffer hdraws
  obtain ⟨htype, rfl, hno, hsending⟩ := h.meeting.offer_next hreceiving hqueue
  have hnone : ¬ ∃ handle cts, (recvPostOnOffer s.receiver recvId generation buffer length
      msg.params opened answer).1 = .ready handle (some cts) := by
    rw [← answersOffer_iff hreceiving hqueue, hrefused]
    exact Bool.false_ne_true
  unfold Session.takeOffer
  rw [hreceiving, hqueue]
  dsimp only
  rw [if_neg (by rw [h.serverOpen]; decide), if_neg (not_not.mpr htype)]
  split
  · rename_i handle cts m hready
    exact absurd ⟨handle, cts, congrArg Prod.fst hready⟩ hnone
  · exact ⟨⟨hsending, hno, fun _ hm => absurd hm List.not_mem_nil⟩, rfl, rfl⟩

/-- An OFFER that is answered gets its sender the CTS. -/
lemma Paired.offer_got (h : s.Paired) (recvId draws : ℕ) (hdraws : s.drawsOnOffer = true)
    {generation : U32}
    {opened : Bool} {answer : ℤ}
    (hanswered : s.answersOffer recvId generation opened answer = true) :
    ∃ data f, (s.takeOffer recvId draws generation opened answer).takeAllCts.sending
      = .gotCts data f := by
  obtain ⟨buffer, length, msg, rest, hreceiving, hqueue⟩ := exists_of_drawsOnOffer hdraws
  obtain ⟨htype, rfl, -, -⟩ := h.meeting.offer_next hreceiving hqueue
  have hnext : (s.takeOffer recvId draws generation opened answer).Paired := h.takeOffer hanswered
  obtain ⟨hreceiving', hsending', hstream'⟩ :
      (s.takeOffer recvId draws generation opened answer).receiving = .awaitsAccept ∧
        (s.takeOffer recvId draws generation opened answer).sending = s.sending ∧
        (s.takeOffer recvId draws generation opened answer).toReceiver = [] := by
    obtain ⟨handle, cts, hready⟩ := (answersOffer_iff hreceiving hqueue).mp hanswered
    unfold Session.takeOffer
    rw [hreceiving, hqueue]
    dsimp only
    rw [if_neg (by rw [h.serverOpen]; decide), if_neg (not_not.mpr htype)]
    generalize recvPostOnOffer s.receiver recvId generation buffer length msg.params opened answer
      = result at hready
    obtain ⟨outcome, m⟩ := result
    obtain rfl := hready
    exact ⟨rfl, rfl, rfl⟩
  generalize s.takeOffer recvId draws generation opened answer = s' at *
  cases hnext.meeting with
  | apart noCts stream =>
    rw [hstream', hreceiving'] at stream
    exact absurd stream.symm (List.cons_ne_nil _ _)
  | together post data' cts receiving sending stream =>
    obtain ⟨f, hgot⟩ := hnext.takeAllCts.2.2.2 data' post sending cts
    exact ⟨data', f, hgot⟩

end Session

namespace Network

variable {w : Network}

/-- An event of connection `i` is smooth there. -/
def SmoothAt (i : ℕ) (w : Network) (e : ℕ × SessionEvent) : Prop :=
  e.1 = i → (w.sessions i).Smooth
    (allocateMsgId (w.contexts (w.sessions i).receiver.conn.parentCtx)).1 e.2

lemma sessions_step (w : Network) (e : ℕ × SessionEvent) :
    (w.step e).sessions = Function.update w.sessions e.1 ((w.sessions e.1).step
      (allocateMsgId (w.contexts (w.sessions e.1).receiver.conn.parentCtx)).1
      (w.draws (w.sessions e.1).receiver.conn.parentCtx)
      (allocateMsgId (w.contexts (w.sessions e.1).sender.parentCtx)).1 e.2) := by
  unfold step
  dsimp only
  split <;> rfl

/-- What every event of connection `i` keeps there is kept by all events. -/
lemma session_step {P : Session → Prop} {i : ℕ} (h : P (w.sessions i)) (e : ℕ × SessionEvent)
    (hstep : e.1 = i → ∀ recvId draws sendId,
      recvId = (allocateMsgId (w.contexts (w.sessions i).receiver.conn.parentCtx)).1 →
      P ((w.sessions i).step recvId draws sendId e.2)) : P ((w.step e).sessions i) := by
  rw [sessions_step]
  by_cases hi : i = e.1
  · subst hi
    rw [Function.update_self]
    exact hstep rfl _ _ _ rfl
  · rw [Function.update_of_ne hi]
    exact h

/-- A fresh connection is paired once both its ends are connected. -/
lemma Initial.paired (h : w.Initial) {i : ℕ} (hserver : (w.sessions i).serverOpen = true)
    (hclient : (w.sessions i).clientOpen = true) : (w.sessions i).Paired := by
  obtain ⟨receiver, sender, hfresh⟩ := h.sessions i
  rw [hfresh] at hserver hclient ⊢
  exact ⟨hserver, hclient, fun f hf => absurd hf List.not_mem_nil,
    fun _ _ => SendPhase.noConfusion, rfl, .apart rfl rfl⟩

lemma paired_run {i : ℕ} (h : (w.sessions i).Paired) {events : List (ℕ × SessionEvent)}
    (hsmooth : EachStep (SmoothAt i) step events w) :
    ((events.foldl step w).sessions i).Paired := by
  refine EachStep.keeps (P := fun w : Network => (w.sessions i).Paired) (fun w e he hpaired => ?_)
    hsmooth h
  refine session_step hpaired e fun hi recvId draws sendId hid => ?_
  subst hid
  exact hpaired.step (he hi)

/-- Whatever the other connections do, as long as the events of a connection are smooth its sends
are those of its receives, in order, no loop of the handshake or of a poll meets a message that
another one waits for, a receiver gets its ACCEPT once the sender has taken what has come, and a
sender that still waits then has its OFFER before the receiver. -/
theorem handshakes_pair_up (h : w.Initial) {i : ℕ} (hserver : (w.sessions i).serverOpen = true)
    (hclient : (w.sessions i).clientOpen = true) {events : List (ℕ × SessionEvent)}
    (hsmooth : EachStep (SmoothAt i) step events w) :
    let s := (events.foldl step w).sessions i
    s.ctsOrder = List.range s.posts.length ∧
      (∀ buffer length msg rest, s.receiving = .awaitsOffer buffer length →
        s.toReceiver = msg :: rest → msg.msgType = .offer) ∧
      (∀ msg rest, s.receiving = .awaitsAccept → s.toReceiver = msg :: rest →
        msg.msgType = .accept) ∧
      (∀ send, s.sending = .polling send → ∀ f ∈ s.toSender, f.message.msgType ≠ .cts) ∧
      (s.receiving = .awaitsAccept → s.takeAllCts.takeAccept.receiving = .idle) ∧
      ∀ data, s.takeAllCts.sending = .awaitsCts data →
        ∃ msg ∈ s.takeAllCts.toReceiver, msg.msgType = .offer := by
  intro s
  have hpaired : s.Paired := paired_run (h.paired hserver hclient) hsmooth
  refine ⟨hpaired.order, ?_, ?_, ?_, hpaired.accepted, fun data => hpaired.offered⟩
  · exact fun buffer length msg rest hreceiving hqueue =>
      (hpaired.meeting.offer_next hreceiving hqueue).1
  · exact fun msg rest hreceiving hqueue => (hpaired.meeting.accept_next hreceiving hqueue).1
  · exact fun send hsending f hf => hpaired.no_cts_at_poll hsending hf

/-- It applies to a whole handshake. -/
theorem handshakes_pair_up_sample :
    ((handshake 0).foldl step sample |>.sessions 0).ctsOrder
      = List.range ((handshake 0).foldl step sample |>.sessions 0).posts.length := by
  refine (handshakes_pair_up sample_initial (i := 0) rfl rfl ?_).1
  have hoffer : (((handshake 0).take 2).foldl step sample |>.sessions 0).answersOffer
      (allocateMsgId (sample.contexts 0)).1 1 true sizeofControlMessage = true := by
    decide +kernel
  exact ⟨fun _ => trivial, fun _ => rfl, fun _ => hoffer, fun _ => rfl, fun _ => trivial,
    fun _ => rfl, trivial⟩

lemma sessions_takeCts (w : Network) (i n : ℕ) (answer : ℤ) :
    ((List.replicate n (i, SessionEvent.takeCts answer)).foldl step w).sessions i
      = (fun s : Session => s.takeCts answer)^[n] (w.sessions i) := by
  induction n generalizing w with
  | zero => rfl
  | succ n ih =>
    rw [List.replicate_succ, List.foldl_cons, ih, Function.iterate_succ_apply, sessions_step,
      Function.update_self]
    rfl

/-- A stranded sender waits through every run in which it does not find its connection closed. -/
lemma stranded_run {i : ℕ} (h : (w.sessions i).Stranded) {later : List (ℕ × SessionEvent)}
    (hlater : (i, .senderLost) ∉ later) :
    (w.sessions i).Waits ((later.foldl step w).sessions i) := by
  refine foldl_keeps (P := fun w' : Network => (w.sessions i).Waits (w'.sessions i))
    (fun w' e he hw => ?_) (.refl _)
  refine session_step hw e fun hi recvId draws sendId _ => ?_
  have hne : e.2 ≠ .senderLost := fun hlost => hlater (hlost ▸ hi ▸ he)
  have hnext := (h.waits hw).step recvId draws sendId hne
  exact ⟨hnext.sending.trans hw.sending, hnext.posts.trans hw.posts, hnext.sends.trans hw.sends,
    hnext.ctsQueue.trans hw.ctsQueue, fun m hm => hw.toReceiver m (hnext.toReceiver m hm)⟩

/-- A receiver takes an OFFER. The sender waits for its CTS through everything that may happen,
until it finds the connection closed, exactly when the receive could not be set up. Then the sender
gets no handle and the receive fails, but it has left a handle with its caller unless the slot was
busy. -/
theorem strands_iff (h : w.Initial) {i : ℕ} (hserver : (w.sessions i).serverOpen = true)
    (hclient : (w.sessions i).clientOpen = true) {events : List (ℕ × SessionEvent)}
    (hsmooth : EachStep (SmoothAt i) step events w)
    (hdraws : ((events.foldl step w).sessions i).drawsOnOffer = true) (generation : U32)
    (opened : Bool) (answer : ℤ) :
    let w' := events.foldl step w
    let s := w'.sessions i
    let recvId := (allocateMsgId (w'.contexts s.receiver.conn.parentCtx)).1
    let next := fun later : List (ℕ × SessionEvent) =>
      (later.foldl step (w'.step (i, .takeOffer generation opened answer))).sessions i
    let refused := s.answersOffer recvId generation opened answer = false
    ((∀ later, (i, .senderLost) ∉ later → ∃ data, (next later).sending = .awaitsCts data) ↔
        refused) ∧
      (refused → ∀ later, (i, .senderLost) ∉ later →
        (next later).posts = s.posts ∧ (next later).sends = s.sends) ∧
      (refused → (next []).receiving = .idle ∧ ∃ left, (next []).failed = s.failed ++ left ∧
        left.map SDRRecvHandle.msgId
          = if ConnectionContext.slotBusy (s.receiver.message recvId) generation = true then []
            else [recvId]) := by
  intro w' s recvId next refused
  have hpaired : s.Paired := paired_run (h.paired hserver hclient) hsmooth
  have hstep : (w'.step (i, .takeOffer generation opened answer)).sessions i
      = s.takeOffer recvId (w'.draws s.receiver.conn.parentCtx) generation opened answer := by
    rw [sessions_step, Function.update_self]
    rfl
  have hstays : refused → ∀ later, (i, .senderLost) ∉ later →
      (∃ data, (next later).sending = .awaitsCts data) ∧ (next later).posts = s.posts ∧
        (next later).sends = s.sends := by
    intro hrefused later hlater
    obtain ⟨hstranded, hposts, hsends⟩ := hpaired.stranded _
      (w'.draws s.receiver.conn.parentCtx) hdraws hrefused
    rw [← hstep] at hstranded hposts hsends
    have hwaits := stranded_run hstranded hlater
    exact ⟨hwaits.sending.symm ▸ hstranded.sending, hwaits.posts.trans hposts,
      hwaits.sends.trans hsends⟩
  have hid : recvId < ConnectionContext.maxMessages := Nat.mod_lt _ (by decide)
  refine ⟨⟨fun hforever => ?_, fun hrefused later hlater => (hstays hrefused later hlater).1⟩,
    fun hrefused later hlater => (hstays hrefused later hlater).2,
    fun hrefused => ?_⟩
  swap
  · rw [show next [] = _ from hstep]
    exact hpaired.takeOffer_failed hid _ hdraws hrefused
  by_contra hanswered
  obtain ⟨data, f, hgot⟩ := hpaired.offer_got _ (w'.draws s.receiver.conn.parentCtx) hdraws
    (Bool.eq_true_of_not_eq_false hanswered)
  rw [← hstep] at hgot
  -- the sender takes the messages that have come, and among them its CTS
  obtain ⟨data', hwaits⟩ := hforever (List.replicate _ (i, .takeCts sizeofControlMessage))
    (fun hmem => by have := (List.mem_replicate.mp hmem).2; simp at this)
  have hnext := (congrArg Session.sending (sessions_takeCts _ i _ _)).symm.trans hwaits
  exact SendPhase.noConfusion (hgot.symm.trans hnext)

/-- The receiver cannot bind its ports, and the sender waits through the handshake of another
connection. -/
theorem strands_unbound : ∃ data, (((handshake 1).foldl step ((((handshake 0).take 2).foldl step
    sample).step (0, .takeOffer 1 false 0))).sessions 0).sending = .awaitsCts data := by
  have hdraws : ((((handshake 0).take 2).foldl step sample).sessions 0).drawsOnOffer = true := by
    decide +kernel
  refine (strands_iff sample_initial (i := 0) rfl rfl
    (show EachStep (SmoothAt 0) step ((handshake 0).take 2) sample from
      ⟨fun _ => trivial, fun _ => rfl, trivial⟩) hdraws 1 false 0).1.mpr (by decide +kernel) _ ?_
  simp [handshake]

end Network

end SdrUdp
