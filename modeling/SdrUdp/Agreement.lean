import SdrUdp.ChannelPorts
import SdrUdp.HandshakeProgress

/-!
# The parameters of a connection

Every handshake negotiates anew, but the two configurations settle the outcome: the receiver keeps
what it has negotiated, and the sender takes it over from the CTS. So all transfers of a connection
use the same parameters, apart from their length and their transfer id.
-/

namespace SdrUdp

open SdrUdp.Core

/-- The parameters without those that belong to one transfer. -/
def ConnectionParams.lasting (p : ConnectionParams) : ConnectionParams :=
  { p with totalBytes := 0, transferId := 0 }

/-- What the two configurations lead to: the channels are the sender's, the rest is the receiver's
where it has a value. -/
def agreedParams (own offering : ConnectionParams) : ConnectionParams :=
  (negotiate own (desiredParams offering 0) 0).lasting

/-- No packet carries more than the MTU. -/
lemma length_payload_dataPacket {transferId : U32} {msgId : ℕ} {packetsPerChunk : U16}
    {mtuBytes : ℕ} {data : List U8} {o : ℕ} {p : SDRPacket}
    (h : dataPacket transferId msgId packetsPerChunk mtuBytes data o = some p) :
    p.payload.length ≤ mtuBytes := by
  rw [dataPacket, SDRPacket.createDataPacket, if_neg (by omega)] at h
  obtain rfl := Option.some.inj h
  rw [List.length_take]
  omega

section Algebra

variable {own offering params offer : ConnectionParams}

@[simp] lemma lasting_withTransferId (p : ConnectionParams) (generation : U32) :
    (p.withTransferId generation).lasting = p.lasting := rfl

@[simp] lemma lasting_desiredParams (p : ConnectionParams) (length : ℕ) :
    (desiredParams p length).lasting = (desiredParams p 0).lasting := rfl

/-- A negotiation looks at the lasting parameters of the OFFER only. -/
lemma lasting_negotiate_congr {offer' : ConnectionParams} (h : offer.lasting = offer'.lasting)
    (length length' : ℕ) :
    (negotiate own offer length).lasting = (negotiate own offer' length').lasting := by
  obtain ⟨_, _, _⟩ := offer
  obtain ⟨_, _, _⟩ := offer'
  simp only [ConnectionParams.lasting, ConnectionParams.mk.injEq, true_and] at h
  obtain ⟨rfl, rfl, rfl, rfl, rfl, rfl, rfl, rfl, rfl, rfl, rfl, rfl, rfl, rfl⟩ := h
  rfl

/-- The sender's channels count, whatever it has offered so far. -/
lemma agreedParams_numChannels (own offering : ConnectionParams) :
    (agreedParams own offering).numChannels = orDefault offering.numChannels 1 := by
  change orDefault (orDefault offering.numChannels 1) _ = _
  exact orDefault_of_ne (orDefault_ne_zero (by decide))

/-- Parameters that a negotiation leaves as they are, apart from the channels. -/
structure Firm (p : ConnectionParams) : Prop where
  mtuBytes : p.mtuBytes ≠ 0
  mtuBytes_le : p.mtuBytes ≤ BitVec.ofNat 32 SDRPacket.maxPayloadSize
  packetsPerChunk : p.packetsPerChunk ≠ 0
  udpServerPort : p.udpServerPort ≠ 0
  channelBasePort : p.channelBasePort ≠ 0
  udpServerIp : HasAddress p.udpServerIp

lemma firm_lasting_iff : Firm params.lasting ↔ Firm params :=
  ⟨fun ⟨h₁, h₂, h₃, h₄, h₅, h₆⟩ => ⟨h₁, h₂, h₃, h₄, h₅, h₆⟩,
    fun ⟨h₁, h₂, h₃, h₄, h₅, h₆⟩ => ⟨h₁, h₂, h₃, h₄, h₅, h₆⟩⟩

lemma firm_negotiate (own offer : ConnectionParams) (length : ℕ) :
    Firm (negotiate own offer length) := by
  constructor
  case mtuBytes =>
    intro hzero
    have hpos := (negotiate_mtuBytes own offer length).1
    rw [hzero] at hpos
    exact absurd hpos (by decide)
  case mtuBytes_le =>
    simp only [negotiate]
    split_ifs with h
    · exact BitVec.le_of_lt h
    · exact BitVec.le_refl _
  case packetsPerChunk => exact orDefault_ne_zero (orDefault_ne_zero (by decide))
  case udpServerPort => exact orDefault_ne_zero (orDefault_ne_zero (by decide))
  case channelBasePort =>
    exact orDefault_ne_zero (orDefault_ne_zero (orDefault_ne_zero (by decide)))
  case udpServerIp => exact negotiate_udpServerIp own offer length

/-- Only the channels follow the OFFER. -/
lemma Firm.negotiate (h : Firm params) (offer : ConnectionParams) (length : ℕ) :
    (SdrUdp.negotiate params offer length).lasting
      = { params.lasting with
          numChannels := orDefault offer.numChannels (orDefault params.numChannels 1) } := by
  have hmtu : (if params.mtuBytes < BitVec.ofNat 32 SDRPacket.maxPayloadSize then params.mtuBytes
      else BitVec.ofNat 32 SDRPacket.maxPayloadSize) = params.mtuBytes := by
    split_ifs with hlt
    · rfl
    · exact BitVec.le_antisymm (BitVec.not_lt.mp hlt) h.mtuBytes_le
  simp only [SdrUdp.negotiate, ConnectionParams.lasting, orDefault_of_ne h.mtuBytes,
    orDefault_of_ne h.packetsPerChunk, orDefault_of_ne h.udpServerPort,
    orDefault_of_ne h.channelBasePort, if_neg h.udpServerIp, hmtu]

lemma agreedParams_numChannels_ne_zero (own offering : ConnectionParams) :
    (agreedParams own offering).numChannels ≠ 0 := by
  rw [agreedParams_numChannels]
  exact orDefault_ne_zero (by decide)

/-- Agreed parameters are negotiated again as they are. -/
lemma lasting_negotiate_agreed (hparams : params.lasting = agreedParams own offering)
    (hoffer : offer.numChannels = (agreedParams own offering).numChannels) (length : ℕ) :
    (negotiate params offer length).lasting = agreedParams own offering := by
  have hfirm : Firm params := by
    rw [← firm_lasting_iff, hparams, agreedParams, firm_lasting_iff]
    exact firm_negotiate own _ 0
  rw [hfirm.negotiate, hparams, hoffer,
    orDefault_of_ne (agreedParams_numChannels_ne_zero own offering)]

end Algebra

/-! ### The threads of the receiver -/

/-- The parameters stay, and no CTS is sent. -/
structure ReceiverMemory.Calm (m m' : ReceiverMemory) : Prop where
  params : m'.conn.connectionCtx.params = m.conn.connectionCtx.params
  sent : ∀ msg ∈ m'.sent, msg.msgType = .cts → msg ∈ m.sent

lemma ReceiverAction.calm {act : ReceiverMemory → ReceiverMemory} (hact : ReceiverAction act)
    (m : ReceiverMemory) : m.Calm (act m) := by
  refine ⟨(hact.portsKept m).params, fun msg hmsg hcts => ?_⟩
  cases hact with
  | verdict isComplete answer =>
    rcases m.sendMessage_sent (completionMessage m.conn.connectionCtx.connectionId isComplete)
      answer with hsent | hsent
    · exact hsent ▸ hmsg
    · rw [hsent, List.mem_append, List.mem_singleton] at hmsg
      rcases hmsg with hmsg | rfl
      · exact hmsg
      · cases isComplete <;> exact ControlMsgType.noConfusion hcts
  | write ptr offset data =>
    cases ptr with
    | user b => exact hmsg
    | nullSink => exact hmsg
  | skip => exact hmsg
  | setReceived id offset => exact hmsg
  | setChunk id c => exact hmsg
  | stop id => exact hmsg
  | leave id => exact hmsg
  | retire id => exact hmsg

lemma ReceiverMemory.Calm.run {α : Type} {p : Prog ReceiverMemory α}
    (hp : Prog.Uses ReceiverAction p) {m m' : ReceiverMemory} {a : α}
    (hrun : p.run m = some (a, m')) : m.Calm m' := by
  have hmeets : Prog.Meets m.Calm Eq (fun _ _ => True) (fun _ _ => True) p m := by
    refine hp.meets (fun act hact m' hm' => ⟨⟨?_, fun msg hmsg hcts => ?_⟩, trivial⟩) m
    · exact (hact.calm m').params.trans hm'.params
    · exact hm'.sent msg ((hact.calm m').sent msg hmsg hcts) hcts
  exact (hmeets.of_run ⟨rfl, fun _ hmsg _ => hmsg⟩ hrun).1

/-- The only CTS of a post carries what was negotiated. -/
lemma sent_recvPostOnOffer {m : ReceiverMemory} {msgId : ℕ} {generation : U32}
    {buffer length : ℕ} {offer : ConnectionParams} {opened : Bool} {answer : ℤ}
    {msg : ControlMessage}
    (h : msg ∈ (recvPostOnOffer m msgId generation buffer length offer opened answer).2.sent) :
    msg ∈ m.sent ∨ msg.params
      = (negotiate m.conn.connectionCtx.params offer length).withTransferId generation := by
  unfold recvPostOnOffer at h
  dsimp only at h
  split at h
  · exact Or.inl h
  · split_ifs at h
    · exact Or.inl h
    · split at h
      · exact Or.inl h
      · have hcts : ∀ (m' : ReceiverMemory) (cts : ControlMessage), m'.sent = m.sent →
            msg ∈ (m'.sendMessage cts answer).sent → msg ∈ m.sent ∨ msg = cts := by
          intro m' cts hsame hmsg
          rcases m'.sendMessage_sent cts answer with hsent | hsent
          · exact Or.inl (hsame ▸ hsent ▸ hmsg)
          · rw [hsent, hsame, List.mem_append, List.mem_singleton] at hmsg
            exact hmsg
        split_ifs at h
        · exact Or.inl h
        · refine (hcts _ _ ?_ h).imp_right fun heq => ?_
          · rfl
          · rw [heq]
            rfl
        · refine (hcts _ _ ?_ h).imp_right fun heq => ?_
          · rfl
          · rw [heq]
            rfl

/-! ### One connection -/

/-- A CTS that is on its way to the sender, or that its handshake goes on with. -/
def Session.Carries (s : Session) (f : InFlight) : Prop :=
  (f ∈ s.toSender ∧ f.message.msgType = .cts) ∨ ∃ data, s.sending = .gotCts data f

/-- On a connection whose ends were configured with `own` and `offering`, everything that a
handshake has touched carries the agreed parameters. -/
structure Session.Agreed (own offering : ConnectionParams) (old : List ControlMessage)
    (s : Session) : Prop where
  receiver : s.receiver.conn.connectionCtx.params = own ∨
    s.receiver.conn.connectionCtx.params.lasting = agreedParams own offering
  sender : s.sender.connectionCtx.params = offering ∨
    s.sender.connectionCtx.params.lasting = agreedParams own offering ∧
      s.receiver.conn.connectionCtx.params.lasting = agreedParams own offering
  offers : ∀ msg ∈ s.toReceiver, msg.msgType = .offer →
    msg.params.numChannels = (agreedParams own offering).numChannels ∧
      (msg.params.lasting = (desiredParams offering 0).lasting ∨
        s.receiver.conn.connectionCtx.params.lasting = agreedParams own offering)
  cts : ∀ f, s.Carries f → f.message.params.lasting = agreedParams own offering ∧
      s.receiver.conn.connectionCtx.params.lasting = agreedParams own offering
  sent : ∀ msg ∈ s.receiver.sent, msg.msgType = .cts → msg ∉ old →
    msg.params.lasting = agreedParams own offering ∧
      s.receiver.conn.connectionCtx.params.lasting = agreedParams own offering
  sends : s.sends ≠ [] → s.sender.connectionCtx.params.lasting = agreedParams own offering ∧
    s.receiver.conn.connectionCtx.params.lasting = agreedParams own offering
  packets : ∀ send ∈ s.sends, ∀ p ∈ send.packets,
    p.header.packetsPerChunk = (agreedParams own offering).packetsPerChunk ∧
      p.payload.length ≤ (agreedParams own offering).mtuBytes.toNat

namespace Session

variable {own offering : ConnectionParams} {old : List ControlMessage} {s s' : Session}
  {recvId draws sendId : ℕ}

lemma agreed_fresh (receiver : ReceiverMemory) (sender : SDRConnection) :
    (fresh receiver sender).Agreed receiver.conn.connectionCtx.params sender.connectionCtx.params
      receiver.sent := by
  constructor
  case receiver => exact Or.inl rfl
  case sender => exact Or.inl rfl
  case offers => simp [fresh]
  case cts =>
    rintro f (⟨hf, -⟩ | ⟨data, hf⟩)
    · exact absurd hf List.not_mem_nil
    · exact SendPhase.noConfusion hf
  case sent => exact fun msg hmsg _ hold => absurd hmsg hold
  case sends => simp [fresh]
  case packets => simp [fresh]

/-- Events that put no new parameters anywhere. -/
lemma Agreed.calm (h : s.Agreed own offering old) (hreceiver : s.receiver.Calm s'.receiver)
    (hsender : s'.sender.connectionCtx.params = s.sender.connectionCtx.params)
    (hoffers : ∀ msg ∈ s'.toReceiver, msg.msgType = .offer → msg ∈ s.toReceiver)
    (hcts : ∀ f, s'.Carries f → s.Carries f) (hsends : s'.sends = s.sends) :
    s'.Agreed own offering old := by
  constructor
  case receiver => rw [hreceiver.params]; exact h.receiver
  case sender => rw [hreceiver.params, hsender]; exact h.sender
  case offers =>
    rw [hreceiver.params]
    exact fun msg hmsg htype => h.offers msg (hoffers msg hmsg htype) htype
  case cts =>
    rw [hreceiver.params]
    exact fun f hf => h.cts f (hcts f hf)
  case sent =>
    rw [hreceiver.params]
    exact fun msg hmsg htype => h.sent msg (hreceiver.sent msg hmsg htype) htype
  case sends => rw [hsends, hsender, hreceiver.params]; exact h.sends
  case packets => rw [hsends]; exact h.packets

/-- Only the sending phase changes, to one without a CTS. -/
lemma Carries.of_phase {f : InFlight} (h : s'.Carries f)
    (hqueue : ∀ f ∈ s'.toSender, f ∈ s.toSender)
    (hphase : ∀ data f, s'.sending ≠ .gotCts data f) : s.Carries f := by
  rcases h with ⟨hf, htype⟩ | ⟨data, hf⟩
  · exact Or.inl ⟨hqueue f hf, htype⟩
  · exact absurd hf (hphase data f)

lemma Agreed.run (h : s.Agreed own offering old) {p : Prog ReceiverMemory PUnit}
    (hp : Prog.Uses ReceiverAction p) : (s.run p).Agreed own offering old := by
  unfold Session.run
  split
  · exact h
  · rename_i m hrun
    exact h.calm (.run hp hrun) rfl (fun _ hmsg _ => hmsg) (fun _ hf => hf) rfl

lemma Agreed.recvPost (h : s.Agreed own offering old) (buffer length : ℕ) :
    (s.recvPost buffer length).Agreed own offering old := by
  unfold Session.recvPost
  split
  · split_ifs
    · exact h
    · exact h.calm ⟨rfl, fun _ hmsg _ => hmsg⟩ rfl (fun _ hmsg _ => hmsg) (fun _ hf => hf) rfl
  · exact h

lemma Agreed.takeAccept (h : s.Agreed own offering old) :
    s.takeAccept.Agreed own offering old := by
  unfold Session.takeAccept
  split
  · rename_i msg rest _ hqueue
    have hrest : ∀ msg ∈ rest, msg ∈ s.toReceiver := fun _ hmsg =>
      hqueue ▸ List.mem_cons_of_mem msg hmsg
    split_ifs
    · exact h
    · exact h.calm ⟨rfl, fun _ hmsg _ => hmsg⟩ rfl (fun msg hmsg _ => hrest msg hmsg)
        (fun _ hf => hf) rfl
    · exact h.calm ⟨rfl, fun _ hmsg _ => hmsg⟩ rfl (fun msg hmsg _ => hrest msg hmsg)
        (fun _ hf => hf) rfl
  · exact h

lemma Agreed.receiverLost (h : s.Agreed own offering old) :
    s.receiverLost.Agreed own offering old :=
  h.calm ⟨rfl, fun _ hmsg _ => hmsg⟩ rfl (fun _ hmsg _ => hmsg) (fun _ hf => hf) rfl

lemma recvComplete_calm (post : ℕ) (answer : ℤ) :
    s.receiver.Calm (s.recvComplete post answer).receiver := by
  unfold Session.recvComplete
  split
  · exact ⟨rfl, fun _ hmsg _ => hmsg⟩
  · rename_i p _
    dsimp only
    split
    · exact ⟨rfl, fun _ hmsg _ => hmsg⟩
    · rename_i m hrun
      have hcalm := ReceiverMemory.Calm.run
        ((sdrRecvComplete_uses p.handle answer).mono CompletionAction.receiverAction) hrun
      exact ⟨hcalm.params, hcalm.sent⟩

lemma Agreed.recvComplete (h : s.Agreed own offering old) (post : ℕ) (answer : ℤ) :
    (s.recvComplete post answer).Agreed own offering old := by
  have hcalm := s.recvComplete_calm post answer
  have hfilter := s.recvComplete_toSender post answer
  obtain ⟨hsender, -, hsending, hstream, -, hsends⟩ := s.recvComplete_frame post answer
  refine h.calm hcalm (by rw [hsender]) (fun msg hmsg _ => hstream ▸ hmsg) ?_ hsends
  rintro f (⟨hf, htype⟩ | ⟨data, hf⟩)
  · have hmem : f ∈ s.toSender.filter fun f => f.message.msgType = .cts :=
      hfilter ▸ List.mem_filter.mpr ⟨hf, decide_eq_true htype⟩
    exact Or.inl ⟨(List.mem_filter.mp hmem).1, htype⟩
  · exact Or.inr ⟨data, hsending ▸ hf⟩

/-- What the receiver makes of an OFFER. -/
lemma Agreed.negotiated (h : s.Agreed own offering old) {msg : ControlMessage}
    (hmsg : msg ∈ s.toReceiver) (htype : msg.msgType = .offer) (length : ℕ) :
    (negotiate s.receiver.conn.connectionCtx.params msg.params length).lasting
      = agreedParams own offering := by
  obtain ⟨hchannels, hoffer⟩ := h.offers msg hmsg htype
  rcases hoffer with hoffer | hagreed
  · rcases h.receiver with hown | hagreed
    · rw [hown]
      exact lasting_negotiate_congr hoffer length 0
    · exact lasting_negotiate_agreed hagreed hchannels length
  · exact lasting_negotiate_agreed hagreed hchannels length

/-- A taken OFFER leaves the receiver with the agreed parameters, and so the CTS. -/
lemma Agreed.takeOffer (h : s.Agreed own offering old) (generation : U32) (opened : Bool)
    (answer : ℤ) : (s.takeOffer recvId draws generation opened answer).Agreed own offering old := by
  unfold Session.takeOffer
  split
  · rename_i buffer length msg rest _ hqueue
    have hrest : ∀ msg ∈ rest, msg ∈ s.toReceiver := fun _ hmsg =>
      hqueue ▸ List.mem_cons_of_mem msg hmsg
    split_ifs with hclosed htype
    · exact h
    · exact h.calm ⟨rfl, fun _ hmsg _ => hmsg⟩ rfl (fun msg hmsg _ => hrest msg hmsg)
        (fun _ hf => hf) rfl
    · have hmsg : msg ∈ s.toReceiver := hqueue ▸ List.mem_cons_self
      have hnegotiated := h.negotiated hmsg (not_not.mp htype) length
      have hspec := recvPostOnOffer_spec s.receiver recvId generation buffer length msg.params
        opened answer
      have hsent : ∀ cts ∈ (recvPostOnOffer s.receiver recvId generation buffer length msg.params
          opened answer).2.sent, cts ∈ s.receiver.sent ∨
            cts.params.lasting = agreedParams own offering := fun cts hcts =>
        (sent_recvPostOnOffer hcts).imp_right fun heq => by
          rw [heq, lasting_withTransferId, hnegotiated]
      -- whatever comes of the post
      have hagreed : ∀ s' : Session, s'.receiver = (recvPostOnOffer s.receiver recvId generation
          buffer length msg.params opened answer).2 → s'.sender = s.sender →
          s'.toReceiver = rest → s'.sends = s.sends →
          (∀ f, s'.Carries f → s.Carries f ∨
            f.message.params.lasting = agreedParams own offering) →
          s'.Agreed own offering old := by
        intro s' hreceiver hsender hstream hsends hcarries
        have hparams : s'.receiver.conn.connectionCtx.params.lasting
            = agreedParams own offering := by
          rw [hreceiver, hspec.params, hnegotiated]
        constructor
        case receiver => exact Or.inr hparams
        case sender => rw [hsender]; exact h.sender.imp_right fun hs => ⟨hs.1, hparams⟩
        case offers =>
          rw [hstream]
          exact fun offer hoffer hofferType =>
            ⟨(h.offers offer (hrest offer hoffer) hofferType).1, Or.inr hparams⟩
        case cts =>
          intro f hf
          exact ⟨(hcarries f hf).elim (fun hold => (h.cts f hold).1) id, hparams⟩
        case sent =>
          intro cts hcts hctsType hold
          rw [hreceiver] at hcts
          exact ⟨(hsent cts hcts).elim (fun hmem => (h.sent cts hmem hctsType hold).1) id, hparams⟩
        case sends =>
          rw [hsends, hsender]
          exact fun hne => ⟨(h.sends hne).1, hparams⟩
        case packets => rw [hsends]; exact h.packets
      split
      · rename_i handle cts m hpost
        refine hagreed _ (by rw [hpost]) rfl rfl rfl ?_
        rintro f (⟨hf, hctsType⟩ | hf)
        · rcases List.mem_append.mp hf with hf | hf
          · exact Or.inl (Or.inl ⟨hf, hctsType⟩)
          · refine Or.inr ?_
            rw [List.mem_singleton.mp hf, (hspec.cts handle cts (by rw [hpost])).2,
              lasting_withTransferId, hnegotiated]
        · exact Or.inl (Or.inr hf)
      · rename_i outcome m _ hpost
        exact hagreed _ (by rw [hpost]) rfl rfl rfl fun f hf => Or.inl hf
  · exact h

/-! ### The sending end of it -/

/-- What leaves the client is the message or nothing. -/
lemma clientSends_calm (msg : ControlMessage) (answer : ℤ) :
    (s.clientSends msg answer).2.receiver = s.receiver ∧
      (s.clientSends msg answer).2.sender.connectionCtx = s.sender.connectionCtx ∧
      ∀ m ∈ (s.clientSends msg answer).2.toReceiver, m ∈ s.toReceiver ∨ m = msg := by
  unfold clientSends
  split
  · exact ⟨rfl, rfl, fun m hm => Or.inl hm⟩
  · refine ⟨rfl, rfl, fun m hm => ?_⟩
    dsimp only at hm
    split_ifs at hm
    · exact (List.mem_append.mp hm).imp_right List.mem_singleton.mp
    · exact Or.inl hm

/-- An OFFER asks for the sender's channels. -/
lemma Agreed.offered (h : s.Agreed own offering old) (length : ℕ) :
    (desiredParams s.sender.connectionCtx.params length).numChannels
        = (agreedParams own offering).numChannels ∧
      ((desiredParams s.sender.connectionCtx.params length).lasting
          = (desiredParams offering 0).lasting ∨
        s.receiver.conn.connectionCtx.params.lasting = agreedParams own offering) := by
  change orDefault s.sender.connectionCtx.params.numChannels 1 = _ ∧ _
  rcases h.sender with hsender | ⟨hsender, hreceiver⟩
  · rw [hsender]
    exact ⟨(agreedParams_numChannels own offering).symm, Or.inl rfl⟩
  · have hchannels := congrArg ConnectionParams.numChannels hsender
    change s.sender.connectionCtx.params.numChannels = _ at hchannels
    rw [hchannels, orDefault_of_ne (agreedParams_numChannels_ne_zero own offering)]
    exact ⟨rfl, Or.inr hreceiver⟩

lemma Agreed.sendPost (h : s.Agreed own offering old) (data : List U8) (answer : ℤ) :
    (s.sendPost data answer).Agreed own offering old := by
  unfold Session.sendPost
  split
  · split_ifs
    · exact h
    · obtain ⟨-, hsends, htoSender, -, -, hsending⟩ := s.clientSends_frame
        (offerMessage s.sender.connectionCtx data.length) answer
      obtain ⟨hreceiver, hsender, hstream⟩ := s.clientSends_calm
        (offerMessage s.sender.connectionCtx data.length) answer
      dsimp only
      generalize s.clientSends (offerMessage s.sender.connectionCtx data.length) answer = result
        at *
      have hsent : result.2.Agreed own offering old := by
        constructor
        case receiver => rw [hreceiver]; exact h.receiver
        case sender => rw [hreceiver, hsender]; exact h.sender
        case offers =>
          intro msg hmsg htype
          rw [hreceiver]
          rcases hstream msg hmsg with hold | rfl
          · exact h.offers msg hold htype
          · exact h.offered data.length
        case cts =>
          rintro f (hf | hf)
          · rw [hreceiver]
            exact h.cts f (Or.inl (htoSender ▸ hf))
          · rw [hreceiver]
            exact h.cts f (Or.inr (hsending ▸ hf))
        case sent => rw [hreceiver]; exact h.sent
        case sends => rw [hsends, hsender, hreceiver]; exact h.sends
        case packets => rw [hsends]; exact h.packets
      split_ifs
      · refine hsent.calm ⟨rfl, fun _ hmsg _ => hmsg⟩ rfl (fun _ hmsg _ => hmsg)
          (fun f hf => ?_) rfl
        exact hf.of_phase (fun _ hf => hf) fun _ _ => SendPhase.noConfusion
      · exact hsent
  · exact h

lemma Agreed.takeCts (h : s.Agreed own offering old) (answer : ℤ) :
    (s.takeCts answer).Agreed own offering old := by
  unfold Session.takeCts
  split
  · rename_i data f rest hsending hqueue
    have hrest : ∀ g ∈ rest, g ∈ s.toSender := fun _ hg => hqueue ▸ List.mem_cons_of_mem f hg
    have hf : f ∈ s.toSender := hqueue ▸ List.mem_cons_self
    split_ifs with hclosed htype
    · exact h
    · refine h.calm ⟨rfl, fun _ hmsg _ => hmsg⟩ rfl (fun _ hmsg _ => hmsg) (fun g hg => ?_) rfl
      exact hg.of_phase hrest fun _ _ hgot => SendPhase.noConfusion (hsending.symm.trans hgot)
    · obtain ⟨-, hsends, -, -, -, -⟩ := s.clientSends_frame (acceptMessage f.message) answer
      obtain ⟨hreceiver, hsender, hstream⟩ := s.clientSends_calm (acceptMessage f.message) answer
      refine h.calm ⟨?_, ?_⟩ (congrArg ConnectionContext.params hsender) (fun msg hmsg hoffer => ?_)
        (fun g hg => ?_) hsends
      · exact congrArg (fun m => m.conn.connectionCtx.params) hreceiver
      · exact fun msg hmsg _ => hreceiver ▸ hmsg
      · rcases hstream msg hmsg with hold | rfl
        · exact hold
        · exact absurd hoffer ControlMsgType.noConfusion
      · rcases hg with ⟨hg, hcts⟩ | ⟨data', hgot⟩
        · exact Or.inl ⟨hrest g hg, hcts⟩
        · obtain ⟨-, rfl⟩ := SendPhase.gotCts.inj hgot
          exact Or.inl ⟨hf, not_not.mp htype⟩
  · exact h

lemma Agreed.sendPoll (h : s.Agreed own offering old) (send : ℕ) :
    (s.sendPoll send).Agreed own offering old := by
  unfold Session.sendPoll
  split
  · split_ifs
    · refine h.calm ⟨rfl, fun _ hmsg _ => hmsg⟩ rfl (fun _ hmsg _ => hmsg) (fun g hg => ?_) rfl
      exact hg.of_phase (fun _ hg => hg) fun _ _ => SendPhase.noConfusion
    · exact h
  · exact h

lemma Agreed.takeCompletion (h : s.Agreed own offering old) :
    s.takeCompletion.Agreed own offering old := by
  unfold Session.takeCompletion
  split
  · rename_i send f rest _ hqueue
    split_ifs
    · exact h
    · refine h.calm ⟨rfl, fun _ hmsg _ => hmsg⟩ rfl (fun _ hmsg _ => hmsg) (fun g hg => ?_) rfl
      refine hg.of_phase (fun g hg => hqueue ▸ List.mem_cons_of_mem f hg) fun _ _ hgot => ?_
      exact SendPhase.noConfusion hgot
    · refine h.calm ⟨rfl, fun _ hmsg _ => hmsg⟩ rfl (fun _ hmsg _ => hmsg) (fun g hg => ?_) rfl
      refine hg.of_phase (fun g hg => hqueue ▸ List.mem_cons_of_mem f hg) fun _ _ hgot => ?_
      exact SendPhase.noConfusion hgot
  · exact h

lemma Agreed.senderLost (h : s.Agreed own offering old) :
    s.senderLost.Agreed own offering old := by
  unfold Session.senderLost
  split
  · refine h.calm ⟨rfl, fun _ hmsg _ => hmsg⟩ rfl (fun _ hmsg _ => hmsg) (fun g hg => ?_) rfl
    exact hg.of_phase (fun _ hg => hg) fun _ _ => SendPhase.noConfusion
  · refine h.calm ⟨rfl, fun _ hmsg _ => hmsg⟩ rfl (fun _ hmsg _ => hmsg) (fun g hg => ?_) rfl
    exact hg.of_phase (fun _ hg => hg) fun _ _ => SendPhase.noConfusion
  · exact h

/-- The sender takes over what the CTS carries, and builds its packets with it. -/
lemma Agreed.finishSend (h : s.Agreed own offering old) (socketReady : Bool) :
    (s.finishSend sendId socketReady).Agreed own offering old := by
  unfold Session.finishSend
  split
  · rename_i data f hgot
    obtain ⟨hcts, hreceiver⟩ := h.cts f (Or.inr ⟨data, hgot⟩)
    have hparams := sendPostOnCts_params s.sender sendId data f.message socketReady
    have hagreed : ∀ s' : Session, s'.receiver = s.receiver → s'.toReceiver = s.toReceiver →
        s'.toSender = s.toSender → s'.sending = .idle →
        s'.sender.connectionCtx.params = f.message.params →
        (∀ send ∈ s'.sends, send ∈ s.sends ∨ ∀ p ∈ send.packets,
          p.header.packetsPerChunk = (agreedParams own offering).packetsPerChunk ∧
            p.payload.length ≤ (agreedParams own offering).mtuBytes.toNat) →
        s'.Agreed own offering old := by
      intro s' hsame hstream hqueue hidle hsender hsends
      have hs' : s'.sender.connectionCtx.params.lasting = agreedParams own offering := by
        rw [hsender, hcts]
      constructor
      case receiver => rw [hsame]; exact h.receiver
      case sender => rw [hsame]; exact Or.inr ⟨hs', hreceiver⟩
      case offers => rw [hsame, hstream]; exact h.offers
      case cts =>
        rw [hsame]
        refine fun g hg => h.cts g (hg.of_phase (fun g hg => hqueue ▸ hg) fun _ _ hgot => ?_)
        exact SendPhase.noConfusion (hidle.symm.trans hgot)
      case sent => rw [hsame]; exact h.sent
      case sends => rw [hsame]; exact fun _ => ⟨hs', hreceiver⟩
      case packets => exact fun send hsend => (hsends send hsend).elim (h.packets send) id
    split
    · rename_i handle packets conn hpost
      rw [hpost] at hparams
      refine hagreed _ rfl rfl rfl rfl hparams fun send hsend => ?_
      refine (List.mem_append.mp hsend).imp_right fun hsend p hp => ?_
      obtain rfl := List.mem_singleton.mp hsend
      obtain ⟨o, hpacket⟩ := (packets_of_sendPostOnCts hpost).2 p hp
      have hppc := congrArg ConnectionParams.packetsPerChunk hcts
      have hmtu := congrArg ConnectionParams.mtuBytes hcts
      rw [← hppc, ← hmtu]
      exact ⟨packetsPerChunk_dataPacket hpacket, length_payload_dataPacket hpacket⟩
    · rename_i outcome conn _ hpost
      rw [hpost] at hparams
      exact hagreed _ rfl rfl rfl rfl hparams fun send hsend => Or.inl hsend
  · exact h

/-- Every event keeps to the agreed parameters. -/
lemma Agreed.step (h : s.Agreed own offering old) (e : SessionEvent) :
    (s.step recvId draws sendId e).Agreed own offering old := by
  cases e with
  | recvPost buffer length => exact h.recvPost buffer length
  | takeOffer generation opened answer => exact h.takeOffer generation opened answer
  | takeAccept => exact h.takeAccept
  | receiverLost => exact h.receiverLost
  | packet bytes => exact h.run (receiveDatagram_uses bytes)
  | poll msgId => exact h.run (pollingRound_uses msgId)
  | recvComplete post answer => exact h.recvComplete post answer
  | sendPost data answer => exact h.sendPost data answer
  | takeCts answer => exact h.takeCts answer
  | finishSend socketReady => exact h.finishSend socketReady
  | sendPoll send => exact h.sendPoll send
  | takeCompletion => exact h.takeCompletion
  | senderLost => exact h.senderLost

end Session

/-! ### Whole runs -/

namespace Network

/-- Whatever happens on a connection and elsewhere, the two configurations settle its parameters:
every CTS carries them, both ends hold them once a send has got its handle, and every data packet is
cut to them. -/
theorem params_agree {w : Network} {i : ℕ} {receiver : ReceiverMemory} {sender : SDRConnection}
    (hfresh : w.sessions i = .fresh receiver sender) (events : List (ℕ × SessionEvent)) :
    let s := (events.foldl step w).sessions i
    let agreed := agreedParams receiver.conn.connectionCtx.params sender.connectionCtx.params
    (∀ msg ∈ s.receiver.sent, msg.msgType = .cts → msg ∉ receiver.sent →
      msg.params.lasting = agreed) ∧
    (∀ f, s.Carries f → f.message.params.lasting = agreed) ∧
    (s.sends ≠ [] → s.sender.connectionCtx.params.lasting = agreed ∧
      s.receiver.conn.connectionCtx.params.lasting = agreed) ∧
    ∀ send ∈ s.sends, ∀ p ∈ send.packets,
      p.header.packetsPerChunk = agreed.packetsPerChunk ∧
        p.payload.length ≤ agreed.mtuBytes.toNat := by
  intro s agreed
  have hagreed : s.Agreed receiver.conn.connectionCtx.params sender.connectionCtx.params
      receiver.sent := by
    refine foldl_keeps (P := fun w : Network => (w.sessions i).Agreed _ _ _)
      (fun w e _ h => session_step h e fun _ _ _ _ _ => h.step e.2) ?_
    rw [hfresh]
    exact Session.agreed_fresh receiver sender
  exact ⟨fun msg hmsg htype hold => (hagreed.sent msg hmsg htype hold).1,
    fun f hf => (hagreed.cts f hf).1, hagreed.sends, hagreed.packets⟩

/-- A handshake on the second connection of the sample. -/
theorem params_agree_sample :
    let s := ((handshake 1).foldl step sample).sessions 1
    s.sends ≠ [] ∧ s.sender.connectionCtx.params.lasting
      = agreedParams ReceiverMemory.idle.conn.connectionCtx.params
        (SDRConnection.idleSender 2).connectionCtx.params := by
  have hsends : (((handshake 1).foldl step sample).sessions 1).sends ≠ [] := by decide +kernel
  exact ⟨hsends, ((params_agree (w := sample) (i := 1) rfl (handshake 1)).2.2.1 hsends).1⟩

end Network

end SdrUdp
