import SdrUdp.Completion
import SdrUdp.SrTrap

/-!
# The plain API from end to end

`sdr_send_post` hands every packet to the network once, the application at the receiver ends the
transfer with `sdr_recv_complete` when it likes, and `sdr_send_poll` waits for the verdict. Nothing
is sent again.
-/

namespace SdrUdp

open SdrUdp.Core

/-- A message whose posts have met: the receive has sent its CTS, and the send has taken it. -/
structure PlainPost where
  receiver : ReceiverMemory
  sender : SDRConnection
  data : List U8
  msgId : ℕ
  generation : U32
  buffer : ℕ
  offer : ConnectionParams
  opened : Bool
  answer : ℤ
  recvHandle : SDRRecvHandle
  cts : ControlMessage
  posted : ReceiverMemory
  sendHandle : SDRSendHandle
  packets : List SDRPacket
  sent : SDRConnection
  data_ne : data ≠ []
  receives : recvPostOnOffer receiver msgId generation buffer data.length offer opened answer
    = (.ready recvHandle (some cts), posted)
  sends : sendPostOnCts sender msgId data cts true = (.sent sendHandle packets, sent)
  packets_le : data.length ≤ 2 ^ 18 * cts.params.mtuBytes.toNat

/-- The link to the receiver, the sender in and out of `sdr_send_poll`, the number of control
messages that it has taken, and whether `sdr_recv_complete` has been called. -/
structure PlainTransfer where
  link : Link
  connected : Bool
  state : PollState
  consumed : ℕ
  completing : Bool

namespace PlainTransfer

/-- `receive_message` in `sdr_send_poll` finds `e`. -/
def event (e : ChannelEvent) (s : PlainTransfer) : PlainTransfer :=
  let poll := Poll.sendStep 0 s.connected s.state e
  { s with connected := poll.connected, state := poll.state }

/-- The sender is inside a call of `sdr_send_poll`. -/
def Waits (s : PlainTransfer) : Prop := ∀ rc, s.state ≠ .returned rc

/-- The application calls `sdr_recv_complete`. -/
def complete (handle : SDRRecvHandle) (answer : ℤ) (s : PlainTransfer) : PlainTransfer :=
  { s with link := s.link.call 0 (sdrRecvComplete handle answer), completing := true }

variable (handle : SDRRecvHandle)

/-- One step without a loss: of the link, of the application, which may end the transfer, or of the
sender, which calls `sdr_send_poll`, takes the next control message or waits in vain. -/
inductive Step : PlainTransfer → PlainTransfer → Prop
  | link {s : PlainTransfer} {l : Link} (h : s.link.Step handle.msgId l) :
      Step s { s with link := l }
  | complete {s : PlainTransfer} (idle : s.link.pool.threads (.app 0) = .done ⟨⟩) :
      Step s (s.complete handle sizeofControlMessage)
  | call {s : PlainTransfer} {rc : ℤ} (h : s.state = .returned rc) :
      Step s { s with state := enterSendPoll s.connected false }
  | deliver {s : PlainTransfer} {msg : ControlMessage} (waits : s.Waits)
    (h : s.link.memory.sent[s.consumed]? = some msg) :
      Step s { s.event (.message true msg) with consumed := s.consumed + 1 }
  | timeout {s : PlainTransfer} (waits : s.Waits) : Step s (s.event .timeout)

/-- One step of a run: packets and the verdict get lost, and the control connection may break. -/
inductive LossyStep : PlainTransfer → PlainTransfer → Prop
  | step {s s' : PlainTransfer} (h : Step handle s s') : LossyStep s s'
  | lose {s : PlainTransfer} (p : SDRPacket) : LossyStep s { s with link := s.link.lose p }
  | complete {s : PlainTransfer} (idle : s.link.pool.threads (.app 0) = .done ⟨⟩) (answer : ℤ) :
      LossyStep s (s.complete handle answer)
  | disconnect {s : PlainTransfer} (waits : s.Waits) : LossyStep s (s.event .disconnected)

/-- Without a further loss `sdr_send_poll` can return 0. -/
def GetsThrough (s : PlainTransfer) : Prop :=
  ∃ s', Relation.ReflTransGen (Step handle) s s' ∧ s'.state = .returned 0

end PlainTransfer

/-- The transfer when both posts have returned; `sdr_send_poll` was not called yet. -/
def PlainPost.transfer (h : PlainPost) : PlainTransfer where
  link := ⟨Pool.start h.posted, h.packets, fun _ => none⟩
  connected := true
  state := .returned (-1)
  consumed := h.posted.sent.length
  completing := false

/-! ### The threads of the receiver -/

/-- What the threads of the receiver run: the workers process packets of `packets`. -/
inductive PlainProgram (packets : Set SDRPacket) (handle : SDRRecvHandle) :
    Thread → Prog ReceiverMemory PUnit → Prop
  | worker (i : ℕ) (p : SDRPacket) (hp : p ∈ packets) :
      PlainProgram packets handle (.worker i) (receiveDatagram p.datagram)
  | poll : PlainProgram packets handle .poller (pollingRound handle.msgId)
  | complete (answer : ℤ) : PlainProgram packets handle (.app 0) (sdrRecvComplete handle answer)

/-- A message in its two views, and the packets that carry it. -/
structure Carried (t : Transfer) (b : BitmapPair) (handle : SDRRecvHandle)
    (packets : List SDRPacket) : Prop where
  transfer : t.Fits
  bitmaps : b.Fits
  slot : handle.msgId = t.slot
  bitmapSlot : handle.msgId = b.slot
  totalPackets : b.totalPackets = t.totalPackets
  made : ∃ transferId packetsPerChunk, ∀ p ∈ packets, ∃ o < t.totalPackets,
    dataPacket transferId handle.msgId packetsPerChunk t.mtuBytes t.data o = some p
  accepts : ∀ p ∈ packets, b.Accepts p

/-- The packets fit the bitmaps. -/
lemma Carried.offset_lt {t : Transfer} {b : BitmapPair} {handle : SDRRecvHandle}
    {packets : List SDRPacket} (hc : Carried t b handle packets) {p : SDRPacket}
    (hp : p ∈ packets) :
    p.header.packetOffset.toNat < b.totalPackets := by
  obtain ⟨transferId, packetsPerChunk, hmade⟩ := hc.made
  obtain ⟨o, ho, hpacket⟩ := hmade p hp
  obtain ⟨p', hp', -, -, hoffset, -⟩ := dataPacket_spec transferId handle.msgId packetsPerChunk
    hc.transfer.mtuBytes_le t.data o
  obtain rfl := Option.some.inj (hpacket.symm.trans hp')
  rw [hoffset, BitVec.toNat_ofNat, hc.totalPackets]
  exact (Nat.mod_le _ _).trans_lt ho

namespace PlainProgram

variable {packets packets' : Set SDRPacket} {handle : SDRRecvHandle} {th : Thread}
  {program : Prog ReceiverMemory PUnit}

lemma mono (hsub : packets ⊆ packets') (h : PlainProgram packets handle th program) :
    PlainProgram packets' handle th program := by
  cases h with
  | worker i p hp => exact .worker i p (hsub hp)
  | poll => exact .poll
  | complete answer => exact .complete answer

/-- The bitmaps see the offsets of the packets. -/
lemma bitmapProgram {b : BitmapPair} (hslot : handle.msgId = b.slot) {delivered : Set ℕ}
    (hpackets : ∀ p ∈ packets, b.Accepts p ∧ p.header.packetOffset.toNat ∈ delivered)
    (h : PlainProgram packets handle th program) : BitmapProgram b delivered th program := by
  cases h with
  | worker i p hp =>
    obtain ⟨haccepts, hoffset⟩ := hpackets p hp
    rw [receiveDatagram, haccepts.parse]
    exact .packet i _ _ fun _ _ => hoffset
  | poll => exact hslot ▸ .poll
  | complete answer => exact .complete 0 handle hslot answer

end PlainProgram

/-! ### What a step does -/

namespace PlainTransfer

variable {handle : SDRRecvHandle} {s s' : PlainTransfer}

/-- The pool of threads makes one of its steps or none. -/
lemma LossyStep.pool (hstep : LossyStep handle s s') : s'.link.pool = s.link.pool ∨
    Pool.Step (PlainProgram {p | p ∈ s.link.flight} handle) s.link.pool s'.link.pool := by
  cases hstep with
  | step hstep =>
    cases hstep with
    | link hl =>
      cases hl with
      | receive i p hp idle => exact Or.inr (.spawn _ _ idle (.worker i p hp))
      | poll idle => exact Or.inr (.spawn _ _ idle .poll)
      | move hmove =>
        refine Or.inr ?_
        cases hmove with
        | spawn th p idle hallowed => exact hallowed.elim
        | act th f next hact => exact .act th f next hact
        | wake th ready next hwait hr => exact .wake th ready next hwait hr
      | duplicate p hp => exact Or.inl rfl
    | complete idle => exact Or.inr (.spawn _ _ idle (.complete _))
    | call h => exact Or.inl rfl
    | deliver waits h => exact Or.inl rfl
    | timeout waits => exact Or.inl rfl
  | lose p => exact Or.inl rfl
  | complete idle answer => exact Or.inr (.spawn _ _ idle (.complete answer))
  | disconnect waits => exact Or.inl rfl

/-- No packet is new in the network. -/
lemma LossyStep.flight (hstep : LossyStep handle s s') {p : SDRPacket} (hp : p ∈ s'.link.flight) :
    p ∈ s.link.flight := by
  cases hstep with
  | step hstep =>
    cases hstep with
    | link hl =>
      cases hl with
      | receive i q hq idle => exact List.mem_of_mem_erase hp
      | poll idle => exact hp
      | move hmove => exact hp
      | duplicate q hq => exact (List.mem_cons.mp hp).elim (fun heq => heq ▸ hq) id
    | complete idle => exact hp
    | call h => exact hp
    | deliver waits h => exact hp
    | timeout waits => exact hp
  | lose q => exact List.mem_of_mem_erase hp
  | complete idle answer => exact hp
  | disconnect waits => exact hp

lemma LossyStep.undecided (hstep : LossyStep handle s s') (hundecided : s'.completing = false) :
    s.completing = false := by
  cases hstep with
  | step hstep =>
    cases hstep with
    | complete idle => exact Bool.noConfusion hundecided
    | _ => exact hundecided
  | complete idle answer => exact Bool.noConfusion hundecided
  | _ => exact hundecided

lemma LossyStep.consumed_le (hstep : LossyStep handle s s') : s.consumed ≤ s'.consumed := by
  cases hstep with
  | step hstep =>
    cases hstep with
    | deliver waits h => exact Nat.le_succ _
    | _ => exact le_rfl
  | _ => exact le_rfl

/-- One round of the loop in `sdr_send_poll`. -/
lemma event_of_waits (hwaits : s.Waits) (e : ChannelEvent) : s.event e = { s with
    connected := (e.seen s.connected).keepsConnection
    state := (sendPollRound (e.seen s.connected)).elim s.state .returned } := by
  have hstep : Poll.sendStep 0 s.connected s.state e =
      .send 0 (e.seen s.connected).keepsConnection
        ((sendPollRound (e.seen s.connected)).elim s.state .returned) := by
    unfold Poll.sendStep
    cases hstate : s.state with
    | returned rc => exact absurd hstate (hwaits rc)
    | main => cases hround : sendPollRound (e.seen s.connected) <;> simp [hround]
    | sendPoll afterTimeout =>
      cases hround : sendPollRound (e.seen s.connected) <;> simp [hround]
  rw [event, hstep]
  rfl

/-- A round that leaves the connection open has found it open. -/
lemma connected_of_event (hwaits : s.Waits) {e : ChannelEvent}
    (hconn : (s.event e).connected = true) : s.connected = true ∧ e ≠ .disconnected := by
  rw [event_of_waits hwaits] at hconn
  cases hopen : s.connected with
  | true => exact ⟨rfl, by rintro rfl; simp [hopen, ChannelEvent.seen,
      ChannelEvent.keepsConnection] at hconn⟩
  | false => simp [hopen, ChannelEvent.seen, ChannelEvent.keepsConnection] at hconn

/-- A round that returns 0 on an open connection has found a COMPLETE_ACK. -/
lemma completeAck_of_event (hwaits : s.Waits) {e : ChannelEvent}
    (hconn : (s.event e).connected = true) (hreturned : (s.event e).state = .returned 0) :
    ∃ own msg, e = .message own msg ∧ msg.msgType = .completeAck := by
  obtain ⟨hopen, hne⟩ := connected_of_event hwaits hconn
  rw [event_of_waits hwaits, hopen] at hreturned
  cases e with
  | message own msg =>
    refine ⟨own, msg, rfl, ?_⟩
    by_contra hother
    by_cases hnack : msg.msgType = .incompleteNack
    · simp [ChannelEvent.seen, sendPollRound, hnack] at hreturned
    · simp [ChannelEvent.seen, sendPollRound, hother, hnack] at hreturned
      exact hwaits 0 hreturned
  | timeout =>
    simp [ChannelEvent.seen, sendPollRound] at hreturned
    exact absurd hreturned (hwaits 0)
  | disconnected => exact absurd rfl hne

/-- When `sdr_send_poll` has returned 0 on an open connection, it had done so before, or it takes a
COMPLETE_ACK. -/
lemma LossyStep.returned (hstep : LossyStep handle s s') (hconn : s'.connected = true)
    (hreturned : s'.state = .returned 0) : s.connected = true ∧ (s.state = .returned 0 ∨
      ∃ msg, s.link.memory.sent[s.consumed]? = some msg ∧ msg.msgType = .completeAck) := by
  cases hstep with
  | step hstep =>
    cases hstep with
    | link hl => exact ⟨hconn, Or.inl hreturned⟩
    | complete idle => exact ⟨hconn, Or.inl hreturned⟩
    | call h =>
      have hopen : s.connected = true := hconn
      simp [enterSendPoll, hopen] at hreturned
    | deliver waits h =>
      refine ⟨(connected_of_event waits hconn).1, Or.inr ?_⟩
      obtain ⟨_, msg, heq, hack⟩ := completeAck_of_event waits hconn hreturned
      exact ⟨msg, (ChannelEvent.message.inj heq).2 ▸ h, hack⟩
    | timeout waits =>
      obtain ⟨_, _, heq, -⟩ := completeAck_of_event waits hconn hreturned
      exact ChannelEvent.noConfusion heq
  | lose p => exact ⟨hconn, Or.inl hreturned⟩
  | complete idle answer => exact ⟨hconn, Or.inl hreturned⟩
  | disconnect waits =>
    obtain ⟨_, _, heq, -⟩ := completeAck_of_event waits hconn hreturned
    exact ChannelEvent.noConfusion heq

/-! ### What has arrived -/

section Delivery

variable {t : Transfer} {b : BitmapPair} {packets : List SDRPacket} {m₀ : ReceiverMemory}

/-- The buffer gets the bytes of the message only, and the sender is told the truth. -/
structure Delivering (t : Transfer) (packets : List SDRPacket) (m₀ : ReceiverMemory)
    (s : PlainTransfer) : Prop where
  flight : ∀ p ∈ s.link.flight, p ∈ packets
  consumed : m₀.sent.length ≤ s.consumed
  meeting : s.link.pool.Meeting (t.Inv Set.univ True m₀) t.rely t.guarantee
  whole : s.connected = true → s.state = .returned 0 → ∀ o < t.totalPackets, t.Right s.link.memory o

/-- A message taken after the post is one of those sent after it. -/
lemma mem_of_consumed {sent new : List ControlMessage} {n : ℕ} {msg : ControlMessage}
    (hle : sent.length ≤ n) (hget : (sent ++ new)[n]? = some msg) : msg ∈ new := by
  rw [List.getElem?_append_right hle] at hget
  exact List.mem_of_getElem? hget

lemma Delivering.lossyStep (hc : Carried t b handle packets) (h : s.Delivering t packets m₀)
    (hstep : LossyStep handle s s') : s'.Delivering t packets m₀ := by
  obtain ⟨transferId, packetsPerChunk, hmade⟩ := hc.made
  have hprogram : ∀ th p, PlainProgram {p | p ∈ s.link.flight} handle th p →
      ReceiverProgram t transferId packetsPerChunk Set.univ handle True th p := by
    intro th program hp
    cases hp with
    | worker i p hp =>
      obtain ⟨o, ho, hpacket⟩ := hmade p (h.flight p hp)
      exact .worker i o p (Set.mem_univ o) ho hpacket
    | poll => exact .poll
    | complete answer => exact .complete 0 answer trivial
  have hmoved : s'.link.pool.Meeting (t.Inv Set.univ True m₀) t.rely t.guarantee ∧
      t.Evolves s.link.memory s'.link.memory := by
    rcases hstep.pool with hsame | hpool
    · rw [Link.memory, Link.memory, hsame]
      exact ⟨h.meeting, Std.Refl.refl _⟩
    · have hmeets : ∀ th p m, PlainProgram {p | p ∈ s.link.flight} handle th p →
          t.Inv Set.univ True m₀ m → Prog.Meets (t.Inv Set.univ True m₀) (t.rely th)
            (t.guarantee th) (fun _ _ => True) p m := fun th p _ hp hI =>
        Transfer.program_meets hc.transfer hc.slot (hprogram th p hp) hI
      have hrely : ∀ th th' m m', th ≠ th' → t.Inv Set.univ True m₀ m →
          t.Inv Set.univ True m₀ m' → t.guarantee th m m' → t.rely th' m m' :=
        fun _ _ _ _ hne _ _ => Transfer.rely_of_guarantee hne
      refine ⟨h.meeting.step hrely hmeets hpool, ?_⟩
      refine h.meeting.steps_rel (P := t.Evolves) hrely hmeets (fun th m m' hG => ?_)
        (.single hpool)
      cases th with
      | poller => exact hG
      | worker i => exact hG.toEvolves
      | app i => exact hG.toEvolves
  refine ⟨fun p hp => h.flight p (hstep.flight hp), h.consumed.trans hstep.consumed_le, hmoved.1,
    fun hconn hreturned o ho => hmoved.2.right o ?_⟩
  obtain ⟨hopen, hbefore | ⟨msg, hget, hack⟩⟩ := hstep.returned hconn hreturned
  · exact h.whole hopen hbefore o ho
  · obtain ⟨new, hnew, hacks⟩ := h.meeting.1.acks
    rw [Link.memory, hnew] at hget
    exact hacks msg (mem_of_consumed h.consumed hget) hack o ho

/-! ### A lost packet -/

/-- Packet `o` never arrives, and the sender is not told that it has. -/
structure Lost (b : BitmapPair) (m₀ : ReceiverMemory) (o : ℕ) (s : PlainTransfer) : Prop where
  flight : ∀ p ∈ s.link.flight, b.Accepts p ∧ p.header.packetOffset.toNat ∈ ({o}ᶜ : Set ℕ)
  consumed : m₀.sent.length ≤ s.consumed
  meeting : s.link.pool.Meeting (b.Inv {o}ᶜ m₀) (fun _ => b.Grows) fun _ => b.Grows
  unanswered : s.connected = true → s.state ≠ .returned 0

lemma Lost.lossyStep (hfits : b.Fits) (hslot : handle.msgId = b.slot) {o : ℕ}
    (ho : o < b.totalPackets) (h : s.Lost b m₀ o) (hstep : LossyStep handle s s') :
    s'.Lost b m₀ o := by
  refine ⟨fun p hp => h.flight p (hstep.flight hp), h.consumed.trans hstep.consumed_le, ?_, ?_⟩
  · rcases hstep.pool with hsame | hpool
    · rw [hsame]
      exact h.meeting
    · exact h.meeting.step BitmapPair.rely_grows (fun th p m hp =>
        BitmapPair.program_meets hfits th p m (hp.bitmapProgram hslot h.flight)) hpool
  · intro hconn hreturned
    obtain ⟨hopen, hbefore | ⟨msg, hget, hack⟩⟩ := hstep.returned hconn hreturned
    · exact h.unanswered hopen hbefore
    · obtain ⟨new, hnew, hacks⟩ := h.meeting.1.acks
      rw [Link.memory, hnew] at hget
      have hreceived := hacks msg (mem_of_consumed h.consumed hget) hack o ho
      exact (h.meeting.1.packets o hreceived).1 rfl

/-! ### Before the completion -/

/-- `sdr_recv_complete` was not called yet. What the workers have taken is recorded or still in
their hands. -/
structure Undecided (b : BitmapPair) (handle : SDRRecvHandle) (packets : List SDRPacket)
    (m₀ : ReceiverMemory) (s : PlainTransfer) : Prop where
  link : s.link.Inv b (b.Announcing m₀.sent.length)
  resting : s.link.Resting
  sent : s.link.memory.sent = m₀.sent
  consumed : s.consumed = m₀.sent.length
  unanswered : s.connected = true → s.state ≠ .returned 0
  taken : ∃ taken : Set SDRPacket, (∀ p ∈ taken, p ∈ packets) ∧
    Pool.Reachable (PlainProgram taken handle) m₀ s.link.pool ∧
    ∀ p ∈ taken, p.header.packetOffset.toNat ∈ b.received s.link.memory ∨
      ∃ i, s.link.hands i = some p

lemma Undecided.link_step (hc : Carried t b handle packets)
    (hflight : ∀ p ∈ s.link.flight, p ∈ packets) (h : s.Undecided b handle packets m₀) {l : Link}
    (hl : s.link.Step handle.msgId l) :
    Undecided b handle packets m₀ { s with link := l } := by
  obtain ⟨taken, hsub, hreachable, hplace⟩ := h.taken
  rw [hc.bitmapSlot] at hl
  obtain ⟨hinv, hgrows⟩ := h.link.step hc.bitmaps (b.stable_announcing _) hl
  obtain ⟨hrest, hsent⟩ := h.link.step_resting hl h.resting
  refine ⟨hinv, hrest, hsent.trans h.sent, h.consumed, h.unanswered, ?_⟩
  cases hl with
  | receive i q hq idle =>
    refine ⟨insert q taken, fun p hp => ?_, ?_, fun p hp => ?_⟩
    · exact hp.elim (fun heq => heq ▸ hflight q hq) (hsub p)
    · exact (Pool.steps_mono (fun _ _ => PlainProgram.mono (Set.subset_insert q taken))
        hreachable).tail (.spawn _ _ idle (.worker i q (Set.mem_insert q taken)))
    · rcases hp with rfl | hp
      · exact Or.inr ⟨i, s.link.receive_hands_self i p⟩
      · rcases hplace p hp with hreceived | ⟨j, hj⟩
        · exact Or.inl hreceived
        · by_cases hij : j = i
          · exact Or.inl (h.link.recorded_of_idle (hij ▸ idle) hj (hc.offset_lt (hsub p hp)))
          · exact Or.inr ⟨j, (Link.receive_hands_of_ne hij q s.link).trans hj⟩
  | poll idle =>
    exact ⟨taken, hsub, hreachable.tail (.spawn _ _ idle (hc.bitmapSlot ▸ .poll)), hplace⟩
  | move hmove =>
    refine ⟨taken, hsub, hreachable.trans (Pool.steps_mono (fun _ _ => False.elim) (.single hmove)),
      fun p hp => (hplace p hp).imp_left fun hreceived => hgrows.received hreceived⟩
  | duplicate q hq => exact ⟨taken, hsub, hreachable, hplace⟩

/-- What the sender does leaves the receiver alone. -/
lemma Undecided.sender (h : s.Undecided b handle packets m₀) {connected : Bool} {state : PollState}
    (hunanswered : connected = true → state ≠ .returned 0) :
    Undecided b handle packets m₀ { s with connected, state } :=
  ⟨h.link, h.resting, h.sent, h.consumed, hunanswered, h.taken⟩

lemma Undecided.lossyStep (hc : Carried t b handle packets)
    (hflight : ∀ p ∈ s.link.flight, p ∈ packets) (h : s.Undecided b handle packets m₀)
    (hstep : LossyStep handle s s') (hundecided : s'.completing = false) :
    s'.Undecided b handle packets m₀ := by
  have hnone : ∀ n, s.consumed ≤ n → s.link.memory.sent[n]? = none := by
    intro n hn
    rw [h.sent, List.getElem?_eq_none_iff, ← h.consumed]
    exact hn
  have hunanswered : s'.connected = true → s'.state ≠ .returned 0 := by
    intro hconn hreturned
    obtain ⟨hopen, hbefore | ⟨msg, hget, -⟩⟩ := hstep.returned hconn hreturned
    · exact h.unanswered hopen hbefore
    · exact Option.some_ne_none msg (hget.symm.trans (hnone _ le_rfl))
  cases hstep with
  | step hstep =>
    cases hstep with
    | link hl => exact h.link_step hc hflight hl
    | complete idle => exact absurd hundecided (by simp [complete])
    | call hstate => exact h.sender hunanswered
    | deliver waits hget => exact absurd (hget.symm.trans (hnone _ le_rfl)) (Option.some_ne_none _)
    | timeout waits => exact h.sender hunanswered
  | lose p =>
    exact ⟨h.link.lose p, h.resting, h.sent, h.consumed, h.unanswered, h.taken⟩
  | complete idle answer => exact absurd hundecided (by simp [complete])
  | disconnect waits => exact h.sender hunanswered

/-- A packet that is neither recorded nor on its way is lost for good. -/
lemma Undecided.lost (hc : Carried t b handle packets) (hbuilt : b.Built m₀)
    (hflight : ∀ p ∈ s.link.flight, p ∈ packets) (h : s.Undecided b handle packets m₀) {o : ℕ}
    (hmissing : ¬ Link.Covered b s.link o) : s.Lost b m₀ o := by
  obtain ⟨taken, hsub, hreachable, hplace⟩ := h.taken
  have htaken : ∀ p ∈ taken, b.Accepts p ∧ p.header.packetOffset.toNat ∈ ({o}ᶜ : Set ℕ) := by
    refine fun p hp => ⟨hc.accepts p (hsub p hp), fun heq => hmissing ?_⟩
    rcases hplace p hp with hreceived | ⟨i, hi⟩
    · exact Or.inl (heq ▸ hreceived)
    · exact Or.inr ⟨p, heq, Or.inr ⟨i, hi⟩⟩
  refine ⟨fun p hp => ⟨hc.accepts p (hflight p hp), fun heq => ?_⟩, h.consumed.ge, ?_, h.unanswered⟩
  · exact hmissing (Or.inr ⟨p, heq, Or.inl hp⟩)
  · exact BitmapPair.reachable_meeting hc.bitmaps hbuilt (Pool.steps_mono
      (fun _ _ hp => hp.bitmapProgram hc.bitmapSlot htaken) hreachable)

/-! ### The completion -/

/-- What runs while the transfer is completed. -/
inductive Closing (handle : SDRRecvHandle) : Thread → Prog ReceiverMemory PUnit → Prop
  | poll : Closing handle .poller (pollingRound handle.msgId)
  | complete : Closing handle (.app 0) (sdrRecvComplete handle sizeofControlMessage)

lemma steps_of_closing {pool pool' : Pool Thread ReceiverMemory}
    (hs : Relation.ReflTransGen (Pool.Step (Closing handle)) pool pool') (s : PlainTransfer)
    (hpool : s.link.pool = pool) : ∃ completing, Relation.ReflTransGen (Step handle) s
      { s with link := { s.link with pool := pool' }, completing } := by
  subst hpool
  induction hs with
  | refl => exact ⟨s.completing, .refl⟩
  | tail _ hstep ih =>
    obtain ⟨completing, hs⟩ := ih
    cases hstep with
    | spawn th p idle hallowed =>
      cases hallowed with
      | poll => exact ⟨completing, hs.tail (.link (.poll idle))⟩
      | complete => exact ⟨true, hs.tail (.complete idle)⟩
    | act th f next hact => exact ⟨completing, hs.tail (.link (.move (.act th f next hact)))⟩
    | wake th ready next hwait hr =>
      exact ⟨completing, hs.tail (.link (.move (.wake th ready next hwait hr)))⟩

/-- With the stop flag raised, the poller leaves the bitmaps as they are. -/
lemma joined_of_stop (hslot : handle.msgId = b.slot) {m : ReceiverMemory} {msg : MessageContext}
    {back : BackendBitmap} {f : FrontendBitmap} (hmsg : m.message b.slot = some msg)
    (hs : b.Shape msg back f) (hactive : msg.state = .active) (hpolling : f.polling = true) :
    ∃ m', (pollingRound handle.msgId).run
        (m.mapFrontend handle.msgId fun f => { f with shouldStop := true }) = some (⟨⟩, m') ∧
      Joined b m m' := by
  rw [hslot]
  have hstop : (m.mapFrontend b.slot fun f => { f with shouldStop := true }).message b.slot
      = some { msg with frontendBitmap := some { f with shouldStop := true } } := by
    simp [ReceiverMemory.mapFrontend, hmsg, hs.frontend]
  have hleft : ((m.mapFrontend b.slot fun f => { f with shouldStop := true }).mapFrontend b.slot
      fun f => { f with polling := false }).message b.slot = some { msg with
        frontendBitmap := some { f with shouldStop := true, polling := false } } := by
    rw [ReceiverMemory.mapFrontend, ReceiverMemory.message_mapMessage, hstop]
    simp
  have hshape : b.Shape
      { msg with frontendBitmap := some { f with shouldStop := true, polling := false } } back
      { f with shouldStop := true, polling := false } :=
    ⟨hs.generation, hs.state, hs.chunkCount, hs.backend, rfl, hs.totalPackets, hs.packetsPerChunk,
      hs.chunks, hs.packetsConfined,
      fun hroom => ⟨(hs.chunksConfined hroom).chunks, (hs.chunksConfined hroom).overrun⟩⟩
  refine ⟨_, ?_, ⟨⟨_, _, _, hleft, hshape, hactive, rfl⟩, ?_, ?_, rfl, rfl⟩⟩
  · simp [pollingRound, hstop, hs.backend, hpolling]
  · rw [BitmapPair.packetWords_eq hleft hshape, BitmapPair.packetWords_eq hmsg hs]
  · rw [BitmapPair.chunkWords_eq hleft hshape, BitmapPair.chunkWords_eq hmsg hs]

/-- With all chunks marked, the application, the poller and the application again lead to a
COMPLETE_ACK. -/
lemma exists_completeAck (hfits : b.Fits) (hslot : handle.msgId = b.slot)
    {pool : Pool Thread ReceiverMemory} {msg : MessageContext} {back : BackendBitmap}
    {f : FrontendBitmap} (hmsg : pool.memory.message b.slot = some msg) (hs : b.Shape msg back f)
    (hactive : msg.state = .active) (hpolling : f.polling = true)
    (hall : ∀ c < b.totalChunks, c ∈ b.completed pool.memory) {server : TCPControlServer}
    (hserver : pool.memory.conn.tcpServer = some server) (hfd : 0 ≤ server.clientFd)
    (happ : pool.threads (.app 0) = .done ⟨⟩) (hpoller : pool.threads .poller = .done ⟨⟩) :
    ∃ pool' ack, Relation.ReflTransGen (Pool.Step (Closing handle)) pool pool' ∧
      pool'.memory.sent = pool.memory.sent ++ [ack] ∧ ack.msgType = .completeAck := by
  obtain ⟨m, threads⟩ := pool
  obtain ⟨m₁, hleave, hjoined⟩ := joined_of_stop hslot hmsg hs hactive hpolling
  obtain ⟨msg₁, _, _, hmsg₁, hs₁, hactive₁, -⟩ := hjoined.message
  have hall₁ : ∀ c < b.totalChunks, c ∈ b.completed m₁ := by
    rw [BitmapPair.completed, hjoined.chunkWords]
    exact hall
  obtain ⟨m₂, ack, hrun, hsent, hack⟩ := run_recvCompleteJoined hslot hmsg₁ hs₁ hactive₁
    ((Nat.zero_le _).trans_lt (hfits.inChunk hfits.totalPackets).1) hfits.totalChunks_lt hall₁
    (hjoined.tcpServer.trans hserver) hfd
  have hstarted : (m.frontendBitmap handle.msgId).any FrontendBitmap.polling = true := by
    simp [hslot, ReceiverMemory.frontendBitmap, hmsg, hs.frontend, hpolling]
  have hready : (!(m₁.frontendBitmap handle.msgId).any FrontendBitmap.polling) = true := by
    rw [hslot, hjoined.polling]
    rfl
  have hstop : Relation.ReflTransGen (Pool.Step (Closing handle)) ⟨m, threads⟩ _ :=
    steps_stopPolling .complete hstarted threads happ
  refine ⟨⟨m₂, Function.update threads (.app 0) (.done ⟨⟩)⟩, ack, ?_, ?_, hack⟩
  · refine hstop.trans ?_
    refine (Pool.steps_of_spawn (t := .poller) .poll hleave ?_).trans ?_
    · rw [Function.update_of_ne Thread.noConfusion]
      exact hpoller
    · exact .head (Pool.step_await (Closing handle) hready threads (.app 0) _)
        (Pool.steps_of_run (Closing handle) hrun (.app 0) threads)
  · rw [hsent, hjoined.sent]

/-! ### What is still possible -/

lemma Undecided.link_steps (hc : Carried t b handle packets)
    (hflight : ∀ p ∈ s.link.flight, p ∈ packets) (h : s.Undecided b handle packets m₀) {l : Link}
    (hl : Link.Steps handle.msgId s.link l) :
    Relation.ReflTransGen (Step handle) s { s with link := l } ∧ (∀ p ∈ l.flight, p ∈ packets) ∧
      Undecided b handle packets m₀ { s with link := l } := by
  induction hl with
  | refl => exact ⟨.refl, hflight, h⟩
  | @tail l l' _ hstep ih =>
    obtain ⟨hs, hflight, h⟩ := ih
    have hnext : Step handle { s with link := l } { s with link := l' } := .link hstep
    exact ⟨hs.tail hnext, fun p hp => hflight p (LossyStep.flight (.step hnext) hp),
      h.link_step hc hflight hstep⟩

/-- A sender that takes a COMPLETE_ACK on an open connection returns 0. -/
lemma getsThrough_of_ack {ack : ControlMessage} (hconn : s.connected = true)
    (hget : s.link.memory.sent[s.consumed]? = some ack) (hack : ack.msgType = .completeAck) :
    s.GetsThrough handle := by
  obtain ⟨s₁, hs₁, hwaits, hconn₁, hget₁⟩ : ∃ s₁, Relation.ReflTransGen (Step handle) s s₁ ∧
      s₁.Waits ∧ s₁.connected = true ∧ s₁.link.memory.sent[s₁.consumed]? = some ack := by
    by_cases hwaits : s.Waits
    · exact ⟨s, .refl, hwaits, hconn, hget⟩
    · obtain ⟨rc, hrc⟩ := not_forall_not.mp hwaits
      refine ⟨_, .single (.call hrc), fun rc' => ?_, hconn, hget⟩
      simp [enterSendPoll, hconn]
  refine ⟨_, hs₁.tail (.deliver hwaits hget₁), ?_⟩
  rw [event_of_waits hwaits, hconn₁]
  simp [ChannelEvent.seen, sendPollRound, hack]

/-- With all chunks marked, `sdr_recv_complete` and `sdr_send_poll` agree on the success. -/
lemma Undecided.getsThrough_of_marked (hc : Carried t b handle packets) (hbuilt : b.Built m₀)
    (h : s.Undecided b handle packets m₀) (hconn : s.connected = true)
    (hidle : s.link.pool.threads .poller = .done ⟨⟩)
    (hall : ∀ c < b.totalChunks, c ∈ b.completed s.link.memory) : s.GetsThrough handle := by
  obtain ⟨taken, hsub, hreachable, -⟩ := h.taken
  have hinv : b.Inv Set.univ m₀ s.link.memory :=
    (BitmapPair.reachable_meeting hc.bitmaps hbuilt (Pool.steps_mono (fun _ _ hp =>
      hp.bitmapProgram hc.bitmapSlot fun p hp => ⟨hc.accepts p (hsub p hp), Set.mem_univ _⟩)
      hreachable)).1
  obtain ⟨msg, back, f, hmsg, hs⟩ := hinv.shape
  obtain ⟨msg', back', f', hmsg', hlive⟩ := h.link.live.message
  obtain rfl := Option.some.inj (hmsg.symm.trans hmsg')
  obtain rfl := Option.some.inj (hs.frontend.symm.trans hlive.frontend)
  obtain ⟨server, hserver, hfd⟩ := h.link.stable.server
  obtain ⟨pool, ack, hclosing, hsent, hack⟩ := exists_completeAck hc.bitmaps hc.bitmapSlot hmsg hs
    hlive.state hlive.polling hall hserver hfd (h.resting 0) hidle
  obtain ⟨completing, hclosed⟩ := steps_of_closing hclosing s rfl
  have hget : pool.memory.sent[s.consumed]? = some ack := by
    rw [hsent, h.consumed, ← Link.memory, h.sent, List.getElem?_concat_length]
  have hsuccess : GetsThrough handle { s with link := { s.link with pool }, completing } :=
    getsThrough_of_ack hconn hget hack
  obtain ⟨s', hs', hreturned⟩ := hsuccess
  exact ⟨s', hclosed.trans hs', hreturned⟩

/-- When everything has arrived or is on its way, `sdr_send_poll` can return 0. -/
lemma Undecided.getsThrough (hc : Carried t b handle packets) (hbuilt : b.Built m₀)
    (hflight : ∀ p ∈ s.link.flight, p ∈ packets) (h : s.Undecided b handle packets m₀)
    (hconn : s.connected = true) (hcovered : ∀ o < b.totalPackets, Link.Covered b s.link o) :
    s.GetsThrough handle := by
  have hstable := b.stable_announcing m₀.sent.length
  obtain ⟨l₁, hs₁, hall⟩ := h.link.steps_complete hc.bitmaps hstable (C := fun _ => True)
    fun _ _ o ho => hcovered o ho.2.2
  have h₁ := (h.link.steps hc.bitmaps hstable hs₁).1
  obtain ⟨l₂, hs₂, hidle, -⟩ := h₁.steps_finish .poller
  have hgrows := (h₁.steps hc.bitmaps hstable hs₂).2
  obtain ⟨hsteps, -, h₂⟩ := h.link_steps hc hflight (hc.bitmapSlot ▸ hs₁.trans hs₂)
  obtain ⟨s', hs', hreturned⟩ := h₂.getsThrough_of_marked hc hbuilt hconn hidle
    fun c hlt => hgrows.completed (hall c hlt trivial)
  exact ⟨s', hsteps.trans hs', hreturned⟩

lemma Step.connected (hstep : Step handle s s') (hconn : s.connected = true) :
    s'.connected = true := by
  cases hstep with
  | link hl => exact hconn
  | complete idle => exact hconn
  | call h => exact hconn
  | deliver waits h =>
    change (s.event _).connected = true
    rw [event_of_waits waits, hconn]
    rfl
  | timeout waits =>
    rw [event_of_waits waits, hconn]
    rfl

/-- Without a loss no packet comes back that was lost before. -/
lemma Undecided.getsThrough_iff (hc : Carried t b handle packets) (hbuilt : b.Built m₀)
    (hflight : ∀ p ∈ s.link.flight, p ∈ packets) (h : s.Undecided b handle packets m₀)
    (hconn : s.connected = true) :
    s.GetsThrough handle ↔ ∀ o < b.totalPackets, Link.Covered b s.link o := by
  refine ⟨fun ⟨s', hs', hreturned⟩ o ho => ?_, h.getsThrough hc hbuilt hflight hconn⟩
  by_contra hmissing
  have hlost : s'.Lost b m₀ o ∧ s'.connected = true := by
    clear hreturned
    induction hs' with
    | refl => exact ⟨h.lost hc hbuilt hflight hmissing, hconn⟩
    | tail _ hstep ih =>
      exact ⟨ih.1.lossyStep hc.bitmaps hc.bitmapSlot ho (.step hstep), hstep.connected ih.2⟩
  exact hlost.1.unanswered hlost.2 hreturned

end Delivery

end PlainTransfer

/-! ### After the posts -/

namespace PlainPost

variable (h : PlainPost)

/-- The message as the receiver counts it. -/
def bitmaps : BitmapPair := .ofPost h.msgId h.data.length h.generation h.cts.params

/-- The message as it is to lie in the buffer. -/
def message : Transfer := .ofPost h.msgId h.buffer h.data h.cts.params

lemma spec : OfferSpec h.receiver h.msgId h.generation h.buffer h.data.length h.offer
    (.ready h.recvHandle (some h.cts)) h.posted := by
  have hspec := recvPostOnOffer_spec h.receiver h.msgId h.generation h.buffer h.data.length h.offer
    h.opened h.answer
  rwa [h.receives] at hspec

lemma params_cts : h.cts.params = (negotiate h.receiver.conn.connectionCtx.params h.offer
    h.data.length).withTransferId h.generation := (h.spec.cts _ _ rfl).2

lemma countable : SdrUdp.Countable h.cts.params h.data :=
  SrTransfer.countable_cts h.receives h.packets_le

lemma bitmaps_fits : h.bitmaps.Fits := by
  have hcount := h.countable
  have hle : packetCount h.cts.params h.data ≤ 2 ^ 18 := hcount.packetCount_le
  have hlt := h.cts.params.packetsPerChunk.isLt
  refine ⟨(h.spec.setUp _ rfl).lt, (hcount.lt_packetCount_iff 0).mpr ?_, hcount.ppc_pos, ?_⟩
  · rw [Nat.zero_mul]
    exact List.length_pos_iff.mpr h.data_ne
  · change packetCount h.cts.params h.data + h.cts.params.packetsPerChunk.toNat < 2 ^ 32
    omega

lemma message_fits : h.message.Fits where
  slot := (h.spec.setUp _ rfl).lt
  mtuBytes := h.countable.mtu_pos
  mtuBytes_le := h.countable.mtu_le
  packetsPerChunk := h.countable.ppc_pos
  packetsPerChunk_lt := h.cts.params.packetsPerChunk.isLt
  length_le := h.packets_le

lemma recvHandle_msgId : h.recvHandle.msgId = h.msgId := by
  rw [(h.spec.setUp _ rfl).handle]

lemma totalPackets_eq : h.bitmaps.totalPackets = h.message.totalPackets :=
  eq_of_lt_iff fun o => (h.countable.lt_packetCount_iff o).trans
    (lt_ceil_iff h.countable.mtu_pos o).symm

lemma carried : Carried h.message h.bitmaps h.recvHandle h.packets := by
  obtain ⟨-, -, hpackets⟩ := sendPostOnCts_packets h.sends
  have hid := h.recvHandle_msgId
  refine ⟨h.message_fits, h.bitmaps_fits, hid, hid, h.totalPackets_eq,
    ⟨h.cts.params.transferId, h.cts.params.packetsPerChunk, fun p hp => ?_⟩, fun p hp => ?_⟩
  · obtain ⟨o, ho, hpacket⟩ := hpackets p hp
    refine ⟨o, ?_, by rw [hid]; exact hpacket⟩
    rw [← h.totalPackets_eq]
    exact ho
  · obtain ⟨o, -, hpacket⟩ := hpackets p hp
    have hgen : h.cts.params.transferId = h.generation := by
      rw [h.params_cts]
      rfl
    rw [hgen] at hpacket
    exact BitmapPair.accepts_of_dataPacket (t := h.bitmaps) h.bitmaps_fits.slot h.countable.mtu_le
      hpacket

lemma delivering : h.transfer.Delivering h.message h.packets h.posted := by
  have hfits := h.message_fits
  refine ⟨fun p hp => hp, le_rfl, Pool.meeting_start ?_, fun _ hreturned => ?_⟩
  · have hmessage : h.message = .ofPost h.msgId h.buffer h.data
        (negotiate h.receiver.conn.connectionCtx.params h.offer h.data.length) := by
      rw [message, h.params_cts]
      rfl
    rw [hmessage] at hfits ⊢
    exact Transfer.inv_of_post (h.spec.setUp _ rfl) hfits Set.univ True
  · simp [transfer] at hreturned

lemma built (hgen : h.receiver.conn.connectionCtx.generationCounters h.msgId = h.generation) :
    h.bitmaps.Built h.posted := by
  have hsize := h.bitmaps_fits.size
  rw [bitmaps, h.params_cts, ← hgen] at hsize ⊢
  exact BitmapPair.built_of_post (h.spec.setUp _ rfl) hsize

lemma undecided (hgen : h.receiver.conn.connectionCtx.generationCounters h.msgId = h.generation) :
    h.transfer.Undecided h.bitmaps h.recvHandle h.packets h.posted := by
  have hbuilt := h.built hgen
  have hset := h.spec.setUp _ rfl
  obtain ⟨msg, b, f, hmsg, hs, -⟩ := (Transfer.filling_of_post hset rfl hbuilt).message
  have hlive := (BitmapPair.live_of_post hset rfl hbuilt).1
  have hannouncing : h.bitmaps.Announcing h.posted.sent.length h.posted := by
    refine ⟨fun msg' hmsg' => ?_, recvPostOnOffer_server h.receives, le_rfl, by simp⟩
    obtain rfl := Option.some.inj (hmsg'.symm.trans hmsg)
    rw [hs.chunkCount, Nat.mod_eq_of_lt h.bitmaps_fits.totalChunks_lt]
  refine ⟨⟨⟨⟨hlive, hannouncing⟩, fun th => ?_⟩, fun _ => trivial, h.carried.accepts⟩,
    fun _ => rfl, rfl, rfl, fun _ => by simp [transfer], ∅, by simp, .refl, by simp⟩
  cases th with
  | worker i => exact fun _ _ _ q hq => absurd hq (by simp [transfer])
  | poller => exact fun _ _ _ => trivial
  | app i => exact fun _ _ _ => trivial

/-- Every packet is handed to the network. -/
lemma covered_start (hauto : h.sender.connectionCtx.autoSendData = true) {o : ℕ}
    (ho : o < h.bitmaps.totalPackets) : Link.Covered h.bitmaps h.transfer.link o := by
  have hmtu : h.cts.params.mtuBytes ≠ 0 := ne_zero_of_toNat_pos h.countable.mtu_pos
  have hppc : h.cts.params.packetsPerChunk ≠ 0 := ne_zero_of_toNat_pos h.countable.ppc_pos
  obtain ⟨p, hp, -, -, hoffset, -⟩ := dataPacket_spec h.cts.params.transferId h.msgId
    h.cts.params.packetsPerChunk h.countable.mtu_le h.data o
  have hsends := h.sends
  simp only [sendPostOnCts, hmtu, hppc, ConnectionContext.initializeContext, hauto,
    if_false, Bool.true_eq_false, Prod.mk.injEq, CtsOutcome.sent.injEq] at hsends
  refine Or.inr ⟨p, ?_, Or.inl ?_⟩
  · rw [hoffset, BitVec.toNat_ofNat, Nat.mod_eq_of_lt]
    exact ho.trans_le (h.totalPackets_eq ▸ h.message_fits.totalPackets_le)
  · change p ∈ h.packets
    rw [← hsends.1.2]
    exact List.mem_filterMap.mpr ⟨o, List.mem_range.mpr ho, hp⟩

end PlainPost

namespace PlainTransfer

/-- The sample message, posted at both ends. -/
def samplePlain : PlainPost where
  receiver := samplePostMemory
  sender := .idleSender 1
  data := sampleData
  msgId := 0
  generation := 1
  buffer := 0
  offer := desiredParams .zero 5
  opened := true
  answer := sizeofControlMessage
  recvHandle := ⟨0, 1, 0, 5⟩
  cts := ctsMessage 1 SrTransfer.sampleParams
  posted := SrTransfer.sampleMemory
  sendHandle := ⟨0, 1, sampleData⟩
  packets := (List.range 3).filterMap (dataPacket 1 0 2 2 sampleData)
  sent := { SDRConnection.idleSender 1 with
    connectionCtx := (SDRConnection.idleSender 1).connectionCtx.initializeContext 1
      SrTransfer.sampleParams }
  data_ne := by decide
  receives := SrTransfer.sample_post
  sends := rfl
  packets_le := by decide +kernel

/-- As long as the connection stands and `sdr_recv_complete` was not called, `sdr_send_poll` can
still return 0 without a further loss exactly when every packet has arrived or is on its way. -/
theorem plainGetsThrough_iff (h : PlainPost)
    (hgen : h.receiver.conn.connectionCtx.generationCounters h.msgId = h.generation)
    {s : PlainTransfer} (hs : Relation.ReflTransGen (LossyStep h.recvHandle) h.transfer s)
    (hconn : s.connected = true) (hundecided : s.completing = false) :
    s.GetsThrough h.recvHandle ↔ ∀ o < h.bitmaps.totalPackets, Link.Covered h.bitmaps s.link o := by
  suffices hinv : (∀ p ∈ s.link.flight, p ∈ h.packets) ∧
      s.Undecided h.bitmaps h.recvHandle h.packets h.posted from
    hinv.2.getsThrough_iff h.carried (h.built hgen) hinv.1 hconn
  clear hconn
  induction hs with
  | refl => exact ⟨fun p hp => hp, h.undecided hgen⟩
  | tail _ hstep ih =>
    obtain ⟨hflight, hbefore⟩ := ih (hstep.undecided hundecided)
    exact ⟨fun p hp => hflight p (hstep.flight hp),
      hbefore.lossyStep h.carried hflight hstep hundecided⟩

/-- At the start nothing is lost. -/
theorem plainGetsThrough_sample : samplePlain.transfer.GetsThrough samplePlain.recvHandle :=
  (plainGetsThrough_iff samplePlain rfl .refl rfl rfl).mpr fun _ ho =>
    samplePlain.covered_start rfl ho

end PlainTransfer

end SdrUdp
