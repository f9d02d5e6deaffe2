import Mathlib.Data.List.TakeWhile
import SdrUdp.Completion
import SdrUdp.SendPaths
import SdrUdp.SrRun

/-!
# What selective repeat delivers

The sender's knowledge and the receiver's buffer in one system: a chunk that the sender has
acknowledged lies in the user buffer with the sender's bytes, and `SRSender::poll` returns 0 on an
open connection only when the whole message does.
-/

namespace SdrUdp

open SdrUdp.Core

/-! ### The labels of reports -/

/-- A truthful receiver whose SR_ACKs carry the number of chunks, as far as 16 bits hold it. -/
structure Labelled (slot total before : ℕ) (m : ReceiverMemory) : Prop where
  reporting : Reporting slot total before m
  label : ∀ msg ∈ m.sent.drop before, msg.msgType = .srAck →
    msg.params.totalChunks = BitVec.ofNat 16 total

/-- The threads but `pump` send nothing but the final verdict. -/
lemma ReceiverAction.sent_cases {act : ReceiverMemory → ReceiverMemory} (hact : ReceiverAction act)
    (m : ReceiverMemory) : (act m).sent = m.sent ∨ ∃ connectionId isComplete,
      (act m).sent = m.sent ++ [completionMessage connectionId isComplete] := by
  cases hact with
  | skip => exact Or.inl rfl
  | write ptr offset data => cases ptr <;> exact Or.inl rfl
  | setReceived id offset => exact Or.inl rfl
  | setChunk id c => exact Or.inl rfl
  | stop id => exact Or.inl rfl
  | leave id => exact Or.inl rfl
  | retire id => exact Or.inl rfl
  | verdict isComplete answer =>
    exact (m.sendMessage_sent _ answer).imp_right fun h => ⟨_, isComplete, h⟩

section Labelled

variable {slot total before : ℕ} {m : ReceiverMemory}

lemma Labelled.of_sent (h : Labelled slot total before m) {m' : ReceiverMemory}
    (hreporting : Reporting slot total before m') (hsent : m'.sent = m.sent ∨ ∃ msg,
      m'.sent = m.sent ++ [msg] ∧
        (msg.msgType = .srAck → msg.params.totalChunks = BitVec.ofNat 16 total)) :
    Labelled slot total before m' := by
  refine ⟨hreporting, fun msg hmem htype => ?_⟩
  rcases hsent with hsent | ⟨new, hsent, hnew⟩
  · exact h.label msg (hsent ▸ hmem) htype
  · rw [hsent, List.drop_append_of_le_length h.reporting.before_le] at hmem
    rcases List.mem_append.mp hmem with hold | hlast
    · exact h.label msg hold htype
    · obtain rfl := List.mem_singleton.mp hlast
      exact hnew htype

lemma ReceiverAction.labelled {act : ReceiverMemory → ReceiverMemory} (hact : ReceiverAction act)
    (m : ReceiverMemory) (h : Labelled slot total before m) :
    Labelled slot total before (act m) ∧ ChunksGrow slot m (act m) := by
  obtain ⟨hreporting, hgrow⟩ := hact.keeps m h.reporting
  refine ⟨h.of_sent hreporting ((hact.sent_cases m).imp_right ?_), hgrow⟩
  rintro ⟨connectionId, isComplete, hsent⟩
  refine ⟨_, hsent, fun htype => ?_⟩
  cases isComplete <;> simp [completionMessage] at htype

lemma pumpable_labelled (answer : ℤ) : Pumpable slot total answer (Labelled slot total before)
    (ChunksGrow slot) (ChunksGrow slot) where
  message _ h := h.reporting.message
  rely _ _ h := h
  guarantee _ _ h := h
  clock _ _ h := ⟨⟨⟨h.reporting.message, h.reporting.truthful, h.reporting.before_le⟩, h.label⟩,
    fun _ hc => hc⟩
  send m report h hreport := by
    obtain ⟨hreporting, hgrow⟩ := h.reporting.sendMessage hreport.truthful answer
    exact ⟨h.of_sent hreporting ((m.sendMessage_sent report answer).imp_right fun hsent =>
      ⟨report, hsent, fun _ => hreport.totalChunks⟩), hgrow⟩

end Labelled

/-! ### The packets of the sender -/

namespace SRSender

/-- The sender serves the same message, and what is new are packets of it. -/
structure SendsWithin (s s' : SRSender) : Prop where
  continues : Continues s s'
  sent : ∀ q ∈ s'.sent, q ∈ s.sent ∨ ∃ o, o * s.mtuBytes < s.handle.userBuffer.length ∧
    dataPacket s.params.transferId s.handle.msgId s.packetsPerChunk s.mtuBytes s.handle.userBuffer o
      = some q

lemma transmits_sendsWithin : Transmits SendsWithin where
  refl s := ⟨transmits_continues.refl s, fun _ => Or.inl⟩
  trans h h' := by
    refine ⟨transmits_continues.trans h.continues h'.continues, fun q hq => ?_⟩
    refine (h'.sent q hq).elim (h.sent q) fun hmade => Or.inr ?_
    rwa [h.continues.mtuBytes, h.continues.handle, h.continues.params,
      h.continues.packetsPerChunk] at hmade
  retransmitRange s c now := by
    refine ⟨transmits_continues.retransmitRange s c now, fun q hq => ?_⟩
    unfold retransmitRange at hq
    split at hq
    · exact Or.inl hq
    · refine (List.mem_append.mp hq).imp_right fun hnew => ?_
      obtain ⟨o, ho, hpacket⟩ := List.mem_filterMap.mp hnew
      exact ⟨o, by simpa using List.mem_takeWhile_imp ho, hpacket⟩
  window s next := ⟨transmits_continues.window s next, fun _ => Or.inl⟩
  stamp s lastTx ticks := ⟨transmits_continues.stamp s lastTx ticks, fun _ => Or.inl⟩

end SRSender

/-! ### The invariant of a transfer -/

/-- What the sender may conclude from a control message that is in flight. -/
structure Transfer.Informs (t : Transfer) (m : ReceiverMemory) (msg : ControlMessage) : Prop where
  truthful : Truthful (· ∈ t.completed m) msg
  complete : msg.msgType = .completeAck → ∀ o < t.totalPackets, t.Right m o
  label : msg.msgType = .srAck → msg.params.totalChunks = BitVec.ofNat 16 t.totalChunks

/-- The receiver at work on a transfer that began in `m₀`. -/
structure Transfer.Receives (t : Transfer) (m₀ m : ReceiverMemory) : Prop where
  labelled : Labelled t.slot t.totalChunks m₀.sent.length m
  inv : t.Inv Set.univ True m₀ m

/-- The invariant of both sides, with the parameters of the handshake. -/
structure Transfer.Delivers (t : Transfer) (p : ConnectionParams) (m₀ : ReceiverMemory)
    (s : SrSystem) : Prop where
  receiver : t.Receives m₀ s.receiver
  consumed : m₀.sent.length ≤ s.consumed
  serves : s.poll.sender.Serves p t.slot t.data
  sent : ∀ q ∈ s.poll.sender.sent, ∃ o < t.totalPackets,
    dataPacket p.transferId t.slot p.packetsPerChunk t.mtuBytes t.data o = some q
  chunkAcked : ∀ c, s.poll.sender.chunkAcked c = true → c ∈ t.completed s.receiver
  ackBase : ∀ c < s.poll.sender.ackBase, c ∈ t.completed s.receiver
  returned : s.poll.state = .returned 0 → s.poll.connected = true →
    ∀ o < t.totalPackets, t.Right s.receiver o

namespace Transfer

variable {t : Transfer} {p : ConnectionParams} {m₀ : ReceiverMemory} {s : SrSystem}

/-- Every message in flight informs the sender. -/
lemma Receives.informs {m : ReceiverMemory} (h : t.Receives m₀ m) {msg : ControlMessage}
    (hmsg : msg ∈ m.sent.drop m₀.sent.length) : t.Informs m msg := by
  refine ⟨h.labelled.reporting.truthful msg hmsg, ?_, h.labelled.label msg hmsg⟩
  obtain ⟨new, hnew, hacks⟩ := h.inv.acks
  rw [hnew, List.drop_left] at hmsg
  exact hacks msg hmsg

lemma Delivers.setReceiver (h : t.Delivers p m₀ s) {m : ReceiverMemory} (hm : t.Receives m₀ m)
    (hgrow : t.Evolves s.receiver m) : t.Delivers p m₀ (s.setReceiver m) where
  receiver := hm
  consumed := h.consumed
  serves := h.serves
  sent := h.sent
  chunkAcked c hc := hgrow.completed (h.chunkAcked c hc)
  ackBase c hc := hgrow.completed (h.ackBase c hc)
  returned hstate hconn o ho := hgrow.right o (h.returned hstate hconn o ho)

/-- An SR_ACK on which `poll` returns 0 acknowledges every chunk, if 16 bits hold their number. -/
lemma Informs.of_ackCompletes (hfits : t.Fits) (htotal : t.totalChunks < 2 ^ 16)
    {m : ReceiverMemory} (hinv : t.Inv Set.univ True m₀ m) {msg : ControlMessage}
    (h : t.Informs m msg) (htype : msg.msgType = .srAck)
    (hcompletes : SRSender.ackCompletes msg = true) : ∀ o < t.totalPackets, t.Right m o := by
  refine hinv.right_of_completed hfits fun c hc => ?_
  have hle : t.totalChunks ≤ (msg.params.maxInflight.toNat + 1) % 2 ^ 32 := by
    have hge := of_decide_eq_true hcompletes
    rwa [h.label htype, BitVec.toNat_ofNat, Nat.mod_eq_of_lt htotal] at hge
  have hmax : msg.params.maxInflight ≠ uint32Max := by
    intro hmax
    rw [hmax] at hle
    have hzero : t.totalChunks ≤ 0 := hle
    omega
  have hsucc : (msg.params.maxInflight.toNat + 1) % 2 ^ 32 ≤ msg.params.maxInflight.toNat + 1 :=
    Nat.mod_le _ _
  exact h.truthful.cumulative c ⟨Or.inl htype, hmax, by omega⟩

/-- The sender consumes an event; a message is one that informs it. -/
lemma Delivers.step (hfits : t.Fits) (htotal : t.totalChunks < 2 ^ 16)
    (hmtu : t.mtuBytes = p.mtuBytes.toNat) (h : t.Delivers p m₀ s) (now : Clock) (e : ChannelEvent)
    (he : ∀ own msg, e = .message own msg → t.Informs s.receiver msg) {consumed : ℕ}
    (hconsumed : s.consumed ≤ consumed) :
    t.Delivers p m₀ { s with poll := s.poll.step now e, consumed := consumed } := by
  have hsends := SRSender.transmits_sendsWithin.step (fun s acked base =>
    ⟨⟨rfl, rfl, rfl, rfl, rfl, [], (List.append_nil _).symm, by simp⟩, fun _ => Or.inl⟩)
    s.poll now e
  have hacks := s.poll.step_acks now e
  refine ⟨h.receiver, h.consumed.trans hconsumed, hsends.continues.serves h.serves,
    fun q hq => ?_, fun c hc => ?_, fun c hc => ?_, fun hstate hconn => ?_⟩
  · refine (hsends.sent q hq).elim (h.sent q) fun ⟨o, ho, hpacket⟩ => ?_
    rw [h.serves.mtuBytes, h.serves.userBuffer, ← hmtu] at ho
    rw [h.serves.params, h.serves.msgId, h.serves.packetsPerChunk, h.serves.mtuBytes,
      h.serves.userBuffer, ← hmtu] at hpacket
    refine ⟨o, ?_, hpacket⟩
    have hm := hfits.mtuBytes
    rw [totalPackets, Nat.lt_div_iff_mul_lt hm]
    omega
  · rcases hacks with hsame | ⟨own, msg, hmsg, hacks⟩
    · exact h.chunkAcked c (by rwa [hsame.chunkAcked] at hc)
    · exact (hacks.chunkAcked c hc).elim (h.chunkAcked c) (he own msg hmsg).truthful.done
  · rcases hacks with hsame | ⟨own, msg, hmsg, hacks⟩
    · exact h.ackBase c (by rwa [hsame.ackBase] at hc)
    · exact (hacks.ackBase c hc).elim (h.ackBase c) (he own msg hmsg).truthful.done
  · have hopen := SRPoll.connected_of_step hconn
    have hseen : e.seen s.poll.connected = e := if_pos hopen
    rcases SRPoll.step_returned hstate with hbefore | ⟨hmain, hclosed⟩ | ⟨own, msg, -, hmsg, hack⟩
    · exact h.returned hbefore hopen
    · -- the connection that is found closed is not open afterwards
      rw [hseen] at hclosed
      subst hclosed
      simp [SRPoll.step, hmain, hseen, ChannelEvent.keepsConnection] at hconn
    · have hinforms := he own msg (hseen.symm.trans hmsg)
      rcases hack with hcomplete | ⟨-, htype, hcompletes⟩
      · exact hinforms.complete hcomplete
      · exact hinforms.of_ackCompletes hfits htotal h.receiver.inv htype hcompletes

lemma Delivers.deliver (hfits : t.Fits) (htotal : t.totalChunks < 2 ^ 16)
    (hmtu : t.mtuBytes = p.mtuBytes.toNat) (h : t.Delivers p m₀ s) (now : Clock) :
    t.Delivers p m₀ (s.deliver now) := by
  unfold SrSystem.deliver
  split
  · exact h
  · rename_i msg hmsg
    refine h.step hfits htotal hmtu now _ (fun own msg' heq => ?_) (Nat.le_succ _)
    obtain ⟨-, rfl⟩ := ChannelEvent.message.inj heq
    refine h.receiver.informs (List.mem_of_getElem? (i := s.consumed - m₀.sent.length) ?_)
    rw [List.getElem?_drop, Nat.add_sub_cancel' h.consumed, hmsg]

/-! ### Programs of both sides -/

/-- What a thread of the system relies on. -/
def systemRely (t : Transfer) : SrThread → SrSystem → SrSystem → Prop
  | .sender, s, s'      => t.Evolves s.receiver s'.receiver
  | .receiver th, s, s' => t.rely th s.receiver s'.receiver

/-- What a thread of the system guarantees. -/
def systemGuarantee (t : Transfer) : SrThread → SrSystem → SrSystem → Prop
  | .sender, s, s'      => t.Steady s.receiver s'.receiver
  | .receiver th, s, s' => t.guarantee th s.receiver s'.receiver

instance (th : SrThread) : Std.Refl (t.systemRely th) := by
  cases th with
  | sender => exact ⟨fun s => Std.Refl.refl (r := t.Evolves) s.receiver⟩
  | receiver th => exact ⟨fun s => Std.Refl.refl (r := t.rely th) s.receiver⟩

instance (th : SrThread) : IsTrans SrSystem (t.systemRely th) := by
  cases th with
  | sender => exact ⟨fun _ _ _ h h' => IsTrans.trans (r := t.Evolves) _ _ _ h h'⟩
  | receiver th => exact ⟨fun _ _ _ h h' => IsTrans.trans (r := t.rely th) _ _ _ h h'⟩

lemma evolves_of_guarantee {th : Thread} {m m' : ReceiverMemory} (h : t.guarantee th m m') :
    t.Evolves m m' := by
  cases th with
  | poller => exact h
  | worker i => exact h.toEvolves
  | app i => exact h.toEvolves

lemma evolves_of_rely {th : Thread} {m m' : ReceiverMemory} (h : t.rely th m m') :
    t.Evolves m m' := by
  cases th with
  | poller => exact h.toEvolves
  | worker i => exact h
  | app i => exact h

lemma rely_of_steady (th : Thread) {m m' : ReceiverMemory} (h : t.Steady m m') :
    t.rely th m m' := by
  cases th with
  | poller => exact h
  | worker i => exact h.toEvolves
  | app i => exact h.toEvolves

lemma systemRely_of_guarantee {th th' : SrThread} (hne : th ≠ th') {s s' : SrSystem}
    (h : t.systemGuarantee th s s') : t.systemRely th' s s' := by
  cases th with
  | sender =>
    cases th' with
    | sender => exact absurd rfl hne
    | receiver th' => exact rely_of_steady th' h
  | receiver th =>
    cases th' with
    | sender => exact evolves_of_guarantee h
    | receiver th' => exact rely_of_guarantee (fun heq => hne (congrArg _ heq)) h

/-- A thread of the receiver that keeps the data path and the reports in order delivers. -/
lemma receiverSide_meets {th : Thread} {q : Prog ReceiverMemory PUnit} {s : SrSystem}
    (hdata : Prog.Meets (t.Inv Set.univ True m₀) (t.rely th) (t.guarantee th) (fun _ _ => True) q
      s.receiver)
    (hreports : Prog.Meets (Labelled t.slot t.totalChunks m₀.sent.length) (ChunksGrow t.slot)
      (ChunksGrow t.slot) (fun _ _ => True) q s.receiver) :
    Prog.Meets (t.Delivers p m₀) (t.systemRely (.receiver th)) (t.systemGuarantee (.receiver th))
      (fun _ _ => True) (receiverSide q) s := by
  have hboth := Prog.Meets.and (fun _ _ h => h) (fun m m' h => (evolves_of_rely h).completed) hdata
    hreports
  have hset : ∀ s m, t.Delivers p m₀ s →
      (t.Inv Set.univ True m₀ m ∧ Labelled t.slot t.totalChunks m₀.sent.length m) →
      t.guarantee th s.receiver m ∧ ChunksGrow t.slot s.receiver m →
      t.Delivers p m₀ (s.setReceiver m) ∧
        t.systemGuarantee (.receiver th) s (s.setReceiver m) := fun s m h hm hgrow =>
    ⟨h.setReceiver ⟨hm.2, hm.1⟩ (evolves_of_guarantee hgrow.1), hgrow.1⟩
  have hget : ∀ s, t.Delivers p m₀ s →
      t.Inv Set.univ True m₀ s.receiver ∧ Labelled t.slot t.totalChunks m₀.sent.length s.receiver :=
    fun s h => ⟨h.receiver.inv, h.receiver.labelled⟩
  have hlens : ∀ m s, (SrSystem.setReceiver m s).receiver = m := fun _ _ => rfl
  have hrely : ∀ s s', t.systemRely (.receiver th) s s' → t.rely th s.receiver s'.receiver :=
    fun _ _ h => h
  have hwithin := Prog.Meets.within hlens hget hrely hset hboth
  exact hwithin.mono fun _ _ _ _ => trivial

/-- Every program keeps the invariant. -/
lemma srProgram_delivers (hfits : t.Fits) (htotal : t.totalChunks < 2 ^ 16)
    (hmtu : t.mtuBytes = p.mtuBytes.toNat) {handle : SDRRecvHandle} (hid : handle.msgId = t.slot)
    {th : SrThread} {program : Prog SrSystem PUnit} (hp : SrProgram handle th program)
    {s : SrSystem} (h : t.Delivers p m₀ s) :
    Prog.Meets (t.Delivers p m₀) (t.systemRely th) (t.systemGuarantee th) (fun _ _ => True)
      program s := by
  have hevent : ∀ (now : Clock) (e : ChannelEvent), (∀ own msg, e ≠ .message own msg) →
      Prog.Meets (t.Delivers p m₀) (t.systemRely .sender) (t.systemGuarantee .sender)
        (fun _ _ => True) (Prog.modify (SrSystem.event now e)) s := by
    intro now e he
    refine Prog.Meets.modify fun s' _ h' => ⟨?_, Std.Refl.refl s'.receiver, fun _ _ _ => trivial⟩
    exact h'.step hfits htotal hmtu now e (fun own msg heq => absurd heq (he own msg)) le_rfl
  have huses : ∀ {th : Thread} {q : Prog ReceiverMemory PUnit} {s : SrSystem},
      Prog.Uses ReceiverAction q →
      Prog.Meets (t.Inv Set.univ True m₀) (t.rely th) (t.guarantee th) (fun _ _ => True) q
        s.receiver →
      Prog.Meets (t.Delivers p m₀) (t.systemRely (.receiver th))
        (t.systemGuarantee (.receiver th)) (fun _ _ => True) (receiverSide q) s :=
    fun hq hdata => receiverSide_meets hdata (hq.meets (fun _ hact m => hact.labelled m) _)
  cases hp with
  | deliver now =>
    refine Prog.Meets.modify fun s' _ h' => ⟨h'.deliver hfits htotal hmtu now, ?_,
      fun _ _ _ => trivial⟩
    have hsame : (s'.deliver now).receiver = s'.receiver := by
      unfold SrSystem.deliver
      split <;> rfl
    rw [systemGuarantee, hsame]
    exact Std.Refl.refl s'.receiver
  | timeout now => exact hevent now _ (by simp)
  | disconnect now => exact hevent now _ (by simp)
  | call =>
    refine Prog.Meets.modify fun s' _ h' => ⟨?_, Std.Refl.refl s'.receiver, fun _ _ _ => trivial⟩
    exact ⟨h'.receiver, h'.consumed, h'.serves, h'.sent, h'.chunkAcked, h'.ackBase,
      fun hstate => PollState.noConfusion hstate⟩
  | worker i packet =>
    refine Prog.Meets.waitUntil_bind fun s' _ h' hready => ?_
    obtain ⟨o, ho, hpacket⟩ := h'.sent packet (of_decide_eq_true hready)
    rw [← hid] at hpacket
    exact huses (receiveDatagram_uses _) (program_meets hfits hid
      (.worker i o packet (Set.mem_univ o) ho hpacket) h'.receiver.inv)
  | poll =>
    have hpoll : ReceiverProgram t 0 0 Set.univ handle True .poller _ := .poll
    exact huses (pollingRound_uses _) (program_meets hfits hid hpoll h.receiver.inv)
  | pump i cfg now answer =>
    have hpump : ReceiverProgram t 0 0 Set.univ handle True (.app i) _ := .pump i cfg now answer
    refine receiverSide_meets (program_meets hfits hid hpump h.receiver.inv) ?_
    exact Prog.Meets.bind h.receiver.labelled ((pumpable_labelled answer).pump_meets
      hfits.totalChunks_lt cfg handle hid now _) fun _ _ _ _ => Prog.Meets.pure fun _ _ _ => trivial
  | complete i answer =>
    have hcomplete : ReceiverProgram t 0 0 Set.univ handle True (.app i) _ :=
      .complete i answer trivial
    exact huses ((sdrRecvComplete_uses _ _).mono CompletionAction.receiverAction)
      (program_meets hfits hid hcomplete h.receiver.inv)

/-! ### Delivery -/

/-- What the sender knows is in the user buffer. -/
structure KnownDelivered (t : Transfer) (s : SrSystem) : Prop where
  chunkAcked : ∀ c, s.poll.sender.chunkAcked c = true → ∀ o, t.InChunk c o → t.Right s.receiver o
  ackBase : ∀ c < s.poll.sender.ackBase, ∀ o, t.InChunk c o → t.Right s.receiver o
  returned : s.poll.state = .returned 0 → s.poll.connected = true →
    ∀ j < t.data.length, s.receiver.buffers t.buffer j = t.data.getD j 0

lemma Delivers.known (hfits : t.Fits) (h : t.Delivers p m₀ s) : t.KnownDelivered s where
  chunkAcked c hc := h.receiver.inv.chunks c (h.chunkAcked c hc)
  ackBase c hc := h.receiver.inv.chunks c (h.ackBase c hc)
  returned hstate hconn j hj := by
    have hm := hfits.mtuBytes
    have hdiv := Nat.div_add_mod j t.mtuBytes
    have hmod := Nat.mod_lt j hm
    rw [Nat.mul_comm] at hdiv
    refine h.returned hstate hconn (j / t.mtuBytes) ?_ j
      ⟨by omega, by rw [Nat.succ_mul]; omega, hj⟩
    rw [totalPackets, Nat.lt_div_iff_mul_lt hm]
    omega

/-- After `start_send` and the post it is matched with. -/
lemma delivers_start (hfits : t.Fits) (hmtu : t.mtuBytes = p.mtuBytes.toNat)
    (hppc : p.packetsPerChunk ≠ 0) (hinv : t.Inv Set.univ True m₀ m₀) (cfg : SRConfig)
    (now : Clock) :
    t.Delivers p m₀ ⟨m₀, ⟨SRSender.start cfg ⟨t.slot, p.transferId, t.data⟩ p now, true, .main⟩,
      m₀.sent.length⟩ := by
  have hm := hfits.mtuBytes
  have hserves := SRSender.start_serves (by rintro h; rw [h] at hmtu; simp at hmtu; omega) hppc cfg
    ⟨t.slot, p.transferId, t.data⟩ now
  obtain ⟨hacked, hbase⟩ := SRSender.start_acks cfg ⟨t.slot, p.transferId, t.data⟩ p now
  have hsends := SRSender.transmits_sendsWithin.start cfg ⟨t.slot, p.transferId, t.data⟩ p now
  obtain ⟨msg, b, f, hmsg, hshape⟩ := hinv.shape
  refine ⟨⟨⟨⟨⟨msg, f, hmsg, hshape.frontend, hshape.chunks, ?_⟩, by simp, le_rfl⟩, by simp⟩, hinv⟩,
    le_rfl, hserves, fun q hq => ?_, fun c hc => absurd hc (by simp [hacked c]),
    fun c hc => absurd hc (by simp [hbase]), fun hstate => PollState.noConfusion hstate⟩
  · rw [hshape.totalChunks, Nat.mod_eq_of_lt hfits.totalChunks_lt]
  · obtain hold | ⟨o, ho, hpacket⟩ := hsends.sent q hq
    · exact absurd hold (List.not_mem_nil)
    · rw [← hsends.continues.mtuBytes, ← hsends.continues.handle] at ho hpacket
      rw [← hsends.continues.params, ← hsends.continues.packetsPerChunk] at hpacket
      rw [hserves.mtuBytes, hserves.userBuffer, ← hmtu] at ho hpacket
      rw [hserves.params, hserves.msgId, hserves.packetsPerChunk] at hpacket
      have ho : o * t.mtuBytes < t.data.length := ho
      refine ⟨o, ?_, hpacket⟩
      rw [totalPackets, Nat.lt_div_iff_mul_lt hm]
      omega

end Transfer

/-- Selective repeat end to end. Whatever the network loses, repeats and reorders, and however the
threads of the receiver and the sender interleave: a chunk that the sender has acknowledged, or that
is below its `ack_base_`, lies in the user buffer as sent, and `poll` returns 0 on an open
connection only when the whole message does. -/
theorem srTransfer_delivers {m m₀ : ReceiverMemory} {msgId buffer : ℕ} {generation : U32}
    {data : List U8} {offer : ConnectionParams} {opened : Bool} {answer : ℤ}
    {handle : SDRRecvHandle} {cts : ControlMessage}
    (hpost : recvPostOnOffer m msgId generation buffer data.length offer opened answer
      = (.ready handle (some cts), m₀))
    (hfits : data.length
      ≤ 2 ^ 18 * (negotiate m.conn.connectionCtx.params offer data.length).mtuBytes.toNat)
    (hchunks : (Transfer.ofPost msgId buffer data
      (negotiate m.conn.connectionCtx.params offer data.length)).totalChunks < 2 ^ 16)
    (cfg : SRConfig) (now : Clock) :
    let t := Transfer.ofPost msgId buffer data
      (negotiate m.conn.connectionCtx.params offer data.length)
    let sender := SRSender.start cfg ⟨msgId, cts.params.transferId, data⟩ cts.params now
    ∀ s, Pool.Reachable (SrProgram handle) ⟨m₀, ⟨sender, true, .main⟩, m₀.sent.length⟩ s →
      t.KnownDelivered s.memory := by
  intro t sender s hs
  have hspec := recvPostOnOffer_spec m msgId generation buffer data.length offer opened answer
  rw [hpost] at hspec
  have hset := hspec.setUp handle rfl
  have hF : t.Fits := Transfer.fits_ofPost hset.lt hfits
  have hid : handle.msgId = t.slot := by rw [hset.handle]; rfl
  have hparams := (hspec.cts handle cts rfl).2
  have hmtu : t.mtuBytes = cts.params.mtuBytes.toNat := by rw [hparams]; rfl
  have hppc : cts.params.packetsPerChunk ≠ 0 := by
    rw [hparams]
    exact ne_zero_of_toNat_pos
      (negotiate_packetsPerChunk m.conn.connectionCtx.params offer data.length)
  have hstart : t.Delivers cts.params m₀ ⟨m₀, ⟨sender, true, .main⟩, m₀.sent.length⟩ :=
    Transfer.delivers_start hF hmtu hppc (Transfer.inv_of_post hset hF Set.univ True) cfg now
  have hI := (Pool.reachable_meets (I := t.Delivers cts.params m₀) (R := t.systemRely)
    (G := t.systemGuarantee) (fun _ _ _ _ hne _ _ => Transfer.systemRely_of_guarantee hne)
    (fun _ _ _ hp => Transfer.srProgram_delivers hF hchunks hmtu hid hp) hstart hs).1
  exact hI.known hF

/-- The sample post, with a sender of the same message. -/
theorem srTransfer_delivers_sample :
    let post := recvPostOnOffer samplePostMemory 0 1 0 sampleData.length (desiredParams .zero 5)
      true 288
    let params := negotiate samplePostMemory.conn.connectionCtx.params (desiredParams .zero 5)
      sampleData.length
    let sender := SRSender.start .default ⟨0, 1, sampleData⟩ (params.withTransferId 1)
      (.still 0)
    ∀ s, Pool.Reachable (SrProgram ⟨0, 1, 0, 5⟩)
        ⟨post.2, ⟨sender, true, .main⟩, post.2.sent.length⟩ s →
      (Transfer.ofPost 0 0 sampleData params).KnownDelivered s.memory := by
  have hready := samplePost_ready
  generalize hpost : recvPostOnOffer samplePostMemory 0 1 0 sampleData.length
    (desiredParams .zero 5) true 288 = post at hready
  exact srTransfer_delivers (hpost.trans (Prod.ext hready rfl)) (by decide +kernel)
    (by decide +kernel) .default (.still 0)

end SdrUdp
