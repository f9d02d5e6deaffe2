import SdrUdp.Link
import SdrUdp.SendPaths
import Mathlib.Data.Nat.Find

/-!
# Whether selective repeat gets through

A sender in `SRSender::poll` and a receiver that pumps, over a link that loses, duplicates and
reorders packets. From its own loop the sender can always be told what is missing; in the loop of
`sdr_send_poll` it does not listen, and what is lost then is never sent again.
-/

namespace SdrUdp

open SdrUdp.Core

/-! ### The receiver's side -/

namespace BitmapPair

/-- The control connection stands, and what was sent after the first `before` control messages are
reports on the message. -/
structure Announcing (t : BitmapPair) (before : ℕ) (m : ReceiverMemory) : Prop where
  totalChunks : ∀ msg, m.message t.slot = some msg → msg.totalChunks % 2 ^ 32 = t.totalChunks
  server : ∃ server, m.conn.tcpServer = some server ∧ 0 ≤ server.clientFd
  before_le : before ≤ m.sent.length
  reports : ∀ msg ∈ m.sent.drop before, Report (· ∈ t.completed m) t.totalChunks msg

variable {t : BitmapPair} {before : ℕ} {m m' : ReceiverMemory}

/-- A step that sends nothing and keeps the number of chunks. -/
lemma Announcing.congr (h : t.Announcing before m) (hgrows : t.Grows m m')
    (hserver : m'.conn.tcpServer = m.conn.tcpServer) (hsent : m'.sent = m.sent)
    (htotal : ∀ msg', m'.message t.slot = some msg' →
      ∃ msg, m.message t.slot = some msg ∧ msg'.totalChunks = msg.totalChunks) :
    t.Announcing before m' where
  totalChunks msg' hmsg' := by
    obtain ⟨msg, hmsg, heq⟩ := htotal msg' hmsg'
    rw [heq]
    exact h.totalChunks msg hmsg
  server := by rw [hserver]; exact h.server
  before_le := by rw [hsent]; exact h.before_le
  reports := by
    rw [hsent]
    exact fun msg hmem => (h.reports msg hmem).mono fun _ hc => hgrows.completed hc

/-- A change of the message in place does so. -/
lemma Announcing.mapMessage (h : t.Announcing before m) {g : MessageContext → MessageContext}
    (hgrows : t.Grows m (m.mapMessage t.slot g))
      (htotal : ∀ msg, (g msg).totalChunks = msg.totalChunks) :
    t.Announcing before (m.mapMessage t.slot g) := by
  refine h.congr hgrows rfl rfl fun msg' hmsg' => ?_
  rw [ReceiverMemory.message_mapMessage] at hmsg'
  obtain ⟨msg, hmsg, rfl⟩ := Option.map_eq_some_iff.mp hmsg'
  exact ⟨msg, hmsg, htotal msg⟩

lemma stable_announcing (t : BitmapPair) (before : ℕ) : t.Stable (t.Announcing before) where
  write m ptr offset data h := by
    have hmsg : (m.writeBuffer ptr offset data).message t.slot = m.message t.slot := by
      cases ptr <;> rfl
    refine h.congr (grows_of_message hmsg) (by cases ptr <;> rfl) (by cases ptr <;> rfl)
      fun msg' h' => ?_
    exact ⟨msg', hmsg ▸ h', rfl⟩
  setReceived _ o hlive h := h.mapMessage (hlive.setReceived o).2.1 fun _ => rfl
  setChunk m c h := h.mapMessage (t.grows_setChunk m c) fun _ => rfl

/-- The receiver may pump. -/
lemma pumpable_announcing (t : BitmapPair) (before : ℕ) : Pumpable t.slot t.totalChunks
    sizeofControlMessage (fun m => t.Live m ∧ t.Announcing before m) t.Grows t.Grows where
  message _ h := by
    obtain ⟨msg, b, f, hmsg, hs⟩ := h.1.message
    exact ⟨msg, f, hmsg, hs.frontend, hs.chunks, h.2.totalChunks msg hmsg⟩
  rely _ _ h := h.completed
  guarantee _ _ h := h.completed
  clock m last h :=
    ⟨⟨h.1.congr rfl, h.2.congr (grows_of_message rfl) rfl rfl fun msg hmsg => ⟨msg, hmsg, rfl⟩⟩,
      grows_of_message rfl⟩
  send m report h hreport := by
    have hmsg := m.sendMessage_message report sizeofControlMessage t.slot
    obtain ⟨server, hserver, hfd⟩ := h.2.server
    have hsent : (m.sendMessage report sizeofControlMessage).sent = m.sent ++ [report] := by
      simp only [ReceiverMemory.sendMessage, hserver, TCPControlServer.sendMessage_whole hfd,
        if_true]
    refine ⟨⟨h.1.congr hmsg, ?_, ⟨server, ?_, hfd⟩, ?_, ?_⟩, grows_of_message hmsg⟩
    · rw [hmsg]
      exact h.2.totalChunks
    · rw [m.sendMessage_conn, hserver]
    · rw [hsent, List.length_append]
      exact h.2.before_le.trans (Nat.le_add_right _ _)
    · rw [hsent, completed_congr hmsg, List.drop_append_of_le_length h.2.before_le]
      intro msg hmem
      rcases List.mem_append.mp hmem with hold | hnew
      · exact h.2.reports msg hold
      · rw [List.mem_singleton.mp hnew]
        exact hreport

end BitmapPair

/-! ### The sender's side -/

/-- A report on the message or a timeout. -/
structure SRPoll.Regular (Done : ℕ → Prop) (total : ℕ) (event : ChannelEvent) : Prop where
  report : ∀ own msg, event = .message own msg → Report Done total msg
  connection : event ≠ .disconnected

namespace SRPoll

variable {p : SRPoll} {now : Clock} {total : ℕ} {event : ChannelEvent} {Done : ℕ → Prop}

/-- An SR_ACK that ends the poll acknowledges all chunks. -/
lemma done_of_ackCompletes {msg : ControlMessage} (hreport : Report Done total msg)
    (htype : msg.msgType = .srAck) (hpos : 0 < total) (htotal : total < 2 ^ 16)
    (hcompletes : SRSender.ackCompletes msg = true) : ∀ c < total, Done c := by
  have hcount : msg.params.totalChunks.toNat = total := by
    rw [hreport.totalChunks, BitVec.toNat_ofNat, Nat.mod_eq_of_lt htotal]
  rw [SRSender.ackCompletes, decide_eq_true_eq, hcount] at hcompletes
  have hne : msg.params.maxInflight ≠ uint32Max := by
    intro h
    rw [h] at hcompletes
    exact absurd hcompletes (not_le.mpr hpos)
  intro c hc
  refine hreport.truthful.cumulative c ⟨Or.inl htype, hne, ?_⟩
  have := msg.params.maxInflight.isLt
  have := Nat.mod_le (msg.params.maxInflight.toNat + 1) (2 ^ 32)
  omega

variable (hregular : Regular Done total event) (hconn : p.connected = true)
include hregular hconn

/-- A poll returns only once everything is done. -/
lemma Regular.done_of_returned (hpos : 0 < total) (htotal : total < 2 ^ 16)
    (hbefore : ∀ rc, p.state ≠ .returned rc) {rc : ℤ}
      (hafter : (p.step now event).state = .returned rc) :
    ∀ c < total, Done c := by
  have hseen : event.seen p.connected = event := if_pos hconn
  unfold step at hafter
  simp only [hseen] at hafter
  cases hstate : p.state with
  | returned rc' => exact absurd hstate (hbefore rc')
  | sendPoll afterTimeout =>
    cases event with
    | message own msg =>
      have hreport := hregular.report own msg rfl
      rcases hreport.msgType with htype | htype | htype
      · simp [hstate, sendPollRound, htype] at hafter
      · simp [hstate, sendPollRound, htype] at hafter
      · exact hreport.complete htype
    | timeout => simp [hstate, sendPollRound] at hafter
    | disconnected => exact absurd rfl hregular.connection
  | main =>
    cases event with
    | message own msg =>
      have hreport := hregular.report own msg rfl
      rcases hreport.msgType with htype | htype | htype
      · refine done_of_ackCompletes hreport htype hpos htotal ?_
        by_contra hnot
        simp [hstate, htype, hnot] at hafter
      · simp [hstate, htype] at hafter
      · exact hreport.complete htype
    | timeout => simp [hstate, ChannelEvent.keepsConnection, enterSendPoll] at hafter
    | disconnected => exact absurd rfl hregular.connection

/-- In the loop of `sdr_send_poll` nothing happens until everything is done. -/
lemma Regular.stays {afterTimeout : Bool} (hstate : p.state = .sendPoll afterTimeout) :
    p.step now event = p ∨ ∀ c < total, Done c := by
  obtain ⟨sender, connected, state⟩ := p
  obtain rfl : connected = true := hconn
  obtain rfl : state = .sendPoll afterTimeout := hstate
  have hseen : event.seen true = event := if_pos rfl
  simp only [step, hseen]
  cases event with
  | message own msg =>
    have hreport := hregular.report own msg rfl
    rcases hreport.msgType with htype | htype | htype
    · left; simp [sendPollRound, htype, ChannelEvent.keepsConnection]
    · left; simp [sendPollRound, htype, ChannelEvent.keepsConnection]
    · exact Or.inr (hreport.complete htype)
  | timeout => left; simp [sendPollRound, ChannelEvent.keepsConnection]
  | disconnected => exact absurd rfl hregular.connection

omit hregular in
/-- A report does not lead into that loop. -/
lemma awake_of_report {own : Bool} {msg : ControlMessage} (hreport : Report Done total msg)
    (hawake : ∀ afterTimeout, p.state ≠ .sendPoll afterTimeout) (afterTimeout : Bool) :
    (p.step now (.message own msg)).state ≠ .sendPoll afterTimeout := by
  have hseen : ChannelEvent.seen (.message own msg) p.connected = .message own msg := if_pos hconn
  unfold step
  simp only [hseen]
  cases hstate : p.state with
  | returned rc => simp [hstate]
  | sendPoll afterTimeout' => exact absurd hstate (hawake afterTimeout')
  | main =>
    rcases hreport.msgType with htype | htype | htype
    · simp only [htype]
      split_ifs <;> simp
    · simp [htype]
    · simp [htype]

end SRPoll

/-! ### A transfer -/

/-- The link to the receiver, the sender in a call of `poll`, the number of control messages it has
taken, and the clock. -/
structure SrTransfer where
  link : Link
  poll : SRPoll
  consumed : ℕ
  clock : ℕ

/-- A call of `pump`; the control connection takes what it sends. -/
def pumpCall (cfg : SRConfig) (handle : SDRRecvHandle) (now : ℕ) : Prog ReceiverMemory PUnit := do
  let _ ← pump cfg handle now sizeofControlMessage
  pure ⟨⟩

namespace SrTransfer

/-- `receive_message` of the sender finds `e`; what the sender transmits goes to the network. -/
def event (now : Clock) (e : ChannelEvent) (s : SrTransfer) : SrTransfer :=
  let poll := s.poll.step now e
  { s with
    link := s.link.send (poll.sender.sent.drop s.poll.sender.sent.length)
    poll
    clock := now poll.sender.ticks }

/-- What the sender reads from the clock at the next event. -/
def Runs (s : SrTransfer) (now : Clock) : Prop :=
  Monotone now ∧ s.clock ≤ now s.poll.sender.ticks

lemma runs_still (s : SrTransfer) : s.Runs (.still s.clock) := ⟨monotone_const, le_rfl⟩

/-- The transfer once the CTS was sent and `start_send` has returned. -/
def start (m : ReceiverMemory) (sender : SRSender) (clock : ℕ) : SrTransfer where
  link := ⟨Pool.start m, sender.sent, fun _ => none⟩
  poll := ⟨sender, true, .main⟩
  consumed := m.sent.length
  clock

variable (cfg : SRConfig) (handle : SDRRecvHandle)

/-- One step without a loss: of the link, of the application, which pumps again and again, of the
sender, which takes the next control message or waits in vain, or of the clock. -/
inductive Step : SrTransfer → SrTransfer → Prop
  | link {s : SrTransfer} {l : Link} (h : s.link.Step handle.msgId l) : Step s { s with link := l }
  | pump {s : SrTransfer} (idle : s.link.pool.threads (.app 0) = .done ⟨⟩) :
      Step s { s with link := s.link.call 0 (pumpCall cfg handle s.clock) }
  | deliver {s : SrTransfer} {msg : ControlMessage} (now : Clock) (runs : s.Runs now)
    (h : s.link.memory.sent[s.consumed]? = some msg) :
      Step s { s.event now (.message true msg) with consumed := s.consumed + 1 }
  | timeout {s : SrTransfer} (now : Clock) (runs : s.Runs now) : Step s (s.event now .timeout)
  | tick {s : SrTransfer} (d : ℕ) : Step s { s with clock := s.clock + d }

/-- One step of a run: packets get lost, and the control connection may break. -/
inductive LossyStep : SrTransfer → SrTransfer → Prop
  | step {s s' : SrTransfer} (h : Step cfg handle s s') : LossyStep s s'
  | lose {s : SrTransfer} (p : SDRPacket) : LossyStep s { s with link := s.link.lose p }
  | disconnect {s : SrTransfer} (now : Clock) (runs : s.Runs now) :
      LossyStep s (s.event now .disconnected)

/-- The chunk bitmap of the receiver is complete. -/
def Complete (t : BitmapPair) (s : SrTransfer) : Prop :=
  ∀ c < t.totalChunks, c ∈ t.completed s.link.memory

/-- Without a further loss the transfer can complete. -/
def GetsThrough (t : BitmapPair) (s : SrTransfer) : Prop :=
  ∃ s', Relation.ReflTransGen (Step cfg handle) s s' ∧ s'.Complete t

/-- The sender is in the loop of `sdr_send_poll`, and some packet was lost. -/
def Trapped (t : BitmapPair) (s : SrTransfer) : Prop :=
  (∃ afterTimeout, s.poll.state = .sendPoll afterTimeout) ∧
    ∃ o < t.totalPackets, ¬ Link.Covered t s.link o

/-- The invariant of a transfer of the message `data` with the parameters `p`, while the control
connection stands. -/
structure Inv (t : BitmapPair) (p : ConnectionParams) (data : List U8) (before : ℕ)
    (s : SrTransfer) :
    Prop where
  link : s.link.Inv t (t.Announcing before)
  serves : s.poll.sender.Serves p t.slot data
  totalChunks : s.poll.sender.totalChunks = t.totalChunks
  connected : s.poll.connected = true
  acked : ∀ c, s.poll.sender.chunkAcked c = true → c ∈ t.completed s.link.memory
  returned : ∀ rc, s.poll.state = .returned rc → ∀ o < t.totalPackets, o ∈ t.received s.link.memory
  before_le : before ≤ s.consumed
  consumed_le : s.consumed ≤ s.link.memory.sent.length

/-- Sizes for which selective repeat can tell the packets and the chunks of a message apart. -/
structure Countable (t : BitmapPair) (p : ConnectionParams) (data : List U8) : Prop
    extends t.Fits where
  countable : SdrUdp.Countable p data
  transferId : p.transferId = t.generation
  packets : t.totalPackets = packetCount p data
  ppc : t.packetsPerChunk = p.packetsPerChunk.toNat
  totalChunks_lt : t.totalChunks < 2 ^ 16

variable {cfg : SRConfig} {handle : SDRRecvHandle}
variable {t : BitmapPair} {p : ConnectionParams} {data : List U8} {before : ℕ} {s s' : SrTransfer}

namespace Countable

variable (hc : Countable t p data)
include hc

lemma totalChunks_eq : t.totalChunks = chunkCount p data := by
  refine eq_of_lt_iff fun c => ?_
  rw [hc.countable.lt_chunkCount_iff, BitmapPair.totalChunks, lt_ceil_iff hc.packetsPerChunk,
    hc.packets, hc.ppc]

lemma totalChunks_lt' : t.totalChunks < 2 ^ 32 := hc.totalChunks_lt.trans (by decide)

lemma totalChunks_pos : 0 < t.totalChunks :=
  (Nat.zero_le _).trans_lt (hc.inChunk hc.totalPackets).1

/-- The packets of a chunk. -/
lemma mem_chunkOffsets (c o : ℕ) :
    o ∈ chunkOffsets (packetCount p data) p.packetsPerChunk.toNat c ↔ t.InChunk c o := by
  rw [chunkOffsets, List.mem_range'_1, BitmapPair.InChunk, hc.packets, hc.ppc, Nat.succ_mul]
  omega

/-- The receiver accepts all packets of the sender. -/
lemma accepts {s : SRSender} (hs : s.Serves p t.slot data) {o : ℕ} {q : SDRPacket}
    (hq : dataPacket s.params.transferId s.handle.msgId s.packetsPerChunk s.mtuBytes
      s.handle.userBuffer o = some q) : t.Accepts q := by
  rw [hs.params, hs.msgId, hs.packetsPerChunk, hs.mtuBytes, hs.userBuffer, hc.transferId] at hq
  exact BitmapPair.accepts_of_dataPacket hc.slot hc.countable.mtu_le hq

end Countable

/-- A received message means that all packets are there. -/
lemma Inv.received_of_complete (hc : Countable t p data) (h : s.Inv t p data before)
    (hall : s.Complete t) : ∀ o < t.totalPackets, o ∈ t.received s.link.memory := fun _ ho =>
  h.link.live.chunks _ (hall _ (hc.inChunk ho).1) _ (hc.inChunk ho).2

/-! ### Steps of a transfer -/

/-- What the sender does keeps the invariant. -/
lemma Inv.event (hc : Countable t p data) (h : s.Inv t p data before) (now : Clock)
    {e : ChannelEvent}
    (he : SRPoll.Regular (· ∈ t.completed s.link.memory) t.totalChunks e) :
    (s.event now e).Inv t p data before := by
  have hcontinues := SRSender.transmits_continues.step (fun s _ _ => ⟨rfl, rfl, rfl, rfl, rfl, [],
    (List.append_nil s.sent).symm, by simp⟩) s.poll now e
  obtain ⟨new, hnew, hmade⟩ := hcontinues.sent
  have hdrop : (s.poll.step now e).sender.sent.drop s.poll.sender.sent.length = new := by
    rw [hnew, List.drop_left]
  refine ⟨?_, hcontinues.serves h.serves, hcontinues.totalChunks.trans h.totalChunks,
    SRPoll.step_connected h.connected _ he.connection, fun c hacked => ?_, fun rc hrc => ?_,
    h.before_le, h.consumed_le⟩
  · refine h.link.send fun q hq => ?_
    rw [hdrop] at hq
    obtain ⟨o, ho⟩ := hmade q hq
    exact hc.accepts h.serves ho
  · rcases s.poll.step_acks now e with hsame | ⟨own, msg, rfl, hacks⟩
    · exact h.acked c (hsame.chunkAcked ▸ hacked)
    · exact (hacks.chunkAcked c hacked).elim (h.acked c) (he.report own msg rfl).truthful.done
  · by_cases hbefore : ∃ rc', s.poll.state = .returned rc'
    · obtain ⟨rc', hrc'⟩ := hbefore
      exact h.returned rc' hrc'
    · rw [not_exists] at hbefore
      have hall : s.Complete t := he.done_of_returned h.connected hc.totalChunks_pos
        hc.totalChunks_lt hbefore hrc
      have hreceived := h.received_of_complete hc hall
      exact hreceived

/-- So does what the link does. -/
lemma Inv.link_step (h : s.Inv t p data before) {l : Link}
    (hl : l.Inv t (t.Announcing before)) (hgrows : t.Grows s.link.memory l.memory)
    (hsent : s.link.memory.sent <+: l.memory.sent) : Inv t p data before { s with link := l } :=
  ⟨hl, h.serves, h.totalChunks, h.connected, fun c hacked => hgrows.completed (h.acked c hacked),
    fun rc hrc o ho => hgrows.received (h.returned rc hrc o ho), h.before_le,
    h.consumed_le.trans hsent.length_le⟩

/-- The next control message is a report. -/
lemma Inv.report_of_next (h : s.Inv t p data before) {msg : ControlMessage}
    (hmsg : s.link.memory.sent[s.consumed]? = some msg) :
    Report (· ∈ t.completed s.link.memory) t.totalChunks msg := by
  refine h.link.stable.reports msg (List.mem_of_getElem? (i := s.consumed - before) ?_)
  rw [List.getElem?_drop, Nat.add_sub_cancel' h.before_le, hmsg]

lemma regular_of_report {Done : ℕ → Prop} {total : ℕ} (own : Bool) {msg : ControlMessage}
    (h : Report Done total msg) : SRPoll.Regular Done total (.message own msg) :=
  ⟨fun _ _ heq => (ChannelEvent.message.inj heq).2 ▸ h, by simp⟩

lemma regular_timeout (Done : ℕ → Prop) (total : ℕ) : SRPoll.Regular Done total .timeout :=
  ⟨fun _ _ heq => absurd heq (by simp), by simp⟩

section Steps

variable (hc : Countable t p data) (hslot : handle.msgId = t.slot)
include hc hslot

/-- A step keeps the invariant and clears no bit. -/
lemma Inv.step (h : s.Inv t p data before) (hstep : Step cfg handle s s') :
    s'.Inv t p data before ∧ t.Grows s.link.memory s'.link.memory := by
  cases hstep with
  | link hl =>
    rw [hslot] at hl
    obtain ⟨hinv, hgrows⟩ := h.link.step hc.toFits (t.stable_announcing before) hl
    exact ⟨h.link_step hinv hgrows (h.link.step_sent hl), hgrows⟩
  | pump idle =>
    refine ⟨h.link_step (h.link.call ?_ ?_) (Std.Refl.refl _) List.prefix_rfl, Std.Refl.refl _⟩
    · exact Prog.Meets.bind h.link.promising.1 ((t.pumpable_announcing before).pump_meets
        hc.totalChunks_lt' cfg handle hslot s.clock _) fun _ _ _ _ =>
          Prog.Meets.pure fun _ _ _ => trivial
    · refine Prog.Straight.bind (pump_straight ?_ ?_ ?_ cfg handle s.clock) fun _ =>
        Prog.Straight.pure _
      · exact fun m => ⟨rfl, List.prefix_rfl⟩
      · exact fun last m => ⟨rfl, List.prefix_rfl⟩
      · intro report m
        refine ⟨m.sendMessage_message _ _ _, ?_⟩
        rcases m.sendMessage_sent report sizeofControlMessage with hsent | hsent
        · exact hsent ▸ List.prefix_rfl
        · exact hsent ▸ List.prefix_append _ _
  | deliver now runs hmsg =>
    have hinv := h.event hc now (regular_of_report true (h.report_of_next hmsg))
    have hlt : s.consumed < s.link.memory.sent.length := (List.getElem?_eq_some_iff.mp hmsg).1
    exact ⟨⟨hinv.link, hinv.serves, hinv.totalChunks, hinv.connected, hinv.acked, hinv.returned,
      h.before_le.trans (Nat.le_succ _), hlt⟩, Std.Refl.refl _⟩
  | timeout now runs => exact ⟨h.event hc now (regular_timeout _ _), Std.Refl.refl _⟩
  | tick d =>
    exact ⟨⟨h.link, h.serves, h.totalChunks, h.connected, h.acked, h.returned, h.before_le,
      h.consumed_le⟩, Std.Refl.refl _⟩

lemma Inv.steps (h : s.Inv t p data before) (hs : Relation.ReflTransGen (Step cfg handle) s s') :
    s'.Inv t p data before ∧ t.Grows s.link.memory s'.link.memory := by
  induction hs with
  | refl => exact ⟨h, Std.Refl.refl _⟩
  | tail _ hstep ih =>
    obtain ⟨hinv, hgrows⟩ := ih.1.step hc hslot hstep
    exact ⟨hinv, IsTrans.trans _ _ _ ih.2 hgrows⟩

omit hc hslot in
/-- An event that the poll does not see. -/
lemma event_of_step_eq {now : Clock} {e : ChannelEvent} (hsame : s.poll.step now e = s.poll) :
    s.event now e
      = { s with link := s.link.send [], clock := now s.poll.sender.ticks } := by
  simp only [SrTransfer.event, hsame, List.drop_length]

/-- As long as the connection stands, losses keep the invariant as well. -/
lemma Inv.lossyStep (h : s.Inv t p data before) (hstep : LossyStep cfg handle s s')
    (hconn : s'.poll.connected = true) : s'.Inv t p data before := by
  cases hstep with
  | step hstep => exact (h.step hc hslot hstep).1
  | lose q => exact h.link_step (h.link.lose q) (Std.Refl.refl _) List.prefix_rfl
  | disconnect now runs =>
    rw [event_of_step_eq (SRPoll.step_disconnected hconn)]
    have hsent := h.link_step (h.link.send (List.forall_mem_nil _)) (Std.Refl.refl _)
      List.prefix_rfl
    exact ⟨hsent.link, hsent.serves, hsent.totalChunks, hsent.connected, hsent.acked,
      hsent.returned, hsent.before_le, hsent.consumed_le⟩

omit hc hslot in
lemma connected_of_lossyStep (hstep : LossyStep cfg handle s s')
    (hconn : s'.poll.connected = true) :
    s.poll.connected = true := by
  cases hstep with
  | step hstep =>
    cases hstep with
    | link hl => exact hconn
    | pump idle => exact hconn
    | deliver now runs hmsg => exact SRPoll.connected_of_step hconn
    | timeout now runs => exact SRPoll.connected_of_step hconn
    | tick d => exact hconn
  | lose q => exact hconn
  | disconnect now runs => exact SRPoll.connected_of_step hconn

lemma Inv.run (h : s.Inv t p data before) (hs : Relation.ReflTransGen (LossyStep cfg handle) s s')
    (hconn : s'.poll.connected = true) : s'.Inv t p data before := by
  induction hs with
  | refl => exact h
  | tail _ hstep ih =>
    exact (ih (connected_of_lossyStep hstep hconn)).lossyStep hc hslot hstep hconn

end Steps

/-! ### The trap -/

section Trap

variable (hc : Countable t p data) (hslot : handle.msgId = t.slot)
include hc

lemma Inv.not_complete_of_trapped (h : s.Inv t p data before) (htrapped : s.Trapped t) :
    ¬ s.Complete t := by
  intro hall
  obtain ⟨-, o, ho, hmissing⟩ := htrapped
  exact hmissing (Or.inl (h.received_of_complete hc hall o ho))

/-- Nothing that the sender receives helps it. -/
lemma Inv.event_trapped (h : s.Inv t p data before) (now : Clock) {e : ChannelEvent}
    (he : SRPoll.Regular (· ∈ t.completed s.link.memory) t.totalChunks e) (htrapped : s.Trapped t) :
    (s.event now e).Trapped t := by
  have hsame : s.poll.step now e = s.poll := by
    obtain ⟨afterTimeout, hstate⟩ := htrapped.1
    exact (he.stays h.connected hstate).resolve_right fun hall =>
      h.not_complete_of_trapped hc htrapped hall
  rw [event_of_step_eq hsame]
  obtain ⟨hstate, o, ho, hmissing⟩ := htrapped
  exact ⟨hstate, o, ho, Link.not_covered_send hmissing (by simp)⟩

include hslot

lemma Inv.step_trapped (h : s.Inv t p data before) (hstep : Step cfg handle s s')
    (htrapped : s.Trapped t) : s'.Trapped t := by
  cases hstep with
  | link hl =>
    obtain ⟨hstate, o, ho, hmissing⟩ := htrapped
    exact ⟨hstate, o, ho, h.link.step_missing (hslot ▸ hl) hmissing⟩
  | pump idle => exact htrapped
  | deliver now runs hmsg =>
    exact h.event_trapped hc now (regular_of_report true (h.report_of_next hmsg)) htrapped
  | timeout now runs => exact h.event_trapped hc now (regular_timeout _ _) htrapped
  | tick d => exact htrapped

/-- Who is trapped stays trapped. -/
lemma Inv.not_getsThrough (h : s.Inv t p data before) (htrapped : s.Trapped t) :
    ¬ s.GetsThrough cfg handle t := by
  rintro ⟨s', hs, hall⟩
  suffices s'.Trapped t from (h.steps hc hslot hs).1.not_complete_of_trapped hc this hall
  clear hall
  induction hs with
  | refl => exact htrapped
  | tail hs hstep ih => exact (h.steps hc hslot hs).1.step_trapped hc hslot hstep ih

end Trap

/-! ### The way out -/

/-- The sender is not in the loop of `sdr_send_poll`. -/
def Awake (s : SrTransfer) : Prop := ∀ afterTimeout, s.poll.state ≠ .sendPoll afterTimeout

/-- The application rests, its pump has started, and no control message is on its way. -/
structure Quiet (s : SrTransfer) : Prop where
  idle : s.link.pool.threads (.app 0) = .done ⟨⟩
  pumped : s.link.memory.lastCtrl.isSome
  consumed : s.link.memory.sent.length ≤ s.consumed
  awake : s.Awake

section Escape

variable (cfg)
variable (hc : Countable t p data) (hslot : handle.msgId = t.slot)

include hslot in
/-- What the link can do, the transfer can do. -/
lemma steps_of_link {l : Link} (hl : Link.Steps t.slot s.link l) :
    Relation.ReflTransGen (Step cfg handle) s { s with link := l } := by
  rw [← hslot] at hl
  exact hl.lift (fun l => { s with link := l }) fun l₁ l₂ hstep =>
    show Step cfg handle { s with link := l₁ } { s with link := l₂ } from .link hstep

include hc hslot

/-- Whatever is still on its way may arrive. -/
lemma Inv.getsThrough_of_covered (h : s.Inv t p data before)
    (hcovered : ∀ o < t.totalPackets, Link.Covered t s.link o) : s.GetsThrough cfg handle t := by
  obtain ⟨l, hl, hall⟩ := h.link.steps_complete hc.toFits (t.stable_announcing before)
    (C := fun _ => True) fun c _ o ho => hcovered o ho.2.2
  exact ⟨_, steps_of_link cfg hslot hl, fun c hlt => hall c hlt trivial⟩

/-- The sender takes all control messages that are on their way. -/
lemma Inv.steps_drain (h : s.Inv t p data before) (hidle : s.link.pool.threads (.app 0) = .done ⟨⟩)
    (hpumped : s.link.memory.lastCtrl.isSome) (hawake : s.Awake) :
    ∃ s', Relation.ReflTransGen (Step cfg handle) s s' ∧ s'.Quiet := by
  induction hn : s.link.memory.sent.length - s.consumed generalizing s with
  | zero => exact ⟨s, .refl, hidle, hpumped, by omega, hawake⟩
  | succ n ih =>
    have hlt : s.consumed < s.link.memory.sent.length := by omega
    have hdeliver : Step cfg handle s _ :=
      .deliver _ s.runs_still (List.getElem?_eq_getElem hlt)
    obtain ⟨s', hs, hquiet⟩ := ih (h.step hc hslot hdeliver).1 hidle hpumped
      (SRPoll.awake_of_report h.connected (h.report_of_next (List.getElem?_eq_getElem hlt)) hawake)
      (by simp only [SrTransfer.event, Link.send, Link.memory] at hn hlt ⊢; omega)
    exact ⟨s', .head hdeliver hs, hquiet⟩

lemma Inv.steps_quiet (h : s.Inv t p data before) (hawake : s.Awake) :
    ∃ s', Relation.ReflTransGen (Step cfg handle) s s' ∧ s'.Quiet := by
  obtain ⟨l₁, hl₁, hidle, -⟩ := h.link.steps_finish (.app 0)
  have hs₁ := steps_of_link cfg hslot hl₁
  have h₁ := (h.steps hc hslot hs₁).1
  cases hlast : l₁.memory.lastCtrl with
  | some last =>
    obtain ⟨s', hs, hquiet⟩ := h₁.steps_drain cfg hc hslot hidle (by rw [hlast]; rfl) hawake
    exact ⟨s', hs₁.trans hs, hquiet⟩
  | none =>
    -- the first call of `pump` only starts its clock
    have hpump : Step cfg handle { s with link := l₁ } _ := .pump hidle
    have h₂ := (h₁.step hc hslot hpump).1
    obtain ⟨l₃, hl₃, hidle₃, -, -, -, -, hrun⟩ := h₂.link.steps_finish (.app 0)
    have hs₃ := steps_of_link cfg hslot hl₃
    have hmem : l₃.memory = { l₁.memory with lastCtrl := some s.clock } := by
      rw [Link.call_app, Link.call_memory] at hrun
      simp only [pumpCall, Prog.run_bind, run_pump_first hlast, Option.bind_some, Prog.run_pure]
        at hrun
      exact ((Prod.mk.inj (Option.some.inj hrun)).2).symm
    obtain ⟨s', hs, hquiet⟩ := (h₂.steps hc hslot hs₃).1.steps_drain cfg hc hslot hidle₃
      (by rw [hmem]; rfl) hawake
    exact ⟨s', hs₁.trans (.head hpump (hs₃.trans hs)), hquiet⟩

omit hslot in
/-- The sender sends the first chunk that an SR_NACK asks for again, when it has not done so a
moment ago. -/
lemma Inv.covered_of_request (h : s.Inv t p data before) (own : Bool) (hmain : s.poll.state = .main)
    {msg : ControlMessage} (hreport : Report (· ∈ t.completed s.link.memory) t.totalChunks msg)
    (htype : msg.msgType = .srNack) (now : Clock) {k : ℕ} (hrequests : Requests msg k)
    (hk : k < t.totalChunks)
    (hmissing : k ∉ t.completed s.link.memory)
    (hguard : SRSender.guardMs
      ≤ elapsedMs (now s.poll.sender.ticks) (s.poll.sender.lastTx k)) :
    ∀ o, t.InChunk k o → Link.Covered t (s.event now (.message own msg)).link o := by
  intro o ho
  have hmerged := SRSender.transmits_continues.acks (fun s _ _ => ⟨rfl, rfl, rfl, rfl, rfl, [],
    (List.append_nil s.sent).symm, by simp⟩) s.poll.sender msg
  have hcontinues := SRSender.transmits_continues.trans hmerged
    (SRSender.transmits_continues.tick _)
  have hacks := s.poll.sender.applyAcks (Or.inr htype)
  have hrequested := SRSender.transmits_continues.onSrNack_requested (s := s.poll.sender)
    now hrequests (hk.trans hc.totalChunks_lt) (h.totalChunks ▸ hk)
    (Bool.eq_false_iff.mpr fun hacked => hmissing ((hacks.chunkAcked k hacked).elim (h.acked k)
      hreport.truthful.done)) hguard
  have hstep : (s.poll.step now (.message own msg)).sender
      = s.poll.sender.onSrNack msg now := by
    have hseen : ChannelEvent.seen (.message own msg) s.poll.connected = .message own msg :=
      if_pos h.connected
    simp only [SRPoll.step, hseen, hmain, htype]
  -- what was sent before, the packets of the chunk, and whatever comes after
  obtain ⟨old, hold, -⟩ := hcontinues.sent
  obtain ⟨new, hnew, -⟩ := hrequested.sent
  rw [(hcontinues.serves h.serves).sent_retransmitRange hc.countable (hc.totalChunks_eq ▸ hk), hold,
    List.append_assoc, List.append_assoc] at hnew
  obtain ⟨q, hq, hoffset⟩ := hc.countable.postPacket_eq_some t.slot o
  have hlt : o < 2 ^ 18 := ho.2.2.trans_le (hc.packets ▸ hc.countable.packetCount_le)
  have hindex : q.header.packetOffset.toNat = o := by
    rw [hoffset, BitVec.toNat_ofNat, Nat.mod_eq_of_lt hlt]
  refine Link.covered_send (p := q) ?_ hindex s.link
  rw [hstep, hnew, List.drop_left]
  refine List.mem_append_right _ (List.mem_append_left _ ?_)
  exact List.mem_filterMap.mpr ⟨o, (hc.mem_chunkOffsets k o).mpr ho, hq⟩

/-- Once all is quiet, a call of `pump` and what the sender does with its SR_NACK complete the first
missing chunk. -/
lemma Inv.steps_next (h : s.Inv t p data before) (hquiet : s.Quiet) (hmain : s.poll.state = .main)
    {k : ℕ} (hk : k < t.totalChunks) (hbelow : ∀ c < k, c ∈ t.completed s.link.memory)
    (hmissing : k ∉ t.completed s.link.memory) :
    ∃ s', Relation.ReflTransGen (Step cfg handle) s s' ∧ s'.Awake ∧
      k ∈ t.completed s'.link.memory := by
  obtain ⟨last, hlast⟩ := Option.isSome_iff_exists.mp hquiet.pumped
  obtain ⟨d, hd⟩ := exists_elapsedMs
    (if cfg.nackDelayMs ≠ 0 then cfg.nackDelayMs else max (cfg.baseRttMs / 2) 50) last s.clock
  obtain ⟨d', hd'⟩ := exists_elapsedMs 50 (s.poll.sender.lastTx k) (s.clock + d)
  -- the clock moves on, and the application pumps
  have htick : Step cfg handle s _ := .tick (d + d')
  have h₁ := (h.step hc hslot htick).1
  have hpump : Step cfg handle { s with clock := s.clock + (d + d') } _ := .pump hquiet.idle
  have h₂ := (h₁.step hc hslot hpump).1
  obtain ⟨l₃, hl₃, -, hflight₃, hhands₃, -, -, hrun⟩ := h₂.link.steps_finish (.app 0)
  have hs₃ := steps_of_link cfg hslot hl₃
  have h₃ := (h₂.steps hc hslot hs₃).1
  obtain ⟨report, hmessage, hsent, htype, hrequests⟩ : ∃ report,
      l₃.memory.message t.slot = s.link.memory.message t.slot ∧
      l₃.memory.sent = s.link.memory.sent ++ [report] ∧ report.msgType = .srNack ∧
      Requests report k := by
    obtain ⟨msg, b, f, hmsg, hs⟩ := h.link.live.message
    obtain ⟨server, hserver, hfd⟩ := h.link.stable.server
    obtain ⟨done, m', report, hrun', hmessage, hsent, htype, hrequests⟩ := run_pump_missing cfg
      (s.clock + (d + d')) (hslot ▸ hmsg) hs.frontend
      ((h.link.stable.totalChunks msg hmsg).trans hs.chunks.symm) hlast
      (hd.trans (elapsedMs_mono (by omega) last)) (hs.chunks ▸ hk) (hslot ▸ hbelow)
      (hslot ▸ hmissing) hserver hfd
    rw [Link.call_app, Link.call_memory] at hrun
    simp only [pumpCall, Prog.run_bind, hrun', Option.bind_some, Prog.run_pure] at hrun
    obtain rfl := (Prod.mk.inj (Option.some.inj hrun)).2
    exact ⟨report, hslot ▸ hmessage, hsent, htype, hrequests⟩
  -- the sender takes the SR_NACK, and what it sends arrives
  have hcompleted := BitmapPair.completed_congr hmessage
  have hconsumed : s.consumed = s.link.memory.sent.length :=
    le_antisymm h.consumed_le hquiet.consumed
  have hnext : l₃.memory.sent[s.consumed]? = some report := by
    rw [hsent, hconsumed]
    simp
  have hdeliver : Step cfg handle ⟨l₃, s.poll, s.consumed, s.clock + (d + d')⟩ _ :=
    .deliver _ (runs_still _) hnext
  have h₄ := (h₃.step hc hslot hdeliver).1
  have hcovered := h₃.covered_of_request hc true hmain (h₃.report_of_next hnext) htype
    (.still (s.clock + (d + d'))) hrequests hk (hcompleted ▸ hmissing)
    (by rw [Clock.still, ← Nat.add_assoc]; exact hd')
  obtain ⟨l, hl, hall⟩ := h₄.link.steps_complete hc.toFits (t.stable_announcing before)
    (C := fun c => c = k) (by rintro c rfl; exact hcovered)
  refine ⟨_, .head htick (.head hpump (hs₃.trans (.head hdeliver (steps_of_link cfg hslot hl)))),
    ?_,
    hall k hk rfl⟩
  exact SRPoll.awake_of_report h.connected (h₃.report_of_next hnext) fun afterTimeout => by
    rw [hmain]
    simp

/-- A sender that listens gets everything through, chunk by chunk. -/
lemma Inv.getsThrough_of_awake (h : s.Inv t p data before) (hawake : s.Awake) :
    s.GetsThrough cfg handle t := by
  suffices hsome : ∀ (n : ℕ) (s : SrTransfer), s.Inv t p data before → s.Awake →
      (∀ c < t.totalChunks - n, c ∈ t.completed s.link.memory) → s.GetsThrough cfg handle t from
    hsome t.totalChunks s h hawake fun c hlt => absurd hlt (by omega)
  intro n
  induction n with
  | zero => exact fun s _ _ hall => ⟨s, .refl, hall⟩
  | succ n ih =>
    intro s h hawake hbefore
    obtain ⟨s₁, hs₁, hquiet⟩ := h.steps_quiet cfg hc hslot hawake
    obtain ⟨h₁, hgrows₁⟩ := h.steps hc hslot hs₁
    by_cases hall : s₁.Complete t
    · exact ⟨s₁, hs₁, hall⟩
    cases hstate : s₁.poll.state with
    | sendPoll afterTimeout => exact absurd hstate (hquiet.awake afterTimeout)
    | returned rc =>
      obtain ⟨s₂, hs₂, hall₂⟩ := h₁.getsThrough_of_covered cfg hc hslot fun o ho =>
        Or.inl (h₁.returned rc hstate o ho)
      exact ⟨s₂, hs₁.trans hs₂, hall₂⟩
    | main =>
      simp only [Complete, not_forall] at hall
      obtain ⟨k, ⟨hk, hmissing⟩, hfirst⟩ :
        ∃ k, (k < t.totalChunks ∧ k ∉ t.completed s₁.link.memory) ∧
          ∀ c < k, ¬ (c < t.totalChunks ∧ c ∉ t.completed s₁.link.memory) := by
        classical
        have hex : ∃ k, k < t.totalChunks ∧ k ∉ t.completed s₁.link.memory :=
          hall.imp fun c hc => ⟨hc.1, hc.2⟩
        exact ⟨Nat.find hex, Nat.find_spec hex, fun c hc => Nat.find_min hex hc⟩
      have hbelow : ∀ c < k, c ∈ t.completed s₁.link.memory := fun c hlt =>
        by_contra fun hnot => hfirst c hlt ⟨hlt.trans hk, hnot⟩
      obtain ⟨s₂, hs₂, hawake₂, hset⟩ := h₁.steps_next cfg hc hslot hquiet hstate hk hbelow
        hmissing
      obtain ⟨h₂, hgrows₂⟩ := h₁.steps hc hslot hs₂
      have hge : t.totalChunks - (n + 1) ≤ k := by
        by_contra hlt
        exact hmissing (hgrows₁.completed (hbefore k (not_le.mp hlt)))
      obtain ⟨s₃, hs₃, hall₃⟩ := ih s₂ h₂ hawake₂ fun c hlt => by
        rcases Nat.lt_or_eq_of_le (show c ≤ k by omega) with hck | rfl
        · exact hgrows₂.completed (hbelow c hck)
        · exact hset
      exact ⟨s₃, hs₁.trans (hs₂.trans hs₃), hall₃⟩

/-- What is not trapped gets through. -/
lemma Inv.getsThrough_iff (h : s.Inv t p data before) :
    s.GetsThrough cfg handle t ↔ ¬ s.Trapped t := by
  refine ⟨fun hthrough htrapped => h.not_getsThrough hc hslot htrapped hthrough, fun hnot => ?_⟩
  by_cases hawake : s.Awake
  · exact h.getsThrough_of_awake cfg hc hslot hawake
  · simp only [Awake, not_forall, not_not] at hawake
    refine h.getsThrough_of_covered cfg hc hslot fun o ho => ?_
    by_contra hmissing
    exact hnot ⟨hawake, o, ho, hmissing⟩

end Escape

end SrTransfer

/-! ### The transfer after a post -/

namespace SrTransfer

/-- Losing all packets at once. -/
lemma steps_lose {cfg : SRConfig} {handle : SDRRecvHandle} (s : SrTransfer) :
    Relation.ReflTransGen (LossyStep cfg handle) s
      { s with link := { s.link with flight := [] } } :=
  Link.steps_loseAll (fun link => { s with link }) (fun _ p => .lose p) s.link

/-- A sender whose first packets are lost during a timeout is trapped. -/
lemma Inv.exists_trapped {cfg : SRConfig} {handle : SDRRecvHandle} {t : BitmapPair}
    {p : ConnectionParams} {data : List U8} {before : ℕ} {s : SrTransfer}
    (h : s.Inv t p data before) (hmain : s.poll.state = .main) (hhands : ∀ i, s.link.hands i = none)
    {o : ℕ} (ho : o < t.totalPackets) (hmissing : o ∉ t.received s.link.memory) :
    ∃ s', Relation.ReflTransGen (LossyStep cfg handle) s s' ∧ s'.poll.connected = true ∧
      s'.Trapped t := by
  have hseen : ChannelEvent.timeout.seen s.poll.connected = .timeout := if_pos h.connected
  have hpoll : (s.event (.still s.clock) .timeout).poll =
      { s.poll with connected := true, state := .sendPoll true } := by
    simp only [SrTransfer.event, SRPoll.step, hseen, hmain, ChannelEvent.keepsConnection,
      enterSendPoll, if_true]
  refine ⟨_, .head (.step (.timeout _ s.runs_still)) (steps_lose _), by rw [hpoll],
    ⟨true, by rw [hpoll]⟩, o, ho, ?_⟩
  rintro (hreceived | ⟨q, -, hq | ⟨i, hi⟩⟩)
  · exact hmissing hreceived
  · exact absurd hq (List.not_mem_nil)
  · exact absurd ((hhands i).symm.trans hi) (by simp)

section Post

variable {m m₀ : ReceiverMemory} {msgId buffer : ℕ} {generation : U32} {data : List U8}
  {offer : ConnectionParams} {opened : Bool} {answer : ℤ} {handle : SDRRecvHandle}
  {cts : ControlMessage}

/-- The parameters of a CTS count the packets of the message. -/
lemma countable_cts
    (hpost : recvPostOnOffer m msgId generation buffer data.length offer opened answer
      = (.ready handle (some cts), m₀))
    (hpackets : data.length ≤ 2 ^ 18 * cts.params.mtuBytes.toNat) :
    SdrUdp.Countable cts.params data := by
  have hspec := recvPostOnOffer_spec m msgId generation buffer data.length offer opened answer
  rw [hpost] at hspec
  have hmtu := negotiate_mtuBytes m.conn.connectionCtx.params offer data.length
  have hppc := negotiate_packetsPerChunk m.conn.connectionCtx.params offer data.length
  rw [(hspec.cts handle cts rfl).2] at hpackets ⊢
  exact ⟨hmtu.1, hmtu.2, hppc, hpackets⟩

/-- The message that a post sets up. -/
lemma countable_of_post (hdata : data ≠ [])
    (hpost : recvPostOnOffer m msgId generation buffer data.length offer opened answer
      = (.ready handle (some cts), m₀))
    (hpackets : data.length ≤ 2 ^ 18 * cts.params.mtuBytes.toNat)
    (hchunks : chunkCount cts.params data < 2 ^ 16) :
    Countable (.ofPost msgId data.length generation cts.params) cts.params data := by
  have hspec := recvPostOnOffer_spec m msgId generation buffer data.length offer opened answer
  rw [hpost] at hspec
  have hset := hspec.setUp handle rfl
  have hparams := (hspec.cts handle cts rfl).2
  have hcount := countable_cts hpost hpackets
  have hfits : (BitmapPair.ofPost msgId data.length generation cts.params).Fits := by
    have hle : packetCount cts.params data ≤ 2 ^ 18 := hcount.packetCount_le
    have hlt := cts.params.packetsPerChunk.isLt
    refine ⟨hset.lt, (hcount.lt_packetCount_iff 0).mpr ?_, hcount.ppc_pos, ?_⟩
    · rw [Nat.zero_mul]
      exact List.length_pos_iff.mpr hdata
    · change packetCount cts.params data + cts.params.packetsPerChunk.toNat < 2 ^ 32
      omega
  refine ⟨hfits, hcount, by rw [hparams]; rfl, rfl, rfl, ?_⟩
  refine lt_of_eq_of_lt (eq_of_lt_iff fun c => ?_) hchunks
  rw [hcount.lt_chunkCount_iff, BitmapPair.totalChunks, lt_ceil_iff hfits.packetsPerChunk]
  rfl

section Start

variable (hpost : recvPostOnOffer m msgId generation buffer data.length offer opened answer
    = (.ready handle (some cts), m₀))
  (hgen : m.conn.connectionCtx.generationCounters msgId = generation)
  (hc : Countable (.ofPost msgId data.length generation cts.params) cts.params data)
include hpost hgen hc

lemma built_start : (BitmapPair.ofPost msgId data.length generation cts.params).Built m₀ := by
  have hspec := recvPostOnOffer_spec m msgId generation buffer data.length offer opened answer
  rw [hpost] at hspec
  have hsize := hc.size
  rw [(hspec.cts handle cts rfl).2] at hsize ⊢
  rw [← hgen] at hsize ⊢
  exact BitmapPair.built_of_post (hspec.setUp handle rfl) hsize

lemma inv_start (cfg : SRConfig) (now : Clock) (clock : ℕ) :
    Inv (.ofPost msgId data.length generation cts.params) cts.params data m₀.sent.length
      (start m₀ (SRSender.start cfg ⟨msgId, generation, data⟩ cts.params now) clock) := by
  have hspec := recvPostOnOffer_spec m msgId generation buffer data.length offer opened answer
  rw [hpost] at hspec
  have hset := hspec.setUp handle rfl
  have hbuilt := built_start hpost hgen hc
  obtain ⟨msg, b, f, hmsg, hs, -⟩ := (Transfer.filling_of_post hset rfl hbuilt).message
  have hlive := (BitmapPair.live_of_post hset rfl hbuilt).1
  have hannouncing : (BitmapPair.ofPost msgId data.length generation cts.params).Announcing
      m₀.sent.length m₀ := by
    refine ⟨fun msg' hmsg' => ?_, recvPostOnOffer_server hpost, le_rfl, by simp⟩
    obtain rfl := Option.some.inj (hmsg'.symm.trans hmsg)
    rw [hs.chunkCount, Nat.mod_eq_of_lt hc.totalChunks_lt']
  have hmtu : cts.params.mtuBytes ≠ 0 := ne_zero_of_toNat_pos hc.countable.mtu_pos
  have hppc : cts.params.packetsPerChunk ≠ 0 := ne_zero_of_toNat_pos hc.countable.ppc_pos
  have hserves := SRSender.start_serves hmtu hppc cfg ⟨msgId, generation, data⟩ now
  obtain ⟨htotal, hmade⟩ := SRSender.start_sent cfg ⟨msgId, generation, data⟩ cts.params now
  obtain ⟨hacked, -⟩ := SRSender.start_acks cfg ⟨msgId, generation, data⟩ cts.params now
  refine ⟨⟨⟨⟨hlive, hannouncing⟩, fun th => ?_⟩, fun _ => trivial, fun q hq => ?_⟩, hserves,
    ?_, rfl,
    fun c hc' => absurd hc' (by simp [start, hacked c]), fun rc hrc => absurd hrc (by simp [start]),
    le_rfl, le_rfl⟩
  · cases th with
    | worker i => exact fun _ _ _ q hq => absurd hq (by simp [start])
    | poller => exact fun _ _ _ => trivial
    | app i => exact fun _ _ _ => trivial
  · obtain ⟨o, ho⟩ := hmade q hq
    exact hc.accepts hserves ho
  · change (SRSender.start cfg ⟨msgId, generation, data⟩ cts.params now).totalChunks = _
    rw [htotal, hserves.mtuBytes, hserves.packetsPerChunk, hc.totalChunks_eq,
      hc.countable.ceilDiv_chunkBytes]
    exact Nat.mod_eq_of_lt (hc.totalChunks_eq ▸ hc.totalChunks_lt')

lemma not_complete_start (sender : SRSender) (clock : ℕ) :
    ¬ (start m₀ sender clock).Complete (.ofPost msgId data.length generation cts.params) := by
  intro hall
  have hfirst := hall 0 hc.totalChunks_pos
  change 0 ∈ BitmapPair.completed _ m₀ at hfirst
  rw [(built_start hpost hgen hc).completed] at hfirst
  exact hfirst

/-- A timeout of the sender and the loss of all packets trap a transfer that has just started. -/
lemma exists_trapped_start (cfg cfg' : SRConfig) (now : Clock) (clock : ℕ) :
    ∃ s, Relation.ReflTransGen (LossyStep cfg' handle)
        (start m₀ (SRSender.start cfg ⟨msgId, generation, data⟩ cts.params now) clock) s ∧
      s.poll.connected = true ∧ s.Trapped (.ofPost msgId data.length generation cts.params) := by
  refine (inv_start hpost hgen hc cfg now clock).exists_trapped rfl (fun _ => rfl)
    hc.totalPackets ?_
  change 0 ∉ BitmapPair.received _ m₀
  rw [(built_start hpost hgen hc).received]
  exact Set.notMem_empty 0

end Start

/-- From every state that a transfer reaches while the control connection stands, it can complete
without a further loss, unless the sender is in the loop of `sdr_send_poll` and a packet was
lost. -/
theorem srGetsThrough_iff
    (hpost : recvPostOnOffer m msgId generation buffer data.length offer opened answer
      = (.ready handle (some cts), m₀))
    (hgen : m.conn.connectionCtx.generationCounters msgId = generation)
    (hpackets : data.length ≤ 2 ^ 18 * cts.params.mtuBytes.toNat)
    (hchunks : chunkCount cts.params data < 2 ^ 16) (cfg cfg' : SRConfig) (now : Clock)
    (clock : ℕ) :
    let t := BitmapPair.ofPost msgId data.length generation cts.params
    let sender := SRSender.start cfg ⟨msgId, generation, data⟩ cts.params now
    ∀ s, Relation.ReflTransGen (LossyStep cfg' handle) (start m₀ sender clock) s →
      s.poll.connected = true → ¬ s.Complete t →
      (s.GetsThrough cfg' handle t ↔ ¬ s.Trapped t) := by
  intro t sender s hs hconn hincomplete
  by_cases hdata : data = []
  · refine absurd (fun c hlt => ?_) hincomplete
    have hcount := countable_cts hpost hpackets
    have hfirst := (hcount.lt_packetCount_iff _).mp ((lt_ceil_iff hcount.ppc_pos c).mp hlt)
    rw [hdata] at hfirst
    exact absurd hfirst (Nat.not_lt_zero _)
  · have hspec := recvPostOnOffer_spec m msgId generation buffer data.length offer opened answer
    rw [hpost] at hspec
    have hid : handle.msgId = t.slot := by rw [(hspec.setUp handle rfl).handle]; rfl
    have hc := countable_of_post hdata hpost hpackets hchunks
    exact ((inv_start hpost hgen hc cfg now clock).run hc hid hs hconn).getsThrough_iff cfg' hc hid

end Post

section Sample

/-- The parameters of the sample message: packets of two bytes, chunks of two packets. -/
def sampleParams : ConnectionParams :=
  (negotiate samplePostMemory.conn.connectionCtx.params (desiredParams .zero 5) 5).withTransferId 1

/-- The memory after the post of the sample message. -/
def sampleMemory : ReceiverMemory :=
  (recvPostOnOffer samplePostMemory 0 1 0 sampleData.length (desiredParams .zero 5) true
    sizeofControlMessage).2

/-- The transfer of the sample message. -/
def sample : SrTransfer :=
  start sampleMemory (SRSender.start .default ⟨0, 1, sampleData⟩ sampleParams (.still 0)) 0

/-- Its bitmaps. -/
def sampleBitmaps : BitmapPair := .ofPost 0 sampleData.length 1 sampleParams

lemma sample_post : recvPostOnOffer samplePostMemory 0 1 0 sampleData.length (desiredParams .zero 5)
    true sizeofControlMessage = (.ready ⟨0, 1, 0, 5⟩ (some (ctsMessage 1 sampleParams)),
      sampleMemory) := by
  have hready : (recvPostOnOffer samplePostMemory 0 1 0 sampleData.length (desiredParams .zero 5)
      true sizeofControlMessage).1 = .ready ⟨0, 1, 0, 5⟩ (some (ctsMessage 1 sampleParams)) := by
    decide +kernel
  rw [← hready, sampleMemory]

lemma sample_countable : Countable sampleBitmaps sampleParams sampleData :=
  countable_of_post (by decide) sample_post (by decide +kernel) (by decide +kernel)

/-- The sample transfer gets through as long as nothing was lost. -/
theorem srGetsThrough_sample :
    sample.GetsThrough .default ⟨0, 1, 0, 5⟩ sampleBitmaps ↔ ¬ sample.Trapped sampleBitmaps :=
  srGetsThrough_iff sample_post rfl (by decide +kernel)
    (by decide +kernel) .default .default (.still 0) 0 sample
    .refl rfl (not_complete_start sample_post rfl sample_countable _ 0)

/-- When its packets are lost during a timeout of the sender, it cannot complete any more. -/
theorem sr_trapped : ¬ ∀ s,
    Relation.ReflTransGen (LossyStep .default ⟨0, 1, 0, 5⟩) sample s → s.poll.connected = true →
      ¬ s.Complete sampleBitmaps → s.GetsThrough .default ⟨0, 1, 0, 5⟩ sampleBitmaps := by
  intro hthrough
  have hinv : sample.Inv sampleBitmaps sampleParams sampleData sampleMemory.sent.length :=
    inv_start sample_post rfl sample_countable .default (.still 0) 0
  obtain ⟨s, hs, hconn, htrapped⟩ : ∃ s,
      Relation.ReflTransGen (LossyStep .default ⟨0, 1, 0, 5⟩) sample s ∧ s.poll.connected = true ∧
        s.Trapped sampleBitmaps :=
    exists_trapped_start sample_post rfl sample_countable .default .default (.still 0) 0
  have h := hinv.run sample_countable rfl hs hconn
  exact h.not_getsThrough sample_countable rfl htrapped
    (hthrough s hs hconn (h.not_complete_of_trapped sample_countable htrapped))

end Sample

end SrTransfer

end SdrUdp
