import SdrUdp.SrSender
import SdrUdp.DataPath
import SdrUdp.ReceiverActions

/-!
# A selective-repeat transfer

Sender and receiver of one transfer over one memory: the sender takes the receiver's messages in
order, workers take what the sender has put on the network, the poller sets chunk bits and `pump`
reads them, all interleaved. What is acknowledged is complete, in flight and at the sender.
-/

namespace SdrUdp

open SdrUdp.Core

/-! ### The receiver's side of the invariant -/

/-- The chunks of the message in slot `slot` whose frontend bit is set. -/
def completedChunks (slot : ℕ) (m : ReceiverMemory) : Set ℕ := bits (m.chunkWords slot)

/-- Chunk bits are only ever set. -/
def ChunksGrow (slot : ℕ) (m m' : ReceiverMemory) : Prop :=
  completedChunks slot m ⊆ completedChunks slot m'

instance (slot : ℕ) : Std.Refl (ChunksGrow slot) := ⟨fun _ _ h => h⟩

instance (slot : ℕ) : IsTrans ReceiverMemory (ChunksGrow slot) := ⟨fun _ _ _ h h' _ hc => h' (h hc)⟩

/-- The message is there with its chunks, and what was sent after the first `before` control
messages acknowledges only chunks whose bit is set. -/
structure Reporting (slot total before : ℕ) (m : ReceiverMemory) : Prop where
  message : ∃ msg f, m.message slot = some msg ∧ msg.frontendBitmap = some f ∧
    f.totalChunks = total ∧ msg.totalChunks % 2 ^ 32 = total
  truthful : ∀ msg ∈ m.sent.drop before, Truthful (· ∈ completedChunks slot m) msg
  before_le : before ≤ m.sent.length

variable {slot total before : ℕ} {m : ReceiverMemory}

lemma chunkWords_of_message {msg : MessageContext} {f : FrontendBitmap}
    (hmsg : m.message slot = some msg) (hf : msg.frontendBitmap = some f) :
    m.chunkWords slot = f.chunkBitmap := by
  simp [ReceiverMemory.chunkWords, ReceiverMemory.frontendBitmap, hmsg, hf]

/-- A step on the message of some slot that keeps its size and sets chunk bits at most. -/
lemma Reporting.mapMessage (h : Reporting slot total before m) (id : ℕ)
    {g : MessageContext → MessageContext} (htotal : ∀ msg, (g msg).totalChunks = msg.totalChunks)
    (hfront : ∀ msg f, msg.frontendBitmap = some f → ∃ f', (g msg).frontendBitmap = some f' ∧
      f'.totalChunks = f.totalChunks ∧ bits f.chunkBitmap ⊆ bits f'.chunkBitmap) :
    Reporting slot total before (m.mapMessage id g) ∧ ChunksGrow slot m (m.mapMessage id g) := by
  obtain ⟨msg, f, hmsg, hf, hfc, hmc⟩ := h.message
  have hgrow : ∃ msg' f', (m.mapMessage id g).message slot = some msg' ∧
      msg'.frontendBitmap = some f' ∧ f'.totalChunks = total ∧ msg'.totalChunks % 2 ^ 32 = total ∧
      bits f.chunkBitmap ⊆ bits f'.chunkBitmap := by
    by_cases hid : slot = id
    · subst hid
      obtain ⟨f', hf', hfc', hsub⟩ := hfront msg f hf
      exact ⟨g msg, f', by simp [hmsg], hf', hfc'.trans hfc, by rw [htotal, hmc], hsub⟩
    · exact ⟨msg, f, by rw [ReceiverMemory.message_mapMessage_of_ne hid, hmsg], hf, hfc, hmc,
        fun _ hc => hc⟩
  obtain ⟨msg', f', hmsg', hf', hfc', hmc', hsub⟩ := hgrow
  have hchunks : ChunksGrow slot m (m.mapMessage id g) := by
    rw [ChunksGrow, completedChunks, completedChunks, chunkWords_of_message hmsg hf,
      chunkWords_of_message hmsg' hf']
    exact hsub
  exact ⟨⟨⟨msg', f', hmsg', hf', hfc', hmc'⟩,
    fun c hc => (h.truthful c hc).mono fun _ hd => hchunks hd, h.before_le⟩, hchunks⟩

lemma Reporting.mapFrontend (h : Reporting slot total before m) (id : ℕ)
    {g : FrontendBitmap → FrontendBitmap} (htotal : ∀ f, (g f).totalChunks = f.totalChunks)
    (hgrow : ∀ f, bits f.chunkBitmap ⊆ bits (g f).chunkBitmap) :
    Reporting slot total before (m.mapFrontend id g) ∧ ChunksGrow slot m (m.mapFrontend id g) :=
  h.mapMessage id (fun _ => rfl) fun _ f hf => ⟨g f, by simp [hf], htotal f, hgrow f⟩

/-- Sending a truthful message. -/
lemma Reporting.sendMessage (h : Reporting slot total before m) {msg : ControlMessage}
    (hmsg : Truthful (· ∈ completedChunks slot m) msg) (answer : ℤ) :
    Reporting slot total before (m.sendMessage msg answer) ∧
      ChunksGrow slot m (m.sendMessage msg answer) := by
  have hslot := m.sendMessage_message msg answer slot
  have hsent := m.sendMessage_sent msg answer
  have hchunks : completedChunks slot (m.sendMessage msg answer) = completedChunks slot m := by
    simp only [completedChunks, ReceiverMemory.chunkWords, ReceiverMemory.frontendBitmap, hslot]
  refine ⟨⟨by rw [hslot]; exact h.message, ?_, ?_⟩, fun c hc => by rwa [hchunks]⟩
  · rw [hchunks]
    rcases hsent with hsent | hsent
    · rw [hsent]; exact h.truthful
    · rw [hsent, List.drop_append_of_le_length h.before_le]
      intro msg' hmem
      rcases List.mem_append.mp hmem with hold | hnew
      · exact h.truthful msg' hold
      · rw [List.mem_singleton.mp hnew]; exact hmsg
  · rcases hsent with hsent | hsent <;> rw [hsent]
    · exact h.before_le
    · rw [List.length_append]
      exact h.before_le.trans (Nat.le_add_right _ _)

/-- The final verdict acknowledges no single chunk. -/
lemma truthful_completionMessage (Done : ℕ → Prop) (connectionId : U32) (isComplete : Bool) :
    Truthful Done (completionMessage connectionId isComplete) where
  cumulative c := by
    rintro ⟨htype, -⟩
    cases isComplete <;> simp [completionMessage] at htype
  bitmap c := by
    rintro ⟨hwords, -⟩
    exact absurd hwords (Nat.not_lt_zero _)

lemma ReceiverAction.keeps {act : ReceiverMemory → ReceiverMemory} (hact : ReceiverAction act)
    (m : ReceiverMemory) (h : Reporting slot total before m) :
    Reporting slot total before (act m) ∧ ChunksGrow slot m (act m) := by
  cases hact with
  | skip => exact ⟨h, Std.Refl.refl _⟩
  | write ptr offset data =>
    cases ptr with
    | user b => exact ⟨⟨h.message, h.truthful, h.before_le⟩, fun _ hc => hc⟩
    | nullSink => exact ⟨⟨h.message, h.truthful, h.before_le⟩, fun _ hc => hc⟩
  | setReceived id offset =>
    exact h.mapMessage id (fun _ => rfl) fun _ f hf => ⟨f, hf, rfl, fun _ hc => hc⟩
  | setChunk id c =>
    refine h.mapFrontend id (fun _ => rfl) fun f => ?_
    have := f.completed_setChunk c
    simp only [FrontendBitmap.completed] at this
    rw [this]
    exact Set.subset_insert _ _
  | stop id => exact h.mapFrontend id (fun _ => rfl) fun _ _ hc => hc
  | leave id => exact h.mapFrontend id (fun _ => rfl) fun _ _ hc => hc
  | retire id =>
    rcases Nat.lt_or_ge id ConnectionContext.maxMessages with hid | hid
    · rw [ReceiverMemory.completeMessage_of_lt hid]
      exact h.mapMessage id (fun _ => rfl) fun _ f hf => ⟨f, hf, rfl, fun _ hc => hc⟩
    · rw [ReceiverMemory.completeMessage_of_ge hid]
      exact ⟨h, Std.Refl.refl _⟩
  | verdict isComplete answer => exact h.sendMessage (truthful_completionMessage _ _ _) answer

lemma pumpable_reporting (answer : ℤ) : Pumpable slot total answer (Reporting slot total before)
    (ChunksGrow slot) (ChunksGrow slot) where
  message _ h := h.message
  rely _ _ h := h
  guarantee _ _ h := h
  clock _ _ h := ⟨⟨h.message, h.truthful, h.before_le⟩, fun _ hc => hc⟩
  send _ _ h hreport := h.sendMessage hreport.truthful answer

/-! ### Both sides -/

/-- Receiver, sender and the control messages the sender has taken so far; what the receiver sent
after those is in flight. -/
structure SrSystem where
  receiver : ReceiverMemory
  poll : SRPoll
  consumed : ℕ

namespace SrSystem

def setReceiver (m : ReceiverMemory) (s : SrSystem) : SrSystem := { s with receiver := m }

/-- The sender receives the next control message. -/
def deliver (now : Clock) (s : SrSystem) : SrSystem :=
  match s.receiver.sent[s.consumed]? with
  | none     => s
  | some msg => { s with
      poll := s.poll.step now (.message true msg)
      consumed := s.consumed + 1 }

/-- The sender's receive call times out, or finds the connection closed. -/
def event (now : Clock) (e : ChannelEvent) (s : SrSystem) : SrSystem :=
  { s with poll := s.poll.step now e }

/-- The application calls `poll` again. -/
def call (s : SrSystem) : SrSystem := { s with poll := s.poll.call }

end SrSystem

/-- The threads of a transfer. -/
inductive SrThread where
  | sender
  | receiver (th : Thread)
  deriving DecidableEq

/-- A receiver's thread within the system. -/
def receiverSide {α : Type} (p : Prog ReceiverMemory α) : Prog SrSystem α :=
  p.within SrSystem.receiver SrSystem.setReceiver

/-- What the threads may run: a worker may take any packet the sender has handed to the network, as
often as it likes. -/
inductive SrProgram (handle : SDRRecvHandle) : SrThread → Prog SrSystem PUnit → Prop
  | deliver (now : Clock) : SrProgram handle .sender (Prog.modify (SrSystem.deliver now))
  | timeout (now : Clock) : SrProgram handle .sender (Prog.modify (SrSystem.event now .timeout))
  | disconnect (now : Clock) :
    SrProgram handle .sender (Prog.modify (SrSystem.event now .disconnected))
  | call : SrProgram handle .sender (Prog.modify SrSystem.call)
  | worker (i : ℕ) (p : SDRPacket) : SrProgram handle (.receiver (.worker i)) (do
      Prog.waitUntil fun s => decide (p ∈ s.poll.sender.sent)
      receiverSide (receiveDatagram p.datagram))
  | poll : SrProgram handle (.receiver .poller) (receiverSide (pollingRound handle.msgId))
  | pump (i : ℕ) (cfg : SRConfig) (now : ℕ) (answer : ℤ) :
      SrProgram handle (.receiver (.app i)) (receiverSide do
        let _ ← pump cfg handle now answer
        pure ⟨⟩)
  | complete (i : ℕ) (answer : ℤ) :
      SrProgram handle (.receiver (.app i)) (receiverSide (sdrRecvComplete handle answer))

/-- What is acknowledged is complete: at the sender and in every message in flight. -/
structure AcksTruthful (slot total before : ℕ) (s : SrSystem) : Prop where
  receiver : Reporting slot total before s.receiver
  consumed : before ≤ s.consumed
  chunkAcked : ∀ c, s.poll.sender.chunkAcked c = true → c ∈ completedChunks slot s.receiver
  ackBase : ∀ c < s.poll.sender.ackBase, c ∈ completedChunks slot s.receiver

/-- A step of the whole system only sets chunk bits. -/
def SystemGrows (slot : ℕ) (s s' : SrSystem) : Prop := ChunksGrow slot s.receiver s'.receiver

instance (slot : ℕ) : Std.Refl (SystemGrows slot) := ⟨fun _ _ h => h⟩

instance (slot : ℕ) : IsTrans SrSystem (SystemGrows slot) := ⟨fun _ _ _ h h' _ hc => h' (h hc)⟩

lemma AcksTruthful.setReceiver {s : SrSystem} (h : AcksTruthful slot total before s)
    {m' : ReceiverMemory} (hm : Reporting slot total before m')
    (hgrow : ChunksGrow slot s.receiver m') :
    AcksTruthful slot total before (s.setReceiver m') ∧ SystemGrows slot s (s.setReceiver m') :=
  ⟨⟨hm, h.consumed, fun c hc => hgrow (h.chunkAcked c hc), fun c hc => hgrow (h.ackBase c hc)⟩,
    hgrow⟩

/-- The sender learns from a message only what the message says. -/
lemma AcksTruthful.step {s : SrSystem} (h : AcksTruthful slot total before s) (now : Clock)
    (e : ChannelEvent) (he : ∀ own msg, e = .message own msg →
      Truthful (· ∈ completedChunks slot s.receiver) msg) {consumed : ℕ}
    (hconsumed : s.consumed ≤ consumed) :
    AcksTruthful slot total before { s with poll := s.poll.step now e, consumed := consumed } ∧
      SystemGrows slot s { s with poll := s.poll.step now e, consumed := consumed } := by
  refine ⟨⟨h.receiver, h.consumed.trans hconsumed, fun c hc => ?_, fun c hc => ?_⟩, fun _ hc => hc⟩
  · rcases s.poll.step_acks now e with hsame | ⟨own, msg, hmsg, hacks⟩
    · exact h.chunkAcked c (by rwa [hsame.chunkAcked] at hc)
    · exact (hacks.chunkAcked c hc).elim (h.chunkAcked c) (he own msg hmsg).done
  · rcases s.poll.step_acks now e with hsame | ⟨own, msg, hmsg, hacks⟩
    · exact h.ackBase c (by rwa [hsame.ackBase] at hc)
    · exact (hacks.ackBase c hc).elim (h.ackBase c) (he own msg hmsg).done

lemma AcksTruthful.deliver {s : SrSystem} (h : AcksTruthful slot total before s) (now : Clock) :
    AcksTruthful slot total before (s.deliver now) ∧ SystemGrows slot s (s.deliver now) := by
  unfold SrSystem.deliver
  split
  · exact ⟨h, Std.Refl.refl _⟩
  · rename_i msg hmsg
    refine h.step now _ (fun own msg' heq => ?_) (Nat.le_succ _)
    obtain ⟨-, rfl⟩ := ChannelEvent.message.inj heq
    refine h.receiver.truthful _ (List.mem_of_getElem? (i := s.consumed - before) ?_)
    rw [List.getElem?_drop, Nat.add_sub_cancel' h.consumed, hmsg]

/-- Every program keeps the acknowledgements truthful. -/
lemma srProgram_meets (htotal : total < 2 ^ 32) {handle : SDRRecvHandle}
    (hid : handle.msgId = slot) {th : SrThread} {p : Prog SrSystem PUnit}
    (hp : SrProgram handle th p) {s : SrSystem} (hI : AcksTruthful slot total before s) :
    Prog.Meets (AcksTruthful slot total before) (SystemGrows slot) (SystemGrows slot)
      (fun _ _ => True) p s := by
  have hside : ∀ {q : Prog ReceiverMemory PUnit} {s : SrSystem},
      Prog.Meets (Reporting slot total before) (ChunksGrow slot) (ChunksGrow slot)
        (fun _ _ => True) q s.receiver →
      Prog.Meets (AcksTruthful slot total before) (SystemGrows slot) (SystemGrows slot)
        (fun _ _ => True) (receiverSide q) s :=
    fun hq => Prog.Meets.within (J := AcksTruthful slot total before) (fun _ _ => rfl)
      (fun _ h => h.receiver) (fun _ _ h => h) (fun _ _ h hm hgrow => h.setReceiver hm hgrow) hq
  have huses : ∀ {q : Prog ReceiverMemory PUnit}, Prog.Uses ReceiverAction q → ∀ s : SrSystem,
      Prog.Meets (AcksTruthful slot total before) (SystemGrows slot) (SystemGrows slot)
        (fun _ _ => True) (receiverSide q) s :=
    fun hq s => hside (hq.meets (fun _ hact m => hact.keeps m) s.receiver)
  have hevent : ∀ (now : Clock) (e : ChannelEvent), (∀ own msg, e ≠ .message own msg) →
      Prog.Meets (AcksTruthful slot total before) (SystemGrows slot) (SystemGrows slot)
        (fun _ _ => True) (Prog.modify (SrSystem.event now e)) s := by
    intro now e he
    refine Prog.Meets.modify fun s' _ hI' => ?_
    obtain ⟨h, hgrow⟩ := hI'.step now e (fun own msg heq => absurd heq (he own msg)) le_rfl
    exact ⟨h, hgrow, fun _ _ _ => trivial⟩
  cases hp with
  | deliver now =>
    refine Prog.Meets.modify fun s' _ hI' => ?_
    exact ⟨(hI'.deliver now).1, (hI'.deliver now).2, fun _ _ _ => trivial⟩
  | timeout now => exact hevent now _ (by simp)
  | disconnect now => exact hevent now _ (by simp)
  | call =>
    refine Prog.Meets.modify fun s' _ hI' => ?_
    exact ⟨⟨hI'.receiver, hI'.consumed, hI'.chunkAcked, hI'.ackBase⟩, fun _ hc => hc,
      fun _ _ _ => trivial⟩
  | worker i p =>
    exact Prog.Meets.waitUntil_bind fun s' _ _ _ => huses (receiveDatagram_uses _) s'
  | poll => exact huses (pollingRound_uses _) s
  | pump i cfg now answer =>
    exact hside (Prog.Meets.bind hI.receiver
      ((pumpable_reporting answer).pump_meets htotal cfg handle hid now _)
      fun _ _ _ _ => Prog.Meets.pure fun _ _ _ => trivial)
  | complete i answer =>
    exact huses ((sdrRecvComplete_uses _ _).mono CompletionAction.receiverAction) s

/-- The memory right after the post has nothing to report. -/
lemma reporting_of_post {m m₀ : ReceiverMemory} {msgId buffer length : ℕ} {generation : U32}
    {offer : ConnectionParams} {handle : SDRRecvHandle}
    (hset : SlotSetUp m msgId generation buffer length offer handle m₀) :
    ∃ total < 2 ^ 32, Reporting msgId total m₀.sent.length m₀ := by
  obtain ⟨msg, htable, -, -⟩ := hset.table
  have hmsg : m₀.message msgId = some (initMessage msg buffer length
      ((negotiate m.conn.connectionCtx.params offer length).withTransferId generation)) := by
    rw [ReceiverMemory.message, htable, Function.update_self]
  refine ⟨(initMessage msg buffer length ((negotiate m.conn.connectionCtx.params offer
    length).withTransferId generation)).totalChunks % 2 ^ 32, Nat.mod_lt _ (by decide),
    ⟨_, _, hmsg, rfl, rfl, rfl⟩, by simp, le_rfl⟩

/-- In every run of a transfer between `SRSender` and `SRReceiver`, the sender has a chunk
acknowledged, or below its `ack_base_`, only when the chunk's frontend bit is set. -/
theorem srAcks_truthful {m m₀ : ReceiverMemory} {msgId buffer : ℕ} {generation : U32}
    {data : List U8} {offer : ConnectionParams} {opened : Bool} {answer : ℤ}
    {handle : SDRRecvHandle} {cts : ControlMessage}
    (hpost : recvPostOnOffer m msgId generation buffer data.length offer opened answer
      = (.ready handle (some cts), m₀)) (cfg : SRConfig) (senderId : ℕ)
    (now : Clock) :
    let sender := SRSender.start cfg ⟨senderId, cts.params.transferId, data⟩ cts.params now
    ∀ s, Pool.Reachable (SrProgram handle) ⟨m₀, ⟨sender, true, .main⟩, m₀.sent.length⟩ s →
      (∀ c, s.memory.poll.sender.chunkAcked c = true →
        c ∈ completedChunks handle.msgId s.memory.receiver) ∧
      (∀ c < s.memory.poll.sender.ackBase,
        c ∈ completedChunks handle.msgId s.memory.receiver) := by
  intro sender s hs
  have hspec := recvPostOnOffer_spec m msgId generation buffer data.length offer opened answer
  rw [hpost] at hspec
  have hset := hspec.setUp handle rfl
  have hid : handle.msgId = msgId := by rw [hset.handle]
  obtain ⟨total, htotal, hreport⟩ := reporting_of_post hset
  obtain ⟨hacked, hbase⟩ := SRSender.start_acks cfg ⟨senderId, cts.params.transferId, data⟩
    cts.params now
  have hstart : AcksTruthful msgId total m₀.sent.length
      ⟨m₀, ⟨sender, true, .main⟩, m₀.sent.length⟩ :=
    ⟨hreport, le_rfl, fun c hc => absurd hc (by simp [sender, hacked c]),
      fun c hc => absurd hc (by simp [sender, hbase])⟩
  have hI := (Pool.reachable_meets (I := AcksTruthful msgId total m₀.sent.length)
    (R := fun _ => SystemGrows msgId) (G := fun _ => SystemGrows msgId)
    (fun _ _ _ _ _ _ _ h => h) (fun _ _ _ hp hI => srProgram_meets htotal hid hp hI) hstart hs).1
  rw [hid]
  exact ⟨hI.chunkAcked, hI.ackBase⟩

/-- The sample post, with a sender of the same message. -/
theorem srAcks_truthful_sample :
    let post := recvPostOnOffer samplePostMemory 0 1 0 sampleData.length (desiredParams .zero 5)
      true 288
    let params := (negotiate samplePostMemory.conn.connectionCtx.params (desiredParams .zero 5)
      sampleData.length).withTransferId 1
    let sender := SRSender.start .default ⟨0, 1, sampleData⟩ params (.still 0)
    ∀ s, Pool.Reachable (SrProgram ⟨0, 1, 0, 5⟩)
        ⟨post.2, ⟨sender, true, .main⟩, post.2.sent.length⟩ s →
      (∀ c, s.memory.poll.sender.chunkAcked c = true →
        c ∈ completedChunks 0 s.memory.receiver) ∧
      (∀ c < s.memory.poll.sender.ackBase, c ∈ completedChunks 0 s.memory.receiver) := by
  have hready := samplePost_ready
  generalize hpost : recvPostOnOffer samplePostMemory 0 1 0 sampleData.length
    (desiredParams .zero 5) true 288 = post at hready
  exact srAcks_truthful (hpost.trans (Prod.ext hready rfl)) .default 0 (.still 0)

end SdrUdp
