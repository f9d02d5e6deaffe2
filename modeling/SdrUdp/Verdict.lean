import SdrUdp.LengthMismatch
import SdrUdp.ReceiverActions

/-!
# The verdict of `sdr_recv_complete`

`sdr_recv_complete` counts the chunk bits after the poller has left. The poller leaves when it sees
the stop flag, without a last pass, so the verdict is about the packets that its last pass has seen.
-/

namespace SdrUdp

open SdrUdp.Core

/-- What the threads may run during a receive: workers take any datagram, the poller polls, and the
application calls `pump` and `sdr_recv_complete`. -/
inductive ReceiveProgram (handle : SDRRecvHandle) : Thread → Prog ReceiverMemory PUnit → Prop
  | worker (i : ℕ) (bytes : List U8) : ReceiveProgram handle (.worker i) (receiveDatagram bytes)
  | poll : ReceiveProgram handle .poller (pollingRound handle.msgId)
  | pump (cfg : SRConfig) (now : ℕ) (answer : ℤ) :
      ReceiveProgram handle (.app 0) (do let _ ← pump cfg handle now answer; pure ⟨⟩)
  | complete (answer : ℤ) : ReceiveProgram handle (.app 0) (sdrRecvComplete handle answer)

/-- What the others may run while the application is inside a call. -/
def OthersProgram (handle : SDRRecvHandle) (th : Thread) (p : Prog ReceiverMemory PUnit) : Prop :=
  th ≠ .app 0 ∧ ReceiveProgram handle th p

/-- The poller is running. -/
def ReceiverMemory.polling (id : ℕ) (m : ReceiverMemory) : Bool :=
  (m.frontendBitmap id).any FrontendBitmap.polling

/-- Polling is stopped: the poller has left, and `sdr_recv_complete` is about to return from the
join or has returned from it. -/
structure Stopped (handle : SDRRecvHandle) (answer : ℤ) (s : Pool Thread ReceiverMemory) :
    Prop where
  polling : s.memory.polling handle.msgId = false
  app : s.threads (.app 0) = recvCompleteJoined handle answer ∨
    s.threads (.app 0) = .await (fun m => !(m.frontendBitmap handle.msgId).any
      FrontendBitmap.polling) (recvCompleteJoined handle answer)

/-- Every packet of a message of `packets` packets has its bit set. -/
def AllReceived (id packets : ℕ) (m : ReceiverMemory) : Prop :=
  ∀ o < packets, o ∈ bits (m.packetWords id)

/-- Every chunk has its bit set, and there is one. -/
def AllMarked (id : ℕ) (m : ReceiverMemory) : Prop :=
  ∃ f, m.frontendBitmap id = some f ∧ 0 < f.totalChunks ∧
    ∀ c < f.totalChunks, c ∈ bits f.chunkBitmap

/-- The control connection is there and `send` takes a whole message. -/
def SendGoesThrough (answer : ℤ) (m : ReceiverMemory) : Prop :=
  ∃ server, m.conn.tcpServer = some server ∧ 0 ≤ server.clientFd ∧ answer = sizeofControlMessage

/-- What `sdr_recv_complete` sends after polling has stopped in `s`, whatever the other threads do
from there: one verdict, a COMPLETE_ACK when all packets were received in `s` and an INCOMPLETE_NACK
when not. The call can always be finished. -/
def VerdictExact (handle : SDRRecvHandle) (packets : ℕ) (s : Pool Thread ReceiverMemory) : Prop :=
  (∃ s', Relation.ReflTransGen (Pool.Step (OthersProgram handle)) s s' ∧
    s'.threads (.app 0) = .done ⟨⟩) ∧
  ∀ s', Relation.ReflTransGen (Pool.Step (OthersProgram handle)) s s' →
    s'.threads (.app 0) = .done ⟨⟩ → ∃ verdict, s'.memory.sent = s.memory.sent ++ [verdict] ∧
      (verdict.msgType = .completeAck ↔ AllReceived handle.msgId packets s.memory) ∧
      (verdict.msgType = .incompleteNack ↔ ¬ AllReceived handle.msgId packets s.memory)

/-! ### What the threads leave alone -/

/-- The message of a receive that nobody declares complete, with a bit for each of its chunks. -/
def Plain (id : ℕ) (m : ReceiverMemory) : Prop :=
  ∃ msg f, m.message id = some msg ∧ msg.frontendBitmap = some f ∧
    f.totalChunks = msg.totalChunks % 2 ^ 32 ∧ msg.state ≠ .completed

/-- The poller stays, or stays away. -/
def SamePolling (id : ℕ) (m m' : ReceiverMemory) : Prop := m'.polling id = m.polling id

/-- Nothing is sent, and without the poller the chunk bitmap stays as it is. -/
structure Silent (id : ℕ) (m m' : ReceiverMemory) : Prop where
  frontend : m.polling id = false → m'.frontendBitmap id = m.frontendBitmap id
  sent : m'.sent = m.sent
  tcpServer : m'.conn.tcpServer = m.conn.tcpServer

section Actions

variable {id : ℕ} {m m' m'' : ReceiverMemory}

lemma polling_congr (h : m'.frontendBitmap id = m.frontendBitmap id) : SamePolling id m m' := by
  rw [SamePolling, ReceiverMemory.polling, ReceiverMemory.polling, h]

instance : Std.Refl (SamePolling id) := ⟨fun _ => rfl⟩

instance : IsTrans ReceiverMemory (SamePolling id) := ⟨fun _ _ _ h h' => h'.trans h⟩

instance : Std.Refl (Silent id) := ⟨fun _ => ⟨fun _ => rfl, rfl, rfl⟩⟩

instance : IsTrans ReceiverMemory (Silent id) where
  trans _ _ _ h h' :=
    ⟨fun hm => (h'.frontend ((polling_congr (h.frontend hm)).trans hm)).trans (h.frontend hm),
      h'.sent.trans h.sent, h'.tcpServer.trans h.tcpServer⟩

/-- While the poller is there, only sending is not quiet. -/
lemma Silent.of_polling (hm : m.polling id = true) (hsent : m'.sent = m.sent)
    (hserver : m'.conn.tcpServer = m.conn.tcpServer) : Silent id m m' :=
  ⟨fun h => absurd (hm.symm.trans h) (by decide), hsent, hserver⟩

lemma Plain.congr (h : Plain id m) (hmsg : m'.message id = m.message id) : Plain id m' := by
  rw [Plain, hmsg]
  exact h

/-- Changing a message in place; the state, the chunk count and the frontend bitmap decide. -/
lemma Plain.mapMessage (h : Plain id m) {id' : ℕ} {g : MessageContext → MessageContext}
    (hg : ∀ msg f, msg.frontendBitmap = some f → msg.state ≠ .completed →
      (g msg).totalChunks = msg.totalChunks ∧ (g msg).state ≠ .completed ∧
      ∃ f', (g msg).frontendBitmap = some f' ∧ f'.totalChunks = f.totalChunks) :
    Plain id (m.mapMessage id' g) := by
  by_cases hid : id' = id
  · subst hid
    obtain ⟨msg, f, hmsg, hf, htotal, hstate⟩ := h
    obtain ⟨hchunks, hstate', f', hf', htotal'⟩ := hg msg f hf hstate
    exact ⟨g msg, f', by simp [hmsg], hf', by rw [htotal', htotal, hchunks], hstate'⟩
  · exact h.congr (ReceiverMemory.message_mapMessage_of_ne (Ne.symm hid) g m)

lemma Plain.mapFrontend (h : Plain id m) {id' : ℕ} {g : FrontendBitmap → FrontendBitmap}
    (hg : ∀ f, (g f).totalChunks = f.totalChunks) : Plain id (m.mapFrontend id' g) := by
  refine h.mapMessage fun msg f hf hstate => ⟨rfl, hstate, g f, ?_, hg f⟩
  dsimp only
  rw [hf, Option.map_some]

/-- Changing the bits or the stop flag of a frontend bitmap is nothing to the poller. -/
lemma polling_mapFrontend {g : FrontendBitmap → FrontendBitmap}
    (hg : ∀ f, (g f).polling = f.polling) : SamePolling id m (m.mapFrontend id g) := by
  rw [SamePolling, ReceiverMemory.polling, ReceiverMemory.polling, ReceiverMemory.mapFrontend,
    ReceiverMemory.frontendBitmap, ReceiverMemory.message_mapMessage]
  cases hmsg : m.message id with
  | none => simp [ReceiverMemory.frontendBitmap, hmsg]
  | some msg => cases hf : msg.frontendBitmap <;> simp [ReceiverMemory.frontendBitmap, hmsg, hf, hg]

lemma WorkerAction.keeps {slot o : ℕ} {act : ReceiverMemory → ReceiverMemory}
    (h : WorkerAction slot o act) (hm : Plain id m) :
    Plain id (act m) ∧ Silent id m (act m) ∧ SamePolling id m (act m) := by
  cases h with
  | skip => exact ⟨hm, Std.Refl.refl m, rfl⟩
  | write ptr offset data =>
    cases ptr with
    | user b => exact ⟨hm.congr rfl, ⟨fun _ => rfl, rfl, rfl⟩, rfl⟩
    | nullSink => exact ⟨hm.congr rfl, ⟨fun _ => rfl, rfl, rfl⟩, rfl⟩
  | setReceived =>
    have hsame := m.frontendBitmap_setReceived id slot o
    exact ⟨hm.mapMessage fun _ f hf hstate => ⟨rfl, hstate, f, hf, rfl⟩,
      ⟨fun _ => hsame, rfl, rfl⟩, polling_congr hsame⟩

lemma CompletionAction.keeps {act : ReceiverMemory → ReceiverMemory} (h : CompletionAction id act)
    (hm : Plain id m) : Plain id (act m) ∧ SamePolling id m (act m) := by
  cases h with
  | skip => exact ⟨hm, rfl⟩
  | stop => exact ⟨hm.mapFrontend fun _ => rfl, polling_mapFrontend fun _ => rfl⟩
  | retire =>
    rcases lt_or_ge id ConnectionContext.maxMessages with hid | hid
    · rw [ReceiverMemory.completeMessage_of_lt hid]
      exact ⟨hm.mapMessage fun _ f hf _ => ⟨rfl, by simp [ConnectionContext.retire], f, hf, rfl⟩,
        polling_congr (ReceiverMemory.frontendBitmap_mapMessage (g := ConnectionContext.retire)
          (fun _ => rfl) id id m)⟩
    · rw [ReceiverMemory.completeMessage_of_ge hid]
      exact ⟨hm, rfl⟩
  | verdict isComplete answer =>
    have hsame := m.sendMessage_message
      (completionMessage m.conn.connectionCtx.connectionId isComplete) answer id
    exact ⟨hm.congr hsame, polling_congr (by simp only [ReceiverMemory.frontendBitmap, hsame])⟩

end Actions

/-! ### The threads -/

section Threads

variable {slot : ℕ}

/-- What a thread relies on: the poller on being the only one that ends the polling, the
application on a chunk bitmap that nobody changes once the poller has left. -/
def verdictRely (slot : ℕ) : Thread → ReceiverMemory → ReceiverMemory → Prop
  | .poller => SamePolling slot
  | .app 0  => Silent slot
  | _       => fun _ _ => True

/-- What a thread guarantees. -/
def verdictGuarantee (slot : ℕ) : Thread → ReceiverMemory → ReceiverMemory → Prop
  | .poller => Silent slot
  | .app 0  => SamePolling slot
  | _       => fun m m' => Silent slot m m' ∧ SamePolling slot m m'

instance (th : Thread) : Std.Refl (verdictRely slot th) := by
  match th with
  | .poller => exact inferInstanceAs (Std.Refl (SamePolling slot))
  | .app 0 => exact inferInstanceAs (Std.Refl (Silent slot))
  | .app (_ + 1) => exact ⟨fun _ => trivial⟩
  | .worker _ => exact ⟨fun _ => trivial⟩

instance (th : Thread) : IsTrans ReceiverMemory (verdictRely slot th) := by
  match th with
  | .poller => exact inferInstanceAs (IsTrans ReceiverMemory (SamePolling slot))
  | .app 0 => exact inferInstanceAs (IsTrans ReceiverMemory (Silent slot))
  | .app (_ + 1) => exact ⟨fun _ _ _ _ _ => trivial⟩
  | .worker _ => exact ⟨fun _ _ _ _ _ => trivial⟩

lemma rely_of_guarantee (th th' : Thread) (m m' : ReceiverMemory) (hne : th ≠ th')
    (_ : Plain slot m) (_ : Plain slot m') (h : verdictGuarantee slot th m m') :
    verdictRely slot th' m m' := by
  match th', th with
  | .worker _, _ => trivial
  | .app (_ + 1), _ => trivial
  | .poller, .poller => exact absurd rfl hne
  | .poller, .app 0 => exact h
  | .poller, .app (_ + 1) => exact h.2
  | .poller, .worker _ => exact h.2
  | .app 0, .poller => exact h
  | .app 0, .app 0 => exact absurd rfl hne
  | .app 0, .app (_ + 1) => exact h.1
  | .app 0, .worker _ => exact h.1

/-- A round of the poller: its pass and its leave find the poller at work. -/
lemma pollingRound_silent (m : ReceiverMemory) :
    Prog.Meets (Plain slot) (SamePolling slot) (Silent slot)
      (fun _ _ => True) (pollingRound slot) m := by
  refine Prog.Meets.load_bind fun m₁ _ _ => ?_
  split
  · exact Prog.Meets.pure fun _ _ _ => trivial
  · rename_i msg hmsg
    split
    · rename_i front back hfront hback
      have hpolling : m₁.polling slot = front.polling := by
        simp [ReceiverMemory.polling, ReceiverMemory.frontendBitmap, hmsg, hfront]
      split_ifs with hleft hstop
      · exact Prog.Meets.pure fun _ _ _ => trivial
      · refine Prog.Meets.modify fun m₂ h₂ hI₂ =>
          ⟨hI₂.mapFrontend fun _ => rfl, ?_, fun _ _ _ => trivial⟩
        exact .of_polling (h₂.trans (hpolling.trans (Bool.eq_true_of_not_eq_false hleft))) rfl rfl
      · have hstraight := updateChunkBitmap_straight
          (A := fun act => act = id ∨ ∃ c, act = ReceiverMemory.mapFrontend slot fun f =>
            f.setChunk c)
          (Or.inl rfl) (fun c => Or.inr ⟨c, rfl⟩) back.totalPackets back.packetsPerChunk
          front.totalChunks front.totalChunks 0
        refine (hstraight.uses.meets_while (P := fun m => m.polling slot = true)
          (fun m m' h hP => Eq.trans h hP) ?_
          (hpolling.trans (Bool.eq_true_of_not_eq_false hleft))).mono fun _ _ _ _ => trivial
        rintro act (rfl | ⟨c, rfl⟩) m hI hP
        · exact ⟨hI, Std.Refl.refl m, hP⟩
        · exact ⟨hI.mapFrontend fun _ => rfl, .of_polling hP rfl rfl,
            (polling_mapFrontend (g := fun f => f.setChunk c) fun _ => rfl).trans hP⟩
    · exact Prog.Meets.pure fun _ _ _ => trivial

/-- Every program keeps the message and its guarantee. -/
lemma receiveProgram_meets {handle : SDRRecvHandle} (th : Thread) (p : Prog ReceiverMemory PUnit)
    (m : ReceiverMemory) (hp : ReceiveProgram handle th p) (_ : Plain handle.msgId m) :
    Prog.Meets (Plain handle.msgId) (verdictRely handle.msgId th) (verdictGuarantee handle.msgId th)
      (fun _ _ => True) p m := by
  cases hp with
  | worker i bytes =>
    unfold receiveDatagram
    split
    · exact Prog.Meets.pure fun _ _ _ => trivial
    · exact (processPacket_straight _ _).uses.meets (fun act hact m hm => hact.keeps hm) m
  | poll => exact pollingRound_silent m
  | pump cfg now answer =>
    have huses : Prog.Uses (fun act => ∀ m : ReceiverMemory,
        (act m).message handle.msgId = m.message handle.msgId) _ :=
      Prog.Uses.bind (pump_straight (fun _ => rfl) (fun _ _ => rfl) (fun report m =>
        m.sendMessage_message report answer _) cfg handle now).uses fun _ =>
        Prog.Uses.pure PUnit.unit
    exact huses.meets (fun act hact m hm => ⟨hm.congr (hact m),
      polling_congr (by simp only [ReceiverMemory.frontendBitmap, hact m])⟩) m
  | complete answer =>
    exact (sdrRecvComplete_uses handle answer).meets (fun act hact m hm => hact.keeps hm) m

end Threads

/-! ### What is sent -/

section Sent

variable {slot : ℕ} {handle : SDRRecvHandle} {answer : ℤ} {m m' : ReceiverMemory}

lemma TCPControlServer.sendMessage_iff (server : TCPControlServer) (msg : ControlMessage) :
    (server.sendMessage msg answer).1 = true ↔
      0 ≤ server.clientFd ∧ answer = sizeofControlMessage := by
  have hlen := msg.length_wire
  rw [ControlMessage.wire] at hlen
  simp only [sendMessage, hlen]
  split_ifs with hfd hneg hpart
  · simp only [false_iff, not_and]
    omega
  · simp only [false_iff, not_and]
    omega
  · simp only [false_iff, not_and]
    omega
  · simp only [true_iff]
    omega

/-- A verdict is on the stream when the send goes through, and only then. -/
lemma sendMessage_sent_iff (msg verdict : ControlMessage) :
    (m.sendMessage msg answer).sent = m.sent ++ [verdict] ↔
      SendGoesThrough answer m ∧ verdict = msg := by
  have hfail : ¬ m.sent = m.sent ++ [verdict] := fun h =>
    absurd (congrArg List.length h) (by simp)
  cases hserver : m.conn.tcpServer with
  | none =>
    simp only [ReceiverMemory.sendMessage, hserver, hfail, SendGoesThrough, reduceCtorEq,
      false_and, exists_false]
  | some server =>
    have hthrough : SendGoesThrough answer m ↔ (server.sendMessage msg answer).1 = true := by
      rw [TCPControlServer.sendMessage_iff]
      constructor
      · rintro ⟨server', h, hgo⟩
        exact Option.some.inj (hserver.symm.trans h) ▸ hgo
      · intro h
        exact ⟨server, hserver, h⟩
    rw [hthrough]
    simp only [ReceiverMemory.sendMessage, hserver]
    split_ifs with hsent
    · simp only [List.append_cancel_left_eq, List.cons.injEq, and_true, true_and, eq_comm, hsent]
    · exact iff_of_false hfail fun h => hsent h.1

/-- What gets on the stream depends on the connection alone. -/
lemma sendMessage_sent_congr (hsent : m'.sent = m.sent)
    (hserver : m'.conn.tcpServer = m.conn.tcpServer) (msg : ControlMessage) :
    (m'.sendMessage msg answer).sent = (m.sendMessage msg answer).sent := by
  unfold ReceiverMemory.sendMessage
  rw [hserver]
  cases m.conn.tcpServer with
  | none => exact hsent
  | some server =>
    dsimp only
    rw [hsent]

/-- The count of chunk bits, with the poller gone. -/
lemma transferComplete_verdict (hI : Plain slot m) (hleft : m.polling slot = false) :
    Prog.Meets (Plain slot) (Silent slot) Eq (fun complete _ => complete = true ↔ AllMarked slot m)
      (transferComplete slot) m := by
  obtain ⟨msg, f, hmsg, hf, htotal, hstate⟩ := id hI
  have hfront : m.frontendBitmap slot = some f := by simp [ReceiverMemory.frontendBitmap, hmsg, hf]
  have hsame : ∀ m', Silent slot m m' → Plain slot m' → ∃ msg', m'.message slot = some msg' ∧
      msg'.frontendBitmap = some f ∧ msg'.totalChunks % 2 ^ 32 = f.totalChunks ∧
      msg'.state ≠ .completed := by
    rintro m' h ⟨msg', f', hmsg', hf', htotal', hstate'⟩
    have hfront' := h.frontend hleft
    rw [hfront, ReceiverMemory.frontendBitmap, hmsg', Option.bind_some, hf'] at hfront'
    obtain rfl := Option.some.inj hfront'
    exact ⟨msg', hmsg', hf', htotal'.symm, hstate'⟩
  refine Prog.Meets.load_bind fun m₁ h₁ hI₁ => ?_
  obtain ⟨msg₁, hmsg₁, hf₁, -, hstate₁⟩ := hsame m₁ h₁ hI₁
  simp only [hmsg₁, if_neg hstate₁, hf₁]
  have hwords : ∀ m', Silent slot m m' → m'.chunkWords slot = f.chunkBitmap := by
    intro m' h
    rw [ReceiverMemory.chunkWords, h.frontend hleft, hfront]
    rfl
  have hstay : ∀ m₁ m₂, Silent slot m₁ m₂ → Silent slot m m₁ → Silent slot m m₂ :=
    fun _ _ h h' => IsTrans.trans _ _ _ h' h
  have hkeep : ∀ m₁ m₂, m₁ = m₂ → Silent slot m m₁ → Silent slot m m₂ := fun _ _ h h' => h ▸ h'
  have hcount := FrontendBitmap.countCompleted_frozen (I := Plain slot) (G := Eq)
    (fun m => m.chunkWords slot) hstay hkeep hwords
    f.totalChunks f.totalChunks 0 hI₁ h₁
  refine Prog.Meets.bind hI₁ (Prog.Meets.frame hstay hkeep h₁ hcount) ?_
  rintro count m₂ _ ⟨hcount₂, h₂⟩
  refine Prog.Meets.load_bind fun m₃ h₃ hI₃ => Prog.Meets.pure fun m₄ _ _ => ?_
  obtain ⟨msg₃, hmsg₃, hf₃, htotal₃, -⟩ := hsame m₃ (IsTrans.trans _ _ _ h₂ h₃) hI₃
  simp only [hmsg₃, Option.elim_some, htotal₃, Bool.and_eq_true, decide_eq_true_eq, gt_iff_lt,
    ge_iff_le, FrontendBitmap.le_countCompleted_iff _ _ hcount₂.symm]
  constructor
  · intro h
    exact ⟨f, hfront, h⟩
  · rintro ⟨f', hf', h⟩
    exact Option.some.inj (hfront.symm.trans hf') ▸ h

/-- What is left of `sdr_recv_complete` when the poller has left sends the verdict on the chunk
bits. -/
lemma recvCompleteJoined_verdict (hI : Plain handle.msgId m)
    (hleft : m.polling handle.msgId = false) :
    Prog.Meets (Plain handle.msgId) (Silent handle.msgId) (SamePolling handle.msgId)
      (fun _ m' => ∃ isComplete connectionId, (isComplete = true ↔ AllMarked handle.msgId m) ∧
        m'.sent = (m.sendMessage (completionMessage connectionId isComplete) answer).sent)
      (recvCompleteJoined handle answer) m := by
  have hstay : ∀ m₁ m₂, Silent handle.msgId m₁ m₂ → Silent handle.msgId m m₁ →
      Silent handle.msgId m m₂ := fun _ _ h h' => IsTrans.trans _ _ _ h' h
  have hkeep : ∀ m₁ m₂, m₁ = m₂ → Silent handle.msgId m m₁ → Silent handle.msgId m m₂ :=
    fun _ _ h h' => h ▸ h'
  have hcount := Prog.Meets.frame hstay hkeep (Std.Refl.refl m) (transferComplete_verdict hI hleft)
  have hread : ∀ m₁ m₂, m₁ = m₂ → SamePolling handle.msgId m₁ m₂ := fun m₁ m₂ h => h ▸ rfl
  refine Prog.Meets.bind hI (hcount.weaken hread) ?_
  rintro isComplete m₁ hI₁ ⟨hcomplete, h₁⟩
  refine Prog.Meets.modify_bind fun m₂ h₂ hI₂ => ?_
  have hretire := CompletionAction.retire.keeps hI₂
  refine ⟨hretire.1, hretire.2, Prog.Meets.modify fun m₃ h₃ hI₃ => ?_⟩
  have hverdict := (CompletionAction.verdict isComplete answer).keeps hI₃
  refine ⟨hverdict.1, hverdict.2, fun m₄ h₄ _ => ⟨isComplete, _, hcomplete, h₄.sent.trans
    (sendMessage_sent_congr ?_ ?_ _)⟩⟩
  · exact h₃.sent.trans (h₂.sent.trans h₁.sent)
  · exact h₃.tcpServer.trans (h₂.tcpServer.trans h₁.tcpServer)

end Sent

/-! ### From the stop to the verdict -/

section Stop

variable {handle : SDRRecvHandle} {answer : ℤ} {s s' : Pool Thread ReceiverMemory}

/-- The call can be finished by itself. -/
lemma Stopped.exists_finished (h : Stopped handle answer s) :
    ∃ s', Relation.ReflTransGen (Pool.Step (OthersProgram handle)) s s' ∧
      s'.threads (.app 0) = .done ⟨⟩ := by
  have hstraight : Prog.Straight (CompletionAction handle.msgId)
    (recvCompleteJoined handle answer) :=
    (transferComplete_straight .skip _).bind fun _ =>
      (Prog.Straight.modify .retire).bind fun _ => Prog.Straight.modify (.verdict _ _)
  obtain ⟨_, m', hrun⟩ := hstraight.exists_run s.memory
  have hrest := Pool.steps_of_run (OthersProgram handle) hrun (.app 0) s.threads
  refine ⟨⟨m', Function.update s.threads (.app 0) (.done ⟨⟩)⟩, ?_, by simp⟩
  rcases h.app with happ | happ
  · rwa [← happ, Function.update_eq_self] at hrest
  · have hready : (!(s.memory.frontendBitmap handle.msgId).any FrontendBitmap.polling) = true := by
      rw [Bool.not_eq_true']
      exact h.polling
    exact .head (.wake (.app 0) _ _ happ hready) hrest

variable (hmeeting : s.Meeting (Plain handle.msgId) (verdictRely handle.msgId)
  (verdictGuarantee handle.msgId))
include hmeeting

/-- Whatever the others do, the verdict is on the chunk bits at the stop. -/
lemma Stopped.verdict (h : Stopped handle answer s)
    (hs : Relation.ReflTransGen (Pool.Step (OthersProgram handle)) s s')
    (hdone : s'.threads (.app 0) = .done ⟨⟩) :
    ∃ isComplete connectionId, (isComplete = true ↔ AllMarked handle.msgId s.memory) ∧
      s'.memory.sent = (s.memory.sendMessage (completionMessage connectionId isComplete)
        answer).sent := by
  have hrest : Prog.Meets _ _ _ _ (recvCompleteJoined handle answer) s.memory :=
    recvCompleteJoined_verdict hmeeting.1 h.polling
  refine Pool.Meeting.delivers (t := .app 0) (Q := fun m' => ∃ isComplete connectionId,
    (isComplete = true ↔ AllMarked handle.msgId s.memory) ∧ m'.sent
      = (s.memory.sendMessage (completionMessage connectionId isComplete) answer).sent)
    rely_of_guarantee (fun th p m hp => receiveProgram_meets th p m hp.2) (fun p hp => hp.1 rfl)
    hmeeting ?_ hs hdone
  rcases h.app with happ | happ
  · rw [happ]
    exact hrest
  · rw [happ]
    exact fun m' hm' _ _ => hrest.stable hm'

/-- The verdict is exact when it is sent and the chunk bits agree with the packet bits. -/
lemma Stopped.exact_iff (h : Stopped handle answer s) (packets : ℕ) :
    VerdictExact handle packets s ↔ SendGoesThrough answer s.memory ∧
      (AllReceived handle.msgId packets s.memory ↔ AllMarked handle.msgId s.memory) := by
  have htype : ∀ connectionId isComplete,
      ((completionMessage connectionId isComplete).msgType = .completeAck ↔ isComplete = true) ∧
      ((completionMessage connectionId isComplete).msgType = .incompleteNack ↔
        ¬ isComplete = true) := by
    intro connectionId isComplete
    cases isComplete <;> simp [completionMessage]
  constructor
  · rintro ⟨⟨s', hs', hdone⟩, hexact⟩
    obtain ⟨verdict, hsent, hack, -⟩ := hexact s' hs' hdone
    obtain ⟨isComplete, connectionId, hcomplete, hsent'⟩ := h.verdict hmeeting hs' hdone
    obtain ⟨hthrough, rfl⟩ := (sendMessage_sent_iff _ _).mp (hsent'.symm.trans hsent)
    rw [← hack, (htype _ _).1, hcomplete]
    exact ⟨hthrough, Iff.rfl⟩
  · rintro ⟨hthrough, hagree⟩
    refine ⟨h.exists_finished, fun s' hs' hdone => ?_⟩
    obtain ⟨isComplete, connectionId, hcomplete, hsent⟩ := h.verdict hmeeting hs' hdone
    refine ⟨completionMessage connectionId isComplete,
      hsent.trans ((sendMessage_sent_iff _ _).mpr ⟨hthrough, rfl⟩), ?_, ?_⟩
    · rw [(htype _ _).1, hcomplete, hagree]
    · rw [(htype _ _).2, hcomplete, hagree]

end Stop

/-! ### The receive of a post -/

section Post

variable {m m₀ : ReceiverMemory} {msgId buffer length : ℕ} {generation : U32}
  {offer : ConnectionParams} {handle : SDRRecvHandle}

lemma plain_of_post (hset : SlotSetUp m msgId generation buffer length offer handle m₀) :
    Plain handle.msgId m₀ := by
  obtain ⟨msg, htable, -, hactive⟩ := hset.table
  have hmsg : m₀.message handle.msgId = some (initMessage msg buffer length
      ((negotiate m.conn.connectionCtx.params offer length).withTransferId generation)) := by
    rw [ReceiverMemory.message, htable, hset.handle, Function.update_self]
  refine ⟨_, _, hmsg, rfl, rfl, ?_⟩
  simp [initMessage, hactive]

/-- The threads of a receive work on the bitmaps of its slot. -/
lemma receiveProgram_grows {t : BitmapPair} (hfits : t.Fits) (hslot : handle.msgId = t.slot)
    (th : Thread) (p : Prog ReceiverMemory PUnit) (m : ReceiverMemory)
    (hp : ReceiveProgram handle th p) (hI : t.Inv Set.univ m₀ m) :
    Prog.Meets (t.Inv Set.univ m₀) t.Grows t.Grows (fun _ _ => True) p m := by
  cases hp with
  | worker i bytes =>
    unfold receiveDatagram
    split
    · exact Prog.Meets.pure fun _ _ _ => trivial
    · exact BitmapPair.processPacket_meets _ _ (fun _ _ => Set.mem_univ _) m
  | poll => exact hslot ▸ BitmapPair.pollingRound_meets hfits m
  | pump cfg now answer =>
    exact BitmapPair.program_meets hfits _ _ m (.pump 0 cfg handle hslot now answer) hI
  | complete answer => exact BitmapPair.sdrRecvComplete_meets hfits hslot answer hI

/-- Chunk bits stand for packets, unless the counts leave 32 bits. -/
lemma allReceived_of_allMarked {t : BitmapPair} (hfits : t.Fits) (hbuilt : t.Built m₀)
    (hslot : handle.msgId = t.slot) {s : Pool Thread ReceiverMemory}
    (hs : Pool.Reachable (ReceiveProgram handle) m₀ s) (hmarked : AllMarked handle.msgId s.memory) :
    AllReceived handle.msgId t.totalPackets s.memory := by
  have hI : t.Inv Set.univ m₀ s.memory :=
    ((Pool.meeting_start (hbuilt.inv Set.univ)).steps (R := fun _ => t.Grows)
      (G := fun _ => t.Grows)
      BitmapPair.rely_grows (receiveProgram_grows hfits hslot) hs).1
  obtain ⟨f, hf, -, hall⟩ := hmarked
  obtain ⟨msg, b, f', hmsg, hshape⟩ := hI.shape
  rw [hslot, ReceiverMemory.frontendBitmap, hmsg, Option.bind_some, hshape.frontend] at hf
  obtain rfl := Option.some.inj hf
  rw [hslot]
  refine hI.received_of_completed hfits fun c hc => ?_
  rw [BitmapPair.completed, BitmapPair.chunkWords_eq hmsg hshape]
  exact hall c (hshape.chunks ▸ hc)

/-- The verdict of a receive is exact if and only if it can be sent and, when polling is
stopped, all chunk bits are set exactly when all packet bits are. As long as the counts stay within
32 bits, chunk bits stand for packets, and what is left is that the poller has seen the last
packets. -/
theorem verdictExact_iff {opened : Bool} {answer answer' : ℤ} {cts : Option ControlMessage}
    (hpost : recvPostOnOffer m msgId generation buffer length offer opened answer
      = (.ready handle cts, m₀)) {s : Pool Thread ReceiverMemory}
    (hs : Pool.Reachable (ReceiveProgram handle) m₀ s) (hstop : Stopped handle answer' s) :
    let params := negotiate m.conn.connectionCtx.params offer length
    let packets := (length + params.mtuBytes.toNat - 1) / params.mtuBytes.toNat
    let received := AllReceived handle.msgId packets s.memory
    let marked := AllMarked handle.msgId s.memory
    (VerdictExact handle packets s ↔ SendGoesThrough answer' s.memory ∧ (received ↔ marked)) ∧
      (packets + params.packetsPerChunk.toNat < 2 ^ 32 → marked → received) := by
  intro params packets received marked
  have hspec := recvPostOnOffer_spec m msgId generation buffer length offer opened answer
  rw [hpost] at hspec
  have hset := hspec.setUp handle rfl
  have hmeeting := (Pool.meeting_start (plain_of_post hset)).steps rely_of_guarantee
    receiveProgram_meets hs
  refine ⟨hstop.exact_iff hmeeting packets, fun hsize hmarked => ?_⟩
  rcases Nat.eq_zero_or_pos length with hzero | hpos
  · intro o ho
    have hmtu : 0 < params.mtuBytes.toNat :=
      (negotiate_mtuBytes m.conn.connectionCtx.params offer length).1
    have hnone : packets = 0 := Nat.div_eq_of_lt (by omega)
    omega
  · have hposted := posted_of_post hpos hset rfl [] hsize
    have hreceived := allReceived_of_allMarked hposted.fits hposted.built hposted.handle hs hmarked
    rw [hposted.totalPackets] at hreceived
    exact hreceived

end Post

/-- The first `k` packets arrive and polling is stopped before the poller has looked at them. -/
lemma Posted.exists_stopped {t : Transfer} {b : BitmapPair} {length : ℕ} {handle : SDRRecvHandle}
    {m₀ : ReceiverMemory} (h : Posted t b length handle m₀)
    (h₀ : Filling b t.buffer length t.mtuBytes m₀ 0 m₀) (hoffset : b.totalPackets ≤ 2 ^ 18)
    {k : ℕ} (hk : k ≤ b.totalPackets) (hle : k ≤ t.totalPackets) (answer : ℤ) :
    ∃ s, Pool.Reachable (ReceiveProgram handle) m₀ s ∧ Stopped handle answer s ∧
      b.received s.memory = {o | o < k} ∧ ¬ AllMarked handle.msgId s.memory ∧
      s.memory.conn.tcpServer = m₀.conn.tcpServer := by
  obtain ⟨m, hreach, hm, hfront⟩ := Transfer.steps_fill (t := t) 1 (ReceiveProgram handle)
    (fun _ p _ _ => .worker 0 p.datagram) h.mtu_pos h.mtu_le h.handle h.fits
    (fun o ho => (lt_ceil_iff h.mtu_pos o).mp (h.totalPackets ▸ ho)) hoffset h₀ k hk hle
  obtain ⟨m', hsteps, hjoined⟩ := hm.steps_joined (ReceiveProgram handle) h.handle
    (.complete answer) .poll
  refine ⟨_, hreach.trans hsteps, ⟨?_, Or.inr (by simp)⟩, ?_, ?_,
    hjoined.tcpServer.trans hm.tcpServer⟩
  · rw [ReceiverMemory.polling, h.handle]
    exact hjoined.polling
  · obtain ⟨msg, back, front, hmsg, hs, -, -, -, -, -, -, hbits⟩ := hm.message
    rw [BitmapPair.received, hjoined.packetWords, BitmapPair.packetWords_eq hmsg hs, hbits]
  · rintro ⟨f, hf, hpos, hall⟩
    have hnone : b.completed m' = ∅ := by
      rw [BitmapPair.completed, hjoined.chunkWords, ReceiverMemory.chunkWords, hfront]
      exact h.built.completed
    have hchunk : 0 ∈ b.completed m' := by
      rw [BitmapPair.completed, ReceiverMemory.chunkWords, ← h.handle, hf]
      exact hall 0 hpos
    exact absurd (hnone ▸ hchunk) (Set.notMem_empty 0)

/-- The sample post, stopped after `k` packets. -/
lemma sample_stopped {k : ℕ} (hk : k ≤ 3) :
    let post := recvPostOnOffer samplePostMemory 0 1 0 5 (desiredParams .zero 5) true
      sizeofControlMessage
    ∃ s, Pool.Reachable (ReceiveProgram ⟨0, 1, 0, 5⟩) post.2 s ∧
      Stopped ⟨0, 1, 0, 5⟩ sizeofControlMessage s ∧
      (∀ o, o ∈ bits (s.memory.packetWords 0) ↔ o < k) ∧ ¬ AllMarked 0 s.memory ∧
      SendGoesThrough sizeofControlMessage s.memory := by
  have hready := sample_ready
  generalize hpost : recvPostOnOffer samplePostMemory 0 1 0 5 (desiredParams .zero 5) true
    sizeofControlMessage = post at hready
  intro _
  have hspec := recvPostOnOffer_spec samplePostMemory 0 1 0 5 (desiredParams .zero 5) true
    sizeofControlMessage
  rw [hpost] at hspec
  have hset := hspec.setUp ⟨0, 1, 0, 5⟩ (by rw [hready]; rfl)
  have hposted := posted_of_post (by decide) hset rfl sampleData (by decide +kernel)
  obtain ⟨s, hs, hstop, hreceived, hmarked, hserver⟩ := hposted.exists_stopped
    (Transfer.filling_of_post hset rfl hposted.built) (by decide +kernel)
    (hk.trans (by decide +kernel)) (hk.trans (by decide +kernel)) sizeofControlMessage
  obtain ⟨server, hopen, hfd⟩ := recvPostOnOffer_server (hpost.trans (Prod.ext hready rfl))
  exact ⟨s, hs, hstop, fun o => Set.ext_iff.mp hreceived o, hmarked, server, hserver.trans hopen,
    hfd, rfl⟩

/-- Polling is stopped before anything has arrived. -/
theorem verdictExact_iff_sample :
    let post := recvPostOnOffer samplePostMemory 0 1 0 5 (desiredParams .zero 5) true
      sizeofControlMessage
    ∃ s, Pool.Reachable (ReceiveProgram ⟨0, 1, 0, 5⟩) post.2 s ∧
      Stopped ⟨0, 1, 0, 5⟩ sizeofControlMessage s ∧ VerdictExact ⟨0, 1, 0, 5⟩ 3 s := by
  have hstopped := sample_stopped (Nat.zero_le 3)
  have hready := sample_ready
  generalize hpost : recvPostOnOffer samplePostMemory 0 1 0 5 (desiredParams .zero 5) true
    sizeofControlMessage = post at hready hstopped
  obtain ⟨s, hs, hstop, hreceived, hmarked, hsend⟩ := hstopped
  have hnone : ¬ AllReceived 0 3 s.memory := fun h =>
    absurd ((hreceived 0).mp (h 0 (by decide))) (lt_irrefl 0)
  exact ⟨s, hs, hstop, (verdictExact_iff (hpost.trans (Prod.ext hready rfl)) hs hstop).1.mpr
    ⟨hsend, iff_of_false hnone hmarked⟩⟩

/-- All packets are there when polling is stopped, but the poller has not looked: the verdict is an
INCOMPLETE_NACK. -/
theorem not_verdictExact_late :
    let post := recvPostOnOffer samplePostMemory 0 1 0 5 (desiredParams .zero 5) true
      sizeofControlMessage
    ∃ s, Pool.Reachable (ReceiveProgram ⟨0, 1, 0, 5⟩) post.2 s ∧
      Stopped ⟨0, 1, 0, 5⟩ sizeofControlMessage s ∧ SendGoesThrough sizeofControlMessage s.memory ∧
      AllReceived 0 3 s.memory ∧ ¬ VerdictExact ⟨0, 1, 0, 5⟩ 3 s := by
  have hstopped := sample_stopped le_rfl
  have hready := sample_ready
  generalize hpost : recvPostOnOffer samplePostMemory 0 1 0 5 (desiredParams .zero 5) true
    sizeofControlMessage = post at hready hstopped
  obtain ⟨s, hs, hstop, hreceived, hmarked, hsend⟩ := hstopped
  have hall : AllReceived 0 3 s.memory := fun o ho => (hreceived o).mpr ho
  refine ⟨s, hs, hstop, hsend, hall, fun hexact => ?_⟩
  have hspec := recvPostOnOffer_spec samplePostMemory 0 1 0 5 (desiredParams .zero 5) true
    sizeofControlMessage
  rw [hpost] at hspec
  have hset := hspec.setUp ⟨0, 1, 0, 5⟩ (by rw [hready]; rfl)
  have hmeeting := (Pool.meeting_start (plain_of_post hset)).steps rely_of_guarantee
    receiveProgram_meets hs
  exact hmarked (((hstop.exact_iff hmeeting 3).mp hexact).2.mp hall)

end SdrUdp
