import SdrUdp.SlotHistory
import SdrUdp.SendPost

/-!
# Late packets

A packet carries the generation that the process drew for its message, and is taken for any message
whose slot has reached that number by its own count. Which messages of a run a late packet can touch
is read off the order of the posts.
-/

namespace SdrUdp

open SdrUdp.Core

/-! ### A worker on a late packet -/

/-- The user buffer `b` is as before and, while the message is `held` in slot `s`, so are its
bitmaps. -/
structure Spared (b s : ℕ) (held : Prop) (m m' : ReceiverMemory) : Prop where
  buffer : m'.buffers b = m.buffers b
  packets : held → m'.packetWords s = m.packetWords s
  chunks : held → m'.chunkWords s = m.chunkWords s

instance (b s : ℕ) (held : Prop) : Std.Refl (Spared b s held) :=
  ⟨fun _ => ⟨rfl, fun _ => rfl, fun _ => rfl⟩⟩

section Worker

variable {b s : ℕ} {held : Prop}

lemma Spared.writeBuffer {ptr : BufferPtr} (h : ptr ≠ .user b) (offset : ℕ) (data : List U8)
    (m : ReceiverMemory) : Spared b s held m (m.writeBuffer ptr offset data) := by
  cases ptr with
  | user b' =>
    refine ⟨Function.update_of_ne (fun hb => h (by rw [hb])) _ _, fun _ => rfl, fun _ => rfl⟩
  | nullSink => exact ⟨rfl, fun _ => rfl, fun _ => rfl⟩

lemma Spared.setReceived {id : ℕ} (h : id = s → ¬ held) (offset : ℕ) (m : ReceiverMemory) :
    Spared b s held m (m.setReceived id offset) := by
  have hmessage : held → (m.setReceived id offset).message s = m.message s := fun hheld =>
    ReceiverMemory.message_mapMessage_of_ne (fun he => h he.symm hheld) _ _
  refine ⟨rfl, fun hheld => ?_, fun hheld => ?_⟩
  · simp only [ReceiverMemory.packetWords, ReceiverMemory.backendBitmap, hmessage hheld]
  · simp only [ReceiverMemory.chunkWords, ReceiverMemory.frontendBitmap, hmessage hheld]

lemma writePacketToBuffer_spares {id : ℕ} {m : ReceiverMemory}
    (hbuf : ∀ msg, m.message id = some msg → msg.buffer ≠ some (.user b)) (offset : ℕ)
    (payload : List U8) :
    Prog.Meets (fun _ => True) SlotsEvolve (Spared b s held) (fun _ _ => True)
      (writePacketToBuffer id offset payload) m := by
  have hdone : ∀ m, Prog.Meets (fun _ => True) SlotsEvolve (Spared b s held) (fun _ _ => True)
      (pure ⟨⟩ : Prog ReceiverMemory PUnit) m :=
    fun m => Prog.Meets.pure fun _ _ _ => trivial
  refine Prog.Meets.load_bind fun m₁ h₁ _ => ?_
  split
  · exact hdone m₁
  · rename_i msg hmsg
    split
    · exact hdone m₁
    · rename_i ptr hptr
      dsimp only
      generalize offset * _ = bufferOffset
      split_ifs
      · exact hdone m₁
      · have hne : ptr ≠ .user b := by
          rintro rfl
          obtain ⟨msg₀, hmsg₀, -, hsame⟩ := h₁.slots id msg hmsg
          rcases hsame with hsame | hsame
          · exact hbuf msg₀ hmsg₀ (hsame.symm.trans hptr)
          · exact absurd (hsame.symm.trans hptr) (by simp)
        exact Prog.Meets.modify fun m₂ _ _ =>
          ⟨trivial, .writeBuffer hne _ _ m₂, fun _ _ _ => trivial⟩

/-- A packet spares a message unless its transfer id is the generation of a slot that holds this
message or points to its buffer. -/
lemma processPacket_spares {header : SDRPacketHeader} {m : ReceiverMemory}
    (hother : ∀ msg, m.message header.msgId.toNat = some msg →
      msg.generation = header.transferId →
        msg.buffer ≠ some (.user b) ∧ (header.msgId.toNat = s → ¬ held)) (payload : List U8) :
    Prog.Meets (fun _ => True) SlotsEvolve (Spared b s held) (fun _ _ => True)
      (processPacket header payload) m := by
  have hdone : ∀ m, Prog.Meets (fun _ => True) SlotsEvolve (Spared b s held) (fun _ _ => True)
      (pure ⟨⟩ : Prog ReceiverMemory PUnit) m :=
    fun m => Prog.Meets.pure fun _ _ _ => trivial
  unfold processPacket
  dsimp only
  have hlt : header.msgId.toNat < ConnectionContext.maxMessages := header.msgId.isLt
  generalize header.msgId.toNat = id at hother hlt ⊢
  refine Prog.Meets.load_bind fun m₁ h₁ _ => ?_
  split
  · exact hdone m₁
  · rename_i msg₁ hget
    split_ifs with hgen
    · exact hdone m₁
    · -- the packet is taken for the message that the slot held from the start
      have hmsg₁ : m₁.message id = some msg₁ := by
        rw [ConnectionContext.getMessage_of_lt _ hlt] at hget
        exact (Option.filter_eq_some_iff.mp hget).1
      obtain ⟨msg, hmsg, hsame, -⟩ := h₁.slots id msg₁ hmsg₁
      obtain ⟨hbuf, hslot⟩ := hother msg hmsg (hsame.symm.trans (not_not.mp hgen))
      have hstay : ∀ m', SlotsEvolve m m' → ∀ msg', m'.message id = some msg' →
          msg'.buffer ≠ some (.user b) := by
        intro m' h' msg' hmsg' hptr
        obtain ⟨msg₀, hmsg₀, -, hkept⟩ := h'.slots id msg' hmsg'
        obtain rfl := Option.some.inj (hmsg.symm.trans hmsg₀)
        rcases hkept with hkept | hkept
        · exact hbuf (hkept.symm.trans hptr)
        · exact absurd (hkept.symm.trans hptr) (by simp)
      refine Prog.Meets.load_bind fun m₂ h₂ _ => ?_
      split_ifs
      · exact hdone m₂
      · refine Prog.Meets.load_bind fun m₃ h₃ _ => ?_
        split_ifs
        · exact hdone m₃
        · have hstart := IsTrans.trans _ _ _ (IsTrans.trans _ _ _ h₁ h₂) h₃
          refine Prog.Meets.bind trivial (writePacketToBuffer_spares (hstay m₃ hstart) _ payload) ?_
          exact fun _ m₄ _ _ => Prog.Meets.modify fun m₅ _ _ =>
            ⟨trivial, .setReceived hslot _ m₅, fun _ _ _ => trivial⟩

end Worker

/-! ### Rounds of a receiver with one connection -/

lemma startReceiver_opened (receiver : Option UDPReceiver) (params : ConnectionParams) :
    (startReceiver receiver params true).1 = true := by
  cases receiver <;> rfl

/-- Where nothing is in the way, a post gets as far as its CTS. -/
lemma recvPostOnOffer_ready {m : ReceiverMemory} {msgId : ℕ} {generation : U32} (buffer length : ℕ)
    (offer : ConnectionParams) {server : TCPControlServer}
    (hlt : msgId < ConnectionContext.maxMessages)
    (hfree : ConnectionContext.slotBusy (m.message msgId) generation = false)
    (hserver : m.conn.tcpServer = some server) (hfd : 0 ≤ server.clientFd) :
    ∃ m', recvPostOnOffer m msgId generation buffer length offer true sizeofControlMessage =
        (.ready ⟨msgId, generation, buffer, length⟩
          (some (ctsMessage m.conn.connectionCtx.connectionId
            ((negotiate m.conn.connectionCtx.params offer length).withTransferId generation))),
          m') ∧
      m'.conn.tcpServer = some server ∧ m'.conn.isReceiver = m.conn.isReceiver ∧
      m'.conn.connectionCtx.connectionId = m.conn.connectionCtx.connectionId := by
  have hfree' : ConnectionContext.slotBusy (m.conn.connectionCtx.msgTable msgId) generation
      = false := hfree
  unfold recvPostOnOffer ConnectionContext.allocateMessageSlot
  simp only [ge_iff_le, Nat.not_le.mpr hlt, if_false, ConnectionContext.initializeContext_msgTable,
    hfree', Bool.false_eq_true, startReceiver_opened, Bool.true_eq_false, hserver,
    not_lt.mpr hfd, TCPControlServer.sendMessage_whole hfd]
  refine ⟨_, rfl, ?_, ?_, ?_⟩ <;>
    simp [ReceiverMemory.sendMessage, TCPControlServer.sendMessage_whole hfd,
      ConnectionContext.setMessage, ConnectionContext.initializeContext]

lemma sampleReceiver_noMessages : sampleReceiver.NoMessages := fun _ _ => rfl

/-- The parameters that every sample handshake ends with. -/
def sampleParams : ConnectionParams := negotiate .zero (desiredParams .zero 100) 100

/-- The `n`-th post of the sample connection, when all went well. -/
def sampleEntry (n : ℕ) : ℕ × RecvPostResult :=
  (0, .posted ⟨n % 1024, BitVec.ofNat 32 (1 + n), n, 100⟩
    (some (sampleCts (BitVec.ofNat 32 (1 + n)))))

/-- `n` such posts. -/
def sampleHistory : ℕ → History
  | 0     => []
  | n + 1 => sampleEntry n :: sampleHistory n

/-- `n` times a post and its completion. -/
def sampleRounds : ℕ → List ReceiverEvent
  | 0     => []
  | n + 1 => sampleRounds n ++ [.call (samplePost n), .call (.recvComplete 0
      ⟨n % 1024, BitVec.ofNat 32 (1 + n), n, 100⟩ sizeofControlMessage)]

lemma length_sampleHistory (n : ℕ) : (sampleHistory n).length = n := by
  induction n with
  | zero => rfl
  | succ n ih => rw [sampleHistory, List.length_cons, ih]

lemma draws_sampleHistory (n : ℕ) : (sampleHistory n).draws = n := by
  induction n with
  | zero => rfl
  | succ n ih =>
    rw [History.draws, sampleHistory, List.countP_cons_of_pos rfl]
    exact congrArg (· + 1) ih

/-- The sample connection between two rounds. -/
structure Idle (n : ℕ) (p : ReceiverProcess) : Prop where
  nextMsgId : (p.contexts 0).nextMsgId = n % 1024
  parentCtx : (p.connections 0).conn.parentCtx = 0
  isReceiver : (p.connections 0).conn.isReceiver = true
  server : (p.connections 0).conn.tcpServer = some ⟨5⟩
  connectionId : (p.connections 0).conn.connectionCtx.connectionId = 0
  params : negotiate (p.connections 0).conn.connectionCtx.params (desiredParams .zero 100) 100
    = sampleParams
  dead : ∀ s msg, (p.connections 0).message s = some msg → msg.state = .dead

/-- A slot whose message is finished can be taken by the next post. -/
lemma Idle.free {n : ℕ} {p : ReceiverProcess} {h : History} (hi : Idle n p)
    (hheld : p.Held h) (hlength : h.length = n) (hn : n + 1 < 2 ^ 32) (s : ℕ) :
    ConnectionContext.slotBusy ((p.connections 0).message s) (BitVec.ofNat 32 (1 + n)) = false := by
  cases hmsg : (p.connections 0).message s with
  | none => rfl
  | some msg =>
    obtain ⟨post, handle, -, -, -, -, hgen, -⟩ := hheld.holder 0 s msg hmsg
    have hearlier : post.earlier.length < n := by
      have := congrArg List.length post.eq
      rw [List.length_append, List.length_cons] at this
      omega
    have hcount : post.earlier.slotDraws 0 s ≤ post.earlier.length := List.countP_le_length
    have hlt : msg.generation < BitVec.ofNat 32 (1 + n) := by
      rw [hgen, BitVec.lt_def, BitVec.toNat_ofNat, BitVec.toNat_ofNat, Nat.mod_eq_of_lt (by omega),
        Nat.mod_eq_of_lt (by omega)]
      omega
    simp [ConnectionContext.slotBusy, hi.dead s msg hmsg, BitVec.not_le.mpr hlt]

/-- The sample connection between post number `n` and its completion. -/
structure InRound (n : ℕ) (p q : ReceiverProcess) : Prop where
  nextMsgId : (q.contexts 0).nextMsgId = (n + 1) % 1024
  parentCtx : (q.connections 0).conn.parentCtx = 0
  isReceiver : (q.connections 0).conn.isReceiver = true
  server : (q.connections 0).conn.tcpServer = some ⟨5⟩
  connectionId : (q.connections 0).conn.connectionCtx.connectionId = 0
  params : (q.connections 0).conn.connectionCtx.params = sampleParams
  buffers : (q.connections 0).buffers = (p.connections 0).buffers
  table : ∃ msg, msg.state = .active ∧ (q.connections 0).conn.connectionCtx.msgTable
    = Function.update (p.connections 0).conn.connectionCtx.msgTable (n % 1024)
      (some (initMessage msg n 100 (sampleParams.withTransferId (BitVec.ofNat 32 (1 + n)))))

/-- The next post goes through. -/
lemma Idle.post {n : ℕ} {p : ReceiverProcess} {h : History} (hi : Idle n p) (hc : p.Counted h)
    (hheld : p.Held h) (hlength : h.length = n) (hdraws : h.draws = n) (hn : n + 1 < 2 ^ 32) :
    ∃ q, p.sdrRecvPost 0 n 100 sampleHandshake true sizeofControlMessage
        = ((sampleEntry n).2, q) ∧ InRound n p q := by
  have hcounter : p.receiverGenerationCounter = BitVec.ofNat 32 (1 + n) := hdraws ▸ hc.counter
  have hid : allocateMsgId (p.contexts 0) = (n % 1024, ⟨(n + 1) % 1024⟩) := by
    simp [allocateMsgId, hi.nextMsgId, Nat.add_mod]
  have hlt : n % 1024 < ConnectionContext.maxMessages := Nat.mod_lt n (by decide)
  obtain ⟨m', hready, hserver, hreceiver, hconnection⟩ := recvPostOnOffer_ready n 100
    (desiredParams .zero 100) hlt (hi.free hheld hlength hn (n % 1024)) hi.server (by decide)
  have hspec := recvPostOnOffer_spec (p.connections 0) (n % 1024) (BitVec.ofNat 32 (1 + n)) n 100
    (desiredParams .zero 100) true sizeofControlMessage
  rw [hready] at hspec
  obtain ⟨msg, htable, -, hstate⟩ := (hspec.setUp _ rfl).table
  rw [hi.params] at htable
  have hoffer : p.onOffer 0 n 100 (desiredParams .zero 100) true sizeofControlMessage
      = (n % 1024, .ready ⟨n % 1024, BitVec.ofNat 32 (1 + n), n, 100⟩
          (some (sampleCts (BitVec.ofNat 32 (1 + n)))),
        { receiverGenerationCounter := p.receiverGenerationCounter + 1
          contexts := Function.update p.contexts 0 ⟨(n + 1) % 1024⟩
          connections := Function.update p.connections 0 m' }) := by
    simp only [ReceiverProcess.onOffer, hi.parentCtx, hid, hcounter, hready, hi.connectionId,
      hi.params]
    rfl
  have hpost : p.sdrRecvPost 0 n 100 sampleHandshake true sizeofControlMessage
      = ((sampleEntry n).2,
        { receiverGenerationCounter := p.receiverGenerationCounter + 1
          contexts := Function.update p.contexts 0 ⟨(n + 1) % 1024⟩
          connections := Function.update p.connections 0 m' }) := by
    simp [ReceiverProcess.sdrRecvPost, hi.isReceiver, hi.server, sampleHandshake, waitFor, hoffer,
      sampleEntry]
  refine ⟨_, hpost, ?_⟩
  constructor <;> simp only [Function.update_self]
  · exact hspec.parentCtx.trans hi.parentCtx
  · exact hreceiver.trans hi.isReceiver
  · exact hserver
  · exact hconnection.trans hi.connectionId
  · exact hspec.params.trans hi.params
  · exact hspec.buffers
  · exact ⟨msg, hstate, htable⟩

lemma Idle.call {n : ℕ} {hp : History × ReceiverProcess} (hhistory : hp.1 = sampleHistory n)
    (hi : Idle n hp.2) (hb : hp.2.Counted hp.1 ∧ hp.2.Held hp.1) (hn : n + 1 < 2 ^ 32) :
    ∃ q, ReceiverProcess.call hp (samplePost n) = (sampleHistory (n + 1), q) ∧
      InRound n hp.2 q := by
  obtain ⟨q, hpost, hq⟩ := hi.post hb.1 hb.2 (hhistory ▸ length_sampleHistory n)
    (hhistory ▸ draws_sampleHistory n) hn
  refine ⟨q, ?_, hq⟩
  simp only [ReceiverProcess.call, samplePost, hpost, hhistory]
  rfl

/-- Completion ends the round. -/
lemma InRound.complete {n : ℕ} {p q : ReceiverProcess} (hq : InRound n p q) (hi : Idle n p)
    (handle : SDRRecvHandle) (hid : handle.msgId = n % 1024) :
    Idle (n + 1) (q.sdrRecvComplete 0 handle sizeofControlMessage) ∧
      ((q.sdrRecvComplete 0 handle sizeofControlMessage).connections 0).buffers
        = (q.connections 0).buffers := by
  obtain ⟨msg, -, htable⟩ := hq.table
  obtain ⟨isComplete, hrun⟩ := run_sdrRecvComplete
    (any_polling_joined handle.msgId (q.connections 0)) sizeofControlMessage
  have hlt : handle.msgId < ConnectionContext.maxMessages := hid ▸ Nat.mod_lt n (by decide)
  rw [ReceiverMemory.completeMessage_of_lt hlt] at hrun
  simp only [ReceiverProcess.sdrRecvComplete, hrun, ReceiverProcess.setConnection]
  generalize hm : ReceiverMemory.mapMessage handle.msgId ConnectionContext.retire _ = m
  have hserver : m.conn.tcpServer = some ⟨5⟩ := hm ▸ hq.server
  have hconn := m.sendMessage_conn
    (completionMessage m.conn.connectionCtx.connectionId isComplete) sizeofControlMessage
  refine ⟨?_, by rw [Function.update_self, ReceiverMemory.sendMessage_buffers, ← hm]; rfl⟩
  constructor <;> simp only [Function.update_self, ReceiverMemory.message, hconn]
  · exact hq.nextMsgId
  · exact hm ▸ hq.parentCtx
  · exact hm ▸ hq.isReceiver
  · exact hserver
  · exact hm ▸ hq.connectionId
  · have hparams : m.conn.connectionCtx.params = sampleParams := hm ▸ hq.params
    rw [hparams]
    decide
  · intro s msg' hmsg'
    have hmsg : m.message s = some msg' := hmsg'
    rw [← hm] at hmsg
    by_cases hs : s = handle.msgId
    · subst hs
      rw [ReceiverMemory.message_mapMessage, Option.map_eq_some_iff] at hmsg
      obtain ⟨_, -, rfl⟩ := hmsg
      rfl
    · rw [ReceiverMemory.message_mapMessage_of_ne hs, ReceiverMemory.mapFrontend,
        ReceiverMemory.message_mapMessage_of_ne hs, ReceiverMemory.message, htable,
        Function.update_of_ne (hid ▸ hs)] at hmsg
      exact hi.dead s msg' hmsg

/-- All rounds go through. -/
lemma runEvents_sampleRounds (n : ℕ) (hn : n < 2 ^ 32) :
    (sampleReceiver.runEvents (sampleRounds n)).1 = sampleHistory n ∧
      Idle n (sampleReceiver.runEvents (sampleRounds n)).2 ∧
      ((sampleReceiver.runEvents (sampleRounds n)).2.connections 0).buffers = fun _ _ => 0 := by
  induction n with
  | zero => exact ⟨rfl, ⟨rfl, rfl, rfl, rfl, rfl, rfl, fun s msg h => by cases h⟩, rfl⟩
  | succ n ih =>
    obtain ⟨hhistory, hi, hbuffers⟩ := ih (by omega)
    obtain ⟨q, hcall, hq⟩ := hi.call hhistory (ReceiverProcess.held_runEvents
      sampleReceiver_initial sampleReceiver_noMessages (sampleRounds n)) hn
    obtain ⟨hidle, hkept⟩ := hq.complete hi ⟨n % 1024, BitVec.ofNat 32 (1 + n), n, 100⟩ rfl
    have hrun : sampleReceiver.runEvents (sampleRounds (n + 1)) = (sampleHistory (n + 1),
        q.sdrRecvComplete 0 ⟨n % 1024, BitVec.ofNat 32 (1 + n), n, 100⟩ sizeofControlMessage) := by
      rw [sampleRounds, ReceiverProcess.runEvents, List.foldl_append, ← ReceiverProcess.runEvents]
      simp only [List.foldl_cons, List.foldl_nil, ReceiverProcess.event, hcall]
      rfl
    rw [hrun]
    exact ⟨rfl, hidle, hkept.trans (hq.buffers.trans hbuffers)⟩

lemma mem_sampleHistory {n : ℕ} {e : ℕ × RecvPostResult} (he : e ∈ sampleHistory n) :
    ∃ k < n, e = sampleEntry k := by
  induction n with
  | zero => exact absurd he List.not_mem_nil
  | succ n ih =>
    rcases List.mem_cons.mp he with rfl | he
    · exact ⟨n, Nat.lt_succ_self n, rfl⟩
    · obtain ⟨k, hk, rfl⟩ := ih he
      exact ⟨k, hk.trans (Nat.lt_succ_self n), rfl⟩

lemma sampleHistory_split {k n : ℕ} (hk : k < n) :
    ∃ later, sampleHistory n = later ++ sampleEntry k :: sampleHistory k ∧
      ∀ e ∈ later, ∃ j, k < j ∧ j < n ∧ e = sampleEntry j := by
  induction n with
  | zero => exact absurd hk (Nat.not_lt_zero k)
  | succ n ih =>
    rcases Nat.lt_succ_iff_lt_or_eq.mp hk with hlt | rfl
    · obtain ⟨later, hlater, hmem⟩ := ih hlt
      refine ⟨sampleEntry n :: later, congrArg (sampleEntry n :: ·) hlater, fun e he => ?_⟩
      rcases List.mem_cons.mp he with rfl | he
      · exact ⟨n, hlt, Nat.lt_succ_self n, rfl⟩
      · obtain ⟨j, hkj, hjn, rfl⟩ := hmem e he
        exact ⟨j, hkj, hjn.trans (Nat.lt_succ_self n), rfl⟩
    · exact ⟨[], rfl, fun _ he => absurd he List.not_mem_nil⟩

/-- The posts of the rounds, each with a buffer of its own. -/
lemma exists_samplePost {h : History} {n : ℕ} (hh : h = sampleHistory n) {k : ℕ} (hk : k < n) :
    ∃ post : h.Post, post.connection = 0 ∧ post.result = (sampleEntry k).2 ∧
      post.earlier = sampleHistory k ∧ post.OwnBuffer ∧
      ∀ e ∈ post.later, ∃ j, k < j ∧ j < n ∧ e = sampleEntry j := by
  obtain ⟨later, hlater, hmem⟩ := sampleHistory_split hk
  refine ⟨⟨later, 0, _, _, hh.trans hlater⟩, rfl, rfl, rfl, fun e he _ => ?_, hmem⟩
  have hne : ∃ j, j ≠ k ∧ e = sampleEntry j := by
    rcases List.mem_append.mp he with he | he
    · obtain ⟨j, hkj, -, rfl⟩ := hmem e he
      exact ⟨j, hkj.ne', rfl⟩
    · obtain ⟨j, hjk, rfl⟩ := mem_sampleHistory he
      exact ⟨j, hjk.ne, rfl⟩
  obtain ⟨j, hj, rfl⟩ := hne
  exact fun h => hj (Option.some.inj h)

lemma slotDraws_sampleHistory (n : ℕ) {s : ℕ} (hs : s < 1024) :
    (sampleHistory n).slotDraws 0 s = (n + 1023 - s) / 1024 := by
  induction n with
  | zero =>
    rw [Nat.div_eq_of_lt (by omega)]
    rfl
  | succ n ih =>
    have hcons : (sampleHistory (n + 1)).slotDraws 0 s
        = (sampleHistory n).slotDraws 0 s + if n % 1024 = s then 1 else 0 := by
      simp [History.slotDraws, sampleHistory, List.countP_cons, sampleEntry, RecvPostResult.slot,
        RecvPostResult.drawn]
    rw [hcons, ih]
    split_ifs <;> omega

/-- The bytes of a message of 100 bytes. -/
def lateData : List U8 := List.replicate 100 7

/-! ### Isolation -/

/-- A packet that some send built with the transfer id of a CTS. -/
def BuiltFor (cts : ControlMessage) (packet : SDRPacket) : Prop :=
  ∃ msgId packetsPerChunk mtuBytes data o,
    dataPacket cts.params.transferId msgId packetsPerChunk mtuBytes data o = some packet

/-- Two counters that start at 1 agree when they counted the same, up to a wrap. -/
lemma ofNat_one_add_inj (x y : ℕ) :
    BitVec.ofNat 32 (1 + x) = BitVec.ofNat 32 (1 + y) ↔ y ≡ x [MOD 2 ^ 32] := by
  rw [← BitVec.toNat_inj, BitVec.toNat_ofNat, BitVec.toNat_ofNat]
  exact ⟨fun h => (Nat.ModEq.add_left_cancel' 1 h).symm, fun h => (h.add_left 1).symm⟩

/-- Where the condition fails, a packet that is new to the message of `b` is written into its buffer
and recorded in its bitmap. -/
lemma latePacket_taken {p : ReceiverProcess} (hinit : p.Initial) (hempty : p.NoMessages)
    (events : List ReceiverEvent) (a b : (p.runEvents events).1.Post)
    {cts : ControlMessage} (hcts : a.result.cts = some cts) {handle : SDRRecvHandle}
    (hhandle : b.result.handle = some handle) (hholds : b.Holds)
    {packet : SDRPacket} (hpacket : BuiltFor cts packet)
    (hslot : packet.header.msgId.toNat = handle.msgId)
    (hcount : a.earlier.draws ≡ b.earlier.slotDraws b.connection handle.msgId [MOD 2 ^ 32])
    {m : ReceiverMemory} (hm : (p.runEvents events).2.connections b.connection = m)
    {msg : MessageContext} {bitmap : BackendBitmap} (hmsg : m.message handle.msgId = some msg)
    (hactive : msg.state = .active) (hbitmap : msg.backendBitmap = some bitmap)
    (hbuf : msg.buffer = some (.user handle.userBuffer))
    (hmtu : msg.connectionParams.mtuBytes.toNat ≠ 0)
    (hlt : packet.header.packetOffset.toNat < bitmap.totalPackets)
    (hnew : packet.header.packetOffset.toNat ∉ bitmap.received)
    (hfit : packet.header.packetOffset.toNat * msg.connectionParams.mtuBytes.toNat
      < msg.bufferSize) :
    ∃ m', (receiveDatagram packet.datagram).run m = some (⟨⟩, m') ∧
      packet.header.packetOffset.toNat ∉ bits (m.packetWords handle.msgId) ∧
      packet.header.packetOffset.toNat ∈ bits (m'.packetWords handle.msgId) ∧
      m'.buffers handle.userBuffer = writeBytes (m.buffers handle.userBuffer)
        (packet.header.packetOffset.toNat * msg.connectionParams.mtuBytes.toNat)
        (packet.payload.take (msg.bufferSize -
          packet.header.packetOffset.toNat * msg.connectionParams.mtuBytes.toNat)) := by
  obtain ⟨-, hheld⟩ := ReceiverProcess.held_runEvents hinit hempty events
  obtain ⟨msgId, packetsPerChunk, mtuBytes, data, o, hbuilt⟩ := hpacket
  obtain ⟨hparse, htransfer, -⟩ := parse_dataPacket hbuilt
  obtain ⟨post, holder, hi, hh, hs, hpost, hgen, -⟩ :=
    hheld.holder b.connection handle.msgId msg (hm ▸ hmsg)
  have hslots : b.result.slot = post.result.slot := by
    rw [RecvPostResult.slot_eq, RecvPostResult.slot_eq, hh, hhandle, Option.map_some,
      Option.map_some, hs]
  have hearlier : post.earlier = b.earlier := by
    rcases post.eq_or_other b with ⟨-, -, hsame⟩ | ⟨hlater, -⟩ | ⟨hlater, -⟩
    · exact hsame
    · exact absurd ⟨hi, hslots.symm⟩ (hholds _ hlater)
    · exact absurd ⟨hi.symm, hslots⟩ (hpost _ hlater)
  have hsame : msg.generation = packet.header.transferId := by
    rw [hgen, htransfer, hheld.announced a cts hcts, hearlier, ofNat_one_add_inj]
    exact hcount
  have hrun := run_processPacket { packet.header with chunkSeq := packet.header.getChunkId }
    (hslot ▸ hmsg) hactive hsame hbitmap hbuf hmtu
    (Bool.eq_false_iff.mpr fun h => hnew ((bitmap.isPacketReceived_iff _).mp h).2) hfit
    packet.payload
  refine ⟨_, (by rw [receiveDatagram, hparse]; exact hrun), ?_, ?_, ?_⟩
  · rw [packetWords_of_message hmsg hbitmap]
    exact hnew
  · rw [← hslot] at hmsg ⊢
    exact mem_packetWords_setReceived hmsg hbitmap hlt
  · exact Function.update_self _ _ _

/-- 1025 rounds and one more post. -/
def lateRun : List ReceiverEvent := sampleRounds 1025 ++ [.call (samplePost 1025)]

lemma runEvents_lateRun : ∃ q, sampleReceiver.runEvents lateRun = (sampleHistory 1026, q) ∧
    InRound 1025 (sampleReceiver.runEvents (sampleRounds 1025)).2 q ∧
    (q.connections 0).buffers = fun _ _ => 0 := by
  obtain ⟨hhistory, hi, hbuffers⟩ := runEvents_sampleRounds 1025 (by decide)
  obtain ⟨q, hcall, hq⟩ := hi.call hhistory (ReceiverProcess.held_runEvents
    sampleReceiver_initial sampleReceiver_noMessages (sampleRounds 1025)) (by decide)
  refine ⟨q, ?_, hq, hq.buffers.trans hbuffers⟩
  rw [lateRun, ReceiverProcess.runEvents, List.foldl_append, ← ReceiverProcess.runEvents]
  exact hcall

end SdrUdp
