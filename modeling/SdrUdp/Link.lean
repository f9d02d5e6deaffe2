import SdrUdp.LengthMismatch
import SdrUdp.ReceiverActions

/-!
# The lossy link

The network between a sender and the threads of a receiver, which may lose, duplicate and reorder
packets. A packet that is on its way can still be recorded; one that is neither recorded nor on
its way is not recorded any more.
-/

namespace SdrUdp

open SdrUdp.Core

namespace BitmapPair

variable (t : BitmapPair)

/-- The message while it is received. -/
structure LiveShape (msg : MessageContext) (b : BackendBitmap) (f : FrontendBitmap) : Prop where
  generation : msg.generation = t.generation
  state : msg.state = .active
  backend : msg.backendBitmap = some b
  frontend : msg.frontendBitmap = some f
  totalPackets : b.totalPackets = t.totalPackets
  packetsPerChunk : b.packetsPerChunk = t.packetsPerChunk
  chunks : f.totalChunks = t.totalChunks
  polling : f.polling = true
  shouldStop : f.shouldStop = false

/-- The message is received, and a chunk bit stands for packet bits. -/
structure Live (m : ReceiverMemory) : Prop where
  message : ∃ msg b f, m.message t.slot = some msg ∧ t.LiveShape msg b f
  chunks : ∀ c ∈ t.completed m, ∀ o, t.InChunk c o → o ∈ t.received m

/-- What workers and the poller do does not matter to `J`. -/
structure Stable (J : ReceiverMemory → Prop) : Prop where
  write : ∀ m ptr offset data, J m → J (ReceiverMemory.writeBuffer ptr offset data m)
  setReceived : ∀ m o, t.Live m → J m → J (m.setReceived t.slot o)
  setChunk : ∀ m c, J m → J (m.mapFrontend t.slot fun f => f.setChunk c)

variable {t} {m m' : ReceiverMemory}

/-! ### Steps of the message -/

lemma Live.congr (h : t.Live m) (hmsg : m'.message t.slot = m.message t.slot) : t.Live m' :=
  ⟨by rw [hmsg]; exact h.message, by
    rw [received_congr hmsg, completed_congr hmsg]; exact h.chunks⟩

/-- Recording a packet sets its bit and no other. -/
lemma Live.setReceived (h : t.Live m) (o : ℕ) : t.Live (m.setReceived t.slot o) ∧
    t.Grows m (m.setReceived t.slot o) ∧ t.received (m.setReceived t.slot o)
      = if o < t.totalPackets then insert o (t.received m) else t.received m := by
  obtain ⟨msg, b, f, hmsg, hs⟩ := h.message
  have hmsg' : (m.setReceived t.slot o).message t.slot = some { msg with
      backendBitmap := msg.backendBitmap.map fun b => (b.setPacketReceived o).2 } := by
    simp [ReceiverMemory.setReceived, hmsg]
  have hback : (msg.backendBitmap.map fun b => (b.setPacketReceived o).2)
      = some (b.setPacketReceived o).2 := by rw [hs.backend, Option.map_some]
  have hreceived : t.received (m.setReceived t.slot o)
      = if o < t.totalPackets then insert o (t.received m) else t.received m := by
    rw [received_of_message hmsg' hback, received_of_message hmsg hs.backend, ← hs.totalPackets]
    exact b.received_setPacketReceived o
  have hcompleted : t.completed (m.setReceived t.slot o) = t.completed m := by
    rw [completed_of_message hmsg' hs.frontend, completed_of_message hmsg hs.frontend]
  have hgrow : t.received m ⊆ t.received (m.setReceived t.slot o) := by
    rw [hreceived]
    split_ifs
    · exact Set.subset_insert _ _
    · exact subset_rfl
  refine ⟨⟨⟨_, _, f, hmsg', hs.generation, hs.state, hback, hs.frontend, by simp [hs.totalPackets],
    by simp [hs.packetsPerChunk], hs.chunks, hs.polling, hs.shouldStop⟩, fun c hc i hi => ?_⟩,
    ⟨hgrow, hcompleted.ge⟩, hreceived⟩
  rw [hcompleted] at hc
  exact hgrow (h.chunks c hc i hi)

lemma Live.setChunk (h : t.Live m) {c : ℕ} (hall : ∀ o, t.InChunk c o → o ∈ t.received m) :
    t.Live (m.mapFrontend t.slot fun f => f.setChunk c) ∧
      t.received (m.mapFrontend t.slot fun f => f.setChunk c) = t.received m := by
  obtain ⟨msg, b, f, hmsg, hs⟩ := h.message
  have hmsg' : (m.mapFrontend t.slot fun f => f.setChunk c).message t.slot = some { msg with
      frontendBitmap := msg.frontendBitmap.map fun f => f.setChunk c } := by
    simp [ReceiverMemory.mapFrontend, hmsg]
  have hfront : (msg.frontendBitmap.map fun f => f.setChunk c) = some (f.setChunk c) := by
    rw [hs.frontend, Option.map_some]
  have hreceived : t.received (m.mapFrontend t.slot fun f => f.setChunk c) = t.received m := by
    rw [received_of_message hmsg' hs.backend, received_of_message hmsg hs.backend]
  refine ⟨⟨⟨_, b, _, hmsg', hs.generation, hs.state, hs.backend, hfront, hs.totalPackets,
    hs.packetsPerChunk, hs.chunks, hs.polling, hs.shouldStop⟩, fun c' hc' o ho => ?_⟩, hreceived⟩
  have hbits : bits (f.setChunk c).chunkBitmap = insert c (bits f.chunkBitmap) :=
    f.completed_setChunk c
  rw [completed_of_message hmsg' hfront, hbits, Set.mem_insert_iff] at hc'
  rw [hreceived]
  rcases hc' with rfl | hc'
  · exact hall o ho
  · exact h.chunks c' (by rw [completed_of_message hmsg hs.frontend]; exact hc') o ho

/-! ### Threads -/

section Threads

variable {J : ReceiverMemory → Prop}

lemma Stable.pollable (hJ : t.Stable J) : t.Pollable fun m => t.Live m ∧ J m where
  frontend m h := by
    obtain ⟨msg, b, f, hmsg, hs⟩ := h.1.message
    simp [ReceiverMemory.frontendBitmap, hmsg, hs.frontend]
  setChunk m c h _ hall := ⟨(h.1.setChunk hall).1, hJ.setChunk m c h.2⟩

lemma Stable.writePacketToBuffer_meets (hJ : t.Stable J) (id o : ℕ) (payload : List U8)
    (m : ReceiverMemory) :
    Prog.Meets (fun m => t.Live m ∧ J m) t.Grows t.Grows (fun _ _ => True)
      (writePacketToBuffer id o payload) m := by
  have hkeep : ∀ (ptr : BufferPtr) (offset : ℕ) (data : List U8) (m : ReceiverMemory),
      (m.writeBuffer ptr offset data).message t.slot = m.message t.slot := by
    intro ptr offset data m
    cases ptr <;> rfl
  refine Prog.Meets.load_bind fun m₁ _ _ => ?_
  split
  · exact Prog.Meets.pure fun _ _ _ => trivial
  · split
    · exact Prog.Meets.pure fun _ _ _ => trivial
    · dsimp only
      generalize o * _ = offset
      split_ifs
      · exact Prog.Meets.pure fun _ _ _ => trivial
      · exact Prog.Meets.modify fun m₂ _ hI₂ =>
          ⟨⟨hI₂.1.congr (hkeep _ _ _ _), hJ.write _ _ _ _ hI₂.2⟩, grows_of_message (hkeep _ _ _ _),
            fun _ _ _ => trivial⟩

/-- A worker records the packet it was given. -/
lemma Stable.processPacket_records (hJ : t.Stable J)
    (hslot : t.slot < ConnectionContext.maxMessages)
    {header : SDRPacketHeader} (hid : header.msgId.toNat = t.slot)
    (hgen : header.transferId = t.generation) (payload : List U8) (m : ReceiverMemory) :
    Prog.Meets (fun m => t.Live m ∧ J m) t.Grows t.Grows
      (fun _ m => header.packetOffset.toNat < t.totalPackets →
        header.packetOffset.toNat ∈ t.received m) (processPacket header payload) m := by
  unfold processPacket
  rw [hid]
  refine Prog.Meets.load_bind fun m₁ _ hI₁ => ?_
  obtain ⟨msg, b, f, hmsg, hs⟩ := hI₁.1.message
  have hget : m₁.conn.connectionCtx.getMessage t.slot = some msg := by
    have htable : m₁.conn.connectionCtx.msgTable t.slot = some msg := hmsg
    rw [ConnectionContext.getMessage_of_lt _ hslot, htable]
    simp [Option.filter, hs.state]
  simp only [hget, hs.generation, hgen, ne_eq, not_true_eq_false, if_false]
  refine Prog.Meets.load_bind fun m₂ _ hI₂ => ?_
  obtain ⟨msg₂, b₂, f₂, hmsg₂, hs₂⟩ := hI₂.1.message
  simp only [hmsg₂, Option.map_some, hs₂.state, not_true_eq_false, if_false]
  refine Prog.Meets.load_bind fun m₃ _ hI₃ => ?_
  obtain ⟨msg₃, b₃, f₃, hmsg₃, hs₃⟩ := hI₃.1.message
  have hback : m₃.backendBitmap t.slot = some b₃ := by
    simp [ReceiverMemory.backendBitmap, hmsg₃, hs₃.backend]
  simp only [hback, Option.any_some]
  split_ifs with hdup
  · refine Prog.Meets.pure fun m₄ h₄ _ _ => h₄.received ?_
    rw [received_of_message hmsg₃ hs₃.backend]
    exact ((b₃.isPacketReceived_iff _).mp hdup).2
  · refine Prog.Meets.bind hI₃ (hJ.writePacketToBuffer_meets _ _ _ m₃) fun _ m₄ _ _ => ?_
    refine Prog.Meets.modify fun m₅ _ hI₅ => ?_
    obtain ⟨hlive, hgrows, hreceived⟩ := hI₅.1.setReceived header.packetOffset.toNat
    refine ⟨⟨hlive, hJ.setReceived _ _ hI₅.1 hI₅.2⟩, hgrows, fun m₆ h₆ _ hlt => h₆.received ?_⟩
    rw [hreceived, if_pos hlt]
    exact Set.mem_insert _ _

/-- What a pass over all chunks achieves, a round of the poller does. -/
lemma pollingRound_of_pass {Q : PUnit → ReceiverMemory → Prop} {m : ReceiverMemory}
    (hpass : ∀ m', t.Grows m m' → t.Live m' ∧ J m' →
      Prog.Meets (fun m => t.Live m ∧ J m) t.Grows t.Grows Q
        (updateChunkBitmap t.slot t.totalPackets
        t.packetsPerChunk t.totalChunks t.totalChunks 0) m') :
    Prog.Meets (fun m => t.Live m ∧ J m) t.Grows t.Grows Q (pollingRound t.slot) m := by
  refine Prog.Meets.load_bind fun m₁ h₁ hI₁ => ?_
  obtain ⟨msg, b, f, hmsg, hs⟩ := hI₁.1.message
  simp only [hmsg, hs.frontend, hs.backend, hs.polling, hs.shouldStop, hs.totalPackets,
    hs.packetsPerChunk, hs.chunks, Bool.true_eq_false, Bool.false_eq_true, if_false]
  exact hpass m₁ h₁ hI₁

end Threads

/-- A packet that the workers take for one of the message. -/
structure Accepts (t : BitmapPair) (p : SDRPacket) : Prop where
  parse : SDRPacket.parse p.datagram
    = some ⟨{ p.header with chunkSeq := p.header.getChunkId }, p.payload⟩
  msgId : p.header.msgId.toNat = t.slot
  transferId : p.header.transferId = t.generation

/-- Such are the packets that are cut from the sender's data. -/
lemma accepts_of_dataPacket (hslot : t.slot < ConnectionContext.maxMessages) {mtuBytes : ℕ}
    (hmtu : mtuBytes ≤ SDRPacket.maxPayloadSize) {packetsPerChunk : U16} {data : List U8} {o : ℕ}
    {q : SDRPacket} (hq : dataPacket t.generation t.slot packetsPerChunk mtuBytes data o = some q) :
    t.Accepts q := by
  obtain ⟨q', hq', hmsg, htransfer, -, -, hparse⟩ := dataPacket_spec t.generation t.slot
    packetsPerChunk hmtu data o
  obtain rfl := Option.some.inj (hq.symm.trans hq')
  refine ⟨hparse, ?_, htransfer⟩
  rw [hmsg, BitVec.toNat_ofNat]
  exact Nat.mod_eq_of_lt hslot

/-- The application leaves the message alone; it may send control messages. -/
def AppAction (t : BitmapPair) (act : ReceiverMemory → ReceiverMemory) : Prop :=
  ∀ m, (act m).message t.slot = m.message t.slot ∧ m.sent <+: (act m).sent

/-- What the threads of the receiver do: worker `i` works on the packet in its buffer, the poller
sets chunk bits. -/
def actions (t : BitmapPair) (hands : ℕ → Option SDRPacket) :
    Thread → (ReceiverMemory → ReceiverMemory) → Prop
  | .worker i => fun act => ∃ p, hands i = some p ∧
      WorkerAction t.slot p.header.packetOffset.toNat act
  | .poller   => PollerAction t.slot
  | .app _    => t.AppAction

/-- What the threads achieve: a worker records the packet in its buffer. -/
def promise (t : BitmapPair) (hands : ℕ → Option SDRPacket) : Thread → ReceiverMemory → Prop
  | .worker i => fun m => ∀ p, hands i = some p → p.header.packetOffset.toNat < t.totalPackets →
      p.header.packetOffset.toNat ∈ t.received m
  | _         => fun _ => True

/-- No action records a packet that is in nobody's buffer. -/
lemma Live.received_of_action {hands : ℕ → Option SDRPacket} (h : t.Live m) {th : Thread}
    {act : ReceiverMemory → ReceiverMemory} (hact : t.actions hands th act) {o : ℕ}
    (ho : o ∈ t.received (act m)) :
    o ∈ t.received m ∨ ∃ i p, hands i = some p ∧ p.header.packetOffset.toNat = o := by
  cases th with
  | worker i =>
    obtain ⟨p, hp, hact⟩ := hact
    cases hact with
    | skip => exact Or.inl ho
    | write ptr offset data => cases ptr <;> exact Or.inl ho
    | setReceived =>
      rw [(h.setReceived _).2.2] at ho
      split_ifs at ho
      · rcases Set.mem_insert_iff.mp ho with rfl | ho
        · exact Or.inr ⟨i, p, hp, rfl⟩
        · exact Or.inl ho
      · exact Or.inl ho
  | poller =>
    obtain ⟨msg, b, f, hmsg, hs⟩ := h.message
    have hsame : ∀ g : FrontendBitmap → FrontendBitmap,
        t.received (m.mapFrontend t.slot g) = t.received m := by
      intro g
      have hmsg' : (m.mapFrontend t.slot g).message t.slot
          = some { msg with frontendBitmap := msg.frontendBitmap.map g } := by
        simp [ReceiverMemory.mapFrontend, hmsg]
      rw [received_of_message hmsg' hs.backend, received_of_message hmsg hs.backend]
    cases hact with
    | skip => exact Or.inl ho
    | setChunk c => exact Or.inl (by rwa [hsame] at ho)
    | leave => exact Or.inl (by rwa [hsame] at ho)
  | app i => exact Or.inl (by rwa [received_congr (hact m).1] at ho)

/-- Nobody but the application sends control messages. -/
lemma sent_of_action {hands : ℕ → Option SDRPacket} {th : Thread}
    {act : ReceiverMemory → ReceiverMemory} (hact : t.actions hands th act)
    (happ : ∀ i, th ≠ .app i) (m : ReceiverMemory) : (act m).sent = m.sent := by
  cases th with
  | worker i =>
    obtain ⟨p, -, hact⟩ := hact
    cases hact with
    | skip => rfl
    | write ptr offset data => cases ptr <;> rfl
    | setReceived => rfl
  | poller => cases hact <;> rfl
  | app i => exact absurd rfl (happ i)

/-- No action takes a control message back. -/
lemma sent_prefix_of_action {hands : ℕ → Option SDRPacket} {th : Thread}
    {act : ReceiverMemory → ReceiverMemory} (hact : t.actions hands th act) (m : ReceiverMemory) :
    m.sent <+: (act m).sent := by
  by_cases happ : ∃ i, th = .app i
  · obtain ⟨i, rfl⟩ := happ
    exact (hact m).2
  · have hsent := sent_of_action hact (not_exists.mp happ) m
    exact hsent.symm ▸ List.prefix_rfl

end BitmapPair

/-! ### The link -/

/-- The threads of the receiver and the network before them: `flight` are the packets in the
network, `hands i` is the packet in the buffer of worker `i`. -/
structure Link where
  pool : Pool Thread ReceiverMemory
  flight : List SDRPacket
  hands : ℕ → Option SDRPacket

namespace Link

/-- The memory of the receiver. -/
def memory (l : Link) : ReceiverMemory := l.pool.memory

/-- The network loses a packet. -/
def lose (p : SDRPacket) (l : Link) : Link := { l with flight := l.flight.erase p }

/-- The application changes the memory by itself. -/
def withMemory (m : ReceiverMemory) (l : Link) : Link :=
  { l with pool := { l.pool with memory := m } }

/-- The application runs no program among the threads. -/
def Resting (l : Link) : Prop := ∀ i, l.pool.threads (.app i) = .done ⟨⟩

/-- Packets are handed to the network. -/
def send (packets : List SDRPacket) (l : Link) : Link := { l with flight := l.flight ++ packets }

@[simp] lemma send_nil (l : Link) : l.send [] = l := by
  rw [send, List.append_nil]

/-- Worker `i` takes a packet out of the network. -/
def receive (i : ℕ) (p : SDRPacket) (l : Link) : Link where
  pool := { l.pool with
    threads := Function.update l.pool.threads (.worker i) (receiveDatagram p.datagram) }
  flight := l.flight.erase p
  hands := Function.update l.hands i (some p)

/-- The poller begins a round. -/
def beginRound (slot : ℕ) (l : Link) : Link :=
  { l with
    pool := { l.pool with threads := Function.update l.pool.threads .poller (pollingRound slot) } }

/-- The application begins a program. -/
def call (i : ℕ) (program : Prog ReceiverMemory PUnit) (l : Link) : Link :=
  { l with
    pool := { l.pool with threads := Function.update l.pool.threads (.app i) program } }

/-- One step of the link, apart from losses: an idle worker takes a packet, the idle poller begins a
round, a thread makes its next move, or the network duplicates a packet. -/
inductive Step (slot : ℕ) : Link → Link → Prop
  | receive {l : Link} (i : ℕ) (p : SDRPacket) (hp : p ∈ l.flight)
      (idle : l.pool.threads (.worker i) = .done ⟨⟩) : Step slot l (l.receive i p)
  | poll {l : Link} (idle : l.pool.threads .poller = .done ⟨⟩) : Step slot l (l.beginRound slot)
  | move {l : Link} {pool : Pool Thread ReceiverMemory} (h : l.pool.Move pool) :
      Step slot l { l with pool }
  | duplicate {l : Link} (p : SDRPacket) (hp : p ∈ l.flight) :
      Step slot l { l with flight := p :: l.flight }

@[simp] lemma receive_memory (i : ℕ) (p : SDRPacket) (l : Link) :
    (l.receive i p).memory = l.memory := rfl

@[simp] lemma receive_hands_self (i : ℕ) (p : SDRPacket) (l : Link) :
    (l.receive i p).hands i = some p := Function.update_self _ _ _

lemma receive_hands_of_ne {i j : ℕ} (h : j ≠ i) (p : SDRPacket) (l : Link) :
    (l.receive i p).hands j = l.hands j := Function.update_of_ne h _ _

@[simp] lemma receive_worker (i : ℕ) (p : SDRPacket) (l : Link) :
    (l.receive i p).pool.threads (.worker i) = receiveDatagram p.datagram :=
      Function.update_self _ _ _

lemma receive_threads_of_ne {i : ℕ} {th : Thread} (h : th ≠ .worker i) (p : SDRPacket) (l : Link) :
    (l.receive i p).pool.threads th = l.pool.threads th := Function.update_of_ne h _ _

@[simp] lemma beginRound_memory (slot : ℕ) (l : Link) : (l.beginRound slot).memory = l.memory := rfl

@[simp] lemma beginRound_poller (slot : ℕ) (l : Link) :
    (l.beginRound slot).pool.threads .poller = pollingRound slot := by
  simp [beginRound]

lemma beginRound_threads_of_ne {slot : ℕ} {th : Thread} (h : th ≠ .poller) (l : Link) :
    (l.beginRound slot).pool.threads th = l.pool.threads th := Function.update_of_ne h _ _

@[simp] lemma call_memory (i : ℕ) (program : Prog ReceiverMemory PUnit) (l : Link) :
    (l.call i program).memory = l.memory := rfl

@[simp] lemma call_app (i : ℕ) (program : Prog ReceiverMemory PUnit) (l : Link) :
    (l.call i program).pool.threads (.app i) = program := Function.update_self _ _ _

lemma call_threads_of_ne {i : ℕ} {th : Thread} (h : th ≠ .app i)
    (program : Prog ReceiverMemory PUnit)
    (l : Link) : (l.call i program).pool.threads th = l.pool.threads th :=
      Function.update_of_ne h _ _

/-- A copy of packet `o` is in the network or in the buffer of a worker. -/
def OnTheWay (l : Link) (o : ℕ) : Prop :=
  ∃ p, p.header.packetOffset.toNat = o ∧ (p ∈ l.flight ∨ ∃ i, l.hands i = some p)

/-- Packet `o` is recorded or on its way. -/
def Covered (t : BitmapPair) (l : Link) (o : ℕ) : Prop := o ∈ t.received l.memory ∨ l.OnTheWay o

/-- The invariant of the link. -/
structure Inv (t : BitmapPair) (J : ReceiverMemory → Prop) (l : Link) : Prop where
  promising : l.pool.Promising (fun m => t.Live m ∧ J m) t.Grows (t.promise l.hands)
  straight : ∀ th, Prog.Straight (t.actions l.hands th) (l.pool.threads th)
  accepts : ∀ p ∈ l.flight, t.Accepts p

variable {t : BitmapPair} {J : ReceiverMemory → Prop} {l l' : Link}

lemma Inv.live (h : l.Inv t J) : t.Live l.memory := h.promising.1.1

lemma Inv.stable (h : l.Inv t J) : J l.memory := h.promising.1.2

/-- An idle worker has recorded what is in its buffer. -/
lemma Inv.recorded_of_idle (h : l.Inv t J) {i : ℕ} (idle : l.pool.threads (.worker i) = .done ⟨⟩)
    {p : SDRPacket} (hp : l.hands i = some p) (hlt : p.header.packetOffset.toNat < t.totalPackets) :
    p.header.packetOffset.toNat ∈ t.received l.memory := by
  have hpromise := h.promising.2 (.worker i)
  rw [idle] at hpromise
  exact hpromise l.memory (Std.Refl.refl _) h.promising.1 p hp hlt

section Steps

variable (hfits : t.Fits) (hJ : t.Stable J)
include hfits hJ

/-- A step keeps the invariant and clears no bit. -/
lemma Inv.step (h : l.Inv t J) (hstep : l.Step t.slot l') :
    l'.Inv t J ∧ t.Grows l.memory l'.memory := by
  cases hstep with
  | receive i p hp idle =>
    have haccepts := h.accepts p hp
    have hdatagram : receiveDatagram p.datagram
        = processPacket { p.header with chunkSeq := p.header.getChunkId } p.payload := by
      rw [receiveDatagram, haccepts.parse]
    refine ⟨⟨?_, fun th => ?_, fun q hq => h.accepts q (List.mem_of_mem_erase hq)⟩, Std.Refl.refl _⟩
    · refine h.promising.spawn ?_ fun th hth => ?_
      · rw [hdatagram]
        refine (hJ.processPacket_records hfits.slot haccepts.msgId haccepts.transferId p.payload
          _).mono ?_
        intro _ m _ hrecorded q hq
        rw [receive_hands_self] at hq
        obtain rfl := Option.some.inj hq
        exact hrecorded
      · cases th with
        | worker j =>
          have hne : j ≠ i := fun heq => hth (congrArg Thread.worker heq)
          funext m
          simp only [BitmapPair.promise, receive_hands_of_ne hne]
        | poller => rfl
        | app j => rfl
    · by_cases hth : th = .worker i
      · subst hth
        rw [receive_worker, hdatagram]
        refine (processPacket_straight _ _).mono fun act hact => ⟨p, receive_hands_self i p l, ?_⟩
        exact haccepts.msgId ▸ hact
      · rw [receive_threads_of_ne hth]
        refine (h.straight th).mono fun act hact => ?_
        cases th with
        | worker j =>
          have hne : j ≠ i := fun heq => hth (congrArg Thread.worker heq)
          obtain ⟨q, hq, hact⟩ := hact
          exact ⟨q, (receive_hands_of_ne hne p l).trans hq, hact⟩
        | poller => exact hact
        | app j => exact hact
  | poll idle =>
    refine ⟨⟨?_, fun th => ?_, h.accepts⟩, Std.Refl.refl _⟩
    · refine h.promising.spawn (BitmapPair.pollingRound_of_pass fun m _ hI => ?_) fun _ _ => rfl
      exact BitmapPair.updateChunkBitmap_meets hfits hJ.pollable t.totalChunks 0 (by omega) hI
    · by_cases hth : th = .poller
      · subst hth
        rw [beginRound_poller]
        exact pollingRound_straight t.slot
      · rw [beginRound_threads_of_ne hth]
        exact h.straight th
  | move hmove =>
    obtain ⟨hpromising, hgrows⟩ := h.promising.move hmove
    exact ⟨⟨hpromising, (hmove.straight h.straight).1, h.accepts⟩, hgrows⟩
  | duplicate p hp =>
    refine ⟨⟨h.promising, h.straight, fun q hq => ?_⟩, Std.Refl.refl _⟩
    rcases List.mem_cons.mp hq with rfl | hq
    · exact h.accepts q hp
    · exact h.accepts q hq

/-- Without losses, what is covered stays covered. -/
lemma Inv.step_covered (h : l.Inv t J) (hstep : l.Step t.slot l') {o : ℕ} (ho : o < t.totalPackets)
    (hcovered : Covered t l o) : Covered t l' o := by
  have hgrows := (h.step hfits hJ hstep).2
  rcases hcovered with hreceived | ⟨q, rfl, hway⟩
  · exact Or.inl (hgrows.received hreceived)
  cases hstep with
  | receive i p hp idle =>
    rcases hway with hq | ⟨j, hj⟩
    · by_cases hpq : q = p
      · exact Or.inr ⟨q, rfl, Or.inr ⟨i, by rw [hpq]; exact receive_hands_self i p l⟩⟩
      · exact Or.inr ⟨q, rfl, Or.inl ((List.mem_erase_of_ne hpq).mpr hq)⟩
    · by_cases hij : j = i
      · exact Or.inl (h.recorded_of_idle (hij ▸ idle) hj ho)
      · exact Or.inr ⟨q, rfl, Or.inr ⟨j, (receive_hands_of_ne hij p l).trans hj⟩⟩
  | poll idle => exact Or.inr ⟨q, rfl, hway⟩
  | move hmove => exact Or.inr ⟨q, rfl, hway⟩
  | duplicate p hp => exact Or.inr ⟨q, rfl, hway.imp_left (List.mem_cons_of_mem p)⟩

omit hfits hJ in
/-- What is not covered is not recorded any more. -/
lemma Inv.step_missing (h : l.Inv t J) (hstep : l.Step t.slot l') {o : ℕ}
    (hmissing : ¬ Covered t l o) : ¬ Covered t l' o := by
  rintro (hreceived | ⟨q, hq, hway⟩)
  · cases hstep with
    | receive i p hp idle => exact hmissing (Or.inl hreceived)
    | poll idle => exact hmissing (Or.inl hreceived)
    | move hmove =>
      obtain ⟨-, th, act, hact, hmem⟩ := hmove.straight h.straight
      change o ∈ t.received _ at hreceived
      dsimp only [memory] at hreceived
      rw [hmem] at hreceived
      rcases h.live.received_of_action hact hreceived with hold | ⟨i, p, hp, hpo⟩
      · exact hmissing (Or.inl hold)
      · exact hmissing (Or.inr ⟨p, hpo, Or.inr ⟨i, hp⟩⟩)
    | duplicate p hp => exact hmissing (Or.inl hreceived)
  · refine hmissing (Or.inr ?_)
    cases hstep with
    | receive i p hp idle =>
      rcases hway with hmem | ⟨j, hj⟩
      · exact ⟨q, hq, Or.inl (List.mem_of_mem_erase hmem)⟩
      · by_cases hij : j = i
        · rw [hij, receive_hands_self] at hj
          exact ⟨q, hq, Or.inl (Option.some.inj hj ▸ hp)⟩
        · exact ⟨q, hq, Or.inr ⟨j, (receive_hands_of_ne hij p l).symm.trans hj⟩⟩
    | poll idle => exact ⟨q, hq, hway⟩
    | move hmove => exact ⟨q, hq, hway⟩
    | duplicate p hp =>
      rcases hway with hmem | hway
      · rcases List.mem_cons.mp hmem with rfl | hmem
        · exact ⟨q, hq, Or.inl hp⟩
        · exact ⟨q, hq, Or.inl hmem⟩
      · exact ⟨q, hq, Or.inr hway⟩

omit hfits hJ in
lemma Inv.step_sent (h : l.Inv t J) (hstep : l.Step t.slot l') :
    l.memory.sent <+: l'.memory.sent := by
  cases hstep with
  | receive i p hp idle => exact List.prefix_rfl
  | poll idle => exact List.prefix_rfl
  | move hmove =>
    obtain ⟨-, th, act, hact, hmem⟩ := hmove.straight h.straight
    dsimp only [memory]
    rw [hmem]
    exact BitmapPair.sent_prefix_of_action hact _
  | duplicate p hp => exact List.prefix_rfl

omit hfits hJ in
/-- Meanwhile the application rests, and nothing is sent. -/
lemma Inv.step_resting (h : l.Inv t J) (hstep : l.Step t.slot l') (hrest : l.Resting) :
    l'.Resting ∧ l'.memory.sent = l.memory.sent := by
  cases hstep with
  | receive i p hp idle =>
    exact ⟨fun j => (receive_threads_of_ne (by simp) p l).trans (hrest j), rfl⟩
  | poll idle => exact ⟨fun j => (beginRound_threads_of_ne (by simp) l).trans (hrest j), rfl⟩
  | move hmove =>
    cases hmove with
    | spawn th p idle hallowed => exact hallowed.elim
    | act th f next hact =>
      have happ : ∀ i, th ≠ .app i := by
        rintro i rfl
        exact absurd ((hrest i).symm.trans hact) (by simp)
      have hstraight := h.straight th
      rw [hact] at hstraight
      refine ⟨fun i => ?_, BitmapPair.sent_of_action hstraight.1 happ _⟩
      exact (Function.update_of_ne (happ i).symm _ _).trans (hrest i)
    | wake th ready next hwait hr =>
      have hstraight := h.straight th
      rw [hwait] at hstraight
      exact hstraight.elim
  | duplicate p hp => exact ⟨hrest, rfl⟩

end Steps

/-! ### What comes from outside -/

/-- The application may begin any program that keeps the bits and leaves the message alone. -/
lemma Inv.call (h : l.Inv t J) {i : ℕ} {program : Prog ReceiverMemory PUnit}
    (hmeets : Prog.Meets (fun m => t.Live m ∧ J m) t.Grows t.Grows
      (fun _ _ => True) program l.memory)
    (hstraight : Prog.Straight t.AppAction program) : (l.call i program).Inv t J := by
  refine ⟨h.promising.spawn hmeets fun _ _ => rfl, fun th => ?_, h.accepts⟩
  by_cases hth : th = .app i
  · subst hth
    rw [call_app]
    exact hstraight
  · rw [call_threads_of_ne hth]
    exact h.straight th

/-- It may change the memory by itself in the same way. -/
lemma Inv.withMemory (h : l.Inv t J) {m : ReceiverMemory} (hlive : t.Live m) (hJ : J m)
    (hgrows : t.Grows l.memory m) : (l.withMemory m).Inv t J :=
  ⟨h.promising.outside ⟨hlive, hJ⟩ hgrows, h.straight, h.accepts⟩

lemma Inv.lose (h : l.Inv t J) (p : SDRPacket) : (l.lose p).Inv t J :=
  ⟨h.promising, h.straight, fun q hq => h.accepts q (List.mem_of_mem_erase hq)⟩

/-- All packets may get lost, one after the other. -/
lemma steps_loseAll {S : Type*} {R : S → S → Prop} (f : Link → S)
    (hlose : ∀ l p, R (f l) (f (l.lose p))) (l : Link) :
    Relation.ReflTransGen R (f l) (f { l with flight := [] }) := by
  obtain ⟨pool, flight, hands⟩ := l
  induction flight with
  | nil => exact .refl
  | cons p flight ih =>
    have hfirst := hlose ⟨pool, p :: flight, hands⟩ p
    simp only [lose, List.erase_cons_head] at hfirst
    exact .head hfirst ih

lemma Inv.send (h : l.Inv t J) {packets : List SDRPacket} (haccepts : ∀ p ∈ packets, t.Accepts p) :
    (l.send packets).Inv t J :=
  ⟨h.promising, h.straight, fun q hq => (List.mem_append.mp hq).elim (h.accepts q) (haccepts q)⟩

lemma Covered.send {o : ℕ} (h : Covered t l o) (packets : List SDRPacket) :
    Covered t (l.send packets) o := h.imp_right fun ⟨q, hq, hway⟩ =>
  ⟨q, hq, hway.imp_left (List.mem_append_left packets)⟩

/-- A packet that is handed to the network is on its way. -/
lemma covered_send {o : ℕ} {packets : List SDRPacket} {p : SDRPacket} (hp : p ∈ packets)
    (ho : p.header.packetOffset.toNat = o) (l : Link) : Covered t (l.send packets) o :=
  Or.inr ⟨p, ho, Or.inl (List.mem_append_right _ hp)⟩

/-- Nothing else comes with it. -/
lemma covered_send_iff {packets : List SDRPacket} {o : ℕ} : Covered t (l.send packets) o ↔
    Covered t l o ∨ ∃ p ∈ packets, p.header.packetOffset.toNat = o := by
  constructor
  · rintro (hreceived | ⟨q, hq, hmem | hway⟩)
    · exact Or.inl (Or.inl hreceived)
    · rcases List.mem_append.mp hmem with hmem | hmem
      · exact Or.inl (Or.inr ⟨q, hq, Or.inl hmem⟩)
      · exact Or.inr ⟨q, hmem, hq⟩
    · exact Or.inl (Or.inr ⟨q, hq, Or.inr hway⟩)
  · rintro (hcovered | ⟨p, hp, ho⟩)
    · exact hcovered.send packets
    · exact covered_send hp ho l

/-- Sending other packets does not help. -/
lemma not_covered_send {o : ℕ} (h : ¬ Covered t l o) {packets : List SDRPacket}
    (hother : ∀ p ∈ packets, p.header.packetOffset.toNat ≠ o) : ¬ Covered t (l.send packets) o := by
  rw [covered_send_iff]
  rintro (hcovered | ⟨p, hp, ho⟩)
  · exact h hcovered
  · exact hother p hp ho

/-! ### Runs without losses -/

/-- Any number of steps without a loss. -/
abbrev Steps (slot : ℕ) : Link → Link → Prop := Relation.ReflTransGen (Step slot)

section Runs

variable (hfits : t.Fits) (hJ : t.Stable J)
include hfits hJ

lemma Inv.steps (h : l.Inv t J) (hs : Steps t.slot l l') :
    l'.Inv t J ∧ t.Grows l.memory l'.memory := by
  induction hs with
  | refl => exact ⟨h, Std.Refl.refl _⟩
  | tail _ hstep ih =>
    obtain ⟨hinv, hgrows⟩ := ih.1.step hfits hJ hstep
    exact ⟨hinv, IsTrans.trans _ _ _ ih.2 hgrows⟩

lemma Inv.steps_covered (h : l.Inv t J) (hs : Steps t.slot l l') {o : ℕ} (ho : o < t.totalPackets)
    (hcovered : Covered t l o) : Covered t l' o := by
  induction hs with
  | refl => exact hcovered
  | tail hs hstep ih => exact ((h.steps hfits hJ hs).1).step_covered hfits hJ hstep ho ih

lemma Inv.steps_missing (h : l.Inv t J) (hs : Steps t.slot l l') {o : ℕ}
    (hmissing : ¬ Covered t l o) : ¬ Covered t l' o := by
  induction hs with
  | refl => exact hmissing
  | tail hs hstep ih => exact ((h.steps hfits hJ hs).1).step_missing hstep ih

omit hfits hJ in
/-- A thread may be run to its end, and has kept its promise then. -/
lemma Inv.steps_finish (h : l.Inv t J) (th : Thread) :
    ∃ l', Steps t.slot l l' ∧ l'.pool.threads th = .done ⟨⟩ ∧ l'.flight = l.flight ∧
      l'.hands = l.hands ∧ t.promise l.hands th l'.memory ∧
      (∀ th' ≠ th, l'.pool.threads th' = l.pool.threads th') ∧
      (l.pool.threads th).run l.memory = some (⟨⟩, l'.memory) := by
  obtain ⟨m, hrun, hmoves⟩ := Pool.moves_of_straight (h.straight th)
  refine ⟨{ l with pool := ⟨m, Function.update l.pool.threads th (.done ⟨⟩)⟩ },
    hmoves.lift (fun pool => { l with pool := pool }) fun _ _ hmove => .move hmove,
    Function.update_self _ _ _, rfl, rfl, (h.promising.delivered hrun).2,
    fun th' hne => Function.update_of_ne hne _ _, hrun⟩

/-- A covered packet can be recorded. -/
lemma Inv.steps_record (h : l.Inv t J) {o : ℕ} (ho : o < t.totalPackets)
    (hcovered : Covered t l o) : ∃ l', Steps t.slot l l' ∧ o ∈ t.received l'.memory := by
  have hhands : ∀ {l : Link} {i : ℕ} {q : SDRPacket}, l.Inv t J → l.hands i = some q →
      q.header.packetOffset.toNat = o → ∃ l', Steps t.slot l l' ∧ o ∈ t.received l'.memory := by
    intro l i q h hi hq
    obtain ⟨l', hs, -, -, -, hpromise, -⟩ := h.steps_finish (.worker i)
    exact ⟨l', hs, hq ▸ hpromise q hi (hq ▸ ho)⟩
  rcases hcovered with hreceived | ⟨q, hq, hmem | ⟨i, hi⟩⟩
  · exact ⟨l, .refl, hreceived⟩
  · obtain ⟨l₁, hs₁, hidle, hflight, -⟩ := h.steps_finish (.worker 0)
    have hreceive : Link.Step t.slot l₁ _ := .receive 0 q (hflight ▸ hmem) hidle
    obtain ⟨l', hs', hrecorded⟩ := hhands ((h.steps hfits hJ (hs₁.tail hreceive)).1)
      (receive_hands_self 0 q l₁) hq
    exact ⟨l', (hs₁.tail hreceive).trans hs', hrecorded⟩
  · exact hhands h hi hq

/-- So can all of some covered packets. -/
lemma Inv.steps_recordAll (h : l.Inv t J) {P : ℕ → Prop}
    (hcovered : ∀ o < t.totalPackets, P o → Covered t l o) :
    ∃ l', Steps t.slot l l' ∧ ∀ o < t.totalPackets, P o → o ∈ t.received l'.memory := by
  suffices hsome : ∀ n ≤ t.totalPackets, ∃ l', Steps t.slot l l' ∧
      ∀ o < n, P o → o ∈ t.received l'.memory from hsome _ le_rfl
  intro n hn
  induction n with
  | zero => exact ⟨l, .refl, fun o ho => absurd ho (Nat.not_lt_zero o)⟩
  | succ n ih =>
    obtain ⟨l₁, hs₁, hbelow⟩ := ih (by omega)
    have h₁ := (h.steps hfits hJ hs₁).1
    by_cases hP : P n
    · obtain ⟨l₂, hs₂, hn₂⟩ := h₁.steps_record hfits hJ (show n < t.totalPackets by omega)
        (h.steps_covered hfits hJ hs₁ (by omega) (hcovered n (by omega) hP))
      refine ⟨l₂, hs₁.trans hs₂, fun o ho hPo => ?_⟩
      rcases Nat.lt_succ_iff_lt_or_eq.mp ho with ho | rfl
      · exact (h₁.steps hfits hJ hs₂).2.received (hbelow o ho hPo)
      · exact hn₂
    · refine ⟨l₁, hs₁, fun o ho hPo => hbelow o ?_ hPo⟩
      exact (Nat.lt_succ_iff_lt_or_eq.mp ho).resolve_right fun heq => hP (heq ▸ hPo)

/-- The poller can set the bits of all chunks whose packets are recorded. -/
lemma Inv.steps_poll (h : l.Inv t J) :
    ∃ l', Steps t.slot l l' ∧ ∀ c < t.totalChunks, (∀ o, t.InChunk c o → o ∈ t.received l.memory) →
      c ∈ t.completed l'.memory := by
  obtain ⟨l₁, hs₁, hidle, -⟩ := h.steps_finish .poller
  have hpoll : Link.Step t.slot l₁ _ := .poll hidle
  have h₂ := (h.steps hfits hJ (hs₁.tail hpoll)).1
  obtain ⟨l', hs', -, -, -, -, -, hrun⟩ := h₂.steps_finish .poller
  refine ⟨l', (hs₁.tail hpoll).trans hs', fun c hc hall => ?_⟩
  have hgrows := (h.steps hfits hJ hs₁).2
  rw [beginRound_poller] at hrun
  refine ((BitmapPair.pollingRound_of_pass (Q := fun _ m => c ∈ t.completed m) fun m' hm' hI =>
    ?_).of_run h₂.promising.1 hrun).2
  exact BitmapPair.updateChunkBitmap_sets hfits hJ.pollable t.totalChunks 0 (by omega)
    (Nat.zero_le c) (by omega) hI fun o ho => hm'.received (hgrows.received (hall o ho))

/-- Chunks whose packets are covered can be completed. -/
lemma Inv.steps_complete (h : l.Inv t J) {C : ℕ → Prop}
    (hcovered : ∀ c, C c → ∀ o, t.InChunk c o → Covered t l o) :
    ∃ l', Steps t.slot l l' ∧ ∀ c < t.totalChunks, C c → c ∈ t.completed l'.memory := by
  obtain ⟨l₁, hs₁, hrecorded⟩ := h.steps_recordAll hfits hJ (P := fun o => ∃ c, C c ∧ t.InChunk c o)
    fun o _ ⟨c, hc, ho⟩ => hcovered c hc o ho
  obtain ⟨l₂, hs₂, hcompleted⟩ := ((h.steps hfits hJ hs₁).1).steps_poll hfits hJ
  exact ⟨l₂, hs₁.trans hs₂, fun c hc hCc => hcompleted c hc fun o ho =>
    hrecorded o ho.2.2 ⟨c, hCc, ho⟩⟩

lemma Inv.steps_resting (h : l.Inv t J) (hs : Steps t.slot l l') (hrest : l.Resting) :
    l'.Resting ∧ l'.memory.sent = l.memory.sent := by
  induction hs with
  | refl => exact ⟨hrest, rfl⟩
  | tail hs hstep ih =>
    obtain ⟨hrest', hsent⟩ := ((h.steps hfits hJ hs).1).step_resting hstep ih.1
    exact ⟨hrest', hsent.trans ih.2⟩

/-- What was covered may all arrive, and nothing else does. -/
lemma Inv.steps_settle (h : l.Inv t J) :
    ∃ l', Steps t.slot l l' ∧ (∀ o < t.totalPackets, Covered t l' o ↔ Covered t l o) ∧
      ∀ c < t.totalChunks, c ∈ t.completed l'.memory ↔ ∀ o, t.InChunk c o → Covered t l o := by
  obtain ⟨l₁, hs₁, hrecorded⟩ := h.steps_recordAll hfits hJ (P := Covered t l) fun o _ => id
  have h₁ := (h.steps hfits hJ hs₁).1
  obtain ⟨l₂, hs₂, hcompleted⟩ := h₁.steps_poll hfits hJ
  have hs := hs₁.trans hs₂
  have hsame : ∀ o < t.totalPackets, Covered t l₂ o ↔ Covered t l o := fun o ho =>
    ⟨fun hcovered => by_contra fun hmissing => h.steps_missing hfits hJ hs hmissing hcovered,
      h.steps_covered hfits hJ hs ho⟩
  refine ⟨l₂, hs, hsame, fun c hc => ⟨fun hset o ho => ?_, fun hall => ?_⟩⟩
  · have hlive := ((h₁.steps hfits hJ hs₂).1).live
    exact (hsame o ho.2.2).mp (Or.inl (hlive.chunks c hset o ho))
  · exact hcompleted c hc fun o ho => hrecorded o ho.2.2 (hall o ho)

end Runs

end Link

/-! ### After a post -/

namespace BitmapPair

/-- A message that was just posted is received into the application's buffer. -/
lemma live_of_post {m m' : ReceiverMemory} {msgId buffer length : ℕ} {generation : U32}
    {offer : ConnectionParams} {handle : SDRRecvHandle}
    (hset : SlotSetUp m msgId generation buffer length offer handle m') {t : BitmapPair}
    (hslot : t.slot = msgId) (hbuilt : t.Built m') :
    t.Live m' ∧ (m'.message t.slot).bind MessageContext.buffer = some (.user buffer) := by
  obtain ⟨msg, b, f, hmsg, hs, hactive, hbuffer, -, -, hpolling, hstop, -⟩ :=
    (Transfer.filling_of_post hset hslot hbuilt).message
  refine ⟨⟨⟨msg, b, f, hmsg, hs.generation, hactive, hs.backend, hs.frontend, hs.totalPackets,
    hs.packetsPerChunk, hs.chunks, hpolling, hstop⟩, fun c hcompleted =>
      ((hbuilt.inv Set.univ).chunks c hcompleted).2⟩, ?_⟩
  rw [hmsg, Option.bind_some, hbuffer]

/-- The number of chunks in the message context does not matter to the bitmaps. -/
lemma setTotalChunks_bits (t : BitmapPair) (m : ReceiverMemory) (n : ℕ) :
    t.received (m.mapMessage t.slot fun msg => { msg with totalChunks := n }) = t.received m ∧
      t.completed (m.mapMessage t.slot fun msg => { msg with totalChunks := n })
        = t.completed m := by
  simp only [received, completed, ReceiverMemory.packetWords, ReceiverMemory.chunkWords,
    ReceiverMemory.backendBitmap, ReceiverMemory.frontendBitmap, ReceiverMemory.message_mapMessage]
  cases m.message t.slot <;> exact ⟨rfl, rfl⟩

lemma Live.setTotalChunks {t : BitmapPair} {m : ReceiverMemory} (h : t.Live m) (n : ℕ) :
    t.Live (m.mapMessage t.slot fun msg => { msg with totalChunks := n }) := by
  obtain ⟨msg, b, f, hmsg, hs⟩ := h.message
  refine ⟨⟨{ msg with totalChunks := n }, b, f, ?_, hs.generation, hs.state, hs.backend,
    hs.frontend, hs.totalPackets, hs.packetsPerChunk, hs.chunks, hs.polling, hs.shouldStop⟩, ?_⟩
  · rw [ReceiverMemory.message_mapMessage, hmsg, Option.map_some]
  · rw [(t.setTotalChunks_bits m n).1, (t.setTotalChunks_bits m n).2]
    exact h.chunks

end BitmapPair

end SdrUdp
