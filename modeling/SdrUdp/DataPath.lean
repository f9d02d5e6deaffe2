import SdrUdp.SendPost
import SdrUdp.SrReceiver

/-!
# The data path

Workers, the frontend poller and the application share one message. The invariant ties the user
buffer to both bitmaps; every thread keeps it step by step, so it holds under any interleaving.
-/

namespace SdrUdp

open SdrUdp.Core

/-- A message on its way into the buffer of a slot: the sender's bytes and how they are cut. -/
structure Transfer where
  slot : ℕ
  buffer : ℕ
  data : List U8
  mtuBytes : ℕ
  packetsPerChunk : ℕ

namespace Transfer

variable (t : Transfer)

def totalPackets : ℕ := (t.data.length + t.mtuBytes - 1) / t.mtuBytes

def totalChunks : ℕ := (t.totalPackets + t.packetsPerChunk - 1) / t.packetsPerChunk

/-- Byte `j` of the buffer belongs to packet `o`. -/
def InPacket (o j : ℕ) : Prop := o * t.mtuBytes ≤ j ∧ j < (o + 1) * t.mtuBytes ∧ j < t.data.length

/-- Packet `o` belongs to chunk `c`. -/
def InChunk (c o : ℕ) : Prop :=
  c * t.packetsPerChunk ≤ o ∧ o < (c + 1) * t.packetsPerChunk ∧ o < t.totalPackets

/-- The sizes fit the fields of the packet header. -/
structure Fits : Prop where
  slot : t.slot < ConnectionContext.maxMessages
  mtuBytes : 0 < t.mtuBytes
  mtuBytes_le : t.mtuBytes ≤ SDRPacket.maxPayloadSize
  packetsPerChunk : 0 < t.packetsPerChunk
  packetsPerChunk_lt : t.packetsPerChunk < 2 ^ 16
  length_le : t.data.length ≤ 2 ^ 18 * t.mtuBytes

/-! ### What the memory holds -/

/-- The bytes of packet `o` lie in the user buffer. -/
def Right (m : ReceiverMemory) (o : ℕ) : Prop :=
  ∀ j, t.InPacket o j → m.buffers t.buffer j = t.data.getD j 0

/-- The packets whose bit is set. -/
def received (m : ReceiverMemory) : Set ℕ := bits (m.packetWords t.slot)

/-- The chunks whose bit is set. -/
def completed (m : ReceiverMemory) : Set ℕ := bits (m.chunkWords t.slot)

/-- The poller thread is there. -/
def polling (m : ReceiverMemory) : Bool := (m.frontendBitmap t.slot).any FrontendBitmap.polling

/-- The slot still points to the user buffer. -/
def inUse (m : ReceiverMemory) : Prop :=
  ∃ msg, m.message t.slot = some msg ∧ msg.buffer = some (.user t.buffer)

/-- What never changes about the message. -/
structure Shape (msg : MessageContext) (b : BackendBitmap) (f : FrontendBitmap) : Prop where
  backend : msg.backendBitmap = some b
  frontend : msg.frontendBitmap = some f
  state : msg.state = .active ∨ msg.state = .dead
  buffer : msg.buffer = some (.user t.buffer) ∨ msg.buffer = some .nullSink
  bufferSize : msg.bufferSize = t.data.length
  mtuBytes : msg.connectionParams.mtuBytes.toNat = t.mtuBytes
  totalChunks : msg.totalChunks = t.totalChunks
  totalPackets : b.totalPackets = t.totalPackets
  packetsPerChunk : b.packetsPerChunk = t.packetsPerChunk
  chunks : f.totalChunks = t.totalChunks

/-- The invariant. `delivered` are the packets the network ever hands over, `m₀` is the memory the
transfer started from, and `completing` says whether `sdr_recv_complete` may be called. A write to
the null sink may leave a bit without its bytes. -/
structure Inv (delivered : Set ℕ) (completing : Prop) (m₀ m : ReceiverMemory) : Prop where
  shape : ∃ msg b f, m.message t.slot = some msg ∧ t.Shape msg b f
  retired : ¬ t.inUse m → completing ∧ t.polling m = false
  unsunk : t.inUse m → m.sinkWrites = m₀.sinkWrites
  log : m₀.sinkWrites <+: m.sinkWrites
  packets : m.sinkWrites = m₀.sinkWrites → ∀ o ∈ t.received m, t.Right m o
  untouched : ∀ j, (∀ o ∈ delivered, ¬ t.InPacket o j) →
    m.buffers t.buffer j = m₀.buffers t.buffer j
  chunks : ∀ c ∈ t.completed m, ∀ o, t.InChunk c o → t.Right m o
  acks : ∃ new, m.sent = m₀.sent ++ new ∧
    ∀ msg ∈ new, msg.msgType = .completeAck → ∀ o < t.totalPackets, t.Right m o

/-- What every step of every thread respects. -/
structure Evolves (m m' : ReceiverMemory) : Prop where
  received : t.received m ⊆ t.received m'
  completed : t.completed m ⊆ t.completed m'
  right : ∀ o, t.Right m o → t.Right m' o
  inUse : t.inUse m' → t.inUse m
  polling : t.polling m = false → t.polling m' = false
  sink : m.sinkWrites <+: m'.sinkWrites

/-- What the steps of all threads but the poller respect. -/
structure Steady (m m' : ReceiverMemory) : Prop extends Evolves t m m' where
  same : t.polling m' = t.polling m

instance : Std.Refl t.Evolves :=
  ⟨fun _ => ⟨fun _ h => h, fun _ h => h, fun _ h => h, fun h => h, fun h => h, List.prefix_rfl⟩⟩

instance : Std.Refl t.Steady := ⟨fun m => ⟨Std.Refl.refl m, rfl⟩⟩

instance : IsTrans ReceiverMemory t.Evolves :=
  ⟨fun _ _ _ h h' => ⟨h.received.trans h'.received, h.completed.trans h'.completed,
    fun o ho => h'.right o (h.right o ho), fun hu => h.inUse (h'.inUse hu),
    fun hp => h'.polling (h.polling hp), h.sink.trans h'.sink⟩⟩

instance : IsTrans ReceiverMemory t.Steady :=
  ⟨fun _ _ _ h h' => ⟨IsTrans.trans _ _ _ h.toEvolves h'.toEvolves, h'.same.trans h.same⟩⟩

variable {t} {delivered : Set ℕ} {completing : Prop} {m₀ m : ReceiverMemory}

/-! ### Projections of the message -/

lemma packetWords_eq {msg : MessageContext} {b : BackendBitmap} {f : FrontendBitmap}
    (h : m.message t.slot = some msg) (hs : t.Shape msg b f) :
    m.packetWords t.slot = b.packetBitmap := by
  simp [ReceiverMemory.packetWords, ReceiverMemory.backendBitmap, h, hs.backend]

lemma chunkWords_eq {msg : MessageContext} {b : BackendBitmap} {f : FrontendBitmap}
    (h : m.message t.slot = some msg) (hs : t.Shape msg b f) :
    m.chunkWords t.slot = f.chunkBitmap := by
  simp [ReceiverMemory.chunkWords, ReceiverMemory.frontendBitmap, h, hs.frontend]

lemma polling_eq {msg : MessageContext} {b : BackendBitmap} {f : FrontendBitmap}
    (h : m.message t.slot = some msg) (hs : t.Shape msg b f) : t.polling m = f.polling := by
  simp [polling, ReceiverMemory.frontendBitmap, h, hs.frontend]

lemma inUse_iff {msg : MessageContext} (h : m.message t.slot = some msg) :
    t.inUse m ↔ msg.buffer = some (.user t.buffer) := by
  simp [inUse, h]

/-! ### Steps -/

/-- A step that changes the message in place: it may set bits of packets and chunks that are right,
stop the poller and retire a message nobody polls. -/
lemma Inv.mapMessage (h : t.Inv delivered completing m₀ m) {msg : MessageContext}
    {b : BackendBitmap} {f : FrontendBitmap} (b' : BackendBitmap) (f' : FrontendBitmap)
    (g : MessageContext → MessageContext)
    (hmsg : m.message t.slot = some msg) (hs : t.Shape msg b f) (hs' : t.Shape (g msg) b' f')
    (hbits : bits b.packetBitmap ⊆ bits b'.packetBitmap)
    (hbit : ∀ o ∈ bits b'.packetBitmap, o ∈ bits b.packetBitmap ∨ t.Right m o ∨
      m.sinkWrites ≠ m₀.sinkWrites)
    (hchunks : bits f.chunkBitmap ⊆ bits f'.chunkBitmap)
    (hchunk : ∀ c ∈ bits f'.chunkBitmap, c ∈ bits f.chunkBitmap ∨
      ∀ o, t.InChunk c o → t.Right m o)
    (huse : (g msg).buffer = some (.user t.buffer) → msg.buffer = some (.user t.buffer))
    (hpolling : f.polling = false → f'.polling = false)
    (hretired : (g msg).buffer ≠ some (.user t.buffer) → completing ∧ f'.polling = false) :
    t.Inv delivered completing m₀ (m.mapMessage t.slot g) ∧
      t.Evolves m (m.mapMessage t.slot g) ∧ t.polling (m.mapMessage t.slot g) = f'.polling := by
  have hmsg' : (m.mapMessage t.slot g).message t.slot = some (g msg) := by simp [hmsg]
  have hrec : t.received m = bits b.packetBitmap := by rw [received, packetWords_eq hmsg hs]
  have hrec' : t.received (m.mapMessage t.slot g) = bits b'.packetBitmap := by
    rw [received, packetWords_eq hmsg' hs']
  have hcomp : t.completed m = bits f.chunkBitmap := by rw [completed, chunkWords_eq hmsg hs]
  have hcomp' : t.completed (m.mapMessage t.slot g) = bits f'.chunkBitmap := by
    rw [completed, chunkWords_eq hmsg' hs']
  have huse' : t.inUse (m.mapMessage t.slot g) → t.inUse m := by
    rw [inUse_iff hmsg', inUse_iff hmsg]
    exact huse
  refine ⟨⟨⟨g msg, b', f', hmsg', hs'⟩, ?_, fun hin => h.unsunk (huse' hin), h.log, ?_,
    h.untouched, ?_, h.acks⟩, ⟨?_, ?_, fun _ ho => ho, huse', ?_, List.prefix_rfl⟩,
    polling_eq hmsg' hs'⟩
  · rw [inUse_iff hmsg', polling_eq hmsg' hs']
    exact hretired
  · intro hsink o ho
    rw [hrec'] at ho
    rcases hbit o ho with ho | ho | ho
    · exact h.packets hsink o (hrec ▸ ho)
    · exact ho
    · exact absurd hsink ho
  · intro c hc o ho
    rw [hcomp'] at hc
    rcases hchunk c hc with hc | hc
    · exact h.chunks c (hcomp ▸ hc) o ho
    · exact hc o ho
  · rw [hrec, hrec']; exact hbits
  · rw [hcomp, hcomp']; exact hchunks
  · rw [polling_eq hmsg hs, polling_eq hmsg' hs']
    exact hpolling

/-- Setting the bit of a packet whose bytes are right, or after a write to the null sink. -/
lemma Inv.setReceived (h : t.Inv delivered completing m₀ m) {o : ℕ}
    (ho : t.Right m o ∨ m.sinkWrites ≠ m₀.sinkWrites) :
    t.Inv delivered completing m₀ (m.setReceived t.slot o) ∧
      t.Steady m (m.setReceived t.slot o) := by
  obtain ⟨msg, b, f, hmsg, hs⟩ := h.shape
  have hsub : bits b.packetBitmap ⊆ bits (b.setPacketReceived o).2.packetBitmap := by
    intro i hi
    have := b.received_setPacketReceived o
    simp only [BackendBitmap.received] at this
    rw [this]
    split_ifs
    · exact Set.mem_insert_of_mem _ hi
    · exact hi
  have hnew : ∀ i ∈ bits (b.setPacketReceived o).2.packetBitmap,
      i ∈ bits b.packetBitmap ∨ i = o := by
    intro i hi
    have := b.received_setPacketReceived o
    simp only [BackendBitmap.received] at this
    rw [this] at hi
    split_ifs at hi
    · exact (Set.mem_insert_iff.mp hi).symm
    · exact Or.inl hi
  obtain ⟨hinv, hev, hpoll⟩ := h.mapMessage (b.setPacketReceived o).2 f
    (fun msg => { msg with
      backendBitmap := msg.backendBitmap.map fun b => (b.setPacketReceived o).2 }) hmsg hs
    { backend := by simp [hs.backend]
      frontend := hs.frontend
      state := hs.state
      buffer := hs.buffer
      bufferSize := hs.bufferSize
      mtuBytes := hs.mtuBytes
      totalChunks := hs.totalChunks
      totalPackets := by simp [hs.totalPackets]
      packetsPerChunk := by simp [hs.packetsPerChunk]
      chunks := hs.chunks }
    hsub (fun i hi => (hnew i hi).imp_right (by rintro rfl; exact ho)) (fun _ hc => hc)
    (fun _ hc => Or.inl hc) id id
    (fun hb => by
      rw [← polling_eq hmsg hs]
      exact h.retired (mt (inUse_iff hmsg).mp hb))
  exact ⟨hinv, hev, hpoll.trans (polling_eq hmsg hs).symm⟩

/-- A step that changes the frontend bitmap in place. -/
lemma Inv.mapFrontend (h : t.Inv delivered completing m₀ m) {g : FrontendBitmap → FrontendBitmap}
    (htotal : ∀ f, (g f).totalChunks = f.totalChunks)
    (hgrow : ∀ f, bits f.chunkBitmap ⊆ bits (g f).chunkBitmap)
    (hchunk : ∀ f, ∀ c ∈ bits (g f).chunkBitmap, c ∈ bits f.chunkBitmap ∨
      ∀ o, t.InChunk c o → t.Right m o)
    (hpolling : ∀ f, f.polling = false → (g f).polling = false) :
    t.Inv delivered completing m₀ (m.mapFrontend t.slot g) ∧
      t.Evolves m (m.mapFrontend t.slot g) ∧
      ((∀ f, (g f).polling = f.polling) → t.Steady m (m.mapFrontend t.slot g)) := by
  obtain ⟨msg, b, f, hmsg, hs⟩ := h.shape
  obtain ⟨hinv, hev, hpoll⟩ := h.mapMessage b (g f)
    (fun msg => { msg with frontendBitmap := msg.frontendBitmap.map g }) hmsg hs
    { backend := hs.backend
      frontend := by simp [hs.frontend]
      state := hs.state
      buffer := hs.buffer
      bufferSize := hs.bufferSize
      mtuBytes := hs.mtuBytes
      totalChunks := hs.totalChunks
      totalPackets := hs.totalPackets
      packetsPerChunk := hs.packetsPerChunk
      chunks := (htotal f).trans hs.chunks }
    (fun _ ho => ho) (fun _ ho => Or.inl ho) (hgrow f) (hchunk f) id (hpolling f)
    (fun hb => by
      obtain ⟨hc, hp⟩ := h.retired (mt (inUse_iff hmsg).mp hb)
      exact ⟨hc, hpolling f ((polling_eq hmsg hs).symm.trans hp)⟩)
  exact ⟨hinv, hev, fun hsame => ⟨hev, (hpoll.trans (hsame f)).trans (polling_eq hmsg hs).symm⟩⟩

/-- Setting the bit of a chunk over the right bytes. -/
lemma Inv.setChunk (h : t.Inv delivered completing m₀ m) {c : ℕ}
    (hall : ∀ o, t.InChunk c o → t.Right m o) :
    t.Inv delivered completing m₀ (m.mapFrontend t.slot fun f => f.setChunk c) ∧
      t.Steady m (m.mapFrontend t.slot fun f => f.setChunk c) := by
  have hbits : ∀ f : FrontendBitmap, bits (f.setChunk c).chunkBitmap =
      insert c (bits f.chunkBitmap) :=
    fun f => f.completed_setChunk c
  obtain ⟨hinv, -, hsteady⟩ := h.mapFrontend (g := fun f => f.setChunk c) (fun _ => rfl)
    (fun f => by rw [hbits]; exact Set.subset_insert _ _)
    (fun f i hi => by
      rw [hbits] at hi
      exact (Set.mem_insert_iff.mp hi).symm.imp_right (by rintro rfl; exact hall))
    (fun _ h => h)
  exact ⟨hinv, hsteady fun _ => rfl⟩

/-- Retiring a message whose poller is gone. -/
lemma Inv.completeMessage (hslot : t.slot < ConnectionContext.maxMessages)
    (h : t.Inv delivered completing m₀ m) (hcompleting : completing)
    (hpolling : t.polling m = false) :
    t.Inv delivered completing m₀ (m.completeMessage t.slot) ∧
      t.Steady m (m.completeMessage t.slot) := by
  rw [ReceiverMemory.completeMessage_of_lt hslot]
  obtain ⟨msg, b, f, hmsg, hs⟩ := h.shape
  rw [polling_eq hmsg hs] at hpolling
  obtain ⟨hinv, hev, hpoll⟩ := h.mapMessage b f ConnectionContext.retire hmsg hs
    { backend := hs.backend
      frontend := hs.frontend
      state := Or.inr rfl
      buffer := Or.inr rfl
      bufferSize := hs.bufferSize
      mtuBytes := hs.mtuBytes
      totalChunks := hs.totalChunks
      totalPackets := hs.totalPackets
      packetsPerChunk := hs.packetsPerChunk
      chunks := hs.chunks }
    (fun _ ho => ho) (fun _ ho => Or.inl ho) (fun _ hc => hc) (fun _ hc => Or.inl hc)
    (fun hb => by simp [ConnectionContext.retire] at hb) id (fun _ => ⟨hcompleting, hpolling⟩)
  exact ⟨hinv, hev, hpoll.trans (polling_eq hmsg hs).symm⟩

/-- A step that leaves the message alone, spoils no right byte and touches only bytes of delivered
packets. -/
lemma Inv.sameMessage (h : t.Inv delivered completing m₀ m) {m' : ReceiverMemory}
    (hmsg : m'.message t.slot = m.message t.slot) (hsink : m'.sinkWrites = m.sinkWrites)
    (hright : ∀ o, t.Right m o → t.Right m' o)
    (huntouched : ∀ j, (∀ o ∈ delivered, ¬ t.InPacket o j) →
      m'.buffers t.buffer j = m.buffers t.buffer j)
    (hsent : ∃ new, m'.sent = m.sent ++ new ∧
      ∀ msg ∈ new, msg.msgType = .completeAck → ∀ o < t.totalPackets, t.Right m' o) :
    t.Inv delivered completing m₀ m' ∧ t.Steady m m' := by
  have hback : m'.packetWords t.slot = m.packetWords t.slot := by
    simp only [ReceiverMemory.packetWords, ReceiverMemory.backendBitmap, hmsg]
  have hfront : m'.chunkWords t.slot = m.chunkWords t.slot := by
    simp only [ReceiverMemory.chunkWords, ReceiverMemory.frontendBitmap, hmsg]
  have hpoll : t.polling m' = t.polling m := by
    simp only [polling, ReceiverMemory.frontendBitmap, hmsg]
  have huse : t.inUse m' ↔ t.inUse m := by
    simp only [inUse, hmsg]
  obtain ⟨old, hold, hacks⟩ := h.acks
  obtain ⟨new, hnew, hacks'⟩ := hsent
  refine ⟨⟨?_, ?_, ?_, hsink ▸ h.log, ?_, ?_, ?_, ?_⟩,
    ⟨⟨?_, ?_, hright, huse.mp, ?_, hsink ▸ List.prefix_rfl⟩, hpoll⟩⟩
  · rw [hmsg]; exact h.shape
  · rw [huse, hpoll]; exact h.retired
  · rw [huse, hsink]; exact h.unsunk
  · simp only [received, hback, hsink]
    exact fun hsame o ho => hright o (h.packets hsame o ho)
  · exact fun j hj => (huntouched j hj).trans (h.untouched j hj)
  · simp only [completed, hfront]
    exact fun c hc o ho => hright o (h.chunks c hc o ho)
  · refine ⟨old ++ new, by rw [hnew, hold, List.append_assoc], fun msg hmem hack => ?_⟩
    rcases List.mem_append.mp hmem with hmem | hmem
    · exact fun o ho => hright o (hacks msg hmem hack o ho)
    · exact hacks' msg hmem hack
  · simp only [received, hback]; exact fun _ h => h
  · simp only [completed, hfront]; exact fun _ h => h
  · rw [hpoll]; exact id

/-- Sending a message; a COMPLETE_ACK needs the whole buffer. -/
lemma Inv.sendMessage (h : t.Inv delivered completing m₀ m) (msg : ControlMessage) (answer : ℤ)
    (hack : msg.msgType = .completeAck → ∀ o < t.totalPackets, t.Right m o) :
    t.Inv delivered completing m₀ (m.sendMessage msg answer) ∧
      t.Steady m (m.sendMessage msg answer) := by
  have hbuf := m.sendMessage_buffers msg answer
  have hright : ∀ o, t.Right m o → t.Right (m.sendMessage msg answer) o :=
    fun o ho j hj => by rw [hbuf]; exact ho j hj
  refine h.sameMessage (m.sendMessage_message msg answer t.slot)
    (m.sendMessage_sinkWrites msg answer) hright (fun j _ => by rw [hbuf]) ?_
  rcases m.sendMessage_sent msg answer with hsent | hsent
  · exact ⟨[], by rw [hsent, List.append_nil], by simp⟩
  · refine ⟨[msg], hsent, fun msg' hmem hack' o ho => hright o ?_⟩
    rw [List.mem_singleton.mp hmem] at hack'
    exact hack hack' o ho

/-! ### Bytes of packets -/

/-- Packets do not overlap. -/
lemma InPacket.eq {o o' j : ℕ} (h : t.InPacket o j) (h' : t.InPacket o' j) : o = o' := by
  obtain ⟨h1, h2, -⟩ := h
  obtain ⟨h1', h2', -⟩ := h'
  by_contra hne
  rcases Nat.lt_or_gt_of_ne hne with hlt | hlt
  · have := Nat.mul_le_mul_right t.mtuBytes (Nat.succ_le_of_lt hlt)
    simp only [Nat.succ_eq_add_one] at this
    omega
  · have := Nat.mul_le_mul_right t.mtuBytes (Nat.succ_le_of_lt hlt)
    simp only [Nat.succ_eq_add_one] at this
    omega

/-- Writing the sender's bytes of packet `o` where the receiver puts them. -/
lemma writeBytes_packet (buffer : ℕ → U8) (o j : ℕ) :
    (t.InPacket o j → writeBytes buffer (o * t.mtuBytes)
      ((packetBytes t.mtuBytes t.data o).take (t.data.length - o * t.mtuBytes)) j
        = t.data.getD j 0) ∧
    (¬ t.InPacket o j → writeBytes buffer (o * t.mtuBytes)
      ((packetBytes t.mtuBytes t.data o).take (t.data.length - o * t.mtuBytes)) j = buffer j) := by
  have hlen : ((packetBytes t.mtuBytes t.data o).take (t.data.length - o * t.mtuBytes)).length
      = min t.mtuBytes (t.data.length - o * t.mtuBytes) := by
    rw [packetBytes, List.length_take, List.length_take, List.length_drop]
    omega
  have hsucc : (o + 1) * t.mtuBytes = o * t.mtuBytes + t.mtuBytes := Nat.succ_mul _ _
  have hiff : t.InPacket o j ↔ o * t.mtuBytes ≤ j ∧ j < o * t.mtuBytes +
      ((packetBytes t.mtuBytes t.data o).take (t.data.length - o * t.mtuBytes)).length := by
    rw [InPacket, hlen]
    omega
  constructor
  · intro h
    rw [writeBytes, if_pos (hiff.mp h)]
    obtain ⟨h1, h2, h3⟩ := h
    rw [packetBytes, List.getD_eq_getElem?_getD, List.getD_eq_getElem?_getD,
      List.getElem?_take_of_lt (by omega), List.getElem?_take_of_lt (by omega), List.getElem?_drop,
      show o * t.mtuBytes + (j - o * t.mtuBytes) = j by omega]
  · intro h
    rw [writeBytes, if_neg (mt hiff.mpr h)]

/-- Writing a delivered packet makes it right and spoils nothing. -/
lemma Inv.writeBuffer (h : t.Inv delivered completing m₀ m) {o : ℕ} (ho : o ∈ delivered) :
    t.Inv delivered completing m₀ (m.writeBuffer (.user t.buffer) (o * t.mtuBytes)
        ((packetBytes t.mtuBytes t.data o).take (t.data.length - o * t.mtuBytes))) ∧
      t.Steady m (m.writeBuffer (.user t.buffer) (o * t.mtuBytes)
        ((packetBytes t.mtuBytes t.data o).take (t.data.length - o * t.mtuBytes))) ∧
      t.Right (m.writeBuffer (.user t.buffer) (o * t.mtuBytes)
        ((packetBytes t.mtuBytes t.data o).take (t.data.length - o * t.mtuBytes))) o := by
  generalize hm' : m.writeBuffer (.user t.buffer) (o * t.mtuBytes)
    ((packetBytes t.mtuBytes t.data o).take (t.data.length - o * t.mtuBytes)) = m'
  have hconn : m'.conn = m.conn := by rw [← hm']; rfl
  have hsent : m'.sent = m.sent := by rw [← hm']; rfl
  have hsink : m'.sinkWrites = m.sinkWrites := by rw [← hm']; rfl
  have hbytes : m'.buffers t.buffer = writeBytes (m.buffers t.buffer) (o * t.mtuBytes)
      ((packetBytes t.mtuBytes t.data o).take (t.data.length - o * t.mtuBytes)) := by
    rw [← hm']; simp [ReceiverMemory.writeBuffer]
  have hnew : t.Right m' o := by
    intro j hj
    rw [hbytes]
    exact (writeBytes_packet _ o j).1 hj
  have hright : ∀ i, t.Right m i → t.Right m' i := by
    intro i hi j hj
    by_cases hio : t.InPacket o j
    · rw [hj.eq hio] at hj
      exact hnew j hj
    · rw [hbytes, (writeBytes_packet _ o j).2 hio]
      exact hi j hj
  have hmessage : m'.message t.slot = m.message t.slot := by
    rw [ReceiverMemory.message, ReceiverMemory.message, hconn]
  obtain ⟨hinv, hsteady⟩ := h.sameMessage hmessage hsink hright
    (fun j hj => by rw [hbytes, (writeBytes_packet _ o j).2 (hj o ho)])
    ⟨[], by rw [hsent, List.append_nil], by simp⟩
  exact ⟨hinv, hsteady, hnew⟩

/-- A write to the null sink of a retired message. -/
lemma Inv.writeSink (h : t.Inv delivered completing m₀ m) (hretired : ¬ t.inUse m) (offset : ℕ)
    (data : List U8) :
    t.Inv delivered completing m₀ (m.writeBuffer .nullSink offset data) ∧
      t.Steady m (m.writeBuffer .nullSink offset data) ∧
      (m.writeBuffer .nullSink offset data).sinkWrites ≠ m₀.sinkWrites := by
  have hlonger : m₀.sinkWrites.length < (m.sinkWrites ++ [(offset, data)]).length := by
    have := h.log.length_le
    rw [List.length_append, List.length_singleton]
    omega
  have hne : m.sinkWrites ++ [(offset, data)] ≠ m₀.sinkWrites :=
    fun heq => absurd (congrArg List.length heq) hlonger.ne'
  exact ⟨⟨h.shape, h.retired, fun hin => absurd hin hretired,
    h.log.trans (List.prefix_append _ _), fun heq => absurd heq hne, h.untouched, h.chunks,
    h.acks⟩,
    ⟨⟨fun _ ho => ho, fun _ hc => hc, fun _ ho => ho, fun hin => hin, fun hp => hp,
      List.prefix_append _ _⟩, rfl⟩, hne⟩

/-- What has gone to the null sink stays there. -/
lemma Evolves.sunk {m' : ReceiverMemory} (hlog : m₀.sinkWrites <+: m.sinkWrites)
    (h : t.Evolves m m') (hne : m.sinkWrites ≠ m₀.sinkWrites) :
    m'.sinkWrites ≠ m₀.sinkWrites := by
  intro heq
  have hback : m.sinkWrites <+: m₀.sinkWrites := heq ▸ h.sink
  exact hne (hback.eq_of_length_le hlog.length_le)

/-! ### Threads -/

/-- `write_packet_to_buffer` leaves the packet right, or has written to the null sink. -/
lemma writePacketToBuffer_meets {R : ReceiverMemory → ReceiverMemory → Prop}
    (hR : ∀ m m', R m m' → t.Evolves m m') {o : ℕ} (ho : o ∈ delivered)
    (hlt : o * t.mtuBytes < t.data.length) (hmtu : 0 < t.mtuBytes) (m : ReceiverMemory) :
    Prog.Meets (t.Inv delivered completing m₀) R t.Steady
      (fun _ m => t.Right m o ∨ m.sinkWrites ≠ m₀.sinkWrites)
      (writePacketToBuffer t.slot o (packetBytes t.mtuBytes t.data o)) m := by
  refine Prog.Meets.load_bind fun m₁ _ hI₁ => ?_
  obtain ⟨msg, b, f, hmsg, hs⟩ := hI₁.shape
  rw [hmsg]
  have hne : t.mtuBytes ≠ 0 := by omega
  rcases hs.buffer with hbuf | hbuf
  · simp only [hbuf, hs.mtuBytes, hs.bufferSize, if_neg hne, ge_iff_le, not_le.mpr hlt, if_false]
    refine Prog.Meets.modify fun m₂ _ hI₂ => ?_
    obtain ⟨hinv, hsteady, hright⟩ := hI₂.writeBuffer ho
    exact ⟨hinv, hsteady, fun m₃ h₃ _ => Or.inl ((hR _ _ h₃).right o hright)⟩
  · -- the pointer that was read leads to the null sink
    simp only [hbuf, hs.mtuBytes, hs.bufferSize, if_neg hne, ge_iff_le, not_le.mpr hlt, if_false]
    have hnot : ¬ t.inUse m₁ := by rw [inUse_iff hmsg, hbuf]; simp
    refine Prog.Meets.modify fun m₂ h₂ hI₂ => ?_
    obtain ⟨hinv, hsteady, hne⟩ := hI₂.writeSink (mt (hR _ _ h₂).inUse hnot) (o * t.mtuBytes)
      ((packetBytes t.mtuBytes t.data o).take (t.data.length - o * t.mtuBytes))
    exact ⟨hinv, hsteady, fun m₃ h₃ _ => Or.inr ((hR _ _ h₃).sunk hinv.log hne)⟩

/-- A worker on a delivered packet of the message. -/
lemma processPacket_meets {R : ReceiverMemory → ReceiverMemory → Prop} [Std.Refl R]
    (hR : ∀ m m', R m m' → t.Evolves m m') {o : ℕ} (ho : o ∈ delivered)
    (hlt : o * t.mtuBytes < t.data.length) (hmtu : 0 < t.mtuBytes) {header : SDRPacketHeader}
    (hid : header.msgId.toNat = t.slot) (hoffset : header.packetOffset.toNat = o)
    (m : ReceiverMemory) :
    Prog.Meets (t.Inv delivered completing m₀) R t.Steady (fun _ _ => True)
      (processPacket header (packetBytes t.mtuBytes t.data o)) m := by
  have hdone : ∀ m, Prog.Meets (t.Inv delivered completing m₀) R t.Steady (fun _ _ => True)
      (pure ⟨⟩ : Prog ReceiverMemory PUnit) m :=
    fun m => Prog.Meets.pure fun _ _ _ => trivial
  unfold processPacket
  rw [hid, hoffset]
  refine Prog.Meets.load_bind fun m₁ _ _ => ?_
  split
  · exact hdone m₁
  · split_ifs
    · exact hdone m₁
    · refine Prog.Meets.load_bind fun m₂ _ _ => ?_
      split_ifs
      · exact hdone m₂
      · refine Prog.Meets.load_bind fun m₃ _ hI₃ => ?_
        split_ifs
        · exact hdone m₃
        · refine Prog.Meets.bind hI₃ (writePacketToBuffer_meets hR ho hlt hmtu m₃) ?_
          intro _ m₄ hI₄ hwritten
          refine Prog.Meets.modify fun m₅ h₅ hI₅ => ?_
          have hwritten₅ : t.Right m₅ o ∨ m₅.sinkWrites ≠ m₀.sinkWrites :=
            hwritten.imp ((hR _ _ h₅).right o) ((hR _ _ h₅).sunk hI₄.log)
          obtain ⟨hinv, hsteady⟩ := hI₅.setReceived hwritten₅
          exact ⟨hinv, hsteady, fun _ _ _ => trivial⟩

/-- While the poller is there the message is in use, so a set bit means right bytes. -/
lemma Inv.right_of_polling (h : t.Inv delivered completing m₀ m) (hpolling : t.polling m = true)
    {o : ℕ} (ho : o ∈ t.received m) : t.Right m o := by
  refine h.packets (h.unsunk ?_) o ho
  by_contra hin
  have := (h.retired hin).2
  rw [hpolling] at this
  exact Bool.noConfusion this

lemma Fits.chunk_lt (hfits : t.Fits) {c : ℕ} (hc : c < t.totalChunks) :
    c * t.packetsPerChunk < t.totalPackets := (lt_ceil_iff hfits.packetsPerChunk c).mp hc

lemma Fits.totalPackets_le (hfits : t.Fits) : t.totalPackets ≤ 2 ^ 18 := by
  have hm := hfits.mtuBytes
  have := hfits.length_le
  rw [totalPackets, ← Nat.lt_succ_iff, Nat.div_lt_iff_lt_mul hm, Nat.succ_mul]
  omega

lemma checkAndSetChunk_meets (hfits : t.Fits) {c : ℕ} (hc : c < t.totalChunks) {m : ReceiverMemory}
    (hI : t.Inv delivered completing m₀ m) (hpolling : t.polling m = true) :
    Prog.Meets (t.Inv delivered completing m₀) t.Steady t.Steady
      (fun _ m => t.polling m = true)
      (checkAndSetChunk t.slot t.totalPackets t.packetsPerChunk t.totalChunks c) m := by
  have hstay : ∀ m m', t.Steady m m' → t.polling m = true → t.polling m' = true :=
    fun m m' h hp => h.same.trans hp
  have hsize : t.totalPackets + t.packetsPerChunk < 2 ^ 32 := by
    have := hfits.totalPackets_le
    have := hfits.packetsPerChunk_lt
    omega
  unfold checkAndSetChunk
  refine Prog.Meets.bind hI (Prog.Meets.frame hstay hstay hpolling
    (FrontendBitmap.isChunkComplete_meets (fun m => m.chunkWords t.slot)
      (fun m m' h => h.completed) t.totalChunks c m)) ?_
  rintro marked m₁ hI₁ ⟨-, hpolling₁⟩
  split_ifs
  · exact Prog.Meets.pure fun m₂ h₂ _ => hstay _ _ h₂ hpolling₁
  · refine Prog.Meets.bind hI₁ (Prog.Meets.frame hstay hstay hpolling₁
      (BackendBitmap.isChunkComplete_meets (fun m => m.packetWords t.slot)
        (fun m m' h => h.received) (fun m m' h => h.received) hfits.packetsPerChunk
        (hfits.chunk_lt hc) hsize m₁)) ?_
    rintro complete m₂ _ ⟨hcomplete, hpolling₂⟩
    split_ifs with hfalse
    · exact Prog.Meets.pure fun m₃ h₃ _ => hstay _ _ h₃ hpolling₂
    · have hcomplete := hcomplete (by simpa using hfalse)
      intro m₃ h₃ hI₃
      have hpolling₃ := hstay _ _ h₃ hpolling₂
      have hchunk : ∀ o, t.InChunk c o → t.Right m₃ o := fun o ho =>
        hI₃.right_of_polling hpolling₃ (h₃.received (hcomplete o ho.1 ho.2.1 ho.2.2))
      obtain ⟨hinv, hsteady⟩ := hI₃.setChunk hchunk
      exact ⟨hinv, hsteady, fun m₄ h₄ _ => hstay _ _ h₄ (hstay _ _ hsteady hpolling₃)⟩

lemma updateChunkBitmap_meets (hfits : t.Fits) (chunks c : ℕ) (hc : c + chunks ≤ t.totalChunks)
    {m : ReceiverMemory} (hI : t.Inv delivered completing m₀ m) (hpolling : t.polling m = true) :
    Prog.Meets (t.Inv delivered completing m₀) t.Steady t.Steady (fun _ _ => True)
      (updateChunkBitmap t.slot t.totalPackets t.packetsPerChunk t.totalChunks chunks c) m := by
  induction chunks generalizing c m with
  | zero => exact Prog.Meets.pure fun _ _ _ => trivial
  | succ chunks ih =>
    refine Prog.Meets.bind hI (checkAndSetChunk_meets hfits (by omega) hI hpolling) ?_
    exact fun _ m₁ hI₁ hpolling₁ => ih (c + 1) (by omega) hI₁ hpolling₁

/-- One round of the poller. -/
lemma pollingRound_meets (hfits : t.Fits) (m : ReceiverMemory) :
    Prog.Meets (t.Inv delivered completing m₀) t.Steady t.Evolves (fun _ _ => True)
      (pollingRound t.slot) m := by
  refine Prog.Meets.load_bind fun m₁ _ hI₁ => ?_
  obtain ⟨msg, b, f, hmsg, hs⟩ := hI₁.shape
  simp only [hmsg, hs.frontend, hs.backend]
  split_ifs with hpolling hstop
  · exact Prog.Meets.pure fun _ _ _ => trivial
  · refine Prog.Meets.modify fun m₂ _ hI₂ => ?_
    obtain ⟨hinv, hev, -⟩ := hI₂.mapFrontend (g := fun f => { f with polling := false })
      (fun _ => rfl) (fun _ _ h => h) (fun _ _ hc => Or.inl hc) (fun _ _ => rfl)
    exact ⟨hinv, hev, fun _ _ _ => trivial⟩
  · rw [hs.totalPackets, hs.packetsPerChunk, hs.chunks]
    refine Prog.Meets.weaken (fun _ _ h => h.toEvolves)
      (updateChunkBitmap_meets hfits t.totalChunks 0 (by omega) hI₁ ?_)
    rw [polling_eq hmsg hs]
    simpa using hpolling

/-- When every chunk bit is set, the whole buffer is right. -/
lemma Inv.right_of_completed (hfits : t.Fits) (h : t.Inv delivered completing m₀ m)
    (hall : ∀ c < t.totalChunks, c ∈ t.completed m) : ∀ o < t.totalPackets, t.Right m o := by
  intro o ho
  have hp := hfits.packetsPerChunk
  have hdiv := Nat.div_add_mod o t.packetsPerChunk
  have hmod := Nat.mod_lt o hp
  rw [Nat.mul_comm] at hdiv
  have hchunk : t.InChunk (o / t.packetsPerChunk) o :=
    ⟨by omega, by rw [Nat.succ_mul]; omega, ho⟩
  refine h.chunks _ (hall _ ?_) o hchunk
  rw [totalChunks, Nat.lt_div_iff_mul_lt hp]
  omega

lemma Fits.totalChunks_lt (hfits : t.Fits) : t.totalChunks < 2 ^ 32 := by
  have hp := hfits.packetsPerChunk
  have := hfits.totalPackets_le
  have := hfits.packetsPerChunk_lt
  have := Nat.div_le_self (t.totalPackets + t.packetsPerChunk - 1) t.packetsPerChunk
  rw [totalChunks]
  omega

/-- A receiver that is also at work may pump. -/
lemma pumpable_inv (hfits : t.Fits) (delivered : Set ℕ) (completing : Prop) (m₀ : ReceiverMemory)
    (answer : ℤ) : Pumpable t.slot t.totalChunks answer (t.Inv delivered completing m₀) t.Evolves
      t.Steady where
  message _ h := by
    obtain ⟨msg, b, f, hmsg, hs⟩ := h.shape
    exact ⟨msg, f, hmsg, hs.frontend, hs.chunks,
      by rw [hs.totalChunks, Nat.mod_eq_of_lt hfits.totalChunks_lt]⟩
  rely _ _ h := h.completed
  guarantee _ _ h := h.completed
  clock _ _ h := h.sameMessage rfl rfl (fun _ h => h) (fun _ _ => rfl) ⟨[], by simp, by simp⟩
  send _ report h hreport := h.sendMessage report answer fun htype =>
    h.right_of_completed hfits (hreport.complete htype)

/-- What `sdr_recv_complete` takes for complete is complete. -/
lemma transferComplete_meets (hfits : t.Fits) (m : ReceiverMemory) :
    Prog.Meets (t.Inv delivered completing m₀) t.Evolves t.Steady
      (fun r m => r = true → ∀ o < t.totalPackets, t.Right m o) (transferComplete t.slot) m := by
  refine ((pumpable_inv hfits delivered completing m₀ 0).transferComplete_meets
    (fun m hI msg' hmsg' => ?_) m).mono fun _ m' hI' hall hr => ?_
  · obtain ⟨msg, b, f, hmsg, hs⟩ := hI.shape
    obtain rfl := Option.some.inj (hmsg.symm.trans hmsg')
    rcases hs.state with h | h
    · rw [h]; simp
    · rw [h]; simp
  · exact hI'.right_of_completed hfits fun c hc => hall hr c hc

/-- `sdr_recv_complete` joins the poller before it retires the message. -/
lemma sdrRecvComplete_meets (hfits : t.Fits) (hcompleting : completing) {handle : SDRRecvHandle}
    (hid : handle.msgId = t.slot) (answer : ℤ) {m : ReceiverMemory}
    (hI : t.Inv delivered completing m₀ m) :
    Prog.Meets (t.Inv delivered completing m₀) t.Evolves t.Steady (fun _ _ => True)
      (sdrRecvComplete handle answer) m := by
  have hjoin : Prog.Meets (t.Inv delivered completing m₀) t.Evolves t.Steady
      (fun _ m => t.polling m = false) (stopPolling t.slot) m := by
    refine Prog.Meets.load_bind fun m₁ _ hI₁ => ?_
    split_ifs with hnone
    · exact Prog.Meets.pure fun m₂ h₂ _ => h₂.polling hnone
    · refine Prog.Meets.modify_bind fun m₂ _ hI₂ => ?_
      obtain ⟨hinv, -, hsteady⟩ := hI₂.mapFrontend (g := fun f => { f with shouldStop := true })
        (fun _ => rfl) (fun _ _ h => h) (fun _ _ hc => Or.inl hc) (fun _ h => h)
      refine ⟨hinv, hsteady fun _ => rfl, Prog.Meets.waitUntil fun m₃ _ _ hready m₄ h₄ _ => ?_⟩
      exact h₄.polling (by simpa [polling] using hready)
  have hpolling : ∀ m m', t.Evolves m m' → t.polling m = false → t.polling m' = false :=
    fun _ _ h => h.polling
  unfold sdrRecvComplete
  rw [hid]
  refine Prog.Meets.bind hI hjoin fun _ m₁ hI₁ hgone => ?_
  refine Prog.Meets.bind hI₁ (Prog.Meets.frame hpolling (fun m m' h => h.toEvolves.polling) hgone
    (transferComplete_meets hfits m₁)) ?_
  rintro isComplete m₂ _ ⟨hwhole, hgone⟩
  refine Prog.Meets.modify_bind fun m₃ h₃ hI₃ => ?_
  obtain ⟨hinv, hsteady⟩ := hI₃.completeMessage hfits.slot hcompleting (h₃.polling hgone)
  refine ⟨hinv, hsteady, Prog.Meets.modify fun m₄ h₄ hI₄ => ?_⟩
  obtain ⟨hinv', hsteady'⟩ := hI₄.sendMessage (completionMessage
    m₄.conn.connectionCtx.connectionId isComplete) answer fun htype o ho => by
      have hcomplete : isComplete = true := by
        by_contra hfalse
        simp [completionMessage, hfalse] at htype
      exact h₄.right o (hsteady.right o (h₃.right o (hwhole hcomplete o ho)))
  exact ⟨hinv', hsteady', fun _ _ _ => trivial⟩

/-! ### The start and the whole receiver -/

/-- The transfer that a post and the parameters of its handshake make. -/
def ofPost (msgId buffer : ℕ) (data : List U8) (params : ConnectionParams) : Transfer :=
  ⟨msgId, buffer, data, params.mtuBytes.toNat, params.packetsPerChunk.toNat⟩

lemma fits_ofPost {msgId buffer : ℕ} {data : List U8} {own offer : ConnectionParams}
    (hid : msgId < ConnectionContext.maxMessages)
    (hfits : data.length ≤ 2 ^ 18 * (negotiate own offer data.length).mtuBytes.toNat) :
    (ofPost msgId buffer data (negotiate own offer data.length)).Fits where
  slot := hid
  mtuBytes := (negotiate_mtuBytes own offer data.length).1
  mtuBytes_le := (negotiate_mtuBytes own offer data.length).2
  packetsPerChunk := negotiate_packetsPerChunk own offer data.length
  packetsPerChunk_lt := (negotiate own offer data.length).packetsPerChunk.isLt
  length_le := hfits

/-- The sizes that `sdr_recv_post` computes are those of the transfer. -/
lemma Fits.calculateBitmapSizes {msgId buffer : ℕ} {data : List U8} {params : ConnectionParams}
    (hfits : (ofPost msgId buffer data params).Fits) :
    ConnectionContext.calculateBitmapSizes data.length params.mtuBytes params.packetsPerChunk
      = ((ofPost msgId buffer data params).totalPackets,
          (ofPost msgId buffer data params).totalChunks) := by
  have hm : 0 < params.mtuBytes.toNat := hfits.mtuBytes
  have hp : 0 < params.packetsPerChunk.toNat := hfits.packetsPerChunk
  have hlen : data.length ≤ 2 ^ 18 * params.mtuBytes.toNat := hfits.length_le
  have hmtu : params.mtuBytes.toNat < 2 ^ 32 := params.mtuBytes.isLt
  have hppc : params.packetsPerChunk.toNat < 2 ^ 16 := params.packetsPerChunk.isLt
  have htotal := hfits.totalPackets_le
  have hpackets : ceilDiv data.length params.mtuBytes.toNat
      = (ofPost msgId buffer data params).totalPackets := ceilDiv_eq (by omega)
  have hchunks : ceilDiv (ofPost msgId buffer data params).totalPackets
      params.packetsPerChunk.toNat = (ofPost msgId buffer data params).totalChunks :=
    ceilDiv_eq (by omega)
  rw [ConnectionContext.calculateBitmapSizes_of_pos _ hm hp, hpackets, hchunks]

/-- The memory right after the post. -/
lemma inv_of_post {m m₀ : ReceiverMemory} {msgId buffer : ℕ} {generation : U32} {data : List U8}
    {offer : ConnectionParams} {handle : SDRRecvHandle}
    (hset : SlotSetUp m msgId generation buffer data.length offer handle m₀)
    (hfits : (ofPost msgId buffer data
      (negotiate m.conn.connectionCtx.params offer data.length)).Fits)
    (delivered : Set ℕ) (completing : Prop) :
    (ofPost msgId buffer data (negotiate m.conn.connectionCtx.params offer data.length)).Inv
      delivered completing m₀ m₀ := by
  generalize hparams : negotiate m.conn.connectionCtx.params offer data.length = params at hfits
  obtain ⟨msg, htable, -, hstate⟩ := hset.table
  rw [hparams] at htable
  have hmsg : m₀.message msgId
      = some (initMessage msg buffer data.length (params.withTransferId generation)) := by
    rw [ReceiverMemory.message, htable, Function.update_self]
  have hsizes : ConnectionContext.calculateBitmapSizes data.length
      (params.withTransferId generation).mtuBytes (params.withTransferId generation).packetsPerChunk
      = ((ofPost msgId buffer data params).totalPackets,
          (ofPost msgId buffer data params).totalChunks) := hfits.calculateBitmapSizes
  have htotal := hfits.totalPackets_le
  have hchunks := hfits.totalChunks_lt
  have hshape : (ofPost msgId buffer data params).Shape
      (initMessage msg buffer data.length (params.withTransferId generation))
      (BackendBitmap.create (ofPost msgId buffer data params).totalPackets
        params.packetsPerChunk.toNat)
      (FrontendBitmap.create (BackendBitmap.create
        (ofPost msgId buffer data params).totalPackets params.packetsPerChunk.toNat)
        (ofPost msgId buffer data params).totalChunks).startPolling := by
    have hmod : (ofPost msgId buffer data params).totalPackets % 2 ^ 32
        = (ofPost msgId buffer data params).totalPackets := Nat.mod_eq_of_lt (by omega)
    exact
      { backend := by simp only [initMessage, hsizes, hmod]; rfl
        frontend := by simp only [initMessage, hsizes, hmod, Nat.mod_eq_of_lt hchunks]; rfl
        state := Or.inl hstate
        buffer := Or.inl rfl
        bufferSize := rfl
        mtuBytes := rfl
        totalChunks := by simp only [initMessage, hsizes]
        totalPackets := rfl
        packetsPerChunk := rfl
        chunks := rfl }
  have hempty : (ofPost msgId buffer data params).received m₀ = ∅ := by
    rw [received, packetWords_eq hmsg hshape]
    exact bits_zero
  have hnone : (ofPost msgId buffer data params).completed m₀ = ∅ := by
    rw [completed, chunkWords_eq hmsg hshape]
    exact bits_zero
  refine ⟨⟨_, _, _, hmsg, hshape⟩, fun hnot => absurd ((inUse_iff hmsg).mpr rfl) hnot,
    fun _ => rfl, List.prefix_rfl, ?_, fun _ _ => rfl, ?_, ⟨[], by simp, by simp⟩⟩
  · rw [hempty]
    exact fun _ _ ho => absurd ho (Set.notMem_empty _)
  · rw [hnone]
    exact fun c hc => absurd hc (Set.notMem_empty _)

end Transfer

/-- What the threads may run during a transfer: workers get any delivered packet any number of times
and in any order, the poller polls, the application calls `pump` and, when `completing`,
`sdr_recv_complete`. -/
inductive ReceiverProgram (t : Transfer) (transferId : U32) (packetsPerChunk : U16)
    (delivered : Set ℕ) (handle : SDRRecvHandle) (completing : Prop) :
    Thread → Prog ReceiverMemory PUnit → Prop
  | worker (i o : ℕ) (p : SDRPacket) (hdelivered : o ∈ delivered) (ho : o < t.totalPackets)
      (hp : dataPacket transferId handle.msgId packetsPerChunk t.mtuBytes t.data o = some p) :
      ReceiverProgram t transferId packetsPerChunk delivered handle completing (.worker i)
        (receiveDatagram p.datagram)
  | poll : ReceiverProgram t transferId packetsPerChunk delivered handle completing .poller
        (pollingRound handle.msgId)
  | pump (i : ℕ) (cfg : SRConfig) (now : ℕ) (answer : ℤ) :
      ReceiverProgram t transferId packetsPerChunk delivered handle completing (.app i)
        (do let _ ← pump cfg handle now answer; pure ⟨⟩)
  | complete (i : ℕ) (answer : ℤ) (h : completing) :
      ReceiverProgram t transferId packetsPerChunk delivered handle completing (.app i)
        (sdrRecvComplete handle answer)

namespace Transfer

variable {t : Transfer} {delivered : Set ℕ} {completing : Prop} {m₀ : ReceiverMemory}

/-- What a thread relies on. -/
def rely (t : Transfer) : Thread → ReceiverMemory → ReceiverMemory → Prop
  | .poller => t.Steady
  | _       => t.Evolves

/-- What a thread guarantees. -/
def guarantee (t : Transfer) : Thread → ReceiverMemory → ReceiverMemory → Prop
  | .poller => t.Evolves
  | _       => t.Steady

instance (th : Thread) : Std.Refl (t.rely th) := by cases th <;> (unfold rely; infer_instance)

instance (th : Thread) : IsTrans ReceiverMemory (t.rely th) := by
  cases th <;> (unfold rely; infer_instance)

lemma rely_of_guarantee {th th' : Thread} (hne : th ≠ th') {m m' : ReceiverMemory}
    (h : t.guarantee th m m') : t.rely th' m m' := by
  cases th' with
  | poller =>
    cases th with
    | poller => exact absurd rfl hne
    | worker i => exact h
    | app i => exact h
  | worker i =>
    cases th with
    | poller => exact h
    | worker j => exact h.toEvolves
    | app j => exact h.toEvolves
  | app i =>
    cases th with
    | poller => exact h
    | worker j => exact h.toEvolves
    | app j => exact h.toEvolves

lemma offset_lt {o : ℕ} (hm : 0 < t.mtuBytes) (h : o < t.totalPackets) :
    o * t.mtuBytes < t.data.length := by
  have hmul := (Nat.le_div_iff_mul_le hm).mp (Nat.succ_le_of_lt h)
  rw [Nat.succ_mul] at hmul
  omega

/-- Every program keeps the invariant. -/
lemma program_meets (hfits : t.Fits) {transferId : U32} {packetsPerChunk : U16}
    {handle : SDRRecvHandle} (hid : handle.msgId = t.slot) {th : Thread}
    {p : Prog ReceiverMemory PUnit} {m : ReceiverMemory}
    (hp : ReceiverProgram t transferId packetsPerChunk delivered handle completing th p)
    (hI : t.Inv delivered completing m₀ m) :
    Prog.Meets (t.Inv delivered completing m₀) (t.rely th) (t.guarantee th) (fun _ _ => True)
      p m := by
  cases hp with
  | worker i o packet hdelivered ho hpacket =>
    obtain ⟨packet', hpacket', hmsgId, -, hoffset, hpayload, hparse⟩ :=
      dataPacket_spec transferId handle.msgId packetsPerChunk hfits.mtuBytes_le t.data o
    obtain rfl := Option.some.inj (hpacket.symm.trans hpacket')
    unfold receiveDatagram
    simp only [hparse, hpayload]
    have hslot := hfits.slot
    have hle := hfits.totalPackets_le
    refine processPacket_meets (R := t.Evolves) (fun _ _ h => h) hdelivered
      (offset_lt hfits.mtuBytes ho) hfits.mtuBytes ?_ ?_ m
    · rw [hmsgId, hid, BitVec.toNat_ofNat]
      exact Nat.mod_eq_of_lt hslot
    · rw [hoffset, BitVec.toNat_ofNat]
      exact Nat.mod_eq_of_lt (by omega)
  | poll => exact hid ▸ pollingRound_meets hfits m
  | pump i cfg now answer =>
    exact Prog.Meets.bind hI ((pumpable_inv hfits delivered completing m₀ answer).pump_meets
      hfits.totalChunks_lt cfg handle hid now m) fun _ _ _ _ =>
      Prog.Meets.pure fun _ _ _ => trivial
  | complete i answer h => exact sdrRecvComplete_meets hfits h hid answer hI

/-- The invariant holds in every reachable memory. -/
lemma reachable_inv (hfits : t.Fits) {transferId : U32} {packetsPerChunk : U16}
    {handle : SDRRecvHandle} (hid : handle.msgId = t.slot)
    (hstart : t.Inv delivered completing m₀ m₀) {s : Pool Thread ReceiverMemory}
    (hs : Pool.Reachable
      (ReceiverProgram t transferId packetsPerChunk delivered handle completing) m₀ s) :
    t.Inv delivered completing m₀ s.memory :=
  (Pool.reachable_meets (I := t.Inv delivered completing m₀) (R := t.rely) (G := t.guarantee)
    (fun _ _ _ _ hne _ _ => rely_of_guarantee hne) (fun _ _ _ hp => program_meets hfits hid hp)
    hstart hs).1

/-- What a transfer achieves in a memory reached from `m₀`, apart from the packet bits: bytes of
packets never delivered are untouched, chunk bits are set over right bytes only, and a COMPLETE_ACK
is sent over the whole message only. -/
structure Sound (t : Transfer) (delivered : Set ℕ) (m₀ m : ReceiverMemory) : Prop where
  untouched : ∀ j, (∀ o ∈ delivered, ¬ t.InPacket o j) →
    m.buffers t.buffer j = m₀.buffers t.buffer j
  chunks : ∀ c ∈ t.completed m, ∀ o, t.InChunk c o → t.Right m o
  complete : ∃ new, m.sent = m₀.sent ++ new ∧ ((∃ msg ∈ new, msg.msgType = .completeAck) →
    ∀ j < t.data.length, m.buffers t.buffer j = t.data.getD j 0)

lemma Inv.sound (hfits : t.Fits) {m : ReceiverMemory} (h : t.Inv delivered completing m₀ m) :
    t.Sound delivered m₀ m := by
  obtain ⟨new, hnew, hacks⟩ := h.acks
  refine ⟨h.untouched, h.chunks, new, hnew, ?_⟩
  rintro ⟨msg, hmem, hack⟩ j hj
  have hm := hfits.mtuBytes
  have hdiv := Nat.div_add_mod j t.mtuBytes
  have hmod := Nat.mod_lt j hm
  rw [Nat.mul_comm] at hdiv
  refine hacks msg hmem hack (j / t.mtuBytes) ?_ j ⟨by omega, by rw [Nat.succ_mul]; omega, hj⟩
  rw [totalPackets, Nat.lt_div_iff_mul_lt hm]
  omega

/-- The invariant of a transfer whose message has the posted length, however long its threads have
run. -/
lemma reachable_post {m m₀ : ReceiverMemory} {msgId buffer : ℕ} {generation transferId : U32}
    {data : List U8} {offer : ConnectionParams} {opened : Bool} {answer : ℤ}
    {handle : SDRRecvHandle} {cts : Option ControlMessage}
    (hpost : recvPostOnOffer m msgId generation buffer data.length offer opened answer
      = (.ready handle cts, m₀))
    (hfits : data.length
      ≤ 2 ^ 18 * (negotiate m.conn.connectionCtx.params offer data.length).mtuBytes.toNat)
    {s : Pool Thread ReceiverMemory} :
    let t := ofPost msgId buffer data (negotiate m.conn.connectionCtx.params offer data.length)
    Pool.Reachable (ReceiverProgram t transferId
        (negotiate m.conn.connectionCtx.params offer data.length).packetsPerChunk delivered handle
        completing) m₀ s →
      t.Fits ∧ t.Inv delivered completing m₀ s.memory := by
  intro t hs
  have hspec := recvPostOnOffer_spec m msgId generation buffer data.length offer opened answer
  rw [hpost] at hspec
  have hset := hspec.setUp handle rfl
  have hF : t.Fits := fits_ofPost hset.lt hfits
  have hid : handle.msgId = t.slot := by rw [hset.handle]; rfl
  exact ⟨hF, reachable_inv hF hid (inv_of_post hset hF delivered completing) hs⟩

end Transfer

/-- The data path. After a post, whatever packets of a message of the posted length are delivered,
however often and in whatever order, however the workers, the poller and the application interleave:
every packet whose bit is set has the sender's bytes, and the transfer is `Sound`. When
`sdr_recv_complete` is called as well, this holds as long as no worker has written to the null sink,
which needs the message to be retired between the worker's look at its state and its `memcpy`. -/
theorem dataPath_correct {m m₀ : ReceiverMemory} {msgId buffer : ℕ} {generation : U32}
    {data : List U8} {offer : ConnectionParams} {opened : Bool} {answer : ℤ}
    {handle : SDRRecvHandle} {cts : Option ControlMessage}
    (hpost : recvPostOnOffer m msgId generation buffer data.length offer opened answer
      = (.ready handle cts, m₀))
    (hfits : data.length
      ≤ 2 ^ 18 * (negotiate m.conn.connectionCtx.params offer data.length).mtuBytes.toNat)
    (transferId : U32) (delivered : Set ℕ) :
    let params := negotiate m.conn.connectionCtx.params offer data.length
    let t := Transfer.ofPost msgId buffer data params
    (∀ s, Pool.Reachable
        (ReceiverProgram t transferId params.packetsPerChunk delivered handle False) m₀ s →
      (∀ o ∈ t.received s.memory, t.Right s.memory o) ∧ t.Sound delivered m₀ s.memory) ∧
    (∀ s, Pool.Reachable
        (ReceiverProgram t transferId params.packetsPerChunk delivered handle True) m₀ s →
      (t.inUse s.memory → s.memory.sinkWrites = m₀.sinkWrites) ∧
      (s.memory.sinkWrites = m₀.sinkWrites →
        (∀ o ∈ t.received s.memory, t.Right s.memory o) ∧ t.Sound delivered m₀ s.memory)) := by
  intro params t
  refine ⟨fun s hs => ?_, fun s hs => ?_⟩
  · obtain ⟨hF, hI⟩ := Transfer.reachable_post hpost hfits hs
    refine ⟨hI.packets (hI.unsunk ?_), hI.sound hF⟩
    by_contra hnot
    exact (hI.retired hnot).1
  · obtain ⟨hF, hI⟩ := Transfer.reachable_post hpost hfits hs
    exact ⟨hI.unsunk, fun hsink => ⟨hI.packets hsink, hI.sound hF⟩⟩

/-- A message of 5 bytes, posted on a fresh connection with packets of 2 bytes and chunks of 2
packets. -/
def samplePostMemory : ReceiverMemory where
  conn :=
    { connectionCtx := ConnectionContext.fresh.initializeContext 1
        { ConnectionParams.zero with mtuBytes := 2, packetsPerChunk := 2 }
      udpReceiver := none
      parentCtx := 0
      tcpServer := some ⟨5⟩
      tcpClient := none
      isReceiver := true }
  buffers _ _ := 0
  sent := []
  lastCtrl := none

def sampleData : List U8 := [1, 2, 3, 4, 5]

/-- The sample post gets as far as its CTS. -/
lemma samplePost_ready : (recvPostOnOffer samplePostMemory 0 1 0 sampleData.length
    (desiredParams .zero 5) true 288).1 = .ready ⟨0, 1, 0, 5⟩ (some (ctsMessage 1 ((negotiate
      samplePostMemory.conn.connectionCtx.params (desiredParams .zero 5)
        sampleData.length).withTransferId 1))) := by
  decide +kernel

/-- The memory after the sample post. -/
def samplePosted : ReceiverMemory :=
  (recvPostOnOffer samplePostMemory 0 1 0 sampleData.length (desiredParams .zero 5) true 288).2

/-- Its message. -/
def sampleTransfer : Transfer := ⟨0, 0, sampleData, 2, 2⟩

/-- The sample post succeeds, so the data path is correct for it. -/
theorem dataPath_correct_sample :
    (∀ s, Pool.Reachable
        (ReceiverProgram sampleTransfer 1 2 {0, 2} ⟨0, 1, 0, 5⟩ False) samplePosted s →
      (∀ o ∈ sampleTransfer.received s.memory, sampleTransfer.Right s.memory o) ∧
        sampleTransfer.Sound {0, 2} samplePosted s.memory) ∧
    ∀ s, Pool.Reachable
        (ReceiverProgram sampleTransfer 1 2 {0, 2} ⟨0, 1, 0, 5⟩ True) samplePosted s →
      (sampleTransfer.inUse s.memory → s.memory.sinkWrites = []) ∧
      (s.memory.sinkWrites = [] →
        (∀ o ∈ sampleTransfer.received s.memory, sampleTransfer.Right s.memory o) ∧
          sampleTransfer.Sound {0, 2} samplePosted s.memory) := by
  have hlen : sampleData.length ≤ 2 ^ 18 * (negotiate samplePostMemory.conn.connectionCtx.params
      (desiredParams .zero 5) sampleData.length).mtuBytes.toNat := by
    decide +kernel
  have hchunk : (negotiate samplePostMemory.conn.connectionCtx.params (desiredParams .zero 5)
      sampleData.length).packetsPerChunk = 2 := by decide +kernel
  have htransfer : Transfer.ofPost 0 0 sampleData (negotiate
      samplePostMemory.conn.connectionCtx.params (desiredParams .zero 5) sampleData.length)
      = sampleTransfer := by
    rw [Transfer.ofPost, hchunk]
    rfl
  have hsink : samplePosted.sinkWrites = [] := by decide +kernel
  have hpost : recvPostOnOffer samplePostMemory 0 1 0 sampleData.length (desiredParams .zero 5)
      true 288 = (_, samplePosted) := Prod.ext samplePost_ready (by rw [samplePosted])
  have hcorrect := dataPath_correct hpost hlen 1 {0, 2}
  dsimp only at hcorrect
  rwa [htransfer, hchunk, hsink] at hcorrect

/-- Packet 1 of the sample message. -/
def samplePacket : SDRPacket :=
  (dataPacket 1 0 2 2 sampleData 1).get (by decide +kernel)

/-- A worker that holds packet 1 gets past all checks. Before it reads the buffer pointer, the
application completes the message. -/
def lateWorker : List (Thread × Option (Prog ReceiverMemory PUnit)) :=
  (.worker 0, some (receiveDatagram samplePacket.datagram)) :: List.replicate 3 (.worker 0, none)
    ++ (.app 0, some (sdrRecvComplete ⟨0, 1, 0, 5⟩ 288)) :: List.replicate 2 (.app 0, none)
    ++ (.poller, some (pollingRound 0)) :: List.replicate 2 (.poller, none)
    ++ List.replicate 9 (.app 0, none) ++ List.replicate 3 (.worker 0, none)

/-- So bytes 2 and 3 never get to the buffer, and the bit of their packet is set. -/
theorem not_dataPath_completed : ¬ ∀ s, Pool.Reachable
    (ReceiverProgram sampleTransfer 1 2 {1} ⟨0, 1, 0, 5⟩ True) samplePosted s →
      ∀ o ∈ sampleTransfer.received s.memory, sampleTransfer.Right s.memory o := by
  intro hright
  have hpacket : dataPacket 1 0 2 2 sampleData 1 = some samplePacket := by
    rw [samplePacket, Option.some_get]
  have hallowed : ∀ th p, (th, some p) ∈ lateWorker →
      ReceiverProgram sampleTransfer 1 2 {1} ⟨0, 1, 0, 5⟩ True th p := by
    intro th p hp
    simp only [lateWorker, List.cons_append, List.append_assoc, List.mem_append, List.mem_cons,
      List.mem_replicate, Prod.mk.injEq, Option.some.injEq, reduceCtorEq, and_false, or_false,
      false_or] at hp
    rcases hp with ⟨rfl, rfl⟩ | ⟨rfl, rfl⟩ | ⟨rfl, rfl⟩
    · exact .worker 0 1 samplePacket rfl (by decide) hpacket
    · exact .complete 0 288 trivial
    · exact .poll
  have hreached := Pool.steps_play hallowed (.start samplePosted)
  have hbit : 1 ∈ sampleTransfer.received (Pool.play lateWorker (.start samplePosted)).memory := by
    rw [Transfer.received, mem_bits]
    decide +kernel
  have hbyte := hright _ hreached 1 hbit 2 ⟨by decide, by decide, by decide⟩
  exact absurd hbyte (by decide +kernel)

end SdrUdp
