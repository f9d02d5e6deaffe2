import SdrUdp.RecvPost
import SdrUdp.SrReceiver
import SdrUdp.WordBounds

/-!
# The two bitmaps of a message

Workers set bits of the packet bitmap while the poller reads it word by word and sets bits of the
chunk bitmap. Whatever the interleaving, a chunk bit stands for packet bits, and a pass of the
poller misses no chunk that was complete when it began.
-/

namespace SdrUdp

open SdrUdp.Core

lemma FrontendBitmap.Confined.startPolling {f : FrontendBitmap} (h : f.Confined) :
    f.startPolling.Confined := by
  unfold FrontendBitmap.startPolling
  split_ifs
  · exact h
  · exact ⟨h.chunks, h.overrun⟩

/-- The bitmaps of the message in a slot: its generation and the sizes of the bitmaps. -/
structure BitmapPair where
  slot : ℕ
  generation : U32
  totalPackets : ℕ
  packetsPerChunk : ℕ

namespace BitmapPair

variable (t : BitmapPair)

def totalChunks : ℕ := (t.totalPackets + t.packetsPerChunk - 1) / t.packetsPerChunk

/-- Packet `o` belongs to chunk `c`. -/
def InChunk (c o : ℕ) : Prop :=
  c * t.packetsPerChunk ≤ o ∧ o < (c + 1) * t.packetsPerChunk ∧ o < t.totalPackets

/-- The sums of the checks stay within 32 bits. -/
structure Fits : Prop where
  slot : t.slot < ConnectionContext.maxMessages
  totalPackets : 0 < t.totalPackets
  packetsPerChunk : 0 < t.packetsPerChunk
  size : t.totalPackets + t.packetsPerChunk < 2 ^ 32

/-- The packets whose bit is set. -/
def received (m : ReceiverMemory) : Set ℕ := bits (m.packetWords t.slot)

/-- The chunks whose bit is set. -/
def completed (m : ReceiverMemory) : Set ℕ := bits (m.chunkWords t.slot)

/-- The number of words does not wrap around 32 bits. -/
def Roomy : Prop := t.totalPackets + 63 < 2 ^ 32

/-- What never changes about the message. -/
structure Shape (msg : MessageContext) (b : BackendBitmap) (f : FrontendBitmap) : Prop where
  generation : msg.generation = t.generation
  state : msg.state = .active ∨ msg.state = .dead
  chunkCount : msg.totalChunks = t.totalChunks
  backend : msg.backendBitmap = some b
  frontend : msg.frontendBitmap = some f
  totalPackets : b.totalPackets = t.totalPackets
  packetsPerChunk : b.packetsPerChunk = t.packetsPerChunk
  chunks : f.totalChunks = t.totalChunks
  packetsConfined : t.Roomy → b.Confined
  chunksConfined : t.Roomy → f.Confined

/-- The invariant. `delivered` are the packets that workers accept, and `m₀` is the memory that the
transfer started from. -/
structure Inv (delivered : Set ℕ) (m₀ m : ReceiverMemory) : Prop where
  shape : ∃ msg b f, m.message t.slot = some msg ∧ t.Shape msg b f
  packets : ∀ o ∈ t.received m, o ∈ delivered ∧ o < t.totalPackets
  chunks : ∀ c ∈ t.completed m, c < t.totalChunks ∧ ∀ o, t.InChunk c o → o ∈ t.received m
  acks : ∃ new, m.sent = m₀.sent ++ new ∧
    ∀ msg ∈ new, msg.msgType = .completeAck → ∀ o < t.totalPackets, o ∈ t.received m

/-- Bits are never cleared. -/
structure Grows (m m' : ReceiverMemory) : Prop where
  received : t.received m ⊆ t.received m'
  completed : t.completed m ⊆ t.completed m'

instance : Std.Refl t.Grows := ⟨fun _ => ⟨fun _ h => h, fun _ h => h⟩⟩

instance : IsTrans ReceiverMemory t.Grows :=
  ⟨fun _ _ _ h h' => ⟨h.received.trans h'.received, h.completed.trans h'.completed⟩⟩

variable {t} {delivered : Set ℕ} {m₀ m m' : ReceiverMemory}

lemma packetWords_eq {msg : MessageContext} {b : BackendBitmap} {f : FrontendBitmap}
    (h : m.message t.slot = some msg) (hs : t.Shape msg b f) :
    m.packetWords t.slot = b.packetBitmap := by
  simp [ReceiverMemory.packetWords, ReceiverMemory.backendBitmap, h, hs.backend]

lemma chunkWords_eq {msg : MessageContext} {b : BackendBitmap} {f : FrontendBitmap}
    (h : m.message t.slot = some msg) (hs : t.Shape msg b f) :
    m.chunkWords t.slot = f.chunkBitmap := by
  simp [ReceiverMemory.chunkWords, ReceiverMemory.frontendBitmap, h, hs.frontend]

lemma received_congr (h : m'.message t.slot = m.message t.slot) : t.received m' = t.received m := by
  simp only [received, ReceiverMemory.packetWords, ReceiverMemory.backendBitmap, h]

lemma completed_congr (h : m'.message t.slot = m.message t.slot) :
    t.completed m' = t.completed m := by
  simp only [completed, ReceiverMemory.chunkWords, ReceiverMemory.frontendBitmap, h]

lemma grows_of_message (h : m'.message t.slot = m.message t.slot) : t.Grows m m' :=
  ⟨(received_congr h).ge, (completed_congr h).ge⟩

lemma received_of_message {msg : MessageContext} {b : BackendBitmap}
    (h : m.message t.slot = some msg) (hb : msg.backendBitmap = some b) :
    t.received m = bits b.packetBitmap := by
  simp [received, ReceiverMemory.packetWords, ReceiverMemory.backendBitmap, h, hb]

lemma completed_of_message {msg : MessageContext} {f : FrontendBitmap}
    (h : m.message t.slot = some msg) (hf : msg.frontendBitmap = some f) :
    t.completed m = bits f.chunkBitmap := by
  simp [completed, ReceiverMemory.chunkWords, ReceiverMemory.frontendBitmap, h, hf]

/-! ### Sizes -/

lemma Fits.chunk_lt (hfits : t.Fits) {c : ℕ} (hc : c < t.totalChunks) :
    c * t.packetsPerChunk < t.totalPackets := (lt_ceil_iff hfits.packetsPerChunk c).mp hc

lemma Fits.totalChunks_lt (hfits : t.Fits) : t.totalChunks < 2 ^ 32 := by
  have := hfits.size
  have := Nat.div_le_self (t.totalPackets + t.packetsPerChunk - 1) t.packetsPerChunk
  rw [totalChunks]
  omega

/-- There are no more chunks than packets. -/
lemma Fits.totalChunks_le (hfits : t.Fits) : t.totalChunks ≤ t.totalPackets := by
  by_contra hmore
  have hlt := hfits.chunk_lt (not_le.mp hmore)
  have hle := Nat.le_mul_of_pos_right t.totalPackets hfits.packetsPerChunk
  omega

/-- Every packet belongs to a chunk. -/
lemma Fits.inChunk (hfits : t.Fits) {o : ℕ} (ho : o < t.totalPackets) :
    o / t.packetsPerChunk < t.totalChunks ∧ t.InChunk (o / t.packetsPerChunk) o := by
  have hp := hfits.packetsPerChunk
  have hdiv := Nat.div_add_mod o t.packetsPerChunk
  have hmod := Nat.mod_lt o hp
  rw [Nat.mul_comm] at hdiv
  refine ⟨?_, by omega, by rw [Nat.succ_mul]; omega, ho⟩
  rw [totalChunks, Nat.lt_div_iff_mul_lt hp]
  omega

lemma Inv.received_of_completed (hfits : t.Fits) (h : t.Inv delivered m₀ m)
    (hall : ∀ c < t.totalChunks, c ∈ t.completed m) : ∀ o < t.totalPackets, o ∈ t.received m :=
  fun _ ho => (h.chunks _ (hall _ (hfits.inChunk ho).1)).2 _ (hfits.inChunk ho).2

/-! ### Steps -/

/-- A step that leaves the message alone; a COMPLETE_ACK needs all packets. -/
lemma Inv.sameMessage (h : t.Inv delivered m₀ m)
    (hmsg : m'.message t.slot = m.message t.slot)
    (hsent : ∃ new, m'.sent = m.sent ++ new ∧
      ∀ msg ∈ new, msg.msgType = .completeAck → ∀ o < t.totalPackets, o ∈ t.received m) :
    t.Inv delivered m₀ m' ∧ t.Grows m m' := by
  have hback := received_congr hmsg
  have hfront := completed_congr hmsg
  obtain ⟨old, hold, hacks⟩ := h.acks
  obtain ⟨new, hnew, hacks'⟩ := hsent
  refine ⟨⟨by rw [hmsg]; exact h.shape, by rw [hback]; exact h.packets,
    by rw [hback, hfront]; exact h.chunks, old ++ new, by rw [hnew, hold, List.append_assoc], ?_⟩,
    hback.ge, hfront.ge⟩
  rw [hback]
  intro msg hmem
  exact (List.mem_append.mp hmem).elim (hacks msg) (hacks' msg)

/-- A step that changes the message in place: it may set the bits of accepted packets, and of chunks
all of whose packets are there. -/
lemma Inv.mapMessage (h : t.Inv delivered m₀ m) {msg : MessageContext} {b : BackendBitmap}
    {f : FrontendBitmap} (b' : BackendBitmap) (f' : FrontendBitmap)
    (g : MessageContext → MessageContext) (hmsg : m.message t.slot = some msg)
    (hs : t.Shape msg b f) (hs' : t.Shape (g msg) b' f')
    (hbits : bits b.packetBitmap ⊆ bits b'.packetBitmap)
    (hbit : ∀ o ∈ bits b'.packetBitmap, o ∈ bits b.packetBitmap ∨
      (o ∈ delivered ∧ o < t.totalPackets))
    (hchunks : bits f.chunkBitmap ⊆ bits f'.chunkBitmap)
    (hchunk : ∀ c ∈ bits f'.chunkBitmap, c ∈ bits f.chunkBitmap ∨
      (c < t.totalChunks ∧ ∀ o, t.InChunk c o → o ∈ t.received m)) :
    t.Inv delivered m₀ (m.mapMessage t.slot g) ∧ t.Grows m (m.mapMessage t.slot g) := by
  have hmsg' : (m.mapMessage t.slot g).message t.slot = some (g msg) := by simp [hmsg]
  have hrec : t.received m = bits b.packetBitmap := received_of_message hmsg hs.backend
  have hrec' : t.received (m.mapMessage t.slot g) = bits b'.packetBitmap :=
    received_of_message hmsg' hs'.backend
  have hcomp : t.completed m = bits f.chunkBitmap := completed_of_message hmsg hs.frontend
  have hcomp' : t.completed (m.mapMessage t.slot g) = bits f'.chunkBitmap :=
    completed_of_message hmsg' hs'.frontend
  have hgrow : t.received m ⊆ t.received (m.mapMessage t.slot g) := by rw [hrec, hrec']; exact hbits
  refine ⟨⟨⟨g msg, b', f', hmsg', hs'⟩, fun o ho => ?_, fun c hc => ?_, ?_⟩, hgrow,
    by rw [hcomp, hcomp']; exact hchunks⟩
  · rw [hrec'] at ho
    rcases hbit o ho with ho | ho
    · exact h.packets o (hrec ▸ ho)
    · exact ho
  · rw [hcomp'] at hc
    rcases hchunk c hc with hc | hc
    · obtain ⟨hlt, hall⟩ := h.chunks c (hcomp ▸ hc)
      exact ⟨hlt, fun o ho => hgrow (hall o ho)⟩
    · exact ⟨hc.1, fun o ho => hgrow (hc.2 o ho)⟩
  · obtain ⟨new, hnew, hacks⟩ := h.acks
    exact ⟨new, hnew, fun msg hmem htype o ho => hgrow (hacks msg hmem htype o ho)⟩

/-- A change of the message in another slot. -/
lemma Inv.mapMessage_of_ne (h : t.Inv delivered m₀ m) {id : ℕ} (hid : id ≠ t.slot)
    (g : MessageContext → MessageContext) :
    t.Inv delivered m₀ (m.mapMessage id g) ∧ t.Grows m (m.mapMessage id g) :=
  h.sameMessage (ReceiverMemory.message_mapMessage_of_ne (Ne.symm hid) g m)
    ⟨[], (List.append_nil _).symm, by simp⟩

/-- Setting the bit of a packet in any slot. -/
lemma Inv.setReceived (h : t.Inv delivered m₀ m) {id o : ℕ} (ho : id = t.slot → o ∈ delivered) :
    t.Inv delivered m₀ (m.setReceived id o) ∧ t.Grows m (m.setReceived id o) := by
  by_cases hid : id = t.slot
  · subst hid
    obtain ⟨msg, b, f, hmsg, hs⟩ := h.shape
    have hreceived := b.received_setPacketReceived o
    simp only [BackendBitmap.received, hs.totalPackets] at hreceived
    refine h.mapMessage (b.setPacketReceived o).2 f _ hmsg hs ⟨hs.generation, hs.state,
      hs.chunkCount, by simp [hs.backend], hs.frontend, by simp [hs.totalPackets],
      by simp [hs.packetsPerChunk], hs.chunks,
      fun hroom => (hs.packetsConfined hroom).setPacketReceived o, hs.chunksConfined⟩ ?_ ?_
      (fun _ hc => hc) fun _ hc => Or.inl hc
    · rw [hreceived]
      split_ifs
      · exact Set.subset_insert _ _
      · exact fun _ hi => hi
    · intro i hi
      rw [hreceived] at hi
      split_ifs at hi with hlt
      · rcases Set.mem_insert_iff.mp hi with rfl | hi
        · exact Or.inr ⟨ho rfl, hlt⟩
        · exact Or.inl hi
      · exact Or.inl hi
  · exact h.mapMessage_of_ne hid _

/-- A step that changes the frontend bitmap of the slot in place. -/
lemma Inv.mapFrontend (h : t.Inv delivered m₀ m) {g : FrontendBitmap → FrontendBitmap}
    (htotal : ∀ f, (g f).totalChunks = f.totalChunks)
    (hconfined : ∀ f, f.totalChunks = t.totalChunks → f.Confined → (g f).Confined)
    (hgrow : ∀ f, bits f.chunkBitmap ⊆ bits (g f).chunkBitmap)
    (hchunk : ∀ f, ∀ c ∈ bits (g f).chunkBitmap, c ∈ bits f.chunkBitmap ∨
      (c < t.totalChunks ∧ ∀ o, t.InChunk c o → o ∈ t.received m)) :
    t.Inv delivered m₀ (m.mapFrontend t.slot g) ∧ t.Grows m (m.mapFrontend t.slot g) := by
  obtain ⟨msg, b, f, hmsg, hs⟩ := h.shape
  exact h.mapMessage b (g f) _ hmsg hs ⟨hs.generation, hs.state, hs.chunkCount, hs.backend,
    by simp [hs.frontend], hs.totalPackets, hs.packetsPerChunk, (htotal f).trans hs.chunks,
    hs.packetsConfined, fun hroom => hconfined f hs.chunks (hs.chunksConfined hroom)⟩
    (fun _ ho => ho) (fun _ ho => Or.inl ho) (hgrow f) (hchunk f)

/-- Setting the bit of a chunk. -/
lemma grows_setChunk (t : BitmapPair) (m : ReceiverMemory) (c : ℕ) :
    t.Grows m (m.mapFrontend t.slot fun f => f.setChunk c) := by
  have hsub : ∀ f : FrontendBitmap, bits f.chunkBitmap ⊆ bits (f.setChunk c).chunkBitmap := by
    intro f
    have hbits : bits (f.setChunk c).chunkBitmap = insert c (bits f.chunkBitmap) :=
      f.completed_setChunk c
    rw [hbits]
    exact Set.subset_insert _ _
  cases hmsg : m.message t.slot with
  | none =>
    exact ⟨by simp [received, ReceiverMemory.packetWords, ReceiverMemory.backendBitmap,
      ReceiverMemory.mapFrontend, hmsg], by simp [completed, ReceiverMemory.chunkWords,
      ReceiverMemory.frontendBitmap, ReceiverMemory.mapFrontend, hmsg]⟩
  | some msg =>
    refine ⟨by simp [received, ReceiverMemory.packetWords, ReceiverMemory.backendBitmap,
      ReceiverMemory.mapFrontend, hmsg], ?_⟩
    cases hf : msg.frontendBitmap with
    | none => simp [completed, ReceiverMemory.chunkWords, ReceiverMemory.frontendBitmap,
        ReceiverMemory.mapFrontend, hmsg, hf]
    | some f => simpa [completed, ReceiverMemory.chunkWords, ReceiverMemory.frontendBitmap,
        ReceiverMemory.mapFrontend, hmsg, hf] using hsub f

/-- Setting the bit of a chunk all of whose packets are there. -/
lemma Inv.setChunk (h : t.Inv delivered m₀ m) {c : ℕ} (hc : c < t.totalChunks)
    (hall : ∀ o, t.InChunk c o → o ∈ t.received m) :
    t.Inv delivered m₀ (m.mapFrontend t.slot fun f => f.setChunk c) := by
  have hbits : ∀ f : FrontendBitmap, bits (f.setChunk c).chunkBitmap =
      insert c (bits f.chunkBitmap) :=
    fun f => f.completed_setChunk c
  refine (h.mapFrontend (g := fun f => f.setChunk c) (fun _ => rfl)
    (fun f htotal hf => hf.setChunk (htotal ▸ hc)) (fun f => ?_) fun f i hi => ?_).1
  · rw [hbits]; exact Set.subset_insert _ _
  · rw [hbits] at hi
    exact (Set.mem_insert_iff.mp hi).symm.imp_right (by rintro rfl; exact ⟨hc, hall⟩)

lemma Inv.completeMessage (hfits : t.Fits) (h : t.Inv delivered m₀ m) :
    t.Inv delivered m₀ (m.completeMessage t.slot) ∧ t.Grows m (m.completeMessage t.slot) := by
  rw [ReceiverMemory.completeMessage_of_lt hfits.slot]
  obtain ⟨msg, b, f, hmsg, hs⟩ := h.shape
  exact h.mapMessage b f _ hmsg hs ⟨hs.generation, Or.inr rfl, hs.chunkCount, hs.backend,
    hs.frontend, hs.totalPackets, hs.packetsPerChunk, hs.chunks, hs.packetsConfined,
    hs.chunksConfined⟩ (fun _ ho => ho) (fun _ ho => Or.inl ho) (fun _ hc => hc)
    fun _ hc => Or.inl hc

lemma Inv.sendMessage (h : t.Inv delivered m₀ m) (msg : ControlMessage) (answer : ℤ)
    (hack : msg.msgType = .completeAck → ∀ o < t.totalPackets, o ∈ t.received m) :
    t.Inv delivered m₀ (m.sendMessage msg answer) ∧ t.Grows m (m.sendMessage msg answer) := by
  refine h.sameMessage (m.sendMessage_message msg answer t.slot) ?_
  rcases m.sendMessage_sent msg answer with hsent | hsent
  · exact ⟨[], by rw [hsent, List.append_nil], by simp⟩
  · exact ⟨[msg], hsent, fun msg' hmem => by rw [List.mem_singleton.mp hmem]; exact hack⟩

lemma Inv.writeBuffer (h : t.Inv delivered m₀ m) (ptr : BufferPtr) (offset : ℕ) (data : List U8) :
    t.Inv delivered m₀ (m.writeBuffer ptr offset data) ∧
      t.Grows m (m.writeBuffer ptr offset data) := by
  cases ptr <;> exact h.sameMessage rfl ⟨[], (List.append_nil _).symm, by simp⟩

/-! ### Threads -/

/-- A worker on any packet, as long as it is accepted only when it is delivered. -/
lemma processPacket_meets (header : SDRPacketHeader) (payload : List U8)
    (hdelivered : header.msgId.toNat = t.slot → header.transferId = t.generation →
      header.packetOffset.toNat ∈ delivered) (m : ReceiverMemory) :
    Prog.Meets (t.Inv delivered m₀) t.Grows t.Grows (fun _ _ => True)
      (processPacket header payload) m := by
  have hdone : ∀ m, Prog.Meets (t.Inv delivered m₀) t.Grows t.Grows (fun _ _ => True)
      (pure ⟨⟩ : Prog ReceiverMemory PUnit) m := fun m => Prog.Meets.pure fun _ _ _ => trivial
  have hwrite : ∀ (id o : ℕ) (m : ReceiverMemory), Prog.Meets (t.Inv delivered m₀) t.Grows t.Grows
      (fun _ _ => True) (writePacketToBuffer id o payload) m := by
    intro id o m
    refine Prog.Meets.load_bind fun m₁ _ _ => ?_
    split
    · exact hdone m₁
    · split
      · exact hdone m₁
      · dsimp only
        generalize o * _ = offset
        split_ifs
        · exact hdone m₁
        · exact Prog.Meets.modify fun m₂ _ hI₂ =>
            ⟨(hI₂.writeBuffer _ _ _).1, (hI₂.writeBuffer _ _ _).2, fun _ _ _ => trivial⟩
  unfold processPacket
  refine Prog.Meets.load_bind fun m₁ _ hI₁ => ?_
  split
  · exact hdone m₁
  · rename_i msg hget
    split_ifs with hgen
    · exact hdone m₁
    · rw [not_not] at hgen
      have haccept : header.msgId.toNat = t.slot → header.packetOffset.toNat ∈ delivered := by
        intro hid
        refine hdelivered hid ?_
        obtain ⟨msg', b, f, hmsg, hs⟩ := hI₁.shape
        unfold ConnectionContext.getMessage at hget
        split_ifs at hget with hmax
        rw [hid] at hget
        rw [ReceiverMemory.message] at hmsg
        rw [hmsg] at hget
        dsimp only at hget
        split_ifs at hget
        obtain rfl := Option.some.inj hget
        exact hgen.symm.trans hs.generation
      refine Prog.Meets.load_bind fun m₂ _ _ => ?_
      split_ifs
      · exact hdone m₂
      · refine Prog.Meets.load_bind fun m₃ _ hI₃ => ?_
        split_ifs
        · exact hdone m₃
        · refine Prog.Meets.bind hI₃ (hwrite _ _ m₃) fun _ m₄ _ _ => ?_
          refine Prog.Meets.modify fun m₅ _ hI₅ => ?_
          exact ⟨(hI₅.setReceived haccept).1, (hI₅.setReceived haccept).2, fun _ _ _ => trivial⟩

/-! ### The poller -/

/-- What the poller needs to know of an invariant: there is a chunk bitmap, and the bit of a chunk
may be set when all its packets are there. -/
structure Pollable (t : BitmapPair) (I : ReceiverMemory → Prop) : Prop where
  frontend : ∀ m, I m → (m.frontendBitmap t.slot).isSome
  setChunk : ∀ m c, I m → c < t.totalChunks → (∀ o, t.InChunk c o → o ∈ t.received m) →
    I (m.mapFrontend t.slot fun f => f.setChunk c)

lemma pollable_inv (t : BitmapPair) (delivered : Set ℕ) (m₀ : ReceiverMemory) :
    t.Pollable (t.Inv delivered m₀) where
  frontend m h := by
    obtain ⟨msg, b, f, hmsg, hs⟩ := h.shape
    simp [ReceiverMemory.frontendBitmap, hmsg, hs.frontend]
  setChunk _ _ h := h.setChunk

/-- The bit of a chunk is set after it was set. -/
lemma Pollable.mem_completed {I : ReceiverMemory → Prop} (h : t.Pollable I) (hI : I m) (c : ℕ) :
    c ∈ t.completed (m.mapFrontend t.slot fun f => f.setChunk c) := by
  obtain ⟨f, hf⟩ := Option.isSome_iff_exists.mp (h.frontend m hI)
  obtain ⟨msg, hmsg, hfront⟩ := Option.bind_eq_some_iff.mp hf
  have hbits : bits (f.setChunk c).chunkBitmap = insert c (bits f.chunkBitmap) :=
    f.completed_setChunk c
  have hwords : (m.mapFrontend t.slot fun f => f.setChunk c).chunkWords t.slot
      = (f.setChunk c).chunkBitmap := by
    simp [ReceiverMemory.chunkWords, ReceiverMemory.frontendBitmap, ReceiverMemory.mapFrontend,
      hmsg, hfront]
  rw [completed, hwords, hbits]
  exact Set.mem_insert _ _

section Poller

variable {I : ReceiverMemory → Prop}

/-- The poller sets the bit of a chunk whose packets it has seen. -/
lemma checkAndSetChunk_meets (hfits : t.Fits) (hpoll : t.Pollable I) {c : ℕ}
    (hc : c < t.totalChunks) {m : ReceiverMemory} (hI : I m) :
    Prog.Meets I t.Grows t.Grows (fun _ _ => True)
      (checkAndSetChunk t.slot t.totalPackets t.packetsPerChunk t.totalChunks c) m := by
  unfold checkAndSetChunk
  refine Prog.Meets.bind hI (FrontendBitmap.isChunkComplete_meets (fun m => m.chunkWords t.slot)
    (fun m m' h => h.completed) t.totalChunks c m) fun marked m₁ hI₁ _ => ?_
  split_ifs
  · exact Prog.Meets.pure fun _ _ _ => trivial
  · refine Prog.Meets.bind hI₁ (BackendBitmap.isChunkComplete_meets
      (fun m => m.packetWords t.slot) (fun m m' h => h.received) (fun m m' h => h.received)
      hfits.packetsPerChunk (hfits.chunk_lt hc) hfits.size m₁) fun complete m₂ _ hcomplete => ?_
    split_ifs with hfalse
    · exact Prog.Meets.pure fun _ _ _ => trivial
    · intro m₃ h₃ hI₃
      have hset := hcomplete (by simpa using hfalse)
      exact ⟨hpoll.setChunk m₃ c hI₃ hc fun o ho => h₃.received (hset o ho.1 ho.2.1 ho.2.2),
        t.grows_setChunk m₃ c, fun _ _ _ => trivial⟩

lemma updateChunkBitmap_meets (hfits : t.Fits) (hpoll : t.Pollable I) (chunks c : ℕ)
    (hc : c + chunks ≤ t.totalChunks) {m : ReceiverMemory} (hI : I m) :
    Prog.Meets I t.Grows t.Grows (fun _ _ => True)
      (updateChunkBitmap t.slot t.totalPackets t.packetsPerChunk t.totalChunks chunks c) m := by
  induction chunks generalizing c m with
  | zero => exact Prog.Meets.pure fun _ _ _ => trivial
  | succ chunks ih =>
    exact Prog.Meets.bind hI (checkAndSetChunk_meets hfits hpoll (by omega) hI) fun _ m₁ hI₁ _ =>
      ih (c + 1) (by omega) hI₁

/-- One look at a chunk that is complete leaves its bit set. -/
lemma checkAndSetChunk_sets (hfits : t.Fits) (hpoll : t.Pollable I) {c : ℕ}
    (hc : c < t.totalChunks) {m : ReceiverMemory} (hI : I m)
    (hall : ∀ o, t.InChunk c o → o ∈ t.received m) :
    Prog.Meets I t.Grows t.Grows (fun _ m => c ∈ t.completed m)
      (checkAndSetChunk t.slot t.totalPackets t.packetsPerChunk t.totalChunks c) m := by
  have hstay : ∀ m m', t.Grows m m' → (∀ o, t.InChunk c o → o ∈ t.received m) →
      ∀ o, t.InChunk c o → o ∈ t.received m' := fun m m' h hP o ho => h.received (hP o ho)
  unfold checkAndSetChunk
  refine Prog.Meets.bind hI (Prog.Meets.frame hstay hstay hall
    (FrontendBitmap.isChunkComplete_meets (fun m => m.chunkWords t.slot)
      (fun m m' h => h.completed) t.totalChunks c m)) ?_
  rintro marked m₁ hI₁ ⟨hmarked, hall₁⟩
  split_ifs with hseen
  · exact Prog.Meets.pure fun m₂ h₂ _ => h₂.completed (hmarked hseen).2
  · have hfinds : Prog.Meets I t.Grows t.Grows (fun r _ => r = true)
        (BackendBitmap.isChunkComplete (fun w => Prog.load fun m => m.packetWords t.slot w)
          t.totalPackets t.packetsPerChunk c) m₁ :=
      BackendBitmap.isChunkComplete_finds (fun m : ReceiverMemory => m.packetWords t.slot)
        (fun m m' (h : t.Grows m m') => h.received) (fun m m' (h : t.Grows m m') => h.received)
        hfits.packetsPerChunk (hfits.chunk_lt hc) hfits.size
        fun i hlo hhi hlt => hall₁ i ⟨hlo, hhi, hlt⟩
    refine Prog.Meets.bind hI₁ (Prog.Meets.frame hstay hstay hall₁ hfinds) ?_
    rintro complete m₂ _ ⟨rfl, hall₂⟩
    rw [if_neg (by decide)]
    intro m₃ h₃ hI₃
    exact ⟨hpoll.setChunk m₃ c hI₃ hc (hstay _ _ h₃ hall₂), t.grows_setChunk m₃ c,
      fun m₄ h₄ _ => h₄.completed (hpoll.mem_completed hI₃ c)⟩

/-- A pass over the chunks from `first` on sets the bit of every chunk on its way that was complete
when it began. -/
lemma updateChunkBitmap_sets (hfits : t.Fits) (hpoll : t.Pollable I) (chunks first : ℕ)
    (hfirst : first + chunks ≤ t.totalChunks) {c : ℕ} (hlo : first ≤ c) (hhi : c < first + chunks)
    {m : ReceiverMemory} (hI : I m) (hall : ∀ o, t.InChunk c o → o ∈ t.received m) :
    Prog.Meets I t.Grows t.Grows (fun _ m => c ∈ t.completed m)
      (updateChunkBitmap t.slot t.totalPackets t.packetsPerChunk t.totalChunks chunks first) m := by
  induction chunks generalizing first m with
  | zero => omega
  | succ chunks ih =>
    by_cases hc : first = c
    · subst hc
      refine Prog.Meets.bind hI (checkAndSetChunk_sets hfits hpoll (by omega) hI hall) ?_
      intro _ m₁ hI₁ hset
      have hkeep : ∀ m m', t.Grows m m' → first ∈ t.completed m → first ∈ t.completed m' :=
        fun m m' h hP => h.completed hP
      exact (Prog.Meets.frame hkeep hkeep hset
        (updateChunkBitmap_meets hfits hpoll chunks (first + 1) (by omega) hI₁)).mono
          fun _ _ _ h => h.2
    · have hstay : ∀ m m', t.Grows m m' → (∀ o, t.InChunk c o → o ∈ t.received m) →
          ∀ o, t.InChunk c o → o ∈ t.received m' := fun m m' h hP o ho => h.received (hP o ho)
      refine Prog.Meets.bind hI (Prog.Meets.frame hstay hstay hall
        (checkAndSetChunk_meets hfits hpoll (by omega) hI)) ?_
      rintro _ m₁ hI₁ ⟨-, hall₁⟩
      exact ih (first + 1) (by omega) (by omega) (by omega) hI₁ hall₁

end Poller

/-- One round of the poller. -/
lemma pollingRound_meets (hfits : t.Fits) (m : ReceiverMemory) :
    Prog.Meets (t.Inv delivered m₀) t.Grows t.Grows (fun _ _ => True) (pollingRound t.slot) m := by
  refine Prog.Meets.load_bind fun m₁ _ hI₁ => ?_
  obtain ⟨msg, b, f, hmsg, hs⟩ := hI₁.shape
  simp only [hmsg, hs.frontend, hs.backend]
  split_ifs
  · exact Prog.Meets.pure fun _ _ _ => trivial
  · refine Prog.Meets.modify fun m₂ _ hI₂ => ?_
    obtain ⟨hinv, hgrows⟩ := hI₂.mapFrontend (g := fun f => { f with polling := false })
      (fun _ => rfl) (fun _ _ hf => ⟨hf.chunks, hf.overrun⟩) (fun _ _ h => h)
      fun _ _ hc => Or.inl hc
    exact ⟨hinv, hgrows, fun _ _ _ => trivial⟩
  · rw [hs.totalPackets, hs.packetsPerChunk, hs.chunks]
    exact updateChunkBitmap_meets hfits (t.pollable_inv delivered m₀) t.totalChunks 0 (by omega) hI₁

lemma pumpable_inv (hfits : t.Fits) (delivered : Set ℕ) (m₀ : ReceiverMemory) (answer : ℤ) :
    Pumpable t.slot t.totalChunks answer (t.Inv delivered m₀) t.Grows t.Grows where
  message _ h := by
    obtain ⟨msg, b, f, hmsg, hs⟩ := h.shape
    exact ⟨msg, f, hmsg, hs.frontend, hs.chunks,
      by rw [hs.chunkCount, Nat.mod_eq_of_lt hfits.totalChunks_lt]⟩
  rely _ _ h := h.completed
  guarantee _ _ h := h.completed
  clock _ _ h := h.sameMessage rfl ⟨[], by simp, by simp⟩
  send _ report h hreport := h.sendMessage report answer fun htype =>
    h.received_of_completed hfits (hreport.complete htype)

/-- What `sdr_recv_complete` takes for complete has all its packets. -/
lemma transferComplete_meets (hfits : t.Fits) (m : ReceiverMemory) :
    Prog.Meets (t.Inv delivered m₀) t.Grows t.Grows
      (fun r m => r = true → ∀ o < t.totalPackets, o ∈ t.received m) (transferComplete t.slot)
      m := by
  refine ((pumpable_inv hfits delivered m₀ 0).transferComplete_meets
    (fun m hI msg' hmsg' => ?_) m).mono fun _ m' hI' hall hr => ?_
  · obtain ⟨msg, b, f, hmsg, hs⟩ := hI.shape
    obtain rfl := Option.some.inj (hmsg.symm.trans hmsg')
    rcases hs.state with h | h
    · rw [h]; simp
    · rw [h]; simp
  · exact hI'.received_of_completed hfits fun c hc => hall hr c hc

lemma sdrRecvComplete_meets (hfits : t.Fits) {handle : SDRRecvHandle} (hid : handle.msgId = t.slot)
    (answer : ℤ) {m : ReceiverMemory} (hI : t.Inv delivered m₀ m) :
    Prog.Meets (t.Inv delivered m₀) t.Grows t.Grows (fun _ _ => True)
      (sdrRecvComplete handle answer) m := by
  have hjoin : Prog.Meets (t.Inv delivered m₀) t.Grows t.Grows (fun _ _ => True)
      (stopPolling t.slot) m := by
    refine Prog.Meets.load_bind fun m₁ _ _ => ?_
    split_ifs
    · exact Prog.Meets.pure fun _ _ _ => trivial
    · refine Prog.Meets.modify_bind fun m₂ _ hI₂ => ?_
      obtain ⟨hinv, hgrows⟩ := hI₂.mapFrontend (g := fun f => { f with shouldStop := true })
        (fun _ => rfl) (fun _ _ hf => ⟨hf.chunks, hf.overrun⟩) (fun _ _ h => h)
        fun _ _ hc => Or.inl hc
      exact ⟨hinv, hgrows, Prog.Meets.waitUntil fun _ _ _ _ _ _ _ => trivial⟩
  unfold sdrRecvComplete
  rw [hid]
  refine Prog.Meets.bind hI hjoin fun _ m₁ hI₁ _ => ?_
  refine Prog.Meets.bind hI₁ (transferComplete_meets hfits m₁) fun isComplete m₂ _ hwhole => ?_
  refine Prog.Meets.modify_bind fun m₃ h₃ hI₃ => ?_
  obtain ⟨hinv, hgrows⟩ := hI₃.completeMessage hfits
  refine ⟨hinv, hgrows, Prog.Meets.modify fun m₄ h₄ hI₄ => ?_⟩
  obtain ⟨hinv', hgrows'⟩ := hI₄.sendMessage (completionMessage
    m₄.conn.connectionCtx.connectionId isComplete) answer fun htype o ho => by
      have hcomplete : isComplete = true := by
        by_contra hfalse
        simp [completionMessage, hfalse] at htype
      exact h₄.received (hgrows.received (h₃.received (hwhole hcomplete o ho)))
  exact ⟨hinv', hgrows', fun _ _ _ => trivial⟩

end BitmapPair

/-! ### The pair of a post -/

/-- What the threads may run: any number of workers that set bits by themselves or process packets,
the poller, and the application. -/
inductive BitmapProgram (t : BitmapPair) (delivered : Set ℕ) :
    Thread → Prog ReceiverMemory PUnit → Prop
  | setReceived (i o : ℕ) (h : o ∈ delivered) :
      BitmapProgram t delivered (.worker i) (Prog.modify (ReceiverMemory.setReceived t.slot o))
  | packet (i : ℕ) (header : SDRPacketHeader) (payload : List U8)
      (h : header.msgId.toNat = t.slot → header.transferId = t.generation →
        header.packetOffset.toNat ∈ delivered) :
      BitmapProgram t delivered (.worker i) (processPacket header payload)
  | pass : BitmapProgram t delivered .poller (updateChunkBitmap t.slot t.totalPackets
      t.packetsPerChunk t.totalChunks t.totalChunks 0)
  | poll : BitmapProgram t delivered .poller (pollingRound t.slot)
  | pump (i : ℕ) (cfg : SRConfig) (handle : SDRRecvHandle) (hid : handle.msgId = t.slot) (now : ℕ)
      (answer : ℤ) :
      BitmapProgram t delivered (.app i) (do let _ ← pump cfg handle now answer; pure ⟨⟩)
  | complete (i : ℕ) (handle : SDRRecvHandle) (hid : handle.msgId = t.slot) (answer : ℤ) :
      BitmapProgram t delivered (.app i) (sdrRecvComplete handle answer)

namespace BitmapPair

variable {t : BitmapPair} {delivered : Set ℕ} {m₀ : ReceiverMemory}

/-- The pair as `sdr_recv_post` builds it. -/
def Built (t : BitmapPair) (m : ReceiverMemory) : Prop :=
  ∃ msg, m.message t.slot = some msg ∧
    t.Shape msg (BackendBitmap.create t.totalPackets t.packetsPerChunk)
      (FrontendBitmap.create (BackendBitmap.create t.totalPackets t.packetsPerChunk)
        t.totalChunks).startPolling

lemma Built.received (h : t.Built m₀) : t.received m₀ = ∅ := by
  obtain ⟨msg, hmsg, hs⟩ := h
  rw [BitmapPair.received, packetWords_eq hmsg hs]
  exact bits_zero

lemma Built.completed (h : t.Built m₀) : t.completed m₀ = ∅ := by
  obtain ⟨msg, hmsg, hs⟩ := h
  rw [BitmapPair.completed, chunkWords_eq hmsg hs]
  exact bits_zero

/-- A pair of bitmaps without room has no word at all. -/
lemma Built.numWords_eq_zero (h : t.Built m₀) (hfits : t.Fits) (hroom : ¬ t.Roomy) :
    ∃ b, m₀.backendBitmap t.slot = some b ∧ b.totalPackets = t.totalPackets ∧ b.numWords = 0 := by
  obtain ⟨msg, hmsg, hs⟩ := h
  refine ⟨_, by rw [ReceiverMemory.backendBitmap, hmsg, Option.bind_some, hs.backend], rfl, ?_⟩
  have hsize := hfits.size
  have hppc := hfits.packetsPerChunk
  change (t.totalPackets + 63) % 2 ^ 32 / 64 = 0
  rw [Roomy] at hroom
  omega

lemma Built.inv (h : t.Built m₀) (delivered : Set ℕ) : t.Inv delivered m₀ m₀ := by
  obtain ⟨msg, hmsg, hs⟩ := id h
  refine ⟨⟨msg, _, _, hmsg, hs⟩, ?_, ?_, ⟨[], by simp, by simp⟩⟩
  · rw [h.received]
    exact fun _ ho => absurd ho (Set.notMem_empty _)
  · rw [h.completed]
    exact fun _ hc => absurd hc (Set.notMem_empty _)

/-- The bitmaps of a post. -/
def ofPost (msgId length : ℕ) (generation : U32) (params : ConnectionParams) : BitmapPair :=
  ⟨msgId, generation, ceilDiv length params.mtuBytes.toNat, params.packetsPerChunk.toNat⟩

lemma built_of_post {m m' : ReceiverMemory} {msgId buffer length : ℕ} {generation : U32}
    {offer : ConnectionParams} {handle : SDRRecvHandle}
    (hset : SlotSetUp m msgId generation buffer length offer handle m')
    (hsize : ceilDiv length (negotiate m.conn.connectionCtx.params offer length).mtuBytes.toNat
      + (negotiate m.conn.connectionCtx.params offer length).packetsPerChunk.toNat < 2 ^ 32) :
    (ofPost msgId length (m.conn.connectionCtx.generationCounters msgId)
      (negotiate m.conn.connectionCtx.params offer length)).Built m' := by
  have hmtu := (negotiate_mtuBytes m.conn.connectionCtx.params offer length).1
  have hppc := negotiate_packetsPerChunk m.conn.connectionCtx.params offer length
  obtain ⟨msg, htable, hgen, hstate⟩ := hset.table
  generalize negotiate m.conn.connectionCtx.params offer length = params at *
  have hsizes : ConnectionContext.calculateBitmapSizes length params.mtuBytes
      params.packetsPerChunk = ((ofPost msgId length msg.generation params).totalPackets,
        (ofPost msgId length msg.generation params).totalChunks) := by
    have hchunks : ceilDiv (ceilDiv length params.mtuBytes.toNat) params.packetsPerChunk.toNat
        = (ofPost msgId length msg.generation params).totalChunks := ceilDiv_eq (by omega)
    rw [ConnectionContext.calculateBitmapSizes_of_pos _ hmtu hppc, hchunks]
    rfl
  have hpackets : (ofPost msgId length msg.generation params).totalPackets % 2 ^ 32
      = (ofPost msgId length msg.generation params).totalPackets :=
    Nat.mod_eq_of_lt (by simp only [ofPost]; omega)
  have hchunks : (ofPost msgId length msg.generation params).totalChunks % 2 ^ 32
      = (ofPost msgId length msg.generation params).totalChunks := by
    refine Nat.mod_eq_of_lt ?_
    have := Nat.div_le_self (ceilDiv length params.mtuBytes.toNat
      + params.packetsPerChunk.toNat - 1) params.packetsPerChunk.toNat
    simp only [totalChunks, ofPost]
    omega
  have hfew : (ofPost msgId length msg.generation params).totalChunks
      ≤ (ofPost msgId length msg.generation params).totalPackets := by
    by_contra hmore
    have hlt := (lt_ceil_iff hppc _).mp (not_le.mp hmore)
    have hle :=
      Nat.le_mul_of_pos_right (ofPost msgId length msg.generation params).totalPackets hppc
    exact absurd (hle.trans_lt hlt) (lt_irrefl _)
  rw [← hgen]
  refine ⟨initMessage msg buffer length (params.withTransferId generation),
    by rw [ReceiverMemory.message, htable]; exact Function.update_self _ _ _, ?_⟩
  have hsizes' : ConnectionContext.calculateBitmapSizes length
      (params.withTransferId generation).mtuBytes
      (params.withTransferId generation).packetsPerChunk = _ := hsizes
  exact
    { generation := rfl
      state := Or.inl hstate
      chunkCount := by simp only [initMessage, hsizes']
      backend := by simp only [initMessage, hsizes', hpackets]; rfl
      frontend := by simp only [initMessage, hsizes', hpackets, hchunks]; rfl
      totalPackets := rfl
      packetsPerChunk := rfl
      chunks := rfl
      packetsConfined := fun hroom => BackendBitmap.confined_create hroom _
      chunksConfined := fun hroom => (FrontendBitmap.confined_create
        (lt_of_le_of_lt (Nat.add_le_add_right hfew 63) hroom) _).startPolling }

/-! ### All interleavings -/

lemma program_meets (hfits : t.Fits) (th : Thread) (p : Prog ReceiverMemory PUnit)
    (m : ReceiverMemory) (hp : BitmapProgram t delivered th p) (hI : t.Inv delivered m₀ m) :
    Prog.Meets (t.Inv delivered m₀) t.Grows t.Grows (fun _ _ => True) p m := by
  cases hp with
  | setReceived i o h =>
    exact Prog.Meets.modify fun m' _ hI' =>
      ⟨(hI'.setReceived fun _ => h).1, (hI'.setReceived fun _ => h).2, fun _ _ _ => trivial⟩
  | packet i header payload h => exact processPacket_meets header payload h m
  | pass =>
    exact updateChunkBitmap_meets hfits (t.pollable_inv delivered m₀) t.totalChunks 0
      (by omega) hI
  | poll => exact pollingRound_meets hfits m
  | pump i cfg handle hid now answer =>
    exact Prog.Meets.bind hI ((pumpable_inv hfits delivered m₀ answer).pump_meets
      hfits.totalChunks_lt cfg handle hid now m) fun _ _ _ _ => Prog.Meets.pure fun _ _ _ => trivial
  | complete i handle hid answer => exact sdrRecvComplete_meets hfits hid answer hI

/-- All threads rely on what all threads guarantee. -/
lemma rely_grows (th th' : Thread) (m m' : ReceiverMemory) (_ : th ≠ th')
    (_ : t.Inv delivered m₀ m) (_ : t.Inv delivered m₀ m') (h : t.Grows m m') : t.Grows m m' := h

lemma reachable_meeting (hfits : t.Fits) (hbuilt : t.Built m₀) {s : Pool Thread ReceiverMemory}
    (hs : Pool.Reachable (BitmapProgram t delivered) m₀ s) :
    s.Meeting (t.Inv delivered m₀) (fun _ => t.Grows) (fun _ => t.Grows) :=
  (Pool.meeting_start (hbuilt.inv delivered)).steps rely_grows (program_meets hfits) hs

/-- The thread reads words below `n` only, whatever they hold when it comes to them. -/
def ReadsWithin {M α : Type} (words : M → ℕ → U64) (n : ℕ) (p : Prog M α) : Prop :=
  ∃ r : Lookups U64 α, r.Within n ∧ p = r.runOn fun w => Prog.load fun m => words m w

/-- No `fetch_or` has left the words of the bitmaps, and the checks of the poller do not leave them
either. -/
def InBounds (t : BitmapPair) (m : ReceiverMemory) : Prop :=
  ∃ b f, m.backendBitmap t.slot = some b ∧ m.frontendBitmap t.slot = some f ∧
    b.overrun = false ∧ f.overrun = false ∧
    ∀ c < t.totalChunks,
      ReadsWithin (ReceiverMemory.packetWords t.slot) b.numWords (BackendBitmap.isChunkComplete
        (fun w => Prog.load fun m => m.packetWords t.slot w) t.totalPackets t.packetsPerChunk c) ∧
      ReadsWithin (ReceiverMemory.chunkWords t.slot) f.numWords (FrontendBitmap.isChunkComplete
        (fun w => Prog.load fun m => m.chunkWords t.slot w) t.totalChunks c)

/-- The chunk bitmap refines the packet bitmap: the accesses stay in the bitmaps; a chunk bit
belongs to a chunk of the message all of whose packet bits are set; bits are never cleared; and a
pass of the poller that starts when all packets of a chunk are set leaves the bit of the chunk
set. -/
structure Refined (t : BitmapPair) (s : Pool Thread ReceiverMemory) : Prop where
  inBounds : t.InBounds s.memory
  chunks : ∀ c ∈ t.completed s.memory, c < t.totalChunks ∧
    ∀ o, t.InChunk c o → o ∈ t.received s.memory
  kept : ∀ s', Relation.ReflTransGen (Pool.Step (BitmapProgram t Set.univ)) s s' →
    t.completed s.memory ⊆ t.completed s'.memory
  passes : ∀ c < t.totalChunks, (∀ o, t.InChunk c o → o ∈ t.received s.memory) →
    s.threads .poller = .done ⟨⟩ →
    ∀ s', Relation.ReflTransGen (Pool.Step (BitmapProgram t Set.univ))
        { s with threads := Function.update s.threads .poller (updateChunkBitmap t.slot
          t.totalPackets t.packetsPerChunk t.totalChunks t.totalChunks 0) } s' →
      s'.threads .poller = .done ⟨⟩ → c ∈ t.completed s'.memory

/-- Bitmaps with room are not left. -/
lemma Inv.inBounds (hfits : t.Fits) (hroom : t.Roomy) {m : ReceiverMemory}
    (h : t.Inv delivered m₀ m) : t.InBounds m := by
  obtain ⟨msg, b, f, hmsg, hs⟩ := h.shape
  have hb := hs.packetsConfined hroom
  have hf := hs.chunksConfined hroom
  have hlawful := Prog.lawfulMonad ReceiverMemory
  refine ⟨b, f, by rw [ReceiverMemory.backendBitmap, hmsg, Option.bind_some, hs.backend],
    by rw [ReceiverMemory.frontendBitmap, hmsg, Option.bind_some, hs.frontend], hb.overrun,
    hf.overrun, fun c hc => ⟨⟨_, BackendBitmap.isChunkComplete_within hfits.packetsPerChunk
      (hfits.chunk_lt hc) hfits.size (hs.totalPackets ▸ hb.packets),
      (BackendBitmap.isChunkComplete_runOn _ _ _ _).symm⟩,
    ⟨_, FrontendBitmap.isChunkComplete_within (hs.chunks ▸ hf.chunks) c,
      (FrontendBitmap.isChunkComplete_runOn _ _ _).symm⟩⟩⟩

lemma reachable_refined (hfits : t.Fits) (hroom : t.Roomy) (hbuilt : t.Built m₀)
    {s : Pool Thread ReceiverMemory}
    (hs : Pool.Reachable (BitmapProgram t Set.univ) m₀ s) : t.Refined s := by
  have hmeeting := reachable_meeting hfits hbuilt hs
  refine ⟨hmeeting.1.inBounds hfits hroom, hmeeting.1.chunks, fun s' hs' => ?_,
    fun c hc hall hidle s' hs' hdone => ?_⟩
  · exact (hmeeting.steps_rel (P := t.Grows) rely_grows (program_meets hfits)
      (fun _ _ _ h => h) hs').completed
  · have hspawn := hmeeting.step rely_grows (program_meets hfits)
      (Pool.Step.spawn .poller _ hidle .pass)
    refine hspawn.established rely_grows (program_meets hfits) (t := Thread.poller)
      (fun _ _ h hQ => h.completed hQ) (fun _ _ h hQ => h.completed hQ) ?_ hs' hdone
    dsimp only
    rw [Function.update_self]
    exact updateChunkBitmap_sets hfits (t.pollable_inv _ m₀) t.totalChunks 0 (by omega)
      (Nat.zero_le c) (by omega) hmeeting.1 hall

/-- Without room, the first packet that a worker records is written past the bitmap. -/
lemma exists_overrun (hfits : t.Fits) (hroom : ¬ t.Roomy) (hbuilt : t.Built m₀) :
    ∃ s, Pool.Reachable (BitmapProgram t Set.univ) m₀ s ∧
      ∃ b, s.memory.backendBitmap t.slot = some b ∧ b.overrun = true := by
  obtain ⟨b, hb, htotal, hwords⟩ := hbuilt.numWords_eq_zero hfits hroom
  have hreached : Pool.Reachable (BitmapProgram t Set.univ) m₀
      ⟨m₀.setReceived t.slot 0, fun _ => .done ⟨⟩⟩ :=
    Pool.steps_of_spawn (.setReceived 0 0 (Set.mem_univ _)) (Prog.run_modify _ _) rfl
  refine ⟨_, hreached, (b.setPacketReceived 0).2, ?_,
    BackendBitmap.overrun_setPacketReceived hwords (htotal ▸ hfits.totalPackets)⟩
  obtain ⟨msg, hmsg, hback⟩ := Option.bind_eq_some_iff.mp hb
  rw [ReceiverMemory.backendBitmap, ReceiverMemory.setReceived, ReceiverMemory.message_mapMessage,
    hmsg, Option.map_some, Option.bind_some, hback, Option.map_some]

/-- In every reachable state the chunk bitmap refines the packet bitmap, exactly when the number of
words fits 32 bits. -/
theorem bitmapPair_refines_iff (hfits : t.Fits) (hbuilt : t.Built m₀) :
    (∀ s, Pool.Reachable (BitmapProgram t Set.univ) m₀ s → t.Refined s) ↔
      t.totalPackets + 63 < 2 ^ 32 := by
  constructor
  · intro hall
    by_contra hroom
    obtain ⟨s, hs, b, hb, hover⟩ := exists_overrun hfits hroom hbuilt
    obtain ⟨b', f, hb', -, hkept, -⟩ := (hall s hs).inBounds
    obtain rfl := Option.some.inj (hb.symm.trans hb')
    exact absurd (hover.symm.trans hkept) (by decide)
  · exact fun hroom s hs => reachable_refined hfits hroom hbuilt hs

/-- The pair of a post of five bytes in packets of two bytes and chunks of two packets. -/
lemma built_five : Built ⟨0, 1, 3, 2⟩ (recvPostOnOffer .idle 0 1 0 5
    { desiredParams .zero 5 with mtuBytes := 2, packetsPerChunk := 2 } true
    sizeofControlMessage).2 := by
  have hset := (recvPostOnOffer_spec .idle 0 1 0 5
    { desiredParams .zero 5 with mtuBytes := 2, packetsPerChunk := 2 } true
    sizeofControlMessage).setUp ⟨0, 1, 0, 5⟩ (by decide +kernel)
  have hbuilt := built_of_post hset (by decide +kernel)
  have hmtu : (negotiate ReceiverMemory.idle.conn.connectionCtx.params
      { desiredParams .zero 5 with mtuBytes := 2, packetsPerChunk := 2 } 5).mtuBytes = 2 := by
    decide +kernel
  have hppc : (negotiate ReceiverMemory.idle.conn.connectionCtx.params
      { desiredParams .zero 5 with mtuBytes := 2, packetsPerChunk := 2 } 5).packetsPerChunk
        = 2 := by
    decide +kernel
  rw [ofPost, hmtu, hppc] at hbuilt
  exact hbuilt

/-- Two chunks take one word. -/
theorem bitmapPair_refines_five : (∀ s, Pool.Reachable (BitmapProgram ⟨0, 1, 3, 2⟩ Set.univ)
    (recvPostOnOffer .idle 0 1 0 5
      { desiredParams .zero 5 with mtuBytes := 2, packetsPerChunk := 2 } true
      sizeofControlMessage).2 s → Refined ⟨0, 1, 3, 2⟩ s) ∧ totalPackets ⟨0, 1, 3, 2⟩ = 3 :=
  ⟨(bitmapPair_refines_iff ⟨by decide, by decide, by decide, by decide⟩ built_five).mpr (by decide),
    rfl⟩

/-- A post of `2 ^ 32 - 2` bytes in packets of one byte. -/
lemma built_large : Built ⟨0, 1, 2 ^ 32 - 2, 1⟩ (recvPostOnOffer .idle 0 1 0 (2 ^ 32 - 2)
    { desiredParams .zero (2 ^ 32 - 2) with mtuBytes := 1, packetsPerChunk := 1 } true
    sizeofControlMessage).2 := by
  have hset := (recvPostOnOffer_spec .idle 0 1 0 (2 ^ 32 - 2)
    { desiredParams .zero (2 ^ 32 - 2) with mtuBytes := 1, packetsPerChunk := 1 } true
    sizeofControlMessage).setUp ⟨0, 1, 0, 2 ^ 32 - 2⟩ (by decide +kernel)
  have hbuilt := built_of_post hset (by decide +kernel)
  have hmtu : (negotiate ReceiverMemory.idle.conn.connectionCtx.params
      { desiredParams .zero (2 ^ 32 - 2) with mtuBytes := 1, packetsPerChunk := 1 }
      (2 ^ 32 - 2)).mtuBytes = 1 := by decide +kernel
  have hppc : (negotiate ReceiverMemory.idle.conn.connectionCtx.params
      { desiredParams .zero (2 ^ 32 - 2) with mtuBytes := 1, packetsPerChunk := 1 }
      (2 ^ 32 - 2)).packetsPerChunk = 1 := by decide +kernel
  rw [ofPost, hmtu, hppc] at hbuilt
  exact hbuilt

/-- Its bitmaps have no words. -/
theorem not_bitmapPair_refines_large : ¬ ∀ s, Pool.Reachable
    (BitmapProgram ⟨0, 1, 2 ^ 32 - 2, 1⟩ Set.univ) (recvPostOnOffer .idle 0 1 0 (2 ^ 32 - 2)
      { desiredParams .zero (2 ^ 32 - 2) with mtuBytes := 1, packetsPerChunk := 1 } true
      sizeofControlMessage).2 s → Refined ⟨0, 1, 2 ^ 32 - 2, 1⟩ s := by
  intro hall
  have hroom : ¬ Roomy ⟨0, 1, 2 ^ 32 - 2, 1⟩ := by
    rw [Roomy]
    decide
  obtain ⟨s, hs, b, hb, hover⟩ := exists_overrun ⟨by decide, by decide, by decide, by decide⟩
    hroom built_large
  obtain ⟨b', f, hb', -, hkept, -⟩ := (hall s hs).inBounds
  obtain rfl := Option.some.inj (hb.symm.trans hb')
  exact absurd (hover.symm.trans hkept) (by decide)

end BitmapPair

end SdrUdp
