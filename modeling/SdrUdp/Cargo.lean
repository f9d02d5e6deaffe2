import SdrUdp.Link

/-!
# Whole packets

A message whose packets all have full size, on its way over the link into a buffer that may be
longer. A worker writes a packet before it records it, so a recorded packet is right.
-/

namespace SdrUdp

open SdrUdp.Core

/-- What is to come into the buffer of a slot: so many packets of full size, and their bytes. -/
structure Cargo where
  slot : ℕ
  buffer : ℕ
  length : ℕ
  mtuBytes : ℕ
  packets : ℕ
  bytes : ℕ → U8

namespace Cargo

variable (k : Cargo)

/-- The buffer has room for the packets. -/
structure Fits : Prop where
  mtuBytes : 0 < k.mtuBytes
  room : k.packets * k.mtuBytes ≤ k.length

/-- The payload of packet `o`. -/
def payload (o : ℕ) : List U8 :=
  (List.range k.mtuBytes).map fun j => k.bytes (o * k.mtuBytes + j)

/-- The bytes of packet `o` are where they belong. -/
def Right (m : ReceiverMemory) (o : ℕ) : Prop :=
  ∀ j < k.mtuBytes, m.buffers k.buffer (o * k.mtuBytes + j) = k.bytes (o * k.mtuBytes + j)

/-- A packet that a worker takes for one of the cargo. -/
def Brings (p : SDRPacket) : Prop :=
  ∃ q, SDRPacket.parse p.datagram = some q ∧ q.header.msgId.toNat = k.slot ∧
    q.header.packetOffset.toNat < k.packets ∧ q.payload = k.payload q.header.packetOffset.toNat

/-- The slot leads to the buffer, and only right packets are recorded. -/
structure Holds (m : ReceiverMemory) : Prop where
  message : ∃ msg, m.message k.slot = some msg ∧ msg.buffer = some (.user k.buffer) ∧
    msg.bufferSize = k.length ∧ msg.connectionParams.mtuBytes.toNat = k.mtuBytes
  packets : ∀ o ∈ bits (m.packetWords k.slot), o < k.packets ∧ k.Right m o

/-- Right packets stay right. -/
def Keeps (m m' : ReceiverMemory) : Prop := ∀ o, k.Right m o → k.Right m' o

instance : Std.Refl k.Keeps := ⟨fun _ _ h => h⟩

instance : IsTrans ReceiverMemory k.Keeps := ⟨fun _ _ _ h h' o ho => h' o (h o ho)⟩

variable {k} {m m' : ReceiverMemory}

lemma length_payload (o : ℕ) : (k.payload o).length = k.mtuBytes := by
  rw [payload, List.length_map, List.length_range]

lemma getD_payload (o : ℕ) {j : ℕ} (hj : j < k.mtuBytes) :
    (k.payload o).getD j 0 = k.bytes (o * k.mtuBytes + j) := by
  simp [payload, List.getD_eq_getElem?_getD, List.getElem?_range hj]

/-- A packet that is written is right, and nothing becomes wrong. -/
lemma keeps_writeBuffer (m : ReceiverMemory) (o : ℕ) :
    k.Keeps m (m.writeBuffer (.user k.buffer) (o * k.mtuBytes) (k.payload o)) ∧
      k.Right (m.writeBuffer (.user k.buffer) (o * k.mtuBytes) (k.payload o)) o := by
  have hbyte : ∀ i, (m.writeBuffer (.user k.buffer) (o * k.mtuBytes)
      (k.payload o)).buffers k.buffer i
        = if o * k.mtuBytes ≤ i ∧ i < o * k.mtuBytes + k.mtuBytes then k.bytes i
          else m.buffers k.buffer i := by
    intro i
    simp only [ReceiverMemory.writeBuffer, Function.update_self, writeBytes, length_payload]
    split_ifs with hi
    · have hj : i - o * k.mtuBytes < k.mtuBytes := by omega
      rw [getD_payload o hj, Nat.add_sub_cancel' hi.1]
    · rfl
  refine ⟨fun o' ho' j hj => ?_, fun j hj => ?_⟩
  · rw [hbyte]
    split_ifs
    · rfl
    · exact ho' j hj
  · rw [hbyte, if_pos ⟨Nat.le_add_right _ _, Nat.add_lt_add_left hj _⟩]

/-- Where the message and the buffers are the same, nothing changes. -/
lemma Holds.congr (h : k.Holds m) (hmsg : m'.message k.slot = m.message k.slot)
    (hbuffers : m'.buffers = m.buffers) : k.Holds m' ∧ k.Keeps m m' := by
  have hright : ∀ o, k.Right m' o ↔ k.Right m o := fun o => by rw [Right, hbuffers, Right]
  have hwords : m'.packetWords k.slot = m.packetWords k.slot := by
    simp only [ReceiverMemory.packetWords, ReceiverMemory.backendBitmap, hmsg]
  refine ⟨⟨hmsg ▸ h.message, fun o ho => ?_⟩, fun o ho => (hright o).mpr ho⟩
  rw [hwords] at ho
  exact (h.packets o ho).imp_right (hright o).mpr

lemma Holds.writeBuffer (h : k.Holds m) (o : ℕ) :
    k.Holds (m.writeBuffer (.user k.buffer) (o * k.mtuBytes) (k.payload o)) := by
  obtain ⟨hkeeps, -⟩ := k.keeps_writeBuffer m o
  exact ⟨h.message, fun o' ho' => (h.packets o' ho').imp_right (hkeeps o')⟩

/-- Changing the bitmaps of a message leaves its pointer and its sizes. -/
lemma Holds.mapMessage (h : k.Holds m) {g : MessageContext → MessageContext}
    (hbuffer : ∀ msg, (g msg).buffer = msg.buffer)
    (hsize : ∀ msg, (g msg).bufferSize = msg.bufferSize)
    (hparams : ∀ msg, (g msg).connectionParams = msg.connectionParams)
    (hbits : ∀ o ∈ bits ((m.mapMessage k.slot g).packetWords k.slot),
      o ∈ bits (m.packetWords k.slot) ∨ o < k.packets ∧ k.Right m o) :
    k.Holds (m.mapMessage k.slot g) ∧ k.Keeps m (m.mapMessage k.slot g) := by
  obtain ⟨msg, hmsg, hptr, hlength, hmtu⟩ := h.message
  refine ⟨⟨⟨g msg, ?_, ?_, ?_, ?_⟩, fun o ho => ?_⟩, fun o ho => ho⟩
  · rw [ReceiverMemory.message_mapMessage, hmsg, Option.map_some]
  · rw [hbuffer, hptr]
  · rw [hsize, hlength]
  · rw [hparams, hmtu]
  · exact (hbits o ho).elim (h.packets o) id

/-- A right packet may be recorded. -/
lemma Holds.setReceived (h : k.Holds m) {o : ℕ} (hlt : o < k.packets) (hright : k.Right m o) :
    k.Holds (m.setReceived k.slot o) ∧ k.Keeps m (m.setReceived k.slot o) := by
  refine h.mapMessage (fun _ => rfl) (fun _ => rfl) (fun _ => rfl) fun i hi => ?_
  obtain ⟨msg, hmsg, -⟩ := h.message
  cases hback : msg.backendBitmap with
  | none => simp [ReceiverMemory.packetWords, ReceiverMemory.backendBitmap, hmsg, hback] at hi
  | some b =>
    have hbits := b.received_setPacketReceived o
    simp only [BackendBitmap.received] at hbits
    simp only [ReceiverMemory.packetWords, ReceiverMemory.backendBitmap,
      ReceiverMemory.message_mapMessage, hmsg, hback, Option.map_some, Option.bind_some,
      Option.elim_some] at hi ⊢
    rw [hbits] at hi
    split_ifs at hi
    · rcases Set.mem_insert_iff.mp hi with rfl | hi
      · exact Or.inr ⟨hlt, hright⟩
      · exact Or.inl hi
    · exact Or.inl hi

/-- Chunk bits do not matter. -/
lemma Holds.mapFrontend (h : k.Holds m) (g : FrontendBitmap → FrontendBitmap) :
    k.Holds (m.mapFrontend k.slot g) ∧ k.Keeps m (m.mapFrontend k.slot g) := by
  refine h.mapMessage (fun _ => rfl) (fun _ => rfl) (fun _ => rfl) fun o ho => Or.inl ?_
  obtain ⟨msg, hmsg, -⟩ := h.message
  simpa [ReceiverMemory.packetWords, ReceiverMemory.backendBitmap, hmsg] using ho

/-! ### Threads -/

/-- The rely and the guarantee of every thread. -/
abbrev Meets {α : Type} (k : Cargo) (p : Prog ReceiverMemory α)
    (Q : α → ReceiverMemory → Prop) (m : ReceiverMemory) : Prop :=
  Prog.Meets k.Holds k.Keeps k.Keeps Q p m

lemma writePacketToBuffer_meets (hk : k.Fits) {o : ℕ} (ho : o < k.packets) (m : ReceiverMemory) :
    k.Meets (writePacketToBuffer k.slot o (k.payload o)) (fun _ m => k.Right m o) m := by
  have hroom : (o + 1) * k.mtuBytes ≤ k.length := (Nat.mul_le_mul_right _ ho).trans hk.room
  rw [Nat.succ_mul] at hroom
  have hpos := hk.mtuBytes
  have hfull : (k.payload o).take (k.length - o * k.mtuBytes) = k.payload o := by
    refine List.take_of_length_le ?_
    rw [length_payload]
    omega
  refine Prog.Meets.load_bind fun m₁ _ hI₁ => ?_
  obtain ⟨msg, hmsg, hptr, hlength, hmtu⟩ := hI₁.message
  have hinside : ¬ o * k.mtuBytes ≥ k.length := by omega
  simp only [hmsg, hptr, hlength, hmtu, if_neg hpos.ne', if_neg hinside, hfull]
  refine Prog.Meets.modify fun m₂ _ hI₂ => ?_
  obtain ⟨hkeeps, hright⟩ := k.keeps_writeBuffer m₂ o
  exact ⟨hI₂.writeBuffer o, hkeeps, fun m₃ h₃ _ => h₃ o hright⟩

/-- A worker records what it has written. -/
lemma receiveDatagram_meets (hk : k.Fits) {p : SDRPacket} (hp : k.Brings p) (m : ReceiverMemory) :
    k.Meets (receiveDatagram p.datagram) (fun _ _ => True) m := by
  have hdone : ∀ m, k.Meets (pure ⟨⟩ : Prog ReceiverMemory PUnit) (fun _ _ => True) m := fun m =>
    Prog.Meets.pure fun _ _ _ => trivial
  obtain ⟨q, hparse, hid, hlt, hpayload⟩ := hp
  rw [receiveDatagram, hparse]
  dsimp only
  unfold processPacket
  rw [hid, hpayload]
  refine Prog.Meets.load_bind fun m₁ _ _ => ?_
  split
  · exact hdone m₁
  · split_ifs
    · exact hdone m₁
    · refine Prog.Meets.load_bind fun m₂ _ _ => ?_
      split_ifs
      · exact hdone m₂
      · refine Prog.Meets.load_bind fun m₃ _ hI₃ => ?_
        split_ifs
        · exact hdone m₃
        · refine Prog.Meets.bind hI₃ (writePacketToBuffer_meets hk hlt m₃) ?_
          intro _ m₄ _ hwritten
          refine Prog.Meets.modify fun m₅ h₅ hI₅ => ?_
          obtain ⟨hholds, hkeeps⟩ := hI₅.setReceived hlt (h₅ _ hwritten)
          exact ⟨hholds, hkeeps, fun _ _ _ => trivial⟩

lemma pollingRound_meets (m : ReceiverMemory) :
    k.Meets (pollingRound k.slot) (fun _ _ => True) m := by
  refine (pollingRound_straight k.slot).uses.meets (fun act hact m h => ?_) m
  cases hact with
  | skip => exact ⟨h, Std.Refl.refl m⟩
  | setChunk c => exact h.mapFrontend _
  | leave => exact h.mapFrontend _

/-- The packets that are cut from the sender's bytes, as long as 18 bits count them. -/
lemma brings_of_dataPacket (hslot : k.slot < ConnectionContext.maxMessages)
    (hmtu : k.mtuBytes ≤ SDRPacket.maxPayloadSize) (hcount : k.packets ≤ 2 ^ 18) {data : List U8}
    (hdata : ∀ i (hi : i < data.length), data[i] = k.bytes i)
    (hlength : k.packets * k.mtuBytes ≤ data.length) {transferId : U32} {packetsPerChunk : U16}
    {o : ℕ} (ho : o < k.packets) {p : SDRPacket}
    (hp : dataPacket transferId k.slot packetsPerChunk k.mtuBytes data o = some p) :
    k.Brings p := by
  obtain ⟨q, hq, hmsg, -, hoffset, hpayload, hparse⟩ := dataPacket_spec transferId k.slot
    packetsPerChunk hmtu data o
  obtain rfl := Option.some.inj (hq.symm.trans hp)
  have hnumber : q.header.packetOffset.toNat = o := by
    rw [hoffset, BitVec.toNat_ofNat]
    exact Nat.mod_eq_of_lt (ho.trans_le hcount)
  refine ⟨_, hparse, ?_, ?_, ?_⟩
  · rw [hmsg, BitVec.toNat_ofNat]
    exact Nat.mod_eq_of_lt hslot
  · exact hnumber.symm ▸ ho
  · have hwhole := (Nat.mul_le_mul_right k.mtuBytes (Nat.succ_le_of_lt ho)).trans hlength
    rw [Nat.succ_mul] at hwhole
    have hlen : (packetBytes k.mtuBytes data o).length = k.mtuBytes := by
      rw [packetBytes, List.length_take, List.length_drop]
      omega
    dsimp only
    rw [hpayload, hnumber]
    refine List.ext_getElem (by rw [hlen, length_payload]) fun j hj _ => ?_
    simp only [packetBytes, payload, List.getElem_take, List.getElem_drop, List.getElem_map,
      List.getElem_range]
    exact hdata _ _

end Cargo

/-! ### The link -/

namespace Link

variable {k : Cargo} {l l' : Link}

/-- Every packet in the network is one of the cargo, and the threads write no others. -/
structure Laden (k : Cargo) (l : Link) : Prop where
  promising : l.pool.Promising k.Holds k.Keeps fun _ _ => True
  brings : ∀ p ∈ l.flight, k.Brings p

lemma Laden.holds (h : l.Laden k) : k.Holds l.memory := h.promising.1

lemma Laden.step (hk : k.Fits) (h : l.Laden k) (hstep : l.Step k.slot l') : l'.Laden k := by
  cases hstep with
  | receive i p hp idle =>
    refine ⟨h.promising.spawn ?_ fun _ _ => rfl, fun q hq => h.brings q (List.mem_of_mem_erase hq)⟩
    exact Cargo.receiveDatagram_meets hk (h.brings p hp) _
  | poll idle =>
    exact ⟨h.promising.spawn (Cargo.pollingRound_meets _) fun _ _ => rfl, h.brings⟩
  | move hmove => exact ⟨(h.promising.move hmove).1, h.brings⟩
  | duplicate p hp =>
    refine ⟨h.promising, fun q hq => ?_⟩
    rcases List.mem_cons.mp hq with rfl | hq
    · exact h.brings q hp
    · exact h.brings q hq

lemma Laden.lose (h : l.Laden k) (p : SDRPacket) : (l.lose p).Laden k :=
  ⟨h.promising, fun q hq => h.brings q (List.mem_of_mem_erase hq)⟩

lemma Laden.send (h : l.Laden k) {packets : List SDRPacket} (hbrings : ∀ p ∈ packets, k.Brings p) :
    (l.send packets).Laden k :=
  ⟨h.promising, fun q hq => (List.mem_append.mp hq).elim (h.brings q) (hbrings q)⟩

/-- The application leaves the message and the buffers alone. -/
lemma Laden.withMemory (h : l.Laden k) {m : ReceiverMemory}
    (hmsg : m.message k.slot = l.memory.message k.slot) (hbuffers : m.buffers = l.memory.buffers) :
    (l.withMemory m).Laden k := by
  obtain ⟨hholds, hkeeps⟩ := h.holds.congr hmsg hbuffers
  exact ⟨h.promising.outside hholds hkeeps, h.brings⟩

end Link

end SdrUdp
