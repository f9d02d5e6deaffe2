import SdrUdp.SlotHistory

/-!
# Buffer capacities

`write_packet_to_buffer` trusts the `buffer_size` of a message. It is a bound on the storage behind
`buffer` until `complete_message` redirects the pointer and keeps the size.
-/

namespace SdrUdp

open SdrUdp.Core

/-- Bytes of storage behind a pointer, `size` being the sizes of the application's buffers. -/
def BufferPtr.capacity (size : ℕ → ℕ) : BufferPtr → ℕ
  | user b   => size b
  | nullSink => ConnectionContext.nullSinkSize

/-- The `buffer_size` of a message does not exceed the storage behind its buffer. -/
def MessageContext.Bounded (size : ℕ → ℕ) (msg : MessageContext) : Prop :=
  ∀ ptr, msg.buffer = some ptr → msg.bufferSize ≤ ptr.capacity size

/-- So it is for all messages of a connection. -/
def Bounded (size : ℕ → ℕ) (m : ReceiverMemory) : Prop :=
  ∀ id msg, m.message id = some msg → msg.Bounded size

namespace SlotEvent

/-- A post is given a buffer of at least `length` bytes. -/
def Fits (size : ℕ → ℕ) : SlotEvent → Prop
  | recvPost _ _ buffer length _ _ _ => length ≤ size buffer
  | _                                => True

/-- Where `complete_message` meets a message, its `buffer_size` is no more than the null sink
holds. -/
def SinkFits (m : ReceiverMemory) : SlotEvent → Prop
  | thread act _ => ∀ id < ConnectionContext.maxMessages, act = ReceiverMemory.completeMessage id →
      ∀ msg, m.message id = some msg → msg.bufferSize ≤ ConnectionContext.nullSinkSize
  | _            => True

end SlotEvent

/-! ### What keeps the bounds -/

/-- Messages keep buffer and size, or are dropped. -/
def BuffersKept (m m' : ReceiverMemory) : Prop :=
  ∀ id msg', m'.message id = some msg' → ∃ msg, m.message id = some msg ∧
    msg'.buffer = msg.buffer ∧ msg'.bufferSize = msg.bufferSize

section Bounded

variable {size : ℕ → ℕ} {m m' : ReceiverMemory}

lemma BuffersKept.bounded (h : BuffersKept m m') (hm : Bounded size m) : Bounded size m' := by
  intro id msg' hmsg' ptr hptr
  obtain ⟨msg, hmsg, hbuffer, hsize⟩ := h id msg' hmsg'
  rw [hsize]
  exact hm id msg hmsg ptr (hbuffer.symm.trans hptr)

lemma BuffersKept.of_message_eq (h : ∀ id, m'.message id = m.message id) : BuffersKept m m' :=
  fun id msg hmsg => ⟨msg, (h id).symm.trans hmsg, rfl, rfl⟩

lemma BuffersKept.mapMessage (id : ℕ) (g : MessageContext → MessageContext) (m : ReceiverMemory)
    (hg : ∀ msg, (g msg).buffer = msg.buffer ∧ (g msg).bufferSize = msg.bufferSize) :
    BuffersKept m (m.mapMessage id g) := by
  intro id' msg' h
  by_cases hid : id' = id
  · subst hid
    rw [ReceiverMemory.message_mapMessage, Option.map_eq_some_iff] at h
    obtain ⟨msg, hmsg, rfl⟩ := h
    exact ⟨msg, hmsg, (hg msg).1, (hg msg).2⟩
  · rw [ReceiverMemory.message_mapMessage_of_ne hid] at h
    exact ⟨msg', h, rfl, rfl⟩

/-- A slot that is set up anew is bounded when its message is. -/
lemma Bounded.update (hm : Bounded size m) {id : ℕ} {msg : MessageContext}
    (hmsg : msg.Bounded size)
    (htable : m'.conn.connectionCtx.msgTable
      = Function.update m.conn.connectionCtx.msgTable id (some msg)) : Bounded size m' := by
  intro id' msg' h
  rw [ReceiverMemory.message, htable] at h
  by_cases hid : id' = id
  · subst hid
    rw [Function.update_self] at h
    exact Option.some.inj h ▸ hmsg
  · rw [Function.update_of_ne hid] at h
    exact hm id' msg' h

/-- The message that `complete_message` finds decides whether the bounds survive it. -/
lemma bounded_completeMessage_iff {id : ℕ} (hid : id < ConnectionContext.maxMessages)
    (hm : Bounded size m) : Bounded size (m.completeMessage id) ↔
      ∀ msg, m.message id = some msg → msg.bufferSize ≤ ConnectionContext.nullSinkSize := by
  rw [ReceiverMemory.completeMessage_of_lt hid]
  constructor
  · intro h msg hmsg
    exact h id (ConnectionContext.retire msg) (by rw [ReceiverMemory.message_mapMessage, hmsg]; rfl)
      .nullSink rfl
  · intro h id' msg' hmsg'
    by_cases heq : id' = id
    · subst heq
      rw [ReceiverMemory.message_mapMessage, Option.map_eq_some_iff] at hmsg'
      obtain ⟨msg, hmsg, rfl⟩ := hmsg'
      rintro ptr hptr
      obtain rfl := Option.some.inj hptr
      exact h msg hmsg
    · rw [ReceiverMemory.message_mapMessage_of_ne heq] at hmsg'
      exact hm id' msg' hmsg'

/-- The actions of the threads, `complete_message` apart, leave buffers and sizes alone. -/
lemma ReceiverAction.buffersKept {act : ReceiverMemory → ReceiverMemory}
    (hact : ReceiverAction act) (m : ReceiverMemory) :
    BuffersKept m (act m) ∨
      ∃ id < ConnectionContext.maxMessages, act = ReceiverMemory.completeMessage id := by
  cases hact with
  | skip => exact Or.inl (.of_message_eq fun _ => rfl)
  | write ptr offset data =>
    refine Or.inl (.of_message_eq fun _ => ?_)
    cases ptr <;> rfl
  | setReceived id offset => exact Or.inl (.mapMessage id _ m fun _ => ⟨rfl, rfl⟩)
  | setChunk id c => exact Or.inl (.mapMessage id _ m fun _ => ⟨rfl, rfl⟩)
  | stop id => exact Or.inl (.mapMessage id _ m fun _ => ⟨rfl, rfl⟩)
  | leave id => exact Or.inl (.mapMessage id _ m fun _ => ⟨rfl, rfl⟩)
  | retire id =>
    rcases Nat.lt_or_ge id ConnectionContext.maxMessages with hid | hid
    · exact Or.inr ⟨id, hid, rfl⟩
    · rw [ReceiverMemory.completeMessage_of_ge hid]
      exact Or.inl (.of_message_eq fun _ => rfl)
  | verdict isComplete answer =>
    exact Or.inl (.of_message_eq (m.sendMessage_message _ answer))

lemma bounded_recvPost (hm : Bounded size m) (msgId : ℕ) (generation : U32) {buffer length : ℕ}
    (offer : ConnectionParams) (opened : Bool) (answer : ℤ) (hlength : length ≤ size buffer) :
    Bounded size (recvPostOnOffer m msgId generation buffer length offer opened answer).2 := by
  have hspec := recvPostOnOffer_spec m msgId generation buffer length offer opened answer
  generalize recvPostOnOffer m msgId generation buffer length offer opened answer
    = result at hspec ⊢
  cases hh : result.1.handle with
  | none =>
    refine (BuffersKept.of_message_eq fun id => ?_).bounded hm
    rw [ReceiverMemory.message, (hspec.refused hh).1, ReceiverMemory.message]
  | some handle =>
    obtain ⟨msg, htable, -⟩ := (hspec.setUp handle hh).table
    refine hm.update ?_ htable
    rintro ptr hptr
    obtain rfl := Option.some.inj hptr
    exact hlength

lemma bounded_allocateMessageSlot (hm : Bounded size m) (msgId : ℕ) (generation : U32) :
    Bounded size ((SlotEvent.allocateMessageSlot msgId generation).apply m) := by
  rw [SlotEvent.apply]
  split
  · exact hm
  · rename_i msg ctx hslot
    have hbuffer : msg.buffer = none := by
      unfold ConnectionContext.allocateMessageSlot at hslot
      split_ifs at hslot
      obtain ⟨rfl, -⟩ := Prod.mk.inj (Option.some.inj hslot)
      rfl
    obtain ⟨-, -, -, -, -, -, rfl⟩ := ConnectionContext.allocateMessageSlot_eq_some hslot
    exact hm.update (fun ptr hptr => by rw [hbuffer] at hptr; simp at hptr) rfl

lemma buffersKept_releaseMessage (id : ℕ) (m : ReceiverMemory) :
    BuffersKept m ((SlotEvent.releaseMessage id).apply m) := by
  intro id' msg h
  refine ⟨msg, ?_, rfl, rfl⟩
  simp only [SlotEvent.apply, ReceiverMemory.message, ConnectionContext.releaseMessage] at h ⊢
  split_ifs at h
  · exact h
  · by_cases hid : id' = id
    · subst hid; simp at h
    · simpa [hid] using h

/-- One event keeps the bounds exactly when no large message goes to the null sink. -/
lemma bounded_apply_iff (hm : Bounded size m) {e : SlotEvent} (he : e.Fits size) :
    Bounded size (e.apply m) ↔ e.SinkFits m := by
  cases e with
  | recvPost msgId generation buffer length offer opened answer =>
    exact iff_of_true (bounded_recvPost hm msgId generation offer opened answer he) trivial
  | thread act hact =>
    constructor
    · rintro h id hid rfl
      exact (bounded_completeMessage_iff hid hm).mp h
    · intro h
      rcases hact.buffersKept m with hkept | ⟨id, hid, rfl⟩
      · exact hkept.bounded hm
      · exact (bounded_completeMessage_iff hid hm).mpr (h id hid rfl)
  | allocateMessageSlot msgId generation =>
    exact iff_of_true (bounded_allocateMessageSlot hm msgId generation) trivial
  | releaseMessage msgId =>
    exact iff_of_true ((buffersKept_releaseMessage msgId m).bounded hm) trivial

/-- In a run from a connection without messages, `buffer_size` bounds the storage in every state
exactly when `complete_message` is used on messages of at most one byte only. -/
theorem bounded_throughout_iff (hempty : ∀ id, m.message id = none) {events : List SlotEvent}
    (hfits : ∀ e ∈ events, e.Fits size) :
    Throughout (Bounded size) SlotEvent.apply events m ↔
      EachStep (fun m e => e.SinkFits m) SlotEvent.apply events m :=
  throughout_iff (fun _ e he hm => bounded_apply_iff hm (hfits e he)) fun id msg hmsg => by
    rw [hempty id] at hmsg; simp at hmsg

/-- A post of `length` bytes that is completed. -/
def postAndComplete (length : ℕ) : List SlotEvent :=
  [.recvPost 0 1 0 length (desiredParams .zero length) true sizeofControlMessage,
    .thread (ReceiverMemory.completeMessage 0) (.retire 0)]

/-- A message of one byte may be completed. -/
theorem bounded_throughout_one :
    Throughout (Bounded fun _ => 1) SlotEvent.apply (postAndComplete 1) ReceiverMemory.idle := by
  have hready : (recvPostOnOffer ReceiverMemory.idle 0 1 0 1 (desiredParams .zero 1) true
      sizeofControlMessage).1.handle = some ⟨0, 1, 0, 1⟩ := by
    decide +kernel
  obtain ⟨msg₀, htable, -⟩ := ((recvPostOnOffer_spec ReceiverMemory.idle 0 1 0 1
    (desiredParams .zero 1)
    true sizeofControlMessage).setUp _ hready).table
  refine (bounded_throughout_iff (fun _ => rfl) fun e he => ?_).mpr ⟨trivial, ?_, trivial⟩
  · rcases List.mem_pair.mp he with rfl | rfl
    · exact le_rfl
    · trivial
  · intro id _ _ msg hmsg
    rw [ReceiverMemory.message, SlotEvent.apply, htable] at hmsg
    by_cases hid : id = 0
    · rw [hid, Function.update_self] at hmsg
      exact Option.some.inj hmsg ▸ le_rfl
    · rw [Function.update_of_ne hid] at hmsg
      exact absurd hmsg.symm (Option.some_ne_none msg)

/-- After a message of four bytes is completed, its `buffer_size` is still 4, but its buffer is the
null sink. -/
theorem not_bounded_completed :
    (∀ e ∈ postAndComplete 4, e.Fits fun _ => 4) ∧
      ¬ Bounded (fun _ => 4) ((postAndComplete 4).foldl SlotEvent.apply ReceiverMemory.idle) := by
  constructor
  · intro e he
    rcases List.mem_pair.mp he with rfl | rfl
    · exact le_rfl
    · trivial
  · intro h
    have hmsg : (((postAndComplete 4).foldl SlotEvent.apply ReceiverMemory.idle).message 0).map
        (fun msg => (msg.buffer, msg.bufferSize)) = some (some .nullSink, 4) := by
      decide +kernel
    obtain ⟨msg, hmsg, heq⟩ := Option.map_eq_some_iff.mp hmsg
    obtain ⟨hbuffer, hsize⟩ := Prod.mk.inj heq
    have := h 0 msg hmsg .nullSink hbuffer
    rw [hsize] at this
    exact absurd this (by decide)

/-- Where the bounds hold, what `write_packet_to_buffer` copies stays within the storage. -/
lemma Bounded.copied_le (hm : Bounded size m) {id : ℕ} {msg : MessageContext} {ptr : BufferPtr}
    (hmsg : m.message id = some msg) (hptr : msg.buffer = some ptr) {offset : ℕ}
    (hoffset : offset < msg.bufferSize) (payload : List U8) :
    offset + (payload.take (msg.bufferSize - offset)).length ≤ ptr.capacity size := by
  have := hm id msg hmsg ptr hptr
  rw [List.length_take]
  omega

end Bounded

end SdrUdp
