import SdrUdp.Generation
import SdrUdp.ReceiverActions
import SdrUdp.Core.Fold

/-!
# Who holds a slot

Between two posts a slot keeps its message. So in any run of calls and thread steps, the message in
a slot belongs to the last post that took the slot, and its generation counts the posts before it.
-/

namespace SdrUdp

open SdrUdp.Core

/-! ### Slots between posts -/

/-- What all steps but the set-up of a slot respect: a message keeps its generation, and its buffer
until packets are sent to the null sink. -/
structure SlotsEvolve (m m' : ReceiverMemory) : Prop where
  parentCtx : m'.conn.parentCtx = m.conn.parentCtx
  counters : m'.conn.connectionCtx.generationCounters = m.conn.connectionCtx.generationCounters
  slots : ∀ s msg', m'.message s = some msg' → ∃ msg, m.message s = some msg ∧
    msg'.generation = msg.generation ∧ (msg'.buffer = msg.buffer ∨ msg'.buffer = some .nullSink)

instance : Std.Refl SlotsEvolve := ⟨fun _ => ⟨rfl, rfl, fun _ msg h => ⟨msg, h, rfl, Or.inl rfl⟩⟩⟩

instance : IsTrans ReceiverMemory SlotsEvolve where
  trans m₁ m₂ m₃ h h' := by
    refine ⟨h'.parentCtx.trans h.parentCtx, h'.counters.trans h.counters, fun s msg₃ hmsg₃ => ?_⟩
    obtain ⟨msg₂, hmsg₂, hgen₂, hbuf₂⟩ := h'.slots s msg₃ hmsg₃
    obtain ⟨msg₁, hmsg₁, hgen₁, hbuf₁⟩ := h.slots s msg₂ hmsg₂
    refine ⟨msg₁, hmsg₁, hgen₂.trans hgen₁, ?_⟩
    rcases hbuf₂ with hbuf₂ | hbuf₂
    · rw [hbuf₂]; exact hbuf₁
    · exact Or.inr hbuf₂

namespace SlotsEvolve

/-- A change outside the message table. -/
lemma of_message_eq {m m' : ReceiverMemory} (hparent : m'.conn.parentCtx = m.conn.parentCtx)
    (hcounters : m'.conn.connectionCtx.generationCounters
      = m.conn.connectionCtx.generationCounters)
    (hmessage : ∀ s, m'.message s = m.message s) : SlotsEvolve m m' :=
  ⟨hparent, hcounters, fun s msg h => ⟨msg, (hmessage s).symm.trans h, rfl, Or.inl rfl⟩⟩

/-- A change of one message in place. -/
lemma mapMessage (id : ℕ) (g : MessageContext → MessageContext) (m : ReceiverMemory)
    (hg : ∀ msg, (g msg).generation = msg.generation ∧
      ((g msg).buffer = msg.buffer ∨ (g msg).buffer = some .nullSink)) :
    SlotsEvolve m (m.mapMessage id g) := by
  refine ⟨rfl, rfl, fun s msg' h => ?_⟩
  by_cases hs : s = id
  · subst hs
    rw [ReceiverMemory.message_mapMessage, Option.map_eq_some_iff] at h
    obtain ⟨msg, hmsg, rfl⟩ := h
    exact ⟨msg, hmsg, (hg msg).1, (hg msg).2⟩
  · rw [ReceiverMemory.message_mapMessage_of_ne hs] at h
    exact ⟨msg', h, rfl, Or.inl rfl⟩

lemma sendMessage (msg : ControlMessage) (answer : ℤ) (m : ReceiverMemory) :
    SlotsEvolve m (m.sendMessage msg answer) :=
  of_message_eq (m.sendMessage_parentCtx msg answer)
    (by rw [ReceiverMemory.sendMessage_connectionCtx]) (m.sendMessage_message msg answer)

lemma writeBuffer (ptr : BufferPtr) (offset : ℕ) (data : List U8) (m : ReceiverMemory) :
    SlotsEvolve m (m.writeBuffer ptr offset data) := by
  cases ptr with
  | user b => exact of_message_eq rfl rfl fun _ => rfl
  | nullSink => exact of_message_eq rfl rfl fun _ => rfl

lemma releaseMessage (id : ℕ) (m : ReceiverMemory) :
    SlotsEvolve m
      { m with conn.connectionCtx := m.conn.connectionCtx.releaseMessage id } := by
  refine ⟨rfl, ConnectionContext.releaseMessage_generationCounters _ _, fun s msg h => ?_⟩
  refine ⟨msg, ?_, rfl, Or.inl rfl⟩
  simp only [ReceiverMemory.message, ConnectionContext.releaseMessage] at h ⊢
  split_ifs at h
  · exact h
  · by_cases hs : s = id
    · subst hs; simp at h
    · simpa [hs] using h

end SlotsEvolve

/-- So do the actions of all threads of a connection. -/
lemma ReceiverAction.evolves {act : ReceiverMemory → ReceiverMemory} (hact : ReceiverAction act)
    (m : ReceiverMemory) : SlotsEvolve m (act m) := by
  cases hact with
  | skip => exact Std.Refl.refl m
  | write ptr offset data => exact .writeBuffer ptr offset data m
  | setReceived id offset => exact .mapMessage id _ m fun _ => ⟨rfl, Or.inl rfl⟩
  | setChunk id c => exact .mapMessage id _ m fun _ => ⟨rfl, Or.inl rfl⟩
  | stop id => exact .mapMessage id _ m fun _ => ⟨rfl, Or.inl rfl⟩
  | leave id => exact .mapMessage id _ m fun _ => ⟨rfl, Or.inl rfl⟩
  | retire id =>
    rcases Nat.lt_or_ge id ConnectionContext.maxMessages with hid | hid
    · rw [ReceiverMemory.completeMessage_of_lt hid]
      exact .mapMessage id _ m fun _ => ⟨rfl, Or.inr rfl⟩
    · rw [ReceiverMemory.completeMessage_of_ge hid]
      exact Std.Refl.refl m
  | verdict isComplete answer => exact .sendMessage _ _ m

/-! ### Runs of the receiver -/

/-- A step of a worker, a poller or a protocol layer on one connection, or a change of its
parameters. -/
structure SlotWork where
  act : ReceiverMemory → ReceiverMemory
  evolves : ∀ m, SlotsEvolve m (act m)

/-- What happens at the receiver. -/
inductive ReceiverEvent where
  | call (c : Call)
  | work (i : ℕ) (w : SlotWork)

/-- What can happen on one connection: a post, an atomic action of a thread, and the slot operations
by themselves. -/
inductive SlotEvent where
  | recvPost (msgId : ℕ) (generation : U32) (buffer length : ℕ) (offer : ConnectionParams)
      (opened : Bool) (answer : ℤ)
  | thread (act : ReceiverMemory → ReceiverMemory) (h : ReceiverAction act)
  | allocateMessageSlot (msgId : ℕ) (generation : U32)
  | releaseMessage (msgId : ℕ)

def SlotEvent.apply (m : ReceiverMemory) : SlotEvent → ReceiverMemory
  | recvPost msgId generation buffer length offer opened answer =>
    (recvPostOnOffer m msgId generation buffer length offer opened answer).2
  | thread act _ => act m
  | allocateMessageSlot msgId generation =>
    match m.conn.connectionCtx.allocateMessageSlot msgId generation with
    | none          => m
    | some (_, ctx) => { m with conn.connectionCtx := ctx }
  | releaseMessage msgId =>
    { m with conn.connectionCtx := m.conn.connectionCtx.releaseMessage msgId }

namespace RecvPostResult

/-- The handle of a post that took a slot. -/
def handle : RecvPostResult → Option SDRRecvHandle
  | failed handle         => some handle
  | awaitsAccept handle _ => some handle
  | noAccept handle _     => some handle
  | posted handle _       => some handle
  | _                     => none

/-- The CTS that reached the sender. -/
def cts : RecvPostResult → Option ControlMessage
  | awaitsAccept _ cts => cts
  | noAccept _ cts     => cts
  | posted _ cts       => cts
  | _                  => none

lemma slot_eq (r : RecvPostResult) : r.slot = r.handle.map SDRRecvHandle.msgId := by
  cases r <;> rfl

end RecvPostResult

namespace ReceiverProcess

/-- No connection holds a message. -/
def NoMessages (p : ReceiverProcess) : Prop := ∀ i s, (p.connections i).message s = none

def event (hp : History × ReceiverProcess) : ReceiverEvent → History × ReceiverProcess
  | .call c   => call hp c
  | .work i w => (hp.1, hp.2.setConnection i (w.act (hp.2.connections i)))

def runEvents (p : ReceiverProcess) (events : List ReceiverEvent) : History × ReceiverProcess :=
  events.foldl event ([], p)

end ReceiverProcess

/-! ### Posts of a history -/

namespace History

/-- A post of a history, between what came after and what came before it. -/
structure Post (h : History) where
  later : History
  connection : ℕ
  result : RecvPostResult
  earlier : History
  eq : h = later ++ (connection, result) :: earlier

namespace Post

variable {h : History}

/-- The latest post. -/
def latest (i : ℕ) (r : RecvPostResult) (h : History) : Post ((i, r) :: h) := ⟨[], i, r, h, rfl⟩

/-- The same post after one more. -/
def older (post : h.Post) (e : ℕ × RecvPostResult) : Post (e :: h) :=
  ⟨e :: post.later, post.connection, post.result, post.earlier, congrArg (e :: ·) post.eq⟩

/-- Nobody else was given its slot since. -/
def Holds (post : h.Post) : Prop :=
  ∀ e ∈ post.later, ¬ (e.1 = post.connection ∧ e.2.slot = post.result.slot)

/-- No other post on its connection was given the same user buffer. -/
def OwnBuffer (post : h.Post) : Prop :=
  ∀ e ∈ post.later ++ post.earlier, e.1 = post.connection →
    e.2.handle.map SDRRecvHandle.userBuffer ≠ post.result.handle.map SDRRecvHandle.userBuffer

/-- Two posts of a history are the same, or each is among the others of the other one. -/
lemma eq_or_other (a b : h.Post) :
    (a.connection = b.connection ∧ a.result = b.result ∧ a.earlier = b.earlier) ∨
      ((a.connection, a.result) ∈ b.later ∧ (b.connection, b.result) ∈ a.earlier) ∨
      ((b.connection, b.result) ∈ a.later ∧ (a.connection, a.result) ∈ b.earlier) := by
  have heq := a.eq.symm.trans b.eq
  rw [List.append_eq_append_iff] at heq
  rcases heq with ⟨l, hlater, hrest⟩ | ⟨l, hlater, hrest⟩
  · cases l with
    | nil =>
      obtain ⟨hentry, hearlier⟩ := List.cons.inj hrest
      exact Or.inl ⟨congrArg Prod.fst hentry, congrArg Prod.snd hentry, hearlier⟩
    | cons e l =>
      obtain ⟨rfl, hearlier⟩ := List.cons.inj hrest
      exact Or.inr (Or.inl ⟨by simp [hlater], by simp [hearlier]⟩)
  · cases l with
    | nil =>
      obtain ⟨hentry, hearlier⟩ := List.cons.inj hrest
      exact Or.inl ⟨(congrArg Prod.fst hentry).symm, (congrArg Prod.snd hentry).symm,
        hearlier.symm⟩
    | cons e l =>
      obtain ⟨rfl, hearlier⟩ := List.cons.inj hrest
      exact Or.inr (Or.inr ⟨by simp [hlater], by simp [hearlier]⟩)

end Post

end History

/-! ### Who holds a slot -/

namespace ReceiverProcess

/-- What a call of `sdr_recv_post` does to the message tables. -/
structure Posts (p : ReceiverProcess) (i : ℕ) (r : RecvPostResult) (p' : ReceiverProcess) :
    Prop where
  kept : ∀ j s, (j = i → r.slot ≠ some s) →
    (p'.connections j).message s = (p.connections j).message s
  taken : ∀ handle, r.handle = some handle → ∃ msg,
    (p'.connections i).message handle.msgId = some msg ∧
      msg.generation = p.slotCounter i handle.msgId ∧
      msg.buffer = some (.user handle.userBuffer)
  cts : ∀ cts, r.cts = some cts → cts.params.transferId = p.receiverGenerationCounter

lemma Posts.trans {p p' p'' : ReceiverProcess} {i : ℕ} {r : RecvPostResult} (h : Posts p i r p')
    (hmessage : ∀ j s, (p''.connections j).message s = (p'.connections j).message s) :
    Posts p i r p'' where
  kept j s hs := (hmessage j s).trans (h.kept j s hs)
  taken handle hh := by
    obtain ⟨msg, hmsg, hrest⟩ := h.taken handle hh
    exact ⟨msg, (hmessage _ _).trans hmsg, hrest⟩
  cts := h.cts

lemma message_closeServer (p : ReceiverProcess) (i j s : ℕ) :
    ((p.setConnection i (closeServer (p.connections i))).connections j).message s
      = (p.connections j).message s := by
  by_cases h : j = i
  · subst h; simp [setConnection, closeServer, ReceiverMemory.message]
  · simp [setConnection, h]

lemma onOffer_posts (p : ReceiverProcess) (i buffer length : ℕ) (offer : ConnectionParams)
    (opened : Bool) (answer : ℤ) {r : RecvPostResult}
    (hslot : r.handle = (p.onOffer i buffer length offer opened answer).2.1.handle)
    (hcts : ∀ cts, r.cts = some cts →
      ∃ handle, (p.onOffer i buffer length offer opened answer).2.1 = .ready handle (some cts)) :
    Posts p i r (p.onOffer i buffer length offer opened answer).2.2 := by
  unfold onOffer at hslot hcts ⊢
  dsimp only at hslot hcts ⊢
  have hspec := recvPostOnOffer_spec (p.connections i)
    (allocateMsgId (p.contexts (p.connections i).conn.parentCtx)).1 p.receiverGenerationCounter
    buffer length offer opened answer
  generalize recvPostOnOffer _ _ _ _ _ _ _ _ = result at hspec hslot hcts ⊢
  refine ⟨fun j s hs => ?_, fun handle hh => ?_, fun cts hc => ?_⟩
  · by_cases hj : j = i
    · subst hj
      simp only [Function.update_self, ReceiverMemory.message]
      cases hh : result.1.handle with
      | none => rw [(hspec.refused hh).1]
      | some handle =>
        have hset := hspec.setUp handle hh
        obtain ⟨msg, htable, -⟩ := hset.table
        have hne := hs rfl
        rw [RecvPostResult.slot_eq, hslot, hh, hset.handle] at hne
        rw [htable, Function.update_of_ne fun he => hne (by simp [he])]
    · simp [hj]
  · have hset := hspec.setUp handle (hslot.symm.trans hh)
    obtain ⟨msg, htable, hgen, -⟩ := hset.table
    simp only [Function.update_self, ReceiverMemory.message, htable, hset.handle]
    exact ⟨_, rfl, hgen, rfl⟩
  · obtain ⟨handle, hready⟩ := hcts cts hc
    rw [(hspec.cts handle cts hready).2]
    rfl

lemma sdrRecvPost_posts (p : ReceiverProcess) (i buffer length : ℕ) (received : List Received)
    (opened : Bool) (answer : ℤ) :
    Posts p i (p.sdrRecvPost i buffer length received opened answer).1
      (p.sdrRecvPost i buffer length received opened answer).2 := by
  have hnothing : ∀ (r : RecvPostResult) (q : ReceiverProcess), r.handle = none → r.cts = none →
      (∀ j s, (q.connections j).message s = (p.connections j).message s) → Posts p i r q :=
    fun r q hh hc hq => ⟨fun j s _ => hq j s, fun _ h => by rw [hh] at h; simp at h,
      fun _ h => by rw [hc] at h; simp at h⟩
  unfold sdrRecvPost
  dsimp only
  split_ifs
  · exact hnothing _ _ rfl rfl fun _ _ => rfl
  · split
    · exact hnothing _ _ rfl rfl fun _ _ => rfl
    · exact hnothing _ _ rfl rfl (message_closeServer p i)
    · rename_i offer rest _
      have hposts := fun r => onOffer_posts p i buffer length offer.params opened answer (r := r)
      generalize p.onOffer i buffer length offer.params opened answer = result at hposts ⊢
      obtain ⟨msgId, outcome, q⟩ := result
      cases outcome with
      | refused => exact hposts _ rfl fun _ h => by simp [RecvPostResult.cts] at h
      | failed handle => exact hposts _ rfl fun _ h => by simp [RecvPostResult.cts] at h
      | ready handle cts =>
        have hready : ∀ r : RecvPostResult, r.handle = some handle →
            (∀ c, r.cts = some c → cts = some c) → Posts p i r q :=
          fun r hh hc => hposts r hh fun c h => ⟨handle, by rw [hc c h]⟩
        dsimp only
        split
        · exact hready _ rfl fun _ h => h
        · exact (hready (.noAccept handle cts) rfl fun _ h => h).trans (message_closeServer q i)
        · exact hready _ rfl fun _ h => h

/-- Every message in a slot belongs to the last post that took the slot, and every CTS announces how
many generations had been drawn. -/
structure Held (h : History) (p : ReceiverProcess) : Prop where
  holder : ∀ i s msg, (p.connections i).message s = some msg → ∃ (post : h.Post)
    (handle : SDRRecvHandle), post.connection = i ∧ post.result.handle = some handle ∧
      handle.msgId = s ∧ post.Holds ∧
      msg.generation = BitVec.ofNat 32 (1 + post.earlier.slotDraws i s) ∧
      (msg.buffer = some (.user handle.userBuffer) ∨ msg.buffer = some .nullSink)
  announced : ∀ (post : h.Post) cts, post.result.cts = some cts →
    cts.params.transferId = BitVec.ofNat 32 (1 + post.earlier.draws)

lemma NoMessages.held {p : ReceiverProcess} (h : p.NoMessages) : Held [] p where
  holder i s msg hmsg := absurd hmsg (by simp [h i s])
  announced post := absurd post.eq (by simp)

/-- Steps that keep the slots keep their holders. -/
lemma Held.evolves {h : History} {p p' : ReceiverProcess} (hheld : Held h p)
    (hslots : ∀ i, SlotsEvolve (p.connections i) (p'.connections i)) : Held h p' where
  holder i s msg' hmsg' := by
    obtain ⟨msg, hmsg, hgen, hbuf⟩ := (hslots i).slots s msg' hmsg'
    obtain ⟨post, handle, hi, hh, hs, hholds, hcount, hptr⟩ := hheld.holder i s msg hmsg
    refine ⟨post, handle, hi, hh, hs, hholds, hgen.trans hcount, ?_⟩
    rcases hbuf with hbuf | hbuf
    · rw [hbuf]; exact hptr
    · exact Or.inr hbuf
  announced := hheld.announced

/-- A post takes over its slot. -/
lemma Held.posts {h : History} {p p' : ReceiverProcess} {i : ℕ} {r : RecvPostResult}
    (hheld : Held h p) (hc : Counted h p) (hp : Posts p i r p') : Held ((i, r) :: h) p' where
  holder j s msg hmsg := by
    by_cases hnew : j = i ∧ r.slot = some s
    · obtain ⟨rfl, hslot⟩ := hnew
      rw [RecvPostResult.slot_eq, Option.map_eq_some_iff] at hslot
      obtain ⟨handle, hh, rfl⟩ := hslot
      obtain ⟨msg', hmsg', hgen, hbuf⟩ := hp.taken handle hh
      obtain rfl := Option.some.inj (hmsg.symm.trans hmsg')
      refine ⟨.latest j r h, handle, rfl, hh, rfl, ?_, hgen.trans (hc.slots _ _), Or.inl hbuf⟩
      exact fun e he => absurd he List.not_mem_nil
    · rw [hp.kept j s fun hj hs => hnew ⟨hj, hs⟩] at hmsg
      obtain ⟨post, handle, hj, hh, hs, hholds, hrest⟩ := hheld.holder j s msg hmsg
      refine ⟨post.older (i, r), handle, hj, hh, hs, ?_, hrest⟩
      intro e he
      rcases List.mem_cons.mp he with rfl | he
      · rintro ⟨hi, hslot⟩
        refine hnew ⟨(hi.trans hj).symm, hslot.trans ?_⟩
        change post.result.slot = _
        rw [RecvPostResult.slot_eq, hh, Option.map_some, hs]
      · exact hholds e he
  announced post cts hcts := by
    obtain ⟨later, j, r', earlier, heq⟩ := post
    cases later with
    | nil =>
      obtain ⟨hentry, rfl⟩ := List.cons.inj heq
      obtain ⟨rfl, rfl⟩ := Prod.mk.inj hentry
      exact (hp.cts cts hcts).trans hc.counter
    | cons e later =>
      exact hheld.announced ⟨later, j, r', earlier, (List.cons.inj heq).2⟩ cts hcts

/-- A change of one connection that keeps its slots. -/
lemma evolves_setConnection {p : ReceiverProcess} {i : ℕ} {m : ReceiverMemory}
    (h : SlotsEvolve (p.connections i) m) (j : ℕ) :
    SlotsEvolve (p.connections j) ((p.setConnection i m).connections j) := by
  by_cases hj : j = i
  · subst hj; simpa [setConnection] using h
  · simpa [setConnection, hj] using Std.Refl.refl (r := SlotsEvolve) (p.connections j)

lemma sdrRecvComplete_evolves (p : ReceiverProcess) (i : ℕ) (handle : SDRRecvHandle) (answer : ℤ)
    (j : ℕ) :
    SlotsEvolve (p.connections j) ((p.sdrRecvComplete i handle answer).connections j) := by
  unfold sdrRecvComplete
  obtain ⟨isComplete, hrun⟩ := run_sdrRecvComplete
    (any_polling_joined handle.msgId (p.connections i)) answer
  dsimp only
  rw [hrun]
  refine evolves_setConnection ?_ j
  exact IsTrans.trans _ _ _ ((ReceiverAction.leave handle.msgId).evolves _)
    (IsTrans.trans _ _ _ ((ReceiverAction.retire handle.msgId).evolves _)
      ((ReceiverAction.verdict isComplete answer).evolves _))

/-- One event keeps the books. -/
lemma Held.event {hp : History × ReceiverProcess} (h : Counted hp.1 hp.2 ∧ Held hp.1 hp.2)
    (e : ReceiverEvent) :
    Counted (event hp e).1 (event hp e).2 ∧ Held (event hp e).1 (event hp e).2 := by
  cases e with
  | call c =>
    refine ⟨h.1.call c, ?_⟩
    cases c with
    | recvPost i buffer length received opened answer =>
      exact h.2.posts h.1 (sdrRecvPost_posts _ _ _ _ _ _ _)
    | recvComplete i handle answer => exact h.2.evolves (sdrRecvComplete_evolves _ _ _ _)
    | releaseMessage i msgId => exact h.2.evolves (evolves_setConnection (.releaseMessage _ _))
  | work i w =>
    have hw := w.evolves (hp.2.connections i)
    exact ⟨h.1.keeps (keeps_setConnection hw.parentCtx hw.counters),
      h.2.evolves (evolves_setConnection hw)⟩

lemma held_runEvents {p : ReceiverProcess} (hinit : p.Initial) (hempty : p.NoMessages)
    (events : List ReceiverEvent) :
    Counted (p.runEvents events).1 (p.runEvents events).2 ∧
      Held (p.runEvents events).1 (p.runEvents events).2 :=
  foldl_keeps (P := fun hp : History × ReceiverProcess => Counted hp.1 hp.2 ∧ Held hp.1 hp.2)
    (fun _ e _ h => Held.event h e) ⟨hinit.counted, hempty.held⟩

end ReceiverProcess

end SdrUdp
