import SdrUdp.Matching

/-!
# Which receive a completion message is about

A completion message names no transfer. It goes to whatever loop of the sender reads next, and the
stream keeps the order in which the receives were completed.
-/

namespace SdrUdp

open SdrUdp.Core

/-- Every completion message that ended a poll was sent for the receive that the polled send is
matched with. -/
def Session.Attributed (s : Session) : Prop :=
  ∀ send post, (some send, post) ∈ s.consumed → ∃ h, s.sends[send]? = some h ∧ post = h.post

def Network.Attributed (w : Network) : Prop := ∀ i, (w.sessions i).Attributed

/-- If a poll takes a completion message, then of the receives that were completed, the first whose
message is not yet taken is the one that the polled send is matched with. -/
def Network.InTurn (w : Network) (e : ℕ × SessionEvent) : Prop :=
  let s := w.sessions e.1
  ∀ send f rest h, e.2 = .takeCompletion → s.sending = .polling send → s.clientOpen = true →
    s.toSender = f :: rest → f.message.isCompletion = true → s.sends[send]? = some h →
    s.completes[s.consumed.length]? = some h.post

/-! ### The stream keeps the order -/

namespace Session

/-- The completion messages under way, by the receives they were sent for. -/
def completionQueue (s : Session) : List ℕ :=
  (s.toSender.filter fun f => f.message.isCompletion).map InFlight.post

/-- What was taken and what is under way is what was sent, in order; and a poll is for a send. -/
structure Fifo (s : Session) : Prop where
  order : s.consumed.map Prod.snd ++ s.completionQueue = s.completes
  polling : ∀ send, s.sending = .polling send → send < s.sends.length

variable {s s' : Session} {recvId draws sendId : ℕ} {e : SessionEvent}

lemma fifo_fresh (receiver : ReceiverMemory) (sender : SDRConnection) :
    (fresh receiver sender).Fifo := ⟨rfl, fun _ h => SendPhase.noConfusion h⟩

/-- The next message to be taken was sent for the first receive whose message was not taken. -/
lemma Fifo.head (h : s.Fifo) {f : InFlight} {rest : List InFlight} (hqueue : s.toSender = f :: rest)
    (hf : f.message.isCompletion = true) : s.completes[s.consumed.length]? = some f.post := by
  have hhead : s.completionQueue = f.post :: (rest.filter fun f => f.message.isCompletion).map
      InFlight.post := by
    simp [completionQueue, hqueue, hf]
  rw [← h.order, hhead, List.getElem?_append_right (by rw [List.length_map]), List.length_map,
    Nat.sub_self]
  rfl

/-- Taking a message moves it from the queue to the record. -/
lemma Fifo.take (h : s.Fifo) {f : InFlight} {taker : Option ℕ}
    (hqueue : s.toSender = f :: s'.toSender)
    (hconsumed : s'.consumed = s.consume taker f) (hcompletes : s'.completes = s.completes) :
    s'.consumed.map Prod.snd ++ s'.completionQueue = s'.completes := by
  rw [hcompletes, ← h.order, hconsumed, completionQueue, completionQueue, hqueue, consume]
  by_cases hf : f.message.isCompletion = true
  · simp [hf]
  · simp [hf]

lemma not_isCompletion_of_cts {msg : ControlMessage} (h : msg.msgType = .cts) :
    msg.isCompletion = false := by
  rw [ControlMessage.isCompletion, h]
  decide

lemma Fifo.effect (h : s.Fifo) (heff : Effect s recvId draws sendId e s') : s'.Fifo := by
  have hsame : s'.sends = s.sends → s'.sending = s.sending →
      ∀ send, s'.sending = .polling send → send < s'.sends.length :=
        fun hsends hsending send hs => by
    rw [hsends]
    exact h.polling send (hsending ▸ hs)
  cases heff with
  | quiet posts sends toSender completes consumed sending polling finish poll =>
    refine ⟨?_, fun send hs => ?_⟩
    · rw [consumed, completionQueue, toSender, completes]
      exact h.order
    · rw [sends]
      exact (polling send hs).elim (h.polling send) id
  | posted handle cts slotGeneration msgId type posts toSender sends completes consumed sending =>
    refine ⟨?_, hsame sends sending⟩
    rw [consumed, completes, ← h.order, completionQueue, completionQueue, toSender]
    simp [not_isCompletion_of_cts type]
  | completed new lt type toSender completes posts sends consumed sending =>
    refine ⟨?_, hsame sends sending⟩
    have hall : ∀ post, (new.map fun msg => (⟨msg, post⟩ : InFlight)).filter
        (fun f => f.message.isCompletion) = new.map fun msg => ⟨msg, post⟩ := by
      refine fun post => List.filter_eq_self.mpr fun f hf => ?_
      obtain ⟨msg, hmsg, rfl⟩ := List.mem_map.mp hf
      exact type msg hmsg
    rw [consumed, completes, ← h.order, completionQueue, completionQueue, toSender,
      List.filter_append, hall, List.map_append, List.map_map, List.append_assoc]
    rfl
  | gotCts data f queue type sending posts sends completes consumed =>
    refine ⟨?_, fun send hs => SendPhase.noConfusion (sending.symm.trans hs)⟩
    rw [consumed, completes, ← h.order, completionQueue, completionQueue, queue]
    simp [not_isCompletion_of_cts type]
  | skipped f queue consumed sending posts sends completes =>
    exact ⟨h.take queue consumed completes, hsame sends sending⟩
  | sent data f handle packets got mtuBytes packetsPerChunk socket msgId generation named sends
      sending posts toSender completes consumed =>
    refine ⟨?_, fun send hs => SendPhase.noConfusion (sending.symm.trans hs)⟩
    rw [consumed, completionQueue, toSender, completes]
    exact h.order
  | unsent data f got failed sends sending posts toSender completes consumed =>
    refine ⟨?_, fun send hs => SendPhase.noConfusion (sending.symm.trans hs)⟩
    rw [consumed, completionQueue, toSender, completes]
    exact h.order
  | polled send f polling clientOpen queue consumed sending posts sends completes =>
    refine ⟨h.take queue consumed completes, ?_⟩
    rcases sending with sending | sending
    · exact fun send hs => SendPhase.noConfusion (sending.symm.trans hs)
    · exact hsame sends sending

/-! ### Who takes what -/

/-- More sends, and messages taken by handshakes, do not matter. -/
lemma Attributed.of_append (h : s.Attributed) {new : List PostedSend}
    (hsends : s'.sends = s.sends ++ new)
    (hconsumed : ∀ send post, (some send, post) ∈ s'.consumed → (some send, post) ∈ s.consumed) :
    s'.Attributed := by
  intro send post hmem
  obtain ⟨hs, hget, hpost⟩ := h send post (hconsumed send post hmem)
  refine ⟨hs, ?_, hpost⟩
  rw [hsends, List.getElem?_append_left (List.getElem?_eq_some_iff.mp hget).1]
  exact hget

/-- One more message that a poll takes is its own when it was sent for the matched receive. -/
lemma Attributed.taken_iff (h : s.Attributed) {send post : ℕ} {hs : PostedSend}
    (hsends : s'.sends = s.sends) (hconsumed : s'.consumed = s.consumed ++ [(some send, post)])
    (hget : s.sends[send]? = some hs) : s'.Attributed ↔ post = hs.post := by
  constructor
  · intro h'
    obtain ⟨hs', hget', hpost⟩ := h' send post
      (hconsumed ▸ List.mem_append_right _ (List.mem_singleton_self _))
    rw [hsends] at hget'
    obtain rfl := Option.some.inj (hget.symm.trans hget')
    exact hpost
  · intro hpost send' post' hmem
    rw [hconsumed] at hmem
    rw [hsends]
    rcases List.mem_append.mp hmem with hmem | hmem
    · exact h send' post' hmem
    · obtain ⟨hsend, hp⟩ := Prod.mk.inj (List.mem_singleton.mp hmem)
      obtain rfl := Option.some.inj hsend
      exact ⟨hs, hget, hp.trans hpost⟩

/-- Only a poll can take a message that is not its own, and does so out of turn. -/
lemma attributed_effect_iff (h : s.Attributed) (hfifo : s.Fifo)
    (heff : Effect s recvId draws sendId e s') :
    s'.Attributed ↔ ∀ send f rest hs, e = .takeCompletion → s.sending = .polling send →
      s.clientOpen = true → s.toSender = f :: rest → f.message.isCompletion = true →
      s.sends[send]? = some hs → s.completes[s.consumed.length]? = some hs.post := by
  have hsame : s'.sends = s.sends → s'.consumed = s.consumed → s'.Attributed :=
    fun hsends hconsumed => h.of_append (by rw [hsends, List.append_nil])
      fun _ _ hmem => hconsumed ▸ hmem
  cases heff with
  | quiet posts sends toSender completes consumed sending polling finish poll =>
    refine iff_of_true (hsame sends consumed) fun send f rest hs he hp hopen hqueue => ?_
    exact absurd (poll he send f rest hp hqueue) (by rw [hopen]; decide)
  | posted handle cts slotGeneration msgId type posts toSender sends completes consumed sending =>
    exact iff_of_true (hsame sends consumed) fun _ _ _ _ he => SessionEvent.noConfusion he
  | completed new lt type toSender completes posts sends consumed sending =>
    exact iff_of_true (hsame sends consumed) fun _ _ _ _ he => SessionEvent.noConfusion he
  | gotCts data f queue type sending posts sends completes consumed =>
    exact iff_of_true (hsame sends consumed) fun _ _ _ _ he => SessionEvent.noConfusion he
  | sent data f handle packets got mtuBytes packetsPerChunk socket msgId generation named sends
      sending posts toSender completes consumed =>
    exact iff_of_true (h.of_append sends fun _ _ hmem => consumed ▸ hmem)
      fun _ _ _ _ he => SessionEvent.noConfusion he
  | unsent data f got failed sends sending posts toSender completes consumed =>
    exact iff_of_true (hsame sends consumed) fun _ _ _ _ he => SessionEvent.noConfusion he
  | skipped f queue consumed sending posts sends completes =>
    refine iff_of_true (h.of_append (by rw [sends, List.append_nil]) fun send post hmem => ?_)
      fun _ _ _ _ he => SessionEvent.noConfusion he
    rw [consumed, consume] at hmem
    split_ifs at hmem
    · simpa using hmem
    · exact hmem
  | polled send f polling clientOpen queue consumed sending posts sends completes =>
    obtain ⟨hs, hget⟩ : ∃ hs, s.sends[send]? = some hs :=
      ⟨_, List.getElem?_eq_getElem (hfifo.polling send polling)⟩
    by_cases hf : f.message.isCompletion = true
    · have hnew : s'.Attributed ↔ f.post = hs.post := by
        rw [consume, if_pos hf] at consumed
        exact h.taken_iff sends consumed hget
      rw [hnew]
      constructor
      · intro hpost send' g rest hs' _ hp _ hqueue hg hget'
        obtain rfl := SendPhase.polling.inj (polling.symm.trans hp)
        obtain rfl := Option.some.inj (hget.symm.trans hget')
        rw [hfifo.head hqueue hg]
        obtain ⟨rfl, -⟩ := List.cons.inj (queue.symm.trans hqueue)
        rw [hpost]
      · intro hall
        have hturn := hall send f _ hs rfl polling clientOpen queue hf hget
        rw [hfifo.head queue hf] at hturn
        exact Option.some.inj hturn
    · refine iff_of_true (hsame sends ?_) fun send' g rest hs' _ _ _ hqueue hg => ?_
      · rw [consumed, consume, if_neg hf]
      · obtain ⟨rfl, -⟩ := List.cons.inj (queue.symm.trans hqueue)
        exact absurd hg hf

end Session

namespace Network

variable {w : Network}

lemma Initial.fifo (h : w.Initial) (i : ℕ) : (w.sessions i).Fifo := by
  obtain ⟨receiver, sender, hs⟩ := h.sessions i
  exact hs ▸ Session.fifo_fresh receiver sender

lemma Initial.attributed (h : w.Initial) : w.Attributed := by
  intro i send post hmem
  obtain ⟨receiver, sender, hs⟩ := h.sessions i
  rw [hs] at hmem
  exact absurd hmem List.not_mem_nil

lemma attributed_step_iff (h : ∀ i, (w.sessions i).Fifo) (ha : w.Attributed)
    (e : ℕ × SessionEvent) : (w.step e).Attributed ↔ w.InTurn e :=
  (forall_step_iff ha e).trans
    (Session.attributed_effect_iff (ha e.1) (h e.1) (Session.step_effect _ _ _ _ e.2))

/-- Over any run of calls on a connection, every completion message that ends a poll was sent
for the matched receive exactly when the polls take their turns: when a poll takes a message, its
receive is the first of the completed ones whose message no poll and no handshake has taken. -/
theorem attributed_throughout_iff (h : w.Initial) (events : List (ℕ × SessionEvent)) :
    Throughout Attributed step events w ↔ EachStep InTurn step events w :=
  throughout_iff_of_invariant (I := fun w : Network => ∀ i, (w.sessions i).Fifo)
    (fun _ e _ hf => (forall_step_iff hf e).mpr ((hf e.1).effect (Session.step_effect _ _ _ _ _)))
    (fun _ e _ hf ha => attributed_step_iff hf ha e)
    h.fifo h.attributed

/-- Only a poll that takes a message has to be in turn. -/
lemma inTurn_of_ne (w : Network) {e : ℕ × SessionEvent} (h : e.2 ≠ .takeCompletion) : w.InTurn e :=
  fun _ _ _ _ he => absurd he h

/-- Receive `post` is completed, and send `send` is polled. -/
def completion (i post send : ℕ) : List (ℕ × SessionEvent) :=
  [(i, .recvComplete post sizeofControlMessage), (i, .sendPoll send), (i, .takeCompletion)]

/-- One message, completed and polled. -/
theorem attributed_throughout_single :
    Throughout Attributed step (handshake 0 ++ completion 0 0 0) sample := by
  refine (attributed_throughout_iff sample_initial _).mpr ?_
  refine ⟨inTurn_of_ne _ (by simp), inTurn_of_ne _ (by simp), inTurn_of_ne _ (by simp),
    inTurn_of_ne _ (by simp), inTurn_of_ne _ (by simp), inTurn_of_ne _ (by simp),
    inTurn_of_ne _ (by simp), inTurn_of_ne _ (by simp), ?_, trivial⟩
  intro send f rest h _ _ _ _ _ hget
  have hsends :
      ((((handshake 0 ++ completion 0 0 0).take 8).foldl step sample).sessions 0).sends.map
      PostedSend.post = [0] := by
    decide +kernel
  have hcompletes : ((((handshake 0 ++ completion 0 0 0).take 8).foldl step
      sample).sessions 0).completes = [0] ∧ ((((handshake 0 ++ completion 0 0 0).take 8).foldl step
      sample).sessions 0).consumed = [] := by
    decide +kernel
  have hpost : h.post ∈ [0] := hsends ▸ List.mem_map_of_mem (List.mem_of_getElem? hget)
  rw [List.mem_singleton.mp hpost]
  change ((((handshake 0 ++ completion 0 0 0).take 8).foldl step sample).sessions 0).completes[
    ((((handshake 0 ++ completion 0 0 0).take 8).foldl step sample).sessions 0).consumed.length]?
      = some 0
  rw [hcompletes.1, hcompletes.2]
  rfl

/-- Of two messages the second is completed, and the poll of the first takes the message. -/
theorem not_attributed_second :
    ¬ Throughout Attributed step (handshake 0 ++ handshake 0 ++ completion 0 1 0) sample := by
  intro h
  have hconsumed : (((handshake 0 ++ handshake 0 ++ completion 0 1 0).foldl step
      sample).sessions 0).consumed = [(some 0, 1)] := by
    decide +kernel
  have hsends : (((handshake 0 ++ handshake 0 ++ completion 0 1 0).foldl step
      sample).sessions 0).sends[0]?.map PostedSend.post = some 0 := by
    decide +kernel
  obtain ⟨send, hget, hpost⟩ := h.last 0 0 1 (hconsumed ▸ List.mem_singleton_self _)
  rw [hget, Option.map_some, ← hpost] at hsends
  exact absurd hsends (by decide)

end Network

end SdrUdp
