import SdrUdp.Handshake
import SdrUdp.Core.Fold

/-!
# Which message a handshake is about

The handshake does not carry a message id: each end takes the next id of its own context. Receive
and send get the same id exactly when as many ids were drawn on both sides, up to the 1024 slots.
-/

namespace SdrUdp

open SdrUdp.Core

/-- `process_packet` takes a packet for the message of the receive: it names its slot, and the
generation that the slot was given. -/
def PostedRecv.Takes (p : PostedRecv) (header : SDRPacketHeader) : Prop :=
  header.msgId.toNat = p.handle.msgId ∧ header.transferId = p.generation

/-- The send goes to the receive: the handles have the same id, what is sent with the handle of the
send carries the generation of the slot, and its packets are taken. -/
structure PostedSend.Lands (h : PostedSend) (p : PostedRecv) : Prop where
  msgId : h.handle.msgId = p.handle.msgId
  generation : h.handle.generation = p.generation
  packets : ∀ packet ∈ h.packets, p.Takes packet.header

/-- The sends of a connection belong to its receives. -/
def Session.Matched (s : Session) : Prop :=
  ∀ h ∈ s.sends, ∃ p, s.posts[h.post]? = some p ∧ h.Lands p

def Network.Matched (w : Network) : Prop := ∀ i, (w.sessions i).Matched

/-- The transfer id in the CTS that a sender has got. -/
def SendPhase.transferId : SendPhase → Option U32
  | .gotCts _ cts => some cts.message.params.transferId
  | _             => none

/-- If the event gives a send its handle, then as many ids were drawn before from the context of the
sender as from the context of the receiver before the receive it is matched with, and the generation
in the CTS is that of the slot of the receive. -/
def Network.InStep (w : Network) (e : ℕ × SessionEvent) : Prop :=
  let s := w.sessions e.1
  ∀ data cts p, e.2 = .finishSend true → s.sending = .gotCts data cts →
    cts.message.params.mtuBytes ≠ 0 → cts.message.params.packetsPerChunk ≠ 0 →
    s.posts[cts.post]? = some p → p.draws ≡ w.draws s.sender.parentCtx [MOD 1024] ∧
      cts.message.params.transferId = p.generation

/-! ### What a slot takes -/

section Takes

variable {p : PostedRecv} {m : ReceiverMemory} {msg : MessageContext}
  (hmsg : m.message p.handle.msgId = some msg) (hactive : msg.state = .active)
  (hgeneration : msg.generation = p.generation) {header : SDRPacketHeader} {payload : List U8}
  (hid : header.msgId.toNat = p.handle.msgId)
include hmsg hactive hid

lemma PostedRecv.getMessage_slot :
    m.conn.connectionCtx.getMessage p.handle.msgId = some msg := by
  have hslot : m.conn.connectionCtx.msgTable p.handle.msgId = some msg := hmsg
  rw [ConnectionContext.getMessage_of_lt _ (hid ▸ header.msgId.isLt), hslot]
  simp [hactive]

include hgeneration

/-- While the message of a receive is in progress in its slot, a packet that the slot takes and that
is new there is written and recorded. -/
lemma PostedRecv.run_of_takes (htakes : p.Takes header)
    (hnew : (m.backendBitmap p.handle.msgId).any (fun b =>
      b.isPacketReceived header.packetOffset.toNat) = false) :
    (processPacket header payload).run m = (do
      writePacketToBuffer p.handle.msgId header.packetOffset.toNat payload
      Prog.modify (ReceiverMemory.setReceived p.handle.msgId header.packetOffset.toNat)).run m := by
  have hget := getMessage_slot hmsg hactive hid
  simp [processPacket, hid, hget, hgeneration, htakes.2, hmsg, hactive, hnew]

/-- A packet that names the slot with another generation changes nothing. -/
lemma PostedRecv.run_of_not_takes (hnot : ¬ p.Takes header) :
    (processPacket header payload).run m = some (⟨⟩, m) := by
  have hget := getMessage_slot hmsg hactive hid
  have hne : msg.generation ≠ header.transferId := fun heq =>
    hnot ⟨hid, heq.symm.trans hgeneration⟩
  simp [processPacket, hid, hget, hne]

end Takes

/-! ### Numbers -/

/-- The ids of the receives are counted by their contexts, and every message towards the sender is
about a receive. -/
structure Session.Numbered (s : Session) : Prop where
  posts : ∀ p ∈ s.posts, p.handle.msgId = p.draws % 1024
  inFlight : ∀ f ∈ s.toSender, f.post < s.posts.length
  got : ∀ data cts, s.sending = .gotCts data cts → cts.post < s.posts.length

structure Network.Counted (w : Network) : Prop where
  contexts : ∀ c, (w.contexts c).nextMsgId = w.draws c % 1024
  sessions : ∀ i, (w.sessions i).Numbered

namespace Session

variable {s s' : Session} {recvId draws sendId : ℕ} {e : SessionEvent}

lemma numbered_fresh (receiver : ReceiverMemory) (sender : SDRConnection) :
    (fresh receiver sender).Numbered :=
  ⟨fun _ h => absurd h List.not_mem_nil, fun _ h => absurd h List.not_mem_nil,
    fun _ _ h => SendPhase.noConfusion h⟩

lemma matched_fresh (receiver : ReceiverMemory) (sender : SDRConnection) :
    (fresh receiver sender).Matched := fun _ h => absurd h List.not_mem_nil

/-- A step that leaves the receives alone and takes nothing but old messages. -/
lemma Numbered.of_subset (h : s.Numbered) (hposts : s'.posts = s.posts)
    (htoSender : ∀ f ∈ s'.toSender, f ∈ s.toSender)
    (hgot : ∀ data cts, s'.sending = .gotCts data cts → cts.post < s.posts.length) :
      s'.Numbered := by
  refine ⟨hposts ▸ h.posts, fun f hf => ?_, fun data cts hs => ?_⟩
  · rw [hposts]
    exact h.inFlight f (htoSender f hf)
  · rw [hposts]
    exact hgot data cts hs

lemma Numbered.effect (h : s.Numbered) (hid : recvId = draws % 1024)
    (heff : Effect s recvId draws sendId e s') : s'.Numbered := by
  cases heff with
  | quiet posts sends toSender completes consumed sending polling finish poll =>
    refine h.of_subset posts (fun f hf => toSender ▸ hf) fun data cts hs => ?_
    rcases sending with sending | sending
    · exact h.got data cts (sending ▸ hs)
    · exact absurd hs (sending data cts)
  | posted handle cts slotGeneration msgId type posts toSender sends completes consumed sending =>
    have hlen : s'.posts.length = s.posts.length + 1 := by rw [posts]; simp
    refine ⟨fun p hp => ?_, fun f hf => ?_, fun data cts hs => ?_⟩
    · rw [posts] at hp
      rcases List.mem_append.mp hp with hp | hp
      · exact h.posts p hp
      · rw [List.mem_singleton.mp hp]
        exact msgId.trans hid
    · rw [toSender] at hf
      rcases List.mem_append.mp hf with hf | hf
      · exact (h.inFlight f hf).trans (by omega)
      · rw [List.mem_singleton.mp hf, hlen]
        exact Nat.lt_succ_self _
    · exact (h.got data cts (sending ▸ hs)).trans (by omega)
  | completed new lt type toSender completes posts sends consumed sending =>
    refine ⟨posts ▸ h.posts, fun f hf => ?_, fun data cts hs => ?_⟩
    · rw [toSender] at hf
      rw [posts]
      rcases List.mem_append.mp hf with hf | hf
      · exact h.inFlight f hf
      · obtain ⟨msg, -, rfl⟩ := List.mem_map.mp hf
        exact lt
    · rw [posts]
      exact h.got data cts (sending ▸ hs)
  | gotCts data f queue type sending posts sends completes consumed =>
    refine h.of_subset posts (fun g hg => queue ▸ List.mem_cons_of_mem f hg) fun data' cts hs => ?_
    obtain ⟨-, rfl⟩ := SendPhase.gotCts.inj (sending.symm.trans hs)
    exact h.inFlight f (queue ▸ List.mem_cons_self)
  | skipped f queue consumed sending posts sends completes =>
    exact h.of_subset posts (fun g hg => queue ▸ List.mem_cons_of_mem f hg)
      fun data cts hs => h.got data cts (sending ▸ hs)
  | sent data f handle packets got mtuBytes packetsPerChunk socket msgId generation named sends
      sending posts toSender completes consumed =>
    exact h.of_subset posts (fun f hf => toSender ▸ hf)
      fun data cts hs => SendPhase.noConfusion (sending.symm.trans hs)
  | unsent data f got failed sends sending posts toSender completes consumed =>
    exact h.of_subset posts (fun f hf => toSender ▸ hf)
      fun data cts hs => SendPhase.noConfusion (sending.symm.trans hs)
  | polled send f polling clientOpen queue consumed sending posts sends completes =>
    exact h.of_subset posts (fun g hg => queue ▸ List.mem_cons_of_mem f hg)
      fun data cts hs => absurd hs (Effect.notGot polling sending data)

/-- Further receives do not matter. -/
lemma Matched.of_posts (h : s.Matched) {new : List PostedRecv} (hposts : s'.posts = s.posts ++ new)
    (hsends : s'.sends = s.sends) : s'.Matched := by
  intro send hsend
  rw [hsends] at hsend
  obtain ⟨p, hp, hsame⟩ := h send hsend
  refine ⟨p, ?_, hsame⟩
  rw [hposts, List.getElem?_append_left (List.getElem?_eq_some_iff.mp hp).1]
  exact hp

/-- One more send is matched when its id and its generation are those of the receive. -/
lemma Matched.sent_iff (h : s.Matched) {send : PostedSend} (hsends : s'.sends = s.sends ++ [send])
    (hposts : s'.posts = s.posts) {p : PostedRecv} (hp : s.posts[send.post]? = some p)
    (hmsgId : send.handle.msgId = sendId) {transferId : U32}
    (hgeneration : send.handle.generation = transferId)
    (hnamed : ∀ packet ∈ send.packets, packet.header.msgId = BitVec.ofNat 10 sendId ∧
      packet.header.transferId = transferId)
    (hid : sendId % 1024 = sendId) :
    s'.Matched ↔ p.handle.msgId = sendId ∧ transferId = p.generation := by
  constructor
  · intro h'
    obtain ⟨p', hp', hlands⟩ := h' send
      (hsends ▸ List.mem_append_right _ (List.mem_singleton_self _))
    rw [hposts] at hp'
    obtain rfl := Option.some.inj (hp.symm.trans hp')
    exact ⟨hlands.msgId.symm.trans hmsgId, hgeneration.symm.trans hlands.generation⟩
  · rintro ⟨hmatch, hsame⟩ send' hsend
    rw [hsends] at hsend
    rw [hposts]
    rcases List.mem_append.mp hsend with hsend | hsend
    · exact h send' hsend
    · rw [List.mem_singleton.mp hsend]
      refine ⟨p, hp, hmsgId.trans hmatch.symm, hgeneration.trans hsame, fun packet hpacket => ?_⟩
      obtain ⟨hname, htransfer⟩ := hnamed packet hpacket
      refine ⟨?_, htransfer.trans hsame⟩
      rw [hname, BitVec.toNat_ofNat, hmatch]
      exact hid

/-- Only the end of a handshake can break the matching, and does so when the draws or the
generations differ. -/
lemma matched_effect_iff (h : s.Matched) (hnum : s.Numbered) {sendDraws : ℕ}
    (hid : sendId = sendDraws % 1024) (heff : Effect s recvId draws sendId e s') :
    s'.Matched ↔ ∀ data cts p, e = .finishSend true → s.sending = .gotCts data cts →
      cts.message.params.mtuBytes ≠ 0 → cts.message.params.packetsPerChunk ≠ 0 →
      s.posts[cts.post]? = some p → p.draws ≡ sendDraws [MOD 1024] ∧
        cts.message.params.transferId = p.generation := by
  have hsame : s'.posts = s.posts → s'.sends = s.sends → s'.Matched := fun hposts hsends =>
    h.of_posts (by rw [hposts, List.append_nil]) hsends
  cases heff with
  | quiet posts sends toSender completes consumed sending polling finish poll =>
    exact iff_of_true (hsame posts sends) fun data cts p he hs =>
      absurd hs (finish true data cts he)
  | posted handle cts slotGeneration msgId type posts toSender sends completes consumed sending =>
    exact iff_of_true (h.of_posts posts sends) fun _ _ _ he => SessionEvent.noConfusion he
  | completed new lt type toSender completes posts sends consumed sending =>
    exact iff_of_true (hsame posts sends) fun _ _ _ he => SessionEvent.noConfusion he
  | gotCts data f queue type sending posts sends completes consumed =>
    exact iff_of_true (hsame posts sends) fun _ _ _ he => SessionEvent.noConfusion he
  | skipped f queue consumed sending posts sends completes =>
    exact iff_of_true (hsame posts sends) fun _ _ _ he => SessionEvent.noConfusion he
  | polled send f polling clientOpen queue consumed sending posts sends completes =>
    exact iff_of_true (hsame posts sends) fun _ _ _ he => SessionEvent.noConfusion he
  | unsent data f got failed sends sending posts toSender completes consumed =>
    refine iff_of_true (hsame posts sends) fun data' cts p he hs hmtu hppc => ?_
    obtain ⟨-, rfl⟩ := SendPhase.gotCts.inj (got.symm.trans hs)
    exact absurd ⟨hmtu, hppc, SessionEvent.finishSend.inj he⟩ failed
  | sent data f handle packets got mtuBytes packetsPerChunk socket msgId generation named sends
      sending posts toSender completes consumed =>
    obtain ⟨p, hp⟩ : ∃ p, s.posts[f.post]? = some p :=
      ⟨_, List.getElem?_eq_getElem (hnum.got data f got)⟩
    have hrecv : p.handle.msgId = p.draws % 1024 := hnum.posts p (List.mem_of_getElem? hp)
    have hnew : s'.Matched ↔ p.handle.msgId = sendId ∧ f.message.params.transferId = p.generation :=
      h.sent_iff sends posts hp msgId generation named (hid ▸ Nat.mod_mod _ _)
    rw [hnew, hrecv, hid]
    constructor
    · intro hboth data' cts p' _ hs _ _ hp'
      obtain ⟨-, rfl⟩ := SendPhase.gotCts.inj (got.symm.trans hs)
      obtain rfl := Option.some.inj (hp.symm.trans hp')
      exact hboth
    · intro hall
      exact hall data f p (by rw [socket]) got mtuBytes packetsPerChunk hp

end Session

namespace Network

variable {w : Network}

lemma Initial.counted (h : w.Initial) : w.Counted := by
  refine ⟨fun c => by rw [h.contexts c, h.draws c], fun i => ?_⟩
  obtain ⟨receiver, sender, hs⟩ := h.sessions i
  exact hs ▸ Session.numbered_fresh receiver sender

lemma Initial.matched (h : w.Initial) : w.Matched := by
  intro i
  obtain ⟨receiver, sender, hs⟩ := h.sessions i
  exact hs ▸ Session.matched_fresh receiver sender

lemma Counted.allocate (h : w.Counted) (c : ℕ) :
    (allocateMsgId (w.contexts c)).1 = w.draws c % 1024 := by
  rw [allocateMsgId, h.contexts, Nat.mod_mod]

lemma Counted.step (h : w.Counted) (e : ℕ × SessionEvent) : (w.step e).Counted := by
  refine ⟨fun c => ?_, fun i => ?_⟩
  · unfold Network.step
    dsimp only
    split
    · exact h.contexts c
    · rename_i c' _
      dsimp only
      by_cases hc : c = c'
      · subst hc
        rw [Function.update_self, Function.update_self, allocateMsgId, h.contexts]
        exact Nat.mod_add_mod _ _ _
      · rw [Function.update_of_ne hc, Function.update_of_ne hc]
        exact h.contexts c
  · exact (forall_step_iff h.sessions e).mpr
      ((h.sessions e.1).effect (h.allocate _) (Session.step_effect _ _ _ _ _)) i

lemma matched_step_iff (h : w.Counted) (hm : w.Matched) (e : ℕ × SessionEvent) :
    (w.step e).Matched ↔ w.InStep e :=
  (forall_step_iff hm e).trans (Session.matched_effect_iff (hm e.1) (h.sessions e.1) (h.allocate _)
    (Session.step_effect _ _ _ _ e.2))

/-- Over any run of calls on any connections, with any failures, every send goes to the receive it
is matched with exactly when, whenever a send got its handle, the two contexts had given out equally
many ids up to the 1024 that there are, and the CTS carried the generation of the slot. -/
theorem matched_throughout_iff (h : w.Initial) (events : List (ℕ × SessionEvent)) :
    Throughout Matched step events w ↔ EachStep InStep step events w :=
  throughout_iff_of_invariant (fun _ e _ hc => hc.step e)
    (fun _ e _ hc hm => matched_step_iff hc hm e)
    h.counted h.matched

/-- Only the end of a handshake has to be in step. -/
lemma inStep_of_ne (w : Network) {e : ℕ × SessionEvent} (h : e.2 ≠ .finishSend true) : w.InStep e :=
  fun _ _ _ he => absurd he h

/-- The events of one whole handshake. -/
def handshake (i : ℕ) : List (ℕ × SessionEvent) :=
  [(i, .recvPost 0 1), (i, .sendPost [7] sizeofControlMessage),
    (i, .takeOffer 1 true sizeofControlMessage), (i, .takeCts sizeofControlMessage),
    (i, .takeAccept), (i, .finishSend true)]

/-- All receiving connections belong to context 0, and every sending connection to one of its
own. -/
def sample : Network where
  contexts _ := ⟨0⟩
  draws _ := 0
  sessions i := .fresh .idle (.idleSender (i + 1))

lemma sample_initial : sample.Initial := ⟨fun _ => rfl, fun _ => rfl, fun _ => ⟨_, _, rfl⟩⟩

/-- Where receivers share a context, the second handshake of the sample gives the receive id 1
and the send id 0. -/
theorem not_matched_shared :
    ¬ Throughout Matched step (handshake 0 ++ handshake 1) sample := by
  intro h
  have hsends : ((((handshake 0 ++ handshake 1).foldl step sample).sessions 1).sends.map
      fun send => (send.post, send.handle.msgId)) = [(0, 0)] := by
    decide +kernel
  have hposts : ((((handshake 0 ++ handshake 1).foldl step sample).sessions 1).posts.map
      fun p => p.handle.msgId) = [1] := by
    decide +kernel
  obtain ⟨send, hsend, heq⟩ := List.mem_map.mp (hsends ▸ List.mem_singleton_self (0, 0))
  obtain ⟨p, hp, ⟨hid, -, -⟩⟩ := h.last 1 send hsend
  have hmem := List.mem_map_of_mem (f := fun p : PostedRecv => p.handle.msgId)
    (List.mem_of_getElem? hp)
  rw [hposts, List.mem_singleton, ← hid] at hmem
  exact absurd ((congrArg Prod.snd heq).symm.trans hmem) (by decide)

/-- A single handshake. -/
theorem matched_throughout_single : Throughout Matched step (handshake 0) sample := by
  refine (matched_throughout_iff sample_initial (handshake 0)).mpr ?_
  refine ⟨inStep_of_ne _ (by simp), inStep_of_ne _ (by simp), inStep_of_ne _ (by simp),
    inStep_of_ne _ (by simp), inStep_of_ne _ (by simp), ?_, trivial⟩
  intro data cts p _ hgot _ _ hp
  have hposts : ((((handshake 0).take 5).foldl step sample).sessions 0).posts.map
      (fun p => (p.draws, p.generation)) = [(0, 1)] := by
    decide +kernel
  have hcts : ((((handshake 0).take 5).foldl step sample).sessions 0).sending.transferId = some 1 :=
    by decide +kernel
  have hmem : (p.draws, p.generation) ∈ [(0, 1)] :=
    hposts ▸ List.mem_map_of_mem (List.mem_of_getElem? hp)
  obtain ⟨hdraws, hgeneration⟩ := Prod.ext_iff.mp (List.mem_singleton.mp hmem)
  dsimp only at hdraws hgeneration
  rw [hdraws, hgeneration]
  exact ⟨by decide +kernel, Option.some.inj ((congrArg SendPhase.transferId hgot).symm.trans hcts)⟩

end Network

/-! ### The order of the handshakes -/

def SendPhase.pending : SendPhase → List ℕ
  | .gotCts _ cts => [cts.post]
  | _             => []

lemma SendPhase.pending_eq_nil {phase : SendPhase} (h : ∀ data f, phase ≠ .gotCts data f) :
    phase.pending = [] := by
  cases phase with
  | gotCts data f => exact absurd rfl (h data f)
  | idle => rfl
  | awaitsCts data => rfl
  | polling send => rfl

namespace Session

/-- The CTS under way. -/
def ctsQueue (s : Session) : List ℕ :=
  (s.toSender.filter fun f => f.message.msgType = .cts).map InFlight.post

/-- The receives whose CTS became a send or still may, in the order in which they were sent. -/
def ctsOrder (s : Session) : List ℕ :=
  s.sends.map PostedSend.post ++ (s.sending.pending ++ s.ctsQueue)

/-- The handshakes of a connection keep the order of its receives. -/
structure Ordered (s : Session) : Prop where
  order : s.ctsOrder.Pairwise (· < ·)
  bound : ∀ n ∈ s.ctsOrder, n < s.posts.length

variable {s s' : Session} {recvId draws sendId : ℕ} {e : SessionEvent}

lemma ordered_fresh (receiver : ReceiverMemory) (sender : SDRConnection) :
    (fresh receiver sender).Ordered :=
  ⟨List.Pairwise.nil, fun _ h => absurd h List.not_mem_nil⟩

lemma Ordered.of_sublist (h : s.Ordered) (hposts : s'.posts = s.posts)
    (hsub : s'.ctsOrder.Sublist s.ctsOrder) : s'.Ordered :=
  ⟨h.order.sublist hsub, fun n hn => hposts ▸ h.bound n (hsub.subset hn)⟩

/-- The queue after its first message has been taken. -/
lemma ctsQueue_sublist {f : InFlight} (hqueue : s.toSender = f :: s'.toSender) :
    s'.ctsQueue.Sublist s.ctsQueue := by
  unfold ctsQueue
  rw [hqueue]
  exact ((List.sublist_cons_self _ _).filter _).map _

lemma filter_cts_completions {new : List ControlMessage} (h : ∀ msg ∈ new, msg.isCompletion = true)
    {post : ℕ} :
    ((new.map fun msg => (⟨msg, post⟩ : InFlight)).filter fun f => f.message.msgType = .cts)
      = [] := by
  refine List.filter_eq_nil_iff.mpr fun f hf => ?_
  obtain ⟨msg, hmsg, rfl⟩ := List.mem_map.mp hf
  intro hcts
  have hcompletion := h msg hmsg
  rw [ControlMessage.isCompletion, of_decide_eq_true hcts] at hcompletion
  exact absurd hcompletion (by decide)

lemma Ordered.effect (h : s.Ordered) (heff : Effect s recvId draws sendId e s') : s'.Ordered := by
  cases heff with
  | quiet posts sends toSender completes consumed sending polling finish poll =>
    refine h.of_sublist posts ?_
    unfold ctsOrder ctsQueue
    rw [sends, toSender]
    rcases sending with sending | sending
    · rw [sending]
    · rw [SendPhase.pending_eq_nil sending]
      exact (List.sublist_append_right _ _).append_left _
  | posted handle cts slotGeneration msgId type posts toSender sends completes consumed sending =>
    have horder : s'.ctsOrder = s.ctsOrder ++ [s.posts.length] := by
      unfold ctsOrder ctsQueue
      rw [sends, toSender, sending]
      simp [type]
    have hlen : s'.posts.length = s.posts.length + 1 := by rw [posts]; simp
    refine ⟨?_, fun n hn => ?_⟩
    · rw [horder, List.pairwise_append]
      refine ⟨h.order, List.pairwise_singleton _ _, fun n hn m hm => ?_⟩
      rw [List.mem_singleton.mp hm]
      exact h.bound n hn
    · rw [horder] at hn
      rw [hlen]
      rcases List.mem_append.mp hn with hn | hn
      · exact (h.bound n hn).trans (Nat.lt_succ_self _)
      · rw [List.mem_singleton.mp hn]
        exact Nat.lt_succ_self _
  | completed new lt type toSender completes posts sends consumed sending =>
    refine h.of_sublist posts ?_
    unfold ctsOrder ctsQueue
    rw [sends, toSender, sending, List.filter_append, filter_cts_completions type, List.append_nil]
  | gotCts data f queue type sending posts sends completes consumed =>
    refine h.of_sublist posts ?_
    have hqueue : s.ctsQueue = f.post :: s'.ctsQueue := by
      unfold ctsQueue
      rw [queue]
      simp [type]
    unfold ctsOrder
    rw [sends, sending, hqueue]
    exact (List.sublist_append_right _ _).append_left _
  | skipped f queue consumed sending posts sends completes =>
    refine h.of_sublist posts ?_
    unfold ctsOrder
    rw [sends, sending]
    exact ((ctsQueue_sublist queue).append_left _).append_left _
  | sent data f handle packets got mtuBytes packetsPerChunk socket msgId generation named sends
      sending posts toSender completes consumed =>
    refine h.of_sublist posts ?_
    unfold ctsOrder ctsQueue
    rw [sends, sending, got, toSender]
    simp [SendPhase.pending]
  | unsent data f got failed sends sending posts toSender completes consumed =>
    refine h.of_sublist posts ?_
    unfold ctsOrder ctsQueue
    rw [sends, sending, toSender]
    exact (List.sublist_append_right _ _).append_left _
  | polled send f polling clientOpen queue consumed sending posts sends completes =>
    refine h.of_sublist posts ?_
    unfold ctsOrder
    rw [sends, SendPhase.pending_eq_nil fun data f => Effect.notGot polling sending data]
    exact ((ctsQueue_sublist queue).trans (List.sublist_append_right _ _)).append_left _

end Session

/-- In every run the sends of a connection belong to receives in their order: the matching takes the
n-th handshake of one end to the n-th handshake of the other. -/
theorem Network.sends_ordered {w : Network} (h : w.Initial) (events : List (ℕ × SessionEvent))
    (i : ℕ) : (((events.foldl Network.step w).sessions i).sends.map PostedSend.post).Pairwise
      (· < ·) := by
  have hall : ∀ i, ((events.foldl Network.step w).sessions i).Ordered := by
    refine foldl_keeps (P := fun w : Network => ∀ i, (w.sessions i).Ordered)
      (fun w e _ hw => ?_) fun i => ?_
    · exact (Network.forall_step_iff hw e).mpr ((hw e.1).effect (Session.step_effect _ _ _ _ _))
    · obtain ⟨receiver, sender, hs⟩ := h.sessions i
      exact hs ▸ Session.ordered_fresh receiver sender
  exact (hall i).order.sublist (List.sublist_append_left _ _)

end SdrUdp
