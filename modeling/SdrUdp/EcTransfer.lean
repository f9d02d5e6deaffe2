import SdrUdp.EcFallback

/-!
# A transfer with the erasure code

A sender in `ECSender::poll` and a receiver that calls `try_decode` again and again, over a link
that loses, duplicates and reorders packets.
-/

namespace SdrUdp

open SdrUdp.Core

/-! ### A transfer -/

/-- The link to the receiver, the sender in a call of `poll`, the receiver with what is left of the
loads of a call of `try_decode`, the number of control messages the sender has taken, and whether
`try_decode` has returned true. -/
structure EcTransfer where
  link : Link
  poll : ECPoll
  receiver : ECReceiver
  scan : Option (Prog ReceiverMemory (Option (List ℕ × List ℕ)))
  consumed : ℕ
  decoded : Bool

namespace EcTransfer

/-- `receive_message` of the sender finds `e`; what the sender sends goes to the network. -/
def event (e : ChannelEvent) (s : EcTransfer) : Option EcTransfer :=
  (s.poll.step e).map fun poll =>
    { s with
      link := s.link.send (poll.sender.sent.drop s.poll.sender.sent.length)
      poll }

/-- `try_decode` acts on what it has read; the control connection takes what it sends. -/
def conclude (isal : Isal) (seen : Option (List ℕ × List ℕ)) (s : EcTransfer) : Option EcTransfer :=
  (s.receiver.conclude isal sizeofControlMessage seen s.link.memory).map fun result =>
    { s with
      link := s.link.withMemory result.2.2
      receiver := result.2.1
      scan := none
      decoded := result.1 }

/-- One step without a loss: of the link, of the application, which calls `try_decode` until it
returns true, or of the sender, which takes the next control message or waits in vain. -/
inductive Step (isal : Isal) (slot : ℕ) : EcTransfer → EcTransfer → Prop
  | link {s : EcTransfer} {l : Link} (h : s.link.Step slot l) :
      Step isal slot s { s with link := l }
  | call {s : EcTransfer} (idle : s.scan = none) (hdecoded : s.decoded = false) :
      Step isal slot s { s with scan := some s.receiver.look }
  | load {s : EcTransfer} {act : ReceiverMemory → ReceiverMemory}
    {next : ReceiverMemory → Prog ReceiverMemory (Option (List ℕ × List ℕ))}
    (h : s.scan = some (.atomic act next)) : Step isal slot s
      { s with link := s.link.withMemory (act s.link.memory), scan := some (next s.link.memory) }
  | conclude {s s' : EcTransfer} {seen : Option (List ℕ × List ℕ)} (h : s.scan = some (.done seen))
    (hs : s.conclude isal seen = some s') : Step isal slot s s'
  | deliver {s s' : EcTransfer} {msg : ControlMessage}
    (h : s.link.memory.sent[s.consumed]? = some msg) (hs : s.event (.message true msg) = some s') :
      Step isal slot s { s' with consumed := s.consumed + 1 }
  | timeout {s s' : EcTransfer} (hs : s.event .timeout = some s') : Step isal slot s s'

/-- One step of a run: packets get lost, and the control connection may break. -/
inductive LossyStep (isal : Isal) (slot : ℕ) : EcTransfer → EcTransfer → Prop
  | step {s s' : EcTransfer} (h : Step isal slot s s') : LossyStep isal slot s s'
  | lose {s : EcTransfer} (p : SDRPacket) : LossyStep isal slot s { s with link := s.link.lose p }
  | disconnect {s s' : EcTransfer} (hs : s.event .disconnected = some s') : LossyStep isal slot s s'

/-- Without a further loss `try_decode` can return true. -/
def GetsThrough (isal : Isal) (slot : ℕ) (s : EcTransfer) : Prop :=
  ∃ s', Relation.ReflTransGen (Step isal slot) s s' ∧ s'.decoded = true

/-- The control messages on their way to the sender. -/
def pending (s : EcTransfer) : List ControlMessage := s.link.memory.sent.drop s.consumed

/-- The packets that are recorded, on their way, or sent for the requests on their way. -/
def reach (t : BitmapPair) (s : EcTransfer) : Set ℕ :=
  {o | Link.Covered t s.link o ∨ ∃ msg ∈ s.pending, o ∈ s.poll.resends msg}

/-- The data chunks that stay incomplete unless the receiver asks for them. -/
noncomputable def lost (t : BitmapPair) (s : EcTransfer) : List ℕ :=
  s.receiver.missingData (t.arrived (s.reach t))

/-- The call in progress runs to its end. -/
def finish (isal : Isal) (s : EcTransfer) : Option EcTransfer :=
  match s.scan with
  | none         => some s
  | some program => (program.run s.link.memory).bind fun result => s.conclude isal result.1

/-- `try_decode` has returned true before, or once the call in progress has ended, what is within
reach and what the requests that are left bring are enough. -/
def Recoverable (isal : Isal) (t : BitmapPair) (s : EcTransfer) : Prop :=
  s.decoded = true ∨ ∃ s', s.finish isal = some s' ∧
    s'.receiver.Recovers isal t s'.poll.resends s'.receiver.requestsLeft (s'.reach t)

/-- A data chunk is out of reach, it cannot be rebuilt, and it is not asked for any more: the
fallback is active, the sender is not in its own loop, or between two calls no more data chunks are
missing than there are parity chunks. -/
structure Trapped (t : BitmapPair) (s : EcTransfer) : Prop where
  decoded : s.decoded = false
  lost : s.lost t ≠ []
  short : s.receiver.fallbackActive = true ∨ s.receiver.layout.m < (s.lost t).length ∨
    (s.receiver.availIdxs (t.arrived (s.reach t))).length < s.receiver.layout.k
  unasked : s.receiver.fallbackActive = true ∨ s.poll.state ≠ .main ∨ s.scan = none ∧
    (s.receiver.missingData (chunkComplete t.slot s.link.memory)).length ≤ s.receiver.layout.m

/-- The invariant of a transfer while the control connection stands and `try_decode` has not
returned true. The bits of `D` were set before the call in progress began. -/
structure Inv (t : BitmapPair) (D : Set ℕ) (b before : ℕ) (s : EcTransfer) : Prop where
  link : s.link.Inv t (t.Requesting b before)
  resting : s.link.Resting
  serves : s.poll.Serves t
  handle : ∃ handle, s.receiver.recvHandle = some handle ∧ handle.msgId = t.slot
  straight : ∀ program, s.scan = some program → Prog.Straight (· = id) program
  reads : ∀ program, s.scan = some program → Prog.Meets (t.LiveWith D) t.Grows t.Grows
    (fun seen m => ∀ missing avail, seen = some (missing, avail) →
      s.receiver.Reads t D missing avail m) program s.link.memory
  completed : ∀ c ∈ D, c < t.totalChunks ∧ c ∈ t.completed s.link.memory
  before_le : before ≤ s.consumed
  consumed_le : s.consumed ≤ s.link.memory.sent.length

variable {isal : Isal} {t : BitmapPair} {D : Set ℕ} {b before : ℕ} {s s' : EcTransfer}

/-! ### What the sender does -/

lemma Inv.request_of_pending (h : s.Inv t D b before) {msg : ControlMessage}
    (hmsg : msg ∈ s.pending) : ECSender.Request msg :=
  h.link.stable.requests msg (List.drop_subset_drop_left _ h.before_le hmsg)

lemma Inv.event_request (h : s.Inv t D b before) {msg : ControlMessage}
    (hmsg : ECSender.Request msg) (own : Bool) : s.event (.message own msg)
      = some { s with link := s.link.send (s.poll.resent msg), poll := s.poll.answered msg } := by
  rw [event, h.serves.step_request hmsg own, Option.map_some, s.poll.answered_sent, List.drop_left]

lemma Inv.event_timeout (h : s.Inv t D b before) :
    ∃ state, s.event .timeout = some { s with poll := { s.poll with state } } ∧
      state ≠ .main := by
  obtain ⟨state, hstep, hstate⟩ := h.serves.step_timeout
  refine ⟨state, ?_, hstate⟩
  rw [event, hstep, Option.map_some, List.drop_length, Link.send_nil]

lemma Inv.withState (h : s.Inv t D b before) (state : PollState) :
    Inv t D b before { s with poll := { s.poll with state } } :=
  ⟨h.link, h.resting, ⟨h.serves.transferId, h.serves.msgId, h.serves.acked, h.serves.sized,
    h.serves.connected⟩, h.handle, h.straight, h.reads, h.completed, h.before_le, h.consumed_le⟩

/-- The next request is answered. -/
lemma Inv.deliver (hfits : t.Fits) (h : s.Inv t D b before) {msg : ControlMessage}
    (hmsg : s.link.memory.sent[s.consumed]? = some msg) : ∃ s₁,
      s.event (.message true msg) = some s₁ ∧
      Inv t D b before { s₁ with consumed := s.consumed + 1 } ∧
      s₁ = { s with link := s.link.send (s.poll.resent msg), poll := s.poll.answered msg } ∧
      reach t { s₁ with consumed := s.consumed + 1 } = s.reach t := by
  have hlt : s.consumed < s.link.memory.sent.length := (List.getElem?_eq_some_iff.mp hmsg).1
  have hpending : s.pending = msg :: s.link.memory.sent.drop (s.consumed + 1) := by
    rw [pending, List.drop_eq_getElem_cons hlt, (List.getElem?_eq_some_iff.mp hmsg).2]
  have hrequest : ECSender.Request msg :=
    h.request_of_pending (hpending ▸ List.mem_cons_self)
  refine ⟨_, h.event_request hrequest true, ⟨h.link.send (h.serves.accepts hfits.slot), h.resting,
    h.serves.answered msg, h.handle, h.straight, h.reads, h.completed,
    h.before_le.trans (Nat.le_succ _), hlt⟩, rfl, ?_⟩
  ext o
  simp only [reach, Set.mem_ofPred_eq, Link.covered_send_iff, s.poll.answered_resends, hpending,
    List.exists_mem_cons_iff]
  exact or_assoc

/-! ### What the receiver does -/

/-- What comes to the memory from the threads does not matter to a call. -/
lemma Inv.withLink (h : s.Inv t D b before) {l : Link} (hl : l.Inv t (t.Requesting b before))
    (hrest : l.Resting) (hgrows : t.Grows s.link.memory l.memory)
    (hsent : l.memory.sent = s.link.memory.sent) : Inv t D b before { s with link := l } :=
  ⟨hl, hrest, h.serves, h.handle, h.straight, fun program hscan =>
    (h.reads program hscan).stable hgrows,
    fun c hc => (h.completed c hc).imp_right fun hset => hgrows.completed hset, h.before_le,
    hsent ▸ h.consumed_le⟩

/-- A call begins to read. -/
lemma Inv.call (h : s.Inv t D b before) :
    Inv t D b before { s with scan := some s.receiver.look } := by
  refine ⟨h.link, h.resting, h.serves, h.handle, fun program hscan => ?_, fun program hscan => ?_,
    h.completed, h.before_le, h.consumed_le⟩
  · obtain rfl := Option.some.inj hscan
    exact s.receiver.look_straight
  · obtain rfl := Option.some.inj hscan
    obtain ⟨handle, hhandle, hid⟩ := h.handle
    refine ECReceiver.look_meets (fun handle' hhandle' => ?_) _
    obtain rfl := Option.some.inj (hhandle'.symm.trans hhandle)
    exact hid

lemma Inv.liveWith (h : s.Inv t D b before) : t.LiveWith D s.link.memory :=
  ⟨h.link.live, h.completed⟩

/-- It reads on. -/
lemma Inv.load (h : s.Inv t D b before) {act : ReceiverMemory → ReceiverMemory}
    {next : ReceiverMemory → Prog ReceiverMemory (Option (List ℕ × List ℕ))}
    (hscan : s.scan = some (.atomic act next)) : s.link.withMemory (act s.link.memory) = s.link ∧
      Inv t D b before { s with scan := some (next s.link.memory) } := by
  obtain ⟨rfl, hstraight⟩ := h.straight _ hscan
  refine ⟨rfl, h.link, h.resting, h.serves, h.handle, fun program hscan' => ?_,
    fun program hscan' => ?_, h.completed, h.before_le, h.consumed_le⟩
  · obtain rfl := Option.some.inj hscan'
    exact hstraight _
  · obtain rfl := Option.some.inj hscan'
    exact ((h.reads _ hscan) _ (Std.Refl.refl _) h.liveWith).2.2

/-- What a call has read is there. -/
lemma Inv.reads_done (h : s.Inv t D b before) {seen : Option (List ℕ × List ℕ)}
    (hscan : s.scan = some (.done seen)) {missing avail : List ℕ}
    (hseen : seen = some (missing, avail)) :
    s.receiver.Reads t D missing avail s.link.memory :=
  (h.reads _ hscan) _ (Std.Refl.refl _) h.liveWith missing avail hseen

/-- What a request for the missing chunks is, and what the sender makes of it. -/
lemma Inv.requestMissing (h : s.Inv t D b before) (missing : List ℕ) : ∃ msg r',
    s.receiver.requestMissing missing sizeofControlMessage s.link.memory
      = (r', s.link.memory.sendMessage msg sizeofControlMessage) ∧
    ECSender.Request msg ∧ s.poll.resends msg = s.poll.resends (requestMessage missing) ∧
    r'.layout = s.receiver.layout ∧ r'.recvHandle = s.receiver.recvHandle ∧
    s.receiver.requestsLeft ≤ r'.requestsLeft + 1 := by
  obtain ⟨server, hserver, -⟩ := h.link.stable.server
  obtain ⟨msg, r', hmsg, hanswer, heq, hlayout, hhandle, hleft⟩ :=
    s.receiver.requestMissing_eq missing sizeofControlMessage
      (Option.isSome_iff_exists.mpr ⟨server, hserver⟩)
  refine ⟨msg, r', heq, hmsg, ?_, hlayout, hhandle, hleft⟩
  rw [ECPoll.resends, ECPoll.resends, ECPoll.resent, ECPoll.resent, hanswer]

/-- A call that fails has asked for what was missing, or done nothing. -/
lemma Inv.conclude_false (h : s.Inv t D b before) {seen : Option (List ℕ × List ℕ)}
    (hs : s.conclude isal seen = some s') (hfailed : s'.decoded = false) :
    s' = { s with scan := none, decoded := false } ∨ ∃ missing avail msg r',
      seen = some (missing, avail) ∧ s.receiver.fallbackActive = false ∧
      s.receiver.layout.m < missing.length ∧ ECSender.Request msg ∧
      r'.layout = s.receiver.layout ∧ r'.recvHandle = s.receiver.recvHandle ∧
      s' = { s with
        link := s.link.withMemory (s.link.memory.sendMessage msg sizeofControlMessage)
        receiver := r'
        scan := none
        decoded := false } := by
  obtain ⟨⟨done, r', m'⟩, hconclude, rfl⟩ := Option.map_eq_some_iff.mp hs
  obtain rfl : done = false := hfailed
  rcases ECReceiver.conclude_false hconclude with ⟨rfl, rfl⟩ | ⟨missing, avail, hseen, hfallback,
    hmany, hrequest⟩
  · exact Or.inl rfl
  · obtain ⟨msg, r'', heq, hmsg, -, hlayout, hhandle, -⟩ := h.requestMissing missing
    obtain ⟨rfl, rfl⟩ := Prod.mk.inj (hrequest.symm.trans heq)
    exact Or.inr ⟨missing, avail, msg, r', hseen, hfallback, hmany, hmsg, hlayout, hhandle, rfl⟩

/-- A request that is sent is on its way. -/
lemma Inv.requested (h : s.Inv t D b before) {msg : ControlMessage} (hmsg : ECSender.Request msg)
    {r' : ECReceiver} (hhandle : r'.recvHandle = s.receiver.recvHandle) {s' : EcTransfer}
    (hs' : s' = { s with
      link := s.link.withMemory (s.link.memory.sendMessage msg sizeofControlMessage)
      receiver := r'
      scan := none
      decoded := false }) :
    s'.Inv t D b before ∧ ∀ o, o ∈ s'.reach t ↔ o ∈ s.reach t ∨ o ∈ s.poll.resends msg := by
  subst hs'
  have hmessage := s.link.memory.sendMessage_message msg sizeofControlMessage t.slot
  obtain ⟨hrequesting, hsent⟩ := h.link.stable.sendMessage hmsg
  have hgrows := BitmapPair.grows_of_message hmessage
  refine ⟨⟨h.link.withMemory (h.link.live.congr hmessage) hrequesting hgrows, h.resting, h.serves,
    by rw [hhandle]; exact h.handle, by simp, by simp,
    fun c hc => (h.completed c hc).imp_right fun hset => hgrows.completed hset, h.before_le, ?_⟩,
    fun o => ?_⟩
  · change s.consumed ≤ (s.link.memory.sendMessage msg sizeofControlMessage).sent.length
    rw [hsent, List.length_append]
    exact h.consumed_le.trans (Nat.le_add_right _ _)
  · have hcovered : Link.Covered t (s.link.withMemory
        (s.link.memory.sendMessage msg sizeofControlMessage)) o ↔ Link.Covered t s.link o := by
      unfold Link.Covered
      exact or_congr_left (by rw [← BitmapPair.received_congr hmessage]; rfl)
    have hpending : (s.link.memory.sendMessage msg sizeofControlMessage).sent.drop s.consumed
        = s.pending ++ [msg] := by
      rw [hsent, List.drop_append_of_le_length h.consumed_le, pending]
    simp only [reach, Set.mem_ofPred_eq, hcovered, or_assoc]
    refine or_congr_right ?_
    rw [pending]
    change (∃ msg' ∈ (s.link.memory.sendMessage msg sizeofControlMessage).sent.drop s.consumed,
      o ∈ s.poll.resends msg') ↔ _
    simp only [hpending, List.mem_append, List.mem_singleton, or_and_right, exists_or,
      exists_eq_left]

/-- Between two calls the bits that are set may be taken for `D`. -/
lemma Inv.idle (h : s.Inv t D b before) (hscan : s.scan = none) {D' : Set ℕ}
    (hD : ∀ c ∈ D', c < t.totalChunks ∧ c ∈ t.completed s.link.memory) :
    s.Inv t D' b before :=
  ⟨h.link, h.resting, h.serves, h.handle, h.straight, fun program hprogram => by simp_all, hD,
    h.before_le, h.consumed_le⟩

/-- A call that has done nothing leaves the invariant. -/
lemma Inv.ended (h : s.Inv t D b before) :
    Inv t D b before { s with scan := none, decoded := false } :=
  ⟨h.link, h.resting, h.serves, h.handle, by simp, by simp, h.completed, h.before_le,
    h.consumed_le⟩

/-! ### Steps of a transfer -/

section Steps

variable (hfits : t.Fits)
include hfits

/-- What the link does keeps the invariant. -/
lemma Inv.linkSteps (h : s.Inv t D b before) {l : Link} (hl : Link.Steps t.slot s.link l) :
    Inv t D b before { s with link := l } := by
  obtain ⟨hinv, hgrows⟩ := h.link.steps hfits (t.stable_requesting b before) hl
  obtain ⟨hrest, hsent⟩ := h.link.steps_resting hfits (t.stable_requesting b before) hl h.resting
  exact h.withLink hinv hrest hgrows hsent

/-- A step keeps the invariant until `try_decode` returns true. -/
lemma Inv.step (h : s.Inv t D b before) (hstep : Step isal t.slot s s') :
    s'.decoded = true ∧ s'.scan = none ∨ s'.Inv t D b before := by
  cases hstep with
  | link hl => exact Or.inr (h.linkSteps hfits (.single hl))
  | call idle hdecoded => exact Or.inr h.call
  | load hscan =>
    obtain ⟨hsame, hinv⟩ := h.load hscan
    exact Or.inr (hsame.symm ▸ hinv)
  | conclude hscan hs =>
    cases hdecoded : s'.decoded with
    | true =>
      obtain ⟨result, -, rfl⟩ := Option.map_eq_some_iff.mp hs
      exact Or.inl ⟨rfl, rfl⟩
    | false =>
      rcases h.conclude_false hs hdecoded with rfl | ⟨missing, avail, msg, r', -, -, -, hmsg, -,
        hhandle, hs'⟩
      · exact Or.inr h.ended
      · exact Or.inr (h.requested hmsg hhandle hs').1
  | deliver hmsg hs =>
    obtain ⟨s₁, hs₁, hinv, -⟩ := h.deliver hfits hmsg
    obtain rfl := Option.some.inj (hs₁.symm.trans hs)
    exact Or.inr hinv
  | timeout hs =>
    obtain ⟨state, hs₁, -⟩ := h.event_timeout
    obtain rfl := Option.some.inj (hs₁.symm.trans hs)
    exact Or.inr (h.withState state)

omit hfits in
/-- Once `try_decode` has returned true, it is not called again. -/
lemma step_decoded (hdecoded : s.decoded = true) (hscan : s.scan = none) {slot : ℕ}
    (hstep : Step isal slot s s') : s'.decoded = true ∧ s'.scan = none := by
  cases hstep with
  | link hl => exact ⟨hdecoded, hscan⟩
  | call idle hnot => exact absurd hdecoded (by simp [hnot])
  | load hprogram => exact absurd hprogram (by simp [hscan])
  | conclude hprogram hs => exact absurd hprogram (by simp [hscan])
  | deliver hmsg hs =>
    obtain ⟨poll, -, rfl⟩ := Option.map_eq_some_iff.mp hs
    exact ⟨hdecoded, hscan⟩
  | timeout hs =>
    obtain ⟨poll, -, rfl⟩ := Option.map_eq_some_iff.mp hs
    exact ⟨hdecoded, hscan⟩

/-- So does a step of a run that leaves the connection standing. -/
lemma Inv.lossyStep (h : s.Inv t D b before) (hstep : LossyStep isal t.slot s s')
    (hconn : s'.poll.connected = true) :
    s'.decoded = true ∧ s'.scan = none ∨ s'.Inv t D b before := by
  cases hstep with
  | step hstep => exact h.step hfits hstep
  | lose p =>
    exact Or.inr (h.withLink (h.link.lose p) h.resting (Std.Refl.refl _) rfl)
  | disconnect hs =>
    obtain ⟨poll, hpoll, rfl⟩ := Option.map_eq_some_iff.mp hs
    obtain rfl := ECPoll.step_of_disconnected (ite_self _) hpoll hconn
    refine Or.inr ?_
    simpa only [List.drop_length, Link.send_nil] using h

end Steps

/-! ### Runs -/

/-- A connection that stands has stood before. -/
lemma connected_of_lossyStep {slot : ℕ} (hstep : LossyStep isal slot s s')
    (hconn : s'.poll.connected = true) : s.poll.connected = true := by
  have hevent : ∀ {e : ChannelEvent} {s₁ : EcTransfer}, s.event e = some s₁ →
      s₁.poll.connected = true → s.poll.connected = true := by
    intro e s₁ hs hstands
    obtain ⟨poll, hpoll, rfl⟩ := Option.map_eq_some_iff.mp hs
    exact ECPoll.connected_of_step hpoll hstands
  cases hstep with
  | lose p => exact hconn
  | disconnect hs => exact hevent hs hconn
  | step hstep =>
    cases hstep with
    | link hl => exact hconn
    | call idle hdecoded => exact hconn
    | load hscan => exact hconn
    | conclude hscan hs =>
      obtain ⟨result, -, rfl⟩ := Option.map_eq_some_iff.mp hs
      exact hconn
    | deliver hmsg hs => exact hevent hs hconn
    | timeout hs => exact hevent hs hconn

/-- The invariant holds in every run until `try_decode` returns true. -/
lemma Inv.run (hfits : t.Fits) (h : s.Inv t D b before)
    (hs : Relation.ReflTransGen (LossyStep isal t.slot) s s') (hconn : s'.poll.connected = true) :
    s'.decoded = true ∧ s'.scan = none ∨ s'.Inv t D b before := by
  induction hs with
  | refl => exact Or.inr h
  | tail _ hstep ih =>
    rcases ih (connected_of_lossyStep hstep hconn) with ⟨hdecoded, hscan⟩ | hinv
    · refine Or.inl ?_
      cases hstep with
      | step hstep => exact step_decoded hdecoded hscan hstep
      | lose p => exact ⟨hdecoded, hscan⟩
      | disconnect hs =>
        obtain ⟨poll, -, rfl⟩ := Option.map_eq_some_iff.mp hs
        exact ⟨hdecoded, hscan⟩
    · exact hinv.lossyStep hfits hstep hconn

end EcTransfer

/-! ### The transfer after a handshake -/

namespace ECHandshake

/-- The parameters of the OFFER. -/
def offer (h : ECHandshake) : ConnectionParams :=
  (offerMessage h.conn.connectionCtx (ECSender.storage h.isal h.cfg h.conn.connectionCtx.params
    h.message h.sentLength).length).params

/-- What `sdr_recv_post` makes of it. -/
def answered (h : ECHandshake) : OfferOutcome × ReceiverMemory :=
  recvPostOnOffer h.memory h.recvId h.generation h.buffer h.recvLength h.offer h.opened h.answer

/-- The receiver and its memory once `post_receive` has returned. -/
def posted (h : ECHandshake) : ECReceiver × ReceiverMemory :=
  h.receiver.posted h.recvHandle h.answered.2

/-- The transfer when the sender calls `poll`. -/
def transfer (h : ECHandshake) : EcTransfer where
  link := ⟨Pool.start h.posted.2, h.packets, fun _ => none⟩
  poll := ⟨h.sender, true, .main⟩
  receiver := h.posted.1
  scan := none
  consumed := h.posted.2.sent.length
  decoded := false

/-- The bitmaps of the message. -/
def bitmaps (h : ECHandshake) : BitmapPair :=
  .ofPost h.recvId h.recvLength h.generation h.cts.params

/-- Both ends count the messages and the slot's generations alike, 32 bits count the packets, and
the sender does not count more data chunks than it has acknowledgements for. -/
structure Countable (h : ECHandshake) : Prop where
  sendId : h.sendId = h.recvId
  generation : h.memory.conn.connectionCtx.generationCounters h.recvId = h.generation
  totalPackets : 0 < h.bitmaps.totalPackets
  size : h.bitmaps.totalPackets + h.bitmaps.packetsPerChunk < 2 ^ 32
  sized : h.sender.dataChunks ≤ h.encoded.dataChunks

variable {h : ECHandshake}

lemma answered_eq (h : ECHandshake) :
    recvPostOnOffer h.memory h.recvId h.generation h.buffer h.recvLength h.offer h.opened h.answer
      = (.ready h.recvHandle (some h.cts), h.answered.2) :=
  Prod.ext h.answers rfl

lemma setUp (h : ECHandshake) : SlotSetUp h.memory h.recvId h.generation h.buffer h.recvLength
    h.offer h.recvHandle h.answered.2 := by
  have hspec := recvPostOnOffer_spec h.memory h.recvId h.generation h.buffer h.recvLength h.offer
    h.opened h.answer
  rw [h.answered_eq] at hspec
  exact hspec.setUp h.recvHandle rfl

lemma params_cts (h : ECHandshake) : h.cts.params
    = (negotiate h.memory.conn.connectionCtx.params h.offer h.recvLength).withTransferId
        h.generation := by
  have hspec := recvPostOnOffer_spec h.memory h.recvId h.generation h.buffer h.recvLength h.offer
    h.opened h.answer
  rw [h.answered_eq] at hspec
  exact (hspec.cts h.recvHandle h.cts rfl).2

lemma sender_params (h : ECHandshake) : h.sender.params = h.cts.params := by
  rw [← sendPostOnCts_params h.conn h.sendId _ h.cts h.socketReady, h.sends]
  rfl

lemma msgId_recvHandle (h : ECHandshake) : h.recvHandle.msgId = h.bitmaps.slot := by
  rw [h.setUp.handle]
  rfl

lemma posted_memory (h : ECHandshake) : h.posted.2 = h.answered.2.mapMessage h.bitmaps.slot
    fun msg => { msg with totalChunks := h.receiver.layout.totalChunks } := by
  rw [posted, ECReceiver.posted, h.msgId_recvHandle]

namespace Countable

variable (hc : h.Countable)
include hc

lemma fits : h.bitmaps.Fits := by
  have hppc := negotiate_packetsPerChunk h.memory.conn.connectionCtx.params h.offer h.recvLength
  refine ⟨h.setUp.lt, hc.totalPackets, ?_, hc.size⟩
  rw [bitmaps, h.params_cts]
  exact hppc

lemma built : h.bitmaps.Built h.answered.2 := by
  have hsize := hc.size
  rw [bitmaps, h.params_cts, ← hc.generation] at hsize ⊢
  exact BitmapPair.built_of_post h.setUp hsize

lemma inv : h.transfer.Inv h.bitmaps ∅ h.buffer h.transfer.consumed := by
  obtain ⟨hlive, hbuffer⟩ := BitmapPair.live_of_post h.setUp rfl hc.built
  have hlive' : h.bitmaps.Live h.posted.2 := h.posted_memory ▸ hlive.setTotalChunks _
  have hserver := recvPostOnOffer_server h.answered_eq
  have hrequesting : h.bitmaps.Requesting h.buffer h.transfer.consumed h.posted.2 := by
    refine ⟨?_, hserver, le_rfl, by simp [transfer]⟩
    rw [h.posted_memory, ReceiverMemory.message_mapMessage, Option.bind_map]
    exact hbuffer
  obtain ⟨hmsgId, hpackets⟩ := packets_of_sendPostOnCts h.sends
  have haccepts : ∀ q ∈ h.packets, h.bitmaps.Accepts q := by
    intro q hq
    obtain ⟨o, ho⟩ := hpackets q hq
    have hmtu := negotiate_mtuBytes h.memory.conn.connectionCtx.params h.offer h.recvLength
    rw [hc.sendId, h.params_cts] at ho
    exact BitmapPair.accepts_of_dataPacket hc.fits.slot hmtu.2 ho
  refine ⟨⟨⟨⟨hlive', hrequesting⟩, fun th => ?_⟩, fun _ => trivial, haccepts⟩, fun _ => rfl,
    ⟨?_, ?_, fun acked hacked => (List.mem_replicate.mp hacked).2, ?_, rfl⟩,
    ⟨h.recvHandle, rfl, h.msgId_recvHandle⟩, by simp [transfer], by simp [transfer], by simp,
    le_rfl, le_rfl⟩
  · cases th with
    | worker i => exact fun _ _ _ q hq => absurd hq (by simp [transfer])
    | poller => exact fun _ _ _ => trivial
    | app i => exact fun _ _ _ => trivial
  · change h.sender.params.transferId = h.bitmaps.generation
    rw [h.sender_params, h.params_cts]
    rfl
  · change h.sendHandle.msgId = h.bitmaps.slot
    rw [hmsgId, hc.sendId]
    rfl
  · change h.sender.dataChunks ≤ h.sender.chunkAcked.length
    have hlength : h.sender.chunkAcked.length = h.encoded.dataChunks := List.length_replicate
    rw [hlength]
    exact hc.sized

end Countable

end ECHandshake

end SdrUdp
