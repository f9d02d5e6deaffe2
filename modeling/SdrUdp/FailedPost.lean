import SdrUdp.SlotHistory

/-!
# Posts that fail

`sdr_recv_post` returns -1 at five places and takes nothing back. Once the slot is allocated it
stays active with its poller, the handle is written, and a receiver that could not be started stays
installed.
-/

namespace SdrUdp

open SdrUdp.Core

/-- The call returned -1 after its argument checks. -/
def RecvPostResult.Fails : RecvPostResult → Prop
  | noOffer      => True
  | refused _    => True
  | failed _     => True
  | noAccept _ _ => True
  | _            => False

namespace ReceiverProcess

/-- The message table and the receiver of connection `i` are as before the call, and no handle is
written. -/
structure LeftAsBefore (p : ReceiverProcess) (i : ℕ) (result : RecvPostResult × ReceiverProcess) :
    Prop where
  table : (result.2.connections i).conn.connectionCtx.msgTable
    = (p.connections i).conn.connectionCtx.msgTable
  udpReceiver : (result.2.connections i).conn.udpReceiver = (p.connections i).conn.udpReceiver
  handle : result.1.handle = none

/-- The connection's client is gone. -/
def Closed (p : ReceiverProcess) (i : ℕ) : Prop :=
  ∃ server, (p.connections i).conn.tcpServer = some server ∧ server.clientFd < 0

/-- On a closed connection `receive_message` finds nothing but that. -/
def Answers (p : ReceiverProcess) : Call → Prop
  | .recvPost i _ _ received _ _ => p.Closed i → received.head? = some .disconnected
  | _                            => True

/-- So it is in a sequence of calls. -/
def Feasible (p : ReceiverProcess) : List Call → Prop
  | []         => True
  | c :: calls => p.Answers c ∧ (call ([], p) c).2.Feasible calls

/-- Any later calls have the same results as if they had been made on `p`. -/
def SameResults (p p' : ReceiverProcess) : Prop :=
  ∀ calls, p'.Feasible calls → (p'.run calls).1 = (p.run calls).1

/-! ### What a failed call leaves -/

section OnOffer

variable (m : ReceiverMemory) {msgId : ℕ} (hid : msgId < ConnectionContext.maxMessages)
  (generation : U32) (buffer length : ℕ) (offer : ConnectionParams) (opened : Bool) (answer : ℤ)
include hid

/-- The handle is written once the slot is taken, so a busy slot leaves it alone. -/
lemma recvPostOnOffer_handle_eq_none :
    (recvPostOnOffer m msgId generation buffer length offer opened answer).1.handle = none ↔
      ConnectionContext.slotBusy (m.message msgId) generation = true := by
  have halloc := (m.conn.connectionCtx.initializeContext m.conn.connectionCtx.connectionId
    (negotiate m.conn.connectionCtx.params offer length)).allocateMessageSlot_eq_none_iff hid
      generation
  rw [ReceiverMemory.message, ← ConnectionContext.initializeContext_msgTable, ← halloc]
  unfold recvPostOnOffer
  dsimp only
  split
  · rename_i hslot
    exact iff_of_true rfl hslot
  · rename_i msg ctx hslot
    refine iff_of_false ?_ (by rw [hslot]; exact Option.some_ne_none _)
    split_ifs
    · exact Option.some_ne_none _
    · split
      · exact Option.some_ne_none _
      · split_ifs <;> exact Option.some_ne_none _

/-- A refused post changes nothing but the connection's context. -/
lemma recvPostOnOffer_refused
    (hnone : (recvPostOnOffer m msgId generation buffer length offer opened answer).1.handle
      = none) :
    ∃ ctx, (recvPostOnOffer m msgId generation buffer length offer opened answer).2
      = { m with conn.connectionCtx := ctx } := by
  have hbusy := (recvPostOnOffer_handle_eq_none m hid _ _ _ _ _ _).mp hnone
  have hslot := ((m.conn.connectionCtx.initializeContext m.conn.connectionCtx.connectionId
    (negotiate m.conn.connectionCtx.params offer length)).allocateMessageSlot_eq_none_iff hid
      generation).mpr hbusy
  exact ⟨_, by simp only [recvPostOnOffer, hslot]; rfl⟩

end OnOffer

/-- A post with the OFFER at hand gets a message id. -/
lemma sdrRecvPost_drawn {p : ReceiverProcess} {i length : ℕ} {received : List Received}
    (buffer : ℕ) (opened : Bool) (answer : ℤ)
    (hvalid : ¬ (length = 0 ∨ (p.connections i).conn.isReceiver = false ∨
      (p.connections i).conn.tcpServer.isNone))
    {offer : ControlMessage} {rest : List Received}
    (hoffer : waitFor .offer received = some (some offer, rest)) :
    (p.sdrRecvPost i buffer length received opened answer).1.drawn = some (p.nextId i % 1024) := by
  rcases sdrRecvPost_counters p i buffer length received opened answer with ⟨hnone, -, -⟩ | ⟨h, -⟩
  · unfold sdrRecvPost at hnone
    dsimp only at hnone
    rw [if_neg hvalid, hoffer] at hnone
    dsimp only at hnone
    split at hnone
    · simp [RecvPostResult.drawn] at hnone
    · simp [RecvPostResult.drawn] at hnone
    · split at hnone <;> simp [RecvPostResult.drawn] at hnone
  · exact h

section Call

variable {p : ReceiverProcess} {i length : ℕ} {received : List Received}

/-- With the OFFER at hand, the handle is written where the slot is taken, and otherwise the call
ends there. -/
lemma sdrRecvPost_of_offer (buffer : ℕ) (opened : Bool) (answer : ℤ)
    (hvalid : ¬ (length = 0 ∨ (p.connections i).conn.isReceiver = false ∨
      (p.connections i).conn.tcpServer.isNone))
    {offer : ControlMessage} {rest : List Received}
    (hoffer : waitFor .offer received = some (some offer, rest)) :
    let outcome := recvPostOnOffer (p.connections i) (p.nextId i % 1024) p.receiverGenerationCounter
      buffer length offer.params opened answer
    let result := p.sdrRecvPost i buffer length received opened answer
    result.1.handle = outcome.1.handle ∧
      (outcome.1.handle = none → result.2.connections i = outcome.2) := by
  unfold sdrRecvPost
  dsimp only
  rw [if_neg hvalid, hoffer]
  unfold onOffer
  dsimp only [allocateMsgId, nextId]
  generalize recvPostOnOffer _ _ _ _ _ _ _ _ = outcome
  obtain ⟨outcome, m⟩ := outcome
  cases outcome with
  | refused => exact ⟨rfl, fun _ => Function.update_self _ _ _⟩
  | failed handle => exact ⟨rfl, fun h => absurd h (by simp [OfferOutcome.handle])⟩
  | ready handle cts =>
    dsimp only
    split <;> exact ⟨rfl, fun h => absurd h (by simp [OfferOutcome.handle])⟩

variable {buffer : ℕ} {opened : Bool} {answer : ℤ}

/-- Without an OFFER the call ends where it waits for one. -/
lemma sdrRecvPost_of_closed
    (hvalid : ¬ (length = 0 ∨ (p.connections i).conn.isReceiver = false ∨
      (p.connections i).conn.tcpServer.isNone))
    {rest : List Received} (hclosed : waitFor .offer received = some (none, rest)) :
    p.sdrRecvPost i buffer length received opened answer
      = (.noOffer, p.setConnection i (closeServer (p.connections i))) := by
  unfold sdrRecvPost
  dsimp only
  rw [if_neg hvalid, hclosed]

variable (hfails : (p.sdrRecvPost i buffer length received opened answer).1.Fails)
include hfails

/-- A call that failed had valid arguments, and either found the connection closed or got an
OFFER. -/
lemma valid_of_fails : ¬ (length = 0 ∨ (p.connections i).conn.isReceiver = false ∨
    (p.connections i).conn.tcpServer.isNone) ∧
    ((∃ rest, waitFor .offer received = some (none, rest)) ∨
      ∃ offer rest, waitFor .offer received = some (some offer, rest)) := by
  unfold sdrRecvPost at hfails
  dsimp only at hfails
  split_ifs at hfails with hinvalid
  · exact hfails.elim
  · refine ⟨hinvalid, ?_⟩
    split at hfails
    · exact hfails.elim
    · rename_i rest hwait
      exact Or.inl ⟨rest, hwait⟩
    · rename_i offer rest hwait
      exact Or.inr ⟨offer, rest, hwait⟩

/-- The state is as before when no slot was taken. -/
lemma leftAsBefore_iff :
    p.LeftAsBefore i (p.sdrRecvPost i buffer length received opened answer) ↔
      (∃ rest, waitFor .offer received = some (none, rest)) ∨
        ConnectionContext.slotBusy ((p.connections i).message (p.nextId i % 1024))
          p.receiverGenerationCounter = true := by
  obtain ⟨hvalid, ⟨rest, hclosed⟩ | ⟨offer, rest, hoffer⟩⟩ := valid_of_fails hfails
  · refine iff_of_true ?_ (Or.inl ⟨rest, hclosed⟩)
    rw [sdrRecvPost_of_closed hvalid hclosed]
    exact ⟨by simp [setConnection, closeServer], by simp [setConnection, closeServer], rfl⟩
  · have hnot : ¬ ∃ rest, waitFor .offer received = some (none, rest) := by
      rintro ⟨rest', h⟩
      exact absurd (hoffer.symm.trans h) (by simp)
    have hid : p.nextId i % 1024 < ConnectionContext.maxMessages := Nat.mod_lt _ (by decide)
    obtain ⟨hhandle, hends⟩ := sdrRecvPost_of_offer buffer opened answer hvalid hoffer
    rw [or_iff_right hnot, ← recvPostOnOffer_handle_eq_none (p.connections i) hid _ buffer length
      offer.params opened answer, ← hhandle]
    refine ⟨LeftAsBefore.handle, fun hnone => ⟨?_, ?_, hnone⟩⟩
    · have hposts := sdrRecvPost_posts p i buffer length received opened answer
      have hslot : (p.sdrRecvPost i buffer length received opened answer).1.slot = none := by
        rw [RecvPostResult.slot_eq, hnone]
        rfl
      exact funext fun s => hposts.kept i s fun _ h => absurd (hslot.symm.trans h) (by simp)
    · obtain ⟨ctx, hctx⟩ := recvPostOnOffer_refused (p.connections i) hid _ _ _ _ _ _
        (hhandle.symm.trans hnone)
      rw [hends (hhandle.symm.trans hnone), hctx]

end Call

/-! ### Calls after the connection has closed -/

/-- The connection a call works on. -/
def onConnection : Call → ℕ
  | .recvPost i _ _ _ _ _  => i
  | .recvComplete i _ _    => i
  | .releaseMessage i _    => i

lemma onOffer_setConnection {i j : ℕ} (m : ReceiverMemory) (p : ReceiverProcess) (hne : j ≠ i)
    (buffer length : ℕ) (offer : ConnectionParams) (opened : Bool) (answer : ℤ) :
    (p.setConnection i m).onOffer j buffer length offer opened answer
      = ((p.onOffer j buffer length offer opened answer).1,
        (p.onOffer j buffer length offer opened answer).2.1,
        (p.onOffer j buffer length offer opened answer).2.2.setConnection i m) ∧
      (p.onOffer j buffer length offer opened answer).2.2.connections i = p.connections i := by
  refine ⟨?_, Function.update_of_ne (Ne.symm hne) _ _⟩
  simp only [onOffer, setConnection, Function.update_of_ne hne, Function.update_comm hne]

/-- Calls on one connection and calls on another do not see each other's memory. -/
lemma call_setConnection {i : ℕ} (m : ReceiverMemory) (h : History) (p : ReceiverProcess) {c : Call}
    (hne : onConnection c ≠ i) :
    call (h, p.setConnection i m) c = ((call (h, p) c).1, (call (h, p) c).2.setConnection i m) ∧
      (call (h, p) c).2.connections i = p.connections i := by
  have hcomm : ∀ (q : ReceiverProcess) (j : ℕ) (m' : ReceiverMemory), j ≠ i →
      (q.setConnection i m).setConnection j m' = (q.setConnection j m').setConnection i m := by
    intro q j m' hj
    simp only [setConnection, Function.update_comm hj]
  have hother : ∀ (q : ReceiverProcess) (j : ℕ), j ≠ i →
      (q.setConnection i m).connections j = q.connections j :=
    fun q j hj => Function.update_of_ne hj _ _
  have hsame : ∀ (q : ReceiverProcess) (j : ℕ) (m' : ReceiverMemory), j ≠ i →
      (q.setConnection j m').connections i = q.connections i :=
    fun q j m' hj => Function.update_of_ne (Ne.symm hj) _ _
  cases c with
  | releaseMessage j msgId =>
    have hj : j ≠ i := hne
    refine ⟨?_, hsame _ _ _ hj⟩
    simp only [call, releaseMessage, hother p j hj, hcomm p j _ hj]
  | recvComplete j handle answer =>
    have hj : j ≠ i := hne
    obtain ⟨isComplete, hrun⟩ := run_sdrRecvComplete
      (any_polling_joined handle.msgId (p.connections j)) answer
    simp only [call, sdrRecvComplete, hother p j hj, hrun]
    exact ⟨by rw [hcomm p j _ hj], hsame _ _ _ hj⟩
  | recvPost j buffer length received opened answer =>
    have hj : j ≠ i := hne
    simp only [call, sdrRecvPost, hother p j hj]
    split_ifs
    · exact ⟨rfl, rfl⟩
    · split
      · exact ⟨rfl, rfl⟩
      · exact ⟨by rw [hcomm p j _ hj], hsame _ _ _ hj⟩
      · rename_i offer rest _
        obtain ⟨hoffer, hkept⟩ := onOffer_setConnection m p hj buffer length offer.params
          opened answer
        rw [hoffer]
        generalize p.onOffer j buffer length offer.params opened answer = result at hkept ⊢
        obtain ⟨msgId, outcome, q⟩ := result
        cases outcome with
        | refused => exact ⟨rfl, hkept⟩
        | failed handle => exact ⟨rfl, hkept⟩
        | ready handle cts =>
          dsimp only
          split
          · exact ⟨rfl, hkept⟩
          · exact ⟨by rw [hother q j hj, hcomm q j _ hj], (hsame _ _ _ hj).trans hkept⟩
          · exact ⟨rfl, hkept⟩

/-- The memory of a closed connection next to that of the same connection where nobody has noticed:
they differ in what the control connection carries. -/
structure Unnoticed (m' m : ReceiverMemory) : Prop where
  connectionCtx : m'.conn.connectionCtx = m.conn.connectionCtx
  isReceiver : m'.conn.isReceiver = m.conn.isReceiver
  closed : ∃ server, m'.conn.tcpServer = some server ∧ server.clientFd < 0
  tcpServer : m.conn.tcpServer.isNone = false

lemma Unnoticed.closeServer {m' m : ReceiverMemory} (h : Unnoticed m' m) :
    Unnoticed (closeServer m') (closeServer m) := by
  obtain ⟨server, hserver, hfd⟩ := h.closed
  refine ⟨h.connectionCtx, h.isReceiver, ⟨{ server with clientFd := -1 }, ?_, by decide⟩, ?_⟩
  · simp [ReceiverProcess.closeServer, hserver]
  · have := h.tcpServer
    simpa [ReceiverProcess.closeServer] using this

lemma Unnoticed.sdrRecvComplete {m' m : ReceiverMemory} (h : Unnoticed m' m) (id : ℕ)
    (msg' msg : ControlMessage) (answer : ℤ) :
    Unnoticed
      (((m'.mapFrontend id fun f => { f with polling := false }).completeMessage id).sendMessage
        msg' answer)
      (((m.mapFrontend id fun f => { f with polling := false }).completeMessage id).sendMessage
        msg answer) := by
  constructor
  · simp only [ReceiverMemory.sendMessage_conn, ReceiverMemory.completeMessage,
      ReceiverMemory.mapFrontend, ReceiverMemory.mapMessage, ReceiverMemory.message,
        h.connectionCtx]
  · rw [ReceiverMemory.sendMessage_conn, ReceiverMemory.sendMessage_conn]
    exact h.isReceiver
  · rw [ReceiverMemory.sendMessage_conn]
    exact h.closed
  · rw [ReceiverMemory.sendMessage_conn]
    exact h.tcpServer

/-- Calls on the connection that is closed have the same results where nobody has noticed yet. -/
lemma call_unnoticed {p : ReceiverProcess} {i : ℕ} {m' : ReceiverMemory} (h : History)
    (hm : Unnoticed m' (p.connections i)) {c : Call} (hc : (p.setConnection i m').Answers c) :
    (call (h, p.setConnection i m') c).1 = (call (h, p) c).1 ∧
      ∃ m'', (call (h, p.setConnection i m') c).2 = (call (h, p) c).2.setConnection i m'' ∧
        Unnoticed m'' ((call (h, p) c).2.connections i) := by
  by_cases hne : onConnection c = i
  · have hidem : ∀ (q : ReceiverProcess) (m₁ m₂ : ReceiverMemory),
        (q.setConnection i m₁).setConnection i m₂ = q.setConnection i m₂ := by
      intro q m₁ m₂
      simp only [setConnection, Function.update_idem]
    have hself : ∀ (q : ReceiverProcess) (m : ReceiverMemory),
        (q.setConnection i m).connections i = m := fun q m => Function.update_self _ _ _
    cases c with
    | releaseMessage j msgId =>
      obtain rfl : j = i := hne
      refine ⟨rfl, _, by simp only [call, releaseMessage, hself, hidem]; rfl, ?_⟩
      simp only [call, releaseMessage, hself]
      exact ⟨by simp only [hm.connectionCtx], hm.isReceiver, hm.closed, hm.tcpServer⟩
    | recvComplete j handle answer =>
      obtain rfl : j = i := hne
      obtain ⟨isComplete, hrun⟩ := run_sdrRecvComplete
        (any_polling_joined handle.msgId (p.connections j)) answer
      obtain ⟨isComplete', hrun'⟩ := run_sdrRecvComplete (any_polling_joined handle.msgId m') answer
      simp only [call, ReceiverProcess.sdrRecvComplete, hself, hrun, hrun', hidem]
      exact ⟨trivial, _, rfl, hm.sdrRecvComplete handle.msgId _ _ answer⟩
    | recvPost j buffer length received opened answer =>
      obtain rfl : j = i := hne
      have hhead : received.head? = some .disconnected := hc (by
        rw [Closed, hself]
        exact hm.closed)
      obtain ⟨rest, rfl⟩ : ∃ rest, received = .disconnected :: rest := by
        cases received with
        | nil => exact absurd hhead (by simp)
        | cons event rest =>
          exact ⟨rest,
            by rw [List.head?_cons, Option.some.injEq] at hhead; rw [hhead]⟩
      obtain ⟨server, hserver, -⟩ := hm.closed
      have hopen : m'.conn.tcpServer.isNone = false := by rw [hserver]; rfl
      simp only [call, sdrRecvPost, hself, hm.isReceiver, hopen, hm.tcpServer, waitFor,
        Bool.false_eq_true]
      split_ifs
      · exact ⟨rfl, m', rfl, hm⟩
      · refine ⟨rfl, closeServer m', ?_, ?_⟩
        · rw [hidem, hidem]
        · rw [hself]
          exact hm.closeServer
  · obtain ⟨hcall, hkept⟩ := call_setConnection m' h p hne
    rw [hcall]
    exact ⟨rfl, m', rfl, hkept ▸ hm⟩

lemma call_snd (h : History) (p : ReceiverProcess) (c : Call) :
    (call (h, p) c).2 = (call ([], p) c).2 := by
  cases c <;> rfl

/-- A whole sequence of calls does not notice either. -/
lemma sameResults_of_unnoticed {p : ReceiverProcess} {i : ℕ} {m' : ReceiverMemory}
    (hm : Unnoticed m' (p.connections i)) : p.SameResults (p.setConnection i m') := by
  intro calls hfeasible
  unfold run
  generalize ([] : History) = h
  induction calls generalizing p m' h with
  | nil => rfl
  | cons c calls ih =>
    obtain ⟨hfirst, m'', hsecond, hm''⟩ := call_unnoticed h hm hfeasible.1
    have hrest := hfeasible.2
    rw [← call_snd h, hsecond] at hrest
    rw [List.foldl_cons, List.foldl_cons, ← Prod.mk.eta (p := call (h, p.setConnection i m') c),
      ← Prod.mk.eta (p := call (h, p) c), hfirst, hsecond]
    exact ih hm'' hrest _

/-- After a refused post the next one draws another message id. -/
lemma not_sameResults_of_refused {p : ReceiverProcess} {i buffer length : ℕ}
    {received : List Received} {opened : Bool} {answer : ℤ}
    (hanswers : p.Answers (.recvPost i buffer length received opened answer))
    (hvalid : ¬ (length = 0 ∨ (p.connections i).conn.isReceiver = false ∨
      (p.connections i).conn.tcpServer.isNone))
    {offer : ControlMessage} {rest : List Received}
    (hoffer : waitFor .offer received = some (some offer, rest))
    (hnone : (p.sdrRecvPost i buffer length received opened answer).1.handle = none) :
    ¬ p.SameResults (p.sdrRecvPost i buffer length received opened answer).2 := by
  intro hsame
  have hid : p.nextId i % 1024 < ConnectionContext.maxMessages := Nat.mod_lt _ (by decide)
  obtain ⟨hhandle, hends⟩ := sdrRecvPost_of_offer buffer opened answer hvalid hoffer
  obtain ⟨ctx, hctx⟩ := recvPostOnOffer_refused (p.connections i) hid p.receiverGenerationCounter
    buffer length offer.params opened answer (hhandle.symm.trans hnone)
  have hconn := (hends (hhandle.symm.trans hnone)).trans hctx
  have hnext : (p.sdrRecvPost i buffer length received opened answer).2.nextId i
      = (p.nextId i + 1) % 1024 := by
    rcases sdrRecvPost_counters p i buffer length received opened answer with ⟨hno, -, -⟩ | ⟨-, h⟩
    · exact absurd (hno.symm.trans (sdrRecvPost_drawn _ _ _ hvalid hoffer)) (by simp)
    · rw [nextId, h.contexts, h.parents, Function.update_self]
  generalize (p.sdrRecvPost i buffer length received opened answer).2 = p' at hsame hconn hnext
  have hclosed : p.Closed i → False := by
    intro hclosed
    have hhead := hanswers hclosed
    cases received with
    | nil => exact absurd hhead (by simp)
    | cons event rest' =>
      rw [List.head?_cons, Option.some.injEq] at hhead
      rw [hhead] at hoffer
      exact absurd hoffer (by simp [waitFor])
  obtain ⟨next, hwait⟩ : ∃ next : ControlMessage,
      waitFor .offer [.message next] = some (some next, []) :=
    ⟨{ ControlMessage.zero with msgType := .offer }, rfl⟩
  have hlater := hsame [.recvPost i buffer length [.message next] opened answer]
    ⟨fun h => absurd (by rw [Closed, hconn] at h; exact h) hclosed, trivial⟩
  have hdrawn := sdrRecvPost_drawn buffer opened answer hvalid hwait
  have hdrawn' : (p'.sdrRecvPost i buffer length [.message next] opened answer).1.drawn
      = some (p'.nextId i % 1024) :=
    sdrRecvPost_drawn _ _ _ (by rw [hconn]; exact hvalid) hwait
  have hresult := congrArg (fun h : History => h.map fun e => e.2.drawn) hlater
  simp only [run, List.foldl_cons, List.foldl_nil, call, List.map_cons, List.map_nil, hdrawn,
    hdrawn', List.cons.injEq, and_true, Option.some.injEq, hnext] at hresult
  omega

/-- A post that fails leaves the message table, the receiver and the caller's handle as they were if
and only if it fails before it takes a slot: the connection is closed while it waits for the
OFFER, or the slot of the message id it draws is refused. All later calls have the results they
would have had without it in the first of these cases only, since a refused post has drawn a message
id. -/
theorem failedPost_iff {p : ReceiverProcess} {i buffer length : ℕ} {received : List Received}
    {opened : Bool} {answer : ℤ}
    (hanswers : p.Answers (.recvPost i buffer length received opened answer))
    (hfails : (p.sdrRecvPost i buffer length received opened answer).1.Fails) :
    let result := p.sdrRecvPost i buffer length received opened answer
    let closed := ∃ rest, waitFor .offer received = some (none, rest)
    let refused := ConnectionContext.slotBusy ((p.connections i).message (p.nextId i % 1024))
      p.receiverGenerationCounter = true
    (p.LeftAsBefore i result ↔ closed ∨ refused) ∧
      (p.LeftAsBefore i result ∧ p.SameResults result.2 ↔ closed) := by
  intro result closed refused
  have hleft : p.LeftAsBefore i result ↔ closed ∨ refused := leftAsBefore_iff hfails
  refine ⟨hleft, ?_⟩
  obtain ⟨hvalid, ⟨rest, hclosed⟩ | ⟨offer, rest, hoffer⟩⟩ := valid_of_fails hfails
  · refine iff_of_true ⟨hleft.mpr (Or.inl ⟨rest, hclosed⟩), ?_⟩ ⟨rest, hclosed⟩
    have hresult : result = (.noOffer, p.setConnection i (closeServer (p.connections i))) :=
      sdrRecvPost_of_closed hvalid hclosed
    rw [hresult]
    have hopen : ¬ (p.connections i).conn.tcpServer.isNone :=
      fun h => hvalid (Or.inr (Or.inr h))
    obtain ⟨server, hserver⟩ := Option.ne_none_iff_exists'.mp fun h =>
      hopen (Option.isNone_iff_eq_none.mpr h)
    refine sameResults_of_unnoticed ⟨rfl, rfl, ⟨{ server with clientFd := -1 }, ?_, by decide⟩, ?_⟩
    · simp [closeServer, hserver]
    · rw [hserver]
      rfl
  · refine iff_of_false ?_ ?_
    · rintro ⟨hbefore, hsame⟩
      exact not_sameResults_of_refused hanswers hvalid hoffer hbefore.handle hsame
    · rintro ⟨rest', h⟩
      exact absurd (hoffer.symm.trans h) (by simp)

end ReceiverProcess

/-- The connection is closed while the post waits for the OFFER. -/
theorem failedPost_iff_closed :
    let result := sampleReceiver.sdrRecvPost 0 0 100 [.timeout, .disconnected] true
      sizeofControlMessage
    sampleReceiver.LeftAsBefore 0 result ∧ sampleReceiver.SameResults result.2 := by
  refine (ReceiverProcess.failedPost_iff ?_ ?_).2.mpr ⟨[], rfl⟩
  · rintro ⟨server, hserver, hfd⟩
    obtain rfl := Option.some.inj hserver
    exact absurd hfd (by decide)
  · trivial

/-- The UDP sockets cannot be opened: the post fails with its handle written, its slot active
and its poller running. The receiver that does not run stays, and the next post returns 0 with
it. -/
theorem not_leftAsBefore_udpStart :
    let result := sampleReceiver.sdrRecvPost 0 0 100 sampleHandshake false sizeofControlMessage
    let next := result.2.sdrRecvPost 0 1 100 sampleHandshake true sizeofControlMessage
    result.1 = .failed ⟨0, 1, 0, 100⟩ ∧
      ((result.2.connections 0).message 0).map MessageContext.state = some .active ∧
      ((result.2.connections 0).frontendBitmap 0).map FrontendBitmap.polling = some true ∧
      (result.2.connections 0).conn.udpReceiver.map UDPReceiver.isRunning = some false ∧
      next.1 = .posted ⟨1, 2, 1, 100⟩ (some (sampleCts 2)) ∧
      (next.2.connections 0).conn.udpReceiver.map UDPReceiver.isRunning = some false ∧
      ¬ (sampleReceiver.LeftAsBefore 0 result ∧ sampleReceiver.SameResults result.2) := by
  intro result next
  have hfailed : result.1 = .failed ⟨0, 1, 0, 100⟩ := by decide +kernel
  refine ⟨hfailed, by decide +kernel, by decide +kernel, by decide +kernel, by decide +kernel,
    by decide +kernel, fun h => ?_⟩
  have hnone := h.1.handle
  rw [hfailed] at hnone
  exact absurd hnone (by simp [RecvPostResult.handle])

end SdrUdp
