import SdrUdp.RecvPost
import Mathlib.Data.List.Count

/-!
# Generations of message slots

`sdr_recv_post` announces a generation drawn from a process-wide counter, while the slot takes one
from its own counter. The two agree exactly when every generation drawn so far went into this slot,
which leaves the first post of the process.
-/

namespace SdrUdp

open SdrUdp.Core

namespace RecvPostResult

/-- The message id the call drew. -/
def drawn : RecvPostResult → Option ℕ
  | invalid               => none
  | noOffer               => none
  | awaitsOffer           => none
  | refused msgId         => some msgId
  | failed handle         => some handle.msgId
  | awaitsAccept handle _ => some handle.msgId
  | noAccept handle _     => some handle.msgId
  | posted handle _       => some handle.msgId

/-- The slot the call allocated. -/
def slot : RecvPostResult → Option ℕ
  | refused _ => none
  | r         => r.drawn

end RecvPostResult

/-! ### Runs of calls -/

/-- The posts of a run with their connections, latest first. -/
abbrev History := List (ℕ × RecvPostResult)

/-- Generations drawn from the process-wide counter. -/
def History.draws (h : History) : ℕ := h.countP fun e => e.2.drawn.isSome

/-- Messages that slot `s` of connection `i` was allocated for. -/
def History.slotDraws (h : History) (i s : ℕ) : ℕ :=
  h.countP fun e => e.1 = i ∧ e.2.slot = some s

namespace ReceiverProcess

/-- The process before its first call: parameters may be set, but no message was posted. -/
structure Initial (p : ReceiverProcess) : Prop where
  counter : p.receiverGenerationCounter = 1
  contexts : ∀ c, (p.contexts c).nextMsgId = 0
  counters : ∀ i s, (p.connections i).conn.connectionCtx.generationCounters s = 1

/-- One call. -/
def call (hp : History × ReceiverProcess) : Call → History × ReceiverProcess
  | .recvPost i buffer length received opened answer =>
    let result := hp.2.sdrRecvPost i buffer length received opened answer
    ((i, result.1) :: hp.1, result.2)
  | .recvComplete i handle answer => (hp.1, hp.2.sdrRecvComplete i handle answer)
  | .releaseMessage i msgId       => (hp.1, hp.2.releaseMessage i msgId)

/-- A sequence of calls. -/
def run (p : ReceiverProcess) (calls : List Call) : History × ReceiverProcess :=
  calls.foldl call ([], p)

/-- Generation counter of slot `s` of connection `i`. -/
def slotCounter (p : ReceiverProcess) (i s : ℕ) : U32 :=
  (p.connections i).conn.connectionCtx.generationCounters s

/-- The next message id on connection `i`. -/
def nextId (p : ReceiverProcess) (i : ℕ) : ℕ :=
  (p.contexts (p.connections i).conn.parentCtx).nextMsgId

/-! ### What a call does to the counters -/

/-- A call that draws nothing leaves every counter alone. -/
structure Keeps (p p' : ReceiverProcess) : Prop where
  counter : p'.receiverGenerationCounter = p.receiverGenerationCounter
  contexts : p'.contexts = p.contexts
  parents : ∀ j, (p'.connections j).conn.parentCtx = (p.connections j).conn.parentCtx
  slots : ∀ j s, p'.slotCounter j s = p.slotCounter j s

/-- A post on connection `i` that draws an id and, unless it is refused, takes the slot. -/
structure Draws (p : ReceiverProcess) (i : ℕ) (slot : Option ℕ) (p' : ReceiverProcess) : Prop where
  counter : p'.receiverGenerationCounter = p.receiverGenerationCounter + 1
  contexts : p'.contexts = Function.update p.contexts (p.connections i).conn.parentCtx
    ⟨(p.nextId i + 1) % 1024⟩
  parents : ∀ j, (p'.connections j).conn.parentCtx = (p.connections j).conn.parentCtx
  taken : slot = none ∨ slot = some (p.nextId i % 1024)
  slots : ∀ j s, p'.slotCounter j s
    = p.slotCounter j s + if j = i ∧ slot = some s then 1 else 0

lemma Keeps.trans {p p' p'' : ReceiverProcess} (h : Keeps p p') (h' : Keeps p' p'') :
    Keeps p p'' where
  counter := h'.counter.trans h.counter
  contexts := h'.contexts.trans h.contexts
  parents j := (h'.parents j).trans (h.parents j)
  slots j s := (h'.slots j s).trans (h.slots j s)

lemma Draws.trans {p p' p'' : ReceiverProcess} {i : ℕ} {slot : Option ℕ} (h : Draws p i slot p')
    (h' : Keeps p' p'') : Draws p i slot p'' where
  counter := h'.counter.trans h.counter
  contexts := h'.contexts.trans h.contexts
  parents j := (h'.parents j).trans (h.parents j)
  taken := h.taken
  slots j s := (h'.slots j s).trans (h.slots j s)

/-- A change of connection `i` that touches neither its context nor its slot counters. -/
lemma keeps_setConnection {p : ReceiverProcess} {i : ℕ} {m : ReceiverMemory}
    (hparent : m.conn.parentCtx = (p.connections i).conn.parentCtx)
    (hslots : m.conn.connectionCtx.generationCounters
      = (p.connections i).conn.connectionCtx.generationCounters) :
    Keeps p (p.setConnection i m) where
  counter := rfl
  contexts := rfl
  parents j := by
    by_cases h : j = i
    · subst h; simpa [setConnection] using hparent
    · simp [setConnection, h]
  slots j s := by
    by_cases h : j = i
    · subst h; simp [setConnection, slotCounter, hslots]
    · simp [setConnection, slotCounter, h]

lemma onOffer_draws (p : ReceiverProcess) (i buffer length : ℕ) (offer : ConnectionParams)
    (opened : Bool) (answer : ℤ) :
    (p.onOffer i buffer length offer opened answer).1 = p.nextId i % 1024 ∧
      Draws p i ((p.onOffer i buffer length offer opened answer).2.1.handle.map SDRRecvHandle.msgId)
        (p.onOffer i buffer length offer opened answer).2.2 := by
  refine ⟨rfl, ?_⟩
  unfold onOffer
  dsimp only
  generalize hresult : recvPostOnOffer _ _ _ _ _ _ _ _ = result
  have hspec := recvPostOnOffer_spec (p.connections i)
    (allocateMsgId (p.contexts (p.connections i).conn.parentCtx)).1 p.receiverGenerationCounter
    buffer length offer opened answer
  rw [hresult] at hspec
  refine ⟨rfl, rfl, fun j => ?_, ?_, fun j s => ?_⟩
  · by_cases h : j = i
    · subst h; simpa using hspec.parentCtx
    · simp [h]
  · cases hh : result.1.handle with
    | none => exact Or.inl rfl
    | some handle =>
      have := (hspec.setUp handle hh).handle
      exact Or.inr (by simp [this, allocateMsgId, nextId])
  · by_cases h : j = i
    · subst h
      cases hh : result.1.handle with
      | none => simp [slotCounter, (hspec.refused hh).2]
      | some handle =>
        have hset := hspec.setUp handle hh
        have hid : handle.msgId = p.nextId j % 1024 := by
          simp [hset.handle, allocateMsgId, nextId]
        have hcounters := hset.counters
        simp only [allocateMsgId] at hcounters
        simp only [slotCounter, Function.update_self, hcounters, Option.map_some, true_and,
          Option.some.injEq, hid]
        by_cases hs : s = p.nextId j % 1024
        · subst hs; simp [nextId]
        · have hs' : ¬ p.nextId j % 1024 = s := fun e => hs e.symm
          rw [Function.update_of_ne (by simpa [nextId] using hs), if_neg hs']
          simp
    · simp [slotCounter, h]

/-- What a whole call of `sdr_recv_post` does to the counters. -/
lemma sdrRecvPost_counters (p : ReceiverProcess) (i buffer length : ℕ) (received : List Received)
    (opened : Bool) (answer : ℤ) :
    ((p.sdrRecvPost i buffer length received opened answer).1.drawn = none ∧
        (p.sdrRecvPost i buffer length received opened answer).1.slot = none ∧
        Keeps p (p.sdrRecvPost i buffer length received opened answer).2) ∨
      ((p.sdrRecvPost i buffer length received opened answer).1.drawn = some (p.nextId i % 1024) ∧
        Draws p i (p.sdrRecvPost i buffer length received opened answer).1.slot
          (p.sdrRecvPost i buffer length received opened answer).2) := by
  have hclose : ∀ q : ReceiverProcess, Keeps q
    (q.setConnection i (closeServer (q.connections i))) :=
    fun q => keeps_setConnection rfl rfl
  have hrefl : Keeps p p := ⟨rfl, rfl, fun _ => rfl, fun _ _ => rfl⟩
  unfold sdrRecvPost
  dsimp only
  split_ifs
  · exact Or.inl ⟨rfl, rfl, hrefl⟩
  · split
    · exact Or.inl ⟨rfl, rfl, hrefl⟩
    · exact Or.inl ⟨rfl, rfl, hclose p⟩
    · rename_i offer rest _
      obtain ⟨hid, hdraws⟩ := onOffer_draws p i buffer length offer.params opened answer
      have htaken := hdraws.taken
      generalize p.onOffer i buffer length offer.params opened answer = result at *
      obtain ⟨msgId, outcome, q⟩ := result
      cases outcome with
      | refused => exact Or.inr ⟨congrArg some hid, hdraws⟩
      | failed handle =>
        have hh : handle.msgId = p.nextId i % 1024 := by simpa [OfferOutcome.handle] using htaken
        exact Or.inr ⟨congrArg some hh, hdraws⟩
      | ready handle cts =>
        have hh : handle.msgId = p.nextId i % 1024 := by simpa [OfferOutcome.handle] using htaken
        dsimp only
        split
        · exact Or.inr ⟨congrArg some hh, hdraws⟩
        · exact Or.inr ⟨congrArg some hh, hdraws.trans (hclose q)⟩
        · exact Or.inr ⟨congrArg some hh, hdraws⟩

lemma sdrRecvComplete_keeps (p : ReceiverProcess) (i : ℕ) (handle : SDRRecvHandle) (answer : ℤ) :
    Keeps p (p.sdrRecvComplete i handle answer) := by
  unfold sdrRecvComplete
  obtain ⟨isComplete, hrun⟩ := run_sdrRecvComplete
    (any_polling_joined handle.msgId (p.connections i)) answer
  dsimp only
  rw [hrun]
  refine keeps_setConnection ?_ ?_
  · rw [ReceiverMemory.sendMessage_parentCtx]; rfl
  · rw [ReceiverMemory.sendMessage_connectionCtx]
    exact ConnectionContext.completeMessage_generationCounters _ _

lemma releaseMessage_keeps (p : ReceiverProcess) (i msgId : ℕ) :
    Keeps p (p.releaseMessage i msgId) :=
  keeps_setConnection rfl (ConnectionContext.releaseMessage_generationCounters _ _)

/-! ### The invariant of a run -/

/-- The counters count the history. When all draws went into one slot, the id after that slot's is
next. -/
structure Counted (h : History) (p : ReceiverProcess) : Prop where
  counter : p.receiverGenerationCounter = BitVec.ofNat 32 (1 + h.draws)
  slots : ∀ i s, p.slotCounter i s = BitVec.ofNat 32 (1 + h.slotDraws i s)
  le : ∀ i s, h.slotDraws i s ≤ h.draws
  last : ∀ i s, 0 < h.draws → h.slotDraws i s = h.draws → p.nextId i = (s + 1) % 1024
  lt : ∀ c, (p.contexts c).nextMsgId < 1024

lemma Initial.counted {p : ReceiverProcess} (h : p.Initial) : Counted [] p where
  counter := h.counter
  slots i s := h.counters i s
  le _ _ := le_rfl
  last _ _ hpos := absurd hpos (lt_irrefl _)
  lt c := by rw [h.contexts c]; decide

lemma Counted.keeps {h : History} {p p' : ReceiverProcess} (hc : Counted h p) (hk : Keeps p p') :
    Counted h p' where
  counter := hk.counter.trans hc.counter
  slots i s := (hk.slots i s).trans (hc.slots i s)
  le := hc.le
  last i s hpos heq := by
    rw [nextId, hk.contexts, hk.parents]
    exact hc.last i s hpos heq
  lt := by rw [hk.contexts]; exact hc.lt

lemma Counted.skip {h : History} {p : ReceiverProcess} (hc : Counted h p) {i : ℕ}
    {r : RecvPostResult} (hdrawn : r.drawn = none) (hslot : r.slot = none) :
    Counted ((i, r) :: h) p := by
  have hdraws : History.draws ((i, r) :: h) = h.draws := by simp [History.draws, hdrawn]
  have hslots : ∀ j s, History.slotDraws ((i, r) :: h) j s = h.slotDraws j s := by
    intro j s; simp [History.slotDraws, hslot]
  exact ⟨hdraws ▸ hc.counter, fun j s => hslots j s ▸ hc.slots j s,
    fun j s => by rw [hdraws, hslots]; exact hc.le j s,
    fun j s => by rw [hdraws, hslots]; exact hc.last j s, hc.lt⟩

lemma Counted.draws {h : History} {p p' : ReceiverProcess} (hc : Counted h p) {i : ℕ}
    {r : RecvPostResult} (hdrawn : r.drawn.isSome = true) (hd : Draws p i r.slot p') :
    Counted ((i, r) :: h) p' := by
  have hdraws : History.draws ((i, r) :: h) = h.draws + 1 := by simp [History.draws, hdrawn]
  have hslots : ∀ j s, History.slotDraws ((i, r) :: h) j s
      = h.slotDraws j s + if j = i ∧ r.slot = some s then 1 else 0 := by
    intro j s
    simp only [History.slotDraws, List.countP_cons, decide_eq_true_eq, eq_comm (a := i)]
  refine ⟨?_, fun j s => ?_, fun j s => ?_, fun j s _ heq => ?_, fun c => ?_⟩
  · rw [hd.counter, hc.counter, hdraws, ← Nat.add_assoc]
    exact (BitVec.ofNat_add _ 1).symm
  · rw [hd.slots, hc.slots, hslots]
    split_ifs
    · rw [← Nat.add_assoc]
      exact (BitVec.ofNat_add _ 1).symm
    · simp
  · rw [hdraws, hslots]
    have := hc.le j s
    split_ifs <;> omega
  · -- only the slot just taken can have seen every draw
    rw [hdraws, hslots] at heq
    have := hc.le j s
    by_cases hnew : j = i ∧ r.slot = some s
    · obtain ⟨rfl, hs⟩ := hnew
      rcases hd.taken with htaken | htaken
      · exact absurd (hs.symm.trans htaken) (by simp)
      · have hs' : s = p.nextId j % 1024 := Option.some.inj (hs.symm.trans htaken)
        rw [nextId, hd.contexts, hd.parents, Function.update_self, hs']
        simp [Nat.add_mod]
    · rw [if_neg hnew] at heq
      omega
  · rw [hd.contexts]
    by_cases h : c = (p.connections i).conn.parentCtx
    · subst h
      rw [Function.update_self]
      exact Nat.mod_lt _ (by decide)
    · rw [Function.update_of_ne h]
      exact hc.lt c

/-- One call keeps the counters in step with the history. -/
lemma Counted.call {hp : History × ReceiverProcess} (hc : Counted hp.1 hp.2) (c : Call) :
    Counted (call hp c).1 (call hp c).2 := by
  cases c with
  | recvPost i buffer length received opened answer =>
    rcases sdrRecvPost_counters hp.2 i buffer length received opened answer with
      ⟨hdrawn, hslot, hk⟩ | ⟨hdrawn, hd⟩
    · exact (hc.keeps hk).skip hdrawn hslot
    · exact hc.draws (by rw [hdrawn]; rfl) hd
  | recvComplete i handle answer => exact hc.keeps (sdrRecvComplete_keeps _ _ _ _)
  | releaseMessage i msgId => exact hc.keeps (releaseMessage_keeps _ _ _)

lemma counted_run {p : ReceiverProcess} (h : p.Initial) (calls : List Call) :
    Counted (p.run calls).1 (p.run calls).2 := by
  unfold run
  generalize hstart : (([] : History), p) = start
  have hstart' : Counted start.1 start.2 := hstart ▸ h.counted
  clear hstart
  induction calls generalizing start with
  | nil => exact hstart'
  | cons c calls ih => exact ih _ (hstart'.call c)

/-! ### The slot of a successful post -/

/-- A post that returned 0 left its slot with the slot's own generation and the handle and the CTS
with the process's. -/
lemma sdrRecvPost_posted {p p' : ReceiverProcess} {i buffer length : ℕ} {received : List Received}
    {opened : Bool} {answer : ℤ} {handle : SDRRecvHandle} {cts : ControlMessage}
    (h : p.sdrRecvPost i buffer length received opened answer = (.posted handle (some cts), p')) :
    handle.msgId = p.nextId i % 1024 ∧ handle.generation = p.receiverGenerationCounter ∧
      cts.params.transferId = p.receiverGenerationCounter ∧
      ∃ msg, (p'.connections i).message handle.msgId = some msg ∧ msg.state = .active ∧
        msg.generation = p.slotCounter i (p.nextId i % 1024) := by
  unfold sdrRecvPost at h
  dsimp only at h
  split_ifs at h
  · simp at h
  split at h
  · simp at h
  · simp at h
  · rename_i offer rest _
    have hspec := recvPostOnOffer_spec (p.connections i) (p.nextId i % 1024)
      p.receiverGenerationCounter buffer length offer.params opened answer
    unfold onOffer at h
    simp only [allocateMsgId] at h
    rw [show (p.contexts (p.connections i).conn.parentCtx).nextMsgId = p.nextId i from rfl] at h
    generalize recvPostOnOffer (p.connections i) (p.nextId i % 1024) p.receiverGenerationCounter
      buffer length offer.params opened answer = result at hspec h
    obtain ⟨outcome, m⟩ := result
    cases outcome with
    | refused => simp at h
    | failed handle => simp at h
    | ready handle' cts' =>
      dsimp only at h
      split at h
      · simp at h
      · simp at h
      · obtain ⟨hposted, rfl⟩ := Prod.mk.inj h
        obtain ⟨rfl, rfl⟩ := RecvPostResult.posted.inj hposted
        have hset := hspec.setUp handle' rfl
        obtain ⟨msg, htable, hgen, hstate⟩ := hset.table
        have hcts := (hspec.cts handle' cts rfl).2
        refine ⟨by rw [hset.handle], by rw [hset.handle], by rw [hcts]; rfl,
          initMessage msg buffer length
            ((negotiate (p.connections i).conn.connectionCtx.params offer.params
              length).withTransferId
              p.receiverGenerationCounter), ?_, hstate, hgen⟩
        simp only [ReceiverMemory.message, Function.update_self, hset.handle]
        exact (congrFun htable _).trans (Function.update_self _ _ _)

end ReceiverProcess

/-- The slot of a post carries the generation that the CTS and the handle announce. -/
def GenerationAgrees (m : ReceiverMemory) (handle : SDRRecvHandle) (cts : ControlMessage) : Prop :=
  ∃ msg, m.message handle.msgId = some msg ∧
    msg.generation = cts.params.transferId ∧ msg.generation = handle.generation

/-- After any sequence of calls, a successful post leaves its slot with the announced generation if
and only if the generations drawn before it are, up to `2 ^ 32`, as many as the messages this very
slot has held. Before the counter wraps, that is the first generation the process draws. -/
theorem sdrRecvPost_generation {p : ReceiverProcess} (hinit : p.Initial) (calls : List Call)
    {i buffer length : ℕ} {received : List Received} {opened : Bool} {answer : ℤ}
    {handle : SDRRecvHandle} {cts : ControlMessage} {p' : ReceiverProcess}
    (hpost : (p.run calls).2.sdrRecvPost i buffer length received opened answer
      = (.posted handle (some cts), p')) :
    (GenerationAgrees (p'.connections i) handle cts ↔
      (p.run calls).1.draws % 2 ^ 32 = (p.run calls).1.slotDraws i handle.msgId % 2 ^ 32) ∧
    ((p.run calls).1.draws < 2 ^ 32 →
      (GenerationAgrees (p'.connections i) handle cts ↔ (p.run calls).1.draws = 0)) := by
  have hc := ReceiverProcess.counted_run hinit calls
  obtain ⟨hid, hgen, hcts, msg, hmsg, -, hslot⟩ := ReceiverProcess.sdrRecvPost_posted hpost
  have hagree : GenerationAgrees (p'.connections i) handle cts ↔
      (p.run calls).1.draws % 2 ^ 32 = (p.run calls).1.slotDraws i handle.msgId % 2 ^ 32 := by
    have hmsg' : GenerationAgrees (p'.connections i) handle cts ↔
        msg.generation = cts.params.transferId ∧ msg.generation = handle.generation := by
      simp [GenerationAgrees, hmsg]
    rw [hmsg', hgen, hcts, and_self, hslot, hc.slots, hc.counter, ← BitVec.toNat_inj,
      BitVec.toNat_ofNat, BitVec.toNat_ofNat, hid]
    omega
  refine ⟨hagree, fun hlt => ?_⟩
  rw [hagree]
  have hle := hc.le i handle.msgId
  constructor
  · intro heq
    by_contra hpos
    -- every draw went into this slot, so another id would have been drawn now
    have hnext := hc.last i handle.msgId (Nat.pos_of_ne_zero hpos) (by omega)
    have := hc.lt ((p.run calls).2.connections i).conn.parentCtx
    rw [hnext] at hid
    omega
  · intro h
    rw [h] at hle ⊢
    rw [Nat.le_zero.mp hle]

/-! ### A receiver with one connection -/

/-- A listening connection whose client is there. -/
def sampleReceiver : ReceiverProcess where
  receiverGenerationCounter := 1
  contexts _ := ⟨0⟩
  connections _ :=
    { conn :=
        { connectionCtx := .fresh
          udpReceiver := none
          parentCtx := 0
          tcpServer := some ⟨5⟩
          tcpClient := none
          isReceiver := true }
      buffers _ _ := 0
      sent := []
      lastCtrl := none }

/-- The sender's side of a handshake for 100 bytes. -/
def sampleHandshake : List Received :=
  [.message
      { ControlMessage.zero with
        magic := ControlMessage.magicValue, msgType := .offer, params := desiredParams .zero 100 },
    .message
      { ControlMessage.zero with magic := ControlMessage.magicValue, msgType := .accept }]

/-- The `n`-th of two posts on the sample connection. -/
def samplePost (n : ℕ) : Call := .recvPost 0 n 100 sampleHandshake true sizeofControlMessage

lemma sampleReceiver_initial : sampleReceiver.Initial := ⟨rfl, fun _ => rfl, fun _ _ => rfl⟩

/-- The CTS of the `n`-th of these posts. -/
def sampleCts (n : U32) : ControlMessage :=
  ctsMessage 0 ((negotiate .zero (desiredParams .zero 100) 100).withTransferId n)

/-- The first post of a process agrees. -/
theorem sdrRecvPost_generation_first :
    GenerationAgrees (((sampleReceiver.run []).2.sdrRecvPost 0 0 100 sampleHandshake true
      sizeofControlMessage).2.connections 0) ⟨0, 1, 0, 100⟩ (sampleCts 1) := by
  generalize hresult : (sampleReceiver.run []).2.sdrRecvPost 0 0 100 sampleHandshake true
    sizeofControlMessage = result
  have hposted : result.1 = .posted ⟨0, 1, 0, 100⟩ (some (sampleCts 1)) := by
    rw [← hresult]
    decide +kernel
  exact ((sdrRecvPost_generation sampleReceiver_initial []
    (hresult.trans (Prod.ext hposted rfl))).2 (by decide)).mpr rfl

/-- The second post of a process returns 0 with generation 2 in the CTS and in the handle, and
generation 1 in its slot. -/
theorem sdrRecvPost_second_disagrees :
    let process := (sampleReceiver.run [samplePost 0]).2
    let result := process.sdrRecvPost 0 1 100 sampleHandshake true sizeofControlMessage
    result.1 = .posted ⟨1, 2, 1, 100⟩ (some (sampleCts 2)) ∧
      (sampleCts 2).params.transferId = 2 ∧
      ((result.2.connections 0).message 1).map MessageContext.generation = some 1 ∧
      ¬ GenerationAgrees (result.2.connections 0) ⟨1, 2, 1, 100⟩ (sampleCts 2) := by
  intro process result
  have hslot : ((result.2.connections 0).message 1).map MessageContext.generation = some 1 := by
    decide +kernel
  refine ⟨by decide +kernel, rfl, hslot, ?_⟩
  rintro ⟨msg, hmsg, hgen, -⟩
  change (result.2.connections 0).message 1 = some msg at hmsg
  rw [hmsg, Option.map_some, Option.some.injEq] at hslot
  rw [hslot] at hgen
  exact absurd hgen (by decide)

end SdrUdp
