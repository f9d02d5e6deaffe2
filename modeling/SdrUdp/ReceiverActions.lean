import SdrUdp.Receiver

/-!
# The actions of the receiver's threads

Workers, the poller and `sdr_recv_complete` change the shared memory by a handful of atomic actions.
What all of these keep, every such thread keeps.
-/

namespace SdrUdp

open SdrUdp.Core

/-- The memory actions of all receiver threads but `pump`. -/
inductive ReceiverAction : (ReceiverMemory → ReceiverMemory) → Prop
  | skip : ReceiverAction id
  | write (ptr : BufferPtr) (offset : ℕ) (data : List U8) :
      ReceiverAction (ReceiverMemory.writeBuffer ptr offset data)
  | setReceived (id offset : ℕ) : ReceiverAction (ReceiverMemory.setReceived id offset)
  | setChunk (id c : ℕ) : ReceiverAction (ReceiverMemory.mapFrontend id fun f => f.setChunk c)
  | stop (id : ℕ) :
      ReceiverAction (ReceiverMemory.mapFrontend id fun f => { f with shouldStop := true })
  | leave (id : ℕ) :
      ReceiverAction (ReceiverMemory.mapFrontend id fun f => { f with polling := false })
  | retire (id : ℕ) : ReceiverAction (ReceiverMemory.completeMessage id)
  | verdict (isComplete : Bool) (answer : ℤ) : ReceiverAction fun m =>
      m.sendMessage (completionMessage m.conn.connectionCtx.connectionId isComplete) answer

/-- What a worker does with packet `o` of the message in a slot. -/
inductive WorkerAction (slot o : ℕ) : (ReceiverMemory → ReceiverMemory) → Prop
  | skip : WorkerAction slot o id
  | write (ptr : BufferPtr) (offset : ℕ) (data : List U8) :
      WorkerAction slot o (ReceiverMemory.writeBuffer ptr offset data)
  | setReceived : WorkerAction slot o (ReceiverMemory.setReceived slot o)

/-- What the poller of the message in a slot does. -/
inductive PollerAction (slot : ℕ) : (ReceiverMemory → ReceiverMemory) → Prop
  | skip : PollerAction slot id
  | setChunk (c : ℕ) : PollerAction slot (ReceiverMemory.mapFrontend slot fun f => f.setChunk c)
  | leave : PollerAction slot (ReceiverMemory.mapFrontend slot fun f => { f with polling := false })

/-- What `sdr_recv_complete` does on the message in a slot. -/
inductive CompletionAction (slot : ℕ) : (ReceiverMemory → ReceiverMemory) → Prop
  | skip : CompletionAction slot id
  | stop : CompletionAction slot
      (ReceiverMemory.mapFrontend slot fun f => { f with shouldStop := true })
  | retire : CompletionAction slot (ReceiverMemory.completeMessage slot)
  | verdict (isComplete : Bool) (answer : ℤ) : CompletionAction slot fun m =>
      m.sendMessage (completionMessage m.conn.connectionCtx.connectionId isComplete) answer

lemma WorkerAction.receiverAction {slot o : ℕ} (act : ReceiverMemory → ReceiverMemory)
    (h : WorkerAction slot o act) : ReceiverAction act := by
  cases h with
  | skip => exact .skip
  | write ptr offset data => exact .write ptr offset data
  | setReceived => exact .setReceived slot o

lemma PollerAction.receiverAction {slot : ℕ} (act : ReceiverMemory → ReceiverMemory)
    (h : PollerAction slot act) : ReceiverAction act := by
  cases h with
  | skip => exact .skip
  | setChunk c => exact .setChunk slot c
  | leave => exact .leave slot

lemma CompletionAction.receiverAction {slot : ℕ} (act : ReceiverMemory → ReceiverMemory)
    (h : CompletionAction slot act) : ReceiverAction act := by
  cases h with
  | skip => exact .skip
  | stop => exact .stop slot
  | retire => exact .retire slot
  | verdict isComplete answer => exact .verdict isComplete answer

section Checks

variable {M : Type} {A : (M → M) → Prop} (hid : A id) (words : M → ℕ → U64)
include hid

lemma BackendBitmap.checkMiddleWords_straight (n word : ℕ) :
    Prog.Straight A (checkMiddleWords (fun w => Prog.load fun m => words m w) n word) := by
  induction n generalizing word with
  | zero => exact Prog.Straight.pure _
  | succ n ih =>
    refine Prog.Straight.bind (Prog.Straight.load hid _) fun value => ?_
    split_ifs
    · exact Prog.Straight.pure _
    · exact ih _

lemma BackendBitmap.isChunkComplete_straight (total ppc chunk : ℕ) :
    Prog.Straight A (isChunkComplete (fun w => Prog.load fun m => words m w) total ppc chunk) := by
  unfold isChunkComplete checkChunkRange
  dsimp only
  generalize chunk * ppc % 2 ^ 32 = start
  generalize (if (start + ppc) % 2 ^ 32 > total then total else (start + ppc) % 2 ^ 32) = stop
  split_ifs
  · exact Prog.Straight.bind (Prog.Straight.load hid _) fun _ => Prog.Straight.pure _
  · refine Prog.Straight.bind (Prog.Straight.load hid _) fun first => ?_
    split_ifs
    · exact Prog.Straight.pure _
    · refine Prog.Straight.bind (checkMiddleWords_straight hid words _ _) fun middle => ?_
      split_ifs
      · exact Prog.Straight.pure _
      · exact Prog.Straight.bind (Prog.Straight.load hid _) fun _ => Prog.Straight.pure _

lemma FrontendBitmap.isChunkComplete_straight (total chunk : ℕ) :
    Prog.Straight A (isChunkComplete (fun w => Prog.load fun m => words m w) total chunk) := by
  unfold isChunkComplete
  split_ifs
  · exact Prog.Straight.pure _
  · exact Prog.Straight.bind (Prog.Straight.load hid _) fun _ => Prog.Straight.pure _

lemma FrontendBitmap.getTotalChunksCompleted_straight (total : ℕ) :
    Prog.Straight A (getTotalChunksCompleted (fun w => Prog.load fun m => words m w) total) := by
  unfold getTotalChunksCompleted
  generalize 0 = chunk
  suffices ∀ chunks chunk, Prog.Straight A
      (countCompleted (fun w => Prog.load fun m => words m w) total chunks chunk) from this _ _
  intro chunks
  induction chunks with
  | zero => exact fun _ => Prog.Straight.pure _
  | succ chunks ih =>
    exact fun chunk => Prog.Straight.bind (isChunkComplete_straight hid words _ _) fun _ =>
      Prog.Straight.bind (ih _) fun _ => Prog.Straight.pure _

end Checks

section ReceiverActions

lemma writePacketToBuffer_straight (slot o id packetOffset : ℕ) (payload : List U8) :
    Prog.Straight (WorkerAction slot o) (writePacketToBuffer id packetOffset payload) := by
  refine Prog.Straight.bind (Prog.Straight.load .skip _) fun slot => ?_
  split
  · exact Prog.Straight.pure _
  · split
    · exact Prog.Straight.pure _
    · dsimp only
      generalize packetOffset * _ = offset
      split_ifs
      · exact Prog.Straight.pure _
      · exact Prog.Straight.modify (.write _ _ _)

lemma processPacket_straight (header : SDRPacketHeader) (payload : List U8) :
    Prog.Straight (WorkerAction header.msgId.toNat header.packetOffset.toNat)
      (processPacket header payload) := by
  refine Prog.Straight.bind (Prog.Straight.load .skip _) fun slot => ?_
  split
  · exact Prog.Straight.pure _
  · split_ifs
    · exact Prog.Straight.pure _
    · refine Prog.Straight.bind (Prog.Straight.load .skip _) fun state => ?_
      split_ifs
      · exact Prog.Straight.pure _
      · refine Prog.Straight.bind (Prog.Straight.load .skip _) fun duplicate => ?_
        split_ifs
        · exact Prog.Straight.pure _
        · exact Prog.Straight.bind (writePacketToBuffer_straight _ _ _ _ _) fun _ =>
            Prog.Straight.modify .setReceived

lemma receiveDatagram_uses (bytes : List U8) :
    Prog.Uses ReceiverAction (receiveDatagram bytes) := by
  unfold receiveDatagram
  split
  · exact Prog.Uses.pure _
  · exact ((processPacket_straight _ _).mono WorkerAction.receiverAction).uses

/-- A pass of the poller reads and sets chunk bits. -/
lemma updateChunkBitmap_straight {A : (ReceiverMemory → ReceiverMemory) → Prop} (hid : A id)
    {slot : ℕ} (hset : ∀ c, A (ReceiverMemory.mapFrontend slot fun f => f.setChunk c))
    (totalPackets packetsPerChunk totalChunks chunks chunk : ℕ) :
    Prog.Straight A
      (updateChunkBitmap slot totalPackets packetsPerChunk totalChunks chunks chunk) := by
  induction chunks generalizing chunk with
  | zero => exact Prog.Straight.pure _
  | succ chunks ih =>
    refine Prog.Straight.bind ?_ fun _ => ih _
    refine Prog.Straight.bind (FrontendBitmap.isChunkComplete_straight hid _ _ _) fun marked => ?_
    split_ifs
    · exact Prog.Straight.pure _
    · refine Prog.Straight.bind (BackendBitmap.isChunkComplete_straight hid _ _ _ _)
        fun complete => ?_
      split_ifs
      · exact Prog.Straight.pure _
      · exact ⟨hset _, fun _ => trivial⟩

lemma pollingRound_straight (id : ℕ) : Prog.Straight (PollerAction id) (pollingRound id) := by
  refine Prog.Straight.bind (Prog.Straight.load .skip _) fun slot => ?_
  split
  · exact Prog.Straight.pure _
  · split
    · split_ifs
      · exact Prog.Straight.pure _
      · exact Prog.Straight.modify .leave
      · exact updateChunkBitmap_straight .skip .setChunk _ _ _ _ _
    · exact Prog.Straight.pure _

lemma pollingRound_uses (id : ℕ) : Prog.Uses ReceiverAction (pollingRound id) :=
  ((pollingRound_straight id).mono PollerAction.receiverAction).uses

/-- Deciding whether the transfer is complete is reading. -/
lemma transferComplete_straight {A : (ReceiverMemory → ReceiverMemory) → Prop} (hid : A id)
    (slot : ℕ) : Prog.Straight A (transferComplete slot) := by
  refine Prog.Straight.bind (Prog.Straight.load hid _) fun msg => ?_
  split
  · exact Prog.Straight.pure _
  · split_ifs
    · exact Prog.Straight.pure _
    · split
      · exact Prog.Straight.pure _
      · exact Prog.Straight.bind (FrontendBitmap.getTotalChunksCompleted_straight hid _ _) fun _ =>
          Prog.Straight.bind (Prog.Straight.load hid _) fun _ => Prog.Straight.pure _

open CompletionAction in
lemma sdrRecvComplete_uses (handle : SDRRecvHandle) (answer : ℤ) :
    Prog.Uses (CompletionAction handle.msgId) (sdrRecvComplete handle answer) := by
  refine Prog.Uses.bind ?_ fun _ => Prog.Uses.bind (transferComplete_straight skip _).uses fun _ =>
    Prog.Uses.bind (Prog.Uses.modify retire) fun _ => Prog.Uses.modify (verdict _ _)
  refine Prog.Uses.bind (Prog.Uses.load skip _) fun polling => ?_
  split_ifs
  · exact Prog.Uses.pure _
  · exact Prog.Uses.bind (Prog.Uses.modify stop) fun _ => Prog.Uses.waitUntil _

end ReceiverActions

end SdrUdp
