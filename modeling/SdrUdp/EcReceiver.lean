import SdrUdp.ErasureCode
import SdrUdp.RecvPost

/-!
# The erasure code, the receiving side

`ECReceiver::try_decode` declares a transfer complete when all data chunks are there, asks for what
is missing, or rebuilds it from other chunks.
-/

namespace SdrUdp

open SdrUdp.Core

/-- Receiver-side bookkeeping. -/
structure ECReceiver where
  cfg : ECConfig
  layout : ECLayout
  recvHandle : Option SDRRecvHandle
  decodeAttempts : ℕ
  fallbackActive : Bool

/-- Consecutive numbers from `next` on at the head of a list, and what follows them. -/
def takeRun : ℕ → List ℕ → ℕ × List ℕ
  | _, [] => (0, [])
  | next, c :: rest =>
    if c = next then
      let run := takeRun (next + 1) rest
      (run.1 + 1, run.2)
    else (0, c :: rest)

/-- The first `limit` runs of missing chunks. -/
def collapseGaps : ℕ → List ℕ → List (ℕ × ℕ)
  | 0, _ => []
  | _, [] => []
  | limit + 1, start :: rest =>
    let run := takeRun (start + 1) rest
    (start, run.1 + 1) :: collapseGaps limit run.2

lemma length_collapseGaps_le (limit : ℕ) (l : List ℕ) : (collapseGaps limit l).length ≤ limit := by
  induction limit generalizing l with
  | zero => simp [collapseGaps]
  | succ limit ih =>
    cases l with
    | nil => simp [collapseGaps]
    | cons start rest => exact Nat.succ_le_succ (ih _)

/-- The fields that all messages of the receiver set. -/
def ecMessage (m : ReceiverMemory) (msgType : ControlMsgType) : ControlMessage :=
  { ControlMessage.zero with
    magic := ControlMessage.magicValue
    msgType := msgType
    connectionId := m.conn.connectionCtx.connectionId }

/-- `is_chunk_complete` of the message in slot `id`, while nobody changes its bitmap. -/
def chunkComplete (id : ℕ) (m : ReceiverMemory) (c : ℕ) : Bool :=
  (m.frontendBitmap id).any fun f =>
    FrontendBitmap.isChunkComplete (m := Id) f.chunkBitmap f.totalChunks c

/-- The chunks of a list that are found complete, or the others, one load after the other. -/
def scanChunks {M : Type} (isComplete : ℕ → Prog M Bool) (complete : Bool) :
    List ℕ → Prog M (List ℕ)
  | []     => pure []
  | c :: l => do
    let found ← isComplete c
    let rest ← scanChunks isComplete complete l
    pure (if found = complete then c :: rest else rest)

lemma run_scanChunks {M : Type} {isComplete : ℕ → Prog M Bool} {m : M} {look : ℕ → Bool}
    (hrun : ∀ c, (isComplete c).run m = some (look c, m)) (complete : Bool) (l : List ℕ) :
    (scanChunks isComplete complete l).run m
      = some (l.filter fun c => look c == complete, m) := by
  induction l with
  | nil => rfl
  | cons c l ih =>
    simp only [scanChunks, Prog.run_bind, hrun, Option.bind_some, ih, Prog.run_pure,
      List.filter_cons, beq_iff_eq]

namespace ECReceiver

/-- `post_receive` up to its call of `sdr_recv_post`; it fails when the buffer is too small. -/
def postReceive (cfg : ECConfig) (params : ConnectionParams) (length : ℕ) : Option ECReceiver :=
  let layout := ECLayout.of cfg params length
  if length < layout.totalBytes then none else some ⟨cfg, layout, none, 0, false⟩

/-- The rest of `post_receive`, once `sdr_recv_post` has returned 0. -/
def posted (r : ECReceiver) (handle : SDRRecvHandle) (m : ReceiverMemory) :
    ECReceiver × ReceiverMemory :=
  ({ r with recvHandle := some handle },
    m.mapMessage handle.msgId fun msg => { msg with totalChunks := r.layout.totalChunks })

/-- The data chunks that are not complete. -/
def missingData (r : ECReceiver) (complete : ℕ → Bool) : List ℕ :=
  (List.range r.layout.dataChunks).filter fun c => !complete c

/-- The data and parity chunks that are complete. -/
def availIdxs (r : ECReceiver) (complete : ℕ → Bool) : List ℕ :=
  (List.range r.layout.totalChunks).filter complete

/-- The message is marked COMPLETED and the sender told so. -/
def declareComplete (r : ECReceiver) (id : ℕ) (answer : ℤ) (m : ReceiverMemory) : ReceiverMemory :=
  (m.mapMessage id fun msg =>
    { msg with totalChunks := r.layout.dataChunks, state := .completed }).sendMessage
    (ecMessage m .ecAck) answer

/-- Too many losses: an EC_NACK, or an EC_FALLBACK_SR after the last attempt. -/
def requestMissing (r : ECReceiver) (missing : List ℕ) (answer : ℤ) (m : ReceiverMemory) :
    ECReceiver × ReceiverMemory :=
  let attempts := (r.decodeAttempts + 1) % 2 ^ 32
  if m.conn.tcpServer.isNone then ({ r with decodeAttempts := attempts }, m)
  else
    let fallback := decide (attempts ≥ r.cfg.maxRetries)
    let gaps := collapseGaps 16 missing
    let msg :=
      { ecMessage m (if fallback then .ecFallbackSr else .ecNack) with
        numGaps := BitVec.ofNat 16 gaps.length
        gapStart := Vector.ofFn fun i => BitVec.ofNat 16 ((gaps.map Prod.fst).getD i 0)
        gapLen := Vector.ofFn fun i => BitVec.ofNat 16 ((gaps.map Prod.snd).getD i 0) }
    ({ r with decodeAttempts := attempts, fallbackActive := fallback }, m.sendMessage msg answer)

/-- `decode_matrix`: the rows of the first `k` available chunks, by their chunk number. -/
def decodeMatrix (r : ECReceiver) (isal : Isal) (avail : List ℕ) : ByteMatrix :=
  fun i => isal.gfGenRsMatrix (r.layout.k + r.layout.m) r.layout.k (avail.getD i 0)

/-- Rows are read inside `encode_matrix`, and the inverse fits into `gftbl`. -/
def matricesFit (r : ECReceiver) (avail : List ℕ) : Bool :=
  (avail.take r.layout.k).all (fun idx => decide (idx < r.layout.k + r.layout.m)) &&
    decide (r.layout.k ≤ 32 * r.layout.m)

/-- Rebuild missing chunk number `mi`: row `mi` of what the inversion left in `decode_matrix` is
applied to the first `k` available chunks. -/
def recoverChunk (r : ECReceiver) (isal : Isal) (avail : List ℕ) (storage : ℕ → U8)
    (missing : ℕ × ℕ) : ℕ → U8 :=
  let l := r.layout
  let row := isal.leftover (r.decodeMatrix isal avail) l.k missing.2
  let coding := isal.ecEncodeData l.chunkBytes l.k 1 (isal.ecInitTables l.k 1 fun _ => row)
    fun i byte => storage (ecOffset (avail.getD i 0) l.chunkBytes + byte)
  copyBytes storage (ecOffset missing.1 l.chunkBytes) l.chunkBytes (coding 0)

/-- Rebuild the missing chunks from the available ones; `none` is an access outside a matrix or
through a pointer that is not the application's buffer. -/
def recover (r : ECReceiver) (isal : Isal) (ptr : Option BufferPtr) (avail missing : List ℕ)
    (m : ReceiverMemory) : Option (Bool × ReceiverMemory) :=
  if r.matricesFit avail = false then none
  else if (isal.gfInvertMatrix (r.decodeMatrix isal avail) r.layout.k).isNone then some (false, m)
  else match ptr with
    | some (.user b) =>
      if missing.length > r.layout.k then none
      else some (true,
        { m with
          buffers := Function.update m.buffers b
            (missing.zipIdx.foldl (r.recoverChunk isal avail) (m.buffers b)) })
    | _ => none

/-- `try_decode`, with nobody changing the chunk bitmap during the call; `answer` is what `send`
returns. -/
def tryDecode (r : ECReceiver) (isal : Isal) (answer : ℤ) (m : ReceiverMemory) :
    Option (Bool × ECReceiver × ReceiverMemory) :=
  match r.recvHandle with
  | none        => some (false, r, m)
  | some handle =>
    let id := handle.msgId
    if (m.frontendBitmap id).isNone then some (false, r, m)
    else
      let missing := r.missingData (chunkComplete id m)
      if missing = [] then
        some (true, { r with fallbackActive := false }, r.declareComplete id answer m)
      else if r.fallbackActive then some (false, r, m)
      else if missing.length > r.layout.m then
        let result := r.requestMissing missing answer m
        some (false, result.1, result.2)
      else
        let avail := r.availIdxs (chunkComplete id m)
        if avail.length < r.layout.k then some (false, r, m)
        else (r.recover isal ((m.message id).bind MessageContext.buffer) avail missing m).map
          fun result =>
            (result.1, r, if result.1 then r.declareComplete id answer result.2 else result.2)

/-! ### A call among other threads -/

/-- What `try_decode` reads before it acts: the missing data chunks and, when it goes on to rebuild
them, the complete chunks. Before the receive is posted it reads nothing. -/
def look (r : ECReceiver) : Prog ReceiverMemory (Option (List ℕ × List ℕ)) :=
  match r.recvHandle with
  | none        => pure none
  | some handle => do
    let front ← Prog.load (ReceiverMemory.frontendBitmap handle.msgId)
    match front with
    | none       => pure none
    | some front => do
      let isComplete := FrontendBitmap.isChunkComplete
        (fun w => Prog.load fun m => m.chunkWords handle.msgId w) front.totalChunks
      let missing ← scanChunks isComplete false (List.range r.layout.dataChunks)
      if missing = [] ∨ r.fallbackActive ∨ missing.length > r.layout.m then
        pure (some (missing, []))
      else do
        let avail ← scanChunks isComplete true (List.range r.layout.totalChunks)
        pure (some (missing, avail))

/-- What `try_decode` does about what it has read. -/
def conclude (r : ECReceiver) (isal : Isal) (answer : ℤ) (seen : Option (List ℕ × List ℕ))
    (m : ReceiverMemory) : Option (Bool × ECReceiver × ReceiverMemory) :=
  match r.recvHandle, seen with
  | some handle, some (missing, avail) =>
    let id := handle.msgId
    if missing = [] then
      some (true, { r with fallbackActive := false }, r.declareComplete id answer m)
    else if r.fallbackActive then some (false, r, m)
    else if missing.length > r.layout.m then
      let result := r.requestMissing missing answer m
      some (false, result.1, result.2)
    else if avail.length < r.layout.k then some (false, r, m)
    else (r.recover isal ((m.message id).bind MessageContext.buffer) avail missing m).map
      fun result =>
        (result.1, r, if result.1 then r.declareComplete id answer result.2 else result.2)
  | _, _ => some (false, r, m)

/-- While nobody changes the bitmap, reading and acting are one call. -/
lemma run_look (r : ECReceiver) (isal : Isal) (answer : ℤ) (m : ReceiverMemory) :
    ∃ seen, r.look.run m = some (seen, m) ∧
      r.conclude isal answer seen m = r.tryDecode isal answer m := by
  unfold look conclude tryDecode
  cases r.recvHandle with
  | none => exact ⟨none, rfl, rfl⟩
  | some handle =>
    cases hfront : m.frontendBitmap handle.msgId with
    | none =>
      refine ⟨none, ?_, ?_⟩
      · simp [hfront]
      · simp [hfront]
    | some front =>
      have hcomplete : ∀ c, FrontendBitmap.isChunkComplete (m := Id) (m.chunkWords handle.msgId)
          front.totalChunks c = chunkComplete handle.msgId m c := by
        simp [chunkComplete, ReceiverMemory.chunkWords, hfront]
      have hrun : ∀ c, (FrontendBitmap.isChunkComplete
          (fun w => Prog.load fun m => m.chunkWords handle.msgId w) front.totalChunks c).run m
            = some (chunkComplete handle.msgId m c, m) := fun c => by
        rw [run_isChunkComplete, hcomplete]
      have hmissing := run_scanChunks hrun false (List.range r.layout.dataChunks)
      have havail := run_scanChunks hrun true (List.range r.layout.totalChunks)
      simp only [beq_false, beq_true] at hmissing havail
      rw [← missingData] at hmissing
      rw [← availIdxs] at havail
      simp only [Prog.run_bind, Prog.run_load, Option.bind_some, hfront, hmissing,
        Option.isNone_some, Bool.false_eq_true, if_false]
      generalize r.missingData (chunkComplete handle.msgId m) = missing
      by_cases hnone : missing = []
      · exact ⟨some (missing, []), by simp [hnone], by simp [hnone]⟩
      by_cases hfallback : r.fallbackActive = true
      · exact ⟨some (missing, []), by simp [hfallback], by simp [hnone, hfallback]⟩
      by_cases hmany : missing.length > r.layout.m
      · exact ⟨some (missing, []), by simp [hmany], by simp [hnone, hfallback, hmany]⟩
      refine ⟨some (missing, r.availIdxs (chunkComplete handle.msgId m)), ?_, ?_⟩
      · simp [hnone, hfallback, hmany, havail]
      · simp [hnone, hfallback, hmany]

end ECReceiver

end SdrUdp
