import SdrUdp.SrReceiver

/-!
# A call of `pump` alone

With nobody changing the chunk bitmap, `SRReceiver::pump` is a function of the memory. Its scans are
those of a bitmap at rest, and its rate limiter only reads and writes `last_ctrl`.
-/

namespace SdrUdp

open SdrUdp.Core

/-- Alone, the program reads `a` and changes nothing. -/
def Reads {M α : Type} (m : M) (p : Prog M α) (a : α) : Prop := p.run m = some (a, m)

section Reads

variable {M α β : Type} {m : M}

lemma Reads.pure (m : M) (a : α) : Reads m (Pure.pure a : Prog M α) a := rfl

lemma Reads.load (m : M) (f : M → α) : Reads m (Prog.load f) (f m) := rfl

lemma Reads.bind {p : Prog M α} {a : α} {f : α → Prog M β} {b : β} (hp : Reads m p a)
    (hf : Reads m (f a) b) : Reads m (p >>= f) b := by
  rw [Reads, Prog.run_bind, hp]
  exact hf

/-- What is read first is known to the rest. -/
lemma Reads.run_bind {p : Prog M α} {a : α} (hp : Reads m p a) (f : α → Prog M β) :
    (p >>= f).run m = (f a).run m := by
  rw [Prog.run_bind, hp]
  rfl

end Reads

/-! ### The scans -/

/-- A round of the loop over the gaps. -/
lemma gapList_succ (complete : ℕ → Bool) (total fuel c gapsFound : ℕ) :
    gapList (m := Id) complete total (fuel + 1) c gapsFound
      = if c < total ∧ gapsFound < 4 then
          if complete c then gapList (m := Id) complete total fuel (c + 1) gapsFound
          else
            let len : ℕ := missingRun (m := Id) complete (min (total - c) (2 ^ 16 - 1)) c
            (c, len) :: gapList (m := Id) complete total fuel (c + len + 1) (gapsFound + 1)
        else [] := rfl

/-- The report that is made of the scans. -/
lemma pumpReport_eq (complete : ℕ → Bool) (completed : ℕ) (connectionId : U32) (total : ℕ) :
    pumpReport (m := Id) complete completed connectionId total
      = let first : ℕ × ℕ := firstGap (m := Id) complete total 0
        let msg := reportMessage connectionId total (contiguousEnd (m := Id) complete total 0)
          (snapshotWords (m := Id) complete (min total 512) 0 fun _ => 0#64)
          (gapList (m := Id) complete total (total + 1) 0 0)
        if first.2 > 0 then
          { msg with
            msgType := .srNack
            params.rtoMs := BitVec.ofNat 32 first.1
            params.rttAlphaMs := BitVec.ofNat 32 first.2 }
        else { msg with msgType := if completed ≥ total then .completeAck else .srAck } := rfl

section Scans

variable {M : Type} {isComplete : ℕ → Prog M Bool} {complete : ℕ → Bool} {m : M}
variable (hlook : ∀ c, Reads m (isComplete c) (complete c))
include hlook

lemma contiguousEnd_reads (chunks next : ℕ) : Reads m (contiguousEnd isComplete chunks next)
    (contiguousEnd (m := Id) complete chunks next) := by
  induction chunks generalizing next with
  | zero => exact Reads.pure m next
  | succ chunks ih =>
    refine (hlook next).bind ?_
    rw [show contiguousEnd (m := Id) complete (chunks + 1) next
      = if complete next then contiguousEnd (m := Id) complete chunks (next + 1) else next from rfl]
    split_ifs
    · exact ih (next + 1)
    · exact Reads.pure m next

lemma snapshotWords_reads (chunks c : ℕ) (words : ℕ → U64) :
    Reads m (snapshotWords isComplete chunks c words)
      (snapshotWords (m := Id) complete chunks c words) := by
  induction chunks generalizing c words with
  | zero => exact Reads.pure m words
  | succ chunks ih =>
    refine (hlook c).bind ?_
    rw [show snapshotWords (m := Id) complete (chunks + 1) c words
      = if complete c then snapshotWords (m := Id) complete chunks (c + 1) (setBit words c)
        else snapshotWords (m := Id) complete chunks (c + 1) words from rfl]
    split_ifs
    · exact ih (c + 1) (setBit words c)
    · exact ih (c + 1) words

lemma missingRun_reads (limit c : ℕ) :
    Reads m (missingRun isComplete limit c) (missingRun (m := Id) complete limit c) := by
  induction limit generalizing c with
  | zero => exact Reads.pure m 0
  | succ limit ih =>
    refine (hlook c).bind ?_
    rw [show missingRun (m := Id) complete (limit + 1) c
      = if complete c then (0 : ℕ) else Nat.succ (missingRun (m := Id) complete limit (c + 1))
      from rfl]
    split_ifs
    · exact Reads.pure m 0
    · exact (ih (c + 1)).bind (Reads.pure m _)

lemma firstGap_reads (chunks c : ℕ) :
    Reads m (firstGap isComplete chunks c) (firstGap (m := Id) complete chunks c) := by
  induction chunks generalizing c with
  | zero => exact Reads.pure m (0, 0)
  | succ chunks ih =>
    refine (hlook c).bind ?_
    rw [show firstGap (m := Id) complete (chunks + 1) c
      = if complete c then firstGap (m := Id) complete chunks (c + 1)
        else (c, missingRun (m := Id) complete (chunks + 1) c) from rfl]
    split_ifs
    · exact ih (c + 1)
    · exact (missingRun_reads hlook (chunks + 1) c).bind (Reads.pure m _)

lemma gapList_reads (total fuel c gapsFound : ℕ) :
    Reads m (gapList isComplete total fuel c gapsFound)
      (gapList (m := Id) complete total fuel c gapsFound) := by
  induction fuel generalizing c gapsFound with
  | zero => exact Reads.pure m []
  | succ fuel ih =>
    rw [gapList_succ, gapList]
    split_ifs with hnext hcomplete
    · refine (hlook c).bind ?_
      rw [if_pos hcomplete]
      exact ih (c + 1) gapsFound
    · refine (hlook c).bind ?_
      rw [if_neg hcomplete]
      exact (missingRun_reads hlook _ c).bind ((ih _ _).bind (Reads.pure m _))
    · exact Reads.pure m []

lemma pumpReport_reads {countCompleted : Prog M ℕ} {completed : ℕ}
    (hcount : Reads m countCompleted completed) (connectionId : U32) (total : ℕ) :
    Reads m (pumpReport isComplete countCompleted connectionId total)
      (pumpReport (m := Id) complete completed connectionId total) := by
  refine (contiguousEnd_reads hlook total 0).bind ?_
  refine (snapshotWords_reads hlook (min total 512) 0 fun _ => 0#64).bind ?_
  refine (firstGap_reads hlook total 0).bind ?_
  refine (gapList_reads hlook total (total + 1) 0 0).bind ?_
  rw [pumpReport_eq]
  generalize firstGap (m := Id) complete total 0 = first
  dsimp only
  by_cases hlen : first.2 > 0
  · rw [if_pos hlen, if_pos hlen]
    exact Reads.pure m _
  · rw [if_neg hlen, if_neg hlen]
    exact hcount.bind (Reads.pure m _)

end Scans

/-! ### A call -/

/-- `ctrl_interval`. -/
def SRConfig.ctrlInterval (cfg : SRConfig) : ℕ :=
  if cfg.nackDelayMs ≠ 0 then cfg.nackDelayMs else max (cfg.baseRttMs / 2) 50

/-- The rate limiter lets a call at `now` through when the last one was at `lastCtrl`. -/
def SRConfig.Lets (cfg : SRConfig) (now lastCtrl : ℕ) : Prop :=
  (cfg.ctrlInterval : ℤ) ≤ elapsedMs now lastCtrl

instance (cfg : SRConfig) (now lastCtrl : ℕ) : Decidable (cfg.Lets now lastCtrl) :=
  inferInstanceAs (Decidable (_ ≤ _))

/-- The report on the message in a slot, while nobody changes it, and what `pump` returns then. -/
def reportAtRest (id : ℕ) (m : ReceiverMemory) : Option (ControlMessage × Bool) :=
  (m.message id).bind fun msg => msg.frontendBitmap.map fun front =>
    let completed : ℕ := FrontendBitmap.getTotalChunksCompleted (m := Id) (m.chunkWords id)
      front.totalChunks
    let total := msg.totalChunks % 2 ^ 32
    let report : ControlMessage := pumpReport (m := Id)
      (FrontendBitmap.isChunkComplete (m := Id) (m.chunkWords id) front.totalChunks) completed
      m.conn.connectionCtx.connectionId total
    (report, if report.msgType = .completeAck then true else decide (completed ≥ total))

/-- `pump`, alone. -/
def pumpAtRest (cfg : SRConfig) (id now : ℕ) (answer : ℤ) (m : ReceiverMemory) :
    Bool × ReceiverMemory :=
  let lastCtrl := m.lastCtrl.getD now
  if cfg.Lets now lastCtrl then
    let m := { m with lastCtrl := some now }
    match reportAtRest id m with
    | none                => (false, m)
    | some (report, done) => (done, m.sendMessage report answer)
  else (false, { m with lastCtrl := some lastCtrl })

/-- The report does not depend on when the last one was sent. -/
@[simp] lemma reportAtRest_lastCtrl (id : ℕ) (m : ReceiverMemory) (lastCtrl : Option ℕ) :
    reportAtRest id { m with lastCtrl } = reportAtRest id m := rfl

lemma exists_of_reportAtRest {id : ℕ} {m : ReceiverMemory} {report : ControlMessage} {done : Bool}
    (h : reportAtRest id m = some (report, done)) : ∃ msg front, m.message id = some msg ∧
      msg.frontendBitmap = some front ∧ report = pumpReport (m := Id)
        (FrontendBitmap.isChunkComplete (m := Id) (m.chunkWords id) front.totalChunks)
        (FrontendBitmap.getTotalChunksCompleted (m := Id) (m.chunkWords id) front.totalChunks)
        m.conn.connectionCtx.connectionId (msg.totalChunks % 2 ^ 32) := by
  obtain ⟨msg, hmsg, hmap⟩ := Option.bind_eq_some_iff.mp h
  obtain ⟨front, hfront, hpair⟩ := Option.map_eq_some_iff.mp hmap
  exact ⟨msg, front, hmsg, hfront, (Prod.mk.inj hpair).1.symm⟩

lemma pumpAtRest_of_reported {cfg : SRConfig} {id now : ℕ} {answer : ℤ} {m : ReceiverMemory}
    {report : ControlMessage} {done : Bool} (hlets : cfg.Lets now (m.lastCtrl.getD now))
    (hreport : reportAtRest id m = some (report, done)) :
    pumpAtRest cfg id now answer m
      = (done, ({ m with lastCtrl := some now } : ReceiverMemory).sendMessage report answer) := by
  simp only [pumpAtRest, if_pos hlets, reportAtRest_lastCtrl, hreport]

lemma pumpAtRest_of_blocked {cfg : SRConfig} {now : ℕ} {m : ReceiverMemory}
    (hblocked : ¬ cfg.Lets now (m.lastCtrl.getD now)) (id : ℕ) (answer : ℤ) :
    pumpAtRest cfg id now answer m
      = (false, { m with lastCtrl := some (m.lastCtrl.getD now) }) := by
  simp only [pumpAtRest, if_neg hblocked]

lemma ReceiverMemory.sendMessage_chunkWords (m : ReceiverMemory) (msg : ControlMessage)
    (answer : ℤ) (id : ℕ) : (m.sendMessage msg answer).chunkWords id = m.chunkWords id := by
  rw [chunkWords, chunkWords, frontendBitmap, frontendBitmap, sendMessage_message]

/-- Counting at rest. -/
lemma getTotalChunksCompleted_reads (id total : ℕ) (m : ReceiverMemory) : Reads m
    (FrontendBitmap.getTotalChunksCompleted (fun w => Prog.load fun m => m.chunkWords id w) total)
    (FrontendBitmap.getTotalChunksCompleted (m := Id) (m.chunkWords id) total) :=
  run_countCompleted id total total 0 m

/-- A call that nobody interferes with. -/
lemma run_pump (cfg : SRConfig) (handle : SDRRecvHandle) (now : ℕ) (answer : ℤ)
    (m : ReceiverMemory) :
    (pump cfg handle now answer).run m = some (pumpAtRest cfg handle.msgId now answer m) := by
  unfold pump pumpAtRest
  rw [(Reads.load m _).run_bind]
  dsimp only
  change (if elapsedMs now (m.lastCtrl.getD now) < cfg.ctrlInterval then _ else _ : Prog _ _).run m
    = _
  by_cases hlets : cfg.Lets now (m.lastCtrl.getD now)
  · rw [if_neg (not_lt.mpr hlets), if_pos hlets, Prog.run_bind, Prog.run_modify, Option.bind_some,
      (Reads.load _ _).run_bind]
    generalize ({ m with lastCtrl := some now } : ReceiverMemory) = m
    cases hmsg : m.message handle.msgId with
    | none => simp [reportAtRest, hmsg]
    | some msg =>
      cases hfront : msg.frontendBitmap with
      | none => simp [reportAtRest, hmsg, hfront]
      | some front =>
        have hreport := pumpReport_reads
          (fun c => run_isChunkComplete handle.msgId front.totalChunks c m)
          (getTotalChunksCompleted_reads handle.msgId front.totalChunks m)
          m.conn.connectionCtx.connectionId (msg.totalChunks % 2 ^ 32)
        simp only [reportAtRest, hmsg, hfront, Option.bind_some, Option.map_some]
        rw [(Reads.load m _).run_bind, hreport.run_bind, Prog.run_bind, Prog.run_modify,
          Option.bind_some]
        split_ifs
        · rfl
        · -- the second count comes after the send, which leaves the bitmap alone
          rw [(getTotalChunksCompleted_reads handle.msgId front.totalChunks _).run_bind,
            ReceiverMemory.sendMessage_chunkWords]
          rfl
  · rw [if_pos (not_le.mp hlets), if_neg hlets]
    rfl

/-! ### A message to report on -/

/-- A report that is let through gets onto an open connection. -/
lemma sent_pumpAtRest {cfg : SRConfig} {id now : ℕ} {m : ReceiverMemory} {report : ControlMessage}
    {done : Bool} {server : TCPControlServer} (hlets : cfg.Lets now (m.lastCtrl.getD now))
    (hreport : reportAtRest id m = some (report, done)) (hserver : m.conn.tcpServer = some server)
    (hopen : 0 ≤ server.clientFd) :
    (pumpAtRest cfg id now sizeofControlMessage m).2.sent = m.sent ++ [report] := by
  have hlen : (report.serialize sizeofControlMessage).length = sizeofControlMessage :=
    report.length_wire
  have hnonneg : ¬ (sizeofControlMessage : ℤ) < 0 := by decide
  rw [pumpAtRest_of_reported hlets hreport]
  simp [ReceiverMemory.sendMessage, TCPControlServer.sendMessage, hserver, hlen, hnonneg,
    hopen.not_gt]

/-- A message of `total` chunks in slot 0, with these words as its chunk bitmap. -/
def postedChunks (total : ℕ) (words : ℕ → U64) : ReceiverMemory :=
  { ReceiverMemory.idle with
    conn.connectionCtx := ReceiverMemory.idle.conn.connectionCtx.setMessage 0
      { MessageContext.fresh with
        generation := 1
        state := .active
        totalChunks := total
        frontendBitmap := some ⟨words, (total + 63) / 64, total, 1, false, true, false⟩ } }

lemma reportAtRest_postedChunks (total : ℕ) (words : ℕ → U64) :
    ∃ report done, reportAtRest 0 (postedChunks total words) = some (report, done) :=
  ⟨_, _, rfl⟩

end SdrUdp
