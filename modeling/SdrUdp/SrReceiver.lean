import SdrUdp.ReceiverActions

/-!
# Selective repeat, the receiving side

`SRReceiver::pump` scans the chunk bitmap several times, one atomic load after the other, and
reports what it saw in an SR_ACK, an SR_NACK or a COMPLETE_ACK.
-/

namespace SdrUdp

open SdrUdp.Core

/-- Configuration of selective repeat. -/
structure SRConfig where
  rtoMs : ℕ
  nackDelayMs : ℕ
  maxInflightChunks : U16
  baseRttMs : ℕ
  alphaMs : ℕ

/-- The default member initializers. -/
def SRConfig.default : SRConfig := ⟨0, 0, 0, 100, 100⟩

/-- Milliseconds between two readings of a clock in nanoseconds. -/
def elapsedMs (now last : ℕ) : ℤ := ((now : ℤ) - last).tdiv 1000000

def uint32Max : U32 := BitVec.allOnes 32

/-! ### The scans of `pump` -/

/-- The fields that all reports share; `max_inflight` carries the last chunk of the contiguous run,
or `UINT32_MAX` when the first chunk is missing. -/
def reportMessage (connectionId : U32) (total cumulative : ℕ) (words : ℕ → U64)
    (gaps : List (ℕ × ℕ)) : ControlMessage :=
  let wordCount := min ((total + 63) % 2 ^ 32 / 64) 8
  { ControlMessage.zero with
    magic := ControlMessage.magicValue
    connectionId := connectionId
    params := { ConnectionParams.zero with
      totalChunks := BitVec.ofNat 16 total
      maxInflight := if cumulative = 0 then uint32Max else BitVec.ofNat 32 (cumulative - 1) }
    chunkBitmapWords := BitVec.ofNat 16 wordCount
    chunkBitmap := Vector.ofFn fun w => if w < wordCount then words w else 0#64
    numGaps := BitVec.ofNat 16 gaps.length
    gapStart := Vector.ofFn fun i => BitVec.ofNat 16 ((gaps.map Prod.fst).getD i 0)
    gapLen := Vector.ofFn fun i => BitVec.ofNat 16 ((gaps.map Prod.snd).getD i 0) }

section Scans

variable {m : Type → Type} [Monad m] (isComplete : ℕ → m Bool)

/-- The first chunk from `next` on that is not complete. -/
def contiguousEnd : ℕ → ℕ → m ℕ
  | 0, next => pure next
  | chunks + 1, next => do
    if ← isComplete next then contiguousEnd chunks (next + 1)
    else pure next

/-- The chunks from `c` on, as a bitmap. -/
def snapshotWords : ℕ → ℕ → (ℕ → U64) → m (ℕ → U64)
  | 0, _, words => pure words
  | chunks + 1, c, words => do
    if ← isComplete c then snapshotWords chunks (c + 1) (setBit words c)
    else snapshotWords chunks (c + 1) words

/-- The length of a run of missing chunks, at most `limit`. -/
def missingRun : ℕ → ℕ → m ℕ
  | 0, _ => pure 0
  | limit + 1, c => do
    if ← isComplete c then pure 0
    else
      let run ← missingRun limit (c + 1)
      pure (run + 1)

/-- The first missing chunk and its run. The run is counted by looking at that chunk again, so it
may be empty. -/
def firstGap : ℕ → ℕ → m (ℕ × ℕ)
  | 0, _ => pure (0, 0)
  | chunks + 1, c => do
    if ← isComplete c then firstGap chunks (c + 1)
    else
      let run ← missingRun isComplete (chunks + 1) c
      pure (c, run)

/-- The first gaps; `fuel` bounds the rounds of the loop, each of which moves `c` on. -/
def gapList (total : ℕ) : ℕ → ℕ → ℕ → m (List (ℕ × ℕ))
  | 0, _, _ => pure []
  | fuel + 1, c, gapsFound =>
    if c < total ∧ gapsFound < 4 then do
      if ← isComplete c then gapList total fuel (c + 1) gapsFound
      else
        let len ← missingRun isComplete (min (total - c) (2 ^ 16 - 1)) c
        let gaps ← gapList total fuel (c + len + 1) (gapsFound + 1)
        pure ((c, len) :: gaps)
    else pure []

/-- The report of `pump`; `countCompleted` is `get_total_chunks_completed`. -/
def pumpReport (countCompleted : m ℕ) (connectionId : U32) (total : ℕ) : m ControlMessage := do
  let cumulative ← contiguousEnd isComplete total 0
  let words ← snapshotWords isComplete (min total 512) 0 (fun _ => 0#64)
  let (missingStart, missingLen) ← firstGap isComplete total 0
  let gaps ← gapList isComplete total (total + 1) 0 0
  let msg := reportMessage connectionId total cumulative words gaps
  if missingLen > 0 then
    pure { msg with
      msgType := .srNack
      params.rtoMs := BitVec.ofNat 32 missingStart
      params.rttAlphaMs := BitVec.ofNat 32 missingLen }
  else
    let completed ← countCompleted
    pure { msg with msgType := if completed ≥ total then .completeAck else .srAck }

end Scans

/-- `pump` at clock reading `now`; `answer` is what `send` returns. -/
def pump (cfg : SRConfig) (handle : SDRRecvHandle) (now : ℕ) (answer : ℤ) :
    Prog ReceiverMemory Bool := do
  let lastCtrl ← Prog.load fun m => m.lastCtrl.getD now
  let ctrlInterval := if cfg.nackDelayMs ≠ 0 then cfg.nackDelayMs else max (cfg.baseRttMs / 2) 50
  if elapsedMs now lastCtrl < ctrlInterval then
    Prog.modify fun m => { m with lastCtrl := some lastCtrl }
    pure false
  else
    Prog.modify fun m => { m with lastCtrl := some now }
    match ← Prog.load (ReceiverMemory.message handle.msgId) with
    | none     => pure false
    | some msg =>
      match msg.frontendBitmap with
      | none       => pure false
      | some front =>
        let load := fun w => Prog.load fun m => ReceiverMemory.chunkWords handle.msgId m w
        let count := FrontendBitmap.getTotalChunksCompleted load front.totalChunks
        let total := msg.totalChunks % 2 ^ 32
        let connectionId ← Prog.load fun m => m.conn.connectionCtx.connectionId
        let report ← pumpReport (FrontendBitmap.isChunkComplete load front.totalChunks) count
          connectionId total
        Prog.modify fun m => m.sendMessage report answer
        if report.msgType = .completeAck then pure true
        else
          let completed ← count
          pure (decide (completed ≥ total))

/-! ### What a report says -/

/-- The chunk `c` is acknowledged by the cumulative index of an SR_ACK or SR_NACK. -/
def CumulativeAck (msg : ControlMessage) (c : ℕ) : Prop :=
  (msg.msgType = .srAck ∨ msg.msgType = .srNack) ∧
    msg.params.maxInflight ≠ uint32Max ∧ c ≤ msg.params.maxInflight.toNat

/-- The chunk `c` is acknowledged by the bitmap of the message. -/
def BitmapAck (msg : ControlMessage) (c : ℕ) : Prop :=
  c / 64 < msg.chunkBitmapWords.toNat ∧
    ∃ h : c / 64 < 16, (msg.chunkBitmap[c / 64]).getLsbD (c % 64) = true

/-- All chunks the message acknowledges satisfy `Done`. -/
structure Truthful (Done : ℕ → Prop) (msg : ControlMessage) : Prop where
  cumulative : ∀ c, CumulativeAck msg c → Done c
  bitmap : ∀ c, BitmapAck msg c → Done c

lemma Truthful.mono {Done Done' : ℕ → Prop} (h : ∀ c, Done c → Done' c) {msg : ControlMessage}
    (ht : Truthful Done msg) : Truthful Done' msg :=
  ⟨fun c hc => h c (ht.cumulative c hc), fun c hc => h c (ht.bitmap c hc)⟩

lemma truthful_reportMessage {Done : ℕ → Prop} (connectionId : U32) {total cumulative : ℕ}
    {words : ℕ → U64} (gaps : List (ℕ × ℕ)) {msg : ControlMessage} (hlt : cumulative ≤ 2 ^ 32)
    (hcum : ∀ c < cumulative, Done c) (hwords : ∀ i ∈ bits words, Done i)
    (hmax : msg.params.maxInflight
      = (reportMessage connectionId total cumulative words gaps).params.maxInflight)
    (hbitmap : msg.chunkBitmap
      = (reportMessage connectionId total cumulative words gaps).chunkBitmap) :
    Truthful Done msg where
  cumulative c := by
    rintro ⟨-, hne, hc⟩
    rw [hmax] at hne hc
    simp only [reportMessage] at hne hc
    split_ifs at hne hc with hzero
    · exact absurd rfl hne
    · rw [BitVec.toNat_ofNat, Nat.mod_eq_of_lt (by omega)] at hc
      exact hcum c (by omega)
  bitmap c := by
    rintro ⟨-, h, hbit⟩
    simp only [hbitmap, reportMessage, Vector.getElem_ofFn] at hbit
    split_ifs at hbit
    · exact hwords c hbit
    · simp at hbit

/-- A report on a message of `total` chunks, of which those that satisfy `Done` are complete. -/
structure Report (Done : ℕ → Prop) (total : ℕ) (msg : ControlMessage) : Prop where
  truthful : Truthful Done msg
  complete : msg.msgType = .completeAck → ∀ c < total, Done c
  msgType : msg.msgType = .srAck ∨ msg.msgType = .srNack ∨ msg.msgType = .completeAck
  totalChunks : msg.params.totalChunks = BitVec.ofNat 16 total

lemma Report.mono {Done Done' : ℕ → Prop} (h : ∀ c, Done c → Done' c) {total : ℕ}
    {msg : ControlMessage} (hr : Report Done total msg) : Report Done' total msg :=
  ⟨hr.truthful.mono h, fun htype c hc => h c (hr.complete htype c hc), hr.msgType, hr.totalChunks⟩

section Growing

variable {M : Type} {I : M → Prop} {R G : M → M → Prop} [Std.Refl R]
variable {isComplete : ℕ → Prog M Bool} {Done : ℕ → M → Prop}

/-- Every scan meets its guarantee when one look at a chunk does. -/
lemma missingRun_meets
    (hlook : ∀ c m, I m → Prog.Meets I R G (fun r m => r = true → Done c m) (isComplete c) m)
    (limit c : ℕ) {m : M} (hI : I m) :
    Prog.Meets I R G (fun _ _ => True) (missingRun isComplete limit c) m := by
  induction limit generalizing c m with
  | zero => exact Prog.Meets.pure fun _ _ _ => trivial
  | succ limit ih =>
    refine Prog.Meets.bind hI (hlook c m hI) fun r m₁ hI₁ _ => ?_
    split_ifs
    · exact Prog.Meets.pure fun _ _ _ => trivial
    · exact Prog.Meets.bind hI₁ (ih (c + 1) hI₁) fun _ _ _ _ => Prog.Meets.pure fun _ _ _ => trivial

lemma firstGap_meets
    (hlook : ∀ c m, I m → Prog.Meets I R G (fun r m => r = true → Done c m) (isComplete c) m)
    (chunks c : ℕ) {m : M} (hI : I m) :
    Prog.Meets I R G (fun _ _ => True) (firstGap isComplete chunks c) m := by
  induction chunks generalizing c m with
  | zero => exact Prog.Meets.pure fun _ _ _ => trivial
  | succ chunks ih =>
    refine Prog.Meets.bind hI (hlook c m hI) fun r m₁ hI₁ _ => ?_
    split_ifs
    · exact ih (c + 1) hI₁
    · exact Prog.Meets.bind hI₁ (missingRun_meets hlook _ c hI₁) fun _ _ _ _ =>
        Prog.Meets.pure fun _ _ _ => trivial

lemma gapList_meets
    (hlook : ∀ c m, I m → Prog.Meets I R G (fun r m => r = true → Done c m) (isComplete c) m)
    (total fuel c gapsFound : ℕ) {m : M} (hI : I m) :
    Prog.Meets I R G (fun _ _ => True) (gapList isComplete total fuel c gapsFound) m := by
  induction fuel generalizing c gapsFound m with
  | zero => exact Prog.Meets.pure fun _ _ _ => trivial
  | succ fuel ih =>
    unfold gapList
    split_ifs
    · refine Prog.Meets.bind hI (hlook c m hI) fun r m₁ hI₁ _ => ?_
      split_ifs
      · exact ih (c + 1) gapsFound hI₁
      · refine Prog.Meets.bind hI₁ (missingRun_meets hlook _ c hI₁) fun len m₂ hI₂ _ => ?_
        exact Prog.Meets.bind hI₂ (ih _ _ hI₂) fun _ _ _ _ => Prog.Meets.pure fun _ _ _ => trivial
    · exact Prog.Meets.pure fun _ _ _ => trivial

variable (hR : ∀ c m m', R m m' → Done c m → Done c m')
variable (hG : ∀ c m m', G m m' → Done c m → Done c m')
variable
  (hlook : ∀ c m, I m → Prog.Meets I R G (fun r m => r = true → Done c m) (isComplete c) m)

include hR hG hlook in
/-- Below the end of the contiguous run every chunk was seen complete. -/
lemma contiguousEnd_meets (chunks next : ℕ) {m : M} (hI : I m) (hbelow : ∀ c < next, Done c m) :
    Prog.Meets I R G (fun n m => n ≤ next + chunks ∧ ∀ c < n, Done c m)
      (contiguousEnd isComplete chunks next) m := by
  induction chunks generalizing next m with
  | zero =>
    exact Prog.Meets.pure fun m' h _ => ⟨le_rfl, fun c hc => hR c _ _ h (hbelow c hc)⟩
  | succ chunks ih =>
    have hlook' := Prog.Meets.frame (P := fun m => ∀ c < next, Done c m)
      (fun m m' h hP c hc => hR c m m' h (hP c hc)) (fun m m' h hP c hc => hG c m m' h (hP c hc))
      hbelow (hlook next m hI)
    refine Prog.Meets.bind hI hlook' ?_
    rintro r m₁ hI₁ ⟨hr, hbelow₁⟩
    split_ifs with hseen
    · refine (ih (next + 1) hI₁ fun c hc => ?_).mono fun n m' _ h => ⟨by omega, h.2⟩
      by_cases h : c = next
      · exact h ▸ hr hseen
      · exact hbelow₁ c (by omega)
    · exact Prog.Meets.pure fun m' h _ => ⟨by omega, fun c hc => hR c _ _ h (hbelow₁ c hc)⟩

include hR hG hlook in
/-- Every bit of the snapshot was seen set. -/
lemma snapshotWords_meets (chunks c : ℕ) (words : ℕ → U64) {m : M} (hI : I m)
    (hwords : ∀ i ∈ bits words, Done i m) :
    Prog.Meets I R G (fun words m => ∀ i ∈ bits words, Done i m)
      (snapshotWords isComplete chunks c words) m := by
  induction chunks generalizing c words m with
  | zero => exact Prog.Meets.pure fun m' h _ i hi => hR i _ _ h (hwords i hi)
  | succ chunks ih =>
    have hlook' := Prog.Meets.frame (P := fun m => ∀ i ∈ bits words, Done i m)
      (fun m m' h hP i hi => hR i m m' h (hP i hi)) (fun m m' h hP i hi => hG i m m' h (hP i hi))
      hwords (hlook c m hI)
    refine Prog.Meets.bind hI hlook' ?_
    rintro r m₁ hI₁ ⟨hr, hwords₁⟩
    split_ifs with hseen
    · refine ih (c + 1) (setBit words c) hI₁ fun i hi => ?_
      rw [bits_setBit, Set.mem_insert_iff] at hi
      rcases hi with rfl | hi
      · exact hr hseen
      · exact hwords₁ i hi
    · exact ih (c + 1) words hI₁ hwords₁

variable (Done) in
include hR hG hlook in
/-- Whatever is set between the scans, a report acknowledges only chunks that are done, and a
COMPLETE_ACK is sent only when all are. -/
lemma pumpReport_meets {countCompleted : Prog M ℕ} {total : ℕ} (htotal : total < 2 ^ 32)
    (hcount : ∀ m, I m → Prog.Meets I R G (fun n m => total ≤ n → ∀ c < total, Done c m)
      countCompleted m)
    (connectionId : U32) {m : M} (hI : I m) :
    Prog.Meets I R G (fun msg m => Report (Done · m) total msg)
      (pumpReport isComplete countCompleted connectionId total) m := by
  unfold pumpReport
  refine Prog.Meets.bind hI (contiguousEnd_meets hR hG hlook total 0 hI (by simp)) ?_
  rintro cumulative m₁ hI₁ ⟨hle, hcum⟩
  have hsnap := Prog.Meets.frame (P := fun m => ∀ c < cumulative, Done c m)
    (fun m m' h hP c hc => hR c m m' h (hP c hc)) (fun m m' h hP c hc => hG c m m' h (hP c hc)) hcum
    (snapshotWords_meets hR hG hlook (min total 512) 0 (fun _ => 0#64) hI₁ (by simp))
  refine Prog.Meets.bind hI₁ hsnap ?_
  rintro words m₂ hI₂ ⟨hwords, hcum⟩
  -- what the two scans saw is not lost while the gaps are collected
  have hkeep : ∀ {α : Type} {p : Prog M α} {m : M}, (∀ c < cumulative, Done c m) →
      (∀ i ∈ bits words, Done i m) → Prog.Meets I R G (fun _ _ => True) p m →
      Prog.Meets I R G (fun _ m => True ∧ (∀ c < cumulative, Done c m) ∧ ∀ i ∈ bits words, Done i m)
        p m := by
    intro α p m hc hw hp
    exact Prog.Meets.frame
      (P := fun m => (∀ c < cumulative, Done c m) ∧ ∀ i ∈ bits words, Done i m)
      (fun m m' h hP => ⟨fun c hc => hR c m m' h (hP.1 c hc), fun i hi => hR i m m' h (hP.2 i hi)⟩)
      (fun m m' h hP => ⟨fun c hc => hG c m m' h (hP.1 c hc), fun i hi => hG i m m' h (hP.2 i hi)⟩)
      ⟨hc, hw⟩ hp
  refine Prog.Meets.bind hI₂ (hkeep hcum hwords (firstGap_meets hlook total 0 hI₂)) ?_
  rintro ⟨missingStart, missingLen⟩ m₃ hI₃ ⟨-, hcum, hwords⟩
  refine Prog.Meets.bind hI₃ (hkeep hcum hwords (gapList_meets hlook total (total + 1) 0 0 hI₃)) ?_
  rintro gaps m₄ hI₄ ⟨-, hcum, hwords⟩
  split_ifs
  · refine Prog.Meets.pure fun m₅ h₅ _ => ⟨?_, fun h => ControlMsgType.noConfusion h,
      Or.inr (Or.inl rfl), rfl⟩
    exact truthful_reportMessage connectionId gaps (by omega)
      (fun c hc => hR c _ _ h₅ (hcum c hc)) (fun i hi => hR i _ _ h₅ (hwords i hi)) rfl rfl
  · have hcount' := Prog.Meets.frame
      (P := fun m => (∀ c < cumulative, Done c m) ∧ ∀ i ∈ bits words, Done i m)
      (fun m m' h hP => ⟨fun c hc => hR c m m' h (hP.1 c hc), fun i hi => hR i m m' h (hP.2 i hi)⟩)
      (fun m m' h hP => ⟨fun c hc => hG c m m' h (hP.1 c hc), fun i hi => hG i m m' h (hP.2 i hi)⟩)
      ⟨hcum, hwords⟩ (hcount m₄ hI₄)
    refine Prog.Meets.bind hI₄ hcount' ?_
    rintro completed m₅ _ ⟨hall, hcum, hwords⟩
    refine Prog.Meets.pure fun m₆ h₆ _ =>
      ⟨?_, fun htype c hc => hR c _ _ h₆ (hall ?_ c hc), ?_, rfl⟩
    · exact truthful_reportMessage connectionId gaps (by omega)
        (fun c hc => hR c _ _ h₆ (hcum c hc)) (fun i hi => hR i _ _ h₆ (hwords i hi)) rfl rfl
    · by_contra hlt
      simp [hlt] at htype
    · dsimp only
      split_ifs
      · exact Or.inr (Or.inr rfl)
      · exact Or.inl rfl

end Growing

/-- What an invariant must allow for a receiver that pumps: there is a message, chunk bits are only
set, and a report may be sent. -/
structure Pumpable (slot total : ℕ) (answer : ℤ) (I : ReceiverMemory → Prop)
    (R G : ReceiverMemory → ReceiverMemory → Prop) : Prop where
  message : ∀ m, I m → ∃ msg f, m.message slot = some msg ∧ msg.frontendBitmap = some f ∧
    f.totalChunks = total ∧ msg.totalChunks % 2 ^ 32 = total
  rely : ∀ m m', R m m' → bits (m.chunkWords slot) ⊆ bits (m'.chunkWords slot)
  guarantee : ∀ m m', G m m' → bits (m.chunkWords slot) ⊆ bits (m'.chunkWords slot)
  clock : ∀ m last, I m → I { m with lastCtrl := last } ∧ G m { m with lastCtrl := last }
  send : ∀ m report, I m → Report (· ∈ bits (m.chunkWords slot)) total report →
    I (m.sendMessage report answer) ∧ G m (m.sendMessage report answer)

/-- `pump` sends reports, however the bitmap grows between its loads. -/
lemma Pumpable.pump_meets {slot total : ℕ} {answer : ℤ} {I : ReceiverMemory → Prop}
    {R G : ReceiverMemory → ReceiverMemory → Prop} [Std.Refl R] [Std.Refl G]
    (h : Pumpable slot total answer I R G) (htotal : total < 2 ^ 32) (cfg : SRConfig)
    (handle : SDRRecvHandle) (hid : handle.msgId = slot) (now : ℕ) (m : ReceiverMemory) :
    Prog.Meets I R G (fun _ _ => True) (pump cfg handle now answer) m := by
  have hdone : ∀ (b : Bool) (m : ReceiverMemory), Prog.Meets I R G (fun _ _ => True)
      (pure b : Prog ReceiverMemory Bool) m := fun b m => Prog.Meets.pure fun _ _ _ => trivial
  have hcount : ∀ m, I m → Prog.Meets I R G
      (fun n m => total ≤ n → ∀ c < total, c ∈ bits (m.chunkWords slot))
      (FrontendBitmap.getTotalChunksCompleted (fun w => Prog.load fun m => m.chunkWords slot w)
        total) m :=
    fun m hI => FrontendBitmap.getTotalChunksCompleted_meets
      (fun m : ReceiverMemory => m.chunkWords slot) h.rely h.guarantee total hI
  have hlook : ∀ c m, I m → Prog.Meets I R G (fun r m => r = true → c ∈ bits (m.chunkWords slot))
      (FrontendBitmap.isChunkComplete (fun w => Prog.load fun m => m.chunkWords slot w) total
        c) m :=
    fun c m _ => (FrontendBitmap.isChunkComplete_meets (fun m : ReceiverMemory => m.chunkWords slot)
      h.rely total c m).mono fun _ _ _ hr hseen => (hr hseen).2
  unfold pump
  rw [hid]
  refine Prog.Meets.load_bind fun m₁ _ _ => ?_
  dsimp only
  generalize (if cfg.nackDelayMs ≠ 0 then cfg.nackDelayMs else max (cfg.baseRttMs / 2) 50)
    = interval
  split_ifs
  · refine Prog.Meets.modify_bind fun m₂ _ hI₂ => ?_
    obtain ⟨hI, hG⟩ := h.clock m₂ (some (m₁.lastCtrl.getD now)) hI₂
    exact ⟨hI, hG, hdone _ _⟩
  · refine Prog.Meets.modify_bind fun m₂ _ hI₂ => ?_
    obtain ⟨hI, hG⟩ := h.clock m₂ (some now) hI₂
    refine ⟨hI, hG, ?_⟩
    refine Prog.Meets.load_bind fun m₃ _ hI₃ => ?_
    obtain ⟨msg, f, hmsg, hf, hfc, hmc⟩ := h.message m₃ hI₃
    simp only [hmsg, hf, hfc, hmc]
    refine Prog.Meets.load_bind fun m₄ _ hI₄ => ?_
    refine Prog.Meets.bind hI₄ (pumpReport_meets
      (fun c (m : ReceiverMemory) => c ∈ bits (m.chunkWords slot))
        (fun c m m' hR hc => h.rely m m' hR hc)
      (fun c m m' hG hc => h.guarantee m m' hG hc) hlook htotal hcount _ hI₄) ?_
    rintro report m₅ _ hreport
    refine Prog.Meets.modify_bind fun m₆ h₆ hI₆ => ?_
    obtain ⟨hI, hG⟩ := h.send m₆ report hI₆ (hreport.mono fun c hc => h.rely _ _ h₆ hc)
    refine ⟨hI, hG, ?_⟩
    split_ifs
    · exact hdone _ _
    · exact Prog.Meets.bind hI (hcount _ hI) fun _ _ _ _ => hdone _ _

/-- What `sdr_recv_complete` takes for complete has all its chunk bits, as long as the message is
not retired. -/
lemma Pumpable.transferComplete_meets {slot total : ℕ} {answer : ℤ} {I : ReceiverMemory → Prop}
    {R G : ReceiverMemory → ReceiverMemory → Prop} [Std.Refl R] [Std.Refl G]
    (h : Pumpable slot total answer I R G)
    (hstate : ∀ m, I m → ∀ msg, m.message slot = some msg → msg.state ≠ .completed)
    (m : ReceiverMemory) :
    Prog.Meets I R G (fun r m => r = true → ∀ c < total, c ∈ bits (m.chunkWords slot))
      (transferComplete slot) m := by
  refine Prog.Meets.load_bind fun m₁ _ hI₁ => ?_
  obtain ⟨msg, f, hmsg, hf, hfc, -⟩ := h.message m₁ hI₁
  simp only [hmsg, if_neg (hstate m₁ hI₁ msg hmsg), hf, hfc]
  refine Prog.Meets.bind hI₁ (FrontendBitmap.getTotalChunksCompleted_meets
    (fun m : ReceiverMemory => m.chunkWords slot) h.rely h.guarantee total hI₁) ?_
  intro received m₂ _ hcount
  refine Prog.Meets.load_bind fun m₃ h₃ hI₃ => Prog.Meets.pure fun m₄ h₄ _ hr c hc => ?_
  obtain ⟨msg', f', hmsg', -, -, hmc⟩ := h.message m₃ hI₃
  simp only [hmsg', Option.elim_some, hmc, Bool.and_eq_true, decide_eq_true_eq] at hr
  exact h.rely _ _ h₄ (h.rely _ _ h₃ (hcount hr.2 c hc))

/-! ### The actions of a report -/

section Straight

variable {M : Type} {A : (M → M) → Prop} {isComplete : ℕ → Prog M Bool}
variable (hlook : ∀ c, Prog.Straight A (isComplete c))
include hlook

lemma contiguousEnd_straight (chunks next : ℕ) :
    Prog.Straight A (contiguousEnd isComplete chunks next) := by
  induction chunks generalizing next with
  | zero => exact Prog.Straight.pure _
  | succ chunks ih =>
    refine Prog.Straight.bind (hlook next) fun r => ?_
    split_ifs
    · exact ih _
    · exact Prog.Straight.pure _

lemma snapshotWords_straight (chunks c : ℕ) (words : ℕ → U64) :
    Prog.Straight A (snapshotWords isComplete chunks c words) := by
  induction chunks generalizing c words with
  | zero => exact Prog.Straight.pure _
  | succ chunks ih =>
    refine Prog.Straight.bind (hlook c) fun r => ?_
    split_ifs
    · exact ih _ _
    · exact ih _ _

lemma missingRun_straight (limit c : ℕ) : Prog.Straight A (missingRun isComplete limit c) := by
  induction limit generalizing c with
  | zero => exact Prog.Straight.pure _
  | succ limit ih =>
    refine Prog.Straight.bind (hlook c) fun r => ?_
    split_ifs
    · exact Prog.Straight.pure _
    · exact Prog.Straight.bind (ih _) fun _ => Prog.Straight.pure _

lemma firstGap_straight (chunks c : ℕ) : Prog.Straight A (firstGap isComplete chunks c) := by
  induction chunks generalizing c with
  | zero => exact Prog.Straight.pure _
  | succ chunks ih =>
    refine Prog.Straight.bind (hlook c) fun r => ?_
    split_ifs
    · exact ih _
    · exact Prog.Straight.bind (missingRun_straight hlook _ _) fun _ => Prog.Straight.pure _

lemma gapList_straight (total fuel c gapsFound : ℕ) :
    Prog.Straight A (gapList isComplete total fuel c gapsFound) := by
  induction fuel generalizing c gapsFound with
  | zero => exact Prog.Straight.pure _
  | succ fuel ih =>
    unfold gapList
    split_ifs
    · refine Prog.Straight.bind (hlook c) fun r => ?_
      split_ifs
      · exact ih _ _
      · exact Prog.Straight.bind (missingRun_straight hlook _ _) fun _ =>
          Prog.Straight.bind (ih _ _) fun _ => Prog.Straight.pure _
    · exact Prog.Straight.pure _

lemma pumpReport_straight {countCompleted : Prog M ℕ} (hcount : Prog.Straight A countCompleted)
    (connectionId : U32) (total : ℕ) :
    Prog.Straight A (pumpReport isComplete countCompleted connectionId total) := by
  refine Prog.Straight.bind (contiguousEnd_straight hlook _ _) fun cumulative => ?_
  refine Prog.Straight.bind (snapshotWords_straight hlook _ _ _) fun words => ?_
  refine Prog.Straight.bind (firstGap_straight hlook _ _) fun gap => ?_
  refine Prog.Straight.bind (gapList_straight hlook _ _ _ _) fun gaps => ?_
  dsimp only
  split_ifs
  · exact Prog.Straight.pure _
  · exact Prog.Straight.bind hcount fun _ => Prog.Straight.pure _

end Straight

/-- `pump` reads, sets its clock and sends. -/
lemma pump_straight {A : (ReceiverMemory → ReceiverMemory) → Prop} (hid : A id)
    (hclock : ∀ last, A fun m => { m with lastCtrl := some last }) {answer : ℤ}
    (hsend : ∀ report, A fun m => m.sendMessage report answer) (cfg : SRConfig)
    (handle : SDRRecvHandle) (now : ℕ) : Prog.Straight A (pump cfg handle now answer) := by
  refine Prog.Straight.bind (Prog.Straight.load hid _) fun last => ?_
  dsimp only
  generalize (if cfg.nackDelayMs ≠ 0 then cfg.nackDelayMs else max (cfg.baseRttMs / 2) 50)
    = interval
  split_ifs
  · exact Prog.Straight.bind (Prog.Straight.modify (hclock _)) fun _ => Prog.Straight.pure _
  · refine Prog.Straight.bind (Prog.Straight.modify (hclock _)) fun _ => ?_
    refine Prog.Straight.bind (Prog.Straight.load hid _) fun msg => ?_
    split
    · exact Prog.Straight.pure _
    · split
      · exact Prog.Straight.pure _
      · rename_i front _
        have hcount := FrontendBitmap.getTotalChunksCompleted_straight hid
          (fun m : ReceiverMemory => m.chunkWords handle.msgId) front.totalChunks
        refine Prog.Straight.bind (Prog.Straight.load hid _) fun connectionId => ?_
        refine Prog.Straight.bind (pumpReport_straight (fun c =>
          FrontendBitmap.isChunkComplete_straight hid _ _ c) hcount _ _) fun report => ?_
        refine Prog.Straight.bind (Prog.Straight.modify (hsend report)) fun _ => ?_
        split_ifs
        · exact Prog.Straight.pure _
        · exact Prog.Straight.bind hcount fun _ => Prog.Straight.pure _

/-! ### A report at rest -/

/-- The first gap that the message lists begins at chunk `c`. -/
def Requests (msg : ControlMessage) (c : ℕ) : Prop :=
  ∃ len rest, (msg.gapStart.toList.zip msg.gapLen.toList).take msg.numGaps.toNat
    = (BitVec.ofNat 16 c, len) :: rest ∧ 0 < len.toNat

lemma requests_reportMessage (connectionId : U32) (total cumulative : ℕ) (words : ℕ → U64)
    {c len : ℕ} {gaps : List (ℕ × ℕ)} (hpos : 0 < len) (hlen : len < 2 ^ 16)
    (hcount : gaps.length ≤ 3) :
    Requests (reportMessage connectionId total cumulative words ((c, len) :: gaps)) c := by
  have hgaps : (BitVec.ofNat 16 ((c, len) :: gaps).length).toNat = gaps.length + 1 := by
    rw [BitVec.toNat_ofNat, List.length_cons, Nat.mod_eq_of_lt (by omega)]
  have hpositive : 0 < (BitVec.ofNat 16 len).toNat := by
    rwa [BitVec.toNat_ofNat, Nat.mod_eq_of_lt hlen]
  refine ⟨BitVec.ofNat 16 len, ?_⟩
  simp only [reportMessage, hgaps, Vector.toList_ofFn, List.ofFn_succ, List.zip_cons_cons,
    List.take_succ_cons]
  exact ⟨_, rfl, hpositive⟩

section AtRest

variable {M : Type} {isComplete : ℕ → Prog M Bool} {complete : ℕ → Bool} {m : M}
variable (hlook : ∀ c, (isComplete c).run m = some (complete c, m))
include hlook

lemma run_snapshotWords (chunks c : ℕ) (words : ℕ → U64) :
    ∃ words', (snapshotWords isComplete chunks c words).run m = some (words', m) := by
  induction chunks generalizing c words with
  | zero => exact ⟨words, rfl⟩
  | succ chunks ih =>
    simp only [snapshotWords, Prog.run_bind, hlook, Option.bind_some]
    split_ifs
    · exact ih _ _
    · exact ih _ _

lemma run_missingRun (limit c : ℕ) : ∃ len ≤ limit,
    (missingRun isComplete limit c).run m = some (len, m) ∧
      (complete c = false → 0 < limit → 0 < len) := by
  induction limit generalizing c with
  | zero => exact ⟨0, le_rfl, rfl, fun _ h => h⟩
  | succ limit ih =>
    simp only [missingRun, Prog.run_bind, hlook, Option.bind_some]
    cases hc : complete c with
    | true => exact ⟨0, Nat.zero_le _, rfl, fun h => by simp at h⟩
    | false =>
      obtain ⟨len, hle, hrun, -⟩ := ih (c + 1)
      exact ⟨len + 1, by omega, by simp [hrun], fun _ _ => Nat.succ_pos len⟩

lemma run_gapList (total fuel c gapsFound : ℕ) : ∃ gaps,
    (gapList isComplete total fuel c gapsFound).run m = some (gaps, m) ∧
      gaps.length ≤ 4 - gapsFound := by
  induction fuel generalizing c gapsFound with
  | zero => exact ⟨[], rfl, Nat.zero_le _⟩
  | succ fuel ih =>
    unfold gapList
    split_ifs with h
    · simp only [Prog.run_bind, hlook, Option.bind_some]
      split_ifs
      · exact ih _ _
      · generalize min (total - c) (2 ^ 16 - 1) = limit
        obtain ⟨len, -, hrun, -⟩ := run_missingRun hlook limit c
        obtain ⟨gaps, hgaps, hle⟩ := ih (c + len + 1) (gapsFound + 1)
        exact ⟨(c, len) :: gaps, by simp [hrun, hgaps], by rw [List.length_cons]; omega⟩
    · exact ⟨[], rfl, Nat.zero_le _⟩

variable {k : ℕ} (hbelow : ∀ c < k, complete c = true) (hk : complete k = false)
include hbelow hk

lemma run_contiguousEnd (chunks next : ℕ) (hle : next ≤ k) (hlt : k < next + chunks) :
    (contiguousEnd isComplete chunks next).run m = some (k, m) := by
  induction chunks generalizing next with
  | zero => omega
  | succ chunks ih =>
    simp only [contiguousEnd, Prog.run_bind, hlook, Option.bind_some]
    rcases Nat.lt_or_eq_of_le hle with h | rfl
    · rw [hbelow next h, if_pos rfl]
      exact ih (next + 1) h (by omega)
    · rw [hk]
      rfl

lemma run_firstGap (chunks c : ℕ) (hle : c ≤ k) (hlt : k < c + chunks) : ∃ start len,
    (firstGap isComplete chunks c).run m = some ((start, len), m) ∧ 0 < len := by
  induction chunks generalizing c with
  | zero => omega
  | succ chunks ih =>
    simp only [firstGap, Prog.run_bind, hlook, Option.bind_some]
    rcases Nat.lt_or_eq_of_le hle with h | rfl
    · rw [hbelow c h, if_pos rfl]
      exact ih (c + 1) h (by omega)
    · obtain ⟨len, -, hrun, hpos⟩ := run_missingRun hlook (chunks + 1) c
      exact ⟨c, len, by simp [hk, hrun], hpos hk (Nat.succ_pos chunks)⟩

lemma run_gapList_first {total : ℕ} (htotal : k < total) (fuel c : ℕ) (hle : c ≤ k)
    (hlt : k < c + fuel) : ∃ len gaps,
    (gapList isComplete total fuel c 0).run m = some ((k, len) :: gaps, m) ∧
      0 < len ∧ len < 2 ^ 16 ∧ gaps.length ≤ 3 := by
  induction fuel generalizing c with
  | zero => omega
  | succ fuel ih =>
    unfold gapList
    rw [if_pos ⟨hle.trans_lt htotal, by decide⟩]
    simp only [Prog.run_bind, hlook, Option.bind_some]
    rcases Nat.lt_or_eq_of_le hle with h | rfl
    · rw [hbelow c h, if_pos rfl]
      exact ih (c + 1) h (by omega)
    · obtain ⟨limit, hlimit⟩ : ∃ limit, limit = min (total - c) (2 ^ 16 - 1) := ⟨_, rfl⟩
      rw [← hlimit]
      obtain ⟨len, hlen, hrun, hpos⟩ := run_missingRun hlook limit c
      obtain ⟨gaps, hgaps, hcount⟩ := run_gapList hlook total fuel (c + len + 1) 1
      exact ⟨len, gaps, by simp [hk, hrun, hgaps], hpos hk (by omega), by omega, hcount⟩

/-- With nobody changing the bitmap, the report on a message with a missing chunk asks for the first
one. -/
lemma run_pumpReport {total : ℕ} (htotal : k < total) (countCompleted : Prog M ℕ)
    (connectionId : U32) : ∃ report,
    (pumpReport isComplete countCompleted connectionId total).run m = some (report, m) ∧
      report.msgType = .srNack ∧ Requests report k := by
  obtain ⟨words, hwords⟩ := run_snapshotWords hlook (min total 512) 0 (fun _ => 0#64)
  obtain ⟨start, run, hgap, hrun⟩ := run_firstGap hlook hbelow hk total 0 (Nat.zero_le k) (by omega)
  obtain ⟨len, gaps, hgaps, hpos, hlen, hcount⟩ :=
    run_gapList_first hlook hbelow hk htotal (total + 1) 0 (Nat.zero_le k) (by omega)
  refine ⟨{ reportMessage connectionId total k words ((k, len) :: gaps) with
      msgType := .srNack
      params.rtoMs := BitVec.ofNat 32 start
      params.rttAlphaMs := BitVec.ofNat 32 run }, ?_, rfl,
    requests_reportMessage connectionId total k words hpos hlen hcount⟩
  simp only [pumpReport, Prog.run_bind, hwords, hgap, hgaps, Option.bind_some, hrun, if_pos,
    run_contiguousEnd hlook hbelow hk total 0 (Nat.zero_le k) (by omega), Prog.run_pure]

end AtRest

lemma elapsedMs_mono {now now' : ℕ} (h : now ≤ now') (last : ℕ) :
    elapsedMs now last ≤ elapsedMs now' last :=
  Int.tdiv_le_tdiv (by decide) (by omega)

/-- What has elapsed lies between the readings. -/
lemma le_of_le_elapsedMs {ms now last : ℕ} (hpos : 0 < ms) (h : (ms : ℤ) ≤ elapsedMs now last) :
    last + ms * 1000000 ≤ now := by
  unfold elapsedMs at h
  rcases le_or_gt ((now : ℤ) - last) 0 with hneg | hlate
  · have := Int.tdiv_le_tdiv (c := 1000000) (by decide) hneg
    rw [Int.zero_tdiv] at this
    omega
  · rw [Int.tdiv_eq_ediv_of_nonneg hlate.le] at h
    omega

/-- Every delay passes. -/
lemma exists_elapsedMs (delay last now : ℕ) : ∃ d, (delay : ℤ) ≤ elapsedMs (now + d) last := by
  refine ⟨last + delay * 1000000, ?_⟩
  have h := Int.tdiv_le_tdiv (a := delay * 1000000)
    (b := ((now + (last + delay * 1000000) : ℕ) : ℤ) - last)
    (c := 1000000) (by decide) (by push_cast; omega)
  rwa [Int.mul_tdiv_cancel _ (by decide)] at h

section Pump

variable {cfg : SRConfig} {handle : SDRRecvHandle} {now : ℕ} {m : ReceiverMemory}

/-- The first call of `pump` sends nothing. -/
lemma run_pump_first (hlast : m.lastCtrl = none) (answer : ℤ) :
    (pump cfg handle now answer).run m = some (false, { m with lastCtrl := some now }) := by
  have hpos : elapsedMs now now
      < ((if cfg.nackDelayMs ≠ 0 then cfg.nackDelayMs else max (cfg.baseRttMs / 2) 50 : ℕ)
        : ℤ) := by
    simp only [elapsedMs, sub_self, Int.zero_tdiv]
    split_ifs <;> omega
  simp only [pump, Prog.run_bind, Prog.run_load, Option.bind_some, hlast, Option.getD_none,
    if_pos hpos, Prog.run_modify, Prog.run_pure]

/-- A call of `pump` that comes late enough, with nobody changing the bitmap, asks for the first
missing chunk. -/
lemma run_pump_missing (cfg : SRConfig) (now : ℕ) {msg : MessageContext} {f : FrontendBitmap}
    (hmsg : m.message handle.msgId = some msg) (hf : msg.frontendBitmap = some f)
    (htotal : msg.totalChunks % 2 ^ 32 = f.totalChunks) {last : ℕ} (hlast : m.lastCtrl = some last)
    (hlate : ((if cfg.nackDelayMs ≠ 0 then cfg.nackDelayMs else max (cfg.baseRttMs / 2) 50 : ℕ) : ℤ)
      ≤ elapsedMs now last) {k : ℕ} (hlt : k < f.totalChunks)
    (hbelow : ∀ c < k, c ∈ bits (m.chunkWords handle.msgId))
    (hk : k ∉ bits (m.chunkWords handle.msgId)) {server : TCPControlServer}
    (hserver : m.conn.tcpServer = some server) (hfd : 0 ≤ server.clientFd) :
    ∃ done m' report, (pump cfg handle now sizeofControlMessage).run m = some (done, m') ∧
      m'.message handle.msgId = m.message handle.msgId ∧ m'.sent = m.sent ++ [report] ∧
      report.msgType = .srNack ∧ Requests report k := by
  have hbelow' := fun c hc => (FrontendBitmap.isChunkComplete_iff (m.chunkWords handle.msgId)
    f.totalChunks c).mpr ⟨hc.trans hlt, hbelow c hc⟩
  have hk' := Bool.eq_false_iff.mpr fun h => hk ((FrontendBitmap.isChunkComplete_iff
    (m.chunkWords handle.msgId) f.totalChunks k).mp h).2
  obtain ⟨report, hreport, htype, hrequests⟩ :=
    run_pumpReport (m := { m with lastCtrl := some now })
    (fun c => run_isChunkComplete handle.msgId f.totalChunks c { m with lastCtrl := some now })
    hbelow' hk' hlt (FrontendBitmap.getTotalChunksCompleted
        (fun w => Prog.load fun m => m.chunkWords handle.msgId w) f.totalChunks)
    m.conn.connectionCtx.connectionId
  have hmsg' : ReceiverMemory.message handle.msgId { m with lastCtrl := some now }
    = some msg := hmsg
  obtain ⟨done, hrun⟩ : ∃ done, (pump cfg handle now sizeofControlMessage).run m = some (done,
      ReceiverMemory.sendMessage report sizeofControlMessage { m with lastCtrl := some now }) := by
    simp only [pump, Prog.run_bind, Prog.run_load, Option.bind_some, hlast, Option.getD_some,
      if_neg (not_lt.mpr hlate), Prog.run_modify, hmsg', hf, htotal]
    rw [hreport]
    simp only [Option.bind_some, htype, reduceCtorEq, if_false, Prog.run_bind,
      FrontendBitmap.getTotalChunksCompleted, run_countCompleted, Prog.run_pure]
    exact ⟨_, rfl⟩
  refine ⟨done, _, report, hrun, ReceiverMemory.sendMessage_message _ _ _ _, ?_, htype, hrequests⟩
  simp only [ReceiverMemory.sendMessage, hserver, TCPControlServer.sendMessage_whole hfd, if_true]

end Pump

end SdrUdp
