import SdrUdp.SrWindow

/-!
# Array accesses of selective repeat

The functions of `SRSender::poll` with every access to an array and every division checked: `none`
is an access outside the array or a division by zero. `chunk_acked_` and `last_tx_` have
`total_chunks_` entries.
-/

namespace SdrUdp

open SdrUdp.Core

/-- `a / b`. -/
def divIn (a b : ℕ) : Option ℕ := if b = 0 then none else some (a / b)

lemma divIn_eq (a : ℕ) {b : ℕ} (hb : b ≠ 0) : divIn a b = some (a / b) := if_neg hb

/-- The loop over the bits of `chunk_bitmap`, which looks at `limit` words at most and at chunks
below `maxChunks` only. -/
def bitmapLoop {σ : Type} (msg : ControlMessage) (limit maxChunks : ℕ)
    (visit : σ → ℕ → Bool → Option σ) (s : σ) : Option σ :=
  (List.range (min msg.chunkBitmapWords.toNat limit)).foldlM (fun s w => do
    let word ← msg.chunkBitmap[w]?
    (List.range (min 64 (maxChunks - w * 64))).foldlM
      (fun s bit => visit s (w * 64 + bit) (word.getLsbD bit)) s) s

namespace SRSender

/-- `chunk_acked_[c]`. -/
def ackedAt (s : SRSender) (c : ℕ) : Option Bool :=
  if c < s.totalChunks then some (s.chunkAcked c) else none

/-- `last_tx_[c]`. -/
def lastTxAt (s : SRSender) (c : ℕ) : Option ℕ :=
  if c < s.totalChunks then some (s.lastTx c) else none

/-- `chunk_acked_[c] = true`. -/
def markAt (s : SRSender) (c : ℕ) : Option SRSender :=
  if c < s.totalChunks then some { s with chunkAcked := Function.update s.chunkAcked c true }
  else none

/-- `last_tx_[c] = t`. -/
def stampAt (t : ℕ) (s : SRSender) (c : ℕ) : Option SRSender :=
  if c < s.totalChunks then some { s with lastTx := Function.update s.lastTx c t } else none

/-- `retransmit_range`. -/
def retransmitRangeIn (s : SRSender) (startChunk count : ℕ) (now : Clock) : Option SRSender :=
  let size := s.handle.userBuffer.length
  let chunkBytes := s.packetsPerChunk.toNat * s.mtuBytes
  let offset := startChunk * chunkBytes
  if offset ≥ size then some s
  else do
    let length := min (count * chunkBytes) (size - offset)
    let startPacket ← divIn offset s.mtuBytes
    let packetCount ← divIn (length + s.mtuBytes - 1) s.mtuBytes
    let s := s.sendPacketsRange (startPacket % 2 ^ 32) (packetCount % 2 ^ 32)
    (List.range' startChunk (min (startChunk + count) s.totalChunks - startChunk)).foldlM
      (stampAt (now s.ticks)) s.tick

/-- A round of a retransmission loop that stops after `limit` chunks, at the reading `t`. -/
def retransmitStaleIn (limit t : ℕ) (now : Clock) (acc : SRSender × ℕ) (c : ℕ) :
    Option (SRSender × ℕ) :=
  if acc.2 < limit then do
    let acked ← acc.1.ackedAt c
    if acked = true then some acc
    else do
      let lastTx ← acc.1.lastTxAt c
      if elapsedMs t lastTx < guardMs then some acc
      else do
        let s ← acc.1.retransmitRangeIn c 1 now
        some (s, acc.2 + 1)
  else some acc

/-- `retransmit_missing_from_bitmap`. -/
def retransmitMissingFromBitmapIn (s : SRSender) (limit : ℕ) (now : Clock) : Option SRSender := do
  let acc ← (List.range s.totalChunks).foldlM (retransmitStaleIn limit (now s.ticks) now)
    (s.tick, 0)
  some acc.1

/-- A round of the loop over the chunks of a gap, which reads the clock for each chunk that is not
acknowledged. -/
def retransmitListedIn (limit : ℕ) (now : Clock) (acc : SRSender × ℕ) (c : ℕ) :
    Option (SRSender × ℕ) :=
  if acc.2 < limit then do
    let acked ← acc.1.ackedAt c
    if acked = true then some acc
    else do
      let t := now acc.1.ticks
      let s := acc.1.tick
      let lastTx ← s.lastTxAt c
      if elapsedMs t lastTx < guardMs then some (s, acc.2)
      else do
        let s ← s.retransmitRangeIn c 1 now
        some (s, acc.2 + 1)
  else some acc

/-- One gap of an SR_NACK. -/
def retransmitGapIn (totalChunks : ℕ) (now : Clock) (acc : SRSender × ℕ) (gap : U16 × U16) :
    Option (SRSender × ℕ) :=
  let stop := min (gap.1.toNat + gap.2.toNat) totalChunks
  (List.range' gap.1.toNat (stop - gap.1.toNat)).foldlM (retransmitListedIn 8 now) acc

/-- A round of the loop over the gaps of an SR_NACK, which ends once 8 chunks are sent. -/
def gapRoundIn (totalChunks : ℕ) (msg : ControlMessage) (now : Clock) (acc : SRSender × ℕ) (i : ℕ) :
    Option (SRSender × ℕ) :=
  if acc.2 < 8 then do
    let gs ← msg.gapStart[i]?
    let gl ← msg.gapLen[i]?
    retransmitGapIn totalChunks now acc (gs, gl)
  else some acc

/-- The loop over the gaps. -/
def retransmitGapsIn (s : SRSender) (msg : ControlMessage) (now : Clock) : Option SRSender := do
  let acc ← (List.range msg.numGaps.toNat).foldlM (gapRoundIn s.totalChunks msg now) (s, 0)
  some acc.1

/-- The loop that opens the window. -/
def advanceWindowIn (now : Clock) : ℕ → SRSender → Option SRSender
  | 0, s => some s
  | fuel + 1, s =>
    let next := s.nextChunkToSend
    if next < s.totalChunks ∧ next < (s.ackBase + s.maxInflight) % 2 ^ 32 then do
      let acked ← s.ackedAt next
      let s ← if acked = false then s.retransmitRangeIn next 1 now else some s
      advanceWindowIn now fuel { s with nextChunkToSend := next + 1 }
    else some s

/-- `apply_bitmap`. -/
def applyBitmapIn (s : SRSender) (msg : ControlMessage) : Option SRSender :=
  bitmapLoop msg 8 s.totalChunks (fun s c bit => if bit = true then s.markAt c else some s) s

/-- The cumulative index of an SR_ACK or SR_NACK. -/
def applyCumulativeIn (s : SRSender) (msg : ControlMessage) : Option SRSender :=
  let cumChunk := msg.params.maxInflight
  if cumChunk = uint32Max then some s
  else (List.range (min (cumChunk.toNat + 1) s.totalChunks)).foldlM markAt
    { s with ackBase := max s.ackBase (cumChunk.toNat + 1) }

def onSrAckIn (s : SRSender) (msg : ControlMessage) (now : Clock) : Option SRSender := do
  let s ← s.applyBitmapIn msg
  let s ← s.applyCumulativeIn msg
  let s ← s.retransmitMissingFromBitmapIn 4 now
  advanceWindowIn now (s.totalChunks - s.nextChunkToSend) s

def onSrNackIn (s : SRSender) (msg : ControlMessage) (now : Clock) : Option SRSender := do
  let s ← s.applyBitmapIn msg
  let s ← s.applyCumulativeIn msg
  let s ← s.retransmitGapsIn msg now
  let s ← s.retransmitMissingFromBitmapIn 4 now
  advanceWindowIn now (s.totalChunks - s.nextChunkToSend) s

/-- A round of the loop after a timeout, at the reading `t`. -/
def retransmitOverdueIn (effectiveRtoMs t : ℕ) (now : Clock) (s : SRSender) (c : ℕ) :
    Option SRSender := do
  let acked ← s.ackedAt c
  if acked = true then some s
  else do
    let lastTx ← s.lastTxAt c
    if (effectiveRtoMs : ℤ) < elapsedMs t lastTx then do
      let s ← s.retransmitRangeIn c 1 now
      stampAt t s c
    else some s

/-- The retransmissions after a timeout. -/
def onTimeoutIn (s : SRSender) (now : Clock) : Option SRSender :=
  (List.range s.totalChunks).foldlM (retransmitOverdueIn s.effectiveRtoMs (now s.ticks) now) s.tick

end SRSender

/-- One call of `receive_message` and what `SRSender::poll` makes of it, with the clock `now`. -/
def SRPoll.stepIn (p : SRPoll) (now : Clock) (event : ChannelEvent) : Option SRPoll :=
  let event := event.seen p.connected
  let connected := event.keepsConnection
  match p.state with
  | .returned _ => some p
  | .sendPoll afterTimeout =>
    match sendPollRound event with
    | none    => some { p with connected }
    | some rc =>
      if rc = 0 then some { p with connected, state := .returned 0 }
      else do
        let sender ← if afterTimeout = true then p.sender.onTimeoutIn now else some p.sender
        some ⟨sender, connected, .main⟩
  | .main =>
    match event with
    | .message _ msg =>
      match msg.msgType with
      | .srAck => do
        let sender ← p.sender.onSrAckIn msg now
        some ⟨sender, connected, if SRSender.ackCompletes msg then .returned 0 else .main⟩
      | .srNack => do
        let sender ← p.sender.onSrNackIn msg now
        some { p with connected, sender }
      | .completeAck    => some { p with connected, state := .returned 0 }
      | .incompleteNack => some { p with connected, state := .returned (-1) }
      | _               => some { p with connected, state := enterSendPoll connected false }
    | _ => some { p with connected, state := enterSendPoll connected true }

/-! ### The accesses of the loops -/

/-- The bits in the order of their chunks. -/
lemma bitmapLoop_eq {σ : Type} (msg : ControlMessage) {limit : ℕ} (hlimit : limit ≤ 16)
    (maxChunks : ℕ) (visit : σ → ℕ → Bool → Option σ) (s : σ) :
    bitmapLoop msg limit maxChunks visit s
      = (List.range (min maxChunks (64 * min msg.chunkBitmapWords.toNat limit))).foldlM
          (fun s c => visit s c (ECSender.bitOf msg c)) s := by
  have hwords : min msg.chunkBitmapWords.toNat limit ≤ 16 := (min_le_right _ _).trans hlimit
  unfold bitmapLoop
  generalize min msg.chunkBitmapWords.toNat limit = words at hwords ⊢
  induction words with
  | zero => simp
  | succ w ih =>
    have hw : w < 16 := hwords
    -- the chunks of the last word come after those of the words before it
    have hrange : List.range (min maxChunks (64 * (w + 1))) = List.range (min maxChunks (64 * w))
        ++ (List.range (min 64 (maxChunks - w * 64))).map (w * 64 + ·) := by
      rcases Nat.lt_or_ge maxChunks (64 * w) with hlt | hge
      · rw [min_eq_left (by omega), min_eq_left (by omega), Nat.sub_eq_zero_of_le (by omega)]
        simp
      · rw [min_eq_right hge, show min maxChunks (64 * (w + 1))
          = w * 64 + min 64 (maxChunks - w * 64) by omega, List.range_add, Nat.mul_comm 64 w]
    rw [List.range_succ, List.foldlM_append, ih (by omega), hrange, List.foldlM_append]
    congr 1
    funext s'
    simp only [List.foldlM_cons, List.foldlM_nil, Vector.getElem?_eq_getElem hw, List.foldlM_map,
      Option.bind_eq_bind, Option.bind_some, Option.pure_def, Option.bind_fun_some]
    refine foldlM_congr (fun s'' bit hbit => ?_) s'
    have hlt : bit < 64 := (List.mem_range.mp hbit).trans_le (min_le_left _ _)
    rw [ECSender.bitOf, dif_pos (show (w * 64 + bit) / 64 < 16 by omega)]
    congr 2
    · congr 1
      omega
    · omega

namespace SRSender

/-- Marks inside `chunk_acked_`. -/
lemma foldlM_markAt {p : ℕ → Bool} {chunks : List ℕ} {s : SRSender}
    (hchunks : ∀ c ∈ chunks, c < s.totalChunks) :
    chunks.foldlM (fun s c => if p c = true then s.markAt c else some s) s
      = some { s with chunkAcked := fun c =>
          if c ∈ chunks ∧ p c = true then true else s.chunkAcked c } := by
  induction chunks generalizing s with
  | nil => simp
  | cons c chunks ih =>
    have hrest : ∀ d ∈ chunks, d < s.totalChunks := fun d hd =>
      hchunks d (List.mem_cons_of_mem c hd)
    rw [List.foldlM_cons]
    by_cases hp : p c = true
    · rw [if_pos hp, markAt, if_pos (hchunks c List.mem_cons_self), Option.bind_eq_bind,
        Option.bind_some]
      refine (ih (s := { s with chunkAcked := Function.update s.chunkAcked c true }) hrest).trans ?_
      congr 2
      funext d
      by_cases hd : d = c
      · subst hd
        simp [hp]
      · simp [hd]
    · rw [if_neg hp, Option.bind_eq_bind, Option.bind_some, ih hrest]
      congr 2
      funext d
      by_cases hd : d = c
      · subst hd
        simp [hp]
      · simp [hd]

lemma applyBitmapIn_eq (s : SRSender) (msg : ControlMessage) :
    s.applyBitmapIn msg = some (s.applyBitmap msg) := by
  rw [applyBitmapIn, bitmapLoop_eq msg (by decide), foldlM_markAt fun c hc => by
    have := List.mem_range.mp hc
    omega]
  unfold applyBitmap
  congr 2
  funext c
  by_cases hc : c / 64 < 8
  · rw [dif_pos hc]
    refine if_congr ?_ rfl rfl
    rw [ECSender.bitOf, dif_pos (by omega), List.mem_range, ← and_assoc]
    refine and_congr_left fun _ => ?_
    omega
  · rw [dif_neg hc]
    refine if_neg fun h => hc ?_
    have := List.mem_range.mp h.1
    omega

lemma applyCumulativeIn_eq (s : SRSender) (msg : ControlMessage) :
    s.applyCumulativeIn msg = some (s.applyCumulative msg) := by
  unfold applyCumulativeIn applyCumulative
  dsimp only
  split_ifs with hmax
  · rfl
  · have hchunks : ∀ c ∈ List.range (min (msg.params.maxInflight.toNat + 1) s.totalChunks),
        c < s.totalChunks := fun c hc => (List.mem_range.mp hc).trans_le (min_le_right _ _)
    have h := foldlM_markAt (p := fun _ => true)
      (s := { s with ackBase := max s.ackBase (msg.params.maxInflight.toNat + 1) }) hchunks
    simp only [if_true, and_true] at h
    refine h.trans ?_
    congr 2
    funext c
    exact if_congr (List.mem_range.trans (by omega)) rfl rfl

/-- The acknowledgements of a message stay inside `chunk_acked_`. -/
lemma mergeIn_eq (s : SRSender) (msg : ControlMessage) :
    (do let s ← s.applyBitmapIn msg; s.applyCumulativeIn msg) = some (s.merge msg) := by
  rw [applyBitmapIn_eq, Option.bind_eq_bind, Option.bind_some, applyCumulativeIn_eq]
  rfl

/-- Time stamps inside `last_tx_`. -/
lemma foldlM_stampAt {t : ℕ} {chunks : List ℕ} {s : SRSender}
    (hchunks : ∀ c ∈ chunks, c < s.totalChunks) :
    chunks.foldlM (stampAt t) s
      = some { s with lastTx := fun c => if c ∈ chunks then t else s.lastTx c } := by
  induction chunks generalizing s with
  | nil => simp
  | cons c chunks ih =>
    rw [List.foldlM_cons, stampAt, if_pos (hchunks c List.mem_cons_self), Option.bind_eq_bind,
      Option.bind_some]
    refine (ih (s := { s with lastTx := Function.update s.lastTx c t })
      fun d hd => hchunks d (List.mem_cons_of_mem c hd)).trans ?_
    congr 2
    funext d
    by_cases hd : d = c
    · subst hd
      simp
    · simp [hd]

variable {s : SRSender}

@[simp] lemma totalChunks_sendPacketsRange (s : SRSender) (startPacket packetCount : ℕ) :
    (s.sendPacketsRange startPacket packetCount).totalChunks = s.totalChunks := rfl

lemma retransmitRangeIn_eq (hmtu : s.mtuBytes ≠ 0) (startChunk count : ℕ) (now : Clock) :
    s.retransmitRangeIn startChunk count now = some (s.retransmitRange startChunk count now) := by
  unfold retransmitRangeIn retransmitRange packetRange
  dsimp only
  split_ifs with hoffset
  · rfl
  · rw [divIn_eq _ hmtu, divIn_eq _ hmtu]
    simp only [Option.bind_eq_bind, Option.bind_some, totalChunks_sendPacketsRange]
    rw [foldlM_stampAt fun c hc => by
      have := List.mem_range'_1.mp hc
      change c < s.totalChunks
      omega]
    refine congrArg some ?_
    unfold tick
    congr 1
    funext c
    exact if_congr (List.mem_range'_1.trans (by omega)) rfl rfl

lemma retransmitStaleIn_eq {acc : SRSender × ℕ} (hmtu : acc.1.mtuBytes ≠ 0) {c : ℕ}
    (hc : c < acc.1.totalChunks) (limit t : ℕ) (now : Clock) :
    retransmitStaleIn limit t now acc c = some (retransmitStale limit t now acc c) := by
  rw [retransmitStaleIn, retransmitStale_eq, ackedAt, lastTxAt, if_pos hc, if_pos hc,
    retransmitRangeIn_eq hmtu]
  simp only [Option.bind_eq_bind, Option.bind_some, Stale]
  by_cases hlimit : acc.2 < limit
  · rw [if_pos hlimit]
    by_cases hacked : acc.1.chunkAcked c = true
    · simp [hacked]
    · by_cases hguard : elapsedMs t (acc.1.lastTx c) < guardMs
      · simp [hacked, hguard, not_le.mpr hguard]
      · simp [hacked, hguard, not_lt.mp hguard, hlimit]
  · simp [hlimit]

lemma retransmitMissingFromBitmapIn_eq (hmtu : s.mtuBytes ≠ 0) (limit : ℕ) (now : Clock) :
    s.retransmitMissingFromBitmapIn limit now = some (s.retransmitMissingFromBitmap limit now) := by
  have hloop : (List.range s.totalChunks).foldlM (retransmitStaleIn limit (now s.ticks) now)
      (s.tick, 0) = some ((List.range s.totalChunks).foldl
        (retransmitStale limit (now s.ticks) now) (s.tick, 0)) := by
    refine foldlM_eq_foldl (P := fun acc : SRSender × ℕ => Continues s acc.1)
      (fun acc c hc h => ?_) (fun acc c _ h => ?_) (transmits_continues.tick s)
    · exact retransmitStaleIn_eq (h.mtuBytes ▸ hmtu) (h.totalChunks ▸ List.mem_range.mp hc) limit _
        now
    · exact transmits_continues.trans h (transmits_continues.stale limit _ now acc c)
  rw [retransmitMissingFromBitmapIn, hloop]
  rfl

lemma retransmitListedIn_eq {acc : SRSender × ℕ} (hmtu : acc.1.mtuBytes ≠ 0) {c : ℕ}
    (hc : c < acc.1.totalChunks) (limit : ℕ) (now : Clock) :
    retransmitListedIn limit now acc c = some (retransmitListed limit now acc c) := by
  have hround := @retransmitStaleIn_eq (acc.1.tick, acc.2) hmtu c hc limit (now acc.1.ticks) now
  unfold retransmitListedIn retransmitListed
  by_cases hlimit : acc.2 < limit
  · rw [if_pos hlimit, ackedAt, if_pos hc, Option.bind_eq_bind, Option.bind_some]
    by_cases hacked : acc.1.chunkAcked c = true
    · rw [if_pos hacked, if_neg fun h => absurd (hacked.symm.trans h.2) (by decide)]
    · have hunacked : acc.1.tick.ackedAt c = some (acc.1.chunkAcked c) := if_pos hc
      rw [if_neg hacked, if_pos ⟨hlimit, Bool.eq_false_of_not_eq_true hacked⟩, ← hround,
        retransmitStaleIn, if_pos hlimit, hunacked]
      exact (if_neg hacked).symm
  · rw [if_neg hlimit, if_neg fun h => hlimit h.1]

/-- A loop over chunks of the message stays inside the arrays. -/
lemma listedLoopIn_eq {acc : SRSender × ℕ} (hmtu : acc.1.mtuBytes ≠ 0) {chunks : List ℕ}
    (hchunks : ∀ c ∈ chunks, c < acc.1.totalChunks) (limit : ℕ) (now : Clock) :
    chunks.foldlM (retransmitListedIn limit now) acc
      = some (chunks.foldl (retransmitListed limit now) acc) := by
  refine foldlM_eq_foldl (P := fun acc' : SRSender × ℕ => Continues acc.1 acc'.1)
    (fun acc' c hc h => ?_) (fun acc' c _ h => ?_) (transmits_continues.refl acc.1)
  · exact retransmitListedIn_eq (h.mtuBytes ▸ hmtu) (h.totalChunks ▸ hchunks c hc) limit now
  · exact transmits_continues.trans h (transmits_continues.listed limit now acc' c)

lemma advanceWindowIn_eq (now : Clock) (fuel : ℕ) (hmtu : s.mtuBytes ≠ 0) :
    advanceWindowIn now fuel s = some (advanceWindow now fuel s) := by
  induction fuel generalizing s with
  | zero => rfl
  | succ fuel ih =>
    have hsent : (s.retransmitRange s.nextChunkToSend 1 now).mtuBytes ≠ 0 := by
      rw [(transmits_continues.retransmitRange s s.nextChunkToSend now).mtuBytes]
      exact hmtu
    unfold advanceWindowIn advanceWindow
    dsimp only
    split_ifs with hnext hacked
    · rw [ackedAt, if_pos hnext.1, hacked, retransmitRangeIn_eq hmtu]
      exact ih hsent
    · rw [ackedAt, if_pos hnext.1, Option.bind_eq_bind, Option.bind_some, if_neg hacked]
      exact ih hmtu
    · rfl

/-! ### The loop over the gaps -/

/-- A loop that has sent enough does nothing more. -/
lemma foldl_retransmitListed_of_ge {limit : ℕ} {now : Clock} {acc : SRSender × ℕ}
    (h : limit ≤ acc.2) (chunks : List ℕ) :
    chunks.foldl (retransmitListed limit now) acc = acc := by
  induction chunks with
  | nil => rfl
  | cons c chunks ih =>
    rw [List.foldl_cons, retransmitListed, if_neg fun hsend => absurd hsend.1 h.not_gt, ih]

/-- What one gap does. -/
def retransmitGap (totalChunks : ℕ) (now : Clock) (acc : SRSender × ℕ) (gap : U16 × U16) :
    SRSender × ℕ :=
  (List.range' gap.1.toNat (min (gap.1.toNat + gap.2.toNat) totalChunks - gap.1.toNat)).foldl
    (retransmitListed 8 now) acc

lemma continues_retransmitGap (totalChunks : ℕ) (now : Clock) (acc : SRSender × ℕ)
    (gap : U16 × U16) : Continues acc.1 (retransmitGap totalChunks now acc gap).1 :=
  transmits_continues.listedLoop 8 now _ acc

/-- A gap as the loop looks at it. -/
lemma retransmitGapIn_eq {acc : SRSender × ℕ} (hmtu : acc.1.mtuBytes ≠ 0) (now : Clock)
    (gap : U16 × U16) :
    (if acc.2 < 8 then retransmitGapIn acc.1.totalChunks now acc gap else some acc)
      = some (retransmitGap acc.1.totalChunks now acc gap) := by
  split_ifs with hlimit
  · exact listedLoopIn_eq hmtu (fun c hc => by
      have := List.mem_range'_1.mp hc
      omega) 8 now
  · rw [retransmitGap, foldl_retransmitListed_of_ge (not_lt.mp hlimit)]

/-- The gaps of a message, as far as the arrays reach. -/
def listedGaps (msg : ControlMessage) : List (U16 × U16) :=
  msg.gapStart.toList.zip msg.gapLen.toList

lemma length_listedGaps (msg : ControlMessage) : (listedGaps msg).length = 16 := by
  simp [listedGaps]

/-- A round of the loop reads both arrays at one index. -/
lemma readGap_eq {α : Type} (msg : ControlMessage) (i : ℕ) (f : U16 × U16 → Option α) :
    (do let gs ← msg.gapStart[i]?; let gl ← msg.gapLen[i]?; f (gs, gl))
      = ((listedGaps msg)[i]?).bind f := by
  by_cases hi : i < 16
  · have hlist : i < (listedGaps msg).length := (length_listedGaps msg).symm ▸ hi
    rw [List.getElem?_eq_getElem hlist, Vector.getElem?_eq_getElem hi,
      Vector.getElem?_eq_getElem hi]
    simp [listedGaps]
  · rw [List.getElem?_eq_none (by rw [length_listedGaps]; omega),
      Vector.getElem?_eq_none (by omega)]
    rfl

lemma foldl_retransmitGap (s : SRSender) (msg : ControlMessage) (now : Clock) :
    ((listedGaps msg).take msg.numGaps.toNat).foldl (retransmitGap s.totalChunks now) (s, 0)
      = (requestedChunks s.totalChunks msg).foldl (retransmitListed 8 now) (s, 0) := by
  rw [requestedChunks, List.foldl_flatMap]
  rfl

lemma take_listedGaps (msg : ControlMessage) {n : ℕ} (hn : 16 ≤ n) :
    (listedGaps msg).take n = (listedGaps msg).take 16 := by
  rw [List.take_of_length_le (by rw [length_listedGaps]; exact hn),
    List.take_of_length_le (length_listedGaps msg).le]

/-- The loop over the first `n` gaps, when the arrays have that many. -/
lemma gapLoopIn_eq (hmtu : s.mtuBytes ≠ 0) (msg : ControlMessage) (now : Clock) {n : ℕ}
    (hn : n ≤ 16) :
    (List.range n).foldlM (gapRoundIn s.totalChunks msg now) (s, 0)
      = some (((listedGaps msg).take n).foldl (retransmitGap s.totalChunks now) (s, 0)) := by
  have hread : ∀ acc : SRSender × ℕ, ∀ i ∈ List.range n,
      gapRoundIn s.totalChunks msg now acc i = ((listedGaps msg)[i]?).bind fun gap =>
        if acc.2 < 8 then retransmitGapIn s.totalChunks now acc gap else some acc := by
    intro acc i hi
    have hlist : i < (listedGaps msg).length :=
      (length_listedGaps msg).symm ▸ (List.mem_range.mp hi).trans_le hn
    rw [gapRoundIn, readGap_eq, List.getElem?_eq_getElem hlist]
    rfl
  rw [foldlM_congr hread, foldlM_range_getElem? _ _ ((length_listedGaps msg).symm ▸ hn)]
  refine foldlM_eq_foldl (P := fun acc : SRSender × ℕ => Continues s acc.1)
    (fun acc gap _ h => ?_) (fun acc gap _ h => ?_) (transmits_continues.refl s)
  · rw [← h.totalChunks]
    exact retransmitGapIn_eq (h.mtuBytes ▸ hmtu) now gap
  · exact transmits_continues.trans h (continues_retransmitGap s.totalChunks now acc gap)

/-- The gaps are read inside their arrays when there are at most 16, or when 8 chunks of the first
16 are due. -/
def GapsInside (s : SRSender) (msg : ControlMessage) (now : Clock) : Prop :=
  msg.numGaps.toNat ≤ 16 ∨ 8 ≤ (s.dueChunks now (requestedChunks s.totalChunks msg)).length

lemma retransmitGapsIn_eq (hmtu : s.mtuBytes ≠ 0) (hs : s.Sized) {msg : ControlMessage}
    {now : Clock} (h : s.GapsInside msg now) :
    s.retransmitGapsIn msg now = some (s.retransmitGaps msg now) := by
  rw [retransmitGaps_eq, ← foldl_retransmitGap, retransmitGapsIn]
  rcases le_or_gt msg.numGaps.toNat 16 with hfew | hmany
  · rw [gapLoopIn_eq hmtu msg now hfew]
    rfl
  · have hsent := (hs.gapLoop msg now).2.trans
      (min_eq_left (h.resolve_left (not_le.mpr hmany)))
    rw [← foldl_retransmitGap, take_listedGaps msg hmany.le] at hsent
    rw [take_listedGaps msg hmany.le, ← Nat.add_sub_of_le hmany.le, List.range_add,
      List.foldlM_append, gapLoopIn_eq hmtu msg now le_rfl, Option.bind_eq_bind,
      Option.bind_eq_bind, Option.bind_some,
      foldlM_eq_self fun i _ => if_neg (by rw [hsent]; decide)]
    rfl

/-- The 17th gap is read outside the arrays. -/
lemma gapsInside_of_defined (hmtu : s.mtuBytes ≠ 0) (hs : s.Sized) {msg : ControlMessage}
    {now : Clock} {s' : SRSender} (h : s.retransmitGapsIn msg now = some s') :
    s.GapsInside msg now := by
  by_contra houtside
  obtain ⟨hmany, hfew⟩ := not_or.mp houtside
  have hsent := (hs.gapLoop msg now).2
  rw [← foldl_retransmitGap, take_listedGaps msg (by omega)] at hsent
  -- the round of the 17th gap comes next
  obtain ⟨more, hmore⟩ : ∃ more, msg.numGaps.toNat = 16 + (more + 1) :=
    ⟨msg.numGaps.toNat - 17, by omega⟩
  have hnone : gapRoundIn s.totalChunks msg now
      (((listedGaps msg).take 16).foldl (retransmitGap s.totalChunks now) (s, 0)) (16 + 0)
      = none := by
    rw [gapRoundIn, if_pos (by omega), Vector.getElem?_eq_none (by omega)]
    rfl
  rw [retransmitGapsIn, hmore, List.range_add, List.foldlM_append, gapLoopIn_eq hmtu msg now le_rfl,
    Option.bind_eq_bind, Option.bind_eq_bind, Option.bind_some, List.range_succ_eq_map,
    List.map_cons, List.foldlM_cons, hnone] at h
  exact absurd h (by simp)

/-! ### The accesses of a poll -/

lemma mtuBytes_merge (s : SRSender) (msg : ControlMessage) :
    (s.merge msg).mtuBytes = s.mtuBytes := (s.continues_merge msg).mtuBytes

/-- The two loops that follow every report. -/
lemma reportLoopsIn_eq (hmtu : s.mtuBytes ≠ 0) (now : Clock) :
    (do
      let s ← s.retransmitMissingFromBitmapIn 4 now
      advanceWindowIn now (s.totalChunks - s.nextChunkToSend) s)
      = some (advanceWindow now ((s.retransmitMissingFromBitmap 4 now).totalChunks
          - (s.retransmitMissingFromBitmap 4 now).nextChunkToSend)
        (s.retransmitMissingFromBitmap 4 now)) := by
  have hswept : (s.retransmitMissingFromBitmap 4 now).mtuBytes ≠ 0 := by
    rw [(transmits_continues.missing s 4 now).mtuBytes]
    exact hmtu
  rw [retransmitMissingFromBitmapIn_eq hmtu, Option.bind_eq_bind, Option.bind_some]
  exact advanceWindowIn_eq now _ hswept

/-- A report whose gaps are not read stays inside the arrays. -/
lemma onSrAckIn_eq (hmtu : s.mtuBytes ≠ 0) (msg : ControlMessage) (now : Clock) :
    s.onSrAckIn msg now = some (s.onSrAck msg now) := by
  have hmerge := s.mergeIn_eq msg
  have hloops := reportLoopsIn_eq (s := s.merge msg) (s.mtuBytes_merge msg ▸ hmtu) now
  simp only [Option.bind_eq_bind] at hmerge hloops
  simp only [onSrAckIn, Option.bind_eq_bind, ← Option.bind_assoc, hmerge, Option.bind_some]
  exact hloops

lemma onSrNackIn_bind (s : SRSender) (msg : ControlMessage) (now : Clock) : s.onSrNackIn msg now
    = ((s.merge msg).retransmitGapsIn msg now).bind (fun s => do
        let s ← s.retransmitMissingFromBitmapIn 4 now
        advanceWindowIn now (s.totalChunks - s.nextChunkToSend) s) := by
  have hmerge := s.mergeIn_eq msg
  simp only [Option.bind_eq_bind] at hmerge
  simp only [onSrNackIn, Option.bind_eq_bind, ← Option.bind_assoc, hmerge, Option.bind_some]

/-- An SR_NACK stays inside the arrays exactly when its gaps do. -/
lemma onSrNackIn_eq_some (hmtu : s.mtuBytes ≠ 0) (hs : s.Sized) {msg : ControlMessage} {now : Clock}
    {s' : SRSender} : s.onSrNackIn msg now = some s' ↔
      (s.merge msg).GapsInside msg now ∧ s' = s.onSrNack msg now := by
  have hmtu' : (s.merge msg).mtuBytes ≠ 0 := s.mtuBytes_merge msg ▸ hmtu
  have hsized := (s.continues_merge msg).sized hs
  have hgaps : ((s.merge msg).retransmitGaps msg now).mtuBytes ≠ 0 :=
    (transmits_continues.gaps (s.merge msg) msg now).mtuBytes ▸ hmtu'
  rw [onSrNackIn_bind]
  constructor
  · intro h
    obtain ⟨s₁, hs₁, hloops⟩ := Option.bind_eq_some_iff.mp h
    have hinside := gapsInside_of_defined hmtu' hsized hs₁
    rw [retransmitGapsIn_eq hmtu' hsized hinside] at hs₁
    obtain rfl := Option.some.inj hs₁
    rw [reportLoopsIn_eq hgaps] at hloops
    exact ⟨hinside, (Option.some.inj hloops).symm⟩
  · rintro ⟨hinside, rfl⟩
    rw [retransmitGapsIn_eq hmtu' hsized hinside, Option.bind_some, reportLoopsIn_eq hgaps]
    rfl

lemma retransmitOverdueIn_eq (hmtu : s.mtuBytes ≠ 0) {c : ℕ} (hc : c < s.totalChunks)
    (effectiveRtoMs t : ℕ) (now : Clock) : retransmitOverdueIn effectiveRtoMs t now s c
      = some (retransmitOverdue effectiveRtoMs t now s c) := by
  have htotal := (transmits_continues.retransmitRange s c now).totalChunks
  rw [retransmitOverdueIn, retransmitOverdue, ackedAt, lastTxAt, if_pos hc, if_pos hc,
    retransmitRangeIn_eq hmtu]
  simp only [Option.bind_eq_bind, Option.bind_some]
  by_cases hacked : s.chunkAcked c = true
  · simp [hacked]
  · by_cases hdue : (effectiveRtoMs : ℤ) < elapsedMs t (s.lastTx c)
    · rw [if_neg hacked, if_pos hdue, if_pos ⟨by simpa using hacked, hdue⟩, stampAt, htotal,
        if_pos hc]
    · simp [hacked, hdue]

lemma onTimeoutIn_eq (hmtu : s.mtuBytes ≠ 0) (now : Clock) :
    s.onTimeoutIn now = some (s.onTimeout now) := by
  refine foldlM_eq_foldl (P := Continues s) (fun s' c hc h => ?_) (fun s' c _ h => ?_)
    (transmits_continues.tick s)
  · exact retransmitOverdueIn_eq (h.mtuBytes ▸ hmtu)
      (h.totalChunks ▸ List.mem_range.mp hc) s.effectiveRtoMs _ now
  · exact transmits_continues.trans h (transmits_continues.overdue _ _ now s' c)

end SRSender

namespace SRPoll

/-- The gaps of an SR_NACK that `poll` itself receives are read inside their arrays. -/
def ReadsInside (p : SRPoll) (now : Clock) (event : ChannelEvent) : Prop :=
  p.state = .main → ∀ own msg, event.seen p.connected = .message own msg →
    msg.msgType = .srNack → (p.sender.merge msg).GapsInside msg now

/-- A step is defined exactly when the gaps are inside, and then it is the step. -/
lemma stepIn_eq_some {p p' : SRPoll} (hmtu : p.sender.mtuBytes ≠ 0) (hs : p.sender.Sized)
    (now : Clock) (event : ChannelEvent) :
    p.stepIn now event = some p' ↔ p.ReadsInside now event ∧ p' = p.step now event := by
  have hdefined : ∀ {q : SRPoll} {P : Prop}, P → (some q = some p' ↔ P ∧ p' = q) := fun hP =>
    ⟨fun h => ⟨hP, (Option.some.inj h).symm⟩, fun h => congrArg some h.2.symm⟩
  unfold stepIn step ReadsInside
  dsimp only
  generalize event.seen p.connected = event
  cases p.state with
  | returned rc => exact hdefined fun h => absurd h (by simp)
  | sendPoll afterTimeout =>
    cases sendPollRound event with
    | none => exact hdefined fun h => absurd h (by simp)
    | some rc =>
      dsimp only
      split_ifs
      · exact hdefined fun h => absurd h (by simp)
      · rw [SRSender.onTimeoutIn_eq hmtu]
        exact hdefined fun h => absurd h (by simp)
      · exact hdefined fun h => absurd h (by simp)
  | main =>
    cases event with
    | timeout => exact hdefined fun _ own msg h => absurd h (by simp)
    | disconnected => exact hdefined fun _ own msg h => absurd h (by simp)
    | message own msg =>
      dsimp only
      cases htype : msg.msgType
      case srAck =>
        dsimp only
        rw [SRSender.onSrAckIn_eq hmtu]
        exact hdefined fun _ own' msg' h hnack => by
          obtain ⟨-, rfl⟩ := ChannelEvent.message.inj h
          exact absurd (htype.symm.trans hnack) (by simp)
      case srNack =>
        simp only [Option.bind_eq_bind, Option.bind_eq_some_iff, Option.some.injEq,
          SRSender.onSrNackIn_eq_some hmtu hs, ChannelEvent.message.injEq]
        constructor
        · rintro ⟨s', ⟨hinside, rfl⟩, rfl⟩
          exact ⟨fun _ own' msg' h _ => h.2 ▸ hinside, rfl⟩
        · rintro ⟨hinside, rfl⟩
          exact ⟨_, ⟨hinside trivial own msg ⟨rfl, rfl⟩ htype, rfl⟩, rfl⟩
      all_goals
        exact hdefined fun _ own' msg' h hnack => by
          obtain ⟨-, rfl⟩ := ChannelEvent.message.inj h
          exact absurd (htype.symm.trans hnack) (by simp)

/-- A sender in its polls, after `start_send` has returned 0. -/
inductive Reached : SRPoll → Prop
  | start (cfg : SRConfig) (handle : SDRSendHandle) (params : ConnectionParams) (now : Clock) :
    Reached ⟨SRSender.start cfg handle params now, true, .main⟩
  | receive {p p' : SRPoll} (now : Clock) (event : ChannelEvent) (h : Reached p)
    (hstep : p.stepIn now event = some p') : Reached p'
  | call {p : SRPoll} (h : Reached p) : Reached p.call

lemma Reached.sized {p : SRPoll} (h : p.Reached) : p.sender.mtuBytes ≠ 0 ∧ p.sender.Sized := by
  induction h with
  | start cfg handle params now =>
    exact ⟨(SRSender.mtuBytes_start_pos cfg handle params now).ne',
      SRSender.sized_start cfg handle params now⟩
  | receive now event h hstep ih =>
    rename_i p p'
    obtain ⟨-, rfl⟩ := (stepIn_eq_some ih.1 ih.2 now event).mp hstep
    have hcont : SRSender.Continues p.sender (p.step now event).sender :=
      SRSender.transmits_continues.step (fun _ _ _ =>
        ⟨rfl, rfl, rfl, rfl, rfl, [], (List.append_nil _).symm, by simp⟩) p now event
    exact ⟨hcont.mtuBytes ▸ ih.1, hcont.sized ih.2⟩
  | call h ih => exact ih

end SRPoll

end SdrUdp
