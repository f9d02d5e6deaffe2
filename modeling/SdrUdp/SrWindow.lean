import Mathlib.Data.Finset.Card
import Mathlib.Data.List.Induction
import SdrUdp.Completion
import SdrUdp.FirstWindow

/-!
# The window of selective repeat

Every loop of `SRSender` that transmits chunks is followed by the list of what it transmits. The
loops that retransmit do not look at the window.
-/

namespace SdrUdp

open SdrUdp.Core

/-- A chunk that is transmitted, with `ack_base_` at that moment and the time that is recorded for
it. -/
structure Transmission where
  chunk : ℕ
  ackBase : ℕ
  time : ℕ
  deriving DecidableEq

/-! ### What the loops transmit -/

namespace SRSender

/-- At the reading `t` of the clock, the chunk is not acknowledged and was not sent a moment ago. -/
def Stale (s : SRSender) (t c : ℕ) : Prop :=
  s.chunkAcked c = false ∧ guardMs ≤ elapsedMs t (s.lastTx c)

instance (s : SRSender) (t c : ℕ) : Decidable (s.Stale t c) :=
  inferInstanceAs (Decidable (_ ∧ _))

/-- At the reading `t` of the clock, the chunk is not acknowledged and its last transmission is
older than the timeout. -/
def Overdue (s : SRSender) (t c : ℕ) : Prop :=
  s.chunkAcked c = false ∧ (s.effectiveRtoMs : ℤ) < elapsedMs t (s.lastTx c)

instance (s : SRSender) (t c : ℕ) : Decidable (s.Overdue t c) :=
  inferInstanceAs (Decidable (_ ∧ _))

/-- The transmission of chunk `c` in a round that makes `s'` of `s`. -/
def transmission (s s' : SRSender) (c : ℕ) : Transmission := ⟨c, s.ackBase, s'.lastTx c⟩

/-- What a round of `retransmitStale` transmits. -/
def staleOut (limit t : ℕ) (now : Clock) (acc : SRSender × ℕ) (c : ℕ) : List Transmission :=
  if acc.2 < limit ∧ acc.1.Stale t c then
    [acc.1.transmission (acc.1.retransmitRange c 1 now) c]
  else []

/-- What `retransmit_missing_from_bitmap` transmits. -/
def missingOut (s : SRSender) (limit : ℕ) (now : Clock) : List Transmission :=
  emitted (retransmitStale limit (now s.ticks) now) (staleOut limit (now s.ticks) now)
    (List.range s.totalChunks) (s.tick, 0)

/-- The chunks in the gaps of an SR_NACK, in the order in which they are looked at. -/
def requestedChunks (totalChunks : ℕ) (msg : ControlMessage) : List ℕ :=
  ((msg.gapStart.toList.zip msg.gapLen.toList).take msg.numGaps.toNat).flatMap fun gap =>
    List.range' gap.1.toNat (min (gap.1.toNat + gap.2.toNat) totalChunks - gap.1.toNat)

/-- What a round of the loop over the chunks of a gap transmits. -/
def listedOut (limit : ℕ) (now : Clock) (acc : SRSender × ℕ) (c : ℕ) : List Transmission :=
  if acc.2 < limit ∧ acc.1.chunkAcked c = false then
    staleOut limit (now acc.1.ticks) now (acc.1.tick, acc.2) c
  else []

/-- What the loop over the gaps transmits. -/
def gapsOut (s : SRSender) (msg : ControlMessage) (now : Clock) : List Transmission :=
  emitted (retransmitListed 8 now) (listedOut 8 now) (requestedChunks s.totalChunks msg) (s, 0)

/-- What the loop that opens the window transmits. -/
def windowOut (now : Clock) : ℕ → SRSender → List Transmission
  | 0, _ => []
  | fuel + 1, s =>
    let next := s.nextChunkToSend
    if next < s.totalChunks ∧ next < (s.ackBase + s.maxInflight) % 2 ^ 32 then
      if s.chunkAcked next = false then
        let s' := s.retransmitRange next 1 now
        s.transmission s' next :: windowOut now fuel { s' with nextChunkToSend := next + 1 }
      else windowOut now fuel { s with nextChunkToSend := next + 1 }
    else []

/-- The acknowledgements of a message, with which all its loops start. -/
def merge (s : SRSender) (msg : ControlMessage) : SRSender :=
  (s.applyBitmap msg).applyCumulative msg

/-- The two loops that follow every report. -/
def reportOut (s : SRSender) (now : Clock) : List Transmission :=
  let swept := s.retransmitMissingFromBitmap 4 now
  s.missingOut 4 now ++ windowOut now (swept.totalChunks - swept.nextChunkToSend) swept

def ackOut (s : SRSender) (msg : ControlMessage) (now : Clock) : List Transmission :=
  (s.merge msg).reportOut now

def nackOut (s : SRSender) (msg : ControlMessage) (now : Clock) : List Transmission :=
  (s.merge msg).gapsOut msg now ++ ((s.merge msg).retransmitGaps msg now).reportOut now

/-- What a round of the loop after a timeout transmits. -/
def overdueOut (effectiveRtoMs t : ℕ) (now : Clock) (s : SRSender) (c : ℕ) : List Transmission :=
  if s.chunkAcked c = false ∧ (effectiveRtoMs : ℤ) < elapsedMs t (s.lastTx c) then
    [s.transmission (retransmitOverdue effectiveRtoMs t now s c) c]
  else []

/-- What the loop after a timeout transmits. -/
def timeoutOut (s : SRSender) (now : Clock) : List Transmission :=
  emitted (retransmitOverdue s.effectiveRtoMs (now s.ticks) now)
    (overdueOut s.effectiveRtoMs (now s.ticks) now) (List.range s.totalChunks) s.tick

lemma retransmitStale_eq (limit t : ℕ) (now : Clock) (acc : SRSender × ℕ) (c : ℕ) :
    retransmitStale limit t now acc c = if acc.2 < limit ∧ acc.1.Stale t c then
      (acc.1.retransmitRange c 1 now, acc.2 + 1) else acc := rfl

lemma onSrAck_eq (s : SRSender) (msg : ControlMessage) (now : Clock) : s.onSrAck msg now
    = advanceWindow now (((s.merge msg).retransmitMissingFromBitmap 4 now).totalChunks
        - ((s.merge msg).retransmitMissingFromBitmap 4 now).nextChunkToSend)
      ((s.merge msg).retransmitMissingFromBitmap 4 now) := rfl

lemma retransmitGaps_eq (s : SRSender) (msg : ControlMessage) (now : Clock) :
    s.retransmitGaps msg now
      = ((requestedChunks s.totalChunks msg).foldl (retransmitListed 8 now) (s, 0)).1 := by
  rw [requestedChunks, List.foldl_flatMap]
  rfl

/-! ### The lists are what is sent -/

/-- The packets of a chunk, as `retransmit_range` sends them. -/
def chunkPackets (s : SRSender) (c : ℕ) : List SDRPacket :=
  (s.packetRange c 1).elim [] fun range =>
    ({ s with sent := [] }.sendPacketsRange range.1 range.2).sent

/-- The packets of several transmissions. -/
def packets (s : SRSender) (out : List Transmission) : List SDRPacket :=
  out.flatMap fun t => s.chunkPackets t.chunk

lemma packets_append (s : SRSender) (out out' : List Transmission) :
    s.packets (out ++ out') = s.packets out ++ s.packets out' := List.flatMap_append

lemma packets_singleton (s : SRSender) (t : Transmission) :
    s.packets [t] = s.chunkPackets t.chunk := List.flatMap_singleton _ _

lemma sent_retransmitRange_one (s : SRSender) (c : ℕ) (now : Clock) :
    (s.retransmitRange c 1 now).sent = s.sent ++ s.chunkPackets c := by
  rw [retransmitRange_eq, chunkPackets]
  cases s.packetRange c 1 with
  | none => exact (List.append_nil _).symm
  | some range => rfl

namespace Continues

variable {s s' : SRSender} (h : Continues s s')
include h

lemma packetRange_eq (startChunk count : ℕ) :
    s'.packetRange startChunk count = s.packetRange startChunk count := by
  unfold packetRange
  rw [h.handle, h.packetsPerChunk, h.mtuBytes]

lemma chunkPackets_eq (c : ℕ) : s'.chunkPackets c = s.chunkPackets c := by
  unfold chunkPackets sendPacketsRange
  rw [h.packetRange_eq, h.handle, h.packetsPerChunk, h.mtuBytes, h.params]

lemma packets_eq (out : List Transmission) : s'.packets out = s.packets out := by
  unfold packets
  congr 1
  funext t
  exact h.chunkPackets_eq t.chunk

end Continues

lemma sent_retransmitStale (limit t : ℕ) (now : Clock) (acc : SRSender × ℕ) (c : ℕ) :
    (retransmitStale limit t now acc c).1.sent
      = acc.1.sent ++ acc.1.packets (staleOut limit t now acc c) := by
  rw [retransmitStale_eq, staleOut]
  split_ifs
  · rw [sent_retransmitRange_one, packets_singleton]
    rfl
  · exact (List.append_nil _).symm

lemma sent_missing (s : SRSender) (limit : ℕ) (now : Clock) :
    (s.retransmitMissingFromBitmap limit now).sent
      = s.sent ++ s.packets (s.missingOut limit now) := by
  refine foldl_log (I := fun acc : SRSender × ℕ => Continues s acc.1)
    (fun acc : SRSender × ℕ => acc.1.sent) (fun acc c h => ?_) (fun acc c h => ?_)
    (transmits_continues.tick s)
  · exact transmits_continues.trans h (transmits_continues.stale limit _ now acc c)
  · rw [sent_retransmitStale, h.packets_eq]
    rfl

lemma sent_retransmitListed (limit : ℕ) (now : Clock) (acc : SRSender × ℕ) (c : ℕ) :
    (retransmitListed limit now acc c).1.sent
      = acc.1.sent ++ acc.1.packets (listedOut limit now acc c) := by
  unfold retransmitListed listedOut
  split_ifs
  · rw [sent_retransmitStale, (transmits_continues.tick acc.1).packets_eq]
    rfl
  · exact (List.append_nil _).symm

lemma sent_retransmitGaps (s : SRSender) (msg : ControlMessage) (now : Clock) :
    (s.retransmitGaps msg now).sent = s.sent ++ s.packets (s.gapsOut msg now) := by
  rw [retransmitGaps_eq]
  refine foldl_log (I := fun acc : SRSender × ℕ => Continues s acc.1)
    (fun acc : SRSender × ℕ => acc.1.sent) (fun acc c h => ?_) (fun acc c h => ?_)
    (transmits_continues.refl s)
  · exact transmits_continues.trans h (transmits_continues.listed 8 now acc c)
  · rw [sent_retransmitListed, h.packets_eq]
    rfl

lemma sent_advanceWindow (now : Clock) (fuel : ℕ) (s : SRSender) :
    (advanceWindow now fuel s).sent = s.sent ++ s.packets (windowOut now fuel s) := by
  induction fuel generalizing s with
  | zero => exact (List.append_nil _).symm
  | succ fuel ih =>
    unfold advanceWindow windowOut
    dsimp only
    split_ifs with hnext hacked
    · have h : Continues s { s.retransmitRange s.nextChunkToSend 1 now with
          nextChunkToSend := s.nextChunkToSend + 1 } := transmits_continues.openChunk now s _
      rw [ih, h.packets_eq]
      dsimp only
      rw [sent_retransmitRange_one, List.append_assoc]
      rfl
    · have h : Continues s { s with nextChunkToSend := s.nextChunkToSend + 1 } :=
        transmits_continues.window _ _
      rw [ih, h.packets_eq]
    · exact (List.append_nil _).symm

lemma sent_reportOut (s : SRSender) (now : Clock) :
    (advanceWindow now ((s.retransmitMissingFromBitmap 4 now).totalChunks
        - (s.retransmitMissingFromBitmap 4 now).nextChunkToSend)
      (s.retransmitMissingFromBitmap 4 now)).sent = s.sent ++ s.packets (s.reportOut now) := by
  rw [sent_advanceWindow, sent_missing, (transmits_continues.missing s 4 now).packets_eq, reportOut,
    packets_append, List.append_assoc]

lemma continues_merge (s : SRSender) (msg : ControlMessage) : Continues s (s.merge msg) :=
  transmits_continues.acks
    (fun _ _ _ => ⟨rfl, rfl, rfl, rfl, rfl, [], (List.append_nil _).symm, by simp⟩) s msg

lemma sent_merge (s : SRSender) (msg : ControlMessage) : (s.merge msg).sent = s.sent := by
  unfold merge applyCumulative
  dsimp only
  split_ifs <;> rfl

lemma sent_onSrAck (s : SRSender) (msg : ControlMessage) (now : Clock) :
    (s.onSrAck msg now).sent = s.sent ++ s.packets (s.ackOut msg now) := by
  rw [onSrAck_eq, sent_reportOut, sent_merge, (s.continues_merge msg).packets_eq]
  rfl

lemma sent_onSrNack (s : SRSender) (msg : ControlMessage) (now : Clock) :
    (s.onSrNack msg now).sent = s.sent ++ s.packets (s.nackOut msg now) := by
  have hgaps := transmits_continues.gaps (s.merge msg) msg now
  refine (sent_reportOut ((s.merge msg).retransmitGaps msg now) now).trans ?_
  rw [sent_retransmitGaps, sent_merge, hgaps.packets_eq, (s.continues_merge msg).packets_eq,
    (s.continues_merge msg).packets_eq, nackOut, packets_append, List.append_assoc]

lemma sent_onTimeout (s : SRSender) (now : Clock) :
    (s.onTimeout now).sent = s.sent ++ s.packets (s.timeoutOut now) := by
  refine foldl_log (I := Continues s) SRSender.sent (fun s' c h => ?_) (fun s' c h => ?_)
    (transmits_continues.tick s)
  · exact transmits_continues.trans h (transmits_continues.overdue _ _ now s' c)
  · unfold retransmitOverdue overdueOut
    split_ifs
    · dsimp only
      rw [sent_retransmitRange_one, List.flatMap_singleton, h.chunkPackets_eq]
      rfl
    · exact (List.append_nil _).symm

end SRSender

namespace SRPoll

/-- What `step` transmits. -/
def transmissions (p : SRPoll) (now : Clock) (event : ChannelEvent) : List Transmission :=
  let event := event.seen p.connected
  match p.state with
  | .returned _ => []
  | .sendPoll afterTimeout =>
    match sendPollRound event with
    | none    => []
    | some rc => if rc = 0 then [] else if afterTimeout then p.sender.timeoutOut now else []
  | .main =>
    match event with
    | .message _ msg =>
      match msg.msgType with
      | .srAck  => p.sender.ackOut msg now
      | .srNack => p.sender.nackOut msg now
      | _       => []
    | _ => []

/-- The packets that a step hands to the network are those of its transmissions. -/
theorem sent_step (p : SRPoll) (now : Clock) (event : ChannelEvent) :
    (p.step now event).sender.sent
      = p.sender.sent ++ p.sender.packets (p.transmissions now event) := by
  unfold step transmissions
  dsimp only
  cases hstate : p.state with
  | returned rc => exact (List.append_nil _).symm
  | sendPoll afterTimeout =>
    dsimp only
    cases sendPollRound (event.seen p.connected) with
    | none => exact (List.append_nil _).symm
    | some rc =>
      dsimp only
      split_ifs
      · exact (List.append_nil _).symm
      · exact p.sender.sent_onTimeout now
      · exact (List.append_nil _).symm
  | main =>
    dsimp only
    cases event.seen p.connected with
    | timeout => exact (List.append_nil _).symm
    | disconnected => exact (List.append_nil _).symm
    | message own msg =>
      dsimp only
      cases msg.msgType
      case srAck => exact p.sender.sent_onSrAck msg now
      case srNack => exact p.sender.sent_onSrNack msg now
      all_goals exact (List.append_nil _).symm

end SRPoll

/-! ### What a retransmission loop picks -/

namespace SRSender

/-- Every chunk starts inside the message. -/
def Sized (s : SRSender) : Prop :=
  ∀ c < s.totalChunks, c * (s.packetsPerChunk.toNat * s.mtuBytes) < s.handle.userBuffer.length

lemma Continues.sized {s s' : SRSender} (h : Continues s s') (hs : s.Sized) : s'.Sized := by
  intro c hc
  rw [h.packetsPerChunk, h.mtuBytes, h.handle]
  exact hs c (h.totalChunks ▸ hc)

/-- A chunk of the message is sent at the next reading of the clock. -/
lemma Sized.retransmitRange {s : SRSender} (hs : s.Sized) {c : ℕ} (hc : c < s.totalChunks)
    (now : Clock) : (s.retransmitRange c 1 now).lastTx = Function.update s.lastTx c (now s.ticks) ∧
      (s.retransmitRange c 1 now).ticks = s.ticks + 1 := by
  have hrange : s.packetRange c 1 ≠ none := by
    unfold packetRange
    dsimp only
    rw [if_neg (not_le.mpr (hs c hc))]
    exact Option.some_ne_none _
  rw [retransmitRange_eq]
  cases hrange' : s.packetRange c 1 with
  | none => exact absurd hrange' hrange
  | some range =>
    refine ⟨funext fun d => ?_, rfl⟩
    rw [Function.update_apply]
    exact if_congr (by omega) rfl rfl

lemma lastTx_retransmitRange_of_ne (s : SRSender) {c d : ℕ} (h : d ≠ c) (now : Clock) :
    (s.retransmitRange c 1 now).lastTx d = s.lastTx d := by
  unfold SRSender.retransmitRange
  split
  · rfl
  · exact if_neg fun hd => h (by omega)

/-- Number of stale chunks below `n`. -/
def staleBelow (s : SRSender) (t n : ℕ) : ℕ := (List.range n).countP (s.Stale t ·)

/-- The loop over the first `n` chunks sends the stale ones, up to `limit`, and does not touch the
others. -/
lemma staleLoop_range (s : SRSender) (limit t : ℕ) (now : Clock) (n : ℕ) :
    SameAcks s ((List.range n).foldl (retransmitStale limit t now) (s, 0)).1 ∧
      (∀ d, n ≤ d → ((List.range n).foldl (retransmitStale limit t now) (s, 0)).1.lastTx d
        = s.lastTx d) ∧
      ((List.range n).foldl (retransmitStale limit t now) (s, 0)).2
        = min limit (s.staleBelow t n) := by
  induction n with
  | zero => exact ⟨transmits_sameAcks.refl s, fun _ _ => rfl, (Nat.min_zero limit).symm⟩
  | succ n ih =>
    obtain ⟨hsame, hlast, hcount⟩ := ih
    rw [List.range_succ, List.foldl_append, List.foldl_cons, List.foldl_nil, staleBelow,
      List.range_succ, List.countP_append, List.countP_singleton, ← staleBelow]
    generalize (List.range n).foldl (retransmitStale limit t now) (s, 0) = acc
      at hsame hlast hcount ⊢
    have hstale : acc.1.Stale t n ↔ s.Stale t n := by
      rw [Stale, Stale, hsame.chunkAcked, hlast n le_rfl]
    refine ⟨transmits_sameAcks.trans hsame (transmits_sameAcks.stale limit t now acc n),
      fun d hd => ?_, ?_⟩
    · rw [retransmitStale_eq, ← hlast d (by omega)]
      split_ifs
      · exact lastTx_retransmitRange_of_ne _ (by omega) now
      · rfl
    · rw [retransmitStale_eq]
      by_cases hn : acc.1.Stale t n
      · rw [if_pos (decide_eq_true (hstale.mp hn))]
        by_cases hlimit : acc.2 < limit
        · rw [if_pos ⟨hlimit, hn⟩]
          dsimp only
          omega
        · rw [if_neg fun h => hlimit h.1]
          omega
      · rw [if_neg fun h => hn h.2, if_neg fun h => hn (hstale.mpr (of_decide_eq_true h)),
          Nat.add_zero]
        exact hcount

/-- The chunks of a list that a loop finds stale when it reads the clock for each of them, and once
more after each one that it has found, as it has sent that one. -/
def dueAt (now : Clock) : List ℕ → ℕ → (ℕ → ℕ) → List ℕ
  | [], _, _ => []
  | c :: chunks, ticks, lastTx =>
    if guardMs ≤ elapsedMs (now ticks) (lastTx c) then
      c :: dueAt now chunks (ticks + 2) (Function.update lastTx c (now (ticks + 1)))
    else dueAt now chunks (ticks + 1) lastTx

/-- The chunks of a list that are not acknowledged and are due when the loop comes to them. -/
def dueChunks (s : SRSender) (now : Clock) (chunks : List ℕ) : List ℕ :=
  dueAt now (chunks.filter fun c => !s.chunkAcked c) s.ticks s.lastTx

lemma dueChunks_cons_of_acked {s : SRSender} {c : ℕ} (hacked : s.chunkAcked c ≠ false) (now : Clock)
    (chunks : List ℕ) : s.dueChunks now (c :: chunks) = s.dueChunks now chunks := by
  rw [dueChunks, List.filter_cons_of_neg (by simpa using hacked)]
  rfl

/-- The chunks that are due when chunk `c` has been found stale and sent. -/
def dueAfter (s : SRSender) (now : Clock) (c : ℕ) (chunks : List ℕ) : List ℕ :=
  dueAt now (chunks.filter fun c => !s.chunkAcked c) (s.ticks + 2)
    (Function.update s.lastTx c (now (s.ticks + 1)))

lemma dueChunks_cons {s : SRSender} {c : ℕ} (hacked : s.chunkAcked c = false) (now : Clock)
    (chunks : List ℕ) : s.dueChunks now (c :: chunks)
      = if guardMs ≤ elapsedMs (now s.ticks) (s.lastTx c) then c :: s.dueAfter now c chunks
        else s.tick.dueChunks now chunks := by
  rw [dueChunks, List.filter_cons_of_pos (by simpa using hacked)]
  rfl

lemma Sized.dueChunks_sent {s : SRSender} (hs : s.Sized) {c : ℕ} (hc : c < s.totalChunks)
    (now : Clock) (chunks : List ℕ) :
    (s.tick.retransmitRange c 1 now).dueChunks now chunks = s.dueAfter now c chunks := by
  have hsend := ((transmits_continues.tick s).sized hs).retransmitRange hc now
  rw [dueChunks, (transmits_sameAcks.retransmitRange s.tick c now).chunkAcked, hsend.1, hsend.2]
  rfl

/-- A round that passes over its chunk, as it is acknowledged or enough has been sent. -/
lemma retransmitListed_idle {limit c : ℕ} {acc : SRSender × ℕ}
    (h : ¬ (acc.2 < limit ∧ acc.1.chunkAcked c = false)) (now : Clock) :
    retransmitListed limit now acc c = acc ∧ listedOut limit now acc c = [] :=
  ⟨if_neg h, if_neg h⟩

/-- The loop over the gaps sends the first chunks that are due. -/
lemma Sized.listedLoop {chunks : List ℕ} {acc : SRSender × ℕ} (hs : acc.1.Sized)
    (hchunks : ∀ c ∈ chunks, c < acc.1.totalChunks) (limit : ℕ) (now : Clock) :
    let sent := (acc.1.dueChunks now chunks).take (limit - acc.2)
    (emitted (retransmitListed limit now) (listedOut limit now) chunks acc).map Transmission.chunk
        = sent ∧
      (chunks.foldl (retransmitListed limit now) acc).2 = acc.2 + sent.length := by
  induction chunks generalizing acc with
  | nil => exact ⟨List.take_nil.symm, by simp [dueChunks, dueAt]⟩
  | cons c chunks ih =>
    obtain ⟨hc, hrest⟩ := List.forall_mem_cons.mp hchunks
    dsimp only
    rw [emitted, List.foldl_cons, List.map_append]
    by_cases hacked : acc.1.chunkAcked c = false
    swap
    · obtain ⟨hround, hout⟩ : retransmitListed limit now acc c = acc ∧ _ :=
        retransmitListed_idle (fun h => hacked h.2) now
      rw [hround, hout, dueChunks_cons_of_acked hacked]
      exact ih hs hrest
    by_cases hlimit : acc.2 < limit
    swap
    · obtain ⟨hround, hout⟩ : retransmitListed limit now acc c = acc ∧ _ :=
        retransmitListed_idle (fun h => hlimit h.1) now
      have h := ih hs hrest
      rw [Nat.sub_eq_zero_of_le (not_lt.mp hlimit)] at h ⊢
      rw [hround, hout]
      exact h
    -- the clock is read, and once more if the chunk is sent
    rw [retransmitListed, listedOut, if_pos ⟨hlimit, hacked⟩, if_pos ⟨hlimit, hacked⟩,
      retransmitStale_eq, staleOut, dueChunks_cons hacked]
    have htick : acc.1.tick.Stale (now acc.1.ticks) c
        ↔ guardMs ≤ elapsedMs (now acc.1.ticks) (acc.1.lastTx c) := and_iff_right hacked
    have hticked : acc.1.tick.Sized := (transmits_continues.tick acc.1).sized hs
    by_cases hguard : guardMs ≤ elapsedMs (now acc.1.ticks) (acc.1.lastTx c)
    · have hsent := transmits_continues.retransmitRange acc.1.tick c now
      have h := @ih (acc.1.tick.retransmitRange c 1 now, acc.2 + 1) (hsent.sized hticked)
        (hsent.totalChunks ▸ hrest)
      dsimp only at h
      rw [hs.dueChunks_sent hc] at h
      rw [if_pos hguard, if_pos ⟨hlimit, htick.mpr hguard⟩, if_pos ⟨hlimit, htick.mpr hguard⟩,
        show limit - acc.2 = limit - (acc.2 + 1) + 1 by omega, List.take_succ_cons]
      exact ⟨congrArg (c :: ·) h.1, by rw [h.2, List.length_cons]; omega⟩
    · rw [if_neg hguard, if_neg fun h => hguard (htick.mp h.2),
        if_neg fun h => hguard (htick.mp h.2)]
      exact @ih (acc.1.tick, acc.2) hticked hrest

end SRSender

/-! ### What stays inside the window -/

/-- A list of transmissions that stay inside a window of `window` chunks. -/
def InWindow (window : ℕ) (out : List Transmission) : Prop :=
  ∀ t ∈ out, t.chunk < t.ackBase + window

lemma inWindow_append {window : ℕ} {out out' : List Transmission} :
    InWindow window (out ++ out') ↔ InWindow window out ∧ InWindow window out' :=
  List.forall_mem_append

namespace SRSender

/-- At the reading `t`, each stale chunk from `bound` on has `limit` stale chunks below it. -/
def Covers (s : SRSender) (t limit bound : ℕ) : Prop :=
  ∀ c < s.totalChunks, s.Stale t c → bound ≤ c → limit ≤ s.staleBelow t c

lemma covers_of_fresh {s : SRSender} {t limit bound : ℕ}
    (h : ∀ c < s.totalChunks, ¬ s.Stale t c) : s.Covers t limit bound :=
  fun c hc hstale => absurd hstale (h c hc)

/-- The sweep over the bitmap stays inside the window when enough stale chunks come before the first
one beyond it. -/
lemma inWindow_missingOut (s : SRSender) (limit window : ℕ) (now : Clock) :
    InWindow window (s.missingOut limit now) ↔
      s.Covers (now s.ticks) limit (s.ackBase + window) := by
  unfold missingOut Covers
  generalize s.totalChunks = n
  induction n with
  | zero => exact iff_of_true (List.forall_mem_nil _) fun c hc => absurd hc (Nat.not_lt_zero c)
  | succ n ih =>
    obtain ⟨hsame, hlast, hcount⟩ := s.tick.staleLoop_range limit (now s.ticks) now n
    rw [List.range_succ, emitted_append, inWindow_append, ih, emitted, emitted, List.append_nil,
      Nat.forall_lt_succ_right]
    refine and_congr_right fun _ => ?_
    generalize (List.range n).foldl (retransmitStale limit (now s.ticks) now) (s.tick, 0) = acc
      at hsame hlast hcount ⊢
    have hstale : acc.1.Stale (now s.ticks) n ↔ s.Stale (now s.ticks) n := by
      rw [Stale, Stale, hsame.chunkAcked, hlast n le_rfl]
      rfl
    have hbelow : acc.2 = min limit (s.staleBelow (now s.ticks) n) := hcount
    have hround : InWindow window (staleOut limit (now s.ticks) now acc n) ↔
        (acc.2 < limit ∧ s.Stale (now s.ticks) n → n < s.ackBase + window) := by
      rw [staleOut, ← hstale]
      split_ifs with hsend
      · rw [InWindow, List.forall_mem_singleton, transmission, hsame.ackBase]
        exact ⟨fun h _ => h, fun h => h hsend⟩
      · exact iff_of_true (List.forall_mem_nil _) fun h => absurd h hsend
    rw [hround, hbelow]
    constructor
    · intro h hn hbound
      by_contra hfew
      exact absurd (h ⟨by omega, hn⟩) hbound.not_gt
    · rintro h ⟨hlimit, hn⟩
      by_contra hbound
      have := h hn (not_lt.mp hbound)
      omega

/-- Each chunk of the gaps from `bound` on that is due comes after 8 others. -/
def GapsCover (s : SRSender) (msg : ControlMessage) (now : Clock) (bound : ℕ) : Prop :=
  ∀ i c, (s.dueChunks now (requestedChunks s.totalChunks msg))[i]? = some c → bound ≤ c → 8 ≤ i

lemma gapsCover_of_fresh {s : SRSender} {msg : ControlMessage} {now : Clock} {bound : ℕ}
    (h : s.dueChunks now (requestedChunks s.totalChunks msg) = []) :
    s.GapsCover msg now bound := by
  intro i c hi
  rw [h] at hi
  exact absurd hi (by simp)

lemma lt_of_mem_requestedChunks {totalChunks c : ℕ} {msg : ControlMessage}
    (h : c ∈ requestedChunks totalChunks msg) : c < totalChunks := by
  obtain ⟨gap, -, hc⟩ := List.mem_flatMap.mp h
  have := List.mem_range'_1.mp hc
  omega

/-- The loop over the gaps sends the first 8 chunks that are due. -/
lemma Sized.gapLoop {s : SRSender} (hs : s.Sized) (msg : ControlMessage) (now : Clock) :
    let due := s.dueChunks now (requestedChunks s.totalChunks msg)
    (s.gapsOut msg now).map Transmission.chunk = due.take 8 ∧
      ((requestedChunks s.totalChunks msg).foldl (retransmitListed 8 now) (s, 0)).2
        = min 8 due.length := by
  intro due
  have h := @Sized.listedLoop (requestedChunks s.totalChunks msg) (s, 0) hs
    (fun _ hc => lt_of_mem_requestedChunks hc) 8 now
  refine ⟨h.1, h.2.trans ?_⟩
  rw [List.length_take]
  exact Nat.zero_add _

/-- All transmissions of the loop over the gaps see the same `ack_base_`. -/
lemma ackBase_of_mem_gapsOut {s : SRSender} {msg : ControlMessage} {now : Clock} {t : Transmission}
    (ht : t ∈ s.gapsOut msg now) : t.ackBase = s.ackBase := by
  refine forall_mem_emitted (I := fun acc : SRSender × ℕ => SameAcks s acc.1)
    (Q := fun t : Transmission => t.ackBase = s.ackBase)
    (fun acc c h => transmits_sameAcks.trans h (transmits_sameAcks.listed 8 now acc c))
    (fun acc c h t ht => ?_) (transmits_sameAcks.refl s) t ht
  unfold listedOut staleOut at ht
  split_ifs at ht
  · rw [List.mem_singleton.mp ht]
    exact h.ackBase
  · exact absurd ht List.not_mem_nil
  · exact absurd ht List.not_mem_nil

/-- The loop over the gaps stays inside the window when 8 chunks are due before the first one beyond
it. -/
lemma inWindow_gapsOut {s : SRSender} (hs : s.Sized) (msg : ControlMessage) (now : Clock)
    (window : ℕ) :
    InWindow window (s.gapsOut msg now) ↔ s.GapsCover msg now (s.ackBase + window) := by
  have hsent : InWindow window (s.gapsOut msg now) ↔
      ∀ c ∈ (s.dueChunks now (requestedChunks s.totalChunks msg)).take 8,
        c < s.ackBase + window := by
    rw [← (hs.gapLoop msg now).1, List.forall_mem_map]
    refine forall₂_congr fun t ht => ?_
    rw [ackBase_of_mem_gapsOut ht]
  rw [hsent, GapsCover]
  generalize s.dueChunks now (requestedChunks s.totalChunks msg) = due
  constructor
  · intro h i c hi hbound
    by_contra hfew
    refine absurd (h c (List.mem_of_getElem? (i := i) ?_)) hbound.not_gt
    rw [List.getElem?_take_of_lt (not_le.mp hfew), hi]
  · intro h c hc
    by_contra hbound
    obtain ⟨i, hi⟩ := List.getElem?_of_mem hc
    rw [List.getElem?_take] at hi
    split_ifs at hi with hlt
    exact absurd (h i c hi (not_lt.mp hbound)) hlt.not_ge

lemma transmits_maxInflight : Transmits fun s s' => s'.maxInflight = s.maxInflight where
  refl _ := rfl
  trans h h' := h'.trans h
  retransmitRange s c now := s.maxInflight_retransmitRange c 1 now
  window _ _ := rfl
  stamp _ _ _ := rfl

lemma maxInflight_merge (s : SRSender) (msg : ControlMessage) :
    (s.merge msg).maxInflight = s.maxInflight :=
  transmits_maxInflight.acks (fun _ _ _ => rfl) s msg

/-- The loop that opens the window stays inside it. -/
lemma inWindow_windowOut (now : Clock) (fuel : ℕ) (s : SRSender) :
    InWindow s.maxInflight (windowOut now fuel s) := by
  induction fuel generalizing s with
  | zero => exact List.forall_mem_nil _
  | succ fuel ih =>
    unfold windowOut
    dsimp only
    split_ifs with hnext hacked
    · refine List.forall_mem_cons.mpr ⟨hnext.2.trans_le (Nat.mod_le _ _), ?_⟩
      have := ih { s.retransmitRange s.nextChunkToSend 1 now with
        nextChunkToSend := s.nextChunkToSend + 1 }
      rwa [show ({ s.retransmitRange s.nextChunkToSend 1 now with
        nextChunkToSend := s.nextChunkToSend + 1 } : SRSender).maxInflight = s.maxInflight from
        s.maxInflight_retransmitRange _ 1 now] at this
    · exact ih { s with nextChunkToSend := s.nextChunkToSend + 1 }
    · exact List.forall_mem_nil _

lemma inWindow_reportOut (s : SRSender) (now : Clock) :
    InWindow s.maxInflight (s.reportOut now) ↔
      s.Covers (now s.ticks) 4 (s.ackBase + s.maxInflight) := by
  have hwindow := inWindow_windowOut now ((s.retransmitMissingFromBitmap 4 now).totalChunks
    - (s.retransmitMissingFromBitmap 4 now).nextChunkToSend) (s.retransmitMissingFromBitmap 4 now)
  rw [transmits_maxInflight.missing s 4 now] at hwindow
  rw [reportOut, inWindow_append, inWindow_missingOut, and_iff_left hwindow]

lemma inWindow_ackOut (s : SRSender) (msg : ControlMessage) (now : Clock) :
    InWindow s.maxInflight (s.ackOut msg now) ↔ (s.merge msg).Covers (now (s.merge msg).ticks) 4
      ((s.merge msg).ackBase + s.maxInflight) := by
  have h := (s.merge msg).inWindow_reportOut now
  rwa [maxInflight_merge] at h

/-- An SR_NACK stays inside the window when its gaps do, and then the sweep. -/
lemma inWindow_nackOut {s : SRSender} (hs : s.Sized) (msg : ControlMessage) (now : Clock) :
    let merged := s.merge msg
    let sent := merged.retransmitGaps msg now
    InWindow s.maxInflight (s.nackOut msg now) ↔
      merged.GapsCover msg now (merged.ackBase + s.maxInflight) ∧
        sent.Covers (now sent.ticks) 4 (merged.ackBase + s.maxInflight) := by
  intro merged sent
  have hreport := sent.inWindow_reportOut now
  rw [transmits_maxInflight.gaps, maxInflight_merge,
    (transmits_sameAcks.gaps merged msg now).ackBase] at hreport
  rw [nackOut, inWindow_append, hreport,
    inWindow_gapsOut ((s.continues_merge msg).sized hs) msg now]

end SRSender

/-! ### The loop after a timeout -/

namespace SRSender

/-- The chunks whose last transmission is older than the timeout at the reading `t`. -/
def overdueChunks (s : SRSender) (t : ℕ) : List ℕ :=
  (List.range s.totalChunks).filter (s.Overdue t)

/-- A round leaves the acknowledgements and the times of the other chunks alone. -/
lemma retransmitOverdue_keeps (effectiveRtoMs t : ℕ) (now : Clock) (s : SRSender) (c : ℕ) :
    SameAcks s (retransmitOverdue effectiveRtoMs t now s c) ∧
      ∀ d, d ≠ c → (retransmitOverdue effectiveRtoMs t now s c).lastTx d = s.lastTx d := by
  refine ⟨transmits_sameAcks.overdue effectiveRtoMs t now s c, fun d hd => ?_⟩
  unfold retransmitOverdue
  split_ifs
  · exact (Function.update_of_ne hd _ _).trans (s.lastTx_retransmitRange_of_ne hd now)
  · rfl

/-- What a round sends has the reading before the loop for its time. -/
lemma overdueOut_eq (effectiveRtoMs t : ℕ) (now : Clock) (s : SRSender) (c : ℕ) :
    overdueOut effectiveRtoMs t now s c
      = if s.chunkAcked c = false ∧ (effectiveRtoMs : ℤ) < elapsedMs t (s.lastTx c) then
          [⟨c, s.ackBase, t⟩] else [] := by
  unfold overdueOut retransmitOverdue
  split_ifs
  · exact congrArg (fun time => [Transmission.mk c s.ackBase time])
      (Function.update_self c t (s.retransmitRange c 1 now).lastTx)
  · rfl

/-- After a timeout exactly the overdue chunks are sent again. -/
lemma timeoutOut_eq (s : SRSender) (now : Clock) : s.timeoutOut now
    = (s.overdueChunks (now s.ticks)).map fun c => ⟨c, s.ackBase, now s.ticks⟩ := by
  have h : ∀ n, SameAcks s ((List.range n).foldl
        (retransmitOverdue s.effectiveRtoMs (now s.ticks) now) s.tick) ∧
      (∀ d, n ≤ d → ((List.range n).foldl
        (retransmitOverdue s.effectiveRtoMs (now s.ticks) now) s.tick).lastTx d = s.lastTx d) ∧
      emitted (retransmitOverdue s.effectiveRtoMs (now s.ticks) now)
        (overdueOut s.effectiveRtoMs (now s.ticks) now) (List.range n) s.tick
          = ((List.range n).filter (s.Overdue (now s.ticks))).map
              fun c => ⟨c, s.ackBase, now s.ticks⟩ := by
    intro n
    induction n with
    | zero => exact ⟨transmits_sameAcks.tick s, fun _ _ => rfl, rfl⟩
    | succ n ih =>
      obtain ⟨hsame, hlast, hout⟩ := ih
      rw [List.range_succ, List.foldl_append, List.foldl_cons, List.foldl_nil, emitted_append, hout,
        List.filter_append, List.map_append]
      generalize (List.range n).foldl (retransmitOverdue s.effectiveRtoMs (now s.ticks) now) s.tick
        = s' at hsame hlast ⊢
      obtain ⟨hround, hkept⟩ :=
        retransmitOverdue_keeps s.effectiveRtoMs (now s.ticks) now s' n
      refine ⟨transmits_sameAcks.trans hsame hround,
        fun d hd => (hkept d (by omega)).trans (hlast d (by omega)), ?_⟩
      rw [emitted, emitted, List.append_nil, overdueOut_eq, hsame.chunkAcked, hlast n le_rfl,
        hsame.ackBase]
      congr 1
      by_cases hdue : s.Overdue (now s.ticks) n
      · rw [List.filter_cons_of_pos (by rwa [decide_eq_true_iff]), List.filter_nil,
          List.map_singleton]
        exact if_pos hdue
      · rw [List.filter_cons_of_neg (by rwa [decide_eq_true_iff]), List.filter_nil, List.map_nil]
        exact if_neg hdue
  exact (h s.totalChunks).2.2

end SRSender

/-! ### All events -/

namespace SRPoll

/-- The event is followed by transmissions inside the window: an SR_ACK when 4 stale chunks come
before the first one beyond the window, an SR_NACK when 8 chunks of its gaps are due before the
first one beyond it and then 4 are stale, and a loop after a timeout when no chunk beyond the window
is overdue. -/
def KeepsWindow (p : SRPoll) (now : Clock) (event : ChannelEvent) : Prop :=
  match p.state, event.seen p.connected with
  | .main, .message _ msg =>
    let s := p.sender.merge msg
    let sent := s.retransmitGaps msg now
    let bound := s.ackBase + s.maxInflight
    (msg.msgType = .srAck → s.Covers (now s.ticks) 4 bound) ∧
      (msg.msgType = .srNack → s.GapsCover msg now bound ∧ sent.Covers (now sent.ticks) 4 bound)
  | .sendPoll true, event =>
    sendPollRound event = some (-1) →
      ∀ c < p.sender.totalChunks, p.sender.Overdue (now p.sender.ticks) c →
        c < p.sender.ackBase + p.sender.maxInflight
  | _, _ => True

lemma sendPollRound_eq_some {event : ChannelEvent} {rc : ℤ} (h : sendPollRound event = some rc) :
    rc = 0 ∨ rc = -1 := by
  unfold sendPollRound at h
  split at h
  · split_ifs at h
    · exact Or.inl (Option.some.inj h).symm
    · exact Or.inr (Option.some.inj h).symm
  · exact absurd h (by simp)
  · exact Or.inr (Option.some.inj h).symm

lemma inWindow_transmissions {p : SRPoll} (hp : p.sender.Sized) (now : Clock)
    (event : ChannelEvent) :
    InWindow p.sender.maxInflight (p.transmissions now event) ↔ p.KeepsWindow now event := by
  have hnil : InWindow p.sender.maxInflight [] := List.forall_mem_nil _
  unfold transmissions KeepsWindow
  dsimp only
  generalize event.seen p.connected = event
  cases p.state with
  | returned rc => exact iff_of_true hnil trivial
  | sendPoll afterTimeout =>
    dsimp only
    cases hround : sendPollRound event with
    | none => cases afterTimeout <;> exact iff_of_true hnil (by simp [hround])
    | some rc =>
      rcases sendPollRound_eq_some hround with rfl | rfl
      · cases afterTimeout <;> exact iff_of_true hnil (by simp [hround])
      · cases afterTimeout with
        | false => exact iff_of_true hnil trivial
        | true =>
          dsimp only
          rw [if_neg (by decide), if_pos rfl, SRSender.timeoutOut_eq, InWindow, List.forall_mem_map,
            hround, imp_iff_right rfl]
          simp only [SRSender.overdueChunks, List.mem_filter, List.mem_range, decide_eq_true_iff,
            and_imp]
  | main =>
    cases event with
    | timeout => exact iff_of_true hnil trivial
    | disconnected => exact iff_of_true hnil trivial
    | message own msg =>
      have hack := SRSender.inWindow_ackOut p.sender msg now
      have hnack := SRSender.inWindow_nackOut hp msg now
      have hmax := p.sender.maxInflight_merge msg
      dsimp only
      cases htype : msg.msgType
      case srAck => simpa [hmax] using hack
      case srNack => simpa [hmax] using hnack
      all_goals exact iff_of_true hnil (by simp)

end SRPoll

/-! ### Whole runs -/

namespace SRSender

variable (cfg : SRConfig) (handle : SDRSendHandle) (params : ConnectionParams) (now : Clock)

/-- What `start_send` transmits. -/
def startOut : List Transmission :=
  let s := prepared cfg handle params now
  emitted (openChunk now) (fun s c => [s.transmission (s.openChunk now c) c])
    (List.range (min s.totalChunks s.maxInflight)) s

lemma start_eq : start cfg handle params now
    = (List.range (min (prepared cfg handle params now).totalChunks
        (prepared cfg handle params now).maxInflight)).foldl (openChunk now)
      (prepared cfg handle params now) := rfl

lemma continues_start : Continues (prepared cfg handle params now) (start cfg handle params now) :=
  transmits_continues.start cfg handle params now

lemma maxInflight_start (hwindow : cfg.maxInflightChunks ≠ 0) :
    (start cfg handle params now).maxInflight = cfg.maxInflightChunks.toNat :=
  (transmits_maxInflight.start cfg handle params now).trans (if_neg hwindow)

lemma prepared_mtuBytes_pos : 0 < (prepared cfg handle params now).mtuBytes := by
  unfold prepared
  dsimp only
  split_ifs with h
  · decide
  · exact BitVec.toNat_pos_of_ne_zero h

lemma mtuBytes_start_pos : 0 < (start cfg handle params now).mtuBytes := by
  rw [(continues_start cfg handle params now).mtuBytes]
  exact prepared_mtuBytes_pos cfg handle params now

lemma sized_prepared : (prepared cfg handle params now).Sized := by
  intro c hc
  have hmtu := prepared_mtuBytes_pos cfg handle params now
  have hppc : 0 < (prepared cfg handle params now).packetsPerChunk.toNat :=
    orDefault_toNat_pos (by decide)
  rw [Nat.mul_comm (BitVec.toNat _)]
  exact (lt_ceil_iff (Nat.mul_pos hmtu hppc) c).mp (hc.trans_le
    ((Nat.mod_le _ _).trans (Nat.div_le_div_right (Nat.mod_le _ _))))

lemma sized_start : (start cfg handle params now).Sized :=
  (continues_start cfg handle params now).sized (sized_prepared cfg handle params now)

/-- The packets that `start_send` hands to the network are those of its transmissions. -/
theorem sent_start : (start cfg handle params now).sent
    = (prepared cfg handle params now).packets (startOut cfg handle params now) := by
  rw [start_eq]
  refine (foldl_log (I := Continues (prepared cfg handle params now)) SRSender.sent
    (fun s c h => transmits_continues.trans h (transmits_continues.openChunk now s c))
    (fun s c h => ?_) (transmits_continues.refl _)).trans (List.nil_append _)
  rw [List.flatMap_singleton, ← h.chunkPackets_eq]
  exact s.sent_retransmitRange_one c now

lemma inWindow_startOut (hwindow : cfg.maxInflightChunks ≠ 0) :
    InWindow cfg.maxInflightChunks.toNat (startOut cfg handle params now) := by
  have hout : ∀ n, ∀ t ∈ emitted (openChunk now)
      (fun s c => [s.transmission (s.openChunk now c) c]) (List.range n)
      (prepared cfg handle params now), t.chunk < n := by
    intro n
    induction n with
    | zero => exact List.forall_mem_nil _
    | succ n ih =>
      rw [List.range_succ, emitted_append]
      intro t ht
      rcases List.mem_append.mp ht with ht | ht
      · exact Nat.lt_succ_of_lt (ih t ht)
      · rw [emitted, emitted, List.append_nil, List.mem_singleton] at ht
        exact ht ▸ Nat.lt_succ_self n
  intro t ht
  have hmax : (prepared cfg handle params now).maxInflight = cfg.maxInflightChunks.toNat :=
    if_neg hwindow
  have := hout _ t ht
  omega

end SRSender

/-- A sender and all its transmissions so far. -/
structure SenderRun where
  poll : SRPoll
  log : List Transmission

namespace SenderRun

/-- After `start_send` has returned 0. -/
def start (cfg : SRConfig) (handle : SDRSendHandle) (params : ConnectionParams) (now : Clock) :
    SenderRun :=
  ⟨⟨SRSender.start cfg handle params now, true, .main⟩, SRSender.startOut cfg handle params now⟩

def next (r : SenderRun) : PollAction → SenderRun
  | .receive now event => ⟨r.poll.step now event, r.log ++ r.poll.transmissions now event⟩
  | .call              => { r with poll := r.poll.call }

def KeepsWindow (r : SenderRun) : PollAction → Prop
  | .receive now event => r.poll.KeepsWindow now event
  | .call              => True

end SenderRun

/-- Every transmission of a run is inside the window exactly when every event of the run finds
enough stale chunks before the first one beyond the window. -/
theorem transmissionsInWindow_iff {cfg : SRConfig} (hwindow : cfg.maxInflightChunks ≠ 0)
    (handle : SDRSendHandle) (params : ConnectionParams) (now : Clock) (actions : List PollAction) :
    Throughout (fun r : SenderRun => InWindow cfg.maxInflightChunks.toNat r.log) SenderRun.next
      actions
        (SenderRun.start cfg handle params now) ↔
      EachStep SenderRun.KeepsWindow SenderRun.next actions
        (SenderRun.start cfg handle params now) := by
  refine throughout_iff_of_invariant
    (I := fun r : SenderRun => r.poll.sender.Sized ∧
      r.poll.sender.maxInflight = cfg.maxInflightChunks.toNat)
    (fun r action _ hI => ?_) (fun r action _ hI hP => ?_)
    ⟨SRSender.sized_start cfg handle params now,
      SRSender.maxInflight_start cfg handle params now hwindow⟩
    (SRSender.inWindow_startOut cfg handle params now hwindow)
  · obtain ⟨hsized, hmax⟩ := hI
    cases action with
    | call => exact ⟨hsized, hmax⟩
    | receive now event =>
      refine ⟨?_, (SRSender.transmits_maxInflight.step
        (fun _ _ _ => rfl) r.poll now event).trans hmax⟩
      exact (SRSender.transmits_continues.step (fun _ _ _ =>
        ⟨rfl, rfl, rfl, rfl, rfl, [], (List.append_nil _).symm, by simp⟩) r.poll now
          event).sized hsized
  · obtain ⟨hsized, hmax⟩ := hI
    cases action with
    | call => exact iff_of_true hP trivial
    | receive now event =>
      have h := SRPoll.inWindow_transmissions hsized now event
      rw [hmax] at h
      exact inWindow_append.trans ((and_iff_right hP).trans h)

/-- The report of a receiver with the chunks in the bitmap `word`. -/
def sampleReport (word : U64) (total : ℕ) : ControlMessage :=
  pumpReport (m := Id) (FrontendBitmap.isChunkComplete (m := Id) (fun _ => word) total)
    (FrontendBitmap.getTotalChunksCompleted (m := Id) (fun _ => word) total) 7 total

/-- A window of one chunk. -/
def sampleWindow : SRConfig := { SRConfig.default with maxInflightChunks := 1 }

/-- The receiver's first report comes right after the first transmission. -/
theorem transmissionsInWindow_early :
    Throughout (fun r : SenderRun => InWindow sampleWindow.maxInflightChunks.toNat r.log)
      SenderRun.next
      [.receive (1000000 + ·) (.message true (sampleReport 0 2))]
      (SenderRun.start sampleWindow ⟨0, 1, [1, 2]⟩ bytewiseParams id) :=
  (transmissionsInWindow_iff (by decide) _ _ id _).mpr ⟨⟨fun h => absurd h (by decide +kernel),
    fun _ => ⟨SRSender.gapsCover_of_fresh (by decide +kernel),
      SRSender.covers_of_fresh (by decide +kernel)⟩⟩, trivial⟩

/-- When the same report comes 50 ms later, the second chunk is sent, too. -/
theorem not_transmissionsInWindow_late :
    ¬ Throughout (fun r : SenderRun => InWindow sampleWindow.maxInflightChunks.toNat r.log)
      SenderRun.next
      [.receive (50000000 + ·) (.message true (sampleReport 0 2))]
      (SenderRun.start sampleWindow ⟨0, 1, [1, 2]⟩ bytewiseParams id) := by
  intro h
  exact absurd (h.last ⟨1, 0, 50000006⟩ (by decide +kernel)) (by decide)

end SdrUdp
