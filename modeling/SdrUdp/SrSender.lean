import SdrUdp.Core.Fold
import SdrUdp.SendPost
import SdrUdp.SrReceiver

/-!
# Selective repeat, the sending side

`SRSender` sends chunks within a window and retransmits what the receiver reports missing.
`SRSender::poll` and the `sdr_send_poll` it calls are one machine that takes an event of the control
channel at a time.
-/

namespace SdrUdp

open SdrUdp.Core

/-- What `steady_clock::now()` says, reading after reading, in ns. -/
abbrev Clock := ℕ → ℕ

/-- A clock that stands still. -/
def Clock.still (t : ℕ) : Clock := fun _ => t

/-- Sender-side controller, with the number of times it has read the clock and every packet it has
handed to the network. -/
structure SRSender where
  cfg : SRConfig
  handle : SDRSendHandle
  params : ConnectionParams
  totalChunks : ℕ
  mtuBytes : ℕ
  packetsPerChunk : U16
  ackBase : ℕ
  nextChunkToSend : ℕ
  maxInflight : ℕ
  chunkAcked : ℕ → Bool
  lastTx : ℕ → ℕ
  ticks : ℕ
  sent : List SDRPacket

namespace SRSender

def guardMs : ℤ := 50

/-- `send_packets_range`. -/
def sendPacketsRange (s : SRSender) (startPacket packetCount : ℕ) : SRSender :=
  let offsets := (List.range' startPacket packetCount).takeWhile fun o =>
    o * s.mtuBytes < s.handle.userBuffer.length
  { s with
    sent := s.sent ++ offsets.filterMap (dataPacket s.params.transferId s.handle.msgId
      s.packetsPerChunk s.mtuBytes s.handle.userBuffer) }

/-- The first packet and the number of packets that `retransmit_range` computes; `none` when it
returns at once. -/
def packetRange (s : SRSender) (startChunk count : ℕ) : Option (ℕ × ℕ) :=
  let size := s.handle.userBuffer.length
  let chunkBytes := s.packetsPerChunk.toNat * s.mtuBytes
  let offset := startChunk * chunkBytes
  if offset ≥ size then none
  else
    let length := min (count * chunkBytes) (size - offset)
    some (offset / s.mtuBytes % 2 ^ 32, (length + s.mtuBytes - 1) / s.mtuBytes % 2 ^ 32)

/-- `retransmit_range`. The clock is read once the packets are sent. -/
def retransmitRange (s : SRSender) (startChunk count : ℕ) (now : Clock) : SRSender :=
  match s.packetRange startChunk count with
  | none => s
  | some (startPacket, packetCount) =>
    let s := s.sendPacketsRange startPacket packetCount
    { s with
      ticks := s.ticks + 1
      lastTx := fun c =>
        if startChunk ≤ c ∧ c < startChunk + count ∧ c < s.totalChunks then now s.ticks
        else s.lastTx c }

/-- What `start_send` sets once `sdr_send_post` has returned the handle; `params` are those of the
CTS. -/
def prepared (cfg : SRConfig) (handle : SDRSendHandle) (params : ConnectionParams) (now : Clock) :
    SRSender :=
  let mtuBytes := if params.mtuBytes = 0 then SDRPacket.maxPayloadSize else params.mtuBytes.toNat
  let packetsPerChunk := orDefault params.packetsPerChunk 1
  let totalChunks := ceilDiv handle.userBuffer.length (mtuBytes * packetsPerChunk.toNat) % 2 ^ 32
  { cfg, handle, params, totalChunks, mtuBytes, packetsPerChunk
    maxInflight := if cfg.maxInflightChunks = 0 then totalChunks % 2 ^ 16
      else cfg.maxInflightChunks.toNat
    ackBase := 0
    nextChunkToSend := 0
    chunkAcked := fun _ => false
    lastTx := fun _ => now 0
    -- the second reading goes to `last_control_tx_`, which nothing looks at
    ticks := 2
    sent := [] }

/-- The round of `start_send` that transmits chunk `c`. -/
def openChunk (now : Clock) (s : SRSender) (c : ℕ) : SRSender :=
  { s.retransmitRange c 1 now with nextChunkToSend := c + 1 }

/-- `start_send` from the handle on. -/
def start (cfg : SRConfig) (handle : SDRSendHandle) (params : ConnectionParams) (now : Clock) :
    SRSender :=
  let s := prepared cfg handle params now
  (List.range (min s.totalChunks s.maxInflight)).foldl (openChunk now) s

/-- The clock has been read. -/
def tick (s : SRSender) : SRSender := { s with ticks := s.ticks + 1 }

/-- A round of a retransmission loop that stops after `limit` chunks, at the reading `t` of the
clock; it carries the number of chunks sent so far. -/
def retransmitStale (limit t : ℕ) (now : Clock) (acc : SRSender × ℕ) (c : ℕ) : SRSender × ℕ :=
  if acc.2 < limit ∧ acc.1.chunkAcked c = false ∧ guardMs ≤ elapsedMs t (acc.1.lastTx c) then
    (acc.1.retransmitRange c 1 now, acc.2 + 1)
  else acc

/-- `retransmit_missing_from_bitmap`. The clock is read before the loop. -/
def retransmitMissingFromBitmap (s : SRSender) (limit : ℕ) (now : Clock) : SRSender :=
  ((List.range s.totalChunks).foldl (retransmitStale limit (now s.ticks) now) (s.tick, 0)).1

/-- A round of the loop over the chunks of a gap, which reads the clock for each chunk that is not
acknowledged. -/
def retransmitListed (limit : ℕ) (now : Clock) (acc : SRSender × ℕ) (c : ℕ) : SRSender × ℕ :=
  if acc.2 < limit ∧ acc.1.chunkAcked c = false then
    retransmitStale limit (now acc.1.ticks) now (acc.1.tick, acc.2) c
  else acc

/-- The loop over the gaps of an SR_NACK. -/
def retransmitGaps (s : SRSender) (msg : ControlMessage) (now : Clock) : SRSender :=
  let gaps := (msg.gapStart.toList.zip msg.gapLen.toList).take msg.numGaps.toNat
  (gaps.foldl (fun acc gap =>
    let stop := min (gap.1.toNat + gap.2.toNat) s.totalChunks
    (List.range' gap.1.toNat (stop - gap.1.toNat)).foldl (retransmitListed 8 now) acc) (s, 0)).1

/-- The loop that opens the window. -/
def advanceWindow (now : Clock) : ℕ → SRSender → SRSender
  | 0, s => s
  | fuel + 1, s =>
    let next := s.nextChunkToSend
    if next < s.totalChunks ∧ next < (s.ackBase + s.maxInflight) % 2 ^ 32 then
      let s := if s.chunkAcked next = false then s.retransmitRange next 1 now else s
      advanceWindow now fuel { s with nextChunkToSend := next + 1 }
    else s

/-- `apply_bitmap`: at most 8 words are looked at. -/
def applyBitmap (s : SRSender) (msg : ControlMessage) : SRSender :=
  { s with
    chunkAcked := fun c =>
      if h : c / 64 < 8 then
        if c / 64 < msg.chunkBitmapWords.toNat ∧ c < s.totalChunks ∧
            (msg.chunkBitmap[c / 64]).getLsbD (c % 64) = true then true
        else s.chunkAcked c
      else s.chunkAcked c }

/-- The cumulative index of an SR_ACK or SR_NACK. -/
def applyCumulative (s : SRSender) (msg : ControlMessage) : SRSender :=
  let cumChunk := msg.params.maxInflight
  if cumChunk = uint32Max then s
  else
    { s with
      ackBase := max s.ackBase (cumChunk.toNat + 1)
      chunkAcked := fun c =>
        if c ≤ cumChunk.toNat ∧ c < s.totalChunks then true else s.chunkAcked c }

/-- What `poll` does with an SR_ACK before it decides whether to return. -/
def onSrAck (s : SRSender) (msg : ControlMessage) (now : Clock) : SRSender :=
  let s := ((s.applyBitmap msg).applyCumulative msg).retransmitMissingFromBitmap 4 now
  advanceWindow now (s.totalChunks - s.nextChunkToSend) s

def onSrNack (s : SRSender) (msg : ControlMessage) (now : Clock) : SRSender :=
  let s := ((s.applyBitmap msg).applyCumulative msg).retransmitGaps msg now
  let s := s.retransmitMissingFromBitmap 4 now
  advanceWindow now (s.totalChunks - s.nextChunkToSend) s

/-- `effective_rto_ms`. -/
def effectiveRtoMs (s : SRSender) : ℕ :=
  if s.cfg.rtoMs ≠ 0 then s.cfg.rtoMs else (s.cfg.baseRttMs + s.cfg.alphaMs) % 2 ^ 32

/-- A round of the loop after a timeout, at the reading `t` of the clock, which takes the place of
the one that `retransmit_range` has stored. -/
def retransmitOverdue (effectiveRtoMs t : ℕ) (now : Clock) (s : SRSender) (c : ℕ) : SRSender :=
  if s.chunkAcked c = false ∧ (effectiveRtoMs : ℤ) < elapsedMs t (s.lastTx c) then
    let s := s.retransmitRange c 1 now
    { s with lastTx := Function.update s.lastTx c t }
  else s

/-- The retransmissions after a timeout. The clock is read before the loop. -/
def onTimeout (s : SRSender) (now : Clock) : SRSender :=
  (List.range s.totalChunks).foldl (retransmitOverdue s.effectiveRtoMs (now s.ticks) now) s.tick

/-- `poll` returns 0 on this SR_ACK. -/
def ackCompletes (msg : ControlMessage) : Bool :=
  decide ((msg.params.maxInflight.toNat + 1) % 2 ^ 32 ≥ msg.params.totalChunks.toNat)

end SRSender

/-! ### The polling machine -/

/-- What a call of `receive_message` finds on the control channel; `own` says whether a message is
about the transfer that is polled. -/
inductive ChannelEvent where
  | message (own : Bool) (msg : ControlMessage)
  | timeout
  | disconnected

/-- Once the connection is closed, `receive_message` finds nothing else. -/
def ChannelEvent.seen (event : ChannelEvent) (connected : Bool) : ChannelEvent :=
  if connected then event else .disconnected

/-- The connection survives the event. -/
def ChannelEvent.keepsConnection : ChannelEvent → Bool
  | .disconnected => false
  | _             => true

/-- Where a poll is: in its own loop, in the loop of `sdr_send_poll`, or back with a result. -/
inductive PollState where
  | main
  | sendPoll (afterTimeout : Bool)
  | returned (rc : ℤ)
  deriving DecidableEq

/-- One round of the loop of `sdr_send_poll`; the result it returns with. -/
def sendPollRound : ChannelEvent → Option ℤ
  | .message _ msg =>
    if msg.msgType = .completeAck then some 0
    else if msg.msgType = .incompleteNack then some (-1)
    else none
  | .timeout      => none
  | .disconnected => some (-1)

/-- Entering `sdr_send_poll`: without a connection it returns 0 at once. -/
def enterSendPoll (connected afterTimeout : Bool) : PollState :=
  if connected then .sendPoll afterTimeout else .returned 0

/-- A sender in a call of `SRSender::poll`. -/
structure SRPoll where
  sender : SRSender
  connected : Bool
  state : PollState

namespace SRPoll

/-- One call of `receive_message` and what `poll` makes of it, with the clock `now`. -/
def step (p : SRPoll) (now : Clock) (event : ChannelEvent) : SRPoll :=
  let event := event.seen p.connected
  let connected := event.keepsConnection
  match p.state with
  | .returned _ => p
  | .sendPoll afterTimeout =>
    match sendPollRound event with
    | none    => { p with connected }
    | some rc =>
      if rc = 0 then { p with connected, state := .returned 0 }
      else { connected, state := .main, sender :=
        if afterTimeout then p.sender.onTimeout now else p.sender }
  | .main =>
    match event with
    | .message _ msg =>
      match msg.msgType with
      | .srAck =>
        { connected, sender := p.sender.onSrAck msg now
          state := if SRSender.ackCompletes msg then .returned 0 else .main }
      | .srNack         => { p with connected, sender := p.sender.onSrNack msg now }
      | .completeAck    => { p with connected, state := .returned 0 }
      | .incompleteNack => { p with connected, state := .returned (-1) }
      | _               => { p with connected, state := enterSendPoll connected false }
    | _ => { p with connected, state := enterSendPoll connected true }

/-- Calling `poll` (again). -/
def call (p : SRPoll) : SRPoll := { p with state := .main }

end SRPoll

/-! ### What becomes acknowledged -/

/-- The message acknowledges chunk `c`. -/
def Acknowledges (msg : ControlMessage) (c : ℕ) : Prop := CumulativeAck msg c ∨ BitmapAck msg c

lemma Truthful.done {Done : ℕ → Prop} {msg : ControlMessage} (h : Truthful Done msg) {c : ℕ}
    (hc : Acknowledges msg c) : Done c := hc.elim (h.cumulative c) (h.bitmap c)

namespace SRSender

/-- `retransmit_range` sends the packets of its range. -/
lemma retransmitRange_eq (s : SRSender) (startChunk count : ℕ) (now : Clock) :
    s.retransmitRange startChunk count now = (s.packetRange startChunk count).elim s fun range =>
      { s.sendPacketsRange range.1 range.2 with
        ticks := s.ticks + 1
        lastTx := fun c =>
          if startChunk ≤ c ∧ c < startChunk + count ∧ c < s.totalChunks then now s.ticks
          else s.lastTx c } := by
  unfold retransmitRange
  cases s.packetRange startChunk count <;> rfl

/-- A preorder in which transmissions and the bookkeeping about them stay. -/
structure Transmits (R : SRSender → SRSender → Prop) : Prop where
  refl : ∀ s, R s s
  trans : ∀ {s s' s''}, R s s' → R s' s'' → R s s''
  retransmitRange : ∀ s c now, R s (s.retransmitRange c 1 now)
  window : ∀ s next, R s { s with nextChunkToSend := next }
  stamp : ∀ s lastTx ticks, R s { s with lastTx := lastTx, ticks := ticks }

namespace Transmits

variable {R : SRSender → SRSender → Prop} (hR : Transmits R)
include hR

lemma tick (s : SRSender) : R s s.tick := hR.stamp s s.lastTx (s.ticks + 1)

lemma stale (limit t : ℕ) (now : Clock) (acc : SRSender × ℕ) (c : ℕ) :
    R acc.1 (retransmitStale limit t now acc c).1 := by
  unfold retransmitStale
  split_ifs
  · exact hR.retransmitRange _ _ _
  · exact hR.refl _

lemma missing (s : SRSender) (limit : ℕ) (now : Clock) :
    R s (s.retransmitMissingFromBitmap limit now) :=
  foldl_keeps (P := fun acc : SRSender × ℕ => R s acc.1)
    (fun acc c _ h => hR.trans h (hR.stale limit (now s.ticks) now acc c)) (hR.tick s)

lemma listed (limit : ℕ) (now : Clock) (acc : SRSender × ℕ) (c : ℕ) :
    R acc.1 (retransmitListed limit now acc c).1 := by
  unfold retransmitListed
  split_ifs
  · exact hR.trans (hR.tick acc.1) (hR.stale limit _ now (acc.1.tick, acc.2) c)
  · exact hR.refl _

lemma listedLoop (limit : ℕ) (now : Clock) (chunks : List ℕ) (acc : SRSender × ℕ) :
    R acc.1 (chunks.foldl (retransmitListed limit now) acc).1 :=
  foldl_keeps (P := fun acc' : SRSender × ℕ => R acc.1 acc'.1)
    (fun acc' c _ h => hR.trans h (hR.listed limit now acc' c)) (hR.refl acc.1)

lemma gaps (s : SRSender) (msg : ControlMessage) (now : Clock) : R s (s.retransmitGaps msg now) :=
  foldl_keeps (P := fun acc : SRSender × ℕ => R s acc.1)
    (fun acc _ _ h => hR.trans h (hR.listedLoop 8 now _ acc)) (hR.refl s)

lemma advanceWindow (now : Clock) (fuel : ℕ) (s : SRSender) : R s (advanceWindow now fuel s) := by
  induction fuel generalizing s with
  | zero => exact hR.refl s
  | succ fuel ih =>
    unfold SRSender.advanceWindow
    dsimp only
    split_ifs
    · exact hR.trans (hR.retransmitRange s s.nextChunkToSend now) (hR.trans (hR.window _ _) (ih _))
    · exact hR.trans (hR.window s _) (ih _)
    · exact hR.refl s

lemma overdue (effectiveRtoMs t : ℕ) (now : Clock) (s : SRSender) (c : ℕ) :
    R s (retransmitOverdue effectiveRtoMs t now s c) := by
  unfold retransmitOverdue
  split_ifs
  · exact hR.trans (hR.retransmitRange s c now) (hR.stamp _ _ _)
  · exact hR.refl s

lemma timeout (s : SRSender) (now : Clock) : R s (s.onTimeout now) :=
  foldl_keeps (P := R s)
    (fun s' c _ h => hR.trans h (hR.overdue s.effectiveRtoMs (now s.ticks) now s' c)) (hR.tick s)

lemma openChunk (now : Clock) (s : SRSender) (c : ℕ) : R s (s.openChunk now c) :=
  hR.trans (hR.retransmitRange s c now) (hR.window _ _)

lemma start (cfg : SRConfig) (handle : SDRSendHandle) (params : ConnectionParams) (now : Clock) :
    R (prepared cfg handle params now) (start cfg handle params now) :=
  foldl_keeps (P := R _) (fun s c _ h => hR.trans h (hR.openChunk now s c)) (hR.refl _)

variable (hack : ∀ s acked base, R s { s with chunkAcked := acked, ackBase := base })
include hack

lemma acks (s : SRSender) (msg : ControlMessage) :
    R s ((s.applyBitmap msg).applyCumulative msg) := by
  refine hR.trans (hack s (s.applyBitmap msg).chunkAcked s.ackBase) ?_
  unfold applyCumulative
  dsimp only
  split_ifs
  · exact hR.refl _
  · exact hack _ _ _

/-- A whole poll stays in the preorder when it does not care about acknowledgements. -/
lemma step (p : SRPoll) (now : Clock) (event : ChannelEvent) :
    R p.sender (p.step now event).sender := by
  unfold SRPoll.step
  dsimp only
  split
  · exact hR.refl _
  · split
    · exact hR.refl _
    · split_ifs
      · exact hR.refl _
      · exact hR.timeout _ _
      · exact hR.refl _
  · split
    · rename_i msg _
      split
      · exact hR.trans (hR.acks hack _ msg)
          (hR.trans (hR.missing _ 4 now) (hR.advanceWindow now _ _))
      · exact hR.trans (hR.acks hack _ msg) (hR.trans (hR.gaps _ msg now)
          (hR.trans (hR.missing _ 4 now) (hR.advanceWindow now _ _)))
      all_goals exact hR.refl _
    · exact hR.refl _

end Transmits

lemma maxInflight_retransmitRange (s : SRSender) (startChunk count : ℕ) (now : Clock) :
    (s.retransmitRange startChunk count now).maxInflight = s.maxInflight := by
  unfold retransmitRange
  split <;> rfl

/-- Everything but the bookkeeping of transmissions is the same. -/
structure SameAcks (s s' : SRSender) : Prop where
  chunkAcked : s'.chunkAcked = s.chunkAcked
  ackBase : s'.ackBase = s.ackBase
  totalChunks : s'.totalChunks = s.totalChunks

lemma transmits_sameAcks : Transmits SameAcks where
  refl _ := ⟨rfl, rfl, rfl⟩
  trans h h' := ⟨h'.1.trans h.1, h'.2.trans h.2, h'.3.trans h.3⟩
  retransmitRange s c now := by
    unfold retransmitRange
    split <;> exact ⟨rfl, rfl, rfl⟩
  window _ _ := ⟨rfl, rfl, rfl⟩
  stamp _ _ _ := ⟨rfl, rfl, rfl⟩

/-- The sender serves the same message and has sent more of its packets. -/
structure Continues (s s' : SRSender) : Prop where
  handle : s'.handle = s.handle
  params : s'.params = s.params
  totalChunks : s'.totalChunks = s.totalChunks
  mtuBytes : s'.mtuBytes = s.mtuBytes
  packetsPerChunk : s'.packetsPerChunk = s.packetsPerChunk
  sent : ∃ new, s'.sent = s.sent ++ new ∧ ∀ q ∈ new, ∃ o, dataPacket s.params.transferId
    s.handle.msgId s.packetsPerChunk s.mtuBytes s.handle.userBuffer o = some q

lemma transmits_continues : Transmits Continues where
  refl s := ⟨rfl, rfl, rfl, rfl, rfl, [], (List.append_nil _).symm, by simp⟩
  trans := by
    intro s s' s'' h h'
    obtain ⟨new, hnew, hmade⟩ := h.sent
    obtain ⟨new', hnew', hmade'⟩ := h'.sent
    rw [h.params, h.handle, h.packetsPerChunk, h.mtuBytes] at hmade'
    refine ⟨h'.handle.trans h.handle, h'.params.trans h.params, h'.totalChunks.trans h.totalChunks,
      h'.mtuBytes.trans h.mtuBytes, h'.packetsPerChunk.trans h.packetsPerChunk, new ++ new',
      by rw [hnew', hnew, List.append_assoc], fun q hq => ?_⟩
    exact (List.mem_append.mp hq).elim (hmade q) (hmade' q)
  retransmitRange s c now := by
    unfold retransmitRange
    split
    · exact ⟨rfl, rfl, rfl, rfl, rfl, [], (List.append_nil _).symm, by simp⟩
    · refine ⟨rfl, rfl, rfl, rfl, rfl, _, rfl, fun q hq => ?_⟩
      obtain ⟨o, -, ho⟩ := List.mem_filterMap.mp hq
      exact ⟨o, ho⟩
  window s _ := ⟨rfl, rfl, rfl, rfl, rfl, [], (List.append_nil _).symm, by simp⟩
  stamp s _ _ := ⟨rfl, rfl, rfl, rfl, rfl, [], (List.append_nil _).symm, by simp⟩

/-- What `s'` has acknowledged beyond `s` is acknowledged by the message. -/
structure AcksFrom (msg : ControlMessage) (s s' : SRSender) : Prop where
  chunkAcked : ∀ c, s'.chunkAcked c = true → s.chunkAcked c = true ∨ Acknowledges msg c
  ackBase : ∀ c < s'.ackBase, c < s.ackBase ∨ Acknowledges msg c
  totalChunks : s'.totalChunks = s.totalChunks

lemma AcksFrom.sameAcks {msg : ControlMessage} {s s' s'' : SRSender} (h : AcksFrom msg s s')
    (hs : SameAcks s' s'') : AcksFrom msg s s'' where
  chunkAcked c hc := h.chunkAcked c (by rwa [hs.chunkAcked] at hc)
  ackBase c hc := h.ackBase c (by rwa [hs.ackBase] at hc)
  totalChunks := hs.totalChunks.trans h.totalChunks

/-- The bitmap and the cumulative index are the only sources of acknowledgements. -/
lemma applyAcks (s : SRSender) {msg : ControlMessage}
    (htype : msg.msgType = .srAck ∨ msg.msgType = .srNack) :
    AcksFrom msg s ((s.applyBitmap msg).applyCumulative msg) := by
  have hbitmap : ∀ c, (s.applyBitmap msg).chunkAcked c = true →
      s.chunkAcked c = true ∨ Acknowledges msg c := by
    intro c hc
    simp only [applyBitmap] at hc
    split_ifs at hc with hw hbit
    · exact Or.inr (Or.inr ⟨hbit.1, by omega, hbit.2.2⟩)
    · exact Or.inl hc
    · exact Or.inl hc
  unfold applyCumulative
  dsimp only
  split_ifs with hmax
  · exact ⟨hbitmap, fun c hc => Or.inl hc, rfl⟩
  · refine ⟨fun c hc => ?_, fun c hc => ?_, rfl⟩
    · dsimp only at hc
      split_ifs at hc with hcum
      · exact Or.inr (Or.inl ⟨htype, hmax, hcum.1⟩)
      · exact hbitmap c hc
    · rcases Nat.lt_or_ge c s.ackBase with hlt | hge
      · exact Or.inl hlt
      · have hc : c < max s.ackBase (msg.params.maxInflight.toNat + 1) := hc
        exact Or.inr (Or.inl ⟨htype, hmax, by omega⟩)

lemma onSrAck_acksFrom (s : SRSender) {msg : ControlMessage} (htype : msg.msgType = .srAck)
    (now : Clock) : AcksFrom msg s (s.onSrAck msg now) :=
  ((s.applyAcks (Or.inl htype)).sameAcks (transmits_sameAcks.missing _ 4 now)).sameAcks
    (transmits_sameAcks.advanceWindow now _ _)

lemma onSrNack_acksFrom (s : SRSender) {msg : ControlMessage} (htype : msg.msgType = .srNack)
    (now : Clock) : AcksFrom msg s (s.onSrNack msg now) :=
  (((s.applyAcks (Or.inr htype)).sameAcks (transmits_sameAcks.gaps _ msg now)).sameAcks
    (transmits_sameAcks.missing _ 4 now)).sameAcks (transmits_sameAcks.advanceWindow now _ _)

/-- The messages leave the bookkeeping of the transmissions alone. -/
lemma applyAcks_keeps (s : SRSender) (msg : ControlMessage) :
    let s' := (s.applyBitmap msg).applyCumulative msg
    s'.lastTx = s.lastTx ∧ s'.ticks = s.ticks ∧ s'.totalChunks = s.totalChunks := by
  unfold applyCumulative
  dsimp only
  split_ifs <;> exact ⟨rfl, rfl, rfl⟩

/-- The first chunk that an SR_NACK asks for is sent again, unless that happened a moment ago. -/
lemma Transmits.onSrNack_requested {R : SRSender → SRSender → Prop} (hR : Transmits R)
    {s : SRSender} {msg : ControlMessage} {c : ℕ} (now : Clock) (hrequests : Requests msg c)
    (hc : c < 2 ^ 16) (htotal : c < s.totalChunks)
    (hacked : ((s.applyBitmap msg).applyCumulative msg).chunkAcked c = false)
    (hguard : guardMs ≤ elapsedMs (now s.ticks) (s.lastTx c)) :
    R (((s.applyBitmap msg).applyCumulative msg).tick.retransmitRange c 1 now)
      (s.onSrNack msg now) := by
  obtain ⟨hlast, hticks, hchunks⟩ := s.applyAcks_keeps msg
  unfold onSrNack
  dsimp only
  generalize (s.applyBitmap msg).applyCumulative msg = s₁ at hacked hlast hticks hchunks
  refine hR.trans ?_ (hR.trans (hR.missing _ 4 now) (hR.advanceWindow now _ _))
  obtain ⟨len, rest, hgaps, hpos⟩ := hrequests
  have hfirst : (BitVec.ofNat 16 c).toNat = c := by
    rw [BitVec.toNat_ofNat, Nat.mod_eq_of_lt hc]
  obtain ⟨n, hn⟩ : ∃ n, min (c + len.toNat) s₁.totalChunks - c = n + 1 :=
    ⟨min (c + len.toNat) s₁.totalChunks - c - 1, by omega⟩
  have hlisted : retransmitListed 8 now (s₁, 0) c = (s₁.tick.retransmitRange c 1 now, 1) := by
    refine (if_pos ⟨Nat.succ_pos 7, hacked⟩).trans (if_pos ⟨Nat.succ_pos 7, hacked, ?_⟩)
    change guardMs ≤ elapsedMs (now s₁.ticks) (s₁.lastTx c)
    rw [hlast, hticks]
    exact hguard
  simp only [retransmitGaps, hgaps, List.foldl_cons, hfirst, hn, List.range'_succ, hlisted]
  exact foldl_keeps (P := fun acc : SRSender × ℕ => R (s₁.tick.retransmitRange c 1 now) acc.1)
    (fun acc _ _ h => hR.trans h (hR.listedLoop 8 now _ acc))
    (hR.listedLoop 8 now (List.range' (c + 1) n) (s₁.tick.retransmitRange c 1 now, 1))

/-- The first transmissions acknowledge nothing. -/
lemma start_acks (cfg : SRConfig) (handle : SDRSendHandle) (params : ConnectionParams)
    (now : Clock) : (∀ c, (start cfg handle params now).chunkAcked c = false) ∧
      (start cfg handle params now).ackBase = 0 := by
  have h := transmits_sameAcks.start cfg handle params now
  exact ⟨fun c => congrFun h.chunkAcked c, h.ackBase⟩

/-- The first transmissions are packets of the message. -/
lemma start_sent (cfg : SRConfig) (handle : SDRSendHandle) (params : ConnectionParams)
    (now : Clock) :
    let s := start cfg handle params now
    s.totalChunks = ceilDiv handle.userBuffer.length (s.mtuBytes * s.packetsPerChunk.toNat)
      % 2 ^ 32 ∧
      ∀ q ∈ s.sent, ∃ o, dataPacket s.params.transferId s.handle.msgId s.packetsPerChunk s.mtuBytes
        s.handle.userBuffer o = some q := by
  intro s
  have h : Continues _ s := transmits_continues.start cfg handle params now
  obtain ⟨new, hnew, hmade⟩ := h.sent
  refine ⟨by rw [h.totalChunks, h.mtuBytes, h.packetsPerChunk]; rfl, fun q hq => ?_⟩
  rw [h.params, h.handle, h.packetsPerChunk, h.mtuBytes]
  rw [hnew] at hq
  exact hmade q hq

end SRSender

/-- A closed connection stays closed. -/
lemma SRPoll.connected_of_step {p : SRPoll} {now : Clock} {event : ChannelEvent}
    (h : (p.step now event).connected = true) : p.connected = true := by
  by_contra hclosed
  have hseen : event.seen p.connected = .disconnected := if_neg hclosed
  cases hstate : p.state <;> simp [step, hstate, hseen, sendPollRound,
    ChannelEvent.keepsConnection] at h
  exact hclosed h

/-- Nothing but its loss closes it. -/
lemma SRPoll.step_connected {p : SRPoll} (hconn : p.connected = true) (now : Clock)
    {event : ChannelEvent} (he : event ≠ .disconnected) : (p.step now event).connected = true := by
  have hseen : event.seen p.connected = event := if_pos hconn
  have hkeeps : event.keepsConnection = true := by cases event <;> first | rfl | exact absurd rfl he
  unfold step
  simp only [hseen, hkeeps]
  split
  · exact hconn
  · split
    · rfl
    · split_ifs <;> rfl
  · split
    · split <;> rfl
    · rfl

/-- A poll that has returned does not see the loss of the connection. -/
lemma SRPoll.step_disconnected {p : SRPoll} {now : Clock}
    (h : (p.step now .disconnected).connected = true) : p.step now .disconnected = p := by
  have hseen : ChannelEvent.disconnected.seen p.connected = .disconnected := by
    unfold ChannelEvent.seen
    split_ifs <;> rfl
  cases hstate : p.state <;> simp [step, hstate, hseen, sendPollRound,
    ChannelEvent.keepsConnection] at h ⊢

/-- A poll takes acknowledgements only from a message that is about chunks. -/
lemma SRPoll.step_acks (p : SRPoll) (now : Clock) (event : ChannelEvent) :
    SRSender.SameAcks p.sender (p.step now event).sender ∨
      ∃ own msg, event = .message own msg ∧
        SRSender.AcksFrom msg p.sender (p.step now event).sender := by
  have hsame : SRSender.SameAcks p.sender p.sender := SRSender.transmits_sameAcks.refl _
  unfold SRPoll.step
  dsimp only
  split
  · exact Or.inl hsame
  · split
    · exact Or.inl hsame
    · split_ifs
      · exact Or.inl hsame
      · exact Or.inl (SRSender.transmits_sameAcks.timeout _ _)
      · exact Or.inl hsame
  · split
    · rename_i own msg hevent
      have hevent : event = .message own msg := by
        cases hconn : p.connected with
        | false => simp [ChannelEvent.seen, hconn] at hevent
        | true => simpa [ChannelEvent.seen, hconn] using hevent
      split
      · exact Or.inr ⟨own, msg, hevent, SRSender.onSrAck_acksFrom _ (by assumption) now⟩
      · exact Or.inr ⟨own, msg, hevent, SRSender.onSrNack_acksFrom _ (by assumption) now⟩
      all_goals exact Or.inl hsame
    · exact Or.inl hsame

end SdrUdp
