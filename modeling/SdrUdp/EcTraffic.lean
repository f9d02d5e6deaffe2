import Mathlib.Algebra.Order.BigOperators.Group.List
import SdrUdp.EcTrap
import SdrUdp.Completion

/-!
# The traffic of an EC transfer

A receiver that misses too many chunks asks for them with an EC_NACK, at most as often as it is
configured to try, and then once with an EC_FALLBACK_SR. Each request is answered at most once, with
no more chunks than were missing, so the traffic of a transfer has a bound that no loss and no
timing can break.
-/

namespace SdrUdp

open SdrUdp.Core

/-! ### What a request asks for -/

lemma length_takeRun (next : ℕ) (l : List ℕ) :
    (takeRun next l).1 + (takeRun next l).2.length = l.length := by
  induction l generalizing next with
  | nil => rfl
  | cons c l ih =>
    rw [takeRun]
    split_ifs
    · have := ih (next + 1)
      dsimp only
      rw [List.length_cons]
      omega
    · exact Nat.zero_add _

/-- The runs of missing chunks are no longer than what is missing. -/
lemma sum_collapseGaps_le (limit : ℕ) (l : List ℕ) :
    ((collapseGaps limit l).map Prod.snd).sum ≤ l.length := by
  induction limit generalizing l with
  | zero => exact Nat.zero_le _
  | succ limit ih =>
    cases l with
    | nil => exact Nat.zero_le _
    | cons start rest =>
      have hrun := length_takeRun (start + 1) rest
      have hrest := ih (takeRun (start + 1) rest).2
      rw [collapseGaps, List.map_cons, List.sum_cons, List.length_cons]
      dsimp only
      omega

namespace ECSender

/-- The length of a gap; the message has sixteen. -/
def gapLength (msg : ControlMessage) (i : ℕ) : ℕ :=
  if h : i < 16 then (msg.gapLen[i]).toNat else 0

/-- The length of all gaps of a message. -/
def askedChunks (msg : ControlMessage) : ℕ :=
  ((List.range msg.numGaps.toNat).map (gapLength msg)).sum

lemma length_chunkPackets_le (s : ECSender) (c : ℕ) :
    (s.chunkPackets c).length ≤ ecPacketsPerChunk s.params := by
  unfold chunkPackets
  refine (List.length_filterMap_le _ _).trans ((List.takeWhile_sublist _).length_le.trans ?_)
  rw [List.length_map, List.length_range]

lemma length_gapChunks_le (s : ECSender) (msg : ControlMessage) (i : ℕ) :
    (s.gapChunks msg i).length ≤ gapLength msg i := by
  unfold gapChunks gapLength
  split_ifs with h
  · have hmod := Nat.mod_le ((msg.gapStart[i]).toNat + (msg.gapLen[i]).toNat) (2 ^ 32)
    rw [List.length_range']
    omega
  · exact le_rfl

/-- The answer to a request holds no more packets than the chunks in its gaps. -/
lemma length_answer_le (s : ECSender) (msg : ControlMessage) :
    (s.answer msg).length ≤ askedChunks msg * ecPacketsPerChunk s.params := by
  have hgap : ∀ l : List ℕ, (l.flatMap s.chunkPackets).length
      ≤ l.length * ecPacketsPerChunk s.params := by
    intro l
    induction l with
    | nil => exact Nat.zero_le _
    | cons c l ih =>
      rw [List.flatMap_cons, List.length_append, List.length_cons, Nat.succ_mul]
      have := s.length_chunkPackets_le c
      omega
  unfold answer askedChunks
  induction List.range msg.numGaps.toNat with
  | nil => exact Nat.zero_le _
  | cons i l ih =>
    rw [List.flatMap_cons, List.length_append, List.map_cons, List.sum_cons, Nat.add_mul]
    exact Nat.add_le_add ((hgap _).trans (Nat.mul_le_mul_right _ (s.length_gapChunks_le msg i))) ih

end ECSender

/-- A request asks for no more chunks than are missing. -/
lemma askedChunks_requestMessage_le (missing : List ℕ) :
    ECSender.askedChunks (requestMessage missing) ≤ missing.length := by
  have hle := length_collapseGaps_le 16 missing
  have hnum : (requestMessage missing).numGaps.toNat = (collapseGaps 16 missing).length := by
    simp only [requestMessage, BitVec.toNat_ofNat]
    omega
  have hgap : ∀ i < (collapseGaps 16 missing).length,
      ECSender.gapLength (requestMessage missing) i
        ≤ ((collapseGaps 16 missing).map Prod.snd).getD i 0 := by
    intro i hi
    rw [ECSender.gapLength, dif_pos (hi.trans_le hle)]
    simp only [requestMessage, Vector.getElem_ofFn, BitVec.toNat_ofNat]
    exact Nat.mod_le _ _
  have hlengths : (List.range (collapseGaps 16 missing).length).map
      (fun i => ((collapseGaps 16 missing).map Prod.snd).getD i 0)
        = (collapseGaps 16 missing).map Prod.snd := by
    refine List.ext_getElem (by simp) fun i hi hi' => ?_
    rw [List.getElem_map, List.getElem_range, List.getD_eq_getElem?_getD,
      List.getElem?_eq_getElem hi', Option.getD_some]
  unfold ECSender.askedChunks
  rw [hnum]
  calc ((List.range (collapseGaps 16 missing).length).map
        (ECSender.gapLength (requestMessage missing))).sum
      ≤ ((List.range (collapseGaps 16 missing).length).map
          fun i => ((collapseGaps 16 missing).map Prod.snd).getD i 0).sum :=
        List.sum_le_sum fun i hi => hgap i (List.mem_range.mp hi)
    _ = ((collapseGaps 16 missing).map Prod.snd).sum := by rw [hlengths]
    _ ≤ missing.length := sum_collapseGaps_le 16 missing

/-! ### What the receiver asks for -/

lemma scanChunks_returns {isComplete : ℕ → Prog ReceiverMemory Bool} (complete : Bool)
    (l : List ℕ) : Prog.Returns (fun found : List ℕ => found.length ≤ l.length)
      (scanChunks isComplete complete l) := by
  induction l with
  | nil => exact Prog.Returns.pure le_rfl
  | cons c l ih =>
    refine Prog.Returns.bind (Prog.Returns.of_forall (fun _ => trivial) (isComplete c))
      fun found _ => Prog.Returns.bind ih fun rest hrest => Prog.Returns.pure ?_
    split_ifs
    · exact Nat.succ_le_succ hrest
    · exact hrest.trans (Nat.le_succ _)

namespace ECReceiver

/-- A call finds no more data chunks missing than there are. -/
def ReadsWithin (chunks : ℕ) (seen : Option (List ℕ × List ℕ)) : Prop :=
  ∀ missing avail, seen = some (missing, avail) → missing.length ≤ chunks

lemma look_returns (r : ECReceiver) : Prog.Returns (ReadsWithin r.layout.dataChunks) r.look := by
  have hnone : ReadsWithin r.layout.dataChunks none := fun _ _ h => absurd h (by simp)
  unfold look
  cases r.recvHandle with
  | none => exact Prog.Returns.pure hnone
  | some handle =>
    refine Prog.Returns.bind (P := fun _ => True)
      (Prog.Returns.of_forall (fun _ => trivial) _) fun front _ => ?_
    cases front with
    | none => exact Prog.Returns.pure hnone
    | some front =>
      refine Prog.Returns.bind (scanChunks_returns false _) fun missing hmissing => ?_
      rw [List.length_range] at hmissing
      have hsome : ∀ avail, ReadsWithin r.layout.dataChunks (some (missing, avail)) := by
        intro avail missing' avail' h
        rw [← (Prod.mk.inj (Option.some.inj h)).1]
        exact hmissing
      split_ifs
      · exact Prog.Returns.pure (hsome [])
      · exact Prog.Returns.bind (P := fun _ => True)
          (Prog.Returns.of_forall (fun _ => trivial) _) fun avail _ =>
            Prog.Returns.pure (hsome avail)

/-- How often the receiver asks, EC_FALLBACK_SR included. -/
def maxRequests (r : ECReceiver) : ℕ := max 1 r.cfg.maxRetries

/-- All that the receiver may send: the EC_NACKs, the EC_FALLBACK_SR and the EC_ACK. -/
def script (r : ECReceiver) : List ControlMsgType :=
  List.replicate (r.maxRequests - 1) .ecNack ++ [.ecFallbackSr, .ecAck]

/-- What a receiver without success has sent. -/
structure Asked (r : ECReceiver) (types : List ControlMsgType) : Prop where
  nacks : r.fallbackActive = false → r.decodeAttempts < r.maxRequests ∧
    types.Sublist (List.replicate r.decodeAttempts .ecNack)
  fallback : r.fallbackActive = true →
    types.Sublist (List.replicate (r.maxRequests - 1) .ecNack ++ [.ecFallbackSr])

variable {r r' : ECReceiver} {m m' : ReceiverMemory} {types : List ControlMsgType}

lemma Asked.sublist (h : r.Asked types) :
    types.Sublist (List.replicate (r.maxRequests - 1) .ecNack ++ [.ecFallbackSr]) := by
  cases hfallback : r.fallbackActive with
  | true => exact h.fallback hfallback
  | false =>
    obtain ⟨hlt, hnacks⟩ := h.nacks hfallback
    have hle : r.decodeAttempts ≤ r.maxRequests - 1 := Nat.le_sub_one_of_lt hlt
    exact (hnacks.trans (List.replicate_sublist_replicate _ |>.mpr hle)).trans
      (List.sublist_append_left _ _)

/-- An EC_ACK may follow. -/
lemma Asked.acknowledged (h : r.Asked types) {new : List ControlMsgType}
    (hnew : new.Sublist [.ecAck]) : (types ++ new).Sublist r.script := by
  have happend := h.sublist.append hnew
  rwa [List.append_assoc] at happend

/-- A request counts as an attempt, and the last one begins the fallback. -/
lemma Asked.request (h : r.Asked types) (hretries : r.cfg.maxRetries < 2 ^ 32)
    (hactive : r.fallbackActive = false) (hserver : m.conn.tcpServer.isSome = true)
    {missing : List ℕ} {answer : ℤ} (hrequest : r.requestMissing missing answer m = (r', m')) :
    ∃ msg, ECSender.Request msg ∧ ECSender.askedChunks msg ≤ missing.length ∧
      m' = m.sendMessage msg answer ∧ r'.cfg = r.cfg ∧ r'.layout = r.layout ∧
      ∀ new : List ControlMsgType, new.Sublist [msg.msgType] → r'.Asked (types ++ new) := by
  obtain ⟨hlt, hnacks⟩ := h.nacks hactive
  have hmax : r.maxRequests < 2 ^ 32 := max_lt (by decide) hretries
  have hattempts : (r.decodeAttempts + 1) % 2 ^ 32 = r.decodeAttempts + 1 :=
    Nat.mod_eq_of_lt (by omega)
  unfold requestMissing at hrequest
  rw [Option.isNone_eq_false_iff.mpr hserver, if_neg Bool.false_ne_true] at hrequest
  dsimp only at hrequest
  rw [hattempts] at hrequest
  obtain ⟨rfl, rfl⟩ := Prod.mk.inj hrequest
  have hgaps := askedChunks_requestMessage_le missing
  by_cases hlast : r.cfg.maxRetries ≤ r.decodeAttempts + 1
  · rw [decide_eq_true hlast]
    refine ⟨_, ⟨Or.inr rfl, ?_, rfl⟩, ?_, rfl, rfl, rfl, fun new hnew => ⟨nofun, fun _ => ?_⟩⟩
    · have hle := length_collapseGaps_le 16 missing
      simp only [BitVec.toNat_ofNat]
      omega
    · exact hgaps
    · have hle : r.decodeAttempts ≤ r.maxRequests - 1 := Nat.le_sub_one_of_lt hlt
      exact (hnacks.trans (List.replicate_sublist_replicate _ |>.mpr hle)).append hnew
  · rw [decide_eq_false hlast]
    refine ⟨_, ⟨Or.inl rfl, ?_, rfl⟩, ?_, rfl, rfl, rfl,
      fun new hnew => ⟨fun _ => ⟨?_, ?_⟩, nofun⟩⟩
    · have hle := length_collapseGaps_le 16 missing
      simp only [BitVec.toNat_ofNat]
      omega
    · exact hgaps
    · exact lt_max_of_lt_right (not_le.mp hlast)
    · rw [List.replicate_succ']
      exact hnacks.append hnew

/-- Rebuilding chunks writes to the buffer. -/
lemma recover_frame {isal : Isal} {ptr : Option BufferPtr} {avail missing : List ℕ}
    {result : Bool × ReceiverMemory} (h : r.recover isal ptr avail missing m = some result) :
    result.2.sent = m.sent ∧ result.2.conn.tcpServer = m.conn.tcpServer := by
  unfold recover at h
  split_ifs at h
  · rw [← Option.some.inj h]
    exact ⟨rfl, rfl⟩
  · split at h <;> exact absurd h (by simp)
  · split at h
    · rw [← Option.some.inj h]
      exact ⟨rfl, rfl⟩
    · exact absurd h (by simp)

/-- A call that succeeds sends an EC_ACK at most. -/
lemma conclude_acknowledges {isal : Isal} {answer : ℤ} {seen : Option (List ℕ × List ℕ)}
    (h : r.conclude isal answer seen m = some (true, r', m')) :
    m'.conn.tcpServer = m.conn.tcpServer ∧ r'.cfg = r.cfg ∧ r'.layout = r.layout ∧
      ∃ msg, msg.msgType = .ecAck ∧ ECSender.askedChunks msg = 0 ∧
        (m'.sent = m.sent ∨ m'.sent = m.sent ++ [msg]) := by
  have hdeclare : ∀ (id : ℕ) (m₁ : ReceiverMemory), m₁.sent = m.sent →
      m₁.conn.tcpServer = m.conn.tcpServer →
      (r.declareComplete id answer m₁).conn.tcpServer = m.conn.tcpServer ∧
        ∃ msg, msg.msgType = .ecAck ∧ ECSender.askedChunks msg = 0 ∧
          ((r.declareComplete id answer m₁).sent = m.sent ∨
            (r.declareComplete id answer m₁).sent = m.sent ++ [msg]) := by
    intro id m₁ hsent hserver
    unfold declareComplete
    refine ⟨?_, ecMessage m₁ .ecAck, rfl, rfl, ?_⟩
    · rw [ReceiverMemory.sendMessage_conn]
      exact hserver
    · rw [← hsent]
      exact ReceiverMemory.sendMessage_sent _ _ _
  unfold conclude at h
  split at h
  · split_ifs at h
    · obtain ⟨hr, hm⟩ := Prod.mk.inj (Prod.mk.inj (Option.some.inj h)).2
      subst hr hm
      obtain ⟨hserver, hmsg⟩ := hdeclare _ m rfl rfl
      exact ⟨hserver, rfl, rfl, hmsg⟩
    · exact absurd (congrArg (Option.map Prod.fst) h) (by simp)
    · exact absurd (congrArg (Option.map Prod.fst) h) (by simp)
    · exact absurd (congrArg (Option.map Prod.fst) h) (by simp)
    · obtain ⟨⟨done, m₁⟩, hrecover, heq⟩ := Option.map_eq_some_iff.mp h
      obtain ⟨rfl, heq⟩ := Prod.mk.inj heq
      obtain ⟨rfl, rfl⟩ := Prod.mk.inj heq
      rw [if_pos rfl]
      obtain ⟨hsent, hserver⟩ := recover_frame hrecover
      obtain ⟨hserver, hmsg⟩ := hdeclare _ m₁ hsent hserver
      exact ⟨hserver, rfl, rfl, hmsg⟩
  · exact absurd (congrArg (Option.map Prod.fst) h) (by simp)

end ECReceiver

/-! ### The traffic of a run -/

/-- What a receiver reports: a request for some of the chunks, or its success. -/
def ECSender.Report (chunks : ℕ) (msg : ControlMessage) : Prop :=
  ECSender.Request msg ∧ askedChunks msg ≤ chunks ∨ msg.msgType = .ecAck ∧ askedChunks msg = 0

/-- The control connection and what went over it stay as they are. -/
def Quiet (act : ReceiverMemory → ReceiverMemory) : Prop :=
  ∀ m, (act m).sent = m.sent ∧ (act m).conn.tcpServer = m.conn.tcpServer

lemma receiveDatagram_quiet (bytes : List U8) : Prog.Straight Quiet (receiveDatagram bytes) := by
  unfold receiveDatagram
  split
  · exact Prog.Straight.pure _
  · refine (processPacket_straight _ _).mono fun act hact m => ?_
    cases hact with
    | skip => exact ⟨rfl, rfl⟩
    | write ptr offset data => cases ptr <;> exact ⟨rfl, rfl⟩
    | setReceived => exact ⟨rfl, rfl⟩

lemma pollingRound_quiet (slot : ℕ) : Prog.Straight Quiet (pollingRound slot) := by
  refine (pollingRound_straight slot).mono fun act hact m => ?_
  cases hact with
  | skip => exact ⟨rfl, rfl⟩
  | setChunk c => exact ⟨rfl, rfl⟩
  | leave => exact ⟨rfl, rfl⟩

namespace ECPoll

variable {p p' : ECPoll}

/-- Only a message makes the sender send. -/
lemma step_sender_of_ne {event : ChannelEvent} (hstep : p.step event = some p')
    (hevent : ∀ own msg, event.seen p.connected ≠ .message own msg) : p'.sender = p.sender := by
  rcases step_cases hstep with ⟨hsame, -⟩ | ⟨own, msg, -, -, hseen, -⟩
  · exact hsame
  · exact absurd hseen (hevent own msg)

/-- The sender answers a request, or does not take it for one. -/
lemma step_sender_report {chunks : ℕ} {msg : ControlMessage} (hmsg : ECSender.Report chunks msg)
    (hacked : ∀ acked ∈ p.sender.chunkAcked, acked = false)
    (hsized : p.sender.dataChunks ≤ p.sender.chunkAcked.length)
    (hstep : p.step (.message true msg) = some p') :
    p'.sender = p.sender ∨ p'.sender = p.sender.emit (p.sender.answer msg) := by
  obtain ⟨sender, connected, state⟩ := p
  cases connected with
  | false => exact Or.inl (step_sender_of_ne hstep fun own msg h => ChannelEvent.noConfusion h)
  | true =>
    cases state with
    | returned rc =>
      rcases step_cases hstep with ⟨hsame, -⟩ | ⟨_, _, _, hstate, -⟩
      · exact Or.inl hsame
      · exact PollState.noConfusion hstate
    | sendPoll afterTimeout =>
      rcases step_cases hstep with ⟨hsame, -⟩ | ⟨_, _, _, hstate, -⟩
      · exact Or.inl hsame
      · exact PollState.noConfusion hstate
    | main =>
      have hseen : ChannelEvent.seen (.message true msg) true = .message true msg := if_pos rfl
      simp only [step, hseen] at hstep
      rcases hmsg with ⟨hrequest, -⟩ | ⟨htype, -⟩
      · have hreport := ECSender.onReport_request hrequest hacked hsized
        rcases hrequest.msgType with htype | htype
        · simp only [htype, hreport, Option.map_some, Option.some.injEq] at hstep
          exact Or.inr (hstep ▸ rfl)
        · simp only [htype, hreport, Option.map_some, Option.some.injEq] at hstep
          exact Or.inr (hstep ▸ rfl)
      · simp only [htype, Option.some.injEq] at hstep
        exact Or.inl (hstep ▸ rfl)

end ECPoll

/-- `post_receive` starts without an attempt. -/
lemma ECHandshake.receiver_fresh (h : ECHandshake) :
    h.receiver.cfg = h.receiverCfg ∧ h.receiver.decodeAttempts = 0 := by
  have hreceives := h.receives
  unfold ECReceiver.postReceive at hreceives
  dsimp only at hreceives
  split_ifs at hreceives
  rw [← Option.some.inj hreceives]
  exact ⟨rfl, rfl⟩

namespace EcTransfer

/-- What the receiver has sent since `s₀`. -/
def reports (s₀ s : EcTransfer) : List ControlMessage :=
  s.link.memory.sent.drop s₀.link.memory.sent.length

/-- Of that, what the sender has taken. -/
def taken (s₀ s : EcTransfer) : List ControlMessage :=
  (s₀.reports s).take (s.consumed - s₀.link.memory.sent.length)

/-- A transfer that came from `s₀`: what was asked for, and what was sent for it. -/
structure Traffic (s₀ s : EcTransfer) : Prop where
  quiet : ∀ th, Prog.Straight Quiet (s.link.pool.threads th)
  scan : ∀ program, s.scan = some program → Prog.Straight (· = id) program ∧
    Prog.Returns (ECReceiver.ReadsWithin s₀.receiver.layout.dataChunks) program
  server : s.link.memory.conn.tcpServer.isSome = true
  cfg : s.receiver.cfg = s₀.receiver.cfg
  layout : s.receiver.layout = s₀.receiver.layout
  before : s₀.link.memory.sent.length ≤ s.consumed
  consumed : s.consumed ≤ s.link.memory.sent.length
  asked : s.decoded = false → s.receiver.Asked ((s₀.reports s).map ControlMessage.msgType)
  done : s.decoded = true → s.scan = none ∧
    ((s₀.reports s).map ControlMessage.msgType).Sublist s₀.receiver.script
  report : ∀ msg ∈ s₀.reports s, ECSender.Report s₀.receiver.layout.dataChunks msg
  acked : ∀ acked ∈ s.poll.sender.chunkAcked, acked = false
  sized : s.poll.sender.dataChunks ≤ s.poll.sender.chunkAcked.length
  params : s.poll.sender.params = s₀.poll.sender.params
  sent : s.poll.sender.sent.length ≤ s₀.poll.sender.sent.length
    + ((s₀.taken s).map ECSender.askedChunks).sum * ecPacketsPerChunk s₀.poll.sender.params

variable {isal : Isal} {s₀ s s' : EcTransfer}

lemma reports_eq (hsent : s'.link.memory.sent = s.link.memory.sent) :
    s₀.reports s' = s₀.reports s := by
  rw [reports, reports, hsent]

lemma Traffic.withLink (h : s₀.Traffic s) {l : Link}
    (hquiet : ∀ th, Prog.Straight Quiet (l.pool.threads th))
    (hsent : l.memory.sent = s.link.memory.sent)
    (hserver : l.memory.conn.tcpServer = s.link.memory.conn.tcpServer) :
    s₀.Traffic { s with link := l } := by
  have hreports : s₀.reports { s with link := l } = s₀.reports s := reports_eq hsent
  have htaken : s₀.taken { s with link := l } = s₀.taken s := by rw [taken, taken, hreports]
  exact
    { h with
      quiet := hquiet
      server := by
        change l.memory.conn.tcpServer.isSome = true
        rw [hserver]
        exact h.server
      consumed := h.consumed.trans_eq (congrArg List.length hsent).symm
      asked := fun hdecoded => hreports ▸ h.asked hdecoded
      done := fun hdecoded => hreports ▸ h.done hdecoded
      report := hreports ▸ h.report
      sent := htaken ▸ h.sent }

/-- Workers and the poller send nothing. -/
lemma Traffic.linkStep (h : s₀.Traffic s) {slot : ℕ} {l : Link} (hl : s.link.Step slot l) :
    s₀.Traffic { s with link := l } := by
  have hupdate : ∀ (th : Thread) (program : Prog ReceiverMemory PUnit),
      Prog.Straight Quiet program →
        ∀ th', Prog.Straight Quiet (Function.update s.link.pool.threads th program th') := by
    intro th program hprogram th'
    by_cases hth : th' = th
    · subst hth
      rw [Function.update_self]
      exact hprogram
    · rw [Function.update_of_ne hth]
      exact h.quiet th'
  cases hl with
  | receive i p hp idle => exact h.withLink (hupdate _ _ (receiveDatagram_quiet _)) rfl rfl
  | poll idle => exact h.withLink (hupdate _ _ (pollingRound_quiet slot)) rfl rfl
  | move hmove =>
    obtain ⟨hquiet, th, act, hact, hmemory⟩ := hmove.straight (A := fun _ => Quiet) h.quiet
    refine h.withLink hquiet ?_ ?_
    · exact (congrArg ReceiverMemory.sent hmemory).trans (hact _).1
    · exact (congrArg (fun m : ReceiverMemory => m.conn.tcpServer) hmemory).trans (hact _).2
  | duplicate p hp => exact h.withLink h.quiet rfl rfl

/-- The sender may have taken more of the reports, and sent what they ask for. -/
lemma Traffic.withPoll (h : s₀.Traffic s) {poll : ECPoll} (packets : List SDRPacket) {consumed : ℕ}
    (hacked : poll.sender.chunkAcked = s.poll.sender.chunkAcked)
    (hcfg : poll.sender.cfg = s.poll.sender.cfg)
    (hparams : poll.sender.params = s.poll.sender.params)
    (hle : s.consumed ≤ consumed) (hconsumed : consumed ≤ s.link.memory.sent.length)
    (hsent : poll.sender.sent.length ≤ s₀.poll.sender.sent.length
      + (((s₀.reports s).take (consumed - s₀.link.memory.sent.length)).map
        ECSender.askedChunks).sum * ecPacketsPerChunk s₀.poll.sender.params) :
    s₀.Traffic { s with link := s.link.send packets, poll, consumed } := by
  have hdataChunks : poll.sender.dataChunks = s.poll.sender.dataChunks := by
    simp only [ECSender.dataChunks, ECSender.chunkBytes, hcfg, hparams]
  exact
    { h with
      before := h.before.trans hle
      consumed := hconsumed
      acked := hacked ▸ h.acked
      sized := by
        rw [hdataChunks, hacked]
        exact h.sized
      params := hparams.trans h.params
      sent := hsent }

lemma Traffic.event_of_ne (h : s₀.Traffic s) {e : ChannelEvent}
    (he : ∀ own msg, e ≠ .message own msg) (hs : s.event e = some s') : s₀.Traffic s' := by
  obtain ⟨poll, hstep, rfl⟩ := Option.map_eq_some_iff.mp hs
  have hseen : ∀ own msg, e.seen s.poll.connected ≠ .message own msg := by
    intro own msg
    unfold ChannelEvent.seen
    split_ifs
    · exact he own msg
    · exact ChannelEvent.noConfusion
  have hsame := ECPoll.step_sender_of_ne hstep hseen
  refine h.withPoll _ ?_ ?_ ?_ le_rfl h.consumed ?_
  · rw [hsame]
  · rw [hsame]
  · rw [hsame]
  · rw [hsame]
    exact h.sent

/-- The sender takes a report, and sends no more than the report asks for. -/
lemma Traffic.deliver (h : s₀.Traffic s) {msg : ControlMessage}
    (hmsg : s.link.memory.sent[s.consumed]? = some msg)
    (hs : s.event (.message true msg) = some s') :
    s₀.Traffic { s' with consumed := s.consumed + 1 } := by
  obtain ⟨poll, hstep, rfl⟩ := Option.map_eq_some_iff.mp hs
  have hlt : s.consumed < s.link.memory.sent.length := (List.getElem?_eq_some_iff.mp hmsg).1
  have hnext : (s₀.reports s)[s.consumed - s₀.link.memory.sent.length]? = some msg := by
    rw [reports, List.getElem?_drop, Nat.add_sub_cancel' h.before]
    exact hmsg
  have htake : (s₀.reports s).take (s.consumed + 1 - s₀.link.memory.sent.length)
      = s₀.taken s ++ [msg] := by
    rw [Nat.sub_add_comm h.before, List.take_add_one, hnext]
    rfl
  have hreport := h.report msg (List.mem_of_getElem? hnext)
  have hsent := h.sent
  have hppc : ecPacketsPerChunk s.poll.sender.params = ecPacketsPerChunk s₀.poll.sender.params := by
    rw [h.params]
  rcases ECPoll.step_sender_report hreport h.acked h.sized hstep with hsame | hanswered
  · refine h.withPoll _ ?_ ?_ ?_ (Nat.le_succ _) hlt ?_
    · rw [hsame]
    · rw [hsame]
    · rw [hsame]
    · rw [hsame, htake, List.map_append, List.sum_append, Nat.add_mul]
      exact hsent.trans (Nat.add_le_add_left (Nat.le_add_right _ _) _)
  · refine h.withPoll _ ?_ ?_ ?_ (Nat.le_succ _) hlt ?_
    · rw [hanswered]
      rfl
    · rw [hanswered]
      rfl
    · rw [hanswered]
      rfl
    · have hanswer := s.poll.sender.length_answer_le msg
      rw [hppc] at hanswer
      rw [hanswered, htake, List.map_append, List.sum_append, Nat.add_mul, List.map_singleton,
        List.sum_singleton, ECSender.emit, List.length_append]
      omega

/-- The receiver may have sent a report. -/
lemma Traffic.withReceiver (h : s₀.Traffic s) {m : ReceiverMemory} {r : ECReceiver} {decoded : Bool}
    (new : List ControlMessage) (hsent : m.sent = s.link.memory.sent ++ new)
    (hserver : m.conn.tcpServer = s.link.memory.conn.tcpServer) (hcfg : r.cfg = s.receiver.cfg)
    (hlayout : r.layout = s.receiver.layout)
    (hnew : ∀ msg ∈ new, ECSender.Report s₀.receiver.layout.dataChunks msg)
    (hasked : decoded = false →
      r.Asked ((s₀.reports s).map ControlMessage.msgType ++ new.map ControlMessage.msgType))
    (hdone : decoded = true → ((s₀.reports s).map ControlMessage.msgType
      ++ new.map ControlMessage.msgType).Sublist s₀.receiver.script) :
    s₀.Traffic { s with link := s.link.withMemory m, receiver := r, scan := none, decoded } := by
  have hbefore : s₀.link.memory.sent.length ≤ s.link.memory.sent.length :=
    h.before.trans h.consumed
  have hreports : s₀.reports { s with
      link := s.link.withMemory m, receiver := r, scan := none, decoded }
        = s₀.reports s ++ new := by
    change m.sent.drop _ = _
    rw [hsent, List.drop_append_of_le_length hbefore]
    rfl
  have htaken : s₀.taken { s with
      link := s.link.withMemory m, receiver := r, scan := none, decoded } = s₀.taken s := by
    rw [taken, hreports]
    refine List.take_append_of_le_length ?_
    rw [reports, List.length_drop]
    exact Nat.sub_le_sub_right h.consumed _
  exact
    { quiet := h.quiet
      scan := nofun
      server := by
        change m.conn.tcpServer.isSome = true
        rw [hserver]
        exact h.server
      cfg := hcfg.trans h.cfg
      layout := hlayout.trans h.layout
      before := h.before
      consumed := by
        change s.consumed ≤ m.sent.length
        rw [hsent, List.length_append]
        exact h.consumed.trans (Nat.le_add_right _ _)
      asked := fun hdecoded => by
        rw [hreports, List.map_append]
        exact hasked hdecoded
      done := fun hdecoded => ⟨rfl, by
        rw [hreports, List.map_append]
        exact hdone hdecoded⟩
      report := by
        rw [hreports, List.forall_mem_append]
        exact ⟨h.report, hnew⟩
      acked := h.acked
      sized := h.sized
      params := h.params
      sent := htaken ▸ h.sent }

lemma maxRequests_eq {r r' : ECReceiver} (hcfg : r'.cfg = r.cfg) :
    r'.maxRequests = r.maxRequests := by
  rw [ECReceiver.maxRequests, ECReceiver.maxRequests, hcfg]

/-- A call of `try_decode` ends. -/
lemma Traffic.conclude (h : s₀.Traffic s) (hretries : s₀.receiver.cfg.maxRetries < 2 ^ 32)
    {seen : Option (List ℕ × List ℕ)} (hscan : s.scan = some (.done seen))
    (hs : s.conclude isal seen = some s') : s₀.Traffic s' := by
  have hdecoded : s.decoded = false := by
    by_contra hdone
    have hnone := (h.done (Bool.eq_true_of_not_eq_false hdone)).1
    exact absurd (hnone.symm.trans hscan) (by simp)
  have hasked := h.asked hdecoded
  have hread : ECReceiver.ReadsWithin s₀.receiver.layout.dataChunks seen := (h.scan _ hscan).2
  obtain ⟨⟨decoded, r, m⟩, hconclude, rfl⟩ := Option.map_eq_some_iff.mp hs
  cases decoded with
  | true =>
    obtain ⟨hserver, hcfg, hlayout, msg, htype, hzero, hsent⟩ :=
      ECReceiver.conclude_acknowledges hconclude
    have hscript : s.receiver.script = s₀.receiver.script := by
      rw [ECReceiver.script, ECReceiver.script, maxRequests_eq h.cfg]
    rcases hsent with hsent | hsent
    · refine h.withReceiver [] (by rw [hsent, List.append_nil]) hserver hcfg hlayout
        (by simp) nofun fun _ => ?_
      exact hscript ▸ hasked.acknowledged (List.nil_sublist _)
    · refine h.withReceiver _ hsent hserver hcfg hlayout ?_ nofun fun _ => ?_
      · exact fun msg' hmsg' => List.mem_singleton.mp hmsg' ▸ Or.inr ⟨htype, hzero⟩
      · rw [List.map_singleton, htype]
        exact hscript ▸ hasked.acknowledged (List.Sublist.refl _)
  | false =>
    rcases ECReceiver.conclude_false hconclude with ⟨rfl, rfl⟩ | hrequest
    · exact h.withReceiver [] (by simp) rfl rfl rfl (by simp)
        (fun _ => by simpa using hasked) nofun
    · obtain ⟨missing, avail, hseen, hactive, -, hrequest⟩ := hrequest
      obtain ⟨msg, hmsg, hchunks, rfl, hcfg, hlayout, hnext⟩ :=
        hasked.request (h.cfg ▸ hretries) hactive h.server hrequest
      have hserver := congrArg SDRConnection.tcpServer
        (s.link.memory.sendMessage_conn msg sizeofControlMessage)
      have hreport : ECSender.Report s₀.receiver.layout.dataChunks msg :=
        Or.inl ⟨hmsg, hchunks.trans (hread missing avail hseen)⟩
      rcases s.link.memory.sendMessage_sent msg sizeofControlMessage with hsent | hsent
      · exact h.withReceiver [] (by rw [hsent, List.append_nil]) hserver hcfg hlayout
          (by simp) (fun _ => hnext [] (List.nil_sublist _)) nofun
      · refine h.withReceiver _ hsent hserver hcfg hlayout ?_
          (fun _ => hnext _ (List.Sublist.refl _)) nofun
        exact fun msg' hmsg' => List.mem_singleton.mp hmsg' ▸ hreport

lemma Traffic.step (h : s₀.Traffic s) (hretries : s₀.receiver.cfg.maxRetries < 2 ^ 32) {slot : ℕ}
    (hstep : Step isal slot s s') : s₀.Traffic s' := by
  cases hstep with
  | link hl => exact h.linkStep hl
  | call idle hdecoded =>
    refine { h with scan := fun program hprogram => ?_, done := fun hdone => ?_ }
    · obtain rfl := Option.some.inj hprogram
      exact ⟨s.receiver.look_straight, h.layout ▸ s.receiver.look_returns⟩
    · exact absurd (hdecoded.symm.trans hdone) Bool.false_ne_true
  | load hscan =>
    rename_i act next
    obtain ⟨⟨rfl, hstraight⟩, hreturns⟩ := h.scan _ hscan
    have hsame : s.link.withMemory (id s.link.memory) = s.link := rfl
    rw [hsame]
    refine { h with scan := fun program hprogram => ?_, done := fun hdone => ?_ }
    · obtain rfl := Option.some.inj hprogram
      exact ⟨hstraight _, hreturns _⟩
    · exact absurd ((h.done hdone).1.symm.trans hscan) (by simp)
  | conclude hscan hs => exact h.conclude hretries hscan hs
  | deliver hmsg hs => exact h.deliver hmsg hs
  | timeout hs => exact h.event_of_ne (fun _ _ => ChannelEvent.noConfusion) hs

lemma Traffic.lossyStep (h : s₀.Traffic s) (hretries : s₀.receiver.cfg.maxRetries < 2 ^ 32)
    {slot : ℕ} (hstep : LossyStep isal slot s s') : s₀.Traffic s' := by
  cases hstep with
  | step hstep => exact h.step hretries hstep
  | lose p => exact h.withLink h.quiet rfl rfl
  | disconnect hs => exact h.event_of_ne (fun _ _ => ChannelEvent.noConfusion) hs

lemma Traffic.run (h : s₀.Traffic s) (hretries : s₀.receiver.cfg.maxRetries < 2 ^ 32) {slot : ℕ}
    (hs : Relation.ReflTransGen (LossyStep isal slot) s s') : s₀.Traffic s' := by
  induction hs with
  | refl => exact h
  | tail _ hstep ih => exact ih.lossyStep hretries hstep

/-! ### Bounds -/

/-- Each report but the EC_ACKs asks for a number of chunks at most. -/
lemma sum_askedChunks_le {chunks : ℕ} {msgs : List ControlMessage}
    (h : ∀ msg ∈ msgs, ECSender.Report chunks msg) : (msgs.map ECSender.askedChunks).sum
      ≤ (msgs.map ControlMessage.msgType).countP (· ≠ .ecAck) * chunks := by
  induction msgs with
  | nil => exact Nat.zero_le _
  | cons msg msgs ih =>
    obtain ⟨hmsg, hrest⟩ := List.forall_mem_cons.mp h
    have hsum := ih hrest
    rw [List.map_cons, List.sum_cons, List.map_cons, List.countP_cons, Nat.add_mul]
    rcases hmsg with ⟨hrequest, hle⟩ | ⟨-, hzero⟩
    · have hne : msg.msgType ≠ .ecAck := by
        rcases hrequest.msgType with htype | htype <;> rw [htype] <;> decide
      rw [if_pos (decide_eq_true hne), Nat.one_mul]
      omega
    · rw [hzero]
      omega

lemma countP_script (r : ECReceiver) : r.script.countP (· ≠ .ecAck) = r.maxRequests := by
  have hpos : 1 ≤ r.maxRequests := le_max_left _ _
  rw [ECReceiver.script, List.countP_append, List.countP_replicate]
  change r.maxRequests - 1 + 1 = r.maxRequests
  exact Nat.sub_add_cancel hpos

/-- All that a receiver sends, with or without success. -/
lemma Traffic.sublist (h : s₀.Traffic s) :
    ((s₀.reports s).map ControlMessage.msgType).Sublist s₀.receiver.script := by
  cases hdecoded : s.decoded with
  | true => exact (h.done hdecoded).2
  | false =>
    have hasked := (h.asked hdecoded).acknowledged (List.nil_sublist _)
    rw [List.append_nil] at hasked
    rwa [ECReceiver.script, maxRequests_eq h.cfg] at hasked

lemma Traffic.sent_le (h : s₀.Traffic s) : s.poll.sender.sent.length ≤ s₀.poll.sender.sent.length
    + s₀.receiver.maxRequests * s₀.receiver.layout.dataChunks
      * ecPacketsPerChunk s₀.poll.sender.params := by
  have htaken : (s₀.taken s).Sublist (s₀.reports s) := List.take_sublist _ _
  have hsum := sum_askedChunks_le fun msg hmsg => h.report msg (htaken.subset hmsg)
  have hcount := ((htaken.map ControlMessage.msgType).trans h.sublist).countP_le
    (p := fun t => decide (t ≠ .ecAck))
  rw [countP_script] at hcount
  refine h.sent.trans (Nat.add_le_add_left (Nat.mul_le_mul_right _ ?_) _)
  exact hsum.trans (Nat.mul_le_mul_right _ hcount)

/-- A transfer after its handshake has asked for nothing. -/
lemma traffic_start (h : ECHandshake) (hsized : h.sender.dataChunks ≤ h.encoded.dataChunks) :
    h.transfer.Traffic h.transfer := by
  have hreports : h.transfer.reports h.transfer = [] := List.drop_length
  exact
    { quiet := fun _ => Prog.Straight.pure _
      scan := nofun
      server := by
        obtain ⟨server, hserver, -⟩ := recvPostOnOffer_server h.answered_eq
        change h.posted.2.conn.tcpServer.isSome = true
        rw [h.posted_memory]
        exact Option.isSome_iff_exists.mpr ⟨server, hserver⟩
      cfg := rfl
      layout := rfl
      before := le_rfl
      consumed := le_rfl
      asked := fun _ => by
        rw [hreports]
        refine ⟨fun _ => ⟨?_, List.nil_sublist _⟩, fun _ => List.nil_sublist _⟩
        change h.receiver.decodeAttempts < _
        rw [h.receiver_fresh.2]
        exact lt_max_of_lt_left Nat.one_pos
      done := nofun
      report := by simp [hreports]
      acked := fun acked hacked => (List.mem_replicate.mp hacked).2
      sized := hsized.trans_eq List.length_replicate.symm
      params := rfl
      sent := Nat.le_add_right _ _ }

/-- Whatever is lost and however the calls fall, the receiver of an EC transfer sends EC_NACKs at
most as often as it may try before it falls back, one EC_FALLBACK_SR and one EC_ACK, in this order,
and the sender resends no more than the data chunks once for each request. -/
theorem ecTraffic_bounded {h : ECHandshake} (hretries : h.receiverCfg.maxRetries < 2 ^ 32)
    (hsized : h.sender.dataChunks ≤ h.encoded.dataChunks) {s : EcTransfer}
    (hs : Relation.ReflTransGen (LossyStep h.isal h.recvId) h.transfer s) :
    let requests := max 1 h.receiverCfg.maxRetries
    let reports := s.link.memory.sent.drop h.posted.2.sent.length
    (reports.map ControlMessage.msgType).Sublist
        (List.replicate (requests - 1) .ecNack ++ [.ecFallbackSr, .ecAck]) ∧
      s.poll.sender.sent.length
        ≤ requests * h.receiver.layout.dataChunks * ecPacketsPerChunk h.cts.params := by
  intro requests reports
  have hcfg := h.receiver_fresh.1
  have htraffic := (traffic_start h hsized).run (show h.receiver.cfg.maxRetries < 2 ^ 32 from
    hcfg ▸ hretries) hs
  have hrequests : h.transfer.receiver.maxRequests = requests := by
    change max 1 h.receiver.cfg.maxRetries = _
    rw [hcfg]
  refine ⟨?_, ?_⟩
  · have hsublist := htraffic.sublist
    rwa [ECReceiver.script, hrequests] at hsublist
  · have hsent := htraffic.sent_le
    rw [hrequests, show h.transfer.poll.sender.params = h.cts.params from h.sender_params] at hsent
    exact hsent.trans_eq (Nat.zero_add _)

/-- A transfer of two data chunks of two packets each that runs until its message is restored. -/
theorem ecTraffic_bounded_sample : ∃ s : EcTransfer,
    Relation.ReflTransGen (LossyStep samplePair.isal samplePair.recvId) samplePair.transfer s ∧
    s.decoded = true ∧
    ((s.link.memory.sent.drop samplePair.posted.2.sent.length).map
        ControlMessage.msgType).Sublist [.ecNack, .ecNack, .ecFallbackSr, .ecAck] ∧
    s.poll.sender.sent.length ≤ 3 * 2 * 2 := by
  obtain ⟨s, hthrough, hdone⟩ := samplePair_countable.inv.getsThrough_of_recoverable
    samplePair_countable.fits samplePair_recoverable
  have hs := Relation.ReflTransGen.mono (fun _ _ => LossyStep.step) _ _ hthrough
  obtain ⟨hscript, hsent⟩ := ecTraffic_bounded (show (3 : ℕ) < 2 ^ 32 by decide)
    samplePair_countable.sized hs
  exact ⟨s, hs, hdone, hscript, hsent⟩

end EcTransfer

end SdrUdp
