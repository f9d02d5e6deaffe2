import SdrUdp.EcSender

/-!
# What a poll has seen when it returns 0

`sdr_send_poll`, `SRSender::poll` and `ECSender::poll` over any sequence of calls and events of the
control channel, with a record of the messages they consume.
-/

namespace SdrUdp

open SdrUdp.Core

/-- A sender that polls: with the plain API, with selective repeat or with the erasure code. -/
inductive Poll where
  | send (totalChunks : ℕ) (connected : Bool) (state : PollState)
  | sr (p : SRPoll)
  | ec (p : ECPoll)

namespace Poll

def state : Poll → PollState
  | send _ _ state => state
  | sr p           => p.state
  | ec p           => p.state

def connected : Poll → Bool
  | send _ connected _ => connected
  | sr p               => p.connected
  | ec p               => p.connected

/-- Number of chunks whose arrival completes the transfer. -/
def totalChunks : Poll → ℕ
  | send totalChunks _ _ => totalChunks
  | sr p                 => p.sender.totalChunks
  | ec p                 => p.sender.chunkAcked.length

/-- Calling the poll (again). -/
def call : Poll → Poll
  | send totalChunks connected _ => send totalChunks connected (enterSendPoll connected false)
  | sr p                         => sr p.call
  | ec p                         => ec p.call

/-- One call of `receive_message` in `sdr_send_poll` on its own. -/
def sendStep (totalChunks : ℕ) (connected : Bool) (state : PollState) (event : ChannelEvent) :
    Poll :=
  match state with
  | .returned _ => send totalChunks connected state
  | _           =>
    let event := event.seen connected
    match sendPollRound event with
    | none    => send totalChunks event.keepsConnection state
    | some rc => send totalChunks event.keepsConnection (.returned rc)

/-- One call of `receive_message`, with the clock `now`. -/
def step : Poll → Clock → ChannelEvent → Option Poll
  | send totalChunks connected state, _, event => some (sendStep totalChunks connected state event)
  | sr p, now, event                           => some (sr (p.step now event))
  | ec p, _, event                             => (p.step event).map ec

/-- The message that a step consumes. -/
def consumes (p : Poll) (event : ChannelEvent) : Option (Bool × ControlMessage) :=
  match p.state, event.seen p.connected with
  | .returned _, _        => none
  | _, .message own msg   => some (own, msg)
  | _, _                  => none

end Poll

/-! ### Runs -/

/-- A poll and the messages it has consumed. -/
structure PollRun where
  poll : Poll
  consumed : List (Bool × ControlMessage)

/-- What happens to a poll. -/
inductive PollAction where
  | call
  | receive (now : Clock) (event : ChannelEvent)

/-- The action finds the clock `clock`. -/
def PollAction.Reads (clock : Clock) : PollAction → Prop
  | .receive now _ => now = clock
  | .call          => True

/-- One action; a step of the poll may be undefined. -/
def PollRun.act (w : PollRun) : PollAction → Option PollRun
  | .call              => some { w with poll := w.poll.call }
  | .receive now event => (w.poll.step now event).map fun poll =>
    ⟨poll, w.consumed ++ (w.poll.consumes event).toList⟩

/-- The receiver has the transfer complete: a COMPLETE_ACK or EC_ACK of this transfer was
consumed, or acknowledgements of it that cover all chunks. -/
def Justified (totalChunks : ℕ) (consumed : List (Bool × ControlMessage)) : Prop :=
  (∃ msg, (true, msg) ∈ consumed ∧ (msg.msgType = .completeAck ∨ msg.msgType = .ecAck)) ∨
    ∀ c < totalChunks, ∃ msg, (true, msg) ∈ consumed ∧ Acknowledges msg c

/-- The types of message that say something about what has arrived. -/
def ControlMsgType.IsReport (t : ControlMsgType) : Prop :=
  t = .completeAck ∨ t = .ecAck ∨ t = .srAck ∨ t = .srNack ∨ t = .ecNack ∨ t = .ecFallbackSr

namespace Poll

/-- An event that a poll does not mistake for completion. -/
structure RegularEvent (p : Poll) (event : ChannelEvent) : Prop where
  /-- Reports of other transfers are not consumed. -/
  own : ∀ msg, p.consumes event = some (false, msg) → ¬ msg.msgType.IsReport
  /-- `SRSender::poll` and `ECSender::poll` find the connection open in their own loop. -/
  connectionOpen : p.state = .main → event.seen p.connected ≠ .disconnected
  /-- An SR_ACK that reaches its own `total_chunks` covers the chunks of the sender. -/
  cumulative : ∀ q own msg, p = sr q → q.state = .main → p.consumes event = some (own, msg) →
    msg.msgType = .srAck → SRSender.ackCompletes msg = true →
    msg.params.maxInflight ≠ uint32Max ∧ q.sender.totalChunks ≤ msg.params.maxInflight.toNat + 1
  /-- `ECSender::poll` counts the data chunks that were sent. -/
  geometry : ∀ q, p = ec q → q.sender.dataChunks = q.sender.chunkAcked.length
  /-- Gap lists are no longer than their arrays. -/
  gaps : ∀ own msg, p.consumes event = some (own, msg) → msg.numGaps.toNat ≤ 16

/-- A regular event, or a call; `sdr_send_poll` on its own is called with the connection open. -/
def Regular (p : Poll) : PollAction → Prop
  | .call            => ∀ totalChunks state, p ≠ send totalChunks false state
  | .receive _ event => p.RegularEvent event

end Poll

/-- The runs of a poll from its first call on, under calls and events that are regular. -/
inductive PollRun.Reachable (start : Poll) : PollRun → Prop
  | start : Reachable start ⟨start, []⟩
  | act {w w' : PollRun} (action : PollAction) (h : Reachable start w)
      (hregular : w.poll.Regular action) (hact : w.act action = some w') : Reachable start w'

/-- No call of the poll has returned yet, and nothing is acknowledged. -/
structure Poll.Fresh (p : Poll) : Prop where
  state : p.state = .returned (-1)
  acked : ∀ q : ECPoll, p = .ec q → ∀ c : ℕ, q.sender.chunkAcked[c]? ≠ some true

/-! ### Where a poll returns 0 -/

/-- An SR poll returns 0 on a COMPLETE_ACK, on an SR_ACK that reaches its own `total_chunks`, or
because the connection is closed. -/
lemma SRPoll.step_returned {p : SRPoll} {now : Clock} {event : ChannelEvent}
    (h : (p.step now event).state = .returned 0) :
    p.state = .returned 0 ∨ (p.state = .main ∧ event.seen p.connected = .disconnected) ∨
      ∃ own msg, (∀ rc, p.state ≠ .returned rc) ∧ event.seen p.connected = .message own msg ∧
        (msg.msgType = .completeAck ∨
          (p.state = .main ∧ msg.msgType = .srAck ∧ SRSender.ackCompletes msg = true)) := by
  cases hstate : p.state with
  | returned rc =>
    simp only [step, hstate] at h
    exact Or.inl (by simpa using h)
  | sendPoll afterTimeout =>
    cases hseen : event.seen p.connected with
    | message own msg =>
      refine Or.inr (Or.inr ⟨own, msg, by simp, rfl, Or.inl ?_⟩)
      simp only [step, hstate, hseen, sendPollRound] at h
      by_contra hack
      rw [if_neg hack] at h
      split_ifs at h <;> simp at h
    | timeout => simp [step, hstate, hseen, sendPollRound] at h
    | disconnected => simp [step, hstate, hseen, sendPollRound] at h
  | main =>
    cases hseen : event.seen p.connected with
    | message own msg =>
      refine Or.inr (Or.inr ⟨own, msg, by simp, rfl, ?_⟩)
      simp only [step, hstate, hseen, ChannelEvent.keepsConnection] at h
      split at h
      · rename_i htype
        refine Or.inr ⟨rfl, htype, ?_⟩
        by_contra hcompletes
        simp [hcompletes] at h
      · simp at h
      · rename_i htype
        exact Or.inl htype
      · simp at h
      · simp [enterSendPoll] at h
    | timeout => simp [step, hstate, hseen, ChannelEvent.keepsConnection, enterSendPoll] at h
    | disconnected => exact Or.inr (Or.inl ⟨rfl, rfl⟩)

/-- What a step of an EC poll does: it stands still, waits, passes a report on, or ends. -/
lemma ECPoll.step_cases {p p' : ECPoll} {event : ChannelEvent} (hstep : p.step event = some p') :
    (p'.sender = p.sender ∧ (p'.state = .returned 0 →
      p.state = .returned 0 ∨ (p.state = .main ∧ event.seen p.connected = .disconnected) ∨
        ∃ own msg, (∀ rc, p.state ≠ .returned rc) ∧ event.seen p.connected = .message own msg ∧
          (msg.msgType = .completeAck ∨ msg.msgType = .ecAck))) ∨
      ∃ own msg allDone, p.state = .main ∧ event.seen p.connected = .message own msg ∧
        msg.msgType.IsReport ∧ p.sender.onReport msg = some (p'.sender, allDone) ∧
        (p'.state = .returned 0 → allDone = true) := by
  cases hstate : p.state with
  | returned rc =>
    simp only [step, hstate, Option.some.injEq] at hstep
    subst hstep
    exact Or.inl ⟨rfl, fun h => Or.inl (hstate ▸ h)⟩
  | sendPoll afterTimeout =>
    refine Or.inl ?_
    cases hseen : event.seen p.connected with
    | message own msg =>
      simp only [step, hstate, hseen, sendPollRound] at hstep
      by_cases hack : msg.msgType = .completeAck
      · rw [if_pos hack] at hstep
        obtain rfl := Option.some.inj hstep
        exact ⟨rfl, fun _ => Or.inr (Or.inr ⟨own, msg, by simp, rfl, Or.inl hack⟩)⟩
      · rw [if_neg hack] at hstep
        split_ifs at hstep <;> obtain rfl := Option.some.inj hstep <;>
          exact ⟨rfl, fun h => by simp at h⟩
    | timeout =>
      simp only [step, hstate, hseen, sendPollRound, Option.some.injEq] at hstep
      subst hstep
      exact ⟨rfl, fun h => by simp at h⟩
    | disconnected =>
      simp only [step, hstate, hseen, sendPollRound, ChannelEvent.keepsConnection] at hstep
      obtain rfl := Option.some.inj hstep
      exact ⟨rfl, fun h => by simp at h⟩
  | main =>
    cases hseen : event.seen p.connected with
    | message own msg =>
      have hreport (htype : msg.msgType.IsReport)
          (hmap : (p.sender.onReport msg).map (afterReport true) = some p') :
          ∃ own' msg' allDone, PollState.main = .main ∧
            ChannelEvent.message own msg = .message own' msg' ∧ msg'.msgType.IsReport ∧
            p.sender.onReport msg' = some (p'.sender, allDone) ∧
            (p'.state = .returned 0 → allDone = true) := by
        obtain ⟨result, hresult, rfl⟩ := Option.map_eq_some_iff.mp hmap
        refine ⟨own, msg, result.2, rfl, rfl, htype, hresult, fun h => ?_⟩
        by_contra hdone
        simp [afterReport, hdone] at h
      simp only [step, hstate, hseen, ChannelEvent.keepsConnection] at hstep
      split at hstep
      · rename_i htype
        obtain rfl := Option.some.inj hstep
        exact Or.inl ⟨rfl, fun _ => Or.inr (Or.inr ⟨own, msg, by simp, rfl, Or.inr htype⟩)⟩
      · rename_i htype
        obtain rfl := Option.some.inj hstep
        exact Or.inl ⟨rfl, fun _ => Or.inr (Or.inr ⟨own, msg, by simp, rfl, Or.inl htype⟩)⟩
      · exact Or.inr (hreport (by simp_all [ControlMsgType.IsReport]) hstep)
      · exact Or.inr (hreport (by simp_all [ControlMsgType.IsReport]) hstep)
      · exact Or.inr (hreport (by simp_all [ControlMsgType.IsReport]) hstep)
      · exact Or.inr (hreport (by simp_all [ControlMsgType.IsReport]) hstep)
      · obtain rfl := Option.some.inj hstep
        exact Or.inl ⟨rfl, fun h => by simp at h⟩
    | timeout =>
      simp only [step, hstate, hseen, ChannelEvent.keepsConnection, enterSendPoll, if_true,
        Option.some.injEq] at hstep
      subst hstep
      exact Or.inl ⟨rfl, fun h => by simp at h⟩
    | disconnected =>
      simp only [step, hstate, hseen, Option.some.injEq] at hstep
      subst hstep
      exact Or.inl ⟨rfl, fun _ => Or.inr (Or.inl ⟨rfl, rfl⟩)⟩

lemma ECPoll.step_defined (p : ECPoll) (event : ChannelEvent)
    (hsize : p.sender.dataChunks ≤ p.sender.chunkAcked.length)
    (hgaps : ∀ own msg, (Poll.ec p).consumes event = some (own, msg) → msg.numGaps.toNat ≤ 16) :
    ∃ p', p.step event = some p' := by
  cases hstate : p.state with
  | returned rc => exact ⟨p, by simp only [step, hstate]⟩
  | sendPoll afterTimeout =>
    simp only [step, hstate]
    split
    · exact ⟨_, rfl⟩
    · split_ifs <;> exact ⟨_, rfl⟩
  | main =>
    simp only [step, hstate]
    split
    · rename_i own msg hseen
      have hreport := ECSender.onReport_defined (hgaps own msg (by
        simp [Poll.consumes, Poll.state, Poll.connected, hstate, hseen])) hsize
      obtain ⟨result, hresult⟩ := hreport
      rw [hresult]
      split <;> exact ⟨_, rfl⟩
    · exact ⟨_, rfl⟩

/-- `sdr_send_poll` on its own returns 0 from its loop only on a COMPLETE_ACK. -/
lemma Poll.sendStep_returned {totalChunks : ℕ} {connected : Bool} {state : PollState}
    {event : ChannelEvent} (h : (sendStep totalChunks connected state event).state = .returned 0) :
    state = .returned 0 ∨ ∃ own msg, (∀ rc, state ≠ .returned rc) ∧
      event.seen connected = .message own msg ∧ msg.msgType = .completeAck := by
  unfold sendStep at h
  split at h
  · exact Or.inl h
  · rename_i hstate
    dsimp only at h
    split at h
    · exact absurd h (hstate 0)
    · rename_i rc hround
      obtain rfl := PollState.returned.inj h
      refine Or.inr ?_
      cases hseen : event.seen connected with
      | message own msg =>
        refine ⟨own, msg, hstate, rfl, ?_⟩
        by_contra hack
        simp only [hseen, sendPollRound, if_neg hack] at hround
        split_ifs at hround
        exact absurd hround (by decide)
      | timeout => simp [hseen, sendPollRound] at hround
      | disconnected => simp [hseen, sendPollRound] at hround

/-! ### The invariant of a run -/

lemma Justified.append {totalChunks : ℕ} {consumed : List (Bool × ControlMessage)}
    (h : Justified totalChunks consumed) (more : List (Bool × ControlMessage)) :
    Justified totalChunks (consumed ++ more) :=
  h.imp (fun ⟨msg, hmsg, htype⟩ => ⟨msg, List.mem_append_left _ hmsg, htype⟩)
    fun h c hc => (h c hc).imp fun _ h => ⟨List.mem_append_left _ h.1, h.2⟩

namespace PollRun

/-- A result 0 is justified, and what an EC sender has marked was acknowledged. -/
structure Inv (total : ℕ) (w : PollRun) : Prop where
  totalChunks : w.poll.totalChunks = total
  returned : w.poll.state = .returned 0 → Justified total w.consumed
  acked : ∀ q : ECPoll, w.poll = .ec q → ∀ c : ℕ, q.sender.chunkAcked[c]? = some true →
    ∃ msg, (true, msg) ∈ w.consumed ∧ Acknowledges msg c

end PollRun

section Step

variable {p : Poll} {event : ChannelEvent} {own : Bool} {msg : ControlMessage}

lemma Poll.consumes_of_message (hstate : ∀ rc, p.state ≠ .returned rc)
    (hseen : event.seen p.connected = .message own msg) : p.consumes event = some (own, msg) := by
  unfold consumes
  rw [hseen]
  cases h : p.state with
  | returned rc => exact absurd h (hstate rc)
  | _ => rfl

/-- A regular event that is a report belongs to the transfer, and is on the record. -/
lemma Poll.RegularEvent.mem_consumed (h : p.RegularEvent event)
    (hstate : ∀ rc, p.state ≠ .returned rc) (hseen : event.seen p.connected = .message own msg)
    (hreport : msg.msgType.IsReport) (consumed : List (Bool × ControlMessage)) :
    (true, msg) ∈ consumed ++ (p.consumes event).toList := by
  have hconsumes := p.consumes_of_message hstate hseen
  cases own with
  | false => exact absurd hreport (h.own msg hconsumes)
  | true =>
    rw [hconsumes]
    exact List.mem_append_right _ (List.mem_singleton_self _)

lemma Justified.of_ack {totalChunks : ℕ} {consumed : List (Bool × ControlMessage)}
    (hmem : (true, msg) ∈ consumed) (hack : msg.msgType = .completeAck ∨ msg.msgType = .ecAck) :
    Justified totalChunks consumed := Or.inl ⟨msg, hmem, hack⟩

end Step

namespace PollRun

variable {total : ℕ} {consumed : List (Bool × ControlMessage)} {event : ChannelEvent}

lemma Inv.call {w : PollRun} (h : w.Inv total) (hregular : w.poll.Regular .call) :
    ({ w with poll := w.poll.call } : PollRun).Inv total := by
  obtain ⟨poll, consumed⟩ := w
  cases poll with
  | send totalChunks connected state =>
    refine ⟨h.totalChunks, fun hreturned => ?_, fun q hq => nomatch hq⟩
    cases connected with
    | false => exact absurd rfl (hregular totalChunks state)
    | true => exact absurd hreturned (by simp [Poll.call, Poll.state, enterSendPoll])
  | sr p => exact ⟨h.totalChunks, fun hreturned => (nomatch hreturned), fun q hq => (nomatch hq)⟩
  | ec p =>
    refine ⟨h.totalChunks, fun hreturned => (nomatch hreturned), fun q hq c hc => ?_⟩
    obtain rfl := Poll.ec.inj hq
    exact h.acked p rfl c hc

lemma Inv.sendStep {totalChunks : ℕ} {connected : Bool} {state : PollState}
    (h : Inv total ⟨.send totalChunks connected state, consumed⟩)
    (hregular : (Poll.send totalChunks connected state).RegularEvent event) :
    Inv total ⟨Poll.sendStep totalChunks connected state event,
      consumed ++ ((Poll.send totalChunks connected state).consumes event).toList⟩ := by
  have hsend : ∃ connected' state', Poll.sendStep totalChunks connected state event
      = .send totalChunks connected' state' := by
    unfold Poll.sendStep
    split
    · exact ⟨_, _, rfl⟩
    · dsimp only
      split <;> exact ⟨_, _, rfl⟩
  obtain ⟨connected', state', hsend⟩ := hsend
  refine ⟨?_, fun hreturned => ?_, fun q hq => ?_⟩
  · rw [hsend]
    exact h.totalChunks
  · rcases Poll.sendStep_returned hreturned with hstate | ⟨own, msg, hstate, hseen, hack⟩
    · exact (h.returned hstate).append _
    · exact .of_ack (hregular.mem_consumed hstate hseen (Or.inl hack) _) (Or.inl hack)
  · rw [hsend] at hq
    exact nomatch hq

lemma Inv.srStep {p : SRPoll} (h : Inv total ⟨.sr p, consumed⟩)
    (hregular : (Poll.sr p).RegularEvent event) (now : Clock) :
    Inv total ⟨.sr (p.step now event), consumed ++ ((Poll.sr p).consumes event).toList⟩ := by
  refine ⟨?_, fun hreturned => ?_, fun q hq => nomatch hq⟩
  · rw [← h.totalChunks]
    rcases p.step_acks now event with hsame | ⟨own, msg, -, hacks⟩
    · exact hsame.totalChunks
    · exact hacks.totalChunks
  · rcases SRPoll.step_returned hreturned with hstate | ⟨hmain, hclosed⟩ |
      ⟨own, msg, hstate, hseen, hwhy⟩
    · exact (h.returned hstate).append _
    · exact absurd hclosed (hregular.connectionOpen hmain)
    · rcases hwhy with hack | ⟨hmain, htype, hcompletes⟩
      · exact .of_ack (hregular.mem_consumed hstate hseen (Or.inl hack) _) (Or.inl hack)
      · have hmem := hregular.mem_consumed hstate hseen (Or.inr (Or.inr (Or.inl htype))) consumed
        obtain ⟨hmax, hcovers⟩ := hregular.cumulative p own msg rfl hmain
          (Poll.consumes_of_message hstate hseen) htype hcompletes
        have htotal : p.sender.totalChunks = total := h.totalChunks
        refine Or.inr fun c hc => ⟨msg, hmem, Or.inl ⟨Or.inl htype, hmax, ?_⟩⟩
        omega

lemma Inv.ecStep {p p' : ECPoll} (h : Inv total ⟨.ec p, consumed⟩)
    (hregular : (Poll.ec p).RegularEvent event) (hstep : p.step event = some p') :
    Inv total ⟨.ec p', consumed ++ ((Poll.ec p).consumes event).toList⟩ := by
  have hacked : ∀ c : ℕ, p.sender.chunkAcked[c]? = some true → ∃ msg,
      (true, msg) ∈ consumed ++ ((Poll.ec p).consumes event).toList ∧ Acknowledges msg c :=
    fun c hc => (h.acked p rfl c hc).imp fun _ hmsg => ⟨List.mem_append_left _ hmsg.1, hmsg.2⟩
  have htotal : p.sender.chunkAcked.length = total := h.totalChunks
  rcases ECPoll.step_cases hstep with ⟨hsender, hreturns⟩ | ⟨own, msg, allDone, hmain, hseen, htype,
    hreport, hdone⟩
  · refine ⟨?_, fun hreturned => ?_, fun q hq c hc => ?_⟩
    · rw [← htotal, ← hsender]
      rfl
    · rcases hreturns hreturned with hstate | ⟨hmain, hclosed⟩ | ⟨own, msg, hstate, hseen, hack⟩
      · exact (h.returned hstate).append _
      · exact absurd hclosed (hregular.connectionOpen hmain)
      · exact .of_ack (hregular.mem_consumed hstate hseen (hack.imp_right Or.inl) _) hack
    · obtain rfl := Poll.ec.inj hq
      exact hacked c (hsender ▸ hc)
  · have hstate : ∀ rc, (Poll.ec p).state ≠ .returned rc :=
      fun rc hrc => nomatch hmain.symm.trans hrc
    have hmem := hregular.mem_consumed hstate hseen htype consumed
    obtain ⟨hreported, hall⟩ := ECSender.onReport_spec hreport
    have hacked' : ∀ c : ℕ, p'.sender.chunkAcked[c]? = some true → ∃ msg,
        (true, msg) ∈ consumed ++ ((Poll.ec p).consumes event).toList ∧ Acknowledges msg c :=
      fun c hc => (hreported.acked c hc).elim (hacked c) fun hack => ⟨msg, hmem, Or.inr hack⟩
    refine ⟨hreported.length.trans htotal, fun hreturned => Or.inr fun c hc => ?_,
      fun q hq c hc => ?_⟩
    · refine hacked' c (hall (hdone hreturned) c ?_)
      rw [hreported.dataChunks, hregular.geometry p rfl]
      exact htotal ▸ hc
    · obtain rfl := Poll.ec.inj hq
      exact hacked' c hc

lemma Inv.act {w w' : PollRun} {action : PollAction} (h : w.Inv total)
    (hregular : w.poll.Regular action) (hact : w.act action = some w') : w'.Inv total := by
  cases action with
  | call =>
    obtain rfl := Option.some.inj hact
    exact h.call hregular
  | receive now event =>
    obtain ⟨poll', hstep, rfl⟩ := Option.map_eq_some_iff.mp hact
    obtain ⟨poll, consumed⟩ := w
    cases poll with
    | send totalChunks connected state =>
      obtain rfl := Option.some.inj hstep
      exact h.sendStep hregular
    | sr p =>
      obtain rfl := Option.some.inj hstep
      exact h.srStep hregular now
    | ec p =>
      obtain ⟨p', hp', rfl⟩ := Option.map_eq_some_iff.mp hstep
      exact h.ecStep hregular hp'

lemma Reachable.inv {start : Poll} (hfresh : start.Fresh) {w : PollRun} (h : Reachable start w) :
    w.Inv start.totalChunks := by
  induction h with
  | start =>
    refine ⟨rfl, fun hreturned => ?_, fun q hq c hc => absurd hc (hfresh.acked q hq c)⟩
    exact absurd (hfresh.state.symm.trans hreturned) (by decide)
  | act _ _ hregular hact ih => exact ih.act hregular hact

/-- A regular action is defined: no run ends in an access outside an array. -/
lemma act_defined {w : PollRun} {action : PollAction} (hregular : w.poll.Regular action) :
    ∃ w', w.act action = some w' := by
  cases action with
  | call => exact ⟨_, rfl⟩
  | receive now event =>
    obtain ⟨poll, consumed⟩ := w
    cases poll with
    | send totalChunks connected state => exact ⟨_, rfl⟩
    | sr p => exact ⟨_, rfl⟩
    | ec p =>
      obtain ⟨p', hp'⟩ := p.step_defined event (hregular.geometry p rfl).le hregular.gaps
      exact ⟨_, by simp [act, Poll.step, hp']; rfl⟩

end PollRun

theorem poll_returned_justified {start : Poll} (hfresh : start.Fresh) {w : PollRun}
    (h : PollRun.Reachable start w) (hreturned : w.poll.state = .returned 0) :
    Justified start.totalChunks w.consumed := (h.inv hfresh).returned hreturned

/-! ### Three runs -/

def sampleMessageOf (msgType : ControlMsgType) : ControlMessage :=
  { ControlMessage.zero with magic := ControlMessage.magicValue, msgType := msgType }

/-- A call of `sdr_send_poll` that consumes the COMPLETE_ACK. -/
theorem poll_returned_justified_sample :
    Justified 1 [(true, sampleMessageOf .completeAck)] := by
  have hcall : PollRun.Reachable (.send 1 true (.returned (-1)))
      ⟨.send 1 true (.sendPoll false), []⟩ :=
    .act .call .start (fun _ _ h => absurd (Poll.send.inj h).2.1 (by decide)) rfl
  have hack : PollRun.Reachable (.send 1 true (.returned (-1)))
      ⟨.send 1 true (.returned 0), [(true, sampleMessageOf .completeAck)]⟩ :=
    .act (.receive (.still 0) (.message true (sampleMessageOf .completeAck))) hcall
      ⟨fun _ h => (nomatch h), fun h => (nomatch h), fun _ _ _ h => (nomatch h),
        fun _ h => (nomatch h), fun _ _ h => by
          obtain ⟨-, rfl⟩ := Prod.mk.inj (Option.some.inj h)
          decide⟩ rfl
  exact poll_returned_justified ⟨rfl, fun _ h => Poll.noConfusion h⟩ hack rfl

/-- Perform actions one after the other. -/
def PollRun.acts (w : PollRun) (actions : List PollAction) : Option PollRun :=
  actions.foldlM PollRun.act w

/-- One byte, posted in one chunk. -/
def samplePolls : Poll × Poll × Poll :=
  let params := { ConnectionParams.zero with mtuBytes := 1, packetsPerChunk := 1 }
  let handle : SDRSendHandle := ⟨0, 1, [1]⟩
  (.send 1 true (.returned (-1)),
    .sr ⟨SRSender.start .default handle params (.still 0), true, .returned (-1)⟩,
    .ec ⟨ECSender.posted ⟨1, 1, 1, 3⟩ params params 1 handle, true, .returned (-1)⟩)

/-- Each of the three polls returns 0 because the connection is closed, the last two after they have
consumed an INCOMPLETE_NACK, and nothing is acknowledged. -/
theorem poll_returned_closed :
    let nack := sampleMessageOf .incompleteNack
    let actions := [.call, .receive (.still 0) .timeout, .receive (.still 0) (.message true nack),
      .receive (.still 0) .disconnected]
    ((PollRun.acts ⟨samplePolls.1, []⟩ [.call, .receive (.still 0) .disconnected, .call]).map
        fun w => (w.poll.state, w.consumed)) = some (.returned 0, []) ∧
      ((PollRun.acts ⟨samplePolls.2.1, []⟩ actions).map fun w => (w.poll.state, w.consumed))
        = some (.returned 0, [(true, nack)]) ∧
      ((PollRun.acts ⟨samplePolls.2.2, []⟩ actions).map fun w => (w.poll.state, w.consumed))
        = some (.returned 0, [(true, nack)]) ∧
      samplePolls.2.1.totalChunks = 1 ∧ samplePolls.2.2.totalChunks = 1 ∧
      ¬ Justified 1 [] ∧ ¬ Justified 1 [(true, nack)] := by
  intro nack actions
  refine ⟨by decide +kernel, by decide +kernel, by decide +kernel, by decide +kernel,
    by decide +kernel, ?_, ?_⟩
  · rintro (⟨msg, hmsg, -⟩ | h)
    · exact absurd hmsg List.not_mem_nil
    · obtain ⟨msg, hmsg, -⟩ := h 0 one_pos
      exact absurd hmsg List.not_mem_nil
  · rintro (⟨msg, hmsg, htype⟩ | h)
    · obtain ⟨-, rfl⟩ := Prod.mk.inj (List.mem_singleton.mp hmsg)
      exact absurd htype (by decide)
    · obtain ⟨msg, hmsg, hack⟩ := h 0 one_pos
      obtain ⟨-, rfl⟩ := Prod.mk.inj (List.mem_singleton.mp hmsg)
      rcases hack with ⟨htype, -⟩ | ⟨hwords, -⟩
      · exact absurd htype (by decide)
      · exact absurd hwords (by decide)

end SdrUdp
