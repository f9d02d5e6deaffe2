import SdrUdp.SrWindow

/-!
# Control events during a poll

`SRSender::poll` calls `sdr_send_poll` after a timeout, and the loop in there takes all events
until the receiver gives its verdict. Reports that come meanwhile are lost, and so are timeouts.
-/

namespace SdrUdp

open SdrUdp.Core

/-- The message is an SR_ACK or SR_NACK. -/
def ControlMessage.IsSrReport (msg : ControlMessage) : Prop :=
  msg.msgType = .srAck ∨ msg.msgType = .srNack

instance (msg : ControlMessage) : Decidable msg.IsSrReport := inferInstanceAs (Decidable (_ ∨ _))

/-- What the message acknowledges is acknowledged at the sender. -/
structure Merged (msg : ControlMessage) (s : SRSender) : Prop where
  chunkAcked : ∀ c < s.totalChunks, Acknowledges msg c → s.chunkAcked c = true
  ackBase : msg.params.maxInflight ≠ uint32Max → msg.params.maxInflight.toNat < s.ackBase

namespace SRSender

/-! ### Acknowledgements are kept -/

/-- No acknowledgement is taken back. -/
structure AcksGrow (s s' : SRSender) : Prop where
  chunkAcked : ∀ c, s.chunkAcked c = true → s'.chunkAcked c = true
  ackBase : s.ackBase ≤ s'.ackBase
  totalChunks : s'.totalChunks = s.totalChunks

lemma SameAcks.grow {s s' : SRSender} (h : SameAcks s s') : AcksGrow s s' :=
  ⟨fun c hc => by rwa [h.chunkAcked], h.ackBase.ge, h.totalChunks⟩

lemma AcksGrow.trans {s s' s'' : SRSender} (h : AcksGrow s s') (h' : AcksGrow s' s'') :
    AcksGrow s s'' :=
  ⟨fun c hc => h'.chunkAcked c (h.chunkAcked c hc), h.ackBase.trans h'.ackBase,
    h'.totalChunks.trans h.totalChunks⟩

lemma AcksGrow.merged {s s' : SRSender} (h : AcksGrow s s') {msg : ControlMessage}
    (hs : Merged msg s) :
    Merged msg s' where
  chunkAcked c hc hack := h.chunkAcked c (hs.chunkAcked c (h.totalChunks ▸ hc) hack)
  ackBase hne := (hs.ackBase hne).trans_le h.ackBase

lemma SameAcks.merged_iff {s s' : SRSender} (h : SameAcks s s') (msg : ControlMessage) :
    Merged msg s' ↔ Merged msg s := by
  refine ⟨fun hs => ⟨fun c hc hack => ?_, fun hne => ?_⟩, h.grow.merged⟩
  · rw [← h.chunkAcked]
    exact hs.chunkAcked c (h.totalChunks.symm ▸ hc) hack
  · rw [← h.ackBase]
    exact hs.ackBase hne

/-! ### Merging a report -/

/-- At most 8 words of the bitmap are merged, and the cumulative index. -/
lemma chunkAcked_merge (s : SRSender) {msg : ControlMessage} (hreport : msg.IsSrReport) (c : ℕ) :
    (s.merge msg).chunkAcked c = true ↔ s.chunkAcked c = true ∨
      c < s.totalChunks ∧ (CumulativeAck msg c ∨ c < 512 ∧ BitmapAck msg c) := by
  have hbitmap : (s.applyBitmap msg).chunkAcked c = true ↔
      s.chunkAcked c = true ∨ c < s.totalChunks ∧ c < 512 ∧ BitmapAck msg c := by
    simp only [applyBitmap]
    split_ifs with hword hbit
    · refine iff_of_true rfl (Or.inr ⟨hbit.2.1, by omega, hbit.1, by omega, hbit.2.2⟩)
    · refine (or_iff_left ?_).symm
      rintro ⟨hc, -, hw, _, hset⟩
      exact hbit ⟨hw, hc, hset⟩
    · refine (or_iff_left ?_).symm
      rintro ⟨-, hc, -⟩
      omega
  unfold merge applyCumulative
  dsimp only
  split_ifs with hmax
  · have hcum : ¬ CumulativeAck msg c := fun h => h.2.1 hmax
    rw [hbitmap, or_iff_right hcum]
  · dsimp only
    split_ifs with hcum
    · exact iff_of_true rfl (Or.inr ⟨hcum.2, Or.inl ⟨hreport, hmax, hcum.1⟩⟩)
    · rw [hbitmap]
      refine or_congr_right (and_congr_right fun hc => (or_iff_right ?_).symm)
      exact fun h => hcum ⟨h.2.2, hc⟩

lemma ackBase_merge (s : SRSender) (msg : ControlMessage) :
    (s.merge msg).ackBase = if msg.params.maxInflight = uint32Max then s.ackBase
      else max s.ackBase (msg.params.maxInflight.toNat + 1) := by
  unfold merge applyCumulative
  dsimp only
  split_ifs <;> rfl

lemma acksGrow_merge (s : SRSender) {msg : ControlMessage} (hreport : msg.IsSrReport) :
    AcksGrow s (s.merge msg) where
  chunkAcked c hc := (s.chunkAcked_merge hreport c).mpr (Or.inl hc)
  ackBase := by
    rw [ackBase_merge]
    split_ifs
    · exact le_rfl
    · exact le_max_left _ _
  totalChunks := (s.continues_merge msg).totalChunks

/-- A report has been merged unless its bitmap reaches beyond the words that are looked at. -/
lemma merged_merge_iff (s : SRSender) {msg : ControlMessage} (hreport : msg.IsSrReport) :
    Merged msg (s.merge msg) ↔ ∀ c < s.totalChunks, 512 ≤ c → BitmapAck msg c →
      s.chunkAcked c = true ∨ CumulativeAck msg c := by
  have htotal := (s.continues_merge msg).totalChunks
  constructor
  · intro h c hc hlarge hbit
    have := (s.chunkAcked_merge hreport c).mp (h.chunkAcked c (htotal.symm ▸ hc) (Or.inr hbit))
    rcases this with hacked | ⟨-, hcum | ⟨hsmall, -⟩⟩
    · exact Or.inl hacked
    · exact Or.inr hcum
    · exact absurd hsmall hlarge.not_gt
  · intro h
    refine ⟨fun c hc hack => (s.chunkAcked_merge hreport c).mpr ?_, fun hne => ?_⟩
    · rw [htotal] at hc
      rcases hack with hcum | hbit
      · exact Or.inr ⟨hc, Or.inl hcum⟩
      · rcases Nat.lt_or_ge c 512 with hsmall | hlarge
        · exact Or.inr ⟨hc, Or.inr ⟨hsmall, hbit⟩⟩
        · exact (h c hc hlarge hbit).imp_right fun hcum => ⟨hc, Or.inl hcum⟩
    · rw [ackBase_merge, if_neg hne]
      exact Nat.lt_of_lt_of_le (Nat.lt_succ_self _) (le_max_right _ _)

end SRSender

/-! ### What an event does -/

/-- An event of a script: a message, or a receive timeout. -/
def scriptEvent : Option ControlMessage → ChannelEvent
  | some msg => .message true msg
  | none     => .timeout

namespace SRPoll

variable {p : SRPoll}

lemma step_connected_script (hconn : p.connected = true) (now : Clock)
    (event : Option ControlMessage) : (p.step now (scriptEvent event)).connected = true :=
  step_connected hconn now (by cases event <;> simp [scriptEvent])

/-- A report is merged by `poll` itself. -/
lemma step_report (hconn : p.connected = true) (hmain : p.state = .main) (now : Clock)
    {msg : ControlMessage} (hreport : msg.IsSrReport) :
    SRSender.SameAcks (p.sender.merge msg) (p.step now (scriptEvent (some msg))).sender := by
  have hseen : (scriptEvent (some msg)).seen p.connected = .message true msg := if_pos hconn
  unfold step
  dsimp only
  rw [hmain, hseen]
  rcases hreport with htype | htype
  · simp only [htype]
    exact SRSender.transmits_sameAcks.trans (SRSender.transmits_sameAcks.missing _ 4 now)
      (SRSender.transmits_sameAcks.advanceWindow now _ _)
  · simp only [htype]
    exact SRSender.transmits_sameAcks.trans (SRSender.transmits_sameAcks.gaps _ msg now)
      (SRSender.transmits_sameAcks.trans (SRSender.transmits_sameAcks.missing _ 4 now)
        (SRSender.transmits_sameAcks.advanceWindow now _ _))

/-- Nothing else is merged, and no report while `sdr_send_poll` runs. -/
lemma step_other (now : Clock) {event : Option ControlMessage}
    (h : p.state = .main → ∀ msg, event = some msg → ¬ msg.IsSrReport) :
    SRSender.SameAcks p.sender (p.step now (scriptEvent event)).sender := by
  have hsame : SRSender.SameAcks p.sender p.sender := SRSender.transmits_sameAcks.refl _
  unfold step
  dsimp only
  cases hstate : p.state with
  | returned rc => exact hsame
  | sendPoll afterTimeout =>
    dsimp only
    split
    · exact hsame
    · split_ifs
      · exact hsame
      · exact SRSender.transmits_sameAcks.timeout _ _
      · exact hsame
  | main =>
    dsimp only
    split
    · rename_i own msg hseen
      have hevent : event = some msg := by
        cases event with
        | none =>
          cases hconn : p.connected <;> simp [scriptEvent, ChannelEvent.seen, hconn]
            at hseen
        | some msg' =>
          cases hconn : p.connected <;> simp [scriptEvent, ChannelEvent.seen, hconn] at hseen
          rw [hseen.2]
      have hno := h hstate msg hevent
      split
      · exact absurd (Or.inl (by assumption)) hno
      · exact absurd (Or.inr (by assumption)) hno
      all_goals exact hsame
    · exact hsame

/-- A timeout transmits nothing: its loop runs when `sdr_send_poll` has returned. -/
lemma transmissions_timeout (hconn : p.connected = true) (now : Clock) :
    p.transmissions now .timeout = [] := by
  have hseen : ChannelEvent.timeout.seen p.connected = .timeout := if_pos hconn
  unfold transmissions
  rw [hseen]
  cases p.state <;> rfl

end SRPoll

/-! ### Scripts of events -/

/-- A poll, the reports it has consumed, and for every timeout the chunks that were overdue and the
chunks that were sent before the next event. -/
structure ScriptRun where
  poll : SRPoll
  reports : List ControlMessage
  sweeps : List (List ℕ × List ℕ)

namespace ScriptRun

/-- The next event of the script; a poll that has returned consumes none. -/
def take (r : ScriptRun) (e : Clock × Option ControlMessage) : ScriptRun :=
  match r.poll.state with
  | .returned _ => r
  | _           =>
    match e.2 with
    | some msg =>
      { r with
        poll := r.poll.step e.1 (scriptEvent e.2)
        reports := if msg.IsSrReport then r.reports ++ [msg] else r.reports }
    | none     =>
      { r with
        poll := r.poll.step e.1 (scriptEvent e.2)
        sweeps := r.sweeps ++ [(r.poll.sender.overdueChunks (e.1 r.poll.sender.ticks),
          (r.poll.transmissions e.1 (scriptEvent e.2)).map Transmission.chunk)] }

/-- Every report has been merged, and after every timeout exactly the overdue chunks were sent. -/
structure ActedOn (r : ScriptRun) : Prop where
  reports : ∀ msg ∈ r.reports, Merged msg r.poll.sender
  sweeps : ∀ sweep ∈ r.sweeps, ∀ c, c ∈ sweep.2 ↔ c ∈ sweep.1

/-- The event is acted on: at a timeout no chunk is overdue; a report comes while `poll` runs
its own loop, with no news in the words of its bitmap that are not looked at, or brings no news at
all. -/
def ActsOn (r : ScriptRun) (e : Clock × Option ControlMessage) : Prop :=
  match r.poll.state, e.2 with
  | .returned _, _        => True
  | _, none               => ∀ c < r.poll.sender.totalChunks,
      ¬ r.poll.sender.Overdue (e.1 r.poll.sender.ticks) c
  | .main, some msg       => msg.IsSrReport → ∀ c < r.poll.sender.totalChunks, 512 ≤ c →
      BitmapAck msg c → r.poll.sender.chunkAcked c = true ∨ CumulativeAck msg c
  | .sendPoll _, some msg => msg.IsSrReport → Merged msg r.poll.sender

variable {r : ScriptRun}

lemma take_connected (hconn : r.poll.connected = true) (e : Clock × Option ControlMessage) :
    (r.take e).poll.connected = true := by
  unfold take
  split
  · exact hconn
  · split <;> exact SRPoll.step_connected_script hconn e.1 _

/-- With acknowledgements that grow, only the new sweep matters. -/
lemma ActedOn.sweep_iff (hr : r.ActedOn) {p : SRPoll}
    (hgrow : SRSender.AcksGrow r.poll.sender p.sender) (sweep : List ℕ × List ℕ) :
    ActedOn ⟨p, r.reports, r.sweeps ++ [sweep]⟩ ↔ ∀ c, c ∈ sweep.2 ↔ c ∈ sweep.1 := by
  constructor
  · intro h
    exact h.sweeps _ (List.mem_append_right _ (List.mem_singleton_self _))
  · refine fun h => ⟨fun msg hmsg => hgrow.merged (hr.reports msg hmsg), fun sweep' hsweep => ?_⟩
    rcases List.mem_append.mp hsweep with hold | hlast
    · exact hr.sweeps sweep' hold
    · rw [List.mem_singleton.mp hlast]
      exact h

/-- With acknowledgements that grow, only the new report matters. -/
lemma ActedOn.report_iff (hr : r.ActedOn) {p : SRPoll}
    (hgrow : SRSender.AcksGrow r.poll.sender p.sender) (msg : ControlMessage) :
    ActedOn ⟨p, if msg.IsSrReport then r.reports ++ [msg] else r.reports, r.sweeps⟩ ↔
      (msg.IsSrReport → Merged msg p.sender) := by
  constructor
  · intro h hreport
    refine h.reports msg ?_
    rw [if_pos hreport]
    exact List.mem_append_right _ (List.mem_singleton_self msg)
  · refine fun h => ⟨fun msg' hmsg' => ?_, hr.sweeps⟩
    dsimp only at hmsg'
    split_ifs at hmsg' with hreport
    · rcases List.mem_append.mp hmsg' with hold | hlast
      · exact hgrow.merged (hr.reports msg' hold)
      · rw [List.mem_singleton.mp hlast]
        exact h hreport
    · exact hgrow.merged (hr.reports msg' hmsg')

/-- One event keeps the promise exactly when it is acted on. -/
lemma actedOn_take_iff (hconn : r.poll.connected = true) (hr : r.ActedOn)
    (e : Clock × Option ControlMessage) : (r.take e).ActedOn ↔ r.ActsOn e := by
  obtain ⟨now, event⟩ := e
  cases event with
  | none =>
    have hsame : SRSender.SameAcks r.poll.sender (r.poll.step now (scriptEvent none)).sender :=
      SRPoll.step_other now fun _ msg h => absurd h (by simp)
    have hout : r.poll.transmissions now (scriptEvent none) = [] :=
      SRPoll.transmissions_timeout hconn now
    have hnew : (∀ c, c ∈ ([] : List Transmission).map Transmission.chunk ↔
        c ∈ r.poll.sender.overdueChunks (now r.poll.sender.ticks)) ↔
          ∀ c < r.poll.sender.totalChunks, ¬ r.poll.sender.Overdue (now r.poll.sender.ticks) c := by
      simp [SRSender.overdueChunks]
    have hmain : ActedOn ⟨r.poll.step now (scriptEvent none), r.reports,
        r.sweeps ++ [(r.poll.sender.overdueChunks (now r.poll.sender.ticks),
          (r.poll.transmissions now (scriptEvent none)).map Transmission.chunk)]⟩ ↔
        ∀ c < r.poll.sender.totalChunks, ¬ r.poll.sender.Overdue (now r.poll.sender.ticks) c := by
      rw [← hnew, hout]
      exact hr.sweep_iff hsame.grow _
    unfold take ActsOn
    cases r.poll.state with
    | returned rc => exact iff_of_true hr trivial
    | sendPoll afterTimeout => exact hmain
    | main => exact hmain
  | some msg =>
    have hreports : ∀ {s' : SRPoll}, SRSender.AcksGrow r.poll.sender s'.sender →
        (ActedOn ⟨s', if msg.IsSrReport then r.reports ++ [msg] else r.reports, r.sweeps⟩ ↔
          (msg.IsSrReport → Merged msg s'.sender)) := fun hgrow => hr.report_iff hgrow msg
    unfold take ActsOn
    cases hstate : r.poll.state with
    | returned rc => exact iff_of_true hr trivial
    | sendPoll afterTimeout =>
      have hsame : SRSender.SameAcks r.poll.sender
        (r.poll.step now (scriptEvent (some msg))).sender :=
        SRPoll.step_other now fun hmain => by rw [hstate] at hmain; exact absurd hmain (by simp)
      exact (hreports hsame.grow).trans (imp_congr_right fun _ => hsame.merged_iff msg)
    | main =>
      by_cases hreport : msg.IsSrReport
      · have hsame := SRPoll.step_report hconn hstate now hreport
        have hgrow := (r.poll.sender.acksGrow_merge hreport).trans hsame.grow
        exact (hreports hgrow).trans (imp_congr_right fun _ =>
          (hsame.merged_iff msg).trans (r.poll.sender.merged_merge_iff hreport))
      · have hsame : SRSender.SameAcks r.poll.sender
            (r.poll.step now (scriptEvent (some msg))).sender :=
          SRPoll.step_other now fun _ msg' h => by rwa [← Option.some.inj h]
        exact (hreports hsame.grow).trans
          (iff_of_true (fun h => absurd h hreport) fun h => absurd h hreport)

end ScriptRun

/-- The events of a script are acted on exactly when no chunk is overdue at a timeout and no report
brings news while `sdr_send_poll` runs. -/
theorem eventsActedOn_iff (s : SRSender) (script : List (Clock × Option ControlMessage)) :
    Throughout ScriptRun.ActedOn ScriptRun.take script ⟨⟨s, true, .main⟩, [], []⟩ ↔
      EachStep ScriptRun.ActsOn ScriptRun.take script ⟨⟨s, true, .main⟩, [], []⟩ :=
  throughout_iff_of_invariant (I := fun r : ScriptRun => r.poll.connected = true)
    (fun _ e _ hconn => ScriptRun.take_connected hconn e)
    (fun _ e _ hconn hr => ScriptRun.actedOn_take_iff hconn hr e) rfl
    ⟨fun _ h => absurd h (by simp), fun _ h => absurd h (by simp)⟩

/-- A timeout after 300 ms, and then the receiver reports that it has the first of two chunks: the
report is lost in `sdr_send_poll`. -/
theorem not_eventsActedOn_sample :
    ¬ Throughout ScriptRun.ActedOn ScriptRun.take
      [(.still 300000000, none), (.still 301000000, some (sampleReport 1 2))]
      ⟨⟨SRSender.start .default ⟨0, 1, [1, 2]⟩ bytewiseParams (.still 0), true, .main⟩, [],
        []⟩ := by
  intro h
  have hmerged := h.last.reports (sampleReport 1 2) (List.mem_singleton_self _)
  have hacked := hmerged.chunkAcked 0 (by decide +kernel)
    (Or.inl ⟨Or.inr (by decide +kernel), by decide +kernel, by decide +kernel⟩)
  exact absurd hacked (by decide +kernel)

end SdrUdp
