import SdrUdp.Core.Fold
import SdrUdp.Core.Spacing
import SdrUdp.Interference

/-!
# The pace of reports

The receivers of a process share the clock of `pump`, so together they send no more reports than
one of them may.
-/

namespace SdrUdp

open SdrUdp.Core

/-! ### A call -/

/-- What a call leaves of `last_ctrl` and of the messages sent: either it sends nothing, or the
limiter has let it through and it sends one report at most. -/
inductive PumpEffect (cfg : SRConfig) (first now : ℕ) (last : Option ℕ) (sent : List ControlMessage)
    (m : ReceiverMemory) : Prop
  | quiet (hsent : m.sent = sent) (hlast : m.lastCtrl = last ∨ m.lastCtrl = some (last.getD first))
  | passed (hlets : cfg.Lets now (last.getD first)) (hlast : m.lastCtrl = some now)
      (hsent : m.sent = sent ∨ ∃ report, m.sent = sent ++ [report])

/-- Other threads leave `last_ctrl` and the messages sent alone. -/
def Elsewhere (m m' : ReceiverMemory) : Prop := m'.sent = m.sent ∧ m'.lastCtrl = m.lastCtrl

instance : Std.Refl Elsewhere := ⟨fun _ => ⟨rfl, rfl⟩⟩

instance : IsTrans ReceiverMemory Elsewhere :=
  ⟨fun _ _ _ h h' => ⟨h'.1.trans h.1, h'.2.trans h.2⟩⟩

instance : Std.Refl fun _ _ : ReceiverMemory => True := ⟨fun _ => trivial⟩

lemma elsewhere_elsewhere (f : ReceiverMemory → ReceiverMemory) (m : ReceiverMemory) :
    Elsewhere m (m.elsewhere f) := ⟨rfl, rfl⟩

lemma PumpEffect.stable {cfg : SRConfig} {first now : ℕ} {last : Option ℕ}
    {sent : List ControlMessage} {m m' : ReceiverMemory} (h : PumpEffect cfg first now last sent m)
    (hm : Elsewhere m m') : PumpEffect cfg first now last sent m' := by
  obtain ⟨hsent, hlast⟩ := hm
  cases h with
  | quiet hs hl => exact .quiet (hsent.trans hs) (by rwa [hlast])
  | passed hlets hl hs => exact .passed hlets (hlast.trans hl) (by rwa [hsent])

lemma sendMessage_lastCtrl (m : ReceiverMemory) (msg : ControlMessage) (answer : ℤ) :
    (m.sendMessage msg answer).lastCtrl = m.lastCtrl := by
  unfold ReceiverMemory.sendMessage
  split <;> rfl

section Meets

variable {cfg : SRConfig} {first now : ℕ} {last : Option ℕ} {sent : List ControlMessage}

/-- A thread that only reads leaves what a call has done. -/
lemma meets_reads {α : Type} {p : Prog ReceiverMemory α} (hp : Prog.Straight (· = id) p)
    {m : ReceiverMemory} {P : ReceiverMemory → Prop} (hP : P m)
    (hstable : ∀ m m', Elsewhere m m' → P m → P m') :
    Prog.Meets (fun _ => True) Elsewhere (fun _ _ => True) (fun _ => P) p m :=
  hp.uses.meets_while hstable
    (fun act hact m _ hm => by rw [hact]; exact ⟨trivial, trivial, hm⟩) hP

/-- What follows the rate limiter sends one report at most. -/
lemma meets_pumpBody (handle : SDRRecvHandle) (answer : ℤ) {m : ReceiverMemory}
    (hlets : cfg.Lets now (last.getD first)) (hsent : m.sent = sent)
    (hlast : m.lastCtrl = some now) :
    Prog.Meets (fun _ => True) Elsewhere (fun _ _ => True)
      (fun _ : Bool => PumpEffect cfg first now last sent)
      (do
        match ← Prog.load (ReceiverMemory.message handle.msgId) with
        | none     => pure false
        | some msg =>
          match msg.frontendBitmap with
          | none       => pure false
          | some front =>
            let load := fun w => Prog.load fun m => ReceiverMemory.chunkWords handle.msgId m w
            let count := FrontendBitmap.getTotalChunksCompleted load front.totalChunks
            let total := msg.totalChunks % 2 ^ 32
            let connectionId ← Prog.load fun m => m.conn.connectionCtx.connectionId
            let report ← pumpReport (FrontendBitmap.isChunkComplete load front.totalChunks) count
              connectionId total
            Prog.modify fun m => m.sendMessage report answer
            if report.msgType = .completeAck then pure true
            else
              let completed ← count
              pure (decide (completed ≥ total))) m := by
  -- until the report is sent, nothing is
  have hunsent : ∀ m m', Elsewhere m m' → m.sent = sent ∧ m.lastCtrl = some now →
      m'.sent = sent ∧ m'.lastCtrl = some now := fun m m' hm h =>
    ⟨hm.1.trans h.1, hm.2.trans h.2⟩
  have hquiet : ∀ {m}, m.sent = sent ∧ m.lastCtrl = some now →
      Prog.Meets (fun _ => True) Elsewhere (fun _ _ => True)
        (fun _ : Bool => PumpEffect cfg first now last sent) (pure false) m := fun h =>
    Prog.Meets.pure fun m' hm _ => .passed hlets (hunsent _ m' hm h).2
      (Or.inl (hunsent _ m' hm h).1)
  refine Prog.Meets.load_bind fun m₁ hm₁ _ => ?_
  have h₁ := hunsent m m₁ hm₁ ⟨hsent, hlast⟩
  split
  · exact hquiet h₁
  · split
    · exact hquiet h₁
    · rename_i front _
      have hcount := FrontendBitmap.getTotalChunksCompleted_straight (A := (· = id)) rfl
        (fun m : ReceiverMemory => m.chunkWords handle.msgId) front.totalChunks
      refine Prog.Meets.load_bind fun m₂ hm₂ _ => ?_
      have hreport := pumpReport_straight (A := (· = id)) (fun c =>
        FrontendBitmap.isChunkComplete_straight
          (A := (· = id)) rfl (fun m : ReceiverMemory => m.chunkWords handle.msgId)
          front.totalChunks c) hcount
      refine Prog.Meets.bind trivial (meets_reads (hreport _ _) (hunsent m₁ m₂ hm₂ h₁) hunsent)
        fun report m₃ _ h₃ => ?_
      refine Prog.Meets.modify_bind fun m₄ hm₄ _ => ⟨trivial, trivial, ?_⟩
      obtain ⟨hsent₄, hlast₄⟩ := hunsent m₃ m₄ hm₄ h₃
      have heffect : PumpEffect cfg first now last sent (m₄.sendMessage report answer) := by
        refine .passed hlets ((sendMessage_lastCtrl m₄ report answer).trans hlast₄) ?_
        exact (m₄.sendMessage_sent report answer).imp (fun h => h.trans hsent₄)
          fun h => ⟨report, by rw [h, hsent₄]⟩
      split_ifs
      · exact Prog.Meets.pure fun m' hm' _ => heffect.stable hm'
      · exact Prog.Meets.bind trivial
          (meets_reads hcount heffect fun m m' hm h => h.stable hm)
          fun _ m₅ _ h₅ => Prog.Meets.pure fun m' hm' _ => h₅.stable hm'

/-- A call, whatever the other threads do meanwhile. -/
lemma meets_pump (recvHandle : Option SDRRecvHandle) (answer : ℤ) {m : ReceiverMemory}
    (hsent : m.sent = sent) (hlast : m.lastCtrl = last) :
    Prog.Meets (fun _ => True) Elsewhere (fun _ _ => True)
      (fun _ => PumpEffect cfg first now last sent)
      (SRReceiver.pump cfg recvHandle first now answer) m := by
  unfold SRReceiver.pump
  cases recvHandle with
  | none => exact Prog.Meets.pure fun m' hm _ =>
      .quiet (hm.1.trans hsent) (Or.inl (hm.2.trans hlast))
  | some handle =>
    refine Prog.Meets.load_bind fun m₁ hm₁ _ => ?_
    have hsent₁ := hm₁.1.trans hsent
    have hlast₁ := hm₁.2.trans hlast
    split_ifs
    · exact Prog.Meets.pure fun m' hm _ => .quiet (hm.1.trans hsent₁) (Or.inl (hm.2.trans hlast₁))
    · refine Prog.Meets.modify_bind fun m₂ hm₂ _ => ⟨trivial, trivial, ?_⟩
      have hsent₂ := hm₂.1.trans hsent₁
      have hlast₂ := hm₂.2.trans hlast₁
      refine Prog.Meets.load_bind fun m₃ hm₃ _ => ?_
      have hsent₃ : m₃.sent = sent := hm₃.1.trans hsent₂
      have hlast₃ : m₃.lastCtrl = some (last.getD first) := hm₃.2.trans (by rw [← hlast₂])
      rw [hlast₃, Option.getD_some]
      by_cases hlets : cfg.Lets now (last.getD first)
      · refine (congrArg (Prog.Meets _ _ _ _ · m₃) (if_neg (not_lt.mpr hlets))).mpr ?_
        refine Prog.Meets.modify_bind fun m₄ hm₄ _ => ⟨trivial, trivial, ?_⟩
        exact meets_pumpBody handle answer hlets (hm₄.1.trans hsent₃) rfl
      · refine (congrArg (Prog.Meets _ _ _ _ · m₃) (if_pos (not_le.mp hlets))).mpr ?_
        refine Prog.Meets.modify_bind fun m₄ hm₄ _ => ⟨trivial, trivial, ?_⟩
        exact Prog.Meets.pure fun m' hm _ =>
          .quiet (hm.1.trans (hm₄.1.trans hsent₃)) (Or.inr hm.2)

end Meets

/-! ### Runs -/

/-- A report, when and by which receiver it is sent. -/
structure Emission (ι : Type) where
  time : ℕ
  receiver : ι
  report : ControlMessage

section Runs

variable {ι : Type} [DecidableEq ι] (cfg : ι → SRConfig)

/-- What a call of a receiver sends. -/
def callOut (w : Sharing ι (Option ℕ) Receiver) (e : ι × PumpCall) : List (Emission ι) :=
  let sent := (w.own e.1).memory.sent
  ((((w.step (receiverCall cfg) e).own e.1).memory.sent).drop sent.length).map
    (Emission.mk e.2.now e.1)

/-- What the calls of the receivers send, in order. -/
def emissions (calls : List (ι × PumpCall)) (w : Sharing ι (Option ℕ) Receiver) :
    List (Emission ι) :=
  emitted (Sharing.step (receiverCall cfg)) (callOut cfg) calls w

/-- The time, in ns, that a receiver keeps between its reports. -/
def reportGap (i : ι) : ℕ := (cfg i).ctrlInterval * 1000000

lemma ctrlInterval_pos (cfg : SRConfig) : 0 < cfg.ctrlInterval := by
  unfold SRConfig.ctrlInterval
  split_ifs with h
  · exact Nat.pos_of_ne_zero h
  · exact lt_max_of_lt_right (by decide)

/-- A call, in the cell that all receivers share. -/
lemma pumpEffect_step (w : Sharing ι (Option ℕ) Receiver) (i : ι) (call : PumpCall) :
    ∃ m, (w.step (receiverCall cfg) (i, call)).cell = m.lastCtrl ∧
      ((w.step (receiverCall cfg) (i, call)).own i).memory.sent = m.sent ∧
      PumpEffect (cfg i) call.first call.now w.cell (w.own i).memory.sent m := by
  obtain ⟨result, m, hrun⟩ := call.exists_run (cfg i) w.cell (w.own i).memory
  refine ⟨m, ?_, ?_, ?_⟩
  · simp only [Sharing.step, receiverCall, PumpCall.apply, hrun]
  · rw [Sharing.step_own_self]
    simp only [receiverCall, PumpCall.apply, hrun]
    rfl
  · refine (meets_pump call.recvHandle call.answer rfl rfl).of_runAmong trivial
      (fun act hact m _ => ?_) hrun
    obtain ⟨f, -, rfl⟩ := List.mem_map.mp hact
    exact ⟨elsewhere_elsewhere f m, trivial⟩

variable {cfg}

/-- What a call sends comes after everything before, and moves `last_ctrl` to its own time. -/
lemma callOut_paced (w : Sharing ι (Option ℕ) Receiver) (i : ι) (call : PumpCall) :
    let cell := (w.step (receiverCall cfg) (i, call)).cell
    (callOut cfg w (i, call)).length ≤ 1 ∧
      (∀ last, w.cell = some last → ∃ last', cell = some last' ∧ last ≤ last') ∧
      ∀ e ∈ callOut cfg w (i, call), e.time = call.now ∧ e.receiver = i ∧ cell = some e.time ∧
        ∀ last, w.cell = some last → last + reportGap cfg i ≤ e.time := by
  obtain ⟨m, hcell, hsent, heffect⟩ := pumpEffect_step cfg w i call
  have hout : callOut cfg w (i, call)
      = (m.sent.drop (w.own i).memory.sent.length).map (Emission.mk call.now i) := by
    rw [callOut, hsent]
  rw [hout, hcell]
  cases heffect with
  | quiet hsent hlast =>
    rw [hsent, List.drop_length]
    refine ⟨Nat.zero_le 1, fun last hw => ⟨last, ?_, le_rfl⟩, List.forall_mem_nil _⟩
    rcases hlast with h | h
    · exact h.trans hw
    · rw [h, hw, Option.getD_some]
  | passed hlets hlast hsent =>
    have hlate : ∀ last, w.cell = some last → last + reportGap cfg i ≤ call.now := by
      intro last hw
      rw [hw, Option.getD_some] at hlets
      exact le_of_le_elapsedMs (ctrlInterval_pos (cfg i)) hlets
    refine ⟨?_, fun last hw => ⟨call.now, hlast, (Nat.le_add_right _ _).trans (hlate last hw)⟩, ?_⟩
    · rw [List.length_map, List.length_drop]
      rcases hsent with h | ⟨report, h⟩
      · rw [h]
        omega
      · rw [h, List.length_append, List.length_singleton]
        omega
    · intro e he
      obtain ⟨report, -, rfl⟩ := List.mem_map.mp he
      exact ⟨rfl, rfl, hlast, hlate⟩

/-- From any value of `last_ctrl` on, each report comes late enough after that and after the
reports before it. -/
lemma emissions_paced (calls : List (ι × PumpCall)) (w : Sharing ι (Option ℕ) Receiver) :
    ((emissions cfg calls w).Pairwise fun e e' => e.time + reportGap cfg e'.receiver ≤ e'.time) ∧
      ∀ last, w.cell = some last →
        ∀ e ∈ emissions cfg calls w, last + reportGap cfg e.receiver ≤ e.time := by
  induction calls generalizing w with
  | nil => exact ⟨List.Pairwise.nil, fun _ _ => List.forall_mem_nil _⟩
  | cons c calls ih =>
    obtain ⟨i, call⟩ := c
    obtain ⟨hone, hgrows, hout⟩ := callOut_paced w i call
    obtain ⟨hpairs, hlater⟩ := ih (w.step (receiverCall cfg) (i, call))
    constructor
    · refine List.pairwise_append.mpr ⟨?_, hpairs, fun e he e' he' => ?_⟩
      · generalize callOut cfg w (i, call) = out at hone
        match out, hone with
        | [], _ => exact List.Pairwise.nil
        | [e], _ => exact List.pairwise_singleton _ e
      · exact hlater e.time (hout e he).2.2.1 e' he'
    · intro last hw e he
      rcases List.mem_append.mp he with he | he
      · obtain ⟨-, hi, -, hlate⟩ := hout e he
        exact hi ▸ hlate last hw
      · obtain ⟨last', hlast', hle⟩ := hgrows last hw
        exact (Nat.add_le_add_right hle _).trans (hlater last' hlast' e he)

end Runs

/-- Whatever order the receivers are called in and whatever other threads do, each report comes at
least the control interval of its receiver after every earlier one, also of other receivers; so in
an interval of time all receivers together send as many reports as one may. -/
theorem reports_paced {ι : Type} [DecidableEq ι] (cfg : ι → SRConfig)
    (calls : List (ι × PumpCall)) (w : Sharing ι (Option ℕ) Receiver) :
    ((emissions cfg calls w).Pairwise fun e e' => e.time + reportGap cfg e'.receiver ≤ e'.time) ∧
      ∀ gap start width, 0 < gap → (∀ i, gap ≤ reportGap cfg i) →
        ((emissions cfg calls w).filter fun e => start ≤ e.time ∧ e.time < start + width).length
          ≤ (width + gap - 1) / gap := by
  refine ⟨(emissions_paced calls w).1, fun gap start width hgap hcfg => ?_⟩
  have hspaced : Spaced gap (((emissions cfg calls w).filter fun e =>
      start ≤ e.time ∧ e.time < start + width).map Emission.time) :=
    List.pairwise_map.mpr (((emissions_paced calls w).1.imp fun h =>
      (Nat.add_le_add_left (hcfg _) _).trans h).sublist List.filter_sublist)
  have htimes : ∀ t ∈ ((emissions cfg calls w).filter fun e =>
      start ≤ e.time ∧ e.time < start + width).map Emission.time,
      start ≤ t ∧ t < start + width := by
    intro t ht
    obtain ⟨e, he, rfl⟩ := List.mem_map.mp ht
    exact decide_eq_true_iff.mp (List.mem_filter.mp he).2
  rw [← List.length_map Emission.time]
  exact hspaced.length_le hgap htimes

/-- Two receivers that report every 50 ms report 3 times in 120 ms. -/
theorem reports_paced_two : ((emissions sampleConfig
      [(false, restingCall ⟨0, 1, 0, 0⟩ 0 50000000), (true, restingCall ⟨0, 1, 0, 0⟩ 0 60000000),
        (true, restingCall ⟨0, 1, 0, 0⟩ 0 110000000)] sampleReceivers).filter fun e =>
      0 ≤ e.time ∧ e.time < 0 + 120000000).length ≤ 3 :=
  (reports_paced sampleConfig _ sampleReceivers).2 50000000 0 120000000 (by decide)
    fun i => by cases i <;> decide

end SdrUdp
