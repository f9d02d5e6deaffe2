import SdrUdp.Core.SharedCell
import SdrUdp.SrAtRest

/-!
# Receivers side by side

`last_ctrl` is a static variable of `SRReceiver::pump`, so all receivers of a process share it.
-/

namespace SdrUdp

open SdrUdp.Core

/-- `pump` with the checks in front. The first call that gets past them reads the clock a second
time, to initialize `last_ctrl` with `first`. -/
def SRReceiver.pump (cfg : SRConfig) (recvHandle : Option SDRRecvHandle) (first now : ℕ)
    (answer : ℤ) : Prog ReceiverMemory Bool :=
  match recvHandle with
  | none        => pure false
  | some handle => do
    if ← Prog.load fun m => m.conn.tcpServer.isNone then pure false
    else
      Prog.modify fun m => { m with lastCtrl := some (m.lastCtrl.getD first) }
      SdrUdp.pump cfg handle now answer

/-- The memory with another value in `last_ctrl`. -/
def ReceiverMemory.withLastCtrl (m : ReceiverMemory) (lastCtrl : Option ℕ) : ReceiverMemory :=
  { m with lastCtrl }

/-- A change by another thread; `last_ctrl` and the log of what `pump` sends are not its own. -/
def ReceiverMemory.elsewhere (f : ReceiverMemory → ReceiverMemory) (m : ReceiverMemory) :
    ReceiverMemory :=
  { f (m.withLastCtrl none) with sent := m.sent, lastCtrl := m.lastCtrl }

/-- A call of `pump` on one of the receivers: `recv_handle_`, the readings of the clock, what `send`
returns, and what other threads have done to the connection since the last call and do during this
one. -/
structure PumpCall where
  recvHandle : Option SDRRecvHandle
  first : ℕ
  now : ℕ
  answer : ℤ
  others : List (ReceiverMemory → ReceiverMemory)

/-- The connection of a receiver and what its calls have returned. The field `lastCtrl` of its
memory is not used. -/
structure Receiver where
  memory : ReceiverMemory
  returned : List Bool

namespace PumpCall

/-- The connection when the call looks at it first. -/
def seen (call : PumpCall) (m : ReceiverMemory) : ReceiverMemory :=
  (call.others.map ReceiverMemory.elsewhere).headD id m

def run (call : PumpCall) (cfg : SRConfig) (lastCtrl : Option ℕ) (m : ReceiverMemory) :
    Option (Bool × ReceiverMemory) :=
  (SRReceiver.pump cfg call.recvHandle call.first call.now call.answer).runAmong
    (call.others.map ReceiverMemory.elsewhere) (m.withLastCtrl lastCtrl)

/-- The call on a receiver that finds `lastCtrl` in `last_ctrl`. -/
def apply (call : PumpCall) (cfg : SRConfig) (lastCtrl : Option ℕ) (r : Receiver) :
    Option ℕ × Receiver :=
  match call.run cfg lastCtrl r.memory with
  | none             => (lastCtrl, r)
  | some (result, m) => (m.lastCtrl, ⟨m.withLastCtrl none, r.returned ++ [result]⟩)

/-- If the call gets to the rate limiter, this decides the same with either value of `last_ctrl`. -/
def Agrees (call : PumpCall) (cfg : SRConfig) (m : ReceiverMemory) (shared own : Option ℕ) : Prop :=
  call.recvHandle.isSome → (call.seen m).conn.tcpServer.isSome →
    (cfg.Lets call.now (shared.getD call.first) ↔ cfg.Lets call.now (own.getD call.first))

/-- No call blocks. -/
lemma exists_run (call : PumpCall) (cfg : SRConfig) (lastCtrl : Option ℕ) (m : ReceiverMemory) :
    ∃ result m', call.run cfg lastCtrl m = some (result, m') := by
  refine Prog.Straight.exists_runAmong (A := fun _ => True) ?_ _ _
  unfold SRReceiver.pump
  cases call.recvHandle with
  | none => exact Prog.Straight.pure false
  | some handle =>
    refine Prog.Straight.bind (Prog.Straight.load trivial _) fun closed => ?_
    split_ifs
    · exact Prog.Straight.pure false
    · refine Prog.Straight.bind (Prog.Straight.modify trivial) fun _ => ?_
      exact pump_straight trivial (fun _ => trivial) (fun _ => trivial) cfg handle call.now

end PumpCall

/-! ### The rate limiter -/

/-- Past the rate limiter, `pump` does the same whatever it found in `last_ctrl`. -/
lemma pump_limited (cfg : SRConfig) (handle : SDRRecvHandle) (now : ℕ) (answer : ℤ) :
    ∃ body : Prog ReceiverMemory Bool, pump cfg handle now answer
      = Prog.load (fun m => m.lastCtrl.getD now) >>= fun lastCtrl =>
        if elapsedMs now lastCtrl < cfg.ctrlInterval then
          Prog.modify (fun m => m.withLastCtrl (some lastCtrl)) >>= fun _ => pure false
        else Prog.modify (fun m => m.withLastCtrl (some now)) >>= fun _ => body :=
  ⟨_, rfl⟩

section Others

variable (others : List (ReceiverMemory → ReceiverMemory)) (m : ReceiverMemory)
variable (lastCtrl : Option ℕ)

lemma headD_elsewhere :
    (others.map ReceiverMemory.elsewhere).headD id (m.withLastCtrl lastCtrl)
      = ((others.map ReceiverMemory.elsewhere).headD id m).withLastCtrl lastCtrl := by
  cases others <;> rfl

lemma foldl_elsewhere :
    (others.map ReceiverMemory.elsewhere).foldl (fun m act => act m) (m.withLastCtrl lastCtrl)
      = ((others.map ReceiverMemory.elsewhere).foldl (fun m act => act m) m).withLastCtrl
        lastCtrl := by
  induction others generalizing m with
  | nil => rfl
  | cons f others ih => exact ih (m.elsewhere f)

end Others

section Limiter

variable {cfg : SRConfig} {m : ReceiverMemory}

/-- What a call returned and left in the memory, but for `last_ctrl`. -/
def outcome (r : Bool × ReceiverMemory) : Bool × ReceiverMemory := (r.1, r.2.withLastCtrl none)

/-- A call that does nothing ends the same with any value in `last_ctrl`. -/
lemma runAmong_pure_congr (others : List (ReceiverMemory → ReceiverMemory)) (result : Bool)
    (last last' : Option ℕ) :
    (((pure result : Prog ReceiverMemory Bool).runAmong (others.map ReceiverMemory.elsewhere)
      (m.withLastCtrl last)).map outcome)
      = ((pure result : Prog ReceiverMemory Bool).runAmong (others.map ReceiverMemory.elsewhere)
        (m.withLastCtrl last')).map outcome := by
  change some (_, _) = some (_, _)
  rw [foldl_elsewhere, foldl_elsewhere]
  rfl

/-- Where the limiter decides the same, `pump` does the same. -/
lemma runAmong_pump_congr {handle : SDRRecvHandle} {now last last' : ℕ} {answer : ℤ}
    (h : cfg.Lets now last ↔ cfg.Lets now last')
    (others : List (ReceiverMemory → ReceiverMemory)) :
    ((pump cfg handle now answer).runAmong (others.map ReceiverMemory.elsewhere)
      (m.withLastCtrl (some last))).map outcome
      = ((pump cfg handle now answer).runAmong (others.map ReceiverMemory.elsewhere)
        (m.withLastCtrl (some last'))).map outcome := by
  obtain ⟨body, hbody⟩ := pump_limited cfg handle now answer
  have hblocks : elapsedMs now last < cfg.ctrlInterval
      ↔ elapsedMs now last' < cfg.ctrlInterval := by
    rw [← not_le, ← not_le]
    exact not_congr h
  rw [hbody, Prog.runAmong_load_bind, Prog.runAmong_load_bind, headD_elsewhere, headD_elsewhere,
    ← List.map_tail]
  generalize (others.map ReceiverMemory.elsewhere).headD id m = m
  generalize others.tail = others
  change ((if elapsedMs now last < cfg.ctrlInterval then _ else _ : Prog _ _).runAmong _ _).map _
    = ((if elapsedMs now last' < cfg.ctrlInterval then _ else _ : Prog _ _).runAmong _ _).map _
  by_cases hlast : elapsedMs now last < cfg.ctrlInterval
  · rw [if_pos hlast, if_pos (hblocks.mp hlast), Prog.runAmong_modify_bind,
      Prog.runAmong_modify_bind, headD_elsewhere, headD_elsewhere, ← List.map_tail]
    exact runAmong_pure_congr others.tail false (some last) (some last')
  · -- from here on the memories are equal
    rw [if_neg hlast, if_neg (mt hblocks.mpr hlast), Prog.runAmong_modify_bind,
      Prog.runAmong_modify_bind, headD_elsewhere, headD_elsewhere]
    rfl

/-- Where the limiter decides the same, a call ends the same but for `last_ctrl`. -/
lemma PumpCall.run_congr {call : PumpCall} {shared own : Option ℕ}
    (h : call.Agrees cfg m shared own) :
    (call.run cfg shared m).map outcome = (call.run cfg own m).map outcome := by
  unfold PumpCall.run SRReceiver.pump
  cases hhandle : call.recvHandle with
  | none => exact runAmong_pure_congr call.others false shared own
  | some handle =>
    have hlets := h (by rw [hhandle]; rfl)
    change ((_ >>= _ : Prog _ _).runAmong _ _).map _ = ((_ >>= _ : Prog _ _).runAmong _ _).map _
    rw [Prog.runAmong_load_bind, Prog.runAmong_load_bind, headD_elsewhere, headD_elsewhere,
      ← List.map_tail]
    change ((if (call.seen m).conn.tcpServer.isNone then _ else _ : Prog _ _).runAmong _ _).map _
      = ((if (call.seen m).conn.tcpServer.isNone then _ else _ : Prog _ _).runAmong _ _).map _
    by_cases hserver : (call.seen m).conn.tcpServer.isNone = true
    · rw [if_pos hserver]
      exact runAmong_pure_congr call.others.tail false shared own
    · rw [if_neg hserver, Prog.runAmong_modify_bind, Prog.runAmong_modify_bind, headD_elsewhere,
        headD_elsewhere, ← List.map_tail]
      refine runAmong_pump_congr (hlets ?_) call.others.tail.tail
      simpa [Option.isSome_iff_ne_none] using hserver

end Limiter

/-! ### Runs -/

section Runs

variable {ι : Type} [DecidableEq ι] (cfg : ι → SRConfig)

/-- A call on one receiver, where all share `last_ctrl`. -/
def receiverCall (i : ι) (call : PumpCall) : Option ℕ → Receiver → Option ℕ × Receiver :=
  call.apply (cfg i)

/-- Every receiver has sent and returned what it would have without the others. -/
def Undisturbed (w : Sharing ι (Option ℕ) Receiver) (calls : List (ι × PumpCall)) : Prop :=
  ∀ i, let joint := (Sharing.run (receiverCall cfg) calls w).own i
    let alone := (Sharing.runAlone (receiverCall cfg) i calls w).own i
    joint.memory.sent = alone.memory.sent ∧ joint.returned = alone.returned

/-- At each call, the limiter decides as it would if the other receivers had left `last_ctrl`
alone. -/
def LimiterAgrees (w : Sharing ι (Option ℕ) Receiver) (calls : List (ι × PumpCall)) : Prop :=
  ∀ before i call after, calls = before ++ (i, call) :: after →
    let joint := Sharing.run (receiverCall cfg) before w
    call.Agrees (cfg i) (joint.own i).memory joint.cell
      (Sharing.runAlone (receiverCall cfg) i before w).cell

variable {cfg}

lemma PumpCall.apply_congr {call : PumpCall} {c : SRConfig} {r : Receiver}
    {shared own : Option ℕ} (h : call.Agrees c r.memory shared own) :
    (call.apply c shared r).2 = (call.apply c own r).2 := by
  obtain ⟨result, m, hrun⟩ := call.exists_run c shared r.memory
  obtain ⟨result', m', hrun'⟩ := call.exists_run c own r.memory
  have hsame := PumpCall.run_congr h
  rw [hrun, hrun'] at hsame
  obtain ⟨rfl, hm⟩ := Prod.mk.inj (Option.some.inj hsame)
  simp only [PumpCall.apply, hrun, hrun', hm]

/-- A prefix of such a run is one. -/
lemma LimiterAgrees.of_prefix {w : Sharing ι (Option ℕ) Receiver}
    {calls reached : List (ι × PumpCall)} (h : LimiterAgrees cfg w calls)
    (hreached : reached <+: calls) : LimiterAgrees cfg w reached := by
  obtain ⟨rest, rfl⟩ := hreached
  intro before i call after hsplit
  exact h before i call (after ++ rest) (by rw [hsplit, List.append_assoc]; rfl)

/-- In a run in which the limiter always decides as it would for a receiver alone, the receivers do
not disturb each other. -/
theorem undisturbed_of_limiterAgrees {w : Sharing ι (Option ℕ) Receiver}
    {calls : List (ι × PumpCall)} (h : LimiterAgrees cfg w calls) :
    ∀ reached, reached <+: calls → Undisturbed cfg w reached := by
  intro reached hreached i
  have hown : (Sharing.run (receiverCall cfg) reached w).own i
      = (Sharing.runAlone (receiverCall cfg) i reached w).own i :=
    Sharing.own_run_eq fun before call after hsplit =>
      PumpCall.apply_congr (h.of_prefix hreached before i call after hsplit)
  exact ⟨congrArg (·.memory.sent) hown, congrArg (·.returned) hown⟩

end Runs

/-! ### Calls that disturb -/

/-- A call while the other threads rest. -/
def restingCall (handle : SDRRecvHandle) (first now : ℕ) : PumpCall :=
  ⟨some handle, first, now, sizeofControlMessage, []⟩

section Resting

variable {cfg : SRConfig} {handle : SDRRecvHandle} {first now : ℕ} {lastCtrl : Option ℕ}
variable {r : Receiver} {server : TCPControlServer}

lemma apply_restingCall (hserver : r.memory.conn.tcpServer = some server) :
    (restingCall handle first now).apply cfg lastCtrl r
      = let call := pumpAtRest cfg handle.msgId now sizeofControlMessage
          (r.memory.withLastCtrl (some (lastCtrl.getD first)))
        (call.2.lastCtrl, ⟨call.2.withLastCtrl none, r.returned ++ [call.1]⟩) := by
  have hopen : (r.memory.withLastCtrl lastCtrl).conn.tcpServer.isNone = false := by
    change r.memory.conn.tcpServer.isNone = false
    rw [hserver]
    rfl
  have hrun : (restingCall handle first now).run cfg lastCtrl r.memory
      = some (pumpAtRest cfg handle.msgId now sizeofControlMessage
        (r.memory.withLastCtrl (some (lastCtrl.getD first)))) := by
    rw [PumpCall.run, restingCall, List.map_nil, Prog.runAmong_nil, SRReceiver.pump]
    dsimp only
    rw [(Reads.load _ _).run_bind, hopen, if_neg Bool.false_ne_true, Prog.run_bind,
      Prog.run_modify, Option.bind_some]
    exact run_pump cfg handle now sizeofControlMessage _
  rw [PumpCall.apply, hrun]

/-- A blocked call. -/
lemma apply_restingCall_of_blocked (hserver : r.memory.conn.tcpServer = some server)
    (hblocked : ¬ cfg.Lets now (lastCtrl.getD first)) :
    (restingCall handle first now).apply cfg lastCtrl r
      = (some (lastCtrl.getD first), ⟨r.memory.withLastCtrl none, r.returned ++ [false]⟩) := by
  have hcall := pumpAtRest_of_blocked (m := r.memory.withLastCtrl (some (lastCtrl.getD first)))
    hblocked handle.msgId sizeofControlMessage
  rw [apply_restingCall hserver, hcall]
  rfl

/-- The limiter must not decide otherwise when there is something to report on. -/
theorem sent_restingCall_ne {shared own : Option ℕ} {report : ControlMessage} {done : Bool}
    (hserver : r.memory.conn.tcpServer = some server) (hopen : 0 ≤ server.clientFd)
    (hreport : reportAtRest handle.msgId r.memory = some (report, done))
    (hlets : cfg.Lets now (shared.getD first)) (hblocked : ¬ cfg.Lets now (own.getD first)) :
    ((restingCall handle first now).apply cfg shared r).2.memory.sent
      ≠ ((restingCall handle first now).apply cfg own r).2.memory.sent := by
  have hsent : (pumpAtRest cfg handle.msgId now sizeofControlMessage
      (r.memory.withLastCtrl (some (shared.getD first)))).2.sent = r.memory.sent ++ [report] :=
    sent_pumpAtRest hlets hreport hserver hopen
  rw [apply_restingCall_of_blocked hserver hblocked, apply_restingCall hserver]
  intro h
  exact absurd (congrArg List.length (hsent.symm.trans h)) (by simp [ReceiverMemory.withLastCtrl])

end Resting

/-! ### Two receivers -/

/-- Two receivers with a message of one chunk each, which has not come yet. -/
def sampleReceivers : Sharing Bool (Option ℕ) Receiver :=
  ⟨none, fun _ => ⟨postedChunks 1 fun _ => 0#64, []⟩⟩

def sampleConfig : Bool → SRConfig := fun _ => .default

/-- The first receiver is called at 0 and 50 ms and reports; the second is called at 50 ms. -/
theorem undisturbed_early : Undisturbed sampleConfig sampleReceivers
    [(false, restingCall ⟨0, 1, 0, 0⟩ 0 0),
      (false, restingCall ⟨0, 1, 0, 0⟩ 50000000 50000000),
      (true, restingCall ⟨0, 1, 0, 0⟩ 50000000 50000000)] := by
  refine undisturbed_of_limiterAgrees ?_ _ List.prefix_rfl
  intro before i call after hsplit joint _ _
  rcases before with _ | ⟨e₁, _ | ⟨e₂, _ | ⟨e₃, before⟩⟩⟩
  · rfl
  · obtain ⟨rfl, hrest⟩ := List.cons.inj hsplit
    obtain ⟨hcall, -⟩ := List.cons.inj hrest
    obtain ⟨rfl, rfl⟩ := Prod.mk.inj hcall
    rfl
  · obtain ⟨rfl, hrest⟩ := List.cons.inj hsplit
    obtain ⟨rfl, hlast⟩ := List.cons.inj hrest
    obtain ⟨hcall, -⟩ := List.cons.inj hlast
    obtain ⟨rfl, rfl⟩ := Prod.mk.inj hcall
    have hcell : joint.cell = some 50000000 := by decide
    rw [hcell]
    exact Iff.rfl
  · simp at hsplit

/-- The second receiver, called for the first time at 100 ms, reports at once because the first one
was called at 0; alone, it would not. -/
theorem disturbed_late : ¬ Undisturbed sampleConfig sampleReceivers
    [(false, restingCall ⟨0, 1, 0, 0⟩ 0 0),
      (true, restingCall ⟨0, 1, 0, 0⟩ 100000000 100000000)] := by
  intro h
  obtain ⟨report, done, hreport⟩ := reportAtRest_postedChunks 1 fun _ => 0#64
  have hfirst : ((restingCall ⟨0, 1, 0, 0⟩ 0 0).apply .default none (sampleReceivers.own false)).1
      = some 0 :=
    congrArg Prod.fst (apply_restingCall_of_blocked rfl (by decide))
  have hlets : SRConfig.default.Lets 100000000 (((restingCall ⟨0, 1, 0, 0⟩ 0 0).apply .default none
      (sampleReceivers.own false)).1.getD 100000000) := by
    rw [hfirst]
    decide
  exact sent_restingCall_ne (r := sampleReceivers.own true) rfl (by decide) hreport hlets
    (by decide) (h true).1

end SdrUdp
