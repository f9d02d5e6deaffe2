import SdrUdp.EcTransfer
import Mathlib.Data.List.Perm.Subperm

/-!
# Whether the fallback of the erasure code gets through

The receiver falls silent after its last request or when it finds too few chunks to rebuild the
missing ones, and in the loop of `sdr_send_poll` the sender does not listen. What is lost then does
not come back.
-/

namespace SdrUdp

open SdrUdp.Core

namespace EcTransfer

variable {isal : Isal} {t : BitmapPair} {D : Set ℕ} {b before : ℕ} {s s' : EcTransfer}

/-! ### No way out -/

/-- What is out of reach keeps the receiver from returning true, and it cannot be brought back: no
call finds more data chunks missing than there are parity chunks, or the request is not answered. -/
structure Stuck (t : BitmapPair) (D : Set ℕ) (s : EcTransfer) : Prop where
  decoded : s.decoded = false
  lost : s.lost t ≠ []
  short : s.receiver.fallbackActive = true ∨ s.receiver.layout.m < (s.lost t).length ∨
    (s.receiver.availIdxs (t.arrived (s.reach t))).length < s.receiver.layout.k
  unasked : s.receiver.fallbackActive = true ∨ s.poll.state ≠ .main ∨
    ∀ missing : List ℕ, missing.Sublist (List.range s.receiver.layout.dataChunks) →
      (∀ c ∈ missing, c ∉ D) → missing.length ≤ s.receiver.layout.m

lemma mem_lost {c : ℕ} : c ∈ s.lost t ↔
    c < s.receiver.layout.dataChunks ∧ t.arrived (s.reach t) c = false := by
  rw [lost, ECReceiver.missingData, List.mem_filter, List.mem_range, Bool.not_eq_true']

/-- As long as the reach does not grow. -/
lemma Stuck.shrink (h : s.Stuck t D) (hdecoded : s'.decoded = false)
    (hlayout : s'.receiver.layout = s.receiver.layout)
    (hfallback : s.receiver.fallbackActive = true → s'.receiver.fallbackActive = true)
    (hmain : s.poll.state ≠ .main → s'.poll.state ≠ .main)
    (hreach : ∀ o < t.totalPackets, o ∈ s'.reach t → o ∈ s.reach t) : s'.Stuck t D := by
  have harrived : ∀ c, t.arrived (s'.reach t) c = true → t.arrived (s.reach t) c = true :=
    fun c hc => BitmapPair.arrived_mono hreach hc
  have hlost : (s.lost t).Sublist (s'.lost t) := by
    rw [EcTransfer.lost, EcTransfer.lost, ECReceiver.missingData, ECReceiver.missingData, hlayout]
    refine List.monotone_filter_right _ fun c hc => ?_
    rw [Bool.not_eq_true'] at hc ⊢
    exact Bool.eq_false_iff.mpr fun harrived' => absurd ((harrived c harrived').symm.trans hc)
      Bool.noConfusion
  have havail : (s'.receiver.availIdxs (t.arrived (s'.reach t))).Sublist
      (s.receiver.availIdxs (t.arrived (s.reach t))) := by
    rw [ECReceiver.availIdxs, ECReceiver.availIdxs, hlayout]
    exact List.monotone_filter_right _ harrived
  refine ⟨hdecoded, fun hnil => h.lost (List.sublist_nil.mp (hnil ▸ hlost)), ?_, ?_⟩
  · rw [hlayout]
    exact h.short.imp hfallback (Or.imp (fun hlt => hlt.trans_le hlost.length_le)
      fun hlt => havail.length_le.trans_lt hlt)
  · rw [hlayout]
    exact h.unasked.imp hfallback (Or.imp_left hmain)

/-- A trapped transfer is stuck; between two calls the set bits tell what a call may find. -/
lemma Inv.stuck_of_trapped (h : s.Inv t ∅ b before) (htrapped : s.Trapped t) :
    ∃ D, s.Inv t D b before ∧ s.Stuck t D := by
  rcases htrapped.unasked with hactive | hmain | ⟨hscan, hfew⟩
  · exact ⟨∅, h, htrapped.decoded, htrapped.lost, htrapped.short, Or.inl hactive⟩
  · exact ⟨∅, h, htrapped.decoded, htrapped.lost, htrapped.short, Or.inr (Or.inl hmain)⟩
  · refine ⟨{c | chunkComplete t.slot s.link.memory c = true}, h.idle hscan fun c hc =>
      (h.link.live.chunkComplete_iff c).mp hc, htrapped.decoded, htrapped.lost, htrapped.short,
      Or.inr (Or.inr fun missing hsub habsent => ?_)⟩
    refine le_trans ((hsub.nodup List.nodup_range).subperm fun c hc =>
      List.mem_filter.mpr ⟨hsub.subset hc, ?_⟩).length_le hfew
    have hnot := habsent c hc
    rw [Set.mem_ofPred_eq, Bool.not_eq_true] at hnot
    rw [hnot, Bool.not_false]

/-- A chunk whose bit is set is within reach. -/
lemma Inv.arrived_of_completed (h : s.Inv t D b before) {c : ℕ}
    (hc : c < t.totalChunks ∧ c ∈ t.completed s.link.memory) : t.arrived (s.reach t) c = true :=
  BitmapPair.arrived_iff.mpr ⟨hc.1, fun o ho => Or.inl (Or.inl (h.link.live.chunks c hc.2 o ho))⟩

lemma Inv.exists_incomplete (h : s.Inv t D b before) (hlost : s.lost t ≠ []) :
    ∃ c < s.receiver.layout.dataChunks, chunkComplete t.slot s.link.memory c = false := by
  obtain ⟨c, hc⟩ := List.exists_mem_of_ne_nil _ hlost
  obtain ⟨hlt, hmissing⟩ := mem_lost.mp hc
  refine ⟨c, hlt, ?_⟩
  by_contra hcomplete
  rw [Bool.not_eq_false, h.link.live.chunkComplete_iff] at hcomplete
  exact absurd ((h.arrived_of_completed hcomplete).symm.trans hmissing) Bool.noConfusion

/-- A data chunk out of reach is found missing. -/
lemma Inv.mem_missing (h : s.Inv t D b before) {missing avail : List ℕ}
    (hreads : s.receiver.Reads t D missing avail s.link.memory) {c : ℕ} (hc : c ∈ s.lost t) :
    c ∈ missing := by
  obtain ⟨hlt, hmissing⟩ := mem_lost.mp hc
  by_contra hnot
  have harrived : t.arrived (s.reach t) c = true :=
    h.arrived_of_completed (hreads.others c hlt hnot)
  exact absurd (harrived.symm.trans hmissing) Bool.noConfusion

/-- So such a call does not return true. -/
lemma Inv.not_decoded (h : s.Inv t D b before) (hstuck : s.Stuck t D)
    {seen : Option (List ℕ × List ℕ)} (hscan : s.scan = some (.done seen))
    (hs : s.conclude isal seen = some s') : s'.decoded = false := by
  obtain ⟨⟨done, r', m'⟩, hconclude, rfl⟩ := Option.map_eq_some_iff.mp hs
  by_contra hdone
  obtain rfl : done = true := Bool.not_eq_false _ ▸ hdone
  obtain ⟨missing, avail, hseen, hreason⟩ := ECReceiver.conclude_true hconclude
  have hreads := h.reads_done hscan hseen
  have hlost : (s.lost t).length ≤ missing.length :=
    (List.Nodup.subperm (List.nodup_range.filter _) fun c hc =>
      h.mem_missing hreads hc).length_le
  rcases hreason with hmissing | ⟨hfallback, hfew, henough⟩
  · refine hstuck.lost (List.eq_nil_of_length_eq_zero ?_)
    rw [hmissing] at hlost
    exact Nat.le_zero.mp hlost
  · have havail : avail.length ≤ (s.receiver.availIdxs (t.arrived (s.reach t))).length := by
      refine ((hreads.avail_sublist.nodup List.nodup_range).subperm
        fun c hc => List.mem_filter.mpr ⟨hreads.avail_sublist.subset hc, ?_⟩).length_le
      exact h.arrived_of_completed (hreads.present c hc)
    rcases hstuck.short with hactive | hmany | hshort
    · exact absurd (hactive.symm.trans hfallback) Bool.noConfusion
    · exact absurd (hmany.trans_le hlost) (not_lt.mpr hfew)
    · exact absurd (hshort.trans_le henough) (not_lt.mpr havail)

section Steps

variable (hfits : t.Fits)
include hfits

/-- A step does not change that. -/
lemma Inv.step_stuck (h : s.Inv t D b before) (hstuck : s.Stuck t D)
    (hstep : Step isal t.slot s s') : s'.Inv t D b before ∧ s'.Stuck t D := by
  have hinv := h.step hfits hstep
  cases hstep with
  | link hl =>
    refine ⟨h.linkSteps hfits (.single hl), hstuck.shrink hstuck.decoded rfl id id fun o _ ho => ?_⟩
    have hsent := (h.link.step_resting hl h.resting).2
    rcases ho with hcovered | hpending
    · exact Or.inl (by_contra fun hnot => h.link.step_missing hl hnot hcovered)
    · refine Or.inr ?_
      rw [pending, hsent] at hpending
      exact hpending
  | call idle hdecoded => exact ⟨h.call, hstuck.shrink hstuck.decoded rfl id id fun _ _ => id⟩
  | load hscan =>
    obtain ⟨hsame, hload⟩ := h.load hscan
    rw [hsame]
    exact ⟨hload, hstuck.shrink hstuck.decoded rfl id id fun _ _ => id⟩
  | conclude hscan hs =>
    have hdecoded := h.not_decoded hstuck hscan hs
    refine ⟨(hinv.resolve_left fun hdone => absurd hdone.1 (by simp [hdecoded])), ?_⟩
    rcases h.conclude_false hs hdecoded with rfl | ⟨missing, avail, msg, r', hseen, hfallback,
      hmany, hmsg, hlayout, hhandle, hs'⟩
    · exact hstuck.shrink hdecoded rfl id id fun _ _ => id
    · -- the request goes out, but the sender does not answer it
      have hreads := h.reads_done hscan hseen
      have hreach := (h.requested hmsg hhandle hs').2
      have hmain : s.poll.state ≠ .main := by
        rcases hstuck.unasked with hactive | hmain | hfew
        · exact absurd (hactive.symm.trans hfallback) Bool.noConfusion
        · exact hmain
        · exact absurd (hfew missing hreads.missing_sublist hreads.absent) (not_le.mpr hmany)
      have hpoll : s'.poll = s.poll := by rw [hs']
      refine hstuck.shrink hdecoded (by rw [hs', hlayout]) (fun hactive => absurd
        (hactive.symm.trans hfallback) Bool.noConfusion) (by rw [hpoll]; exact id) fun o _ ho => ?_
      rw [hreach, ECPoll.resends_of_ne_main hmain] at ho
      exact ho.resolve_right (Set.notMem_empty o)
  | deliver hmsg hs =>
    obtain ⟨s₁, hs₁, hdelivered, rfl, hreach⟩ := h.deliver hfits hmsg
    obtain rfl := Option.some.inj (hs₁.symm.trans hs)
    refine ⟨hdelivered, hstuck.shrink hstuck.decoded rfl id (fun hmain => ?_) fun o _ ho => ?_⟩
    · simpa only [ECPoll.answered, if_neg hmain] using hmain
    · exact hreach ▸ ho
  | timeout hs =>
    obtain ⟨state, hs₁, hstate⟩ := h.event_timeout
    obtain rfl := Option.some.inj (hs₁.symm.trans hs)
    refine ⟨h.withState state, hstuck.shrink hstuck.decoded rfl id (fun _ => hstate)
      fun o _ ho => ?_⟩
    rcases ho with ho | ⟨msg, -, ho⟩
    · exact Or.inl ho
    · rw [ECPoll.resends_of_ne_main hstate] at ho
      exact absurd ho (Set.notMem_empty o)

lemma Inv.not_getsThrough (h : s.Inv t ∅ b before) (htrapped : s.Trapped t) :
    ¬ s.GetsThrough isal t.slot := by
  rintro ⟨s', hs, hdone⟩
  obtain ⟨D, hinv, hstuck⟩ := h.stuck_of_trapped htrapped
  suffices hrun : s'.Inv t D b before ∧ s'.Stuck t D from
    absurd (hdone.symm.trans hrun.2.decoded) Bool.noConfusion
  clear hdone
  induction hs with
  | refl => exact ⟨hinv, hstuck⟩
  | tail _ hstep ih => exact ih.1.step_stuck hfits ih.2 hstep

end Steps

/-! ### The way out -/

/-- What is on its way has arrived, and the sender has answered what it was asked. -/
structure Settles (t : BitmapPair) (s s' : EcTransfer) : Prop where
  receiver : s'.receiver = s.receiver
  scan : s'.scan = s.scan
  decoded : s'.decoded = s.decoded
  resends : s'.poll.resends = s.poll.resends
  reach : ∀ o < t.totalPackets, o ∈ s'.reach t ↔ o ∈ s.reach t
  complete : chunkComplete t.slot s'.link.memory = t.arrived (s.reach t)

section Steps

variable (hfits : t.Fits)
include hfits

/-- The sender can take all control messages that are on their way. -/
lemma Inv.steps_deliver (isal : Isal) (h : s.Inv t D b before) : ∃ s',
    Relation.ReflTransGen (Step isal t.slot) s s' ∧ s'.Inv t D b before ∧ s'.pending = [] ∧
      s'.receiver = s.receiver ∧ s'.scan = s.scan ∧ s'.decoded = s.decoded ∧
      s'.poll.resends = s.poll.resends ∧ s'.reach t = s.reach t := by
  generalize hn : s.pending.length = n
  induction n generalizing s with
  | zero => exact ⟨s, .refl, h, List.eq_nil_of_length_eq_zero hn, rfl, rfl, rfl, rfl, rfl⟩
  | succ n ih =>
    have hlt : s.consumed < s.link.memory.sent.length := by
      rw [pending, List.length_drop] at hn
      omega
    have hmsg := List.getElem?_eq_getElem hlt
    obtain ⟨s₁, hs₁, hinv, rfl, hreach⟩ := h.deliver hfits hmsg
    have hlength : (pending { s with
        link := s.link.send (s.poll.resent s.link.memory.sent[s.consumed])
        poll := s.poll.answered s.link.memory.sent[s.consumed]
        consumed := s.consumed + 1 }).length = n := by
      rw [pending, List.length_drop] at hn ⊢
      change s.link.memory.sent.length - (s.consumed + 1) = n
      omega
    obtain ⟨s', hs', hinv', hpending, hreceiver, hscan, hdecoded, hresends, hreach'⟩ :=
      ih hinv hlength
    refine ⟨s', .head (.deliver hmsg hs₁) hs', hinv', hpending, hreceiver, hscan, hdecoded,
      hresends.trans (s.poll.answered_resends _), hreach'.trans hreach⟩

/-- So can everything else that is on its way. -/
lemma Inv.steps_settle (isal : Isal) (h : s.Inv t D b before) : ∃ s',
    Relation.ReflTransGen (Step isal t.slot) s s' ∧ s'.Inv t D b before ∧ s.Settles t s' := by
  obtain ⟨s₁, hs₁, h₁, hpending, hreceiver, hscan, hdecoded, hresends, hreach⟩ :=
    h.steps_deliver hfits isal
  obtain ⟨l, hl, hcovered, hcompleted⟩ :=
    h₁.link.steps_settle hfits (t.stable_requesting b before)
  have h₂ := h₁.linkSteps hfits hl
  have hsent := (h₁.link.steps_resting hfits (t.stable_requesting b before) hl h₁.resting).2
  have hquiet : ∀ o, o ∈ s₁.reach t ↔ Link.Covered t s₁.link o := fun o => by
    simp [reach, hpending]
  refine ⟨{ s₁ with link := l }, hs₁.trans (hl.lift (fun l => { s₁ with link := l })
    fun _ _ hstep => .link hstep), h₂, hreceiver, hscan, hdecoded, hresends, fun o ho => ?_, ?_⟩
  · have hpending' : pending { s₁ with link := l } = [] := by
      change l.memory.sent.drop s₁.consumed = []
      rw [hsent]
      exact hpending
    rw [← hreach, hquiet, ← hcovered o ho]
    simp [reach, hpending']
  · funext c
    rw [Bool.eq_iff_iff, h₂.link.live.chunkComplete_iff, BitmapPair.arrived_iff, ← hreach]
    refine and_congr_right fun hc => (hcompleted c hc).trans (forall₂_congr fun o _ => ?_)
    rw [hquiet]

omit hfits in
/-- The call in progress can read on to its end. -/
lemma Inv.steps_look (isal : Isal) (h : s.Inv t D b before)
    {program : Prog ReceiverMemory (Option (List ℕ × List ℕ))} (hscan : s.scan = some program) :
    ∃ seen, program.run s.link.memory = some (seen, s.link.memory) ∧
      Relation.ReflTransGen (Step isal t.slot) s { s with scan := some (.done seen) } ∧
      Inv t D b before { s with scan := some (.done seen) } := by
  induction program generalizing s with
  | done seen =>
    have hsame : s = { s with scan := some (.done seen) } := by rw [← hscan]
    exact ⟨seen, rfl, hsame ▸ .refl, hsame ▸ h⟩
  | atomic act next ih =>
    obtain ⟨hsame, hload⟩ := h.load hscan
    have hact : act s.link.memory = s.link.memory := congrFun (h.straight _ hscan).1 _
    obtain ⟨seen, hrun, hsteps, hinv⟩ := ih s.link.memory hload rfl
    refine ⟨seen, ?_, .head (.load hscan) (hsame.symm ▸ hsteps), hinv⟩
    rw [Prog.run, hact]
    exact hrun
  | await ready next ih => exact (h.straight _ hscan).elim

omit hfits in
/-- A call can be made without anything else happening meanwhile. -/
lemma Inv.steps_call (h : s.Inv t D b before) (hscan : s.scan = none) (hdecoded : s.decoded = false)
    {done : Bool} {r' : ECReceiver} {m' : ReceiverMemory}
    (hcall : s.receiver.tryDecode isal sizeofControlMessage s.link.memory = some (done, r', m')) :
    Relation.ReflTransGen (Step isal t.slot) s
      { s with link := s.link.withMemory m', receiver := r', scan := none, decoded := done } := by
  obtain ⟨seen, hrun, hsteps, -⟩ := h.call.steps_look isal rfl
  obtain ⟨seen', hrun', hconclude⟩ := s.receiver.run_look isal sizeofControlMessage s.link.memory
  obtain rfl : seen' = seen := (Prod.mk.inj (Option.some.inj (hrun'.symm.trans hrun))).1
  refine .head (.call hscan hdecoded) (hsteps.tail (.conclude rfl ?_))
  rw [conclude, hconclude, hcall]
  rfl

omit hfits in
lemma Inv.listens (h : s.Inv t D b before) : s.receiver.Listens t.slot b s.link.memory := by
  obtain ⟨msg, bitmap, f, hmsg, hs⟩ := h.link.live.message
  refine ⟨h.handle, ?_, h.link.stable.buffer⟩
  rw [ReceiverMemory.frontendBitmap, hmsg, Option.bind_some, hs.frontend, Option.isSome_some]

omit hfits in
/-- When all data chunks are there, a call returns true. -/
lemma Inv.getsThrough_of_present (h : s.Inv t D b before) (hscan : s.scan = none)
    (hdecoded : s.decoded = false)
    (hmissing : s.receiver.missingData (chunkComplete t.slot s.link.memory) = []) :
    s.GetsThrough isal t.slot :=
  ⟨_, h.steps_call hscan hdecoded (ECReceiver.tryDecode_present h.listens isal _ hmissing), rfl⟩

omit hfits in
lemma GetsThrough.of_steps {slot : ℕ} (hs : Relation.ReflTransGen (Step isal slot) s s')
    (h : s'.GetsThrough isal slot) : s.GetsThrough isal slot := by
  obtain ⟨s'', hs'', hdone⟩ := h
  exact ⟨s'', hs.trans hs'', hdone⟩

/-- Asking again and again, the receiver gets what it needs. -/
lemma Inv.getsThrough_of_recovers (h : s.Inv t D b before) (hscan : s.scan = none)
    (hdecoded : s.decoded = false) {n : ℕ} (hleft : n ≤ s.receiver.requestsLeft)
    (hrecovers : s.receiver.Recovers isal t s.poll.resends n (s.reach t)) :
    s.GetsThrough isal t.slot := by
  induction n generalizing s D with
  | zero =>
    obtain ⟨s₁, hs₁, h₁, hsettles⟩ := h.steps_settle hfits isal
    refine .of_steps hs₁ (h₁.getsThrough_of_present (hsettles.scan.trans hscan)
      (hsettles.decoded.trans hdecoded) ?_)
    rw [hsettles.receiver, hsettles.complete]
    exact hrecovers
  | succ n ih =>
    obtain ⟨s₁, hs₁, h₁, hsettles⟩ := h.steps_settle hfits isal
    have hscan₁ := hsettles.scan.trans hscan
    have hdecoded₁ := hsettles.decoded.trans hdecoded
    refine .of_steps hs₁ ?_
    simp only [ECReceiver.Recovers, ← hsettles.complete, ← hsettles.receiver] at hrecovers
    -- a receiver that has a request left has not fallen silent
    have hfallback : s₁.receiver.fallbackActive = false := by
      rw [hsettles.receiver]
      by_contra hactive
      rw [Bool.not_eq_false] at hactive
      rw [ECReceiver.requestsLeft, if_pos hactive] at hleft
      exact absurd hleft (Nat.not_succ_le_zero n)
    by_cases hmissing : s₁.receiver.missingData (chunkComplete t.slot s₁.link.memory) = []
    · exact h₁.getsThrough_of_present hscan₁ hdecoded₁ hmissing
    rcases hrecovers.resolve_left hmissing with ⟨hfew, hrebuilds⟩ | ⟨hmany, hnext⟩
    · obtain ⟨m', hcall⟩ := ECReceiver.tryDecode_rebuild h₁.listens hfallback hmissing hfew
        hrebuilds sizeofControlMessage
      exact ⟨_, h₁.steps_call hscan₁ hdecoded₁ hcall, rfl⟩
    · have hcall := ECReceiver.tryDecode_request h₁.listens hfallback hmany isal
        sizeofControlMessage
      obtain ⟨msg, r', hrequest, hmsg, hresends, hlayout, hhandle, hcount⟩ :=
        h₁.requestMissing (s₁.receiver.missingData (chunkComplete t.slot s₁.link.memory))
      rw [hrequest] at hcall
      obtain ⟨h₂, hreach⟩ := h₁.requested hmsg hhandle rfl
      refine .of_steps (h₁.steps_call hscan₁ hdecoded₁ hcall) (ih h₂ rfl rfl ?_ ?_)
      · have hsame : s₁.receiver.requestsLeft = s.receiver.requestsLeft := by
          rw [hsettles.receiver]
        exact Nat.le_of_succ_le_succ (hleft.trans (hsame ▸ hcount))
      · change r'.Recovers isal t s₁.poll.resends n _
        rw [hsettles.resends]
        refine ECReceiver.Recovers.congr hlayout (fun o ho => ?_) hnext
        rw [hreach, hsettles.reach o ho, Set.mem_union, ← hsettles.resends, hresends]

end Steps

/-- The call in progress can run to its end. -/
lemma Inv.steps_finish (hfits : t.Fits) (h : s.Inv t D b before)
    (hfinish : s.finish isal = some s') : Relation.ReflTransGen (Step isal t.slot) s s' ∧
      (s'.decoded = false → s'.Inv t D b before ∧ s'.scan = none) := by
  unfold finish at hfinish
  cases hscan : s.scan with
  | none =>
    rw [hscan] at hfinish
    obtain rfl := Option.some.inj hfinish
    exact ⟨.refl, fun _ => ⟨h, hscan⟩⟩
  | some program =>
    obtain ⟨seen, hrun, hsteps, hinv⟩ := h.steps_look isal hscan
    rw [hscan] at hfinish
    simp only [hrun, Option.bind_some] at hfinish
    have hstep : Step isal t.slot { s with scan := some (.done seen) } s' :=
      .conclude rfl hfinish
    refine ⟨hsteps.tail hstep, fun hdecoded => ⟨(hinv.step hfits hstep).resolve_left
      fun hdone => absurd hdone.1 (by simp [hdecoded]), ?_⟩⟩
    obtain ⟨result, -, rfl⟩ := Option.map_eq_some_iff.mp hfinish
    rfl

lemma Inv.getsThrough_of_recoverable (hfits : t.Fits) (h : s.Inv t D b before)
    (hrecoverable : s.Recoverable isal t) : s.GetsThrough isal t.slot := by
  rcases hrecoverable with hdone | ⟨s', hfinish, hrecovers⟩
  · exact ⟨s, .refl, hdone⟩
  obtain ⟨hs, hinv⟩ := h.steps_finish hfits hfinish
  cases hdecoded : s'.decoded with
  | true => exact ⟨s', hs, hdecoded⟩
  | false =>
    obtain ⟨hinv, hscan⟩ := hinv hdecoded
    exact .of_steps hs (hinv.getsThrough_of_recovers hfits hscan hdecoded le_rfl hrecovers)

/-! ### The transfer after a handshake -/

/-- The transfer with all packets lost and the sender in another state. -/
def stranded (state : PollState) (s : EcTransfer) : EcTransfer :=
  { s with
    link := { s.link with flight := [] }
    poll := { s.poll with state } }

/-- Losing all packets at once. -/
lemma steps_lose {slot : ℕ} (s : EcTransfer) : Relation.ReflTransGen (LossyStep isal slot) s
    { s with link := { s.link with flight := [] } } :=
  Link.steps_loseAll (fun link => { s with link }) (fun _ p => .lose p) s.link

end EcTransfer

namespace ECHandshake.Countable

variable {h : ECHandshake} (hc : h.Countable)
include hc

/-- Before anything has arrived, nothing is within reach once the packets are lost. -/
lemma reach_stranded (state : PollState) : (h.transfer.stranded state).reach h.bitmaps = ∅ := by
  have hreceived : h.bitmaps.received h.posted.2 = ∅ := by
    rw [h.posted_memory, (h.bitmaps.setTotalChunks_bits _ _).1, hc.built.received]
  refine Set.eq_empty_of_forall_notMem fun o ho => ?_
  rcases ho with (ho | ⟨p, -, hp | ⟨i, hi⟩⟩) | ⟨msg, hmsg, -⟩
  · exact absurd (hreceived ▸ ho) (Set.notMem_empty o)
  · exact absurd hp List.not_mem_nil
  · exact absurd hi (by simp [EcTransfer.stranded, transfer])
  · exact absurd hmsg (by simp [EcTransfer.pending, EcTransfer.stranded, transfer, Link.memory,
      Pool.start])

/-- A timeout of the sender and the loss of all packets trap a transfer that has just begun. -/
lemma exists_trapped (hdata : 0 < h.receiver.layout.dataChunks) : ∃ s,
    Relation.ReflTransGen (EcTransfer.LossyStep h.isal h.recvId) h.transfer s ∧
      s.poll.connected = true ∧ s.Trapped h.bitmaps := by
  obtain ⟨state, hevent, hstate⟩ := hc.inv.event_timeout
  have harrived : ∀ c, h.bitmaps.arrived ((h.transfer.stranded state).reach h.bitmaps) c
      = false := by
    intro c
    rw [hc.reach_stranded, Bool.eq_false_iff, ne_eq, BitmapPair.arrived_iff]
    rintro ⟨hlt, hall⟩
    refine hall (c * h.bitmaps.packetsPerChunk) ⟨le_rfl, ?_, hc.fits.chunk_lt hlt⟩
    exact Nat.mul_lt_mul_of_pos_right (Nat.lt_succ_self c) hc.fits.packetsPerChunk
  refine ⟨h.transfer.stranded state, .head (.step (.timeout hevent)) (EcTransfer.steps_lose _), rfl,
    rfl, fun hnil => ?_, Or.inr (Or.inr ?_), Or.inr (Or.inl hstate)⟩
  · have hmem : 0 ∈ (h.transfer.stranded state).lost h.bitmaps :=
      EcTransfer.mem_lost.mpr ⟨hdata, harrived 0⟩
    rw [hnil] at hmem
    exact List.not_mem_nil hmem
  · rw [ECReceiver.availIdxs, List.filter_eq_nil_iff.mpr fun c _ => by simp [harrived]]
    exact h.transfer.receiver.layout.k_pos

end ECHandshake.Countable

namespace EcTransfer

/-- In every run of a transfer whose control connection stands: what the requests that are left
can bring gets through, and what is trapped does not. -/
theorem ecGetsThrough_of_recoverable {h : ECHandshake} (hc : h.Countable) {s : EcTransfer}
    (hs : Relation.ReflTransGen (LossyStep h.isal h.recvId) h.transfer s)
    (hconn : s.poll.connected = true) :
    (s.Recoverable h.isal h.bitmaps → s.GetsThrough h.isal h.recvId) ∧
      (s.Trapped h.bitmaps → ¬ s.GetsThrough h.isal h.recvId) := by
  rcases hc.inv.run hc.fits hs hconn with ⟨hdecoded, -⟩ | hinv
  · exact ⟨fun _ => ⟨s, .refl, hdecoded⟩, fun htrapped =>
      absurd (hdecoded.symm.trans htrapped.decoded) Bool.noConfusion⟩
  · exact ⟨hinv.getsThrough_of_recoverable hc.fits, hinv.not_getsThrough hc.fits⟩

end EcTransfer

/-! ### A transfer of eight bytes -/

/-- Packets of two bytes, chunks of two packets. -/
def samplePairParams : ConnectionParams :=
  { ConnectionParams.zero with mtuBytes := 2, packetsPerChunk := 2 }

/-- Two data chunks and a parity chunk. -/
noncomputable def samplePairStorage : List U8 :=
  ECSender.storage .reference ⟨2, 1, 8, 3⟩ samplePairParams sampleMessage 8

lemma length_samplePairStorage : samplePairStorage.length = 12 := by
  rw [samplePairStorage, ECSender.storage, List.length_map, List.length_range]
  decide +kernel

/-- The CTS of a receiver to a sender with the same parameters. -/
def samplePairCts : ControlMessage :=
  ctsMessage 1
    ((negotiate samplePairParams (desiredParams samplePairParams 12) 12).withTransferId 1)

/-- Eight data bytes in two chunks, and a parity chunk. -/
noncomputable def samplePair : ECHandshake where
  isal := .reference
  cfg := ⟨2, 1, 8, 3⟩
  receiverCfg := ⟨2, 1, 8, 3⟩
  conn := sampleEnd false samplePairParams
  memory := ⟨sampleEnd true samplePairParams, fun _ _ => 0, [], none, []⟩
  message := sampleMessage
  sentLength := 8
  recvLength := 12
  recvId := 0
  generation := 1
  buffer := 0
  opened := true
  answer := 288
  sendId := 0
  socketReady := true
  receiver := ⟨⟨2, 1, 8, 3⟩, ECLayout.of ⟨2, 1, 8, 3⟩ samplePairParams 12, none, 0, false⟩
  recvHandle := ⟨0, 1, 0, 12⟩
  cts := samplePairCts
  sendHandle := ⟨0, 1, samplePairStorage⟩
  packets := (List.range (ceilDiv samplePairStorage.length 2)).filterMap
    (dataPacket 1 0 2 2 samplePairStorage)
  connected := { sampleEnd false samplePairParams with
    connectionCtx := (sampleEnd false samplePairParams).connectionCtx.initializeContext 1
      samplePairCts.params }
  k_eq := rfl
  m_eq := rfl
  dataBytes_eq := rfl
  receives := by
    unfold ECReceiver.postReceive
    exact if_neg (by decide +kernel)
  offers := by
    change canOffer (sampleEnd false samplePairParams) samplePairStorage.length = true
    rw [length_samplePairStorage]
    decide +kernel
  answers := by
    change (recvPostOnOffer _ 0 1 0 12 (offerMessage
      (sampleEnd false samplePairParams).connectionCtx samplePairStorage.length).params true 288).1
      = _
    rw [length_samplePairStorage]
    decide +kernel
  sends := rfl

lemma samplePair_countable : samplePair.Countable where
  sendId := rfl
  generation := rfl
  totalPackets := by decide +kernel
  size := by decide +kernel
  sized := by decide +kernel

namespace EcTransfer

/-- All packets are on their way. -/
lemma samplePair_onTheWay {o : ℕ} (ho : o < 6) : samplePair.transfer.link.OnTheWay o := by
  obtain ⟨q, hq, -, -, hoffset, -⟩ := dataPacket_spec 1 0 2
    (show 2 ≤ SDRPacket.maxPayloadSize by decide) samplePairStorage o
  refine ⟨q, ?_, Or.inl (List.mem_filterMap.mpr ⟨o, List.mem_range.mpr ?_, hq⟩)⟩
  · rw [hoffset, BitVec.toNat_ofNat, Nat.mod_eq_of_lt (by omega)]
  · rw [length_samplePairStorage]
    exact ho

/-- So nothing needs to be asked for. -/
lemma samplePair_recoverable :
    samplePair.transfer.Recoverable samplePair.isal samplePair.bitmaps := by
  refine Or.inr ⟨samplePair.transfer, rfl, ECReceiver.Recovers.mono (Nat.zero_le _) ?_⟩
  refine List.filter_eq_nil_iff.mpr fun c hc => ?_
  have hdata : samplePair.transfer.receiver.layout.dataChunks = 2 := by decide +kernel
  have htotal : samplePair.bitmaps.totalChunks = 3 := by decide +kernel
  have hpackets : samplePair.bitmaps.totalPackets = 6 := by decide +kernel
  rw [hdata, List.mem_range] at hc
  have harrived : samplePair.bitmaps.arrived (samplePair.transfer.reach samplePair.bitmaps) c
      = true := by
    refine BitmapPair.arrived_iff.mpr ⟨by omega, fun o ho => Or.inl (Or.inr ?_)⟩
    exact samplePair_onTheWay (hpackets ▸ ho.2.2)
  simp [harrived]

/-- The transfer of eight bytes gets through as long as nothing is lost. -/
theorem ecGetsThrough_sample : samplePair.transfer.GetsThrough samplePair.isal samplePair.recvId :=
  (ecGetsThrough_of_recoverable samplePair_countable .refl rfl).1 samplePair_recoverable

/-- When its packets are lost during a timeout of the sender, `try_decode` cannot return true any
more. -/
theorem ec_trapped : ¬ ∀ s,
    Relation.ReflTransGen (LossyStep samplePair.isal samplePair.recvId) samplePair.transfer s →
      s.poll.connected = true → (∃ c < s.receiver.layout.dataChunks,
        chunkComplete samplePair.recvId s.link.memory c = false) →
      s.GetsThrough samplePair.isal samplePair.recvId := by
  intro hthrough
  obtain ⟨s, hs, hconn, htrapped⟩ := samplePair_countable.exists_trapped (by decide +kernel)
  rcases samplePair_countable.inv.run samplePair_countable.fits hs hconn with
    ⟨hdecoded, -⟩ | hinv
  · exact absurd (hdecoded.symm.trans htrapped.decoded) Bool.noConfusion
  refine hinv.not_getsThrough samplePair_countable.fits htrapped (hthrough s hs hconn
    (hinv.exists_incomplete htrapped.lost))

end EcTransfer

end SdrUdp
