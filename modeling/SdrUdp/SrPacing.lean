import Mathlib.Order.Interval.Finset.Nat
import SdrUdp.Core.Spacing
import SdrUdp.SrWindow

/-!
# The pace of selective repeat

When and how often `SRSender` sends a chunk again. Only the loop that opens the window does not
look at the time of the last transmission, and it takes every chunk once.
-/

namespace SdrUdp

open SdrUdp.Core

namespace SRSender

/-! ### What is sent again -/

/-- The chunks of several transmissions. -/
def chunks (out : List Transmission) : List ℕ := out.map Transmission.chunk

lemma chunks_append (out out' : List Transmission) :
    chunks (out ++ out') = chunks out ++ chunks out' := List.map_append

/-- What an SR_ACK sends again. -/
def ackResent (s : SRSender) (msg : ControlMessage) (now : Clock) : List Transmission :=
  (s.merge msg).missingOut 4 now

/-- What an SR_NACK sends again. -/
def nackResent (s : SRSender) (msg : ControlMessage) (now : Clock) : List Transmission :=
  (s.merge msg).gapsOut msg now ++ ((s.merge msg).retransmitGaps msg now).missingOut 4 now

lemma length_staleLoop {limit t : ℕ} {now : Clock} {picks : List ℕ} {acc : SRSender × ℕ}
    (h : acc.2 ≤ limit) :
    acc.2 + (emitted (retransmitStale limit t now) (staleOut limit t now) picks acc).length
      ≤ limit := by
  induction picks generalizing acc with
  | nil => exact h
  | cons c picks ih =>
    rw [emitted, List.length_append, retransmitStale_eq, staleOut]
    split_ifs with hsend
    · have := @ih (acc.1.retransmitRange c 1 now, acc.2 + 1) hsend.1
      rw [List.length_singleton]
      dsimp only at this
      omega
    · rw [List.length_nil, Nat.zero_add]
      exact ih h

/-- The sweep over the bitmap sends at most `limit` chunks. -/
lemma length_missingOut_le (s : SRSender) (limit : ℕ) (now : Clock) :
    (s.missingOut limit now).length ≤ limit := by
  have h := @length_staleLoop limit (now s.ticks) now (List.range s.totalChunks) (s.tick, 0)
    (Nat.zero_le limit)
  rwa [Nat.zero_add] at h

/-- An SR_NACK sends at most 8 chunks of its gaps again, and 4 others. -/
lemma Sized.length_nackResent_le {s : SRSender} (hs : s.Sized) (msg : ControlMessage)
    (now : Clock) : (s.nackResent msg now).length ≤ 12 := by
  have hgaps : ((s.merge msg).gapsOut msg now).length ≤ 8 := by
    rw [← List.length_map Transmission.chunk,
      (((s.continues_merge msg).sized hs).gapLoop msg now).1]
    exact List.length_take_le _ _
  rw [nackResent, List.length_append]
  exact Nat.add_le_add hgaps (length_missingOut_le _ 4 now)

lemma length_timeoutOut_le (s : SRSender) (now : Clock) :
    (s.timeoutOut now).length ≤ s.totalChunks := by
  rw [timeoutOut_eq, List.length_map]
  exact (List.length_filter_le _ _).trans_eq List.length_range

/-- What the loop that opens the window transmits once `s` has sent what was missing. -/
def openedOut (s : SRSender) (now : Clock) : List Transmission :=
  let swept := s.retransmitMissingFromBitmap 4 now
  windowOut now (swept.totalChunks - swept.nextChunkToSend) swept

lemma ackOut_eq (s : SRSender) (msg : ControlMessage) (now : Clock) :
    s.ackOut msg now = s.ackResent msg now ++ (s.merge msg).openedOut now := rfl

lemma nackOut_eq (s : SRSender) (msg : ControlMessage) (now : Clock) : s.nackOut msg now
    = s.nackResent msg now ++ ((s.merge msg).retransmitGaps msg now).openedOut now :=
  (List.append_assoc _ _ _).symm

/-- New chunks of the window, in order: `out` has been opened between `s` and `s'`. -/
structure Opens (s s' : SRSender) (out : List ℕ) : Prop where
  sorted : out.Pairwise (· < ·)
  le : s.nextChunkToSend ≤ s'.nextChunkToSend
  le_max : s'.nextChunkToSend ≤ max s.nextChunkToSend s.totalChunks
  mem : ∀ c ∈ out, c < s.totalChunks ∧ s.nextChunkToSend ≤ c ∧ c < s'.nextChunkToSend

lemma Opens.nil {s s' : SRSender} (h : s'.nextChunkToSend = s.nextChunkToSend) : Opens s s' [] :=
  ⟨List.Pairwise.nil, h.ge, h.le.trans (le_max_left _ _), List.forall_mem_nil _⟩

lemma Opens.length_le {s s' : SRSender} {out : List ℕ} (h : Opens s s' out) :
    out.length ≤ s'.nextChunkToSend - s.nextChunkToSend := by
  have hnodup : out.Nodup := h.sorted.imp fun hlt => hlt.ne
  rw [← List.toFinset_card_of_nodup hnodup, ← Nat.card_Ico]
  refine Finset.card_le_card fun c hc => Finset.mem_Ico.mpr ?_
  exact (h.mem c (List.mem_toFinset.mp hc)).2

lemma Opens.of_eq {s s₁ s' : SRSender} {out : List ℕ} (h : Opens s₁ s' out)
    (hnext : s₁.nextChunkToSend = s.nextChunkToSend) (htotal : s₁.totalChunks = s.totalChunks) :
    Opens s s' out where
  sorted := h.sorted
  le := hnext ▸ h.le
  le_max := hnext ▸ htotal ▸ h.le_max
  mem := hnext ▸ htotal ▸ h.mem

lemma opens_windowOut (now : Clock) (fuel : ℕ) (s : SRSender) :
    Opens s (advanceWindow now fuel s) (chunks (windowOut now fuel s)) := by
  induction fuel generalizing s with
  | zero => exact Opens.nil rfl
  | succ fuel ih =>
    unfold advanceWindow windowOut
    dsimp only
    split_ifs with hnext hacked
    · have h := ih { s.retransmitRange s.nextChunkToSend 1 now with
        nextChunkToSend := s.nextChunkToSend + 1 }
      have htotal := (transmits_sameAcks.retransmitRange s s.nextChunkToSend now).totalChunks
      have hmax : max (s.nextChunkToSend + 1)
          (s.retransmitRange s.nextChunkToSend 1 now).totalChunks
          ≤ max s.nextChunkToSend s.totalChunks := by
        rw [htotal]
        exact max_le (le_max_of_le_right hnext.1) (le_max_right _ _)
      refine ⟨List.pairwise_cons.mpr ⟨fun c hc => (h.mem c hc).2.1, h.sorted⟩,
        Nat.le_of_succ_le h.le, h.le_max.trans hmax,
        List.forall_mem_cons.mpr ⟨⟨hnext.1, le_rfl, h.le⟩, fun c hc => ?_⟩⟩
      obtain ⟨hlt, hge, hlast⟩ := h.mem c hc
      exact ⟨hlt.trans_eq htotal, Nat.le_of_succ_le hge, hlast⟩
    · have h := ih { s with nextChunkToSend := s.nextChunkToSend + 1 }
      have hmax : max (s.nextChunkToSend + 1) s.totalChunks ≤ max s.nextChunkToSend s.totalChunks :=
        max_le (le_max_of_le_right hnext.1) (le_max_right _ _)
      exact ⟨h.sorted, Nat.le_of_succ_le h.le, h.le_max.trans hmax, fun c hc =>
        ⟨(h.mem c hc).1, Nat.le_of_succ_le (h.mem c hc).2.1, (h.mem c hc).2.2⟩⟩
    · exact Opens.nil rfl

lemma nextChunkToSend_retransmitRange (s : SRSender) (c : ℕ) (now : Clock) :
    (s.retransmitRange c 1 now).nextChunkToSend = s.nextChunkToSend := by
  unfold retransmitRange
  split <;> rfl

lemma nextChunkToSend_retransmitStale (limit t : ℕ) (now : Clock) (acc : SRSender × ℕ) (c : ℕ) :
    (retransmitStale limit t now acc c).1.nextChunkToSend = acc.1.nextChunkToSend := by
  unfold retransmitStale
  split_ifs
  · exact nextChunkToSend_retransmitRange acc.1 c now
  · rfl

lemma nextChunkToSend_missing (s : SRSender) (limit : ℕ) (now : Clock) :
    (s.retransmitMissingFromBitmap limit now).nextChunkToSend = s.nextChunkToSend :=
  foldl_keeps (P := fun acc : SRSender × ℕ => acc.1.nextChunkToSend = s.nextChunkToSend)
    (fun acc c _ h => (nextChunkToSend_retransmitStale limit _ now acc c).trans h) rfl

lemma nextChunkToSend_gaps (s : SRSender) (msg : ControlMessage) (now : Clock) :
    (s.retransmitGaps msg now).nextChunkToSend = s.nextChunkToSend := by
  rw [retransmitGaps_eq]
  refine foldl_keeps (P := fun acc : SRSender × ℕ => acc.1.nextChunkToSend = s.nextChunkToSend)
    (fun acc c _ h => ?_) rfl
  unfold retransmitListed
  split_ifs
  · exact (nextChunkToSend_retransmitStale 8 _ now (acc.1.tick, acc.2) c).trans h
  · exact h

lemma nextChunkToSend_onTimeout (s : SRSender) (now : Clock) :
    (s.onTimeout now).nextChunkToSend = s.nextChunkToSend := by
  refine foldl_keeps (P := fun s' : SRSender => s'.nextChunkToSend = s.nextChunkToSend)
    (fun s' c _ h => ?_) rfl
  unfold retransmitOverdue
  split_ifs
  · exact (nextChunkToSend_retransmitRange s' c now).trans h
  · exact h

lemma nextChunkToSend_merge (s : SRSender) (msg : ControlMessage) :
    (s.merge msg).nextChunkToSend = s.nextChunkToSend := by
  unfold merge applyCumulative
  dsimp only
  split_ifs <;> rfl

/-- What follows every report opens the window. -/
lemma opens_report (s : SRSender) (now : Clock) :
    Opens s (advanceWindow now ((s.retransmitMissingFromBitmap 4 now).totalChunks
        - (s.retransmitMissingFromBitmap 4 now).nextChunkToSend)
      (s.retransmitMissingFromBitmap 4 now)) (chunks (s.openedOut now)) :=
  (opens_windowOut now _ (s.retransmitMissingFromBitmap 4 now)).of_eq
    (s.nextChunkToSend_missing 4 now) (transmits_continues.missing s 4 now).totalChunks

end SRSender

/-! ### A sender that keeps its distance -/

/-- A chunk that is transmitted, and whether the window opened for it. -/
structure Sending extends Transmission where
  opens : Bool
  deriving DecidableEq

namespace Sending

def again (t : Transmission) : Sending := ⟨t, false⟩

def first (t : Transmission) : Sending := ⟨t, true⟩

end Sending

namespace SRSender

/-- The time, in ns, that passes at least before a chunk is sent again. -/
def spacing (s : SRSender) : ℕ := min 50 (s.effectiveRtoMs + 1) * 1000000

lemma spacing_pos (s : SRSender) : 0 < s.spacing :=
  Nat.mul_pos (lt_min (by decide) (Nat.succ_pos _)) (by decide)

lemma Stale.spacing_le {s : SRSender} {t c : ℕ} (h : s.Stale t c) :
    s.lastTx c + s.spacing ≤ t := by
  have hguard : ((50 : ℕ) : ℤ) ≤ elapsedMs t (s.lastTx c) := h.2
  refine le_trans (Nat.add_le_add_left ?_ _) (le_of_le_elapsedMs (by decide) hguard)
  exact Nat.mul_le_mul_right _ (min_le_left _ _)

lemma Overdue.spacing_le {s : SRSender} {t c : ℕ} (h : s.Overdue t c) :
    s.lastTx c + s.spacing ≤ t := by
  have hlate : ((s.effectiveRtoMs + 1 : ℕ) : ℤ) ≤ elapsedMs t (s.lastTx c) := by
    exact_mod_cast h.2
  refine le_trans (Nat.add_le_add_left ?_ _) (le_of_le_elapsedMs (Nat.succ_pos _) hlate)
  exact Nat.mul_le_mul_right _ (min_le_right _ _)

lemma transmits_cfg : Transmits fun s s' => s'.cfg = s.cfg where
  refl _ := rfl
  trans h h' := h'.trans h
  retransmitRange s c now := by
    unfold retransmitRange
    split <;> rfl
  window _ _ := rfl
  stamp _ _ _ := rfl

lemma spacing_eq {s s' : SRSender} (h : s'.cfg = s.cfg) : s'.spacing = s.spacing := by
  unfold spacing effectiveRtoMs
  rw [h]

/-- What has been sent by the clock `now`, with a distance of `gap` before a chunk is sent again. -/
structure Paced (gap : ℕ) (now : Clock) (s : SRSender) (log : List Sending) : Prop where
  sized : s.Sized
  gap_eq : s.spacing = gap
  lastTx_le : ∀ c, s.lastTx c ≤ now s.ticks
  time_le : ∀ e ∈ log, e.time ≤ s.lastTx e.chunk
  lt_next : ∀ e ∈ log, e.opens = true → e.chunk < s.nextChunkToSend
  /-- The window opens for each chunk once. -/
  opens : ((log.filter Sending.opens).map fun e => e.chunk).Pairwise (· < ·)
  /-- Every other transmission of a chunk keeps its distance from all before it. -/
  spaced : log.Pairwise fun e e' => e'.opens = false → e'.chunk = e.chunk → e.time + gap ≤ e'.time

/-- The sender goes on, with the same message and the same configuration. -/
structure GoesOn (s s' : SRSender) : Prop where
  continues : Continues s s'
  cfg : s'.cfg = s.cfg
  ticks : s.ticks ≤ s'.ticks
  next : s.nextChunkToSend ≤ s'.nextChunkToSend

lemma GoesOn.refl (s : SRSender) : GoesOn s s :=
  ⟨transmits_continues.refl s, rfl, le_rfl, le_rfl⟩

lemma GoesOn.trans {s s' s'' : SRSender} (h : GoesOn s s') (h' : GoesOn s' s'') : GoesOn s s'' :=
  ⟨transmits_continues.trans h.continues h'.continues, h'.cfg.trans h.cfg,
    h.ticks.trans h'.ticks, h.next.trans h'.next⟩

lemma goesOn_retransmitRange (s : SRSender) (c : ℕ) (now : Clock) :
    GoesOn s (s.retransmitRange c 1 now) where
  continues := transmits_continues.retransmitRange s c now
  cfg := transmits_cfg.retransmitRange s c now
  ticks := by
    unfold retransmitRange
    split
    · exact le_rfl
    · exact Nat.le_succ _
  next := (nextChunkToSend_retransmitRange s c now).ge

lemma GoesOn.window {s s' : SRSender} (h : GoesOn s s') {next : ℕ}
    (hnext : s'.nextChunkToSend ≤ next) : GoesOn s { s' with nextChunkToSend := next } :=
  ⟨transmits_continues.trans h.continues (transmits_continues.window s' next), h.cfg, h.ticks,
    h.next.trans hnext⟩

namespace Paced

variable {gap : ℕ} {now : Clock} (hnow : Monotone now) {s s' : SRSender} {log : List Sending}

include hnow in
/-- Nothing is sent. -/
lemma goOn (h : s.Paced gap now log) (hs : GoesOn s s') (hlast : s'.lastTx = s.lastTx) :
    s'.Paced gap now log where
  sized := hs.continues.sized h.sized
  gap_eq := (spacing_eq hs.cfg).trans h.gap_eq
  lastTx_le c := hlast ▸ (h.lastTx_le c).trans (hnow hs.ticks)
  time_le e he := hlast ▸ h.time_le e he
  lt_next e he hopen := (h.lt_next e he hopen).trans_le hs.next
  opens := h.opens
  spaced := h.spaced

include hnow in
/-- A chunk is sent. -/
lemma send (h : s.Paced gap now log) (hs : GoesOn s s') {e : Sending}
    (hlast : s'.lastTx = Function.update s.lastTx e.chunk e.time)
    (hle : s.lastTx e.chunk ≤ e.time) (htime : e.time ≤ now s'.ticks)
    (hdue : e.opens = false → s.lastTx e.chunk + gap ≤ e.time)
    (hnext : e.opens = true → s.nextChunkToSend ≤ e.chunk ∧ e.chunk < s'.nextChunkToSend) :
    s'.Paced gap now (log ++ [e]) where
  sized := hs.continues.sized h.sized
  gap_eq := (spacing_eq hs.cfg).trans h.gap_eq
  lastTx_le c := by
    rw [hlast, Function.update_apply]
    split_ifs
    · exact htime
    · exact (h.lastTx_le c).trans (hnow hs.ticks)
  time_le := by
    refine List.forall_mem_append.mpr ⟨fun d hd => ?_, List.forall_mem_singleton.mpr ?_⟩
    · rw [hlast, Function.update_apply]
      split_ifs with hchunk
      · exact (hchunk ▸ h.time_le d hd).trans hle
      · exact h.time_le d hd
    · rw [hlast, Function.update_self]
  lt_next := List.forall_mem_append.mpr
    ⟨fun d hd hopen => (h.lt_next d hd hopen).trans_le hs.next,
      List.forall_mem_singleton.mpr fun hopen => (hnext hopen).2⟩
  opens := by
    rw [List.filter_append, List.map_append]
    refine List.pairwise_append.mpr ⟨h.opens, ?_, fun c hc d hd => ?_⟩
    · exact List.pairwise_map.mpr ((List.pairwise_singleton _ e).sublist List.filter_sublist)
    · obtain ⟨e₁, he₁, rfl⟩ := List.mem_map.mp hc
      obtain ⟨he₁, hopen₁⟩ := List.mem_filter.mp he₁
      obtain ⟨e₂, he₂, rfl⟩ := List.mem_map.mp hd
      obtain ⟨he₂, hopen₂⟩ := List.mem_filter.mp he₂
      obtain rfl := List.mem_singleton.mp he₂
      exact (h.lt_next e₁ he₁ hopen₁).trans_le (hnext hopen₂).1
  spaced := by
    refine List.pairwise_append.mpr ⟨h.spaced, List.pairwise_singleton _ e, fun d hd e' he' => ?_⟩
    obtain rfl := List.mem_singleton.mp he'
    intro hopen hchunk
    refine le_trans (Nat.add_le_add_right ?_ gap) (hdue hopen)
    exact hchunk ▸ h.time_le d hd

end Paced

/-- The sender goes on to `s'` and keeps its distance when it sends `out`. -/
structure KeepsPace (gap : ℕ) (now : Clock) (s s' : SRSender) (out : List Sending) : Prop where
  goesOn : GoesOn s s'
  paced : ∀ log, s.Paced gap now log → s'.Paced gap now (log ++ out)

namespace KeepsPace

variable {gap : ℕ} {now : Clock} {s s' s'' : SRSender} {out out' : List Sending}

lemma refl (s : SRSender) : KeepsPace gap now s s [] :=
  ⟨GoesOn.refl s, fun log h => (List.append_nil log).symm ▸ h⟩

lemma trans (h : KeepsPace gap now s s' out) (h' : KeepsPace gap now s' s'' out') :
    KeepsPace gap now s s'' (out ++ out') :=
  ⟨h.goesOn.trans h'.goesOn, fun log hlog =>
    List.append_assoc log out out' ▸ h'.paced _ (h.paced log hlog)⟩

variable (hnow : Monotone now)
include hnow

lemma of_lastTx (hs : GoesOn s s') (hlast : s'.lastTx = s.lastTx) : KeepsPace gap now s s' [] :=
  ⟨hs, fun log h => (List.append_nil log).symm ▸ h.goOn hnow hs hlast⟩

lemma tick (s : SRSender) : KeepsPace gap now s s.tick [] :=
  of_lastTx hnow ⟨transmits_continues.tick s, rfl, Nat.le_succ _, le_rfl⟩ rfl

/-- A round of a loop whose reading of the clock lies back. -/
lemma stale (limit : ℕ) {k : ℕ} (acc : SRSender × ℕ) (hk : k ≤ acc.1.ticks) {c : ℕ}
    (hc : c < acc.1.totalChunks) :
    KeepsPace gap now acc.1 (retransmitStale limit (now k) now acc c).1
      ((staleOut limit (now k) now acc c).map Sending.again) := by
  rw [retransmitStale_eq, staleOut]
  split_ifs with hsend
  · refine ⟨acc.1.goesOn_retransmitRange c now, fun log h => ?_⟩
    obtain ⟨hlast, hticks⟩ := h.sized.retransmitRange hc now
    have htime : (acc.1.retransmitRange c 1 now).lastTx c = now acc.1.ticks := by
      rw [hlast, Function.update_self]
    have hdue : acc.1.lastTx c + gap ≤ now acc.1.ticks :=
      h.gap_eq ▸ hsend.2.spacing_le.trans (hnow hk)
    refine h.send hnow (acc.1.goesOn_retransmitRange c now) ?_ ?_ ?_ ?_ ?_
    · exact hlast.trans (congrArg _ htime.symm)
    · exact (h.lastTx_le c).trans_eq htime.symm
    · exact htime.trans_le (hnow (hticks ▸ Nat.le_succ _))
    · exact fun _ => hdue.trans_eq htime.symm
    · exact fun hopen => absurd hopen Bool.false_ne_true
  · exact refl acc.1

lemma missing (s : SRSender) (limit : ℕ) :
    KeepsPace gap now s (s.retransmitMissingFromBitmap limit now)
      ((s.missingOut limit now).map Sending.again) := by
  refine foldl_emitted (P := fun acc : SRSender × ℕ => KeepsPace gap now s acc.1)
    (s := (s.tick, 0)) (fun acc c hc out hacc => hacc.trans (stale hnow limit acc ?_ ?_))
    (tick hnow s)
  · exact hacc.goesOn.ticks
  · exact hacc.goesOn.continues.totalChunks ▸ List.mem_range.mp hc

lemma listed (limit : ℕ) (acc : SRSender × ℕ) {c : ℕ} (hc : c < acc.1.totalChunks) :
    KeepsPace gap now acc.1 (retransmitListed limit now acc c).1
      ((listedOut limit now acc c).map Sending.again) := by
  unfold retransmitListed listedOut
  split_ifs
  · exact (tick hnow acc.1).trans (stale hnow limit (acc.1.tick, acc.2) (Nat.le_succ _) hc)
  · exact refl acc.1

lemma gaps (s : SRSender) (msg : ControlMessage) :
    KeepsPace gap now s (s.retransmitGaps msg now) ((s.gapsOut msg now).map Sending.again) := by
  rw [retransmitGaps_eq]
  refine foldl_emitted (P := fun acc : SRSender × ℕ => KeepsPace gap now s acc.1)
    (s := (s, 0)) (fun acc c hc out hacc => hacc.trans (listed hnow 8 acc ?_)) (refl s)
  exact hacc.goesOn.continues.totalChunks ▸ lt_of_mem_requestedChunks hc

/-- A round of the loop after a timeout, which records the reading before the loop. -/
lemma overdue {k : ℕ} (hk : k ≤ s.ticks) {c : ℕ} (hc : c < s.totalChunks) :
    KeepsPace gap now s (retransmitOverdue s.effectiveRtoMs (now k) now s c)
      ((overdueOut s.effectiveRtoMs (now k) now s c).map Sending.again) := by
  rw [overdueOut_eq]
  unfold retransmitOverdue
  split_ifs with hdue
  · have hs := s.goesOn_retransmitRange c now
    have hgoesOn : GoesOn s { s.retransmitRange c 1 now with
        lastTx := Function.update (s.retransmitRange c 1 now).lastTx c (now k) } :=
      ⟨transmits_continues.trans hs.continues (transmits_continues.stamp _ _ _), hs.cfg, hs.ticks,
        hs.next⟩
    refine ⟨hgoesOn, fun log h => ?_⟩
    have hlate : s.lastTx c + gap ≤ now k := h.gap_eq ▸ Overdue.spacing_le hdue
    refine h.send hnow hgoesOn ?_ ?_ ?_ ?_ ?_
    · exact (congrArg (Function.update · c (now k)) (h.sized.retransmitRange hc now).1).trans
        (Function.update_idem _ _ _)
    · exact (Nat.le_add_right _ gap).trans hlate
    · exact hnow (hk.trans hs.ticks)
    · exact fun _ => hlate
    · exact fun hopen => absurd hopen Bool.false_ne_true
  · exact refl s

lemma timeout (s : SRSender) :
    KeepsPace gap now s (s.onTimeout now) ((s.timeoutOut now).map Sending.again) := by
  refine foldl_emitted (P := KeepsPace gap now s) (fun s' c hc out hs' => ?_) (tick hnow s)
  have hrto : s'.effectiveRtoMs = s.effectiveRtoMs := by
    unfold effectiveRtoMs
    rw [hs'.goesOn.cfg]
  refine hrto ▸ hs'.trans (overdue hnow ?_ ?_)
  · exact hs'.goesOn.ticks
  · exact hs'.goesOn.continues.totalChunks ▸ List.mem_range.mp hc

/-- The window opens for a chunk. -/
lemma openChunk {c : ℕ} (hc : c < s.totalChunks) (hnext : s.nextChunkToSend ≤ c) :
    KeepsPace gap now s (s.openChunk now c)
      [Sending.first (s.transmission (s.openChunk now c) c)] := by
  have hgoesOn : GoesOn s (s.openChunk now c) := (s.goesOn_retransmitRange c now).window
    ((nextChunkToSend_retransmitRange s c now).trans_le (Nat.le_succ_of_le hnext))
  refine ⟨hgoesOn, fun log h => ?_⟩
  obtain ⟨hlast, hticks⟩ := h.sized.retransmitRange hc now
  have htime : (s.openChunk now c).lastTx c = now s.ticks :=
    (congrFun hlast c).trans (Function.update_self _ _ _)
  refine h.send hnow hgoesOn ?_ ?_ ?_ ?_ ?_
  · exact hlast.trans (congrArg _ htime.symm)
  · exact (h.lastTx_le c).trans_eq htime.symm
  · exact htime.trans_le (hnow hgoesOn.ticks)
  · exact fun hopen => absurd hopen Bool.true_eq_false_eq_False
  · exact fun _ => ⟨hnext, Nat.lt_succ_self c⟩

lemma window (fuel : ℕ) (s : SRSender) :
    KeepsPace gap now s (advanceWindow now fuel s) ((windowOut now fuel s).map Sending.first) := by
  induction fuel generalizing s with
  | zero => exact refl s
  | succ fuel ih =>
    unfold advanceWindow windowOut
    dsimp only
    split_ifs with hnext hacked
    · exact (openChunk hnow hnext.1 le_rfl).trans (ih _)
    · exact (of_lastTx hnow ((GoesOn.refl s).window (Nat.le_succ _)) rfl).trans (ih _)
    · exact refl s

lemma merge (s : SRSender) (msg : ControlMessage) : KeepsPace gap now s (s.merge msg) [] := by
  obtain ⟨hlast, hticks, -⟩ := s.applyAcks_keeps msg
  exact of_lastTx hnow ⟨s.continues_merge msg, transmits_cfg.acks (fun _ _ _ => rfl) s msg,
    hticks.ge, (s.nextChunkToSend_merge msg).ge⟩ hlast

lemma report (s : SRSender) :
    KeepsPace gap now s (advanceWindow now ((s.retransmitMissingFromBitmap 4 now).totalChunks
        - (s.retransmitMissingFromBitmap 4 now).nextChunkToSend)
      (s.retransmitMissingFromBitmap 4 now))
      ((s.missingOut 4 now).map Sending.again ++ (s.openedOut now).map Sending.first) :=
  (missing hnow s 4).trans (window hnow _ _)

end KeepsPace

section Start

variable (cfg : SRConfig) (handle : SDRSendHandle) (params : ConnectionParams)

/-- `start_send` sends the chunks of the first window in order, and then looks at the next one. -/
lemma chunks_startOut (now : Clock) : chunks (startOut cfg handle params now)
    = List.range (start cfg handle params now).nextChunkToSend := by
  have hout : ∀ n, chunks (emitted (openChunk now)
      (fun s c => [s.transmission (s.openChunk now c) c]) (List.range n)
      (prepared cfg handle params now)) = List.range n := by
    intro n
    induction n with
    | zero => rfl
    | succ n ih =>
      rw [List.range_succ, emitted_append, chunks_append, ih]
      rfl
  rw [start_eq, nextChunkToSend_openChunks _ _ _ rfl]
  exact hout _

/-- What `start_send` sends. -/
lemma paced_start {now : Clock} (hnow : Monotone now) :
    (start cfg handle params now).Paced (start cfg handle params now).spacing now
      ((startOut cfg handle params now).map Sending.first) := by
  have hcfg := transmits_cfg.start cfg handle params now
  have hprepared : (prepared cfg handle params now).Paced (start cfg handle params now).spacing now
      [] := ⟨sized_prepared cfg handle params now, (spacing_eq hcfg).symm,
    fun _ => hnow (Nat.zero_le _), List.forall_mem_nil _, List.forall_mem_nil _, List.Pairwise.nil,
    List.Pairwise.nil⟩
  have hrounds : ∀ n, n ≤ (prepared cfg handle params now).totalChunks →
      KeepsPace (start cfg handle params now).spacing now (prepared cfg handle params now)
        ((List.range n).foldl (openChunk now) (prepared cfg handle params now))
        ((emitted (openChunk now) (fun s c => [s.transmission (s.openChunk now c) c])
          (List.range n) (prepared cfg handle params now)).map Sending.first) := by
    intro n hn
    induction n with
    | zero => exact KeepsPace.refl _
    | succ n ih =>
      have hbefore := ih (Nat.le_of_succ_le hn)
      rw [List.range_succ, emitted_append, List.map_append, List.foldl_append]
      refine hbefore.trans (KeepsPace.openChunk hnow ?_ ?_)
      · exact hbefore.goesOn.continues.totalChunks ▸ hn
      · exact (nextChunkToSend_openChunks _ n now rfl).le
  exact (hrounds _ (min_le_left _ _)).paced [] hprepared

end Start

end SRSender

/-! ### What a step sends -/

namespace SRPoll

open SRSender

/-- What a step sends again. -/
def resent (p : SRPoll) (now : Clock) (event : ChannelEvent) : List Transmission :=
  match p.state, event.seen p.connected with
  | .sendPoll true, event =>
    if sendPollRound event = some (-1) then p.sender.timeoutOut now else []
  | .main, .message _ msg =>
    match msg.msgType with
    | .srAck  => p.sender.ackResent msg now
    | .srNack => p.sender.nackResent msg now
    | _       => []
  | _, _ => []

/-- What a step sends because the window opens. -/
def opened (p : SRPoll) (now : Clock) (event : ChannelEvent) : List Transmission :=
  match p.state, event.seen p.connected with
  | .main, .message _ msg =>
    match msg.msgType with
    | .srAck  => (p.sender.merge msg).openedOut now
    | .srNack => ((p.sender.merge msg).retransmitGaps msg now).openedOut now
    | _       => []
  | _, _ => []

/-- How many chunks a step may send again. -/
def allowance (p : SRPoll) (event : ChannelEvent) : ℕ :=
  match p.state, event.seen p.connected with
  | .sendPoll true, event => if sendPollRound event = some (-1) then p.sender.totalChunks else 0
  | .main, .message _ msg =>
    match msg.msgType with
    | .srAck  => 4
    | .srNack => 12
    | _       => 0
  | _, _ => 0

/-- A step sends some chunks again that it may send again, and then opens the window. -/
structure Paces (p : SRPoll) (now : Clock) (event : ChannelEvent) : Prop where
  transmissions : p.transmissions now event = p.resent now event ++ p.opened now event
  length_le : (p.resent now event).length ≤ p.allowance event
  opens : Opens p.sender (p.step now event).sender (chunks (p.opened now event))
  keepsPace : ∀ gap, Monotone now → KeepsPace gap now p.sender (p.step now event).sender
    ((p.resent now event).map Sending.again ++ (p.opened now event).map Sending.first)

/-- A step that sends nothing. -/
lemma Paces.idle {p : SRPoll} {now : Clock} {event : ChannelEvent}
    (htransmissions : p.transmissions now event = []) (hresent : p.resent now event = [])
    (hopened : p.opened now event = []) (hsender : (p.step now event).sender = p.sender) :
    p.Paces now event where
  transmissions := by rw [htransmissions, hresent, hopened, List.append_nil]
  length_le := hresent ▸ Nat.zero_le _
  opens := hopened ▸ Opens.nil (congrArg SRSender.nextChunkToSend hsender)
  keepsPace _ _ := by
    rw [hresent, hopened, hsender]
    exact KeepsPace.refl p.sender

lemma paces_timeout {p : SRPoll} (hstate : p.state = .sendPoll true) (now : Clock)
    {event : ChannelEvent} (hround : sendPollRound (event.seen p.connected) = some (-1)) :
    p.Paces now event := by
  have hout : p.resent now event = p.sender.timeoutOut now := by
    rw [resent, hstate]
    exact if_pos hround
  have hopened : p.opened now event = [] := by rw [opened, hstate]
  have hsender : (p.step now event).sender = p.sender.onTimeout now := by
    unfold step
    dsimp only
    rw [hstate, hround]
    rfl
  have hsent : p.transmissions now event = p.sender.timeoutOut now := by
    unfold transmissions
    dsimp only
    rw [hstate, hround]
    rfl
  refine ⟨by rw [hsent, hout, hopened, List.append_nil], ?_, ?_, fun gap hnow => ?_⟩
  · rw [hout, allowance, hstate]
    dsimp only
    rw [if_pos hround]
    exact p.sender.length_timeoutOut_le now
  · rw [hopened, hsender]
    exact Opens.nil (nextChunkToSend_onTimeout p.sender now)
  · rw [hout, hopened, hsender, List.map_nil, List.append_nil]
    exact KeepsPace.timeout hnow p.sender

lemma paces_report {p : SRPoll} (hp : p.sender.Sized) (hstate : p.state = .main) (now : Clock)
    {event : ChannelEvent} {own : Bool} {msg : ControlMessage}
    (hevent : event.seen p.connected = .message own msg) : p.Paces now event := by
  have hmerge := p.sender.continues_merge msg
  have hnext := p.sender.nextChunkToSend_merge msg
  cases htype : msg.msgType
  case srAck =>
    have hresent : p.resent now event = p.sender.ackResent msg now := by
      simp only [resent, hstate, hevent, htype]
    have hopened : p.opened now event = (p.sender.merge msg).openedOut now := by
      simp only [opened, hstate, hevent, htype]
    have hsender : (p.step now event).sender = p.sender.onSrAck msg now := by
      simp only [step, hstate, hevent, htype]
    have hsent : p.transmissions now event = p.sender.ackOut msg now := by
      simp only [SRPoll.transmissions, hstate, hevent, htype]
    have hallowance : p.allowance event = 4 := by simp only [allowance, hstate, hevent, htype]
    refine ⟨by rw [hsent, hresent, hopened, ackOut_eq], ?_, ?_, fun gap hnow => ?_⟩
    · rw [hresent, hallowance]
      exact (p.sender.merge msg).length_missingOut_le 4 now
    · rw [hopened, hsender]
      exact ((p.sender.merge msg).opens_report now).of_eq hnext hmerge.totalChunks
    · rw [hresent, hopened, hsender]
      exact (KeepsPace.merge hnow p.sender msg).trans (KeepsPace.report hnow _)
  case srNack =>
    have hresent : p.resent now event = p.sender.nackResent msg now := by
      simp only [resent, hstate, hevent, htype]
    have hopened : p.opened now event
        = ((p.sender.merge msg).retransmitGaps msg now).openedOut now := by
      simp only [opened, hstate, hevent, htype]
    have hsender : (p.step now event).sender = p.sender.onSrNack msg now := by
      simp only [step, hstate, hevent, htype]
    have hsent : p.transmissions now event = p.sender.nackOut msg now := by
      simp only [SRPoll.transmissions, hstate, hevent, htype]
    have hgaps := transmits_continues.gaps (p.sender.merge msg) msg now
    have hallowance : p.allowance event = 12 := by simp only [allowance, hstate, hevent, htype]
    refine ⟨by rw [hsent, hresent, hopened, nackOut_eq], ?_, ?_, fun gap hnow => ?_⟩
    · rw [hresent, hallowance]
      exact hp.length_nackResent_le msg now
    · rw [hopened, hsender]
      exact (((p.sender.merge msg).retransmitGaps msg now).opens_report now).of_eq
        ((nextChunkToSend_gaps _ msg now).trans hnext)
        (hgaps.totalChunks.trans hmerge.totalChunks)
    · rw [hresent, hopened, hsender, nackResent, List.map_append, List.append_assoc]
      exact (KeepsPace.merge hnow p.sender msg).trans
        ((KeepsPace.gaps hnow _ msg).trans (KeepsPace.report hnow _))
  all_goals
    refine Paces.idle ?_ ?_ ?_ ?_
    · simp only [SRPoll.transmissions, hstate, hevent, htype]
    · simp only [resent, hstate, hevent, htype]
    · simp only [opened, hstate, hevent, htype]
    · simp only [step, hstate, hevent, htype]

/-- What one step sends again, and what it sends because the window opens. -/
theorem paces {p : SRPoll} (hp : p.sender.Sized) (now : Clock) (event : ChannelEvent) :
    p.Paces now event := by
  cases hstate : p.state with
  | returned rc =>
    refine Paces.idle ?_ ?_ ?_ ?_
    · simp only [SRPoll.transmissions, hstate]
    · simp only [resent, hstate]
    · simp only [opened, hstate]
    · simp only [step, hstate]
  | sendPoll afterTimeout =>
    cases hround : sendPollRound (event.seen p.connected) with
    | none =>
      refine Paces.idle ?_ ?_ ?_ ?_
      · simp only [SRPoll.transmissions, hstate, hround]
      · cases afterTimeout <;> simp [resent, hstate, hround]
      · simp only [opened, hstate]
      · simp only [step, hstate, hround]
    | some rc =>
      rcases sendPollRound_eq_some hround with rfl | rfl
      · refine Paces.idle ?_ ?_ ?_ ?_
        · simp [SRPoll.transmissions, hstate, hround]
        · cases afterTimeout <;> simp [resent, hstate, hround]
        · simp only [opened, hstate]
        · simp [step, hstate, hround]
      · cases afterTimeout with
        | false =>
          refine Paces.idle ?_ ?_ ?_ ?_
          · simp [SRPoll.transmissions, hstate, hround]
          · simp only [resent, hstate]
          · simp only [opened, hstate]
          · simp [step, hstate, hround]
        | true => exact paces_timeout hstate now hround
  | main =>
    cases hevent : event.seen p.connected with
    | message own msg => exact paces_report hp hstate now hevent
    | timeout =>
      refine Paces.idle ?_ ?_ ?_ ?_
      · simp only [SRPoll.transmissions, hstate, hevent]
      · simp only [resent, hstate, hevent]
      · simp only [opened, hstate, hevent]
      · simp only [step, hstate, hevent]
    | disconnected =>
      refine Paces.idle ?_ ?_ ?_ ?_
      · simp only [SRPoll.transmissions, hstate, hevent]
      · simp only [resent, hstate, hevent]
      · simp only [opened, hstate, hevent]
      · simp only [step, hstate, hevent]

end SRPoll

/-! ### Whole runs -/

/-- A sender and all its transmissions so far, the first ones told from the others. -/
structure TimedRun where
  poll : SRPoll
  log : List Sending

namespace TimedRun

/-- After `start_send` has returned 0. -/
def start (cfg : SRConfig) (handle : SDRSendHandle) (params : ConnectionParams) (now : Clock) :
    TimedRun where
  poll := ⟨SRSender.start cfg handle params now, true, .main⟩
  log := (SRSender.startOut cfg handle params now).map Sending.first

def next (r : TimedRun) : PollAction → TimedRun
  | .receive now event =>
    { poll := r.poll.step now event
      log := r.log ++ ((r.poll.resent now event).map Sending.again
        ++ (r.poll.opened now event).map Sending.first) }
  | .call => { r with poll := r.poll.call }

/-- The run without the distinction. -/
def toSenderRun (r : TimedRun) : SenderRun := ⟨r.poll, r.log.map Sending.toTransmission⟩

lemma toSenderRun_start (cfg : SRConfig) (handle : SDRSendHandle) (params : ConnectionParams)
    (now : Clock) :
    (start cfg handle params now).toSenderRun = SenderRun.start cfg handle params now := by
  unfold toSenderRun start
  dsimp only
  rw [List.map_map]
  exact congrArg _ (List.map_id _)

lemma toSenderRun_next {r : TimedRun} (hr : r.poll.sender.Sized) (action : PollAction) :
    (r.next action).toSenderRun = r.toSenderRun.next action := by
  cases action with
  | call => rfl
  | receive now event =>
    unfold toSenderRun next SenderRun.next
    dsimp only
    rw [(SRPoll.paces hr now event).transmissions, List.map_append, List.map_append, List.map_map,
      List.map_map]
    congr 2
    exact congrArg₂ _ (List.map_id _) (List.map_id _)

/-- The sender keeps its distance as long as every event has the same clock. -/
lemma paced_run {gap : ℕ} {now : Clock} (hnow : Monotone now) {actions : List PollAction}
    (hclock : ∀ action ∈ actions, action.Reads now) {r : TimedRun}
    (h : r.poll.sender.Paced gap now r.log) :
    let r' := actions.foldl next r
    r'.poll.sender.Paced gap now r'.log := by
  refine foldl_keeps (P := fun r : TimedRun => r.poll.sender.Paced gap now r.log)
    (fun r action haction h => ?_) h
  cases action with
  | call => exact h
  | receive now' event =>
    obtain rfl : now' = now := hclock _ haction
    exact ((SRPoll.paces h.sized now' event).keepsPace gap hnow).paced r.log h

/-- How often the chunk is sent in an interval. -/
def sendings (r : TimedRun) (c start width : ℕ) : ℕ :=
  (r.log.filter fun e => e.chunk = c ∧ start ≤ e.time ∧ e.time < start + width).length

/-- In an interval a chunk is sent once because the window opens, and else at a distance. -/
lemma sendings_le {gap : ℕ} {now : Clock} {r : TimedRun} (h : r.poll.sender.Paced gap now r.log)
    (hgap : 0 < gap) (c start width : ℕ) :
    r.sendings c start width ≤ (width + gap - 1) / gap + 1 := by
  unfold sendings
  generalize hseen : r.log.filter
    (fun e => decide (e.chunk = c ∧ start ≤ e.time ∧ e.time < start + width)) = seen
  have hsub : seen.Sublist r.log := hseen ▸ List.filter_sublist
  have hmem : ∀ e ∈ seen, e.chunk = c ∧ start ≤ e.time ∧ e.time < start + width := by
    intro e he
    rw [← hseen] at he
    exact decide_eq_true_iff.mp (List.mem_filter.mp he).2
  have hopens : (seen.filter Sending.opens).length ≤ 1 := by
    have hpairs := h.opens.sublist ((hsub.filter Sending.opens).map fun e => e.chunk)
    generalize hfirst : seen.filter Sending.opens = first at hpairs ⊢
    match first, hpairs with
    | [], _ => exact Nat.zero_le 1
    | [_], _ => exact le_rfl
    | e :: e' :: rest, hpairs =>
      have hchunk : ∀ d ∈ e :: e' :: rest, d.chunk = c := fun d hd =>
        (hmem d (List.mem_of_mem_filter (hfirst ▸ hd))).1
      have hlt : e.chunk < e'.chunk :=
        (List.pairwise_cons.mp hpairs).1 e'.chunk List.mem_cons_self
      rw [hchunk e List.mem_cons_self,
        hchunk e' (List.mem_cons_of_mem e List.mem_cons_self)] at hlt
      exact absurd hlt (lt_irrefl c)
  have hagain : (seen.filter fun e => !e.opens).length ≤ (width + gap - 1) / gap := by
    have hspaced : Spaced gap ((seen.filter fun e => !e.opens).map fun e => e.time) := by
      refine List.pairwise_map.mpr (List.Pairwise.imp_of_mem (fun {e e'} he he' hspaced => ?_)
        (h.spaced.sublist (List.filter_sublist.trans hsub)))
      obtain ⟨he', hopen⟩ := List.mem_filter.mp he'
      refine hspaced (Bool.not_eq_true' _ ▸ hopen) ?_
      rw [(hmem e' he').1, (hmem e (List.mem_of_mem_filter he)).1]
    have htimes : ∀ t ∈ (seen.filter fun e => !e.opens).map fun e => e.time,
        start ≤ t ∧ t < start + width := by
      intro t ht
      obtain ⟨e, he, rfl⟩ := List.mem_map.mp ht
      exact (hmem e (List.mem_of_mem_filter he)).2
    rw [← List.length_map fun e : Sending => e.time]
    exact hspaced.length_le hgap htimes
  have hlength := List.length_eq_length_filter_add (l := seen) Sending.opens
  omega

end TimedRun

/-- Between the recorded times of two transmissions of a chunk, the second of which is not the one
for which the window opens, pass 50 ms or the timeout, whatever is shorter; so however the reports
come, a chunk is sent in an interval as often as that fits in, and once more. -/
theorem srSendings_paced (cfg : SRConfig) (handle : SDRSendHandle) (params : ConnectionParams)
    {now : Clock} (hnow : Monotone now) {actions : List PollAction}
    (hclock : ∀ action ∈ actions, action.Reads now) :
    let run := actions.foldl TimedRun.next (TimedRun.start cfg handle params now)
    let gap := (SRSender.start cfg handle params now).spacing
    (run.log.Pairwise fun e e' => e'.opens = false → e'.chunk = e.chunk → e.time + gap ≤ e'.time) ∧
      ∀ c start width, run.sendings c start width ≤ (width + gap - 1) / gap + 1 := by
  intro run gap
  have h : run.poll.sender.Paced gap now run.log :=
    TimedRun.paced_run hnow hclock (SRSender.paced_start cfg handle params hnow)
  exact ⟨h.spaced, TimedRun.sendings_le h (SRSender.spacing_pos _)⟩

/-- A clock that goes on by 20 ms from reading to reading. -/
def sampleClock : Clock := fun i => i * 20000000

/-- A report that finds both chunks missing, twice: each time both are sent again. -/
theorem srSendings_paced_sample :
    let run := List.foldl TimedRun.next
      (TimedRun.start SRConfig.default ⟨0, 1, [1, 2]⟩ bytewiseParams sampleClock)
      [.receive sampleClock (.message true (sampleReport 0 2)),
        .receive sampleClock (.message true (sampleReport 0 2))]
    let gap :=
      (SRSender.start SRConfig.default ⟨0, 1, [1, 2]⟩ bytewiseParams sampleClock).spacing
    (run.log.map fun e => (e.chunk, e.time, e.opens)) = [(0, 40000000, true), (1, 60000000, true),
        (0, 140000000, false), (1, 160000000, false), (0, 240000000, false),
        (1, 260000000, false)] ∧
      (run.log.Pairwise fun e e' =>
        e'.opens = false → e'.chunk = e.chunk → e.time + gap ≤ e'.time) ∧
      ∀ c start width, run.sendings c start width ≤ (width + gap - 1) / gap + 1 :=
  ⟨by decide +kernel, srSendings_paced SRConfig.default ⟨0, 1, [1, 2]⟩ bytewiseParams
    (fun _ _ h => Nat.mul_le_mul_right _ h) fun action h => by
      rcases List.mem_pair.mp h with rfl | rfl <;> rfl⟩

/-! ### How much is sent again -/

namespace SenderRun

/-- How many chunks the sender may send again because of an event. -/
def allowance (totalChunks : ℕ) : PollAction → ℕ
  | .call => 0
  | .receive _ .timeout => 0
  | .receive _ .disconnected => totalChunks
  | .receive _ (.message _ msg) =>
    match msg.msgType with
    | .srAck          => 4
    | .srNack         => 12
    | .incompleteNack => totalChunks
    | _               => 0

/-- A sender that has sent as many chunks as the window was opened for, and `spent` ones again. -/
structure Bounded (totalChunks spent : ℕ) (r : SenderRun) : Prop where
  sized : r.poll.sender.Sized
  total : r.poll.sender.totalChunks = totalChunks
  connected : ∀ afterTimeout, r.poll.state = .sendPoll afterTimeout → r.poll.connected = true
  next_le : r.poll.sender.nextChunkToSend ≤ totalChunks
  length_le : r.log.length ≤ r.poll.sender.nextChunkToSend + spent

lemma eq_of_seen_eq_message {event : ChannelEvent} {connected own : Bool} {msg : ControlMessage}
    (h : event.seen connected = .message own msg) : event = .message own msg := by
  cases connected
  · exact absurd h (by simp [ChannelEvent.seen])
  · exact h

lemma incompleteNack_of_sendPollRound {own : Bool} {msg : ControlMessage}
    (h : sendPollRound (.message own msg) = some (-1)) : msg.msgType = .incompleteNack := by
  unfold sendPollRound at h
  dsimp only at h
  split_ifs at h with hcomplete hincomplete
  · exact absurd (Option.some.inj h) (by decide)
  · exact hincomplete

lemma Bounded.allowance_le {totalChunks spent : ℕ} {r : SenderRun} (h : r.Bounded totalChunks spent)
    (now : Clock) (event : ChannelEvent) :
    r.poll.allowance event ≤ allowance totalChunks (.receive now event) := by
  unfold SRPoll.allowance
  split
  · rename_i hstate
    have hseen : event.seen r.poll.connected = event := by
      rw [h.connected true hstate]
      rfl
    rw [hseen]
    split_ifs with hround
    · cases event with
      | timeout => exact absurd hround (by decide)
      | disconnected => exact h.total.le
      | message own msg =>
        simp only [allowance, incompleteNack_of_sendPollRound hround]
        exact h.total.le
    · exact Nat.zero_le _
  · rename_i own msg hstate hevent
    rw [eq_of_seen_eq_message hevent]
    cases hkind : msg.msgType
    all_goals simp only [allowance, hkind, le_refl, Nat.zero_le]
  · exact Nat.zero_le _

/-- Nobody waits in `sdr_send_poll` without a connection. -/
lemma connected_step {p : SRPoll} {now : Clock} {event : ChannelEvent} {afterTimeout : Bool}
    (h : (p.step now event).state = .sendPoll afterTimeout) :
    (p.step now event).connected = true := by
  cases hstate : p.state with
  | returned rc =>
    have hstep : p.step now event = p := by simp only [SRPoll.step, hstate]
    rw [hstep, hstate] at h
    exact absurd h (by simp)
  | sendPoll before =>
    cases hevent : event.seen p.connected with
    | timeout => simp [SRPoll.step, hstate, hevent, sendPollRound, ChannelEvent.keepsConnection]
    | disconnected => simp [SRPoll.step, hstate, hevent, sendPollRound] at h
    | message own msg =>
      cases hround : sendPollRound (.message own msg) with
      | none => simp [SRPoll.step, hstate, hevent, hround, ChannelEvent.keepsConnection]
      | some rc =>
        simp only [SRPoll.step, hstate, hevent, hround] at h ⊢
        split_ifs <;> rfl
  | main =>
    cases hevent : event.seen p.connected with
    | timeout => simp only [SRPoll.step, hstate, hevent, ChannelEvent.keepsConnection]
    | disconnected =>
      simp [SRPoll.step, hstate, hevent, enterSendPoll, ChannelEvent.keepsConnection] at h
    | message own msg =>
      cases htype : msg.msgType
      all_goals simp only [SRPoll.step, hstate, hevent, htype, ChannelEvent.keepsConnection]

/-- A step opens the window and sends again what it is allowed to. -/
lemma Bounded.next {totalChunks spent : ℕ} {r : SenderRun} (h : r.Bounded totalChunks spent)
    (action : PollAction) :
    (r.next action).Bounded totalChunks (spent + allowance totalChunks action) := by
  cases action with
  | call => exact ⟨h.sized, h.total, fun _ hstate => PollState.noConfusion hstate,
      h.next_le, h.length_le⟩
  | receive now event =>
    have hpaces := SRPoll.paces h.sized now event
    have hcontinues := SRSender.transmits_continues.step (fun _ _ _ =>
      ⟨rfl, rfl, rfl, rfl, rfl, [], (List.append_nil _).symm, by simp⟩) r.poll now event
    have hnext : (r.poll.step now event).sender.nextChunkToSend ≤ totalChunks :=
      hpaces.opens.le_max.trans (max_le h.next_le h.total.le)
    refine ⟨hcontinues.sized h.sized, hcontinues.totalChunks.trans h.total,
      fun _ => connected_step, hnext, ?_⟩
    have hopened := hpaces.opens.length_le
    rw [SRSender.chunks, List.length_map] at hopened
    have hresent := hpaces.length_le.trans (h.allowance_le now event)
    have hlength := h.length_le
    have hle := hpaces.opens.le
    change (r.log ++ r.poll.transmissions now event).length
      ≤ (r.poll.step now event).sender.nextChunkToSend + _
    rw [hpaces.transmissions, List.length_append, List.length_append]
    omega

lemma bounded_start (cfg : SRConfig) (handle : SDRSendHandle) (params : ConnectionParams)
    (now : Clock) : (start cfg handle params now).Bounded
      (SRSender.start cfg handle params now).totalChunks 0 := by
  have hlength : (SRSender.startOut cfg handle params now).length
      = (SRSender.start cfg handle params now).nextChunkToSend := by
    have h := congrArg List.length (SRSender.chunks_startOut cfg handle params now)
    rwa [SRSender.chunks, List.length_map, List.length_range] at h
  refine ⟨SRSender.sized_start cfg handle params now, rfl, fun _ h => absurd h (by simp [start]),
    ?_, hlength.le⟩
  rw [(SRSender.continues_start cfg handle params now).totalChunks]
  change (SRSender.start cfg handle params now).nextChunkToSend ≤ _
  rw [SRSender.start_eq, SRSender.nextChunkToSend_openChunks _ _ _ rfl]
  exact min_le_left _ _

lemma bounded_run {totalChunks spent : ℕ} {r : SenderRun} (h : r.Bounded totalChunks spent)
    (actions : List PollAction) : (actions.foldl next r).Bounded totalChunks
      (spent + (actions.map (allowance totalChunks)).sum) := by
  induction actions generalizing r spent with
  | nil => exact h
  | cons action actions ih =>
    rw [List.map_cons, List.sum_cons, ← Nat.add_assoc]
    exact ih (h.next action)

end SenderRun

/-- Whatever the sender receives, it sends no more chunks than the message has, 4 for each SR_ACK,
12 for each SR_NACK, and the message once for each INCOMPLETE_NACK and lost connection. -/
theorem srSendings_bounded (cfg : SRConfig) (handle : SDRSendHandle) (params : ConnectionParams)
    (now : Clock) (actions : List PollAction) :
    let totalChunks := (SRSender.start cfg handle params now).totalChunks
    (actions.foldl SenderRun.next (SenderRun.start cfg handle params now)).log.length
      ≤ totalChunks + (actions.map (SenderRun.allowance totalChunks)).sum := by
  intro totalChunks
  have h := SenderRun.bounded_run (SenderRun.bounded_start cfg handle params now) actions
  rw [Nat.zero_add] at h
  exact h.length_le.trans (Nat.add_le_add_right h.next_le _)

end SdrUdp
