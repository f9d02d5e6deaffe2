import SdrUdp.Bitmap
import Mathlib.Data.List.Induction
import Mathlib.Data.List.Perm.Basic
import Mathlib.Data.Finset.Card
import Mathlib.Tactic.Push

/-!
# The packet bitmap as a concurrent finite set

Any number of threads call `set_packet_received` on one bitmap. A call reads `total_packets_`, which
nobody changes, and makes one atomic `fetch_or`; the value it returns is decided there. The memory
keeps, besides the bitmap, the calls made, the `fetch_or`s in the order they took effect, and the
values returned.
-/

namespace SdrUdp

open SdrUdp.Core

/-- `get_total_packets_received`. -/
def BackendBitmap.getTotalPacketsReceived (b : BackendBitmap) : ℕ :=
  (List.range b.totalPackets).countP b.isPacketReceived

/-- A call of `set_packet_received` and the value it returns. -/
structure SetCall (T : Type) where
  thread : T
  packetOffset : ℕ
  newlySet : Bool
  deriving DecidableEq

/-- A bitmap and what was done to it. -/
structure SharedBitmap (T : Type) where
  bitmap : BackendBitmap
  calls : List (T × ℕ)
  effects : List (SetCall T)
  returns : List (SetCall T)

namespace SharedBitmap

variable {T : Type}

/-- A bitmap that nobody has touched yet. -/
def fresh (totalPackets packetsPerChunk : ℕ) : SharedBitmap T :=
  ⟨.create totalPackets packetsPerChunk, [], [], []⟩

def called (t : T) (o : ℕ) (m : SharedBitmap T) : SharedBitmap T :=
  { m with calls := m.calls ++ [(t, o)] }

/-- The `fetch_or`. -/
def fetchOr (t : T) (o : ℕ) (m : SharedBitmap T) : SharedBitmap T :=
  { m with
    bitmap := (m.bitmap.setPacketReceived o).2
    effects := m.effects ++ [⟨t, o, (m.bitmap.setPacketReceived o).1⟩] }

def returned (t : T) (o : ℕ) (r : Bool) (m : SharedBitmap T) : SharedBitmap T :=
  { m with returns := m.returns ++ [⟨t, o, r⟩] }

/-- A call of `set_packet_received` by thread `t`. -/
def setPacketReceived (t : T) (o : ℕ) : Prog (SharedBitmap T) PUnit := do
  Prog.modify (called t o)
  let totalPackets ← Prog.load fun m => m.bitmap.totalPackets
  let newlySet ← if o ≥ totalPackets then pure false
    else Prog.atomic (fetchOr t o) fun m => .done (m.bitmap.setPacketReceived o).1
  Prog.modify (returned t o newlySet)

/-- What a thread may run: a call with any 32-bit offset. -/
def Allowed (t : T) (p : Prog (SharedBitmap T) PUnit) : Prop :=
  ∃ o < 2 ^ 32, p = setPacketReceived t o

/-- The offsets below `total_packets_` that were set. -/
def offsetsSet (m : SharedBitmap T) : Finset ℕ :=
  ((m.calls.map Prod.snd).filter (· < m.bitmap.totalPackets)).toFinset

end SharedBitmap

/-! ### Calls in the order they take effect -/

section Linearized

variable {T : Type}

/-- The first call with an offset, and no other, finds the bit not set. -/
def Linearized (l : List (SetCall T)) : Prop :=
  ∀ before c after, l = before ++ c :: after →
    (c.newlySet = true ↔ ∀ c' ∈ before, c'.packetOffset ≠ c.packetOffset)

lemma linearized_append {l : List (SetCall T)} {c : SetCall T} :
    Linearized (l ++ [c]) ↔
      Linearized l ∧ (c.newlySet = true ↔ ∀ c' ∈ l, c'.packetOffset ≠ c.packetOffset) := by
  constructor
  · intro h
    refine ⟨fun before c' after hl => ?_, h l c [] rfl⟩
    exact h before c' (after ++ [c]) (by rw [hl]; simp)
  · rintro ⟨hl, hc⟩ before c' after hsplit
    rcases List.eq_nil_or_concat after with rfl | ⟨after, last, rfl⟩
    · obtain ⟨rfl, hcc⟩ := List.append_inj' hsplit rfl
      obtain rfl := (List.cons.inj hcc).1
      exact hc
    · rw [List.concat_eq_append, ← List.cons_append, ← List.append_assoc] at hsplit
      exact hl before c' after (List.append_inj' hsplit rfl).1

/-- Exactly one of the calls with an offset finds the bit not set. -/
lemma Linearized.countP_eq_one {l : List (SetCall T)} (h : Linearized l) {o : ℕ}
    (ho : ∃ c ∈ l, c.packetOffset = o) :
    (l.countP fun c => c.packetOffset = o ∧ c.newlySet = true) = 1 := by
  induction l using List.reverseRecOn with
  | nil => simp at ho
  | append_singleton l c ih =>
    obtain ⟨hl, hc⟩ := linearized_append.mp h
    rw [List.countP_append, List.countP_singleton]
    by_cases hold : ∃ c ∈ l, c.packetOffset = o
    · rw [ih hl hold, if_neg]
      obtain ⟨c', hc', rfl⟩ := hold
      simp only [decide_eq_true_eq, not_and, hc]
      intro heq hall
      exact hall c' hc' heq.symm
    · push Not at hold
      have hzero : (l.countP fun c => c.packetOffset = o ∧ c.newlySet = true) = 0 := by
        rw [List.countP_eq_zero]
        intro c' hc'
        simp [hold c' hc']
      obtain rfl : c.packetOffset = o := by
        obtain ⟨c', hc', ho⟩ := ho
        rcases List.mem_append.mp hc' with hmem | hmem
        · exact absurd ho (hold c' hmem)
        · rwa [← List.mem_singleton.mp hmem]
      rw [hzero, if_pos (by simpa [hc] using hold)]

end Linearized

/-- Lists with the same elements for each key are the same up to order. -/
lemma perm_of_filter_eq {α κ : Type} [DecidableEq α] [DecidableEq κ] (key : α → κ) {l l' : List α}
    (h : ∀ k, l.filter (fun a => key a = k) = l'.filter (fun a => key a = k)) : l.Perm l' := by
  rw [List.perm_iff_count]
  intro a
  have hcount : ∀ l : List α, (l.filter fun b => key b = key a).count a = l.count a :=
    fun l => List.count_filter (by simp)
  rw [← hcount l, ← hcount l', h]

/-- The call that returned the value. -/
def SetCall.call {T : Type} (c : SetCall T) : T × ℕ := (c.thread, c.packetOffset)

namespace SharedBitmap

variable {T : Type}

/-! ### The invariant of the bitmap -/

/-- The bitmap holds what the `fetch_or`s set, and they are linearized. -/
structure Inv (total : ℕ) (m : SharedBitmap T) : Prop where
  totalPackets : m.bitmap.totalPackets = total
  numWords : m.bitmap.numWords = (total + 63) % 2 ^ 32 / 64
  received : ∀ o, o ∈ m.bitmap.received ↔ ∃ c ∈ m.effects, c.packetOffset = o
  linearized : Linearized m.effects
  inside : ∀ c ∈ m.effects, c.packetOffset < total
  outside : ∀ c ∈ m.returns, total ≤ c.packetOffset → c.newlySet = false

lemma inv_fresh (totalPackets packetsPerChunk : ℕ) :
    Inv totalPackets (fresh totalPackets packetsPerChunk : SharedBitmap T) where
  totalPackets := rfl
  numWords := rfl
  received o := by simp [fresh]
  linearized := by
    intro before c after h
    exact absurd h (by simp [fresh])
  inside c hc := by simp [fresh] at hc
  outside c hc := by simp [fresh] at hc

section Steps

variable {total : ℕ} {m : SharedBitmap T}

lemma Inv.called (h : Inv total m) (t : T) (o : ℕ) : Inv total (m.called t o) :=
  ⟨h.totalPackets, h.numWords, h.received, h.linearized, h.inside, h.outside⟩

lemma Inv.fetchOr (h : Inv total m) (t : T) {o : ℕ} (ho : o < total) :
    Inv total (m.fetchOr t o) := by
  have hlt : o < m.bitmap.totalPackets := h.totalPackets ▸ ho
  refine ⟨?_, ?_, ?_, ?_, ?_, h.outside⟩
  · exact (BackendBitmap.totalPackets_setPacketReceived _ _).trans h.totalPackets
  · rw [← h.numWords]
    simp [SharedBitmap.fetchOr, BackendBitmap.setPacketReceived, not_le.mpr hlt]
  · intro o'
    simp only [SharedBitmap.fetchOr, BackendBitmap.received_setPacketReceived, if_pos hlt,
      Set.mem_insert_iff, h.received, List.mem_append, List.mem_singleton, or_and_right,
      exists_or, exists_eq_left]
    rw [or_comm, eq_comm (a := o)]
  · refine linearized_append.mpr ⟨h.linearized, ?_⟩
    have hnew : (m.bitmap.setPacketReceived o).1 = true ↔ o ∉ m.bitmap.received := by
      rw [BackendBitmap.received, ← and_bitMask_mod_ne_zero_iff, not_not]
      simp [BackendBitmap.setPacketReceived, not_le.mpr hlt]
    rw [hnew, h.received]
    push Not
    exact Iff.rfl
  · intro c hc
    rcases List.mem_append.mp hc with hc | hc
    · exact h.inside c hc
    · rw [List.mem_singleton.mp hc]
      exact ho

lemma Inv.returned (h : Inv total m) (t : T) {o : ℕ} {r : Bool} (hr : total ≤ o → r = false) :
    Inv total (m.returned t o r) := by
  refine ⟨h.totalPackets, h.numWords, h.received, h.linearized, h.inside, ?_⟩
  intro c hc hle
  rcases List.mem_append.mp hc with hc | hc
  · exact h.outside c hc hle
  · obtain rfl := List.mem_singleton.mp hc
    exact hr hle

end Steps

/-! ### The bitmap is a set -/

/-- The bitmap `m` is the set of the offsets below `total` that calls have set. -/
structure IsSet (total : ℕ) (m : SharedBitmap T) : Prop where
  /-- Every bit that is read or set lies in a word of the bitmap. -/
  inBounds : ∀ o < total, o / 64 < m.bitmap.numWords
  /-- The first call to take effect returns true, and no other with the same offset. -/
  first : Linearized m.effects
  outside : ∀ c ∈ m.returns, total ≤ c.packetOffset → c.newlySet = false
  unchanged : ∀ c ∈ m.effects, c.packetOffset < total
  isPacketReceived : ∀ o, m.bitmap.isPacketReceived o = true ↔
    o < total ∧ ∃ c ∈ m.effects, c.packetOffset = o
  received : ∀ o ∈ m.bitmap.received, o < total

/-- No call is under way. -/
structure IsSettled (total : ℕ) (m : SharedBitmap T) : Prop where
  /-- Every call has returned. -/
  returned : m.calls.Perm (m.returns.map SetCall.call)
  /-- Every call in range has returned what its `fetch_or` decided. -/
  decided : (m.returns.filter fun c => c.packetOffset < total).Perm m.effects
  once : ∀ o < total, (∃ c ∈ m.calls, c.2 = o) →
    (m.returns.countP fun c => c.packetOffset = o ∧ c.newlySet = true) = 1
  count : m.bitmap.getTotalPacketsReceived = m.offsetsSet.card

lemma Inv.isSet {total : ℕ} {m : SharedBitmap T} (h : Inv total m) (hsize : total ≤ 2 ^ 32 - 64) :
    IsSet total m where
  inBounds o ho := by
    rw [h.numWords, Nat.mod_eq_of_lt (by omega)]
    omega
  first := h.linearized
  outside := h.outside
  unchanged := h.inside
  isPacketReceived o := by rw [BackendBitmap.isPacketReceived_iff, h.totalPackets, h.received]
  received o ho := by
    obtain ⟨c, hc, rfl⟩ := (h.received o).mp ho
    exact h.inside c hc

lemma Inv.getTotalPacketsReceived {total : ℕ} {m : SharedBitmap T} (h : Inv total m) :
    m.bitmap.getTotalPacketsReceived = (m.effects.map SetCall.packetOffset).toFinset.card := by
  rw [BackendBitmap.getTotalPacketsReceived, List.countP_eq_length_filter,
    ← List.toFinset_card_of_nodup (List.nodup_range.filter _)]
  congr 1
  ext o
  rw [List.mem_toFinset, List.mem_toFinset, List.mem_filter, List.mem_range,
    BackendBitmap.isPacketReceived_iff, h.received, List.mem_map]
  constructor
  · rintro ⟨-, -, hmem⟩
    exact hmem
  · rintro ⟨c, hc, rfl⟩
    have hlt := h.totalPackets ▸ h.inside c hc
    exact ⟨hlt, hlt, c, hc, rfl⟩

/-! ### What one thread did -/

variable [DecidableEq T]

def callsOf (t : T) (m : SharedBitmap T) : List (T × ℕ) := m.calls.filter fun c => c.1 = t

def effectsOf (t : T) (m : SharedBitmap T) : List (SetCall T) :=
  m.effects.filter fun c => c.thread = t

def returnsOf (t : T) (m : SharedBitmap T) : List (SetCall T) :=
  m.returns.filter fun c => c.thread = t

/-- Thread `t` made no step. -/
structure Still (t : T) (m m' : SharedBitmap T) : Prop where
  calls : m'.callsOf t = m.callsOf t
  effects : m'.effectsOf t = m.effectsOf t
  returns : m'.returnsOf t = m.returnsOf t

instance (t : T) : Std.Refl (Still t) := ⟨fun _ => ⟨rfl, rfl, rfl⟩⟩

instance (t : T) : IsTrans (SharedBitmap T) (Still t) :=
  ⟨fun _ _ _ h h' => ⟨h'.calls.trans h.calls, h'.effects.trans h.effects,
    h'.returns.trans h.returns⟩⟩

/-- Only thread `t` made a step. -/
def OnlyBy (t : T) (m m' : SharedBitmap T) : Prop := ∀ t' ≠ t, Still t' m m'

instance (t : T) : Std.Refl (OnlyBy t) := ⟨fun m _ _ => Std.Refl.refl m⟩

lemma onlyBy_called (t : T) (o : ℕ) (m : SharedBitmap T) : OnlyBy t m (m.called t o) := by
  intro t' ht
  exact ⟨by simp [callsOf, called, ht.symm], rfl, rfl⟩

lemma onlyBy_fetchOr (t : T) (o : ℕ) (m : SharedBitmap T) : OnlyBy t m (m.fetchOr t o) := by
  intro t' ht
  exact ⟨rfl, by simp [effectsOf, fetchOr, ht.symm], rfl⟩

lemma onlyBy_returned (t : T) (o : ℕ) (r : Bool) (m : SharedBitmap T) :
    OnlyBy t m (m.returned t o r) := by
  intro t' ht
  exact ⟨rfl, rfl, by simp [returnsOf, returned, ht.symm]⟩

lemma callsOf_called_self (t : T) (o : ℕ) (m : SharedBitmap T) :
    (m.called t o).callsOf t = m.callsOf t ++ [(t, o)] := by simp [callsOf, called]

lemma effectsOf_fetchOr_self (t : T) (o : ℕ) (m : SharedBitmap T) :
    (m.fetchOr t o).effectsOf t
      = m.effectsOf t ++ [⟨t, o, (m.bitmap.setPacketReceived o).1⟩] := by
  simp [effectsOf, fetchOr]

lemma returnsOf_returned_self (t : T) (o : ℕ) (r : Bool) (m : SharedBitmap T) :
    (m.returned t o r).returnsOf t = m.returnsOf t ++ [⟨t, o, r⟩] := by simp [returnsOf, returned]

/-- Thread `t` is in no call: every call has returned, with what its `fetch_or` decided. -/
structure Returned (total : ℕ) (t : T) (m : SharedBitmap T) : Prop where
  calls : m.callsOf t = (m.returnsOf t).map SetCall.call
  effects : m.effectsOf t = (m.returnsOf t).filter fun c => c.packetOffset < total

lemma Returned.still {total : ℕ} {t : T} {m m' : SharedBitmap T} (h : Returned total t m)
    (hm : Still t m m') : Returned total t m' :=
  ⟨by rw [hm.calls, hm.returns, h.calls], by rw [hm.effects, hm.returns, h.effects]⟩

/-- Thread `t` has made a call that has not returned. -/
structure Calling (total : ℕ) (t : T) (o : ℕ) (done : List (SetCall T)) (m : SharedBitmap T) :
    Prop where
  calls : m.callsOf t = (m.returnsOf t).map SetCall.call ++ [(t, o)]
  effects : m.effectsOf t
    = ((m.returnsOf t).filter fun c => c.packetOffset < total) ++ done

lemma Calling.still {total o : ℕ} {t : T} {done : List (SetCall T)} {m m' : SharedBitmap T}
    (h : Calling total t o done m) (hm : Still t m m') : Calling total t o done m' :=
  ⟨by rw [hm.calls, hm.returns, h.calls], by rw [hm.effects, hm.returns, h.effects]⟩

lemma Returned.called {total : ℕ} {t : T} {m : SharedBitmap T} (h : Returned total t m) (o : ℕ) :
    Calling total t o [] (m.called t o) where
  calls := by
    rw [callsOf_called_self, h.calls]
    rfl
  effects := by
    rw [List.append_nil]
    exact h.effects

lemma Calling.fetchOr {total o : ℕ} {t : T} {m : SharedBitmap T} (h : Calling total t o [] m) :
    Calling total t o [⟨t, o, (m.bitmap.setPacketReceived o).1⟩] (m.fetchOr t o) where
  calls := h.calls
  effects := by
    rw [effectsOf_fetchOr_self, h.effects, List.append_nil]
    rfl

lemma Calling.returned {total o : ℕ} {t : T} {r : Bool} {done : List (SetCall T)}
    {m : SharedBitmap T} (h : Calling total t o done m)
    (hdone : done = if o < total then [⟨t, o, r⟩] else []) :
    Returned total t (m.returned t o r) where
  calls := by
    rw [returnsOf_returned_self, List.map_append]
    exact h.calls
  effects := by
    rw [returnsOf_returned_self, List.filter_append]
    refine h.effects.trans ?_
    rw [hdone]
    by_cases ho : o < total
    · simp [ho]
    · simp [ho]

/-- A call comes back to where no call is under way. -/
lemma setPacketReceived_meets {total : ℕ} {t : T} (o : ℕ) {m : SharedBitmap T}
    (h : Returned total t m) :
    Prog.Meets (Inv total) (Still t) (OnlyBy t) (fun _ => Returned total t)
      (setPacketReceived t o) m := by
  refine Prog.Meets.modify_bind fun m₁ h₁ hI₁ => ⟨hI₁.called t o, onlyBy_called t o m₁, ?_⟩
  have hcalling := (h.still h₁).called o
  refine Prog.Meets.load_bind fun m₂ h₂ hI₂ => ?_
  have hcalling := hcalling.still h₂
  rw [hI₂.totalPackets]
  split_ifs with hge
  · -- out of range: nothing is touched
    refine Prog.Meets.modify fun m₃ h₃ hI₃ =>
      ⟨hI₃.returned t fun _ => rfl, onlyBy_returned t o false m₃, fun m₄ h₄ _ => ?_⟩
    exact ((hcalling.still h₃).returned (if_neg hge.not_gt).symm).still h₄
  · intro m₃ h₃ hI₃
    refine ⟨hI₃.fetchOr t (not_le.mp hge), onlyBy_fetchOr t o m₃, ?_⟩
    refine Prog.Meets.modify fun m₄ h₄ hI₄ =>
      ⟨hI₄.returned t fun hle => absurd hle hge, onlyBy_returned t o _ m₄, fun m₅ h₅ _ => ?_⟩
    have hreturned := ((hcalling.still h₃).fetchOr.still h₄).returned
      (if_pos (not_le.mp hge)).symm
    exact hreturned.still h₅

/-- What holds of every memory that a pool of calls reaches. -/
lemma reachable_keeping {total packetsPerChunk : ℕ} {s : Pool T (SharedBitmap T)}
    (hs : Pool.Reachable Allowed (fresh total packetsPerChunk) s) :
    s.Keeping (Inv total) Still OnlyBy (Returned total) := by
  refine (Pool.keeping_start (inv_fresh total packetsPerChunk) ?_).steps ?_ ?_ hs
  · intro t m hm _
    exact Returned.still ⟨rfl, rfl⟩ hm
  · intro t t' m m' ht _ _ h
    exact h t' ht.symm
  · rintro t p m ⟨o, -, rfl⟩ _ h
    exact setPacketReceived_meets o h

/-- When every thread is idle, everything is settled. -/
lemma isSettled {total : ℕ} {m : SharedBitmap T} (h : Inv total m)
    (hall : ∀ t, Returned total t m) : IsSettled total m := by
  have hreturned : m.calls.Perm (m.returns.map SetCall.call) := by
    refine perm_of_filter_eq Prod.fst fun t => (hall t).calls.trans ?_
    rw [List.filter_map]
    rfl
  have hdecided : (m.returns.filter fun c => c.packetOffset < total).Perm m.effects := by
    refine perm_of_filter_eq SetCall.thread fun t => ?_
    rw [List.filter_comm]
    exact (hall t).effects.symm
  have hmem : ∀ o, o < total ∧ (∃ c ∈ m.calls, c.2 = o) ↔ ∃ c ∈ m.effects, c.packetOffset = o := by
    intro o
    constructor
    · rintro ⟨ho, c, hc, rfl⟩
      obtain ⟨r, hr, rfl⟩ := List.mem_map.mp (hreturned.mem_iff.mp hc)
      exact ⟨r, hdecided.mem_iff.mp (List.mem_filter.mpr ⟨hr, decide_eq_true ho⟩), rfl⟩
    · rintro ⟨c, hc, rfl⟩
      have hr := List.mem_of_mem_filter (hdecided.mem_iff.mpr hc)
      exact ⟨h.inside c hc, c.call, hreturned.mem_iff.mpr (List.mem_map_of_mem hr), rfl⟩
  refine ⟨hreturned, hdecided, fun o ho hcall => ?_, ?_⟩
  · rw [← h.linearized.countP_eq_one ((hmem o).mp ⟨ho, hcall⟩), ← hdecided.countP_eq,
      List.countP_filter]
    refine List.countP_congr fun c _ => ?_
    simp only [decide_eq_true_eq, Bool.decide_and, Bool.and_eq_true]
    constructor
    · rintro ⟨rfl, hnew⟩
      exact ⟨⟨rfl, hnew⟩, ho⟩
    · exact And.left
  · rw [h.getTotalPacketsReceived]
    congr 1
    ext o
    rw [offsetsSet, List.mem_toFinset, List.mem_toFinset, List.mem_filter, List.mem_map,
      List.mem_map, h.totalPackets, ← hmem, decide_eq_true_eq, and_comm]

/-- Whatever the threads call and however their calls interleave, the bitmap is the set of the
offsets that took effect, and each of them has one call that found it new. -/
theorem setPacketReceived_set {total packetsPerChunk : ℕ} (hsize : total ≤ 2 ^ 32 - 64)
    {s : Pool T (SharedBitmap T)}
    (hs : Pool.Reachable Allowed (fresh total packetsPerChunk) s) :
    s.memory.IsSet total ∧ ((∀ t, s.threads t = .done ⟨⟩) → s.memory.IsSettled total) := by
  obtain ⟨hI, hall⟩ := reachable_keeping hs
  refine ⟨hI.isSet hsize, fun hidle => isSettled hI fun t => ?_⟩
  have ht := hall t
  rw [hidle t] at ht
  exact ht _ (Std.Refl.refl _) hI

end SharedBitmap

/-- Two threads set packet 1 of five, one after the other. -/
theorem setPacketReceived_set_two : ∃ m : SharedBitmap Bool,
    m.returns = [⟨false, 1, true⟩, ⟨true, 1, false⟩] ∧ m.IsSet 5 ∧ m.IsSettled 5 := by
  have hsteps : ∀ (t : Bool) (m m' : SharedBitmap Bool),
      (SharedBitmap.setPacketReceived t 1).run m = some (⟨⟩, m') →
        Relation.ReflTransGen (Pool.Step SharedBitmap.Allowed)
          ⟨m, fun _ => .done ⟨⟩⟩ ⟨m', fun _ => .done ⟨⟩⟩ :=
    fun t m m' hrun => Pool.steps_of_spawn ⟨1, by decide, rfl⟩ hrun rfl
  have hreach := (hsteps false (.fresh 5 2) _ rfl).trans (hsteps true _ _ rfl)
  obtain ⟨hset, hsettled⟩ := SharedBitmap.setPacketReceived_set (by decide) hreach
  exact ⟨_, rfl, hset, hsettled fun _ => rfl⟩

end SdrUdp
