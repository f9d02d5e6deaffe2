import Mathlib.Data.List.TakeWhile
import SdrUdp.Cargo
import SdrUdp.EcTraffic

/-!
# What an EC transfer delivers

Every packet of an encoded message is a whole one, so the premise under which `try_decode` was
looked at holds in every run: complete chunks hold the sender's bytes. When `try_decode` returns
true, the message is in the buffer up to the chunks that were rebuilt, and the sender's `poll`
returns 0 over a standing connection only after that.
-/

namespace SdrUdp

open SdrUdp.Core

/-- A run into a property that did not hold at its start has a step that brings it about. -/
lemma exists_turn {α : Type*} {R : α → α → Prop} {P : α → Prop} {a b : α}
    (hs : Relation.ReflTransGen R a b) (ha : ¬ P a) (hb : P b) : ∃ c d,
      Relation.ReflTransGen R a c ∧ ¬ P c ∧ R c d ∧ P d ∧ Relation.ReflTransGen R d b := by
  induction hs with
  | refl => exact absurd hb ha
  | @tail c d hs hstep ih =>
    by_cases hc : P c
    · obtain ⟨c', d', hs', hc', hstep', hd', hrest⟩ := ih hc
      exact ⟨c', d', hs', hc', hstep', hd', hrest.tail hstep⟩
    · exact ⟨c, d, hs, hc, hstep, hb, .refl⟩

/-! ### The sender -/

namespace ECSender

/-- The sender serves the same message, and what it sends are packets of its chunks. -/
structure Resends (s s' : ECSender) : Prop where
  cfg : s'.cfg = s.cfg
  handle : s'.handle = s.handle
  params : s'.params = s.params
  sent : ∃ new, s'.sent = s.sent ++ new ∧ ∀ q ∈ new, ∃ c, q ∈ s.chunkPackets c

variable {s s' s'' : ECSender} {msg : ControlMessage}

lemma Resends.refl (s : ECSender) : Resends s s :=
  ⟨rfl, rfl, rfl, [], (List.append_nil _).symm, List.forall_mem_nil _⟩

lemma Resends.dataChunks (h : Resends s s') : s'.dataChunks = s.dataChunks := by
  simp only [ECSender.dataChunks, ECSender.chunkBytes, h.cfg, h.params]

lemma Resends.chunkPackets (h : Resends s s') : s'.chunkPackets = s.chunkPackets := by
  funext c
  unfold ECSender.chunkPackets
  rw [h.handle, h.params]

lemma Resends.trans (h : Resends s s') (h' : Resends s' s'') : Resends s s'' := by
  obtain ⟨new, hnew, hchunks⟩ := h.sent
  obtain ⟨new', hnew', hchunks'⟩ := h'.sent
  rw [h.chunkPackets] at hchunks'
  refine ⟨h'.cfg.trans h.cfg, h'.handle.trans h.handle, h'.params.trans h.params, new ++ new', ?_,
    fun q hq => ?_⟩
  · rw [hnew', hnew, List.append_assoc]
  · exact (List.mem_append.mp hq).elim (hchunks q) (hchunks' q)

lemma retransmitChunk_resends (s : ECSender) (c : ℕ) : Resends s (s.retransmitChunk c) :=
  ⟨rfl, rfl, rfl, s.chunkPackets c, rfl, fun _ hq => ⟨c, hq⟩⟩

lemma applyBitmap_resends (h : s.applyBitmap msg = some s') : Resends s s' := by
  refine foldlM_keeps (P := Resends s) (fun s₁ c _ s₂ hstep h₁ => ?_) h (.refl s)
  split_ifs at hstep with hbit
  · unfold mark at hstep
    split_ifs at hstep
    obtain rfl := Option.some.inj hstep
    exact h₁.trans ⟨rfl, rfl, rfl, [], (List.append_nil _).symm, List.forall_mem_nil _⟩
  · exact Option.some.inj hstep ▸ h₁

lemma retransmitGap_resends {start len : ℕ} (h : s.retransmitGap start len = some s') :
    Resends s s' := by
  refine foldlM_keeps (P := Resends s) (fun s₁ c _ s₂ hstep h₁ => ?_) h (.refl s)
  cases hacked : s₁.chunkAcked[c]? with
  | none => simp [hacked] at hstep
  | some acked =>
    simp only [hacked, Option.some.injEq] at hstep
    subst hstep
    split_ifs
    · exact h₁
    · exact h₁.trans (s₁.retransmitChunk_resends c)

lemma retransmitGaps_resends (h : s.retransmitGaps msg = some s') : Resends s s' := by
  refine foldlM_keeps (P := Resends s) (fun s₁ i _ s₂ hstep h₁ => ?_) h (.refl s)
  split_ifs at hstep
  exact h₁.trans (retransmitGap_resends hstep)

lemma retransmitMissingBitmap_resends (s : ECSender) (msg : ControlMessage) (limit : ℕ) :
    Resends s (s.retransmitMissingBitmap msg limit) :=
  foldl_keeps (P := Resends s) (fun s₁ c _ h₁ => h₁.trans (s₁.retransmitChunk_resends c)) (.refl s)

lemma onReport_resends {allDone : Bool} (h : s.onReport msg = some (s', allDone)) :
    Resends s s' := by
  unfold onReport at h
  simp only [Option.bind_eq_bind, Option.bind_eq_some_iff, Option.pure_def] at h
  obtain ⟨s₁, hbitmap, s₂, hgaps, done, -, hsame⟩ := h
  obtain ⟨rfl, rfl⟩ := Prod.mk.inj (Option.some.inj hsame)
  exact ((applyBitmap_resends hbitmap).trans (retransmitGaps_resends hgaps)).trans
    (s₂.retransmitMissingBitmap_resends msg 8)

end ECSender

/-- So does a step of its poll. -/
lemma ECPoll.step_resends {p p' : ECPoll} {event : ChannelEvent} (hstep : p.step event = some p') :
    ECSender.Resends p.sender p'.sender := by
  rcases step_cases hstep with ⟨hsame, -⟩ | ⟨own, msg, allDone, -, -, -, hreport, -⟩
  · exact hsame ▸ .refl p.sender
  · exact ECSender.onReport_resends hreport

/-! ### The receiver -/

namespace ECReceiver

variable {r r' : ECReceiver} {isal : Isal} {answer : ℤ} {m m' : ReceiverMemory} {b i : ℕ}

/-- A call that fails leaves the message and the buffers as they are. -/
lemma conclude_false_frame {seen : Option (List ℕ × List ℕ)}
    (h : r.conclude isal answer seen m = some (false, r', m')) (slot : ℕ) :
    r'.layout = r.layout ∧ r'.recvHandle = r.recvHandle ∧ m'.message slot = m.message slot ∧
      m'.buffers = m.buffers := by
  rcases conclude_false h with ⟨rfl, rfl⟩ | ⟨missing, avail, -, -, -, hrequest⟩
  · exact ⟨rfl, rfl, rfl, rfl⟩
  · unfold requestMissing at hrequest
    split_ifs at hrequest
    · obtain ⟨rfl, rfl⟩ := Prod.mk.inj hrequest
      exact ⟨rfl, rfl, rfl, rfl⟩
    · obtain ⟨rfl, rfl⟩ := Prod.mk.inj hrequest
      exact ⟨rfl, rfl, m.sendMessage_message _ answer slot, m.sendMessage_buffers _ answer⟩

/-- Byte `i` lies in none of the chunks. -/
def Outside (r : ECReceiver) (chunks : List ℕ) (i : ℕ) : Prop :=
  ∀ c ∈ chunks, i < ecOffset c r.layout.chunkBytes ∨
    ecOffset c r.layout.chunkBytes + r.layout.chunkBytes ≤ i

/-- Rebuilding chunks writes to no others. -/
lemma recover_outside {avail missing : List ℕ}
    (h : r.recover isal (some (.user b)) avail missing m = some (true, m'))
    (hi : r.Outside missing i) : m'.buffers b i = m.buffers b i := by
  unfold recover at h
  split_ifs at h
  · exact absurd (congrArg (Option.map Prod.fst) h) (by simp)
  · obtain ⟨-, rfl⟩ := Prod.mk.inj (Option.some.inj h)
    dsimp only
    rw [Function.update_self]
    refine foldl_keeps (P := fun storage : ℕ → U8 => storage i = m.buffers b i) ?_ rfl
    intro storage pair hpair hsame
    exact (copyBytes_of_notMem storage (hi pair.1 (List.fst_mem_of_mem_zipIdx hpair)) _).trans hsame

/-- A call that succeeds writes to the chunks that it has found missing, if they are few. -/
lemma conclude_true_outside {handle : SDRRecvHandle} (hhandle : r.recvHandle = some handle)
    (hptr : (m.message handle.msgId).bind MessageContext.buffer = some (.user b))
    {seen : Option (List ℕ × List ℕ)}
    (h : r.conclude isal answer seen m = some (true, r', m')) : ∃ missing avail,
      seen = some (missing, avail) ∧ missing.length ≤ r.layout.m ∧
        ∀ i, r.Outside missing i → m'.buffers b i = m.buffers b i := by
  obtain ⟨missing, avail, rfl, hfew⟩ := conclude_true h
  refine ⟨missing, avail, rfl, ?_, fun i hi => ?_⟩
  · rcases hfew with rfl | ⟨-, hfew, -⟩
    · exact Nat.zero_le _
    · exact hfew
  · unfold conclude at h
    rw [hhandle] at h
    dsimp only at h
    rw [hptr] at h
    split_ifs at h
    · obtain ⟨-, -, rfl⟩ := Option.some.inj h
      rw [declareComplete_buffers]
    · exact absurd (congrArg (Option.map Prod.fst) h) (by simp)
    · exact absurd (congrArg (Option.map Prod.fst) h) (by simp)
    · exact absurd (congrArg (Option.map Prod.fst) h) (by simp)
    · obtain ⟨⟨done, m₁⟩, hrecover, heq⟩ := Option.map_eq_some_iff.mp h
      obtain ⟨rfl, heq⟩ := Prod.mk.inj heq
      obtain ⟨rfl, rfl⟩ := Prod.mk.inj heq
      rw [if_pos rfl, declareComplete_buffers]
      exact recover_outside hrecover hi

end ECReceiver

/-! ### A transfer and its cargo -/

namespace EcTransfer

/-- The invariant until `try_decode` returns true: the network and the sender have packets of the
cargo only, and a call reads bits that are set. -/
structure Carries (t : BitmapPair) (k : Cargo) (l : ECLayout) (s : EcTransfer) : Prop where
  link : s.link.Inv t fun _ => True
  laden : s.link.Laden k
  layout : s.receiver.layout = l
  handle : ∃ handle, s.receiver.recvHandle = some handle ∧ handle.msgId = t.slot
  straight : ∀ program, s.scan = some program → Prog.Straight (· = id) program
  reads : ∀ program, s.scan = some program → Prog.Meets (t.LiveWith ∅) t.Grows t.Grows
    (fun seen m => ∀ missing avail, seen = some (missing, avail) →
      s.receiver.Reads t ∅ missing avail m) program s.link.memory
  sends : ∀ c, ∀ q ∈ s.poll.sender.chunkPackets c, t.Accepts q ∧ k.Brings q

variable {isal : Isal} {t : BitmapPair} {k : Cargo} {l : ECLayout} {s s' : EcTransfer}

lemma Carries.liveWith (h : s.Carries t k l) : t.LiveWith ∅ s.link.memory :=
  ⟨h.link.live, fun _ hc => absurd hc (Set.notMem_empty _)⟩

/-- What comes to the memory from the threads does not matter to a call. -/
lemma Carries.withLink (h : s.Carries t k l) {link : Link} (hlink : link.Inv t fun _ => True)
    (hladen : link.Laden k) (hgrows : t.Grows s.link.memory link.memory) :
    Carries t k l { s with link } :=
  { h with
    link := hlink
    laden := hladen
    reads := fun program hscan => (h.reads program hscan).stable hgrows }

/-- The sender may send more of its packets. -/
lemma Carries.event (h : s.Carries t k l) {e : ChannelEvent} (hs : s.event e = some s') :
    s'.Carries t k l := by
  obtain ⟨poll, hstep, rfl⟩ := Option.map_eq_some_iff.mp hs
  have hresends := ECPoll.step_resends hstep
  obtain ⟨new, hnew, hchunks⟩ := hresends.sent
  have hpackets : ∀ q ∈ poll.sender.sent.drop s.poll.sender.sent.length,
      t.Accepts q ∧ k.Brings q := by
    rw [hnew, List.drop_left]
    intro q hq
    obtain ⟨c, hc⟩ := hchunks q hq
    exact h.sends c q hc
  have hsent := h.withLink (h.link.send fun q hq => (hpackets q hq).1)
    (h.laden.send fun q hq => (hpackets q hq).2) (Std.Refl.refl _)
  refine { hsent with sends := ?_ }
  dsimp only
  rw [hresends.chunkPackets]
  exact h.sends

/-- A call begins to read. -/
lemma Carries.call (h : s.Carries t k l) : Carries t k l { s with scan := some s.receiver.look } :=
  { h with
    straight := fun program hscan => by
      obtain rfl := Option.some.inj hscan
      exact s.receiver.look_straight
    reads := fun program hscan => by
      obtain rfl := Option.some.inj hscan
      obtain ⟨handle, hhandle, hid⟩ := h.handle
      refine ECReceiver.look_meets (fun handle' hhandle' => ?_) _
      obtain rfl := Option.some.inj (hhandle'.symm.trans hhandle)
      exact hid }

/-- It reads on. -/
lemma Carries.load (h : s.Carries t k l) {act : ReceiverMemory → ReceiverMemory}
    {next : ReceiverMemory → Prog ReceiverMemory (Option (List ℕ × List ℕ))}
    (hscan : s.scan = some (.atomic act next)) : act = id ∧
      Carries t k l { s with scan := some (next s.link.memory) } := by
  obtain ⟨rfl, hstraight⟩ := h.straight _ hscan
  have hread := h.reads _ hscan
  refine ⟨rfl, { h with
    straight := fun program hprogram => ?_
    reads := fun program hprogram => ?_ }⟩
  · obtain rfl := Option.some.inj hprogram
    exact hstraight _
  · obtain rfl := Option.some.inj hprogram
    exact (hread _ (Std.Refl.refl _) h.liveWith).2.2

/-- A call that fails leaves the buffer. -/
lemma Carries.conclude_false (hslot : k.slot = t.slot) (h : s.Carries t k l)
    {seen : Option (List ℕ × List ℕ)} (hs : s.conclude isal seen = some s')
    (hfailed : s'.decoded = false) : s'.Carries t k l := by
  obtain ⟨⟨done, r', m'⟩, hconclude, rfl⟩ := Option.map_eq_some_iff.mp hs
  obtain rfl : done = false := hfailed
  obtain ⟨hlayout, hhandle, hmsg, hbuffers⟩ := ECReceiver.conclude_false_frame hconclude t.slot
  have hgrows := BitmapPair.grows_of_message hmsg
  have hlink := h.withLink (h.link.withMemory (h.link.live.congr hmsg) trivial hgrows)
    (h.laden.withMemory (hslot.symm ▸ hmsg) hbuffers) hgrows
  exact
    { hlink with
      layout := hlayout.trans h.layout
      handle := hhandle ▸ h.handle
      straight := nofun
      reads := nofun }

/-- The invariant holds until `try_decode` returns true. -/
lemma Carries.lossyStep (hfits : t.Fits) (hk : k.Fits) (hslot : k.slot = t.slot)
    (h : s.Carries t k l) (hstep : LossyStep isal t.slot s s') :
    s'.decoded = true ∧ s'.scan = none ∨ s'.Carries t k l := by
  have hstable : t.Stable fun _ => True :=
    ⟨fun _ _ _ _ _ => trivial, fun _ _ _ _ => trivial, fun _ _ _ => trivial⟩
  cases hstep with
  | lose p => exact Or.inr (h.withLink (h.link.lose p) (h.laden.lose p) (Std.Refl.refl _))
  | disconnect hs => exact Or.inr (h.event hs)
  | step hstep =>
    cases hstep with
    | link hl =>
      obtain ⟨hlink, hgrows⟩ := h.link.step hfits hstable hl
      exact Or.inr (h.withLink hlink (h.laden.step hk (hslot ▸ hl)) hgrows)
    | call idle hdecoded => exact Or.inr h.call
    | load hscan =>
      obtain ⟨rfl, hcarries⟩ := h.load hscan
      exact Or.inr hcarries
    | conclude hscan hs =>
      cases hdecoded : s'.decoded with
      | true =>
        obtain ⟨result, -, rfl⟩ := Option.map_eq_some_iff.mp hs
        exact Or.inl ⟨rfl, rfl⟩
      | false => exact Or.inr (h.conclude_false hslot hs hdecoded)
    | deliver hmsg hs => exact Or.inr { h.event hs with }
    | timeout hs => exact Or.inr (h.event hs)

/-- Once `try_decode` has returned true, it is not called again. -/
lemma lossyStep_decoded {slot : ℕ} (hdecoded : s.decoded = true) (hscan : s.scan = none)
    (hstep : LossyStep isal slot s s') : s'.decoded = true ∧ s'.scan = none := by
  cases hstep with
  | step hstep => exact step_decoded hdecoded hscan hstep
  | lose p => exact ⟨hdecoded, hscan⟩
  | disconnect hs =>
    obtain ⟨poll, -, rfl⟩ := Option.map_eq_some_iff.mp hs
    exact ⟨hdecoded, hscan⟩

/-- Only the end of a call returns true. -/
lemma exists_conclude {slot : ℕ} (hopen : s.decoded = false) (hstep : LossyStep isal slot s s')
    (hdone : s'.decoded = true) :
    ∃ seen, s.scan = some (.done seen) ∧ s.conclude isal seen = some s' := by
  have hnot : s'.decoded ≠ false := by simp [hdone]
  have hevent : ∀ {e : ChannelEvent} {s₁ : EcTransfer}, s.event e = some s₁ →
      s₁.decoded = false := by
    intro e s₁ hs₁
    obtain ⟨poll, -, rfl⟩ := Option.map_eq_some_iff.mp hs₁
    exact hopen
  cases hstep with
  | lose p => exact absurd hopen hnot
  | disconnect hs => exact absurd (hevent hs) hnot
  | step hstep =>
    cases hstep with
    | link hl => exact absurd hopen hnot
    | call idle hdecoded => exact absurd hopen hnot
    | load hscan => exact absurd hopen hnot
    | conclude hscan hs => exact ⟨_, hscan, hs⟩
    | deliver hmsg hs => exact absurd (hevent hs) hnot
    | timeout hs => exact absurd (hevent hs) hnot

lemma Carries.run (hfits : t.Fits) (hk : k.Fits) (hslot : k.slot = t.slot) (h : s.Carries t k l)
    (hs : Relation.ReflTransGen (LossyStep isal t.slot) s s') :
    s'.decoded = true ∧ s'.scan = none ∨ s'.Carries t k l := by
  induction hs with
  | refl => exact Or.inr h
  | tail _ hstep ih =>
    rcases ih with ⟨hdecoded, hscan⟩ | hcarries
    · exact Or.inl (lossyStep_decoded hdecoded hscan hstep)
    · exact hcarries.lossyStep hfits hk hslot hstep

/-! ### What the buffer holds -/

/-- The cargo fills whole chunks of the message in the slot. -/
structure Divides (t : BitmapPair) (k : Cargo) : Prop where
  slot : k.slot = t.slot
  fits : k.Fits
  chunks : t.packetsPerChunk ∣ k.packets
  packets_le : k.packets ≤ t.totalPackets

/-- The bytes of a complete chunk are right. -/
lemma Carries.chunk_right (hfits : t.Fits) (hk : Divides t k) (h : s.Carries t k l) {c : ℕ}
    (hc : c < t.totalChunks ∧ c ∈ t.completed s.link.memory) {i : ℕ}
    (hi : i < k.mtuBytes * t.packetsPerChunk) :
    s.link.memory.buffers k.buffer (c * (k.mtuBytes * t.packetsPerChunk) + i)
      = k.bytes (c * (k.mtuBytes * t.packetsPerChunk) + i) := by
  have hrecorded : ∀ o, t.InChunk c o → o < k.packets ∧ k.Right s.link.memory o := by
    intro o ho
    refine h.laden.holds.packets o ?_
    rw [hk.slot]
    exact h.link.live.chunks c hc.2 o ho
  have hfirst : t.InChunk c (c * t.packetsPerChunk) :=
    ⟨le_rfl, Nat.mul_lt_mul_of_pos_right (Nat.lt_succ_self c) hfits.packetsPerChunk,
      hfits.chunk_lt hc.1⟩
  -- the chunk begins inside the cargo, so it ends there
  have hwhole : (c + 1) * t.packetsPerChunk ≤ k.packets := by
    obtain ⟨n, hn⟩ := hk.chunks
    have hlt := (hrecorded _ hfirst).1
    rw [hn, Nat.mul_comm t.packetsPerChunk n] at hlt ⊢
    exact Nat.mul_le_mul_right _ (Nat.lt_of_mul_lt_mul_right hlt)
  have hpacket : i / k.mtuBytes < t.packetsPerChunk :=
    Nat.div_lt_of_lt_mul hi
  have hinside : t.InChunk c (c * t.packetsPerChunk + i / k.mtuBytes) := by
    rw [Nat.succ_mul] at hwhole
    refine ⟨Nat.le_add_right _ _, ?_, ?_⟩
    · rw [Nat.succ_mul]
      exact Nat.add_lt_add_left hpacket _
    · exact (Nat.add_lt_add_left hpacket _).trans_le (hwhole.trans hk.packets_le)
  have hright := (hrecorded _ hinside).2 (i % k.mtuBytes) (Nat.mod_lt _ hk.fits.mtuBytes)
  have hbyte : (c * t.packetsPerChunk + i / k.mtuBytes) * k.mtuBytes + i % k.mtuBytes
      = c * (k.mtuBytes * t.packetsPerChunk) + i := by
    rw [Nat.add_mul, Nat.mul_assoc, Nat.mul_comm t.packetsPerChunk, Nat.add_assoc,
      Nat.mul_comm (i / k.mtuBytes), Nat.div_add_mod]
  rwa [hbyte] at hright

/-- After a successful call the data chunks that it has not rebuilt are right. -/
lemma Carries.conclude_true (hfits : t.Fits) (hk : Divides t k) (h : s.Carries t k l)
    (hchunk : l.chunkBytes = k.mtuBytes * t.packetsPerChunk)
    (hoffsets : ∀ c < l.dataChunks, c * l.chunkBytes < 2 ^ 32)
    {seen : Option (List ℕ × List ℕ)} (hscan : s.scan = some (.done seen))
    (hs : s.conclude isal seen = some s') (hdone : s'.decoded = true) : ∃ rebuilt avail,
      seen = some (rebuilt, avail) ∧ rebuilt.length ≤ l.m ∧
        ∀ i < l.dataChunks * l.chunkBytes, i / l.chunkBytes ∉ rebuilt →
          s'.link.memory.buffers k.buffer i = k.bytes i := by
  obtain ⟨⟨done, r', m'⟩, hconclude, rfl⟩ := Option.map_eq_some_iff.mp hs
  obtain rfl : done = true := hdone
  obtain ⟨handle, hhandle, hid⟩ := h.handle
  have hptr : (s.link.memory.message handle.msgId).bind MessageContext.buffer
      = some (.user k.buffer) := by
    obtain ⟨msg, hmsg, hbuffer, -⟩ := h.laden.holds.message
    rw [hid, ← hk.slot, hmsg, Option.bind_some, hbuffer]
  obtain ⟨rebuilt, avail, hseen, hfew, hsame⟩ :=
    ECReceiver.conclude_true_outside hhandle hptr hconclude
  rw [h.layout] at hfew
  have hreads := (h.reads _ hscan) _ (Std.Refl.refl _) h.liveWith rebuilt avail hseen
  refine ⟨rebuilt, avail, hseen, hfew, fun i hi hnot => ?_⟩
  have hpos := l.chunkBytes_pos
  have hlt : i / l.chunkBytes < l.dataChunks := (Nat.div_lt_iff_lt_mul hpos).mpr hi
  have houtside : s.receiver.Outside rebuilt i := by
    intro c hc
    have hrange := List.mem_range.mp (hreads.missing_sublist.subset hc)
    rw [h.layout] at hrange ⊢
    rw [ecOffset, Nat.mod_eq_of_lt (hoffsets c hrange)]
    by_contra hinside
    rw [not_or, not_lt, not_le] at hinside
    refine hnot ?_
    rwa [Nat.div_eq_of_lt_le hinside.1 (by rw [Nat.succ_mul]; exact hinside.2)]
  have hcomplete := hreads.others _ (h.layout.symm ▸ hlt) hnot
  have hbytes := h.chunk_right hfits hk hcomplete (i := i % l.chunkBytes)
    (hchunk ▸ Nat.mod_lt i hpos)
  rw [← hchunk, Nat.mul_comm, Nat.div_add_mod] at hbytes
  exact (hsame i houtside).trans hbytes

end EcTransfer

/-- Before the first packet is received nothing has to be kept. -/
lemma Link.inv_start {t : BitmapPair} {J : ReceiverMemory → Prop} {m : ReceiverMemory}
    {packets : List SDRPacket} (hlive : t.Live m) (hJ : J m)
    (haccepts : ∀ q ∈ packets, t.Accepts q) :
    Link.Inv t J ⟨Pool.start m, packets, fun _ => none⟩ := by
  refine ⟨⟨⟨hlive, hJ⟩, fun th => ?_⟩, fun _ => trivial, haccepts⟩
  cases th with
  | worker i => exact fun _ _ _ q hq => absurd hq (by simp)
  | poller => exact fun _ _ _ => trivial
  | app i => exact fun _ _ _ => trivial

lemma Link.laden_start {k : Cargo} {m : ReceiverMemory} {packets : List SDRPacket}
    (hholds : k.Holds m) (hbrings : ∀ q ∈ packets, k.Brings q) :
    Link.Laden k ⟨Pool.start m, packets, fun _ => none⟩ :=
  ⟨⟨hholds, fun _ _ _ _ => trivial⟩, hbrings⟩

/-- Every packet of a chunk is cut from the buffer that is sent. -/
lemma ECSender.exists_dataPacket {s : ECSender} {c : ℕ} {q : SDRPacket}
    (hq : q ∈ s.chunkPackets c) : ∃ o, o * ecMtuBytes s.params < s.handle.userBuffer.length ∧
      dataPacket s.params.transferId s.handle.msgId (orDefault s.params.packetsPerChunk 32)
        (ecMtuBytes s.params) s.handle.userBuffer o = some q := by
  obtain ⟨o, ho, hpacket⟩ := List.mem_filterMap.mp hq
  exact ⟨o, by simpa using List.mem_takeWhile_imp ho, hpacket⟩

/-! ### The transfer after a handshake -/

namespace ECHandshake

/-- The encoded message in the buffer of the receiver. -/
def cargo (h : ECHandshake) : Cargo where
  slot := h.recvId
  buffer := h.buffer
  length := h.recvLength
  mtuBytes := h.cts.params.mtuBytes.toNat
  packets := h.encoded.totalBytes / h.cts.params.mtuBytes.toNat
  bytes := encode h.isal h.encoded h.message

variable {h : ECHandshake}

/-- The layout of the receiver covers as many bytes. -/
lemma totalBytes_posted (hgeometry : GeometryAgrees h.connected.connectionCtx.params h.encoded
    h.sender h.receiver.layout) : h.receiver.layout.m = h.encoded.m ∧
      h.encoded.totalBytes ≤ h.recvLength := by
  have hreceives := h.receives
  unfold ECReceiver.postReceive at hreceives
  dsimp only at hreceives
  split_ifs at hreceives with hroom
  have hlayout := congrArg ECReceiver.layout (Option.some.inj hreceives)
  dsimp only at hlayout
  rw [hlayout] at hroom
  have hm : h.receiver.layout.m = h.encoded.m := hlayout ▸ h.m_eq
  have htotal : h.receiver.layout.totalBytes = h.encoded.totalBytes := by
    simp only [ECLayout.totalBytes, ECLayout.totalChunks, ECLayout.parityChunks, hm,
      hgeometry.postedData, hgeometry.postedStripes, hgeometry.postedChunk, hgeometry.encodedChunk]
  exact ⟨hm, htotal ▸ not_lt.mp hroom⟩

/-- Both ends count alike and agree on the geometry, and the numbers are wide enough: 32 bits for
the offsets of chunks, 18 bits for those of packets, and 64 bits for the length of the buffer. -/
structure Deliverable (h : ECHandshake) : Prop where
  countable : h.Countable
  geometry : GeometryAgrees h.connected.connectionCtx.params h.encoded h.sender h.receiver.layout
  addressable : h.encoded.Addressable
  packets : h.cargo.packets ≤ 2 ^ 18
  length : h.recvLength + SDRPacket.maxPayloadSize ≤ 2 ^ 64

lemma mtuBytes_cts (h : ECHandshake) : 0 < h.cts.params.mtuBytes.toNat ∧
    h.cts.params.mtuBytes.toNat ≤ SDRPacket.maxPayloadSize := by
  rw [h.params_cts]
  exact negotiate_mtuBytes h.memory.conn.connectionCtx.params h.offer h.recvLength

lemma params_connected (h : ECHandshake) : h.connected.connectionCtx.params = h.cts.params := by
  rw [← sendPostOnCts_params h.conn h.sendId _ h.cts h.socketReady, h.sends]

namespace Deliverable

variable (hd : h.Deliverable)
include hd

lemma chunkBytes : h.encoded.chunkBytes = h.cargo.mtuBytes * h.bitmaps.packetsPerChunk := by
  rw [hd.geometry.encodedChunk, h.params_connected]
  rfl

/-- The encoded message is cut into packets of full size. -/
lemma totalBytes : h.encoded.totalBytes = h.cargo.packets * h.cargo.mtuBytes ∧
    h.bitmaps.packetsPerChunk ∣ h.cargo.packets := by
  have hpos := h.mtuBytes_cts.1
  have htotal : h.encoded.totalBytes = (h.encoded.dataChunks + h.encoded.stripes * h.encoded.m)
      * h.bitmaps.packetsPerChunk * h.cargo.mtuBytes := by
    rw [hd.addressable.totalBytes_eq, hd.chunkBytes, Nat.mul_comm h.cargo.mtuBytes, Nat.mul_assoc]
  have hpackets : h.cargo.packets = (h.encoded.dataChunks + h.encoded.stripes * h.encoded.m)
      * h.bitmaps.packetsPerChunk := by
    change h.encoded.totalBytes / h.cargo.mtuBytes = _
    rw [htotal]
    exact Nat.mul_div_cancel _ hpos
  refine ⟨?_, ?_⟩
  · rw [hpackets, htotal]
  · rw [hpackets]
    exact Nat.dvd_mul_left _ _

lemma divides : EcTransfer.Divides h.bitmaps h.cargo := by
  obtain ⟨hpos, hle⟩ := h.mtuBytes_cts
  obtain ⟨htotal, hchunks⟩ := hd.totalBytes
  have hroom : h.cargo.packets * h.cargo.mtuBytes ≤ h.recvLength :=
    htotal ▸ (totalBytes_posted hd.geometry).2
  refine ⟨rfl, ⟨hpos, hroom⟩, hchunks, ?_⟩
  have hlength := hd.length
  change _ ≤ ceilDiv h.recvLength h.cts.params.mtuBytes.toNat
  refine le_of_forall_lt fun o ho => (lt_ceilDiv_iff hpos (by omega) o).mpr ?_
  exact ((Nat.mul_lt_mul_right hpos).mpr ho).trans_le hroom

/-- What is cut from the encoded message is cargo. -/
lemma brings {transferId : U32} {packetsPerChunk : U16} {o : ℕ} {q : SDRPacket}
    (ho : o * h.cts.params.mtuBytes.toNat < h.encoded.totalBytes)
    (hq : dataPacket transferId h.recvId packetsPerChunk h.cts.params.mtuBytes.toNat
      (ECSender.storage h.isal h.cfg h.senderParams h.message h.sentLength) o = some q) :
    h.cargo.Brings q := by
  have hlength : (ECSender.storage h.isal h.cfg h.senderParams h.message h.sentLength).length
      = h.encoded.totalBytes := by
    rw [ECSender.storage, List.length_map, List.length_range]
    rfl
  refine Cargo.brings_of_dataPacket h.setUp.lt h.mtuBytes_cts.2 hd.packets (fun i hi => ?_) ?_ ?_ hq
  · simp only [ECSender.storage, List.getElem_map, List.getElem_range]
    rfl
  · rw [hlength, hd.totalBytes.1]
  · rw [hd.totalBytes.1] at ho
    exact Nat.lt_of_mul_lt_mul_right ho

lemma offsets : ∀ c < h.receiver.layout.dataChunks, c * h.receiver.layout.chunkBytes < 2 ^ 32 := by
  intro c hc
  rw [hd.geometry.postedChunk, ← hd.geometry.encodedChunk]
  rw [hd.geometry.postedData] at hc
  exact hd.addressable.offsets c (hc.trans_le (Nat.le_add_right _ _))

omit hd in
/-- A posted receive has recorded nothing. -/
lemma holds (hc : h.Countable) : h.cargo.Holds h.posted.2 := by
  obtain ⟨msg, b, f, hmsg, hs, -, hbuffer, hlength, hmtu, -, -, hbits⟩ :=
    (Transfer.filling_of_post h.setUp rfl hc.built).message
  rw [h.posted_memory]
  have hmsg' : (h.answered.2.mapMessage h.bitmaps.slot fun msg =>
      { msg with totalChunks := h.receiver.layout.totalChunks }).message h.bitmaps.slot
        = some { msg with totalChunks := h.receiver.layout.totalChunks } := by
    rw [ReceiverMemory.message_mapMessage, hmsg, Option.map_some]
  refine ⟨⟨_, hmsg', hbuffer, hlength, ?_⟩, fun o ho => ?_⟩
  · change msg.connectionParams.mtuBytes.toNat = h.cts.params.mtuBytes.toNat
    rw [hmtu, h.params_cts]
    rfl
  · have hreceived := BitmapPair.received_of_message (t := h.bitmaps) hmsg' hs.backend
    change o ∈ h.bitmaps.received _ at ho
    rw [hreceived, hbits] at ho
    exact absurd ho (Nat.not_lt_zero o)

lemma carries : h.transfer.Carries h.bitmaps h.cargo h.receiver.layout := by
  have hc := hd.countable
  have hinv := hc.inv
  obtain ⟨hpos, hle⟩ := h.mtuBytes_cts
  obtain ⟨hmsgId, hbuffer, hpackets⟩ := sendPostOnCts_packets h.sends
  have hlength : (ECSender.storage h.isal h.cfg h.senderParams h.message h.sentLength).length
      = h.encoded.totalBytes := by
    rw [ECSender.storage, List.length_map, List.length_range]
    rfl
  have hroom := (totalBytes_posted hd.geometry).2
  have hbound := hd.length
  refine ⟨?_, ?_, rfl, hinv.handle, hinv.straight, hinv.reads, fun c q hq => ?_⟩
  · exact Link.inv_start hinv.link.live trivial hinv.link.accepts
  · refine Link.laden_start (holds hc) fun q hq => ?_
    obtain ⟨o, ho, hpacket⟩ := hpackets q hq
    rw [hc.sendId] at hpacket
    refine hd.brings ?_ hpacket
    rw [lt_ceilDiv_iff hpos] at ho
    · exact hlength ▸ ho
    · change (ECSender.storage h.isal h.cfg h.senderParams h.message h.sentLength).length + _ ≤ _
      omega
  · have hmtu : ecMtuBytes h.cts.params = h.cts.params.mtuBytes.toNat := ecMtuBytes_of_pos hpos hle
    obtain ⟨o, ho, hpacket⟩ := ECSender.exists_dataPacket hq
    change o * ecMtuBytes h.sender.params < h.sendHandle.userBuffer.length at ho
    change dataPacket h.sender.params.transferId h.sendHandle.msgId
      (orDefault h.sender.params.packetsPerChunk 32) (ecMtuBytes h.sender.params)
        h.sendHandle.userBuffer o = some q at hpacket
    rw [h.sender_params, hmtu, hbuffer] at ho hpacket
    rw [hmsgId, hc.sendId] at hpacket
    refine ⟨?_, hd.brings (hlength ▸ ho) hpacket⟩
    rw [h.params_cts] at hle hpacket
    exact BitmapPair.accepts_of_dataPacket hc.fits.slot hle hpacket

lemma layout_chunkBytes :
    h.receiver.layout.chunkBytes = h.cargo.mtuBytes * h.bitmaps.packetsPerChunk := by
  rw [← hd.chunkBytes, hd.geometry.postedChunk, hd.geometry.encodedChunk]

/-- The invariant holds in every run until `try_decode` returns true. -/
lemma carries_of_run {s : EcTransfer}
    (hs : Relation.ReflTransGen (EcTransfer.LossyStep h.isal h.recvId) h.transfer s)
    (hopen : s.decoded = false) : s.Carries h.bitmaps h.cargo h.receiver.layout := by
  rcases hd.carries.run hd.countable.fits hd.divides.fits hd.divides.slot hs with
    ⟨hdecoded, -⟩ | hcarries
  · exact absurd (hopen.symm.trans hdecoded) Bool.false_ne_true
  · exact hcarries

/-- The step in which it returns true brings the message, up to the chunks that it rebuilds. -/
lemma success {s s' : EcTransfer}
    (hs : Relation.ReflTransGen (EcTransfer.LossyStep h.isal h.recvId) h.transfer s)
    (hopen : s.decoded = false) (hstep : EcTransfer.LossyStep h.isal h.recvId s s')
    (hdone : s'.decoded = true) : ∃ rebuilt avail,
      s.scan = some (.done (some (rebuilt, avail))) ∧ rebuilt.length ≤ h.encoded.m ∧
        ∀ i < h.encoded.dataBytes, i / h.encoded.chunkBytes ∉ rebuilt →
          s'.link.memory.buffers h.buffer i = h.message i := by
  obtain ⟨seen, hscan, hconclude⟩ := EcTransfer.exists_conclude hopen hstep hdone
  obtain ⟨rebuilt, avail, rfl, hfew, hsame⟩ := (hd.carries_of_run hs hopen).conclude_true
    hd.countable.fits hd.divides hd.layout_chunkBytes hd.offsets hscan hconclude hdone
  rw [(totalBytes_posted hd.geometry).1] at hfew
  refine ⟨rebuilt, avail, hscan, hfew, fun i hi hnot => ?_⟩
  rw [hd.geometry.encodedChunk, ← hd.geometry.postedChunk] at hnot
  have hinside : i < h.receiver.layout.dataChunks * h.receiver.layout.chunkBytes := by
    rw [hd.geometry.postedData, hd.geometry.postedChunk, ← hd.geometry.encodedChunk]
    exact hi.trans_le hd.addressable.data
  exact (hsame i hinside hnot).trans
    (encodesIntact_of_addressable h.isal hd.addressable h.message i hi)

end Deliverable

end ECHandshake

/-! ### The sender's return -/

namespace EcTransfer

variable {isal : Isal} {s₀ s s' : EcTransfer}

/-- A transfer that came from `s₀`: over a standing connection `poll` returns 0 only after
`try_decode` has returned true. -/
structure Heard (s₀ s : EcTransfer) : Prop where
  traffic : s₀.Traffic s
  dataChunks : 0 < s.poll.sender.dataChunks
  returned : s.poll.state = .returned 0 → s.poll.connected = true → s.decoded = true

/-- Before, the receiver has only sent requests. -/
lemma Traffic.request (h : s₀.Traffic s) (hopen : s.decoded = false) {msg : ControlMessage}
    (hmsg : msg ∈ s₀.reports s) : ECSender.Request msg := by
  rcases h.report msg hmsg with ⟨hrequest, -⟩ | ⟨htype, -⟩
  · exact hrequest
  · have hmem : ControlMsgType.ecAck ∈ (s₀.reports s).map ControlMessage.msgType :=
      List.mem_map.mpr ⟨msg, hmsg, htype⟩
    have hscript := (h.asked hopen).sublist.subset hmem
    rcases List.mem_append.mp hscript with hnack | hlast
    · exact absurd (List.mem_replicate.mp hnack).2 (by decide)
    · exact absurd (List.mem_singleton.mp hlast) (by decide)

/-- A message on which `poll` returns 0 was sent by a receiver that has succeeded. -/
lemma Heard.event (h : s₀.Heard s) {e : ChannelEvent}
    (he : ∀ own msg, e = .message own msg → msg ∈ s₀.reports s) (hs : s.event e = some s') :
    0 < s'.poll.sender.dataChunks ∧
      (s'.poll.state = .returned 0 → s'.poll.connected = true → s'.decoded = true) := by
  obtain ⟨poll, hstep, rfl⟩ := Option.map_eq_some_iff.mp hs
  refine ⟨(ECPoll.step_resends hstep).dataChunks ▸ h.dataChunks, fun hreturned hconn => ?_⟩
  have hopen := ECPoll.connected_of_step hstep hconn
  have hseen : e.seen s.poll.connected = e := if_pos hopen
  by_contra hdecoded
  have hrequest : ∀ own msg, e.seen s.poll.connected = .message own msg → ECSender.Request msg :=
    fun own msg hmsg => h.traffic.request (Bool.not_eq_true _ ▸ hdecoded)
      (he own msg (hseen.symm.trans hmsg))
  rcases ECPoll.step_cases hstep with ⟨-, hcases⟩ | ⟨own, msg, allDone, -, hmsg, -, hreport, hdone⟩
  · rcases hcases hreturned with hbefore | ⟨hmain, hclosed⟩ | ⟨own, msg, -, hmsg, hack⟩
    · exact hdecoded (h.returned hbefore hopen)
    · obtain rfl := ECPoll.step_of_disconnected hclosed hstep hconn
      exact PollState.noConfusion (hmain.symm.trans hreturned)
    · rcases hack with hack | hack
      · rcases (hrequest own msg hmsg).msgType with htype | htype <;> simp [hack] at htype
      · rcases (hrequest own msg hmsg).msgType with htype | htype <;> simp [hack] at htype
  · -- a request leaves every chunk unacknowledged
    have hanswer := ECSender.onReport_request (hrequest own msg hmsg) h.traffic.acked
      h.traffic.sized
    have hsame := (Prod.mk.inj (Option.some.inj (hreport.symm.trans hanswer))).2
    rw [hdone hreturned] at hsame
    exact h.dataChunks.ne' (of_decide_eq_true hsame.symm)

lemma Heard.lossyStep (h : s₀.Heard s) (hretries : s₀.receiver.cfg.maxRetries < 2 ^ 32)
    {slot : ℕ} (hstep : LossyStep isal slot s s') : s₀.Heard s' := by
  have htraffic := h.traffic.lossyStep hretries hstep
  cases hstep with
  | lose p => exact ⟨htraffic, h.dataChunks, h.returned⟩
  | disconnect hs =>
    obtain ⟨hdata, hreturned⟩ := h.event (fun _ _ => ChannelEvent.noConfusion) hs
    exact ⟨htraffic, hdata, hreturned⟩
  | step hstep =>
    cases hstep with
    | link hl => exact ⟨htraffic, h.dataChunks, h.returned⟩
    | call idle hdecoded => exact ⟨htraffic, h.dataChunks, h.returned⟩
    | load hscan => exact ⟨htraffic, h.dataChunks, h.returned⟩
    | conclude hscan hs =>
      refine ⟨htraffic, ?_, fun hreturned hconn => ?_⟩
      · obtain ⟨result, -, rfl⟩ := Option.map_eq_some_iff.mp hs
        exact h.dataChunks
      · obtain ⟨result, -, rfl⟩ := Option.map_eq_some_iff.mp hs
        have hdecoded := h.returned hreturned hconn
        exact absurd ((h.traffic.done hdecoded).1.symm.trans hscan) (by simp)
    | deliver hmsg hs =>
      rename_i s₁ msg
      obtain ⟨hdata, hreturned⟩ := h.event (fun own msg' heq => by
        obtain ⟨-, rfl⟩ := ChannelEvent.message.inj heq
        refine List.mem_of_getElem? (i := s.consumed - s₀.link.memory.sent.length) ?_
        rw [reports, List.getElem?_drop, Nat.add_sub_cancel' h.traffic.before, hmsg]) hs
      exact ⟨htraffic, hdata, hreturned⟩
    | timeout hs =>
      obtain ⟨hdata, hreturned⟩ := h.event (fun _ _ => ChannelEvent.noConfusion) hs
      exact ⟨htraffic, hdata, hreturned⟩

lemma Heard.run (h : s₀.Heard s) (hretries : s₀.receiver.cfg.maxRetries < 2 ^ 32) {slot : ℕ}
    (hs : Relation.ReflTransGen (LossyStep isal slot) s s') : s₀.Heard s' := by
  induction hs with
  | refl => exact h
  | tail _ hstep ih => exact ih.lossyStep hretries hstep

end EcTransfer

namespace EcTransfer

/-- Two data chunks and a parity chunk of two packets each. -/
lemma samplePair_deliverable : samplePair.Deliverable where
  countable := samplePair_countable
  geometry :=
    { encodedChunk := by decide +kernel
      pollChunk := by decide +kernel
      postedChunk := by decide +kernel
      pollData := by decide +kernel
      ackedSize := by decide +kernel
      postedData := by decide +kernel
      postedStripes := by decide +kernel
      encodedParity := by decide +kernel
      postedParity := by decide +kernel }
  addressable := ⟨by decide +kernel, by decide +kernel, by decide +kernel⟩
  packets := by decide +kernel
  length := by decide +kernel

/-- When all data packets are on their way, a run without a loss ends `poll`. -/
lemma exists_returned {h : ECHandshake} (hc : h.Countable)
    (hway : ∀ c < h.receiver.layout.dataChunks, c < h.bitmaps.totalChunks ∧
      ∀ o, h.bitmaps.InChunk c o → h.transfer.link.OnTheWay o) : ∃ s,
    Relation.ReflTransGen (LossyStep h.isal h.recvId) h.transfer s ∧
      s.poll.state = .returned 0 ∧ s.poll.connected = true := by
  have hstable := h.bitmaps.stable_requesting h.buffer h.transfer.consumed
  obtain ⟨l, hl, -, hcomplete⟩ := hc.inv.link.steps_settle hc.fits hstable
  have hinv := hc.inv.linkSteps hc.fits hl
  have hsent := (hc.inv.link.steps_resting hc.fits hstable hl hc.inv.resting).2
  have hmissing : h.transfer.receiver.missingData (chunkComplete h.bitmaps.slot l.memory) = [] := by
    refine List.filter_eq_nil_iff.mpr fun c hmem => ?_
    obtain ⟨hlt, hcovered⟩ := hway c (List.mem_range.mp hmem)
    have hset : chunkComplete h.bitmaps.slot l.memory c = true :=
      (hinv.link.live.chunkComplete_iff c).mpr
        ⟨hlt, (hcomplete c hlt).mpr fun o ho => Or.inr (hcovered o ho)⟩
    simp [hset]
  have hcall := hinv.steps_call rfl rfl
    (ECReceiver.tryDecode_present hinv.listens h.isal sizeofControlMessage hmissing)
  obtain ⟨server, hserver, hfd⟩ := hinv.link.stable.server
  have hserver' : l.memory.conn.tcpServer = some server := hserver
  have hlast : (h.transfer.receiver.declareComplete h.bitmaps.slot sizeofControlMessage
      l.memory).sent = h.transfer.link.memory.sent ++ [ecMessage l.memory .ecAck] := by
    rw [← hsent]
    simp only [ECReceiver.declareComplete, ReceiverMemory.mapMessage, ReceiverMemory.sendMessage,
      hserver', TCPControlServer.sendMessage_whole hfd, if_true]
  have hack : (h.transfer.receiver.declareComplete h.bitmaps.slot sizeofControlMessage
      l.memory).sent[h.transfer.consumed]? = some (ecMessage l.memory .ecAck) := by
    rw [hlast]
    exact List.getElem?_concat_length
  have hlink : Relation.ReflTransGen (Step h.isal h.bitmaps.slot) h.transfer
      { h.transfer with link := l } :=
    hl.lift (fun l => { h.transfer with link := l }) fun _ _ hstep => .link hstep
  have hrun := Relation.ReflTransGen.mono (fun _ _ => LossyStep.step) _ _
    ((hlink.trans hcall).tail (.deliver hack rfl))
  exact ⟨_, hrun, rfl, rfl⟩

end EcTransfer

end SdrUdp
