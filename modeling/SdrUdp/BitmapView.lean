import SdrUdp.BitmapPair

/-!
# The bitmap that the application reads

`sdr_recv_bitmap_get` hands out the words of the chunk bitmap themselves. The application looks at
them byte by byte, while the workers and the poller go on.
-/

namespace SdrUdp

open SdrUdp.Core

/-- `sdr_recv_bitmap_get`: the length in bytes; the pointer is that of the words. -/
def sdrRecvBitmapGet (handle : SDRRecvHandle) (m : ReceiverMemory) : Option ℕ :=
  (m.frontendBitmap handle.msgId).map fun f => f.numWords * 8

/-- Byte `i` behind the pointer. -/
def bitmapByte (handle : SDRRecvHandle) (i : ℕ) (m : ReceiverMemory) : U8 :=
  byteAt (m.chunkWords handle.msgId) i

/-- The chunk bitmap in a slot has `n` words. -/
def SizedAs (slot n : ℕ) (m : ReceiverMemory) : Prop :=
  ∀ f, m.frontendBitmap slot = some f → f.numWords = n

section SizedAs

variable {slot n : ℕ} {m m' : ReceiverMemory}

lemma SizedAs.of_frontend (h : SizedAs slot n m)
    (hsame : m'.frontendBitmap slot = m.frontendBitmap slot) : SizedAs slot n m' := by
  rw [SizedAs, hsame]
  exact h

lemma SizedAs.of_message (h : SizedAs slot n m) (hsame : m'.message slot = m.message slot) :
    SizedAs slot n m' :=
  h.of_frontend (congrArg (Option.bind · MessageContext.frontendBitmap) hsame)

lemma SizedAs.mapFrontend (h : SizedAs slot n m) {g : FrontendBitmap → FrontendBitmap}
    (hg : ∀ f, (g f).numWords = f.numWords) (id : ℕ) : SizedAs slot n (m.mapFrontend id g) := by
  by_cases hid : slot = id
  · subst hid
    intro f hf
    rw [ReceiverMemory.frontendBitmap, ReceiverMemory.mapFrontend,
      ReceiverMemory.message_mapMessage] at hf
    cases hmsg : m.message slot with
    | none => simp [hmsg] at hf
    | some msg =>
      rw [hmsg] at hf
      obtain ⟨f', hf', rfl⟩ := Option.map_eq_some_iff.mp hf
      rw [hg]
      exact h f' (by rw [ReceiverMemory.frontendBitmap, hmsg]; exact hf')
  · exact h.of_message (ReceiverMemory.message_mapMessage_of_ne hid _ m)

/-- No action of the receiver's threads resizes a bitmap. -/
lemma ReceiverAction.sizedAs {act : ReceiverMemory → ReceiverMemory} (hact : ReceiverAction act)
    (h : SizedAs slot n m) : SizedAs slot n (act m) := by
  cases hact with
  | skip => exact h
  | write ptr offset data =>
    cases ptr with
    | user b => exact h
    | nullSink => exact h
  | setReceived id o => exact h.of_frontend (ReceiverMemory.frontendBitmap_setReceived _ _ _ m)
  | setChunk id c =>
    refine h.mapFrontend ?_ id
    exact fun _ => rfl
  | stop id =>
    refine h.mapFrontend ?_ id
    exact fun _ => rfl
  | leave id =>
    refine h.mapFrontend ?_ id
    exact fun _ => rfl
  | retire id =>
    by_cases hid : id < ConnectionContext.maxMessages
    · refine h.of_frontend ?_
      rw [ReceiverMemory.completeMessage_of_lt hid]
      refine ReceiverMemory.frontendBitmap_mapMessage ?_ slot id m
      exact fun _ => rfl
    · rw [ReceiverMemory.completeMessage_of_ge (not_lt.mp hid)]
      exact h
  | verdict isComplete answer => exact h.of_message (m.sendMessage_message _ answer slot)

/-- No program of the receiver's threads resizes a bitmap. -/
lemma sizedAs_meets {p : Prog ReceiverMemory PUnit} (hp : Prog.Uses ReceiverAction p)
    {R : ReceiverMemory → ReceiverMemory → Prop} (m : ReceiverMemory) :
    Prog.Meets (SizedAs slot n) R (fun _ _ => True) (fun _ _ => True) p m :=
  hp.meets (fun _ hact _ h => ⟨hact.sizedAs h, trivial⟩) m

end SizedAs

namespace BitmapPair

variable {t : BitmapPair} {delivered : Set ℕ} {m₀ m : ReceiverMemory} {n : ℕ}

/-- Nor does a report. -/
lemma pumpable_sizedAs (hfits : t.Fits) (delivered : Set ℕ) (m₀ : ReceiverMemory) (n : ℕ)
    (answer : ℤ) : Pumpable t.slot t.totalChunks answer
      (fun m => t.Inv delivered m₀ m ∧ SizedAs t.slot n m) t.Grows t.Grows where
  message m h := (pumpable_inv hfits delivered m₀ answer).message m h.1
  rely _ _ h := h.completed
  guarantee _ _ h := h.completed
  clock m last h := by
    obtain ⟨hinv, hgrows⟩ := (pumpable_inv hfits delivered m₀ answer).clock m last h.1
    exact ⟨⟨hinv, h.2⟩, hgrows⟩
  send m report h hreport := by
    obtain ⟨hinv, hgrows⟩ := (pumpable_inv hfits delivered m₀ answer).send m report h.1 hreport
    exact ⟨⟨hinv, h.2.of_message (m.sendMessage_message report answer t.slot)⟩, hgrows⟩

/-- Every thread keeps the pair and the size of its chunk bitmap. -/
lemma program_meets_sized (hfits : t.Fits) (th : Thread) (p : Prog ReceiverMemory PUnit)
    (m : ReceiverMemory) (hp : BitmapProgram t delivered th p)
    (hI : t.Inv delivered m₀ m ∧ SizedAs t.slot n m) :
    Prog.Meets (fun m => t.Inv delivered m₀ m ∧ SizedAs t.slot n m) t.Grows t.Grows
      (fun _ _ => True) p m := by
  have hboth : Prog.Uses ReceiverAction p → Prog.Meets
      (fun m => t.Inv delivered m₀ m ∧ SizedAs t.slot n m) t.Grows t.Grows
        (fun _ _ => True) p m := by
    intro huses
    refine (((program_meets hfits th p m hp hI.1).and (fun _ _ h => h) (fun _ _ h => h)
      (sizedAs_meets huses m)).weaken fun _ _ h => h.1).mono ?_
    exact fun _ _ _ _ => trivial
  cases hp with
  | setReceived i o h => exact hboth (Prog.Uses.modify (.setReceived t.slot o))
  | packet i header payload h =>
    exact hboth ((processPacket_straight header payload).mono WorkerAction.receiverAction).uses
  | pass => exact hboth (updateChunkBitmap_straight .skip (.setChunk t.slot) _ _ _ _ _).uses
  | poll => exact hboth (pollingRound_uses t.slot)
  | pump i cfg handle hid now answer =>
    exact Prog.Meets.bind hI ((pumpable_sizedAs hfits delivered m₀ n answer).pump_meets
      hfits.totalChunks_lt cfg handle hid now m) fun _ _ _ _ => Prog.Meets.pure fun _ _ _ => trivial
  | complete i handle hid answer =>
    exact hboth ((sdrRecvComplete_uses handle answer).mono CompletionAction.receiverAction)

lemma rely_sized (th th' : Thread) (m m' : ReceiverMemory) (_ : th ≠ th')
    (_ : t.Inv delivered m₀ m ∧ SizedAs t.slot n m)
    (_ : t.Inv delivered m₀ m' ∧ SizedAs t.slot n m') (h : t.Grows m m') : t.Grows m m' := h

/-- The chunk bitmap of a post has a bit for every chunk. -/
lemma Built.sizedAs (h : t.Built m) (hwords : t.totalChunks + 63 < 2 ^ 32) :
    SizedAs t.slot ((t.totalChunks + 63) / 64) m := by
  obtain ⟨msg, hmsg, hs⟩ := h
  intro f hf
  rw [ReceiverMemory.frontendBitmap, hmsg, Option.bind_some, hs.frontend] at hf
  rw [← Option.some.inj hf]
  change (t.totalChunks + 63) % 2 ^ 32 / 64 = _
  rw [Nat.mod_eq_of_lt hwords]

lemma sdrRecvBitmapGet_eq (hI : t.Inv delivered m₀ m) (hsized : SizedAs t.slot n m)
    {handle : SDRRecvHandle} (hid : handle.msgId = t.slot) :
    sdrRecvBitmapGet handle m = some (n * 8) := by
  obtain ⟨msg, b, f, hmsg, hs⟩ := hI.shape
  have hf : m.frontendBitmap t.slot = some f := by
    rw [ReceiverMemory.frontendBitmap, hmsg, Option.bind_some, hs.frontend]
  rw [sdrRecvBitmapGet, hid, hf, Option.map_some, hsized f hf]

/-! ### A look at the bitmap -/

section Look

variable {states : ℕ → Pool Thread ReceiverMemory} {handle : SDRRecvHandle}

/-- The bit of chunk `c`, where byte `i` is read in `states i`. -/
def shown (states : ℕ → Pool Thread ReceiverMemory) (handle : SDRRecvHandle) (c : ℕ) : Bool :=
  (bitmapByte handle (c / 8) (states (c / 8)).memory).getLsbD (c % 8)

lemma shown_iff (hid : handle.msgId = t.slot) (c : ℕ) :
    shown states handle c = true ↔ c ∈ t.completed (states (c / 8)).memory := by
  rw [shown, bitmapByte, hid]
  exact getLsbD_byteAt _ c

/-- The number of ones among the first `n` bits grows with the set and with `n`. -/
lemma countP_range_le {p q : ℕ → Bool} {k l : ℕ}
    (h : ∀ c < k, p c = true → c < l ∧ q c = true) :
    (List.range k).countP p ≤ (List.range l).countP q := by
  rw [List.countP_eq_length_filter, List.countP_eq_length_filter]
  refine (List.Nodup.subperm (List.nodup_range.filter p) fun c hc => ?_).length_le
  rw [List.mem_filter, List.mem_range] at hc ⊢
  exact h c hc.1 hc.2

/-- `get_total_chunks_completed` where nothing interferes. -/
lemma getTotalChunksCompleted_eq (m : ReceiverMemory) :
    FrontendBitmap.getTotalChunksCompleted (m := Id) (m.chunkWords t.slot) t.totalChunks
      = (List.range t.totalChunks).countP fun c =>
          FrontendBitmap.isChunkComplete (m := Id) (m.chunkWords t.slot) t.totalChunks c := by
  rw [FrontendBitmap.getTotalChunksCompleted, FrontendBitmap.countCompleted_eq_countP,
    List.range_eq_range']

/-- An application that reads the bitmap byte by byte, whatever happens in between, always gets the
same length, and nobody leaves the bitmaps. The chunks that it sees are complete in the packet
bitmap, and those that were marked before the first byte are among them; so the ones it counts lie
between the totals before and after. -/
theorem bitmap_view (hfits : t.Fits) (hroom : t.Roomy) (hbuilt : t.Built m₀)
    (hid : handle.msgId = t.slot)
    (hstart : Pool.Reachable (BitmapProgram t Set.univ) m₀ (states 0))
    (hsteps : ∀ i, Relation.ReflTransGen (Pool.Step (BitmapProgram t Set.univ)) (states i)
      (states (i + 1))) :
    let len := (t.totalChunks + 63) / 64 * 8
    let total : ℕ → ℕ := fun i => FrontendBitmap.getTotalChunksCompleted (m := Id)
      ((states i).memory.chunkWords t.slot) t.totalChunks
    (∀ i, t.InBounds (states i).memory) ∧
    (∀ i, sdrRecvBitmapGet handle (states i).memory = some len) ∧
    (∀ c, shown states handle c = true → c < t.totalChunks ∧
      ∀ o, t.InChunk c o → o ∈ t.received (states (c / 8)).memory) ∧
    (∀ c ∈ t.completed (states 0).memory, shown states handle c = true) ∧
    total 0 ≤ (List.range (len * 8)).countP (shown states handle) ∧
    (List.range (len * 8)).countP (shown states handle) ≤ total len := by
  intro len total
  have hsized :=
    hbuilt.sizedAs (lt_of_le_of_lt (Nat.add_le_add_right hfits.totalChunks_le 63) hroom)
  have hmeeting : ∀ i, (states i).Meeting
      (fun m => t.Inv Set.univ m₀ m ∧ SizedAs t.slot ((t.totalChunks + 63) / 64) m)
      (fun _ => t.Grows) (fun _ => t.Grows) := by
    intro i
    induction i with
    | zero =>
      refine Pool.Meeting.steps rely_sized (program_meets_sized hfits) ?_ hstart
      exact Pool.meeting_start ⟨hbuilt.inv Set.univ, hsized⟩
    | succ i ih => exact ih.steps rely_sized (program_meets_sized hfits) (hsteps i)
  have hmono : Monotone fun i => t.completed (states i).memory :=
    monotone_nat_of_le_succ fun i => ((hmeeting i).steps_rel (P := t.Grows) rely_sized
      (program_meets_sized hfits) (fun _ _ _ h => h) (hsteps i)).completed
  have hchunk : ∀ i, ∀ c ∈ t.completed (states i).memory, c < t.totalChunks := fun i c hc =>
    ((hmeeting i).1.1.chunks c hc).1
  have hcount : ∀ i c, FrontendBitmap.isChunkComplete (m := Id)
      ((states i).memory.chunkWords t.slot) t.totalChunks c = true ↔
        c < t.totalChunks ∧ c ∈ t.completed (states i).memory := fun i c =>
    FrontendBitmap.isChunkComplete_iff _ _ _
  have htotal : ∀ i, total i = (List.range t.totalChunks).countP fun c =>
      FrontendBitmap.isChunkComplete (m := Id) ((states i).memory.chunkWords t.slot)
        t.totalChunks c := fun i => getTotalChunksCompleted_eq _
  refine ⟨fun i => (hmeeting i).1.1.inBounds hfits hroom,
    fun i => sdrRecvBitmapGet_eq (hmeeting i).1.1 (hmeeting i).1.2 hid, fun c hc => ?_,
    fun c hc => ?_, ?_, ?_⟩
  · exact (hmeeting (c / 8)).1.1.chunks c ((shown_iff hid c).mp hc)
  · exact (shown_iff hid c).mpr (hmono (Nat.zero_le _) hc)
  · rw [htotal]
    refine countP_range_le fun c hc hbit => ⟨by omega, ?_⟩
    exact (shown_iff hid c).mpr (hmono (Nat.zero_le _) ((hcount 0 c).mp hbit).2)
  · rw [htotal]
    refine countP_range_le fun c hc hbit => ?_
    have hmem := (shown_iff hid c).mp hbit
    refine ⟨hchunk _ c hmem, (hcount len c).mpr ⟨hchunk _ c hmem, hmono ?_ hmem⟩⟩
    omega

end Look

/-- The memory after a post of five bytes in packets of two bytes and chunks of two packets. -/
def fivePosted : ReceiverMemory :=
  (recvPostOnOffer .idle 0 1 0 5
    { desiredParams .zero 5 with mtuBytes := 2, packetsPerChunk := 2 } true
    sizeofControlMessage).2

/-- A worker records the packets one after the other, then the poller makes a pass. -/
def recordAndPass (packets : List ℕ) : List (Thread × Option (Prog ReceiverMemory PUnit)) :=
  packets.flatMap (fun o =>
    [(.worker 0, some (Prog.modify (ReceiverMemory.setReceived 0 o))), (.worker 0, none)])
    ++ (.poller, some (updateChunkBitmap 0 3 2 2 2 0)) :: List.replicate 6 (.poller, none)

/-- The application reads the first byte when packets 0 and 1 have been recorded and the others when
packet 2 has been recorded as well. -/
def fiveStates : ℕ → Pool Thread ReceiverMemory
  | 0     => Pool.play (recordAndPass [0, 1]) (.start fivePosted)
  | _ + 1 => Pool.play (recordAndPass [2])
      (Pool.play (recordAndPass [0, 1]) (.start fivePosted))

lemma allowed_recordAndPass (packets : List ℕ) : ∀ th p, (th, some p) ∈ recordAndPass packets →
    BitmapProgram ⟨0, 1, 3, 2⟩ Set.univ th p := by
  intro th p hp
  simp only [recordAndPass, List.mem_append, List.mem_flatMap, List.mem_cons, List.mem_replicate,
    Prod.mk.injEq, Option.some.injEq, reduceCtorEq, and_false, or_false, List.not_mem_nil] at hp
  rcases hp with ⟨o, -, rfl, rfl⟩ | ⟨rfl, rfl⟩
  · exact .setReceived 0 o (Set.mem_univ o)
  · exact .pass

/-- Two chunks take one word. The first one is seen, and all that is seen is there. -/
theorem bitmap_view_five :
    (∀ i, sdrRecvBitmapGet ⟨0, 1, 0, 5⟩ (fiveStates i).memory = some 8) ∧
    shown fiveStates ⟨0, 1, 0, 5⟩ 0 = true ∧
    (∀ c, shown fiveStates ⟨0, 1, 0, 5⟩ c = true → c < 2 ∧ ∀ o, InChunk ⟨0, 1, 3, 2⟩ c o →
      o ∈ received ⟨0, 1, 3, 2⟩ (fiveStates (c / 8)).memory) ∧
    1 ≤ (List.range 64).countP (shown fiveStates ⟨0, 1, 0, 5⟩) ∧
    (List.range 64).countP (shown fiveStates ⟨0, 1, 0, 5⟩) ≤ 2 := by
  have hfits : Fits ⟨0, 1, 3, 2⟩ := ⟨by decide, by decide, by decide, by decide⟩
  have hsteps : ∀ i, Relation.ReflTransGen (Pool.Step (BitmapProgram ⟨0, 1, 3, 2⟩ Set.univ))
      (fiveStates i) (fiveStates (i + 1)) := by
    intro i
    cases i with
    | zero => exact Pool.steps_play (allowed_recordAndPass [2]) _
    | succ i => exact .refl
  have hstart : Pool.Reachable (BitmapProgram ⟨0, 1, 3, 2⟩ Set.univ) fivePosted (fiveStates 0) :=
    Pool.steps_play (allowed_recordAndPass [0, 1]) _
  have hid : SDRRecvHandle.msgId ⟨0, 1, 0, 5⟩ = slot ⟨0, 1, 3, 2⟩ := rfl
  have hbuilt : Built ⟨0, 1, 3, 2⟩ fivePosted := built_five
  have hroom : Roomy ⟨0, 1, 3, 2⟩ := by
    rw [Roomy]
    decide
  obtain ⟨-, hlen, hseen, hmarked, hlow, hhigh⟩ :=
    bitmap_view hfits hroom hbuilt hid hstart hsteps
  have hbefore : @Eq ℕ (FrontendBitmap.getTotalChunksCompleted (m := Id)
      ((fiveStates 0).memory.chunkWords 0) 2) 1 := by decide +kernel
  have hafter : @Eq ℕ (FrontendBitmap.getTotalChunksCompleted (m := Id)
      ((fiveStates 8).memory.chunkWords 0) 2) 2 := by decide +kernel
  refine ⟨hlen, hmarked 0 ?_, hseen, hbefore.symm.le.trans hlow, hhigh.trans hafter.le⟩
  rw [completed, mem_bits]
  decide +kernel

end BitmapPair

end SdrUdp
