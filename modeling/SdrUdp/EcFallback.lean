import SdrUdp.EcGeometry
import SdrUdp.Link

/-!
# Asking for missing chunks

The receiver of the erasure code asks for what is missing a number of times, the last time with an
EC_FALLBACK_SR, and the sender sends only what it is asked for.
-/

namespace SdrUdp

open SdrUdp.Core

/-! ### The receiver's side -/

namespace BitmapPair

/-- The buffer is the application's, the control connection stands, and what was sent after the
first `before` control messages are requests. -/
structure Requesting (t : BitmapPair) (b before : ℕ) (m : ReceiverMemory) : Prop where
  buffer : (m.message t.slot).bind MessageContext.buffer = some (.user b)
  server : ∃ server, m.conn.tcpServer = some server ∧ 0 ≤ server.clientFd
  before_le : before ≤ m.sent.length
  requests : ∀ msg ∈ m.sent.drop before, ECSender.Request msg

variable {t : BitmapPair} {b before : ℕ} {m m' : ReceiverMemory}

lemma Requesting.congr (h : t.Requesting b before m)
    (hbuffer : (m'.message t.slot).bind MessageContext.buffer
      = (m.message t.slot).bind MessageContext.buffer)
    (hserver : m'.conn.tcpServer = m.conn.tcpServer) (hsent : m'.sent = m.sent) :
    t.Requesting b before m' where
  buffer := hbuffer.trans h.buffer
  server := by rw [hserver]; exact h.server
  before_le := by rw [hsent]; exact h.before_le
  requests := by rw [hsent]; exact h.requests

lemma stable_requesting (t : BitmapPair) (b before : ℕ) : t.Stable (t.Requesting b before) where
  write m ptr offset data h := by
    cases ptr with
    | user b' => exact h.congr rfl rfl rfl
    | nullSink => exact h.congr rfl rfl rfl
  setReceived m o _ h := by
    refine h.congr ?_ rfl rfl
    rw [ReceiverMemory.setReceived, ReceiverMemory.message_mapMessage]
    cases m.message t.slot <;> rfl
  setChunk m c h := by
    refine h.congr ?_ rfl rfl
    rw [ReceiverMemory.mapFrontend, ReceiverMemory.message_mapMessage]
    cases m.message t.slot <;> rfl

/-- Sending a request. -/
lemma Requesting.sendMessage (h : t.Requesting b before m) {msg : ControlMessage}
    (hmsg : ECSender.Request msg) :
    t.Requesting b before (m.sendMessage msg sizeofControlMessage) ∧
      (m.sendMessage msg sizeofControlMessage).sent = m.sent ++ [msg] := by
  obtain ⟨server, hserver, hfd⟩ := h.server
  have hsent : (m.sendMessage msg sizeofControlMessage).sent = m.sent ++ [msg] := by
    simp only [ReceiverMemory.sendMessage, hserver, TCPControlServer.sendMessage_whole hfd, if_true]
  refine ⟨⟨?_, ?_, ?_, ?_⟩, hsent⟩
  · rw [m.sendMessage_message]
    exact h.buffer
  · rw [m.sendMessage_conn]
    exact h.server
  · rw [hsent, List.length_append]
    exact h.before_le.trans (Nat.le_add_right _ _)
  · rw [hsent, List.drop_append_of_le_length h.before_le]
    intro msg' hmem
    rcases List.mem_append.mp hmem with hold | hnew
    · exact h.requests msg' hold
    · rw [List.mem_singleton.mp hnew]
      exact hmsg

open Classical in
/-- The chunks that are complete once the packets of `cov` are recorded and nothing else. -/
noncomputable def arrived (t : BitmapPair) (cov : Set ℕ) (c : ℕ) : Bool :=
  decide (c < t.totalChunks ∧ ∀ o, t.InChunk c o → o ∈ cov)

lemma arrived_iff {cov : Set ℕ} {c : ℕ} :
    t.arrived cov c = true ↔ c < t.totalChunks ∧ ∀ o, t.InChunk c o → o ∈ cov := by
  simp [arrived]

lemma arrived_mono {cov cov' : Set ℕ} (h : ∀ o < t.totalPackets, o ∈ cov → o ∈ cov') {c : ℕ}
    (hc : t.arrived cov c = true) : t.arrived cov' c = true := by
  obtain ⟨hlt, hall⟩ := arrived_iff.mp hc
  exact arrived_iff.mpr ⟨hlt, fun o ho => h o ho.2.2 (hall o ho)⟩

lemma arrived_congr {cov cov' : Set ℕ} (h : ∀ o < t.totalPackets, o ∈ cov ↔ o ∈ cov') :
    t.arrived cov = t.arrived cov' := by
  funext c
  rw [Bool.eq_iff_iff, arrived_iff, arrived_iff]
  exact and_congr_right fun _ => forall₂_congr fun o ho => h o ho.2.2

/-- A chunk is found complete when its bit is set. -/
lemma Live.chunkComplete_iff (h : t.Live m) (c : ℕ) :
    chunkComplete t.slot m c = true ↔ c < t.totalChunks ∧ c ∈ t.completed m := by
  obtain ⟨msg, b, f, hmsg, hs⟩ := h.message
  have hfront : m.frontendBitmap t.slot = some f := by
    simp [ReceiverMemory.frontendBitmap, hmsg, hs.frontend]
  rw [completed_of_message hmsg hs.frontend, chunkComplete, hfront, Option.any_some, hs.chunks]
  exact FrontendBitmap.isChunkComplete_iff _ _ _

end BitmapPair

/-! ### What the requests that are left bring -/

/-- The gaps of a request for some missing chunks. -/
def requestMessage (missing : List ℕ) : ControlMessage :=
  let gaps := collapseGaps 16 missing
  { ControlMessage.zero with
    numGaps := BitVec.ofNat 16 gaps.length
    gapStart := Vector.ofFn fun i => BitVec.ofNat 16 ((gaps.map Prod.fst).getD i 0)
    gapLen := Vector.ofFn fun i => BitVec.ofNat 16 ((gaps.map Prod.snd).getD i 0) }

namespace ECReceiver

/-- The chunks of `avail` are enough to rebuild those of `missing`. -/
structure Rebuilds (r : ECReceiver) (isal : Isal) (missing avail : List ℕ) : Prop where
  enough : r.layout.k ≤ avail.length
  fit : r.matricesFit avail = true
  invertible : (isal.gfInvertMatrix (r.decodeMatrix isal avail) r.layout.k).isSome
  rows : missing.length ≤ r.layout.k

/-- Asking at most `n` times, the receiver gets what it needs, when the packets of `cov` arrive and
those of `resent msg` after a request `msg`. -/
def Recovers (r : ECReceiver) (isal : Isal) (t : BitmapPair) (resent : ControlMessage → Set ℕ) :
    ℕ → Set ℕ → Prop
  | 0, cov => r.missingData (t.arrived cov) = []
  | n + 1, cov =>
    let missing := r.missingData (t.arrived cov)
    missing = [] ∨
      (missing.length ≤ r.layout.m ∧ r.Rebuilds isal missing (r.availIdxs (t.arrived cov))) ∨
      (r.layout.m < missing.length ∧
        Recovers r isal t resent n (cov ∪ resent (requestMessage missing)))

/-- How often the receiver asks, EC_FALLBACK_SR included. -/
def requestsLeft (r : ECReceiver) : ℕ :=
  if r.fallbackActive then 0 else max 1 (r.cfg.maxRetries - r.decodeAttempts)

section Recovers

variable {r r' : ECReceiver} {isal : Isal} {t : BitmapPair} {resent : ControlMessage → Set ℕ}

lemma Recovers.congr (hlayout : r'.layout = r.layout) {n : ℕ} {cov cov' : Set ℕ}
    (hcov : ∀ o < t.totalPackets, o ∈ cov ↔ o ∈ cov') (h : r.Recovers isal t resent n cov) :
    r'.Recovers isal t resent n cov' := by
  induction n generalizing cov cov' with
  | zero =>
    simp only [Recovers, missingData, hlayout, BitmapPair.arrived_congr hcov] at h ⊢
    exact h
  | succ n ih =>
    have harrived := BitmapPair.arrived_congr hcov
    have hmissing : ∀ complete, r'.missingData complete = r.missingData complete := by
      intro complete
      rw [missingData, missingData, hlayout]
    simp only [Recovers, hmissing, ← harrived, hlayout] at h ⊢
    refine h.imp_right (Or.imp (And.imp_right fun hrebuilds => ?_) (And.imp_right fun hnext => ?_))
    · have havail : ∀ complete, r'.availIdxs complete = r.availIdxs complete := fun complete => by
        rw [availIdxs, availIdxs, hlayout]
      rw [havail]
      refine ⟨?_, ?_, ?_, ?_⟩
      · rw [hlayout]; exact hrebuilds.enough
      · rw [matricesFit, hlayout]; exact hrebuilds.fit
      · unfold decodeMatrix; rw [hlayout]; exact hrebuilds.invertible
      · rw [hlayout]; exact hrebuilds.rows
    · exact ih (fun o ho => or_congr_left (hcov o ho)) hnext

lemma Recovers.succ {n : ℕ} {cov : Set ℕ} (h : r.Recovers isal t resent n cov) :
    r.Recovers isal t resent (n + 1) cov := by
  induction n generalizing cov with
  | zero => exact Or.inl h
  | succ n ih => exact h.imp_right (Or.imp_right (And.imp_right ih))

/-- It does not hurt to be able to ask more often. -/
lemma Recovers.mono {n n' : ℕ} (hle : n ≤ n') {cov : Set ℕ} (h : r.Recovers isal t resent n cov) :
    r.Recovers isal t resent n' cov := by
  induction hle with
  | refl => exact h
  | step _ ih => exact ih.succ

end Recovers

section Calls

variable {r : ECReceiver} {id b : ℕ} {m : ReceiverMemory}

/-- A request is made of the gaps, and the last one is the EC_FALLBACK_SR. -/
lemma requestMissing_eq (r : ECReceiver) (missing : List ℕ) (answer : ℤ)
    (hserver : m.conn.tcpServer.isSome) : ∃ msg r', ECSender.Request msg ∧
      (∀ s : ECSender, s.answer msg = s.answer (requestMessage missing)) ∧
      r.requestMissing missing answer m = (r', m.sendMessage msg answer) ∧
      r'.layout = r.layout ∧ r'.recvHandle = r.recvHandle ∧
      r.requestsLeft ≤ r'.requestsLeft + 1 := by
  unfold requestMissing
  rw [Option.isNone_eq_false_iff.mpr hserver, if_neg Bool.false_ne_true]
  refine ⟨_, _, ?_, ?_, rfl, rfl, rfl, ?_⟩
  · refine ⟨?_, ?_, rfl⟩
    · simp only [ecMessage]
      split_ifs
      · exact Or.inr rfl
      · exact Or.inl rfl
    · have hle := length_collapseGaps_le 16 missing
      simp only [BitVec.toNat_ofNat]
      omega
  · exact fun s => rfl
  · have hmod := Nat.mod_le (r.decodeAttempts + 1) (2 ^ 32)
    simp only [requestsLeft]
    split_ifs <;> simp_all <;> omega

lemma tryDecode_rebuild {isal : Isal} (h : r.Listens id b m) (hfallback : r.fallbackActive = false)
    (hmissing : r.missingData (chunkComplete id m) ≠ [])
    (hfew : (r.missingData (chunkComplete id m)).length ≤ r.layout.m)
    (hrebuilds : r.Rebuilds isal (r.missingData (chunkComplete id m))
      (r.availIdxs (chunkComplete id m))) (answer : ℤ) :
    ∃ m', r.tryDecode isal answer m = some (true, r, m') := by
  rw [tryDecode_missing h isal answer hmissing, hfallback, if_neg Bool.false_ne_true,
    if_neg (not_lt.mpr hfew), if_neg (not_lt.mpr hrebuilds.enough), recover, hrebuilds.fit,
    if_neg Bool.noConfusion, Option.isNone_eq_false_iff.mpr hrebuilds.invertible,
    if_neg Bool.false_ne_true]
  rw [if_neg (not_lt.mpr hrebuilds.rows)]
  exact ⟨_, rfl⟩

lemma tryDecode_request (h : r.Listens id b m) (hfallback : r.fallbackActive = false)
    (hmany : r.layout.m < (r.missingData (chunkComplete id m)).length) (isal : Isal) (answer : ℤ) :
    r.tryDecode isal answer m
      = some (false, r.requestMissing (r.missingData (chunkComplete id m)) answer m) := by
  have hmissing : r.missingData (chunkComplete id m) ≠ [] := by
    rintro hnil
    rw [hnil] at hmany
    exact absurd hmany (Nat.not_lt_zero _)
  rw [tryDecode_missing h isal answer hmissing, hfallback, if_neg Bool.false_ne_true, if_pos hmany]

/-- A matrix that cannot be inverted changes nothing. -/
lemma recover_false {isal : Isal} {ptr : Option BufferPtr} {avail missing : List ℕ}
    {m' : ReceiverMemory} (h : r.recover isal ptr avail missing m = some (false, m')) : m' = m := by
  unfold recover at h
  by_cases hfit : r.matricesFit avail = false
  · rw [if_pos hfit] at h
    exact absurd h (by simp)
  rw [if_neg hfit] at h
  by_cases hsingular : (isal.gfInvertMatrix (r.decodeMatrix isal avail) r.layout.k).isNone = true
  · rw [if_pos hsingular] at h
    exact (Prod.mk.inj (Option.some.inj h)).2.symm
  rw [if_neg hsingular] at h
  split at h
  · split_ifs at h
    exact absurd (congrArg (Option.map Prod.fst) h) (by simp)
  · exact absurd h (by simp)

/-- A call that fails leaves everything as it is, or asks for what is missing. -/
lemma conclude_false {isal : Isal} {answer : ℤ} {seen : Option (List ℕ × List ℕ)}
    {r' : ECReceiver} {m' : ReceiverMemory}
    (h : r.conclude isal answer seen m = some (false, r', m')) :
    (r' = r ∧ m' = m) ∨ ∃ missing avail, seen = some (missing, avail) ∧ r.fallbackActive = false ∧
      r.layout.m < missing.length ∧ r.requestMissing missing answer m = (r', m') := by
  unfold conclude at h
  split at h
  · rename_i handle missing avail _
    split_ifs at h with hmissing hfallback hmany hfew
    · exact absurd (congrArg (Option.map Prod.fst) h) (by simp)
    · obtain ⟨rfl, rfl⟩ := Prod.mk.inj (Prod.mk.inj (Option.some.inj h)).2
      exact Or.inl ⟨rfl, rfl⟩
    · refine Or.inr ⟨missing, avail, rfl, Bool.eq_false_iff.mpr hfallback, hmany, ?_⟩
      exact (Prod.mk.inj (Option.some.inj h)).2
    · obtain ⟨rfl, rfl⟩ := Prod.mk.inj (Prod.mk.inj (Option.some.inj h)).2
      exact Or.inl ⟨rfl, rfl⟩
    · obtain ⟨⟨done, m₁⟩, hrecover, heq⟩ := Option.map_eq_some_iff.mp h
      obtain ⟨rfl, heq⟩ := Prod.mk.inj heq
      obtain ⟨rfl, rfl⟩ := Prod.mk.inj heq
      exact Or.inl ⟨rfl, recover_false hrecover⟩
  · obtain ⟨rfl, rfl⟩ := Prod.mk.inj (Prod.mk.inj (Option.some.inj h)).2
    exact Or.inl ⟨rfl, rfl⟩

/-- A call that succeeds has found all data chunks, or enough chunks to rebuild the others. -/
lemma conclude_true {isal : Isal} {answer : ℤ} {seen : Option (List ℕ × List ℕ)}
    {r' : ECReceiver} {m' : ReceiverMemory}
    (h : r.conclude isal answer seen m = some (true, r', m')) :
    ∃ missing avail, seen = some (missing, avail) ∧ (missing = [] ∨ r.fallbackActive = false ∧
      missing.length ≤ r.layout.m ∧ r.layout.k ≤ avail.length) := by
  unfold conclude at h
  split at h
  · rename_i handle missing avail _
    refine ⟨missing, avail, rfl, ?_⟩
    split_ifs at h with hmissing hfallback hmany hfew
    · exact Or.inl hmissing
    · exact absurd (congrArg (Option.map Prod.fst) h) (by simp)
    · exact absurd (congrArg (Option.map Prod.fst) h) (by simp)
    · exact absurd (congrArg (Option.map Prod.fst) h) (by simp)
    · exact Or.inr ⟨Bool.eq_false_iff.mpr hfallback, not_lt.mp hmany, not_lt.mp hfew⟩
  · exact absurd (congrArg (Option.map Prod.fst) h) (by simp)

end Calls

end ECReceiver

/-! ### What a call of `try_decode` reads -/

/-- The message is received, and the bits of `D` are set. -/
structure BitmapPair.LiveWith (t : BitmapPair) (D : Set ℕ) (m : ReceiverMemory) : Prop where
  live : t.Live m
  completed : ∀ c ∈ D, c < t.totalChunks ∧ c ∈ t.completed m

/-- What is seen of a chunk while the bits of `D` are set and more may follow. -/
structure BitmapPair.Sees (t : BitmapPair) (D : Set ℕ) (c : ℕ) (found : Bool)
    (m : ReceiverMemory) : Prop where
  present : found = true → c < t.totalChunks ∧ c ∈ t.completed m
  absent : found = false → c ∉ D

/-- What a call reads while the bits of `D` are set and more may follow. -/
structure ECReceiver.Reads (r : ECReceiver) (t : BitmapPair) (D : Set ℕ) (missing avail : List ℕ)
    (m : ReceiverMemory) : Prop where
  missing_sublist : missing.Sublist (List.range r.layout.dataChunks)
  absent : ∀ c ∈ missing, c ∉ D
  others : ∀ c < r.layout.dataChunks, c ∉ missing → c < t.totalChunks ∧ c ∈ t.completed m
  avail_sublist : avail.Sublist (List.range r.layout.totalChunks)
  present : ∀ c ∈ avail, c < t.totalChunks ∧ c ∈ t.completed m

section Reads

variable {t : BitmapPair} {D : Set ℕ} {m m' : ReceiverMemory}

lemma BitmapPair.Sees.mono {c : ℕ} {found : Bool} (h : t.Sees D c found m) (hgrows : t.Grows m m') :
    t.Sees D c found m' :=
  ⟨fun hfound => ⟨(h.present hfound).1, hgrows.completed (h.present hfound).2⟩, h.absent⟩

/-- A scan tells of every chunk of the list what was seen of it. -/
lemma scanChunks_meets {I : ReceiverMemory → Prop} {isComplete : ℕ → Prog ReceiverMemory Bool}
    (hlook : ∀ c m, I m → Prog.Meets I t.Grows t.Grows (t.Sees D c) (isComplete c) m)
    (complete : Bool) (l : List ℕ) {m : ReceiverMemory} (hI : I m) :
    Prog.Meets I t.Grows t.Grows (fun found m => found.Sublist l ∧
      (∀ c ∈ found, t.Sees D c complete m) ∧ ∀ c ∈ l, c ∉ found → t.Sees D c (!complete) m)
      (scanChunks isComplete complete l) m := by
  induction l generalizing m with
  | nil => exact Prog.Meets.pure fun _ _ _ => ⟨List.Sublist.refl _, by simp, by simp⟩
  | cons c l ih =>
    refine Prog.Meets.bind hI (hlook c m hI) fun found m₁ hI₁ hfound => ?_
    refine Prog.Meets.bind hI₁ (Prog.Meets.frame (fun _ _ hR h => h.mono hR)
      (fun _ _ hG h => h.mono hG) hfound (ih hI₁)) ?_
    rintro rest m₂ _ ⟨⟨hsub, hin, hout⟩, hfound⟩
    refine Prog.Meets.pure fun m₃ h₃ _ => ?_
    have hin' : ∀ c ∈ rest, t.Sees D c complete m₃ := fun c hc => (hin c hc).mono h₃
    have hout' : ∀ c ∈ l, c ∉ rest → t.Sees D c (!complete) m₃ := fun c hc hrest =>
      (hout c hc hrest).mono h₃
    by_cases heq : found = complete
    · rw [if_pos heq]
      refine ⟨hsub.cons_cons c, fun c' hc' => ?_, fun c' hc' hnot => ?_⟩
      · rcases List.mem_cons.mp hc' with rfl | hc'
        · exact heq ▸ hfound.mono h₃
        · exact hin' c' hc'
      · rw [List.mem_cons, not_or] at hnot
        exact hout' c' ((List.mem_cons.mp hc').resolve_left hnot.1) hnot.2
    · rw [if_neg heq]
      refine ⟨hsub.cons c, hin', fun c' hc' hnot => ?_⟩
      rcases List.mem_cons.mp hc' with rfl | hc'
      · rw [Bool.eq_not.mpr heq] at hfound
        exact hfound.mono h₃
      · exact hout' c' hc' hnot

/-- So does the check of one chunk. -/
lemma isChunkComplete_sees (c : ℕ) (m : ReceiverMemory) :
    Prog.Meets (t.LiveWith D) t.Grows t.Grows (t.Sees D c) (FrontendBitmap.isChunkComplete
        (fun w => Prog.load fun m => m.chunkWords t.slot w) t.totalChunks c) m := by
  unfold FrontendBitmap.isChunkComplete
  split_ifs with hge
  · exact Prog.Meets.pure fun _ _ hI => ⟨fun h => Bool.noConfusion h, fun _ hD =>
      absurd (hI.completed c hD).1 (not_lt.mpr hge)⟩
  · refine Prog.Meets.load_bind fun m₁ _ hI₁ => Prog.Meets.pure fun m₂ h₂ _ => ⟨fun h => ?_,
      fun h hD => ?_⟩
    · rw [bne_iff_ne, and_bitMask_mod_ne_zero_iff] at h
      exact ⟨not_le.mp hge, h₂.completed h⟩
    · rw [Bool.eq_false_iff, ne_eq, bne_iff_ne, and_bitMask_mod_ne_zero_iff] at h
      exact h (hI₁.completed c hD).2

/-- So a call reads what is there, however the bitmap grows meanwhile. -/
lemma ECReceiver.look_meets {r : ECReceiver} (hhandle : ∀ handle, r.recvHandle = some handle →
    handle.msgId = t.slot) (m : ReceiverMemory) :
    Prog.Meets (t.LiveWith D) t.Grows t.Grows (fun seen m => ∀ missing avail,
      seen = some (missing, avail) → r.Reads t D missing avail m) r.look m := by
  unfold look
  cases hrecv : r.recvHandle with
  | none => exact Prog.Meets.pure fun _ _ _ _ _ h => absurd h (by simp)
  | some handle =>
    have hid := hhandle handle hrecv
    refine Prog.Meets.load_bind fun m₁ _ hI₁ => ?_
    obtain ⟨msg, b, f, hmsg, hs⟩ := hI₁.live.message
    have hfront : m₁.frontendBitmap t.slot = some f := by
      simp [ReceiverMemory.frontendBitmap, hmsg, hs.frontend]
    simp only [hid, hfront, hs.chunks]
    have hscan := fun (complete : Bool) (l : List ℕ) {m : ReceiverMemory} (hI : t.LiveWith D m) =>
      scanChunks_meets (fun c m _ => isChunkComplete_sees (t := t) (D := D) c m) complete l hI
    refine Prog.Meets.bind hI₁ (hscan false _ hI₁) ?_
    rintro missing m₂ hI₂ ⟨hsub, hin, hout⟩
    have hothers : ∀ c < r.layout.dataChunks, c ∉ missing →
        c < t.totalChunks ∧ c ∈ t.completed m₂ := fun c hc hnot =>
      (hout c (List.mem_range.mpr hc) hnot).present rfl
    have hgrow : ∀ m₃, t.Grows m₂ m₃ → ∀ c < r.layout.dataChunks, c ∉ missing →
        c < t.totalChunks ∧ c ∈ t.completed m₃ := fun m₃ h₃ c hc hnot =>
      (hothers c hc hnot).imp_right fun hset => h₃.completed hset
    split_ifs
    · refine Prog.Meets.pure fun m₃ h₃ _ missing' avail h => ?_
      obtain ⟨rfl, rfl⟩ := Prod.mk.inj (Option.some.inj h)
      exact ⟨hsub, fun c hc => (hin c hc).absent rfl, hgrow m₃ h₃, List.nil_sublist _, by simp⟩
    · refine Prog.Meets.bind hI₂ (Prog.Meets.frame (P := fun m : ReceiverMemory =>
        ∀ c < r.layout.dataChunks, c ∉ missing → c < t.totalChunks ∧ c ∈ t.completed m) ?_ ?_
          hothers (hscan true _ hI₂)) ?_
      · exact fun _ _ hR h c hc hnot => (h c hc hnot).imp_right fun hset => hR.completed hset
      · exact fun _ _ hG h c hc hnot => (h c hc hnot).imp_right fun hset => hG.completed hset
      · rintro avail m₃ _ ⟨⟨hsub', hin', -⟩, hothers'⟩
        refine Prog.Meets.pure fun m₄ h₄ _ missing' avail' h => ?_
        obtain ⟨rfl, rfl⟩ := Prod.mk.inj (Option.some.inj h)
        refine ⟨hsub, fun c hc => (hin c hc).absent rfl, fun c hc hnot => ?_, hsub', fun c hc => ?_⟩
        · exact (hothers' c hc hnot).imp_right fun hset => h₄.completed hset
        · exact ((hin' c hc).mono h₄).present rfl

/-- A call only loads until it acts. -/
lemma ECReceiver.look_straight (r : ECReceiver) : Prog.Straight (· = id) r.look := by
  have hscan : ∀ (isComplete : ℕ → Prog ReceiverMemory Bool),
      (∀ c, Prog.Straight (· = id) (isComplete c)) → ∀ (complete : Bool) (l : List ℕ),
        Prog.Straight (· = id) (scanChunks isComplete complete l) := by
    intro isComplete hlook complete l
    induction l with
    | nil => exact Prog.Straight.pure _
    | cons c l ih =>
      exact Prog.Straight.bind (hlook c) fun _ =>
        Prog.Straight.bind ih fun _ => Prog.Straight.pure _
  unfold look
  cases r.recvHandle with
  | none => exact Prog.Straight.pure _
  | some handle =>
    refine Prog.Straight.bind (Prog.Straight.load rfl
      (ReceiverMemory.frontendBitmap handle.msgId)) fun front => ?_
    cases front with
    | none => exact Prog.Straight.pure _
    | some front =>
      have hlook : ∀ c, Prog.Straight (· = id) (FrontendBitmap.isChunkComplete (fun w =>
          Prog.load fun m : ReceiverMemory => m.chunkWords handle.msgId w) front.totalChunks c) :=
        FrontendBitmap.isChunkComplete_straight (A := (· = id)) rfl _ _
      refine Prog.Straight.bind (hscan _ hlook _ _) fun missing => ?_
      split_ifs
      · exact Prog.Straight.pure _
      · exact Prog.Straight.bind (hscan _ hlook _ _) fun _ => Prog.Straight.pure _

end Reads

/-! ### The sender's side -/

namespace ECPoll

/-- The packets that are sent for a request. -/
def resent (p : ECPoll) (msg : ControlMessage) : List SDRPacket :=
  if p.state = .main then p.sender.answer msg else []

/-- Their offsets. -/
def resends (p : ECPoll) (msg : ControlMessage) : Set ℕ :=
  {o | ∃ q ∈ p.resent msg, q.header.packetOffset.toNat = o}

/-- The poll after a request. It returns at once when it counts no data chunks. -/
def answered (p : ECPoll) (msg : ControlMessage) : ECPoll :=
  if p.state = .main then
    { p with
      sender := p.sender.emit (p.sender.answer msg)
      state := if p.sender.dataChunks = 0 then .returned 0 else .main }
  else p

/-- The poll of a sender that serves the message `t` and has had no acknowledgement. -/
structure Serves (t : BitmapPair) (p : ECPoll) : Prop where
  transferId : p.sender.params.transferId = t.generation
  msgId : p.sender.handle.msgId = t.slot
  acked : ∀ acked ∈ p.sender.chunkAcked, acked = false
  sized : p.sender.dataChunks ≤ p.sender.chunkAcked.length
  connected : p.connected = true

variable {t : BitmapPair} {p p' : ECPoll} {event : ChannelEvent} {msg : ControlMessage}

lemma answered_sent (p : ECPoll) (msg : ControlMessage) :
    (p.answered msg).sender.sent = p.sender.sent ++ p.resent msg := by
  unfold answered resent
  split_ifs <;> simp [ECSender.emit]

/-- Requests are answered alike, again and again. -/
lemma answered_resent (p : ECPoll) (msg : ControlMessage) : (p.answered msg).resent = p.resent := by
  funext msg'
  by_cases hmain : p.state = .main
  · by_cases hzero : p.sender.dataChunks = 0
    · simp [resent, answered, hmain, hzero, ECSender.answer_eq_nil hzero]
    · simp [resent, answered, hmain, hzero]
  · simp [resent, answered, hmain]

lemma answered_resends (p : ECPoll) (msg : ControlMessage) :
    (p.answered msg).resends = p.resends := by
  funext msg'
  rw [resends, resends, answered_resent]

lemma resends_of_ne_main (hstate : p.state ≠ .main) (msg : ControlMessage) : p.resends msg = ∅ := by
  simp [resends, resent, hstate]

lemma Serves.answered (h : p.Serves t) (msg : ControlMessage) : (p.answered msg).Serves t := by
  unfold ECPoll.answered
  by_cases hmain : p.state = .main
  · rw [if_pos hmain]
    exact ⟨h.transferId, h.msgId, h.acked, h.sized, h.connected⟩
  · rw [if_neg hmain]
    exact h

/-- The receiver accepts what is sent. -/
lemma Serves.accepts (h : p.Serves t) (hslot : t.slot < ConnectionContext.maxMessages) :
    ∀ q ∈ p.resent msg, t.Accepts q := by
  intro q hq
  unfold resent at hq
  split_ifs at hq
  · obtain ⟨i, -, hq⟩ := List.mem_flatMap.mp hq
    obtain ⟨c, -, hq⟩ := List.mem_flatMap.mp hq
    obtain ⟨o, -, hq⟩ := List.mem_filterMap.mp hq
    rw [h.transferId, h.msgId] at hq
    exact BitmapPair.accepts_of_dataPacket hslot (min_le_right _ _) hq
  · exact absurd hq (by simp)

/-- A request is answered from the loop of `poll`, and skipped in the loop of `sdr_send_poll`. -/
lemma Serves.step_request (h : p.Serves t) (hmsg : ECSender.Request msg) (own : Bool) :
    p.step (.message own msg) = some (p.answered msg) := by
  have hacked := h.acked
  have hsize := h.sized
  have hconn := h.connected
  clear h
  obtain ⟨sender, connected, state⟩ := p
  obtain rfl : connected = true := hconn
  have hseen : ChannelEvent.seen (.message own msg) true = .message own msg := if_pos rfl
  simp only [step, hseen, ECPoll.answered]
  cases state with
  | returned rc => simp
  | sendPoll afterTimeout =>
    rcases hmsg.msgType with htype | htype
    · simp [sendPollRound, htype, ChannelEvent.keepsConnection]
    · simp [sendPollRound, htype, ChannelEvent.keepsConnection]
  | main =>
    have hreport := ECSender.onReport_request hmsg hacked hsize
    rcases hmsg.msgType with htype | htype
    · simp [htype, hreport, afterReport, ChannelEvent.keepsConnection]
    · simp [htype, hreport, afterReport, ChannelEvent.keepsConnection]

/-- A timeout leads into the loop of `sdr_send_poll`, and nothing but a message or the loss of the
connection out of it. -/
lemma Serves.step_timeout (h : p.Serves t) : ∃ state, p.step .timeout = some { p with state } ∧
    state ≠ .main := by
  have hconn := h.connected
  clear h
  obtain ⟨sender, connected, state⟩ := p
  obtain rfl : connected = true := hconn
  have hseen : ChannelEvent.seen .timeout true = .timeout := if_pos rfl
  simp only [step, hseen]
  cases state with
  | returned rc => exact ⟨_, rfl, by simp⟩
  | sendPoll afterTimeout => exact ⟨_, rfl, by simp⟩
  | main => exact ⟨_, rfl, by simp [enterSendPoll, ChannelEvent.keepsConnection]⟩

/-- Only a poll that has returned does not notice that the connection is closed. -/
lemma step_of_disconnected (hseen : event.seen p.connected = .disconnected)
    (hstep : p.step event = some p') (hconn : p'.connected = true) : p' = p := by
  obtain ⟨sender, connected, state⟩ := p
  dsimp only at hseen
  simp only [step, hseen, ChannelEvent.keepsConnection] at hstep
  cases state with
  | returned rc => exact (Option.some.inj hstep).symm
  | sendPoll afterTimeout =>
    simp only [sendPollRound, Int.reduceNeg, Int.reduceEq, if_false] at hstep
    exact absurd hconn (by simp [← Option.some.inj hstep])
  | main => exact absurd hconn (by simp [← Option.some.inj hstep])

/-- A closed connection stays closed. -/
lemma connected_of_step (hstep : p.step event = some p') (hconn : p'.connected = true) :
    p.connected = true := by
  by_contra hclosed
  have hsame := step_of_disconnected (if_neg hclosed) hstep hconn
  exact hclosed (hsame ▸ hconn)

end ECPoll

end SdrUdp
