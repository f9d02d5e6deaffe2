import SdrUdp.Core.Runs
import SdrUdp.EcDecode
import SdrUdp.SrAtRest
import SdrUdp.SrBounds

/-!
# Gap lists

`SRReceiver::pump` and `ECReceiver::try_decode` report missing chunks as runs with a start and a
length of 16 bits each. Longer runs and later chunks come out as something else.
-/

namespace SdrUdp

open SdrUdp.Core

/-! ### Reading a gap list -/

/-- The gaps of a message as `SRSender::poll` reads them, with start and length. -/
def decodedGaps (msg : ControlMessage) : List (ℕ × ℕ) :=
  ((SRSender.listedGaps msg).take msg.numGaps.toNat).map fun gap => (gap.1.toNat, gap.2.toNat)

/-- The chunks from `gap_start[i]` to `gap_start[i] + gap_len[i] - 1`, gap by gap. -/
def listedChunks (msg : ControlMessage) : List ℕ :=
  (decodedGaps msg).flatMap fun gap => List.range' gap.1 gap.2

/-- A message lists the first `limit` maximal runs of missing chunks. -/
structure ExactGaps (missing : ℕ → Bool) (total limit : ℕ) (msg : ControlMessage) : Prop where
  first : decodedGaps msg = (maximalRuns missing total).take limit
  maximal : ∀ gap ∈ decodedGaps msg, IsMaximalRun missing 0 total gap
  increasing : (decodedGaps msg).Pairwise fun gap gap' => gap.1 + gap.2 < gap'.1
  missing : ∀ c ∈ listedChunks msg, missing c = true

/-- The run fits into the fields of a gap. -/
def FitsGap (run : ℕ × ℕ) : Prop := run.1 < 2 ^ 16 ∧ run.2 < 2 ^ 16

/-- Both ends compare a whole list; the rest follows from what maximal runs are. -/
lemma exactGaps_iff_first {missing : ℕ → Bool} {total limit : ℕ} {msg : ControlMessage} :
    ExactGaps missing total limit msg ↔
      decodedGaps msg = (maximalRuns missing total).take limit := by
  constructor
  · exact ExactGaps.first
  · intro h
    have hmax : ∀ gap ∈ decodedGaps msg, IsMaximalRun missing 0 total gap := by
      intro gap hgap
      rw [h] at hgap
      have hrun := mem_runsFrom_iff.mp (List.mem_of_mem_take hgap)
      rwa [Nat.zero_add] at hrun
    refine ⟨h, hmax, ?_, fun c hc => ?_⟩
    · rw [h]
      exact (runsFrom_pairwise total 0).take
    · obtain ⟨gap, hgap, hin⟩ := List.mem_flatMap.mp hc
      obtain ⟨hle, hlt⟩ := List.mem_range'_1.mp hin
      exact (hmax gap hgap).holds c hle hlt

/-- Whatever a message lists fits into its fields. -/
lemma fitsGap_of_decoded {msg : ControlMessage} {gap : ℕ × ℕ} (h : gap ∈ decodedGaps msg) :
    FitsGap gap := by
  obtain ⟨raw, -, rfl⟩ := List.mem_map.mp h
  exact ⟨raw.1.isLt, raw.2.isLt⟩

/-- The gap fields of a message hold a list, each number cut to 16 bits. -/
structure HoldsGaps (msg : ControlMessage) (gaps : List (ℕ × ℕ)) : Prop where
  length_le : gaps.length ≤ 16
  numGaps : msg.numGaps = BitVec.ofNat 16 gaps.length
  gapStart : msg.gapStart = Vector.ofFn fun i => BitVec.ofNat 16 ((gaps.map Prod.fst).getD i 0)
  gapLen : msg.gapLen = Vector.ofFn fun i => BitVec.ofNat 16 ((gaps.map Prod.snd).getD i 0)

lemma HoldsGaps.decoded {msg : ControlMessage} {gaps : List (ℕ × ℕ)} (h : HoldsGaps msg gaps) :
    decodedGaps msg = gaps.map fun gap => (gap.1 % 2 ^ 16, gap.2 % 2 ^ 16) := by
  have hlength := h.length_le
  have hnum : msg.numGaps.toNat = gaps.length := by
    rw [h.numGaps, BitVec.toNat_ofNat, Nat.mod_eq_of_lt (by omega)]
  refine List.ext_getElem ?_ fun i hi hi' => ?_
  · simp [decodedGaps, SRSender.length_listedGaps, hnum, hlength]
  · have hlt : i < gaps.length := by simpa using hi'
    simp [decodedGaps, SRSender.listedGaps, h.gapStart, h.gapLen, hlt]

lemma HoldsGaps.decoded_of_fits {msg : ControlMessage} {gaps : List (ℕ × ℕ)}
    (h : HoldsGaps msg gaps) (hfits : ∀ gap ∈ gaps, FitsGap gap) : decodedGaps msg = gaps := by
  rw [h.decoded]
  refine (List.map_congr_left fun gap hgap => ?_).trans (List.map_id gaps)
  obtain ⟨hstart, hlen⟩ := hfits gap hgap
  rw [Nat.mod_eq_of_lt hstart, Nat.mod_eq_of_lt hlen]
  rfl

/-- A message that holds the first runs when these fit lists them exactly when they do. -/
lemma exactGaps_iff_fits {missing : ℕ → Bool} {total limit : ℕ} {msg : ControlMessage}
    (h : (∀ run ∈ (maximalRuns missing total).take limit, FitsGap run) →
      HoldsGaps msg ((maximalRuns missing total).take limit)) :
    ExactGaps missing total limit msg ↔
      ∀ run ∈ (maximalRuns missing total).take limit, FitsGap run := by
  rw [exactGaps_iff_first]
  constructor
  · intro hfirst run hrun
    rw [← hfirst] at hrun
    exact fitsGap_of_decoded hrun
  · intro hfits
    exact (h hfits).decoded_of_fits hfits

/-! ### The gaps of an EC_NACK -/

section CollapseGaps

lemma takeRun_of_ne {next : ℕ} {l : List ℕ} (h : ∀ c ∈ l, c ≠ next) : takeRun next l = (0, l) := by
  cases l with
  | nil => rfl
  | cons c l => exact if_neg (h c List.mem_cons_self)

/-- Consecutive missing chunks are a run. -/
lemma takeRun_filter (missing : ℕ → Bool) (n c : ℕ) :
    takeRun c ((List.range' c n).filter missing) = (runLength missing n c,
      (List.range' (c + runLength missing n c) (n - runLength missing n c)).filter missing) := by
  induction n generalizing c with
  | zero => rfl
  | succ n ih =>
    rw [List.range'_succ]
    cases hc : missing c with
    | false =>
      have hlater : ∀ d ∈ (List.range' (c + 1) n).filter missing, d ≠ c := by
        intro d hd
        have := List.mem_range'_1.mp (List.mem_of_mem_filter hd)
        omega
      rw [List.filter_cons_of_neg (by simp [hc]), takeRun_of_ne hlater, runLength_of_false hc,
        Nat.add_zero, Nat.sub_zero, List.range'_succ, List.filter_cons_of_neg (by simp [hc])]
    | true =>
      rw [List.filter_cons_of_pos hc, takeRun, if_pos rfl, ih, runLength_of_true hc,
        Nat.add_right_comm c 1, Nat.add_assoc c, Nat.add_sub_add_right]

/-- The gaps of the missing chunks are their maximal runs. -/
lemma collapseGaps_filter (missing : ℕ → Bool) (limit n lo : ℕ) :
    collapseGaps limit ((List.range' lo n).filter missing)
      = (runsFrom missing n lo).take limit := by
  induction n using Nat.strong_induction_on generalizing limit lo with
  | h n ih =>
    cases n with
    | zero => cases limit <;> rfl
    | succ n =>
      rw [List.range'_succ]
      cases hlo : missing lo with
      | false =>
        rw [List.filter_cons_of_neg (by simp [hlo]), runsFrom_of_false hlo]
        exact ih n (Nat.lt_succ_self n) limit (lo + 1)
      | true =>
        cases limit with
        | zero => rfl
        | succ limit =>
          rw [List.filter_cons_of_pos hlo, collapseGaps, takeRun_filter, runsFrom_of_true hlo,
            List.take_succ_cons, runLength_of_true hlo]
          dsimp only
          rw [ih _ (by omega), Nat.add_right_comm lo 1, Nat.add_assoc lo, Nat.add_sub_add_right]

end CollapseGaps

/-! ### The gaps of a report -/

section Report

variable {complete : ℕ → Bool}

lemma missingRun_eq (complete : ℕ → Bool) (limit c : ℕ) :
    missingRun (m := Id) complete limit c = runLength (fun c => !complete c) limit c := by
  induction limit generalizing c with
  | zero => rfl
  | succ limit ih =>
    rw [show missingRun (m := Id) complete (limit + 1) c
      = if complete c then (0 : ℕ) else Nat.succ (missingRun (m := Id) complete limit (c + 1))
      from rfl, ih]
    split_ifs with hc
    · have hmissing : (!complete c) = false := by rw [hc]; rfl
      exact (runLength_of_false hmissing (limit + 1)).symm
    · have hmissing : (!complete c) = true := by simpa using hc
      exact (runLength_of_true hmissing limit).symm

/-- As long as no run is cut, the loop finds the runs one after the other. -/
lemma gapList_eq (total fuel c gapsFound : ℕ) (hfuel : total < c + fuel)
    (hshort : ∀ run ∈ (runsFrom (fun c => !complete c) (total - c) c).take (4 - gapsFound),
      run.2 < 2 ^ 16) :
    gapList (m := Id) complete total fuel c gapsFound
      = (runsFrom (fun c => !complete c) (total - c) c).take (4 - gapsFound) := by
  induction fuel generalizing c gapsFound with
  | zero =>
    rw [Nat.sub_eq_zero_of_le (show total ≤ c by omega)]
    exact List.take_nil.symm
  | succ fuel ih =>
    rw [gapList_succ]
    split_ifs with h hcomplete
    · obtain ⟨rest, hrest⟩ : ∃ rest, total - c = rest + 1 := ⟨total - c - 1, by omega⟩
      rw [hrest, runsFrom_of_false (by rw [hcomplete]; rfl),
        show rest = total - (c + 1) by omega] at hshort ⊢
      exact ih (c + 1) gapsFound (by omega) hshort
    · obtain ⟨rest, hrest⟩ : ∃ rest, total - c = rest + 1 := ⟨total - c - 1, by omega⟩
      have hmissing : (!complete c) = true := by simpa using hcomplete
      have hlimit : 4 - gapsFound = 4 - (gapsFound + 1) + 1 := by omega
      rw [hrest, runsFrom_of_true hmissing, runsFrom_end, hlimit, List.take_succ_cons] at hshort
      rw [hrest, runsFrom_of_true hmissing, runsFrom_end, hlimit, List.take_succ_cons]
      obtain ⟨hlen, hlater⟩ := List.forall_mem_cons.mp hshort
      dsimp only
      rw [missingRun_eq, runLength_min (show _ ≤ 2 ^ 16 - 1 from Nat.le_of_lt_succ hlen)]
      rw [show rest - runLength (fun c => !complete c) (rest + 1) c
        = total - (c + runLength (fun c => !complete c) (rest + 1) c + 1) by omega] at hlater ⊢
      exact congrArg _ (ih _ (gapsFound + 1) (by omega) hlater)
    · rcases not_and_or.mp h with hdone | hfull
      · rw [Nat.sub_eq_zero_of_le (not_lt.mp hdone)]
        exact List.take_nil.symm
      · rw [Nat.sub_eq_zero_of_le (not_lt.mp hfull), List.take_zero]

/-- Whatever its type, a report holds the runs as long as none is cut. -/
lemma pumpReport_holdsGaps (completed : ℕ) (connectionId : U32) (total : ℕ)
    (hshort : ∀ run ∈ (maximalRuns (fun c => !complete c) total).take 4, run.2 < 2 ^ 16) :
    HoldsGaps (pumpReport (m := Id) complete completed connectionId total)
      ((maximalRuns (fun c => !complete c) total).take 4) := by
  have hgaps : gapList (m := Id) complete total (total + 1) 0 0
      = (maximalRuns (fun c => !complete c) total).take 4 :=
    gapList_eq total (total + 1) 0 0 (by omega) hshort
  have hlen := List.length_take_le 4 (maximalRuns (fun c => !complete c) total)
  rw [pumpReport_eq, hgaps]
  dsimp only
  split_ifs <;> exact ⟨by omega, rfl, rfl, rfl⟩

end Report

/-! ### Calls that report gaps -/

/-- A call that may send a gap list. -/
inductive GapCall where
  | pump (cfg : SRConfig) (handle : SDRRecvHandle) (now : ℕ) (answer : ℤ)
  | tryDecode (r : ECReceiver) (handle : SDRRecvHandle) (isal : Isal) (answer : ℤ)

namespace GapCall

/-- The most gaps that a message of the call lists. -/
def limit : GapCall → ℕ
  | pump _ _ _ _      => 4
  | tryDecode _ _ _ _ => 16

/-- `is_chunk_complete` is false. -/
def missing (m : ReceiverMemory) : GapCall → ℕ → Bool
  | pump _ handle _ _, c      => !chunkComplete handle.msgId m c
  | tryDecode _ handle _ _, c => !chunkComplete handle.msgId m c

/-- The number of chunks that the call looks at. -/
def total (m : ReceiverMemory) : GapCall → ℕ
  | pump _ handle _ _   => (m.message handle.msgId).elim 0 fun msg => msg.totalChunks % 2 ^ 32
  | tryDecode r _ _ _   => r.layout.dataChunks

/-- With nobody changing the bitmap, the call sends `msg`, which tells the sender about gaps. -/
def Sends (m : ReceiverMemory) (msg : ControlMessage) : GapCall → Prop
  | pump cfg handle now answer => ∃ done m',
    (SdrUdp.pump cfg handle now answer).run m = some (done, m') ∧ m'.sent = m.sent ++ [msg]
  | tryDecode r handle isal answer => r.recvHandle = some handle ∧ ∃ done r' m',
    r.tryDecode isal answer m = some (done, r', m') ∧ m'.sent = m.sent ++ [msg] ∧
      (msg.msgType = .ecNack ∨ msg.msgType = .ecFallbackSr)

section Calls

variable {m m' : ReceiverMemory} {msg : ControlMessage}

lemma sent_ne_append (h : m'.sent = m.sent) : m'.sent ≠ m.sent ++ [msg] := by
  rw [h]
  intro h
  exact absurd (congrArg List.length h) (by simp)

/-- A send that goes through leaves the message itself. -/
lemma eq_of_sent {report : ControlMessage} {answer : ℤ}
    (h : (m.sendMessage report answer).sent = m.sent ++ [msg]) : msg = report := by
  rcases m.sendMessage_sent report answer with hfail | hsent
  · exact absurd h (sent_ne_append hfail)
  · rw [hsent] at h
    exact (List.cons.inj (List.append_cancel_left h)).1.symm

/-- What is sent is the report. -/
lemma report_of_pumpAtRest {cfg : SRConfig} {id now : ℕ} {answer : ℤ}
    (h : (pumpAtRest cfg id now answer m).2.sent = m.sent ++ [msg]) :
    ∃ done, reportAtRest id m = some (msg, done) := by
  by_cases hlets : cfg.Lets now (m.lastCtrl.getD now)
  · cases hreport : reportAtRest id m with
    | none =>
      simp only [pumpAtRest, if_pos hlets, reportAtRest_lastCtrl, hreport] at h
      exact absurd h (sent_ne_append rfl)
    | some result =>
      obtain ⟨report, done⟩ := result
      rw [pumpAtRest_of_reported hlets hreport] at h
      exact ⟨done, by rw [eq_of_sent (m := { m with lastCtrl := some now }) h]⟩
  · rw [pumpAtRest_of_blocked hlets] at h
    exact absurd h (sent_ne_append rfl)

/-- What `pump` sends is a report on the chunks at rest. -/
lemma pump_holdsGaps {cfg : SRConfig} {handle : SDRRecvHandle} {now : ℕ} {answer : ℤ}
    (h : (pump cfg handle now answer).Sends m msg)
    (hshort : ∀ run ∈ (maximalRuns ((pump cfg handle now answer).missing m)
      ((pump cfg handle now answer).total m)).take 4, run.2 < 2 ^ 16) :
    HoldsGaps msg ((maximalRuns ((pump cfg handle now answer).missing m)
      ((pump cfg handle now answer).total m)).take 4) := by
  obtain ⟨done, m', hrun, hsent⟩ := h
  obtain ⟨-, rfl⟩ := Prod.mk.inj (Option.some.inj ((run_pump _ _ _ _ _).symm.trans hrun))
  obtain ⟨done', hreport⟩ := report_of_pumpAtRest hsent
  obtain ⟨posted, front, hposted, hfront, rfl⟩ := exists_of_reportAtRest hreport
  have hbitmap : m.frontendBitmap handle.msgId = some front := by
    rw [ReceiverMemory.frontendBitmap, hposted]
    exact hfront
  have htotal : (pump cfg handle now answer).total m = posted.totalChunks % 2 ^ 32 := by
    rw [total, hposted, Option.elim_some]
  have hmissing : (pump cfg handle now answer).missing m = fun c => !FrontendBitmap.isChunkComplete
      (m := Id) (m.chunkWords handle.msgId) front.totalChunks c := by
    funext c
    rw [missing, chunkComplete, ReceiverMemory.chunkWords, hbitmap, Option.any_some,
      Option.elim_some]
  rw [htotal, hmissing] at hshort ⊢
  exact pumpReport_holdsGaps _ _ _ hshort

lemma recover_sent {r : ECReceiver} {isal : Isal} {ptr : Option BufferPtr} {avail lost : List ℕ}
    {result : Bool × ReceiverMemory} (h : r.recover isal ptr avail lost m = some result) :
    result.2.sent = m.sent := by
  unfold ECReceiver.recover at h
  split_ifs at h
  · rw [← Option.some.inj h]
  · split at h <;> exact absurd h (by simp)
  · split at h
    · rw [← Option.some.inj h]
    · exact absurd h (by simp)

/-- An EC_ACK tells nothing about gaps. -/
lemma not_sends_declareComplete {r : ECReceiver} {id : ℕ} {answer : ℤ} {m₁ : ReceiverMemory}
    (hm₁ : m₁.sent = m.sent) (htype : msg.msgType = .ecNack ∨ msg.msgType = .ecFallbackSr) :
    (r.declareComplete id answer m₁).sent ≠ m.sent ++ [msg] := by
  intro hsent
  rw [← hm₁] at hsent
  obtain rfl : msg = ecMessage m₁ .ecAck := eq_of_sent hsent
  rcases htype with h | h
  · exact ControlMsgType.noConfusion h
  · exact ControlMsgType.noConfusion h

/-- A request holds the runs of what is missing. -/
lemma requestMissing_holdsGaps {r : ECReceiver} {lost : List ℕ} {answer : ℤ}
    (hsent : (r.requestMissing lost answer m).2.sent = m.sent ++ [msg]) :
    HoldsGaps msg (collapseGaps 16 lost) := by
  unfold ECReceiver.requestMissing at hsent
  dsimp only at hsent
  cases hserver : m.conn.tcpServer.isNone with
  | true =>
    rw [if_pos hserver] at hsent
    exact absurd hsent (sent_ne_append rfl)
  | false =>
    rw [if_neg (by rw [hserver]; decide)] at hsent
    obtain rfl := eq_of_sent hsent
    exact ⟨length_collapseGaps_le 16 lost, rfl, rfl, rfl⟩

/-- What `try_decode` sends about gaps is a request for the missing data chunks. -/
lemma tryDecode_holdsGaps {r : ECReceiver} {handle : SDRRecvHandle} {isal : Isal} {answer : ℤ}
    (h : (tryDecode r handle isal answer).Sends m msg) :
    HoldsGaps msg ((maximalRuns ((tryDecode r handle isal answer).missing m)
      ((tryDecode r handle isal answer).total m)).take 16) := by
  obtain ⟨hhandle, done, r', m', hrun, hsent, htype⟩ := h
  have hidle : ∀ m₁ : ReceiverMemory, m₁.sent = m.sent → m' ≠ m₁ := by
    rintro m₁ hm₁ rfl
    exact sent_ne_append hm₁ hsent
  have hdeclared : ∀ m₁ : ReceiverMemory, m₁.sent = m.sent →
      m' ≠ r.declareComplete handle.msgId answer m₁ := by
    rintro m₁ hm₁ rfl
    exact not_sends_declareComplete hm₁ htype hsent
  have hruns : (maximalRuns ((tryDecode r handle isal answer).missing m)
      ((tryDecode r handle isal answer).total m)).take 16
      = collapseGaps 16 (r.missingData (chunkComplete handle.msgId m)) := by
    rw [ECReceiver.missingData, List.range_eq_range', collapseGaps_filter]
    rfl
  rw [hruns]
  unfold ECReceiver.tryDecode at hrun
  rw [hhandle] at hrun
  dsimp only at hrun
  split_ifs at hrun with hfront hall hfallback hmany hfew
  · exact absurd (congrArg (Prod.snd ∘ Prod.snd) (Option.some.inj hrun)).symm (hidle m rfl)
  · exact absurd (congrArg (Prod.snd ∘ Prod.snd) (Option.some.inj hrun)).symm (hdeclared m rfl)
  · exact absurd (congrArg (Prod.snd ∘ Prod.snd) (Option.some.inj hrun)).symm (hidle m rfl)
  · obtain rfl := congrArg (Prod.snd ∘ Prod.snd) (Option.some.inj hrun)
    exact requestMissing_holdsGaps hsent
  · exact absurd (congrArg (Prod.snd ∘ Prod.snd) (Option.some.inj hrun)).symm (hidle m rfl)
  · obtain ⟨result, hrecover, hresult⟩ := Option.map_eq_some_iff.mp hrun
    have hm' := congrArg (Prod.snd ∘ Prod.snd) hresult
    simp only [Function.comp_apply] at hm'
    split_ifs at hm'
    · exact absurd hm'.symm (hdeclared _ (recover_sent hrecover))
    · exact absurd hm'.symm (hidle _ (recover_sent hrecover))

end Calls

/-- The gaps that a call sends are the first runs of missing chunks exactly when these runs begin
and end within the range of 16 bits. -/
theorem exactGaps_iff {m : ReceiverMemory} {msg : ControlMessage} {call : GapCall}
    (h : call.Sends m msg) :
    ExactGaps (call.missing m) (call.total m) call.limit msg ↔
      ∀ run ∈ (maximalRuns (call.missing m) (call.total m)).take call.limit, FitsGap run := by
  cases call with
  | pump cfg handle now answer =>
    exact exactGaps_iff_fits fun hfits => pump_holdsGaps h fun run hrun => (hfits run hrun).2
  | tryDecode r handle isal answer => exact exactGaps_iff_fits fun _ => tryDecode_holdsGaps h

/-! ### Two messages -/

/-- A call of `pump` on the message in slot 0, 50 ms after the last report. -/
def samplePump : GapCall := pump .default ⟨0, 1, 0, 0⟩ 50000000 sizeofControlMessage

/-- A message of `total` chunks with these words as its bitmap, reported on at time 0. -/
def reportedChunks (total : ℕ) (words : ℕ → U64) : ReceiverMemory :=
  { postedChunks total words with lastCtrl := some 0 }

lemma samplePump_sends (total : ℕ) (words : ℕ → U64) :
    ∃ msg, samplePump.Sends (reportedChunks total words) msg := by
  obtain ⟨report, done, hreport⟩ := reportAtRest_postedChunks total words
  have hlets : SRConfig.default.Lets 50000000 0 := by decide
  have hsent := sent_pumpAtRest (m := reportedChunks total words) hlets hreport rfl (by decide)
  exact ⟨report, _, _, run_pump _ _ _ _ _, hsent⟩

lemma missing_samplePump (total : ℕ) (words : ℕ → U64) (c : ℕ) :
    samplePump.missing (reportedChunks total words) c = true ↔ ¬ (c < total ∧ c ∈ bits words) := by
  rw [← FrontendBitmap.isChunkComplete_iff, Bool.not_eq_true, ← Bool.not_eq_true']
  rfl

/-- Of three chunks, the second is missing. -/
theorem exactGaps_three : ∃ msg, samplePump.Sends (reportedChunks 3 fun _ => 5) msg ∧
    ExactGaps (samplePump.missing (reportedChunks 3 fun _ => 5)) 3 4 msg := by
  obtain ⟨msg, hsends⟩ := samplePump_sends 3 fun _ => 5
  refine ⟨msg, hsends, (exactGaps_iff hsends).mpr fun run hrun => ?_⟩
  obtain rfl : run = (1, 1) := List.mem_singleton.mp hrun
  exact ⟨by decide, by decide⟩

/-- Only chunk 65536 is missing, and the report asks for chunk 0. -/
theorem not_exactGaps_late : ∃ words msg, samplePump.Sends (reportedChunks 65537 words) msg ∧
    listedChunks msg = [0] ∧ samplePump.missing (reportedChunks 65537 words) 0 = false ∧
    samplePump.missing (reportedChunks 65537 words) 65536 = true ∧
    ¬ ExactGaps (samplePump.missing (reportedChunks 65537 words)) 65537 4 msg := by
  let words : ℕ → U64 := fun w => if w < 1024 then BitVec.allOnes 64 else 0
  obtain ⟨msg, hsends⟩ := samplePump_sends 65537 words
  have hbits : ∀ c, c ∈ bits words ↔ c < 65536 := by
    intro c
    rw [mem_bits, show words (c / 64) = if c / 64 < 1024 then BitVec.allOnes 64 else 0 from rfl]
    split_ifs with h
    · rw [BitVec.getLsbD_allOnes, decide_eq_true_iff]
      exact iff_of_true (Nat.mod_lt c (by decide)) (by omega)
    · exact iff_of_false (by simp) (by omega)
  have hset : ∀ c, c < 65536 → samplePump.missing (reportedChunks 65537 words) c = false := by
    intro c hc
    refine Bool.eq_false_iff.mpr fun h => ?_
    exact (missing_samplePump 65537 words c).mp h ⟨by omega, (hbits c).mpr hc⟩
  have hlast : samplePump.missing (reportedChunks 65537 words) 65536 = true :=
    (missing_samplePump 65537 words 65536).mpr fun h => absurd ((hbits 65536).mp h.2) (by decide)
  have hruns : maximalRuns (samplePump.missing (reportedChunks 65537 words)) 65537
      = [(65536, 1)] := by
    rw [maximalRuns, show 65537 = 65536 + 1 from rfl,
      runsFrom_skip fun c _ hc => hset c (by omega), runsFrom, if_pos hlast]
    rfl
  have hholds : HoldsGaps msg [(65536, 1)] := by
    have hfirst : HoldsGaps msg
        ((maximalRuns (samplePump.missing (reportedChunks 65537 words)) 65537).take 4) := by
      refine pump_holdsGaps hsends fun run hrun => ?_
      obtain rfl : run = (65536, 1) := List.mem_singleton.mp (hruns ▸ List.mem_of_mem_take hrun)
      decide
    rw [hruns] at hfirst
    exact hfirst
  have hdecoded : decodedGaps msg = [(0, 1)] := hholds.decoded
  have hlisted : listedChunks msg = [0] := by
    rw [listedChunks, hdecoded]
    rfl
  refine ⟨words, msg, hsends, hlisted, hset 0 (by decide), hlast, fun h => ?_⟩
  have := h.missing 0 (by rw [hlisted]; exact List.mem_singleton_self 0)
  rw [hset 0 (by decide)] at this
  exact absurd this (by decide)

end GapCall

end SdrUdp
