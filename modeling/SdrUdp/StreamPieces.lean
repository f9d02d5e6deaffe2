import SdrUdp.SendPaths

/-!
# Streaming a message in pieces

An application may call `sdr_send_stream_continue` again and again while it still fills its buffer.
A call rounds its byte range to whole packets, so a packet that is cut by two pieces goes out with
the first of them, with whatever bytes are in the buffer, and once more with the second.
-/

namespace SdrUdp

open SdrUdp.Core

/-- Where pieces of the given lengths start. -/
def pieceStarts : ℕ → List ℕ → List ℕ
  | _, []              => []
  | o, length :: rest => o :: pieceStarts (o + length) rest

/-- `sdr_send_stream_continue` on one piece after the other, each with the content that the buffer
has at that time. -/
def SDRStreamHandle.streamPieces (h : SDRStreamHandle) (params : ConnectionParams) :
    ℕ → List (List U8 × ℕ) → List SDRPacket
  | _, []                        => []
  | o, (buffer, length) :: rest =>
    { h with userBuffer := buffer }.streamContinue params (BitVec.ofNat 32 o) length
      ++ h.streamPieces params (o + length) rest

/-- At every call the buffer has the bytes of the message up to the end of the piece. -/
def Filled (data : List U8) : ℕ → List (List U8 × ℕ) → Prop
  | _, []                        => True
  | o, (buffer, length) :: rest =>
    buffer.length = data.length ∧ buffer.take (o + length) = data.take (o + length) ∧
      Filled data (o + length) rest

/-! ### One piece -/

section Piece

variable {p : ConnectionParams} {msgId : ℕ} {data buffer : List U8} {h : SDRStreamHandle}

/-- A packet depends on its bytes only. -/
lemma postPacket_congr (hmtu : p.mtuBytes.toNat ≤ SDRPacket.maxPayloadSize)
    (hlength : buffer.length = data.length) {i : ℕ}
    (hbytes : packetBytes p.mtuBytes.toNat buffer i = packetBytes p.mtuBytes.toNat data i) :
    postPacket p msgId buffer i = postPacket p msgId data i := by
  have htake : ∀ l : List U8, (l.drop (i * p.mtuBytes.toNat)).take
      (min (min p.mtuBytes.toNat (data.length - i * p.mtuBytes.toNat)) SDRPacket.maxPayloadSize)
      = (packetBytes p.mtuBytes.toNat l i).take (data.length - i * p.mtuBytes.toNat) := by
    intro l
    rw [packetBytes, List.take_take]
    congr 1
    omega
  unfold postPacket dataPacket SDRPacket.createDataPacket
  simp only [hlength, htake, hbytes]

/-- Below 4 GiB a stream sends the packets of its buffer. -/
lemma streamPacket_eq_postPacket (hmtu : p.mtuBytes.toNat ≤ SDRPacket.maxPayloadSize) {i : ℕ}
    (hsmall : i * p.mtuBytes.toNat < 2 ^ 32) :
    streamPacket p.transferId msgId p.packetsPerChunk p.mtuBytes.toNat buffer i
      = postPacket p msgId buffer i := by
  refine streamPacket_eq _ _ _ hmtu ?_
  rw [Nat.mod_eq_of_lt hsmall]
  rfl

/-- The bytes of a packet that lies below `e`, or ends with the message there. -/
lemma packetBytes_of_take {m e i : ℕ} (hlength : buffer.length = data.length)
    (htake : buffer.take e = data.take e) (hend : m ∣ e ∨ e = data.length) (hi : i * m < e) :
    packetBytes m buffer i = packetBytes m data i := by
  rcases hend with ⟨k, rfl⟩ | rfl
  · have hle : (i + 1) * m ≤ m * k := by
      rw [Nat.mul_comm m k]
      exact Nat.mul_le_mul_right m (Nat.lt_of_mul_lt_mul_right (Nat.mul_comm m k ▸ hi))
    rw [Nat.succ_mul] at hle
    have hpart : ∀ l : List U8, packetBytes m l i = ((l.take (m * k)).drop (i * m)).take m := by
      intro l
      rw [packetBytes, List.drop_take, List.take_take]
      congr 1
      omega
    rw [hpart buffer, hpart data, htake]
  · rw [← hlength, List.take_length, hlength, List.take_length] at htake
    rw [htake]

end Piece

/-! ### All pieces -/

section Pieces

variable {p : ConnectionParams} {msgId : ℕ} {data : List U8} {h : SDRStreamHandle}
variable (hc : Countable p data) (hh : h.Serves p msgId data) (hsmall : data.length < 2 ^ 32)
include hc hh hsmall

/-- A call sends the packets that its piece touches. -/
lemma streamContinue_eq (buffer : List U8) {o length : ℕ} (hle : o + length ≤ data.length) :
    { h with userBuffer := buffer }.streamContinue p (BitVec.ofNat 32 o) length
      = (List.range' (o / p.mtuBytes.toNat)
          ((o + length) ⌈/⌉ p.mtuBytes.toNat - o / p.mtuBytes.toNat)).filterMap
        (postPacket p msgId buffer) := by
  have hpos := hc.mtu_pos
  have hmtu : p.mtuBytes.toNat < 2 ^ 16 := hc.mtu_le.trans_lt (by decide)
  have hstop : (o + length) ⌈/⌉ p.mtuBytes.toNat ≤ packetCount p data := by
    refine le_of_forall_lt fun i hi => ?_
    rw [hc.lt_packetCount_iff]
    exact ((lt_ceilDiv_iff_mul_lt hpos _ _).mp hi).trans_le hle
  have hcount := hc.packetCount_le
  have hrange : streamRange p.mtuBytes.toNat (BitVec.ofNat 32 o) length
      = (o / p.mtuBytes.toNat, (o + length) ⌈/⌉ p.mtuBytes.toNat) := by
    have ho : (BitVec.ofNat 32 o).toNat = o := by
      rw [BitVec.toNat_ofNat, Nat.mod_eq_of_lt (by omega)]
    have hbytes : (o + length + p.mtuBytes.toNat - 1) % 2 ^ 64
        = o + length + p.mtuBytes.toNat - 1 := Nat.mod_eq_of_lt (by omega)
    rw [streamRange, ho, hbytes, ← Nat.ceilDiv_eq_add_pred_div, Nat.mod_eq_of_lt (by omega)]
  unfold SDRStreamHandle.streamContinue
  simp only [hh.isActive, Bool.true_eq_false, if_false, SDRStreamHandle.offsets, hrange,
    hh.totalPackets, hh.msgId]
  rw [← packetCount, Nat.min_eq_left hstop]
  refine List.filterMap_congr fun i hi => streamPacket_eq_postPacket hc.mtu_le ?_
  have hlt : i < (o + length) ⌈/⌉ p.mtuBytes.toNat := by
    have := List.mem_range'_1.mp hi
    omega
  have := (lt_ceilDiv_iff_mul_lt hpos _ _).mp hlt
  omega

/-- With the buffer filled, and the end of the piece at a packet's end, they are packets of the
message. -/
lemma streamContinue_filled {buffer : List U8} (hlength : buffer.length = data.length)
    {o length : ℕ} (hle : o + length ≤ data.length)
    (htake : buffer.take (o + length) = data.take (o + length))
    (hend : p.mtuBytes.toNat ∣ o + length ∨ o + length = data.length) :
    { h with userBuffer := buffer }.streamContinue p (BitVec.ofNat 32 o) length
      = (List.range' (o / p.mtuBytes.toNat)
          ((o + length) ⌈/⌉ p.mtuBytes.toNat - o / p.mtuBytes.toNat)).filterMap
        (postPacket p msgId data) := by
  rw [streamContinue_eq hc hh hsmall buffer hle]
  refine List.filterMap_congr fun i hi => postPacket_congr hc.mtu_le hlength ?_
  refine packetBytes_of_take hlength htake hend ((lt_ceilDiv_iff_mul_lt hc.mtu_pos _ _).mp ?_)
  have := List.mem_range'_1.mp hi
  omega

/-- Every piece that does not start with a packet costs one packet more. -/
lemma length_streamPieces (pieces : List (List U8 × ℕ)) {o : ℕ}
    (hsum : o + (pieces.map Prod.snd).sum ≤ data.length) :
    (h.streamPieces p o pieces).length + o ⌈/⌉ p.mtuBytes.toNat
      = (o + (pieces.map Prod.snd).sum) ⌈/⌉ p.mtuBytes.toNat
        + (pieceStarts o (pieces.map Prod.snd)).countP fun s => ¬ p.mtuBytes.toNat ∣ s := by
  induction pieces generalizing o with
  | nil => simp [SDRStreamHandle.streamPieces, pieceStarts]
  | cons piece rest ih =>
    obtain ⟨buffer, length⟩ := piece
    rw [List.map_cons, List.sum_cons, ← Nat.add_assoc] at hsum
    have hrest := ih (o := o + length) hsum
    have hfirst : (((List.range' (o / p.mtuBytes.toNat)
        ((o + length) ⌈/⌉ p.mtuBytes.toNat - o / p.mtuBytes.toNat)).filterMap
          (postPacket p msgId buffer))).length
        = (o + length) ⌈/⌉ p.mtuBytes.toNat - o / p.mtuBytes.toNat := by
      rw [List.filterMap_length_eq_length.mpr fun i _ => ?_, List.length_range']
      obtain ⟨q, hq, -⟩ := dataPacket_spec p.transferId msgId p.packetsPerChunk hc.mtu_le buffer i
      exact Option.isSome_of_mem hq
    have hceil := ceilDiv_eq_div_add hc.mtu_pos o
    have hmono : o / p.mtuBytes.toNat ≤ (o + length) ⌈/⌉ p.mtuBytes.toNat := by
      rw [ceilDiv_eq_div_add hc.mtu_pos (o + length)]
      exact (Nat.div_le_div_right (Nat.le_add_right _ _)).trans (Nat.le_add_right _ _)
    rw [SDRStreamHandle.streamPieces, List.length_append,
      streamContinue_eq hc hh hsmall buffer (by omega), hfirst, List.map_cons, List.sum_cons,
      pieceStarts, List.countP_cons, ← Nat.add_assoc o]
    by_cases hdvd : p.mtuBytes.toNat ∣ o
    · simp only [hdvd, if_true] at hceil
      simp only [hdvd, not_true_eq_false, decide_false, Bool.false_eq_true, if_false]
      omega
    · simp only [hdvd, if_false] at hceil
      simp only [hdvd, not_false_eq_true, decide_true, if_true]
      omega

omit hc hh hsmall in
/-- A piece ends where the next one starts, or where the message ends. -/
lemma dvd_or_eq_of_starts {m o : ℕ} {lengths : List ℕ} (hsum : o + lengths.sum = data.length)
    (haligned : ∀ s ∈ pieceStarts o lengths, s < data.length → m ∣ s) :
    m ∣ o ∨ o = data.length := by
  cases lengths with
  | nil => exact Or.inr (by simpa using hsum)
  | cons length rest =>
    rcases (Nat.le_of_add_right_le hsum.le).lt_or_eq with hlt | heq
    · exact Or.inl (haligned o (List.mem_cons_self) hlt)
    · exact Or.inr heq

/-- When no packet is cut inside the message, every packet sent is one of the message. -/
lemma mem_streamPieces (pieces : List (List U8 × ℕ)) {o : ℕ}
    (hsum : o + (pieces.map Prod.snd).sum = data.length) (hfilled : Filled data o pieces)
    (haligned : ∀ s ∈ pieceStarts o (pieces.map Prod.snd), s < data.length →
      p.mtuBytes.toNat ∣ s) {q : SDRPacket} (hq : q ∈ h.streamPieces p o pieces) :
    ∃ i < packetCount p data, postPacket p msgId data i = some q := by
  induction pieces generalizing o with
  | nil => exact absurd hq List.not_mem_nil
  | cons piece rest ih =>
    obtain ⟨buffer, length⟩ := piece
    obtain ⟨hlength, htake, hfilled⟩ := hfilled
    rw [List.map_cons, List.sum_cons, ← Nat.add_assoc] at hsum
    have hrest : ∀ s ∈ pieceStarts (o + length) (rest.map Prod.snd), s < data.length →
        p.mtuBytes.toNat ∣ s := fun s hs => haligned s (List.mem_cons_of_mem o hs)
    have hend := dvd_or_eq_of_starts hsum hrest
    rw [SDRStreamHandle.streamPieces, streamContinue_filled hc hh hsmall hlength
      (Nat.le_of_add_right_le hsum.le) htake hend] at hq
    rcases List.mem_append.mp hq with hq | hq
    · obtain ⟨i, hi, hpacket⟩ := List.mem_filterMap.mp hq
      refine ⟨i, (hc.lt_packetCount_iff i).mpr ?_, hpacket⟩
      have hlt : i < (o + length) ⌈/⌉ p.mtuBytes.toNat := by
        have hrange := List.mem_range'_1.mp hi
        dsimp only at hrange
        omega
      exact ((lt_ceilDiv_iff_mul_lt hc.mtu_pos _ _).mp hlt).trans_le
        (Nat.le_of_add_right_le hsum.le)
    · exact ih hsum hfilled hrest hq

/-- When every piece starts with a packet, the packets of the message go out in their order. -/
lemma streamPieces_eq (pieces : List (List U8 × ℕ)) {o : ℕ}
    (hsum : o + (pieces.map Prod.snd).sum = data.length) (hfilled : Filled data o pieces)
    (haligned : ∀ s ∈ pieceStarts o (pieces.map Prod.snd), p.mtuBytes.toNat ∣ s) :
    h.streamPieces p o pieces = (List.range' (o ⌈/⌉ p.mtuBytes.toNat)
      (data.length ⌈/⌉ p.mtuBytes.toNat - o ⌈/⌉ p.mtuBytes.toNat)).filterMap
        (postPacket p msgId data) := by
  induction pieces generalizing o with
  | nil =>
    obtain rfl : o = data.length := hsum
    rw [Nat.sub_self, List.range'_zero]
    rfl
  | cons piece rest ih =>
    obtain ⟨buffer, length⟩ := piece
    obtain ⟨hlength, htake, hfilled⟩ := hfilled
    rw [List.map_cons, List.sum_cons, ← Nat.add_assoc] at hsum
    have hrest : ∀ s ∈ pieceStarts (o + length) (rest.map Prod.snd), p.mtuBytes.toNat ∣ s :=
      fun s hs => haligned s (List.mem_cons_of_mem o hs)
    have hend := dvd_or_eq_of_starts hsum fun s hs _ => hrest s hs
    have hle := Nat.le_of_add_right_le hsum.le
    have hstart : o ⌈/⌉ p.mtuBytes.toNat = o / p.mtuBytes.toNat := by
      rw [ceilDiv_eq_div_add hc.mtu_pos, if_pos (haligned o List.mem_cons_self), Nat.add_zero]
    have hfirst : o / p.mtuBytes.toNat ≤ (o + length) ⌈/⌉ p.mtuBytes.toNat := by
      rw [ceilDiv_eq_div_add hc.mtu_pos (o + length)]
      exact (Nat.div_le_div_right (Nat.le_add_right _ _)).trans (Nat.le_add_right _ _)
    have hlast : (o + length) ⌈/⌉ p.mtuBytes.toNat ≤ data.length ⌈/⌉ p.mtuBytes.toNat := by
      refine le_of_forall_lt fun i hi => ?_
      rw [lt_ceilDiv_iff_mul_lt hc.mtu_pos] at hi ⊢
      exact hi.trans_le hle
    rw [SDRStreamHandle.streamPieces, streamContinue_filled hc hh hsmall hlength hle htake hend,
      ih hsum hfilled hrest, hstart, ← List.filterMap_append]
    generalize (o + length) ⌈/⌉ p.mtuBytes.toNat = e at hfirst hlast
    obtain ⟨k, rfl⟩ := Nat.le.dest hfirst
    rw [Nat.add_sub_cancel_left, List.range'_append_1]
    congr 2
    omega

end Pieces

/-! ### Bytes that come too late -/

/-- Pieces of which those that end at byte `s` go out before that byte of the message is written. -/
def lateAt (data : List U8) (s : ℕ) : ℕ → List ℕ → List (List U8 × ℕ)
  | _, []              => []
  | o, length :: rest =>
    (if o + length = s then data.set s (data.getD s 0 + 1) else data, length)
      :: lateAt data s (o + length) rest

lemma map_lateAt (data : List U8) (s o : ℕ) (lengths : List ℕ) :
    (lateAt data s o lengths).map Prod.snd = lengths := by
  induction lengths generalizing o with
  | nil => rfl
  | cons length rest ih => simp [lateAt, ih]

lemma filled_lateAt (data : List U8) (s o : ℕ) (lengths : List ℕ) :
    Filled data o (lateAt data s o lengths) := by
  induction lengths generalizing o with
  | nil => trivial
  | cons length rest ih =>
    refine ⟨?_, ?_, ih _⟩
    · split_ifs <;> simp
    · split_ifs with heq
      · rw [heq, List.take_set_of_le le_rfl]
      · rfl

/-- The packet that such a byte belongs to differs from the message's. -/
lemma packetBytes_set_ne {m s : ℕ} (hm : 0 < m) {data : List U8} (hs : s < data.length) :
    packetBytes m (data.set s (data.getD s 0 + 1)) (s / m) ≠ packetBytes m data (s / m) := by
  intro heq
  have hat : ∀ l : List U8, (packetBytes m l (s / m))[s % m]? = l[s]? := by
    intro l
    rw [packetBytes, List.getElem?_take_of_lt (Nat.mod_lt s hm), List.getElem?_drop,
      Nat.div_add_mod' s m]
  have hbyte := congrArg (fun l : List U8 => l[s % m]?) heq
  simp only [hat, List.getElem?_set_self hs, List.getElem?_eq_getElem hs,
    List.getD_eq_getElem?_getD, Option.getD_some, Option.some.injEq] at hbyte
  simp at hbyte

section Late

variable {p : ConnectionParams} {msgId : ℕ} {data : List U8} {h : SDRStreamHandle}
variable (hc : Countable p data) (hh : h.Serves p msgId data) (hsmall : data.length < 2 ^ 32)
include hc hh hsmall

/-- A packet that two pieces cut goes out with the first of them. -/
lemma exists_late {s : ℕ} (hs : s < data.length) (hcut : ¬ p.mtuBytes.toNat ∣ s)
    (lengths : List ℕ) {o : ℕ} (hsum : o + lengths.sum = data.length)
    (hmem : s ∈ pieceStarts o lengths) (hne : o ≠ s) :
    ∃ q ∈ h.streamPieces p o (lateAt data s o lengths), ∀ i < packetCount p data,
      postPacket p msgId data i ≠ some q := by
  induction lengths generalizing o with
  | nil => exact absurd hmem List.not_mem_nil
  | cons length rest ih =>
    rw [List.sum_cons, ← Nat.add_assoc] at hsum
    have hrest : s ∈ pieceStarts (o + length) rest :=
      (List.mem_cons.mp hmem).resolve_left fun heq => hne heq.symm
    rw [lateAt, SDRStreamHandle.streamPieces]
    by_cases heq : o + length = s
    · obtain ⟨q, hq, -, -, hoffset, hpayload, -⟩ := dataPacket_spec p.transferId msgId
        p.packetsPerChunk hc.mtu_le (data.set s (data.getD s 0 + 1)) (s / p.mtuBytes.toNat)
      refine ⟨q, List.mem_append_left _ ?_, fun i hi hpacket => ?_⟩
      · rw [if_pos heq, streamContinue_eq hc hh hsmall _ (heq ▸ hs.le), heq]
        refine List.mem_filterMap.mpr ⟨s / p.mtuBytes.toNat, ?_, hq⟩
        have hceil := ceilDiv_eq_div_add hc.mtu_pos s
        rw [if_neg hcut] at hceil
        have hfirst : o / p.mtuBytes.toNat ≤ s / p.mtuBytes.toNat :=
          Nat.div_le_div_right (heq ▸ Nat.le_add_right o length)
        rw [List.mem_range'_1]
        omega
      · obtain ⟨q', hq', -, -, hoffset', hpayload', -⟩ := dataPacket_spec p.transferId msgId
          p.packetsPerChunk hc.mtu_le data i
        obtain rfl := Option.some.inj (hpacket.symm.trans hq')
        have hlt : s / p.mtuBytes.toNat < packetCount p data :=
          (hc.lt_packetCount_iff _).mpr ((Nat.div_mul_le_self _ _).trans_lt hs)
        have hsame := congrArg BitVec.toNat (hoffset.symm.trans hoffset')
        rw [BitVec.toNat_ofNat, BitVec.toNat_ofNat,
          Nat.mod_eq_of_lt (hlt.trans_le hc.packetCount_le),
          Nat.mod_eq_of_lt (hi.trans_le hc.packetCount_le)] at hsame
        subst hsame
        exact packetBytes_set_ne hc.mtu_pos hs (hpayload.symm.trans hpayload')
    · obtain ⟨q, hq, hwrong⟩ := ih hsum hrest heq
      exact ⟨q, List.mem_append_right _ hq, hwrong⟩

end Late

/-- A message that is streamed in pieces while its buffer is filled. Each piece that does not start
with a packet costs one packet more. The packets are those of `sdr_send_post`, each once and in
order, exactly when every piece starts with a packet; and none of them carries other bytes,
whenever the buffer is filled up to each piece, exactly when every piece that starts inside the
message does. -/
theorem streamPieces_exact_iff {p : ConnectionParams} {msgId : ℕ} {data : List U8}
    {h : SDRStreamHandle} (hc : Countable p data) (hh : h.Serves p msgId data)
    (hsmall : data.length < 2 ^ 32) {lengths : List ℕ} (hsum : lengths.sum = data.length) :
    (∀ pieces, Filled data 0 pieces → pieces.map Prod.snd = lengths →
      (h.streamPieces p 0 pieces).length = packetCount p data
          + (pieceStarts 0 lengths).countP (fun s => ¬ p.mtuBytes.toNat ∣ s) ∧
        (h.streamPieces p 0 pieces
            = (List.range (packetCount p data)).filterMap (postPacket p msgId data) ↔
          ∀ s ∈ pieceStarts 0 lengths, p.mtuBytes.toNat ∣ s)) ∧
    ((∀ pieces, Filled data 0 pieces → pieces.map Prod.snd = lengths →
        ∀ q ∈ h.streamPieces p 0 pieces, ∃ i < packetCount p data,
          postPacket p msgId data i = some q) ↔
      ∀ s ∈ pieceStarts 0 lengths, s < data.length → p.mtuBytes.toNat ∣ s) := by
  have hzero : 0 ⌈/⌉ p.mtuBytes.toNat = 0 := by
    rw [ceilDiv_eq_div_add hc.mtu_pos, if_pos (Nat.dvd_zero _), Nat.zero_div]
  have hpackets : data.length ⌈/⌉ p.mtuBytes.toNat = packetCount p data :=
    (ceilDiv_eq hc.length_add_le).symm
  refine ⟨fun pieces hfilled hlengths => ?_, fun hright s hs hlt => ?_, fun haligned => ?_⟩
  · subst hlengths
    have hcount := length_streamPieces hc hh hsmall pieces (o := 0) (by omega)
    rw [hzero, Nat.add_zero, Nat.zero_add, hsum, hpackets] at hcount
    refine ⟨hcount, fun heq => ?_, fun haligned => ?_⟩
    · have hall := congrArg List.length heq
      rw [hcount, List.filterMap_length_eq_length.mpr fun i _ => ?_, List.length_range] at hall
      · have hnone := List.countP_eq_zero.mp (Nat.add_eq_left.mp hall)
        exact fun s hs => by simpa using hnone s hs
      · obtain ⟨q, hq, -⟩ := hc.postPacket_eq_some msgId i
        exact Option.isSome_of_mem hq
    · rw [streamPieces_eq hc hh hsmall pieces (by omega) hfilled haligned, hzero, hpackets,
        Nat.sub_zero, List.range_eq_range']
  · by_contra hcut
    obtain ⟨q, hq, hwrong⟩ := exists_late hc hh hsmall hlt hcut lengths (o := 0) (by omega) hs
      (by rintro rfl; exact hcut (Nat.dvd_zero _))
    obtain ⟨i, hi, hpacket⟩ := hright _ (filled_lateAt data s 0 lengths)
      (map_lateAt data s 0 lengths) q hq
    exact hwrong i hi hpacket
  · intro pieces hfilled hlengths q hq
    subst hlengths
    exact mem_streamPieces hc hh hsmall pieces (by omega) hfilled haligned hq

/-- Five bytes in pieces of three and two, with packets of two bytes: packet 1 goes out twice. -/
theorem streamPieces_exact_five :
    let p := { ConnectionParams.zero with mtuBytes := 2, packetsPerChunk := 2 }
    ((streamOf p 3 [1, 2, 3, 4, 5]).streamPieces p 0 [([1, 2, 3, 0, 0], 3),
      ([1, 2, 3, 4, 5], 2)]).length = 4 := by
  intro p
  have hc : Countable p [1, 2, 3, 4, 5] := ⟨by decide, by decide, by decide, by decide⟩
  have hh : (streamOf p 3 [1, 2, 3, 4, 5]).Serves p 3 [1, 2, 3, 4, 5] := ⟨rfl, rfl, rfl, rfl⟩
  have hsum : [3, 2].sum = [1, 2, 3, 4, 5].length := rfl
  have hfilled : Filled [1, 2, 3, 4, 5] 0 [([1, 2, 3, 0, 0], 3), ([1, 2, 3, 4, 5], 2)] :=
    ⟨rfl, rfl, rfl, rfl, trivial⟩
  rw [((streamPieces_exact_iff hc hh (by decide) hsum).1 _ hfilled rfl).1]
  decide

end SdrUdp
