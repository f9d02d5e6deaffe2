import SdrUdp.Confinement
import SdrUdp.Core.Fold
import Mathlib.Data.List.Induction

/-!
# What a packet bit says about the buffer

A worker sets the bit of a packet for whatever payload comes with it. A payload that is too short
leaves a part of the packet's place as it was, and one that is too long runs over the packets that
follow.
-/

namespace SdrUdp

open SdrUdp.Core ReceiverMemory

/-- An ACTIVE message as the datagrams see it. -/
structure OpenMessage where
  slot : ℕ
  generation : U32
  buffer : ℕ
  length : ℕ
  mtuBytes : ℕ

/-- A round of the worker that runs alone. -/
def deliver (m : ReceiverMemory) (bytes : List U8) : ReceiverMemory :=
  ((receiveDatagram bytes).run m).elim m Prod.snd

/-- The number in the packet's header. -/
def datagramOffset (bytes : List U8) : ℕ := (datagramHeader bytes).packetOffset.toNat

namespace OpenMessage

variable (t : OpenMessage)

/-- The packets that `sdr_recv_post` counts. -/
def totalPackets : ℕ := ceilDiv t.length t.mtuBytes % 2 ^ 32

/-- Byte `j` of the buffer belongs to packet `o`. -/
def InPacket (o j : ℕ) : Prop := o * t.mtuBytes ≤ j ∧ j < (o + 1) * t.mtuBytes ∧ j < t.length

/-- The message is there and in progress. -/
def Open (m : ReceiverMemory) : Prop :=
  ∃ msg b, m.message t.slot = some msg ∧ msg.state = .active ∧ msg.generation = t.generation ∧
    msg.buffer = some (.user t.buffer) ∧ msg.bufferSize = t.length ∧
    msg.connectionParams.mtuBytes.toNat = t.mtuBytes ∧ msg.backendBitmap = some b ∧
    b.totalPackets = t.totalPackets

/-- The bit of packet `o` is set. -/
def Recorded (m : ReceiverMemory) (o : ℕ) : Prop :=
  (m.backendBitmap t.slot).any fun b => b.isPacketReceived o

/-- The message before its first packet. -/
structure Fresh (m : ReceiverMemory) : Prop where
  isOpen : t.Open m
  empty : ∀ o, ¬ t.Recorded m o

/-- The header passes the checks of magic, `msg_id` and `transfer_id`. -/
structure Names (bytes : List U8) : Prop where
  size : SDRPacketHeader.size ≤ bytes.length
  magic : (datagramHeader bytes).isValid = true
  msgId : (datagramHeader bytes).msgId.toNat = t.slot
  transferId : (datagramHeader bytes).transferId = t.generation

/-- A datagram writes byte `j` of the buffer. -/
structure Writes (m : ReceiverMemory) (bytes : List U8) (j : ℕ) : Prop where
  new : ¬ t.Recorded m (datagramOffset bytes)
  start : datagramOffset bytes * t.mtuBytes ≤ j
  stop : j < datagramOffset bytes * t.mtuBytes + (datagramPayload bytes).length
  inside : j < t.length

/-- Over a sequence of datagrams, a bit that is set says that the packet's bytes have come in a
datagram of that number, and from then on they stay. -/
structure Trusted (m : ReceiverMemory) (datagrams : List (List U8)) : Prop where
  written : ∀ before after, datagrams = before ++ after →
    ∀ o, t.Recorded (before.foldl deliver m) o → ∀ j, t.InPacket o j →
      ∃ earlier bytes later, before = earlier ++ bytes :: later ∧ datagramOffset bytes = o ∧
        t.Writes (earlier.foldl deliver m) bytes j
  kept : ∀ before between after, datagrams = before ++ between ++ after →
    ∀ o, t.Recorded (before.foldl deliver m) o → ∀ j, t.InPacket o j →
      ((before ++ between).foldl deliver m).buffers t.buffer j
        = (before.foldl deliver m).buffers t.buffer j

/-- A datagram of a packet that is not yet recorded fills the packet's place, and where it runs over
recorded packets, it repeats what is there. -/
def Fills (m : ReceiverMemory) (bytes : List U8) : Prop :=
  ¬ t.Recorded m (datagramOffset bytes) →
    (datagramOffset bytes < t.totalPackets → min t.mtuBytes
      (t.length - datagramOffset bytes * t.mtuBytes) ≤ (datagramPayload bytes).length) ∧
    ∀ o j, t.Recorded m o → t.InPacket o j → t.Writes m bytes j →
      (datagramPayload bytes).getD (j - datagramOffset bytes * t.mtuBytes) 0
        = m.buffers t.buffer j

variable {t} {m : ReceiverMemory} {bytes : List U8}

/-! ### One datagram -/

/-- What a worker does with a packet of the message. -/
lemma run_receiveDatagram_open {msg : MessageContext} (hnames : t.Names bytes)
    (hmsg : m.message t.slot = some msg) (hstate : msg.state = .active)
    (hgen : msg.generation = t.generation) (hbuf : msg.buffer = some (.user t.buffer))
    (hmtu : 1 ≤ msg.connectionParams.mtuBytes.toNat) :
    deliver m bytes = if msg.backendBitmap.any fun b => b.isPacketReceived (datagramOffset bytes)
      then m
      else ((if msg.bufferSize ≤ datagramOffset bytes * msg.connectionParams.mtuBytes.toNat then m
        else m.writeBuffer (.user t.buffer)
          (datagramOffset bytes * msg.connectionParams.mtuBytes.toNat)
          ((datagramPayload bytes).take (msg.bufferSize
            - datagramOffset bytes * msg.connectionParams.mtuBytes.toNat))).setReceived t.slot
              (datagramOffset bytes)) := by
  have hmsg' : m.message (datagramHeader bytes).msgId.toNat = some msg := hnames.msgId ▸ hmsg
  have hget : m.conn.connectionCtx.getMessage (datagramHeader bytes).msgId.toNat = some msg := by
    rw [ConnectionContext.getMessage_of_lt _ (datagramHeader bytes).msgId.isLt,
      Option.filter_eq_some_iff]
    exact ⟨hmsg', by simp [hstate]⟩
  have hgen' : ¬ msg.generation ≠ (datagramHeader bytes).transferId :=
    not_not.mpr (hgen.trans hnames.transferId.symm)
  rw [deliver, receiveDatagram, parse_eq_some hnames.size hnames.magic,
    run_processPacket_of_message hget, if_neg hgen', if_neg (not_not.mpr hstate),
    run_writePacketToBuffer hmsg' hbuf hmtu, Option.map_some, hnames.msgId]
  rw [apply_ite (fun r : Option (PUnit × ReceiverMemory) => r.elim m Prod.snd)]
  rfl

/-- What one datagram does to the message. -/
structure Delivered (t : OpenMessage) (m : ReceiverMemory) (bytes : List U8) (m' : ReceiverMemory) :
    Prop where
  isOpen : t.Open m'
  recorded : ∀ o, t.Recorded m' o ↔ t.Recorded m o ∨
    o = datagramOffset bytes ∧ o < t.totalPackets
  written : ∀ j, t.Writes m bytes j → m'.buffers t.buffer j
    = (datagramPayload bytes).getD (j - datagramOffset bytes * t.mtuBytes) 0
  unwritten : ∀ j, ¬ t.Writes m bytes j → m'.buffers t.buffer j = m.buffers t.buffer j

/-- The memory after a payload is written at its place, as far as the buffer reaches. -/
def afterWrite (t : OpenMessage) (place : ℕ) (payload : List U8) (m : ReceiverMemory) :
    ReceiverMemory :=
  if t.length ≤ place then m
  else m.writeBuffer (.user t.buffer) place (payload.take (t.length - place))

section AfterWrite

variable {place : ℕ} {payload : List U8}

lemma conn_afterWrite : (t.afterWrite place payload m).conn = m.conn := by
  unfold afterWrite
  split_ifs
  · rfl
  · exact conn_writeBuffer _ _ _ _

lemma afterWrite_inside {k : ℕ} (hk : k < payload.length) (hinside : place + k < t.length) :
    (t.afterWrite place payload m).buffers t.buffer (place + k) = payload.getD k 0 := by
  have hk' : k < (payload.take (t.length - place)).length := by
    rw [List.length_take]
    omega
  rw [afterWrite, if_neg (by omega), writeBuffer]
  simp only [Function.update_self]
  rw [writeBytes_inside hk', List.getD_eq_getElem?_getD, List.getD_eq_getElem?_getD,
    List.getElem?_take_of_lt (by omega)]

lemma afterWrite_outside {j : ℕ} (hj : j < place ∨ place + payload.length ≤ j ∨ t.length ≤ j) :
    (t.afterWrite place payload m).buffers t.buffer j = m.buffers t.buffer j := by
  unfold afterWrite
  split_ifs
  · rfl
  · rw [writeBuffer]
    simp only [Function.update_self]
    refine writeBytes_outside ?_
    rw [List.length_take]
    omega

end AfterWrite

/-- The bit of one more packet. -/
lemma recorded_setReceived {o' : ℕ} {b : BackendBitmap} (hback : m.backendBitmap t.slot = some b)
    (htotal : b.totalPackets = t.totalPackets) (o : ℕ) :
    t.Recorded (m.setReceived t.slot o') o ↔ t.Recorded m o ∨ o = o' ∧ o < t.totalPackets := by
  have hback' : (m.setReceived t.slot o').backendBitmap t.slot
      = some (b.setPacketReceived o').2 := by
    obtain ⟨msg, hmsg, hb⟩ := Option.bind_eq_some_iff.mp hback
    simp [backendBitmap, setReceived, message_mapMessage, hmsg, hb]
  simp only [Recorded, hback, hback', Option.any_some, BackendBitmap.isPacketReceived_iff,
    BackendBitmap.totalPackets_setPacketReceived, BackendBitmap.received_setPacketReceived, htotal]
  split_ifs with hlt
  · rw [Set.mem_insert_iff]
    constructor
    · rintro ⟨ho, rfl | hmem⟩
      · exact Or.inr ⟨rfl, ho⟩
      · exact Or.inl ⟨ho, hmem⟩
    · rintro (⟨ho, hmem⟩ | ⟨rfl, ho⟩)
      · exact ⟨ho, Or.inr hmem⟩
      · exact ⟨ho, Or.inl rfl⟩
  · refine (or_iff_left ?_).symm
    rintro ⟨rfl, ho⟩
    exact hlt ho

/-- Writing and then setting the bit of a new packet. -/
lemma delivered_new (hopen : t.Open m) (hnew : ¬ t.Recorded m (datagramOffset bytes)) :
    Delivered t m bytes ((t.afterWrite (datagramOffset bytes * t.mtuBytes) (datagramPayload bytes)
      m).setReceived t.slot (datagramOffset bytes)) := by
  obtain ⟨msg, b, hmsg, hstate, hgen, hbuf, hsize, hmsgMtu, hb, htotal⟩ := hopen
  generalize hm₁ : t.afterWrite (datagramOffset bytes * t.mtuBytes) (datagramPayload bytes) m = m₁
  have hconn : m₁.conn = m.conn := hm₁ ▸ conn_afterWrite
  have hmsg₁ : m₁.message t.slot = some msg := by rw [message, hconn]; exact hmsg
  have hback₁ : m₁.backendBitmap t.slot = some b := by simp [backendBitmap, hmsg₁, hb]
  have hrecorded : ∀ o, t.Recorded m₁ o ↔ t.Recorded m o := fun o => by
    rw [Recorded, Recorded, backendBitmap, backendBitmap, message, message, hconn]
  have hafter : (m₁.setReceived t.slot (datagramOffset bytes)).message t.slot
      = some { msg with backendBitmap := some (b.setPacketReceived (datagramOffset bytes)).2 } := by
    rw [setReceived, message_mapMessage, hmsg₁]
    simp [hb]
  refine ⟨⟨_, _, hafter, hstate, hgen, hbuf, hsize, hmsgMtu, rfl, ?_⟩, fun o => ?_, fun j hj => ?_,
    fun j hj => ?_⟩
  · rw [BackendBitmap.totalPackets_setPacketReceived, htotal]
  · rw [recorded_setReceived hback₁ htotal, hrecorded]
  · obtain ⟨k, rfl⟩ := Nat.exists_eq_add_of_le hj.start
    rw [Nat.add_sub_cancel_left]
    exact hm₁ ▸ afterWrite_inside (Nat.lt_of_add_lt_add_left hj.stop) hj.inside
  · have hsame : m₁.buffers t.buffer j = m.buffers t.buffer j := by
      rw [← hm₁]
      refine afterWrite_outside ?_
      by_contra hinside
      exact hj ⟨hnew, by omega, by omega, by omega⟩
    exact hsame

lemma delivered (hmtu : 1 ≤ t.mtuBytes) (hopen : t.Open m) (hnames : t.Names bytes) :
    Delivered t m bytes (deliver m bytes) := by
  have hm := hopen
  obtain ⟨msg, b, hmsg, hstate, hgen, hbuf, hsize, hmsgMtu, hb, htotal⟩ := hm
  have hback : m.backendBitmap t.slot = some b := by simp [backendBitmap, hmsg, hb]
  have hrun := run_receiveDatagram_open hnames hmsg hstate hgen hbuf (hmsgMtu ▸ hmtu)
  rw [hmsgMtu, hsize, hb, Option.any_some] at hrun
  have hreceived : t.Recorded m (datagramOffset bytes)
      ↔ b.isPacketReceived (datagramOffset bytes) = true := by simp [Recorded, hback]
  by_cases hdup : t.Recorded m (datagramOffset bytes)
  · rw [hrun, if_pos (hreceived.mp hdup)]
    refine ⟨hopen, fun o => ?_, fun j hj => absurd hdup hj.new, fun j _ => rfl⟩
    exact ⟨Or.inl, fun h => h.elim id fun h => h.1 ▸ hdup⟩
  · rw [if_neg (hreceived.not.mp hdup)] at hrun
    rw [hrun]
    exact delivered_new hopen hdup

/-! ### Sequences of datagrams -/

section Sequence

variable {datagrams : List (List U8)} (hmtu : 1 ≤ t.mtuBytes)
  (hnames : ∀ bytes ∈ datagrams, t.Names bytes)
include hmtu hnames

lemma open_foldl (hopen : t.Open m) : t.Open (datagrams.foldl deliver m) :=
  foldl_keeps (P := t.Open) (fun _ bytes hmem h =>
    (delivered hmtu h (hnames bytes hmem)).isOpen) hopen

/-- A bit that is set stays set. -/
lemma recorded_foldl (hopen : t.Open m) {o : ℕ} (h : t.Recorded m o) :
    t.Recorded (datagrams.foldl deliver m) o := by
  have hboth : t.Open (datagrams.foldl deliver m) ∧ t.Recorded (datagrams.foldl deliver m) o := by
    refine foldl_keeps (P := fun m => t.Open m ∧ t.Recorded m o) ?_ ⟨hopen, h⟩
    rintro m bytes hmem ⟨hopen, h⟩
    have hdelivered := delivered hmtu hopen (hnames bytes hmem)
    exact ⟨hdelivered.isOpen, (hdelivered.recorded o).mpr (Or.inl h)⟩
  exact hboth.2

end Sequence

/-- A datagram that fills its place leaves the bytes of recorded packets alone. -/
lemma Fills.kept (h : t.Fills m bytes) {m' : ReceiverMemory} (hm' : Delivered t m bytes m')
    {o j : ℕ} (ho : t.Recorded m o) (hj : t.InPacket o j) :
    m'.buffers t.buffer j = m.buffers t.buffer j := by
  by_cases hwrites : t.Writes m bytes j
  · rw [hm'.written j hwrites]
    exact (h hwrites.new).2 o j ho hj hwrites
  · exact hm'.unwritten j hwrites

/-- A datagram that fills its place writes every byte of it. -/
lemma Fills.writes (h : t.Fills m bytes) (hnew : ¬ t.Recorded m (datagramOffset bytes))
    (ho : datagramOffset bytes < t.totalPackets) {j : ℕ}
    (hj : t.InPacket (datagramOffset bytes) j) : t.Writes m bytes j := by
  obtain ⟨hstart, hstop, hinside⟩ := hj
  have hlong := (h hnew).1 ho
  rw [Nat.succ_mul] at hstop
  exact ⟨hnew, hstart, by omega, hinside⟩

section Trusted

variable {datagrams : List (List U8)} (hmtu : 1 ≤ t.mtuBytes) (hfresh : t.Fresh m)
  (hnames : ∀ bytes ∈ datagrams, t.Names bytes)
include hmtu hfresh hnames

/-- Where every datagram fills its place, the bits can be trusted. -/
lemma trusted_of_fills (hfills : EachStep t.Fills deliver datagrams m) :
    t.Trusted m datagrams := by
  rw [eachStep_iff_forall_split] at hfills
  constructor
  · intro before after hsplit o ho j hj
    induction before using List.reverseRecOn generalizing after with
    | nil => exact absurd ho (hfresh.empty o)
    | append_singleton before bytes ih =>
      have hsplit' : datagrams = before ++ bytes :: after := by rw [hsplit]; simp
      have hbefore : ∀ bytes ∈ before, t.Names bytes := fun b hb =>
        hnames b (by rw [hsplit']; exact List.mem_append_left _ hb)
      have hdelivered := delivered hmtu (open_foldl hmtu hbefore hfresh.isOpen)
        (hnames bytes (by rw [hsplit']; simp))
      rw [List.foldl_append, List.foldl_cons, List.foldl_nil, hdelivered.recorded] at ho
      by_cases hold : t.Recorded (before.foldl deliver m) o
      · obtain ⟨earlier, bytes', later, rfl, hoffset, hwrites⟩ := ih (bytes :: after) hsplit' hold
        exact ⟨earlier, bytes', later ++ [bytes], by simp, hoffset, hwrites⟩
      · obtain ⟨rfl, hlt⟩ := ho.resolve_left hold
        exact ⟨before, bytes, [], rfl, rfl, (hfills before bytes after hsplit').writes hold hlt hj⟩
  · intro before between after hsplit o ho j hj
    induction between using List.reverseRecOn generalizing after with
    | nil => rw [List.append_nil]
    | append_singleton between bytes ih =>
      have hsplit' : datagrams = (before ++ between) ++ bytes :: after := by rw [hsplit]; simp
      have hnames' : ∀ bytes ∈ before ++ between, t.Names bytes := fun b hb =>
        hnames b (by rw [hsplit']; exact List.mem_append_left _ hb)
      have hdelivered := delivered hmtu (open_foldl hmtu hnames' hfresh.isOpen)
        (hnames bytes (by rw [hsplit']; simp))
      have hrecorded : t.Recorded ((before ++ between).foldl deliver m) o := by
        rw [List.foldl_append]
        exact recorded_foldl hmtu (fun b hb => hnames' b (List.mem_append_right _ hb))
          (open_foldl hmtu (fun b hb => hnames' b (List.mem_append_left _ hb)) hfresh.isOpen) ho
      rw [← ih (bytes :: after) (by rw [hsplit']), ← List.append_assoc, List.foldl_append,
        List.foldl_cons, List.foldl_nil]
      exact (hfills _ bytes after hsplit').kept hdelivered hrecorded hj

/-- Where the bits can be trusted, every datagram fills its place. -/
lemma fills_of_trusted (h : t.Trusted m datagrams) : EachStep t.Fills deliver datagrams m := by
  rw [eachStep_iff_forall_split]
  intro before bytes after hsplit hnew
  have hbefore : ∀ bytes ∈ before, t.Names bytes := fun b hb =>
    hnames b (by rw [hsplit]; exact List.mem_append_left _ hb)
  have hdelivered := delivered hmtu (open_foldl hmtu hbefore hfresh.isOpen)
    (hnames bytes (by rw [hsplit]; simp))
  constructor
  · intro hlt
    by_contra hshort
    -- the first byte that the payload does not reach
    have hmissing : t.InPacket (datagramOffset bytes)
        (datagramOffset bytes * t.mtuBytes + (datagramPayload bytes).length) := by
      refine ⟨Nat.le_add_right _ _, ?_, ?_⟩
      · rw [Nat.succ_mul]
        omega
      · omega
    have hset : t.Recorded ((before ++ [bytes]).foldl deliver m) (datagramOffset bytes) := by
      rw [List.foldl_append, List.foldl_cons, List.foldl_nil, hdelivered.recorded]
      exact Or.inr ⟨rfl, hlt⟩
    obtain ⟨earlier, bytes', later, hsame, hoffset, hwrites⟩ :=
      h.written (before ++ [bytes]) after (by rw [hsplit]; simp) _ hset _ hmissing
    rcases List.eq_nil_or_concat later with rfl | ⟨later, last, rfl⟩
    · obtain ⟨rfl, hbytes⟩ := List.append_inj' hsame rfl
      obtain rfl := (List.cons.inj hbytes).1
      exact lt_irrefl _ hwrites.stop
    · -- an earlier datagram of the packet has recorded it
      rw [List.concat_eq_append, ← List.cons_append, ← List.append_assoc] at hsame
      obtain ⟨rfl, -⟩ := List.append_inj' hsame rfl
      refine hnew ?_
      have hearlier : ∀ b ∈ earlier, t.Names b := fun b hb =>
        hbefore b (List.mem_append_left _ hb)
      have hopen := open_foldl hmtu hearlier hfresh.isOpen
      have hfirst := delivered hmtu hopen (hbefore bytes' (by simp))
      rw [List.foldl_append, List.foldl_cons]
      refine recorded_foldl hmtu (fun b hb => hbefore b (by simp [hb])) hfirst.isOpen ?_
      exact (hfirst.recorded _).mpr (Or.inr ⟨hoffset.symm, hlt⟩)
  · intro o j ho hj hwrites
    have hkept := h.kept before [bytes] after (by rw [hsplit]; simp) o ho j hj
    rw [List.foldl_append, List.foldl_cons, List.foldl_nil, hdelivered.written j hwrites] at hkept
    exact hkept

end Trusted

end OpenMessage

/-- A post leaves its message like this, with an MTU that is not zero. -/
theorem OpenMessage.fresh_of_slotSetUp {m m' : ReceiverMemory} {msgId buffer length : ℕ}
    {generation : U32} {offer : ConnectionParams} {handle : SDRRecvHandle}
    (h : SlotSetUp m msgId generation buffer length offer handle m') :
    1 ≤ (negotiate m.conn.connectionCtx.params offer length).mtuBytes.toNat ∧
      OpenMessage.Fresh ⟨msgId, m.conn.connectionCtx.generationCounters msgId, buffer, length,
        (negotiate m.conn.connectionCtx.params offer length).mtuBytes.toNat⟩ m' := by
  have hmtu := (negotiate_mtuBytes m.conn.connectionCtx.params offer length).1
  have hppc := negotiate_packetsPerChunk m.conn.connectionCtx.params offer length
  obtain ⟨msg, htable, hgen, hstate⟩ := h.table
  generalize negotiate m.conn.connectionCtx.params offer length = params at *
  have hmessage : m'.message msgId
      = some (initMessage msg buffer length (params.withTransferId generation)) := by
    rw [message, htable, Function.update_self]
  have hsizes : (ConnectionContext.calculateBitmapSizes length params.mtuBytes
      params.packetsPerChunk).1 = ceilDiv length params.mtuBytes.toNat := by
    rw [ConnectionContext.calculateBitmapSizes_of_pos _ hmtu hppc]
  refine ⟨hmtu, ⟨_, _, hmessage, hstate, hgen, rfl, rfl, rfl, rfl, ?_⟩, fun o ho => ?_⟩
  · exact congrArg (· % 2 ^ 32) hsizes
  · simp only [OpenMessage.Recorded, backendBitmap, hmessage, Option.bind_some] at ho
    have hreceived := (BackendBitmap.isPacketReceived_iff _ o).mp ho
    rw [BackendBitmap.received_create] at hreceived
    exact hreceived.2

/-! ### A message of five packets -/

/-- The message of `ReceiverMemory.posted 10 2`. -/
def sampleOpen : OpenMessage := ⟨0, 1, 0, 10, 2⟩

lemma sampleOpen_fresh : sampleOpen.Fresh (ReceiverMemory.posted 10 2) where
  isOpen := ⟨_, _, rfl, rfl, rfl, rfl, rfl, rfl, rfl, rfl⟩
  empty o h := by
    have hreceived := ((BackendBitmap.create 5 1).isPacketReceived_iff o).mp h
    rw [BackendBitmap.received_create] at hreceived
    exact hreceived.2

/-- A datagram of packet 0 that is nothing but a header. -/
def emptyDatagram : List U8 :=
  SDRPacketHeader.layout.encode { SDRPacketHeader.zero with
    magic := SDRPacketHeader.magicValue, transferId := 1 }.toNetworkOrder

end SdrUdp
