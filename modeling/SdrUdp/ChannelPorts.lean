import SdrUdp.SlotHistory

/-!
# Channel ports

The UDP receiver of a connection binds its ports at the first accepted OFFER, while the channels are
negotiated anew with each. The send paths derive the port of a packet from different fields.
-/

namespace SdrUdp

open SdrUdp.Core

/-- The ports that the workers of a running receiver ask for. -/
def UDPReceiver.channelPorts (r : UDPReceiver) : List U16 :=
  if r.isRunning then
    (List.range r.numChannels.toNat).map fun idx => r.basePort + BitVec.ofNat 16 idx
  else []

/-- The ports that they have bound: a worker whose port has wrapped to 0 is given an `ephemeral` one
by the system. -/
def UDPReceiver.ports (ephemeral : U16) (r : UDPReceiver) : List U16 :=
  r.channelPorts.map fun port => orDefault port ephemeral

/-- What sends data packets. -/
inductive SendPath where
  | sendPost
  | streamContinue
  | sendPacketsRange
  | retransmitChunk
  deriving DecidableEq

/-- The port that `sdr_send_post` and `sdr_send_stream_continue` send packet `i` to. -/
def channelPort (params : ConnectionParams) (i : ℕ) : U16 :=
  let numChannels := orDefault params.numChannels 1
  let basePort := orDefault params.channelBasePort params.udpServerPort
  basePort + BitVec.ofNat 16 (i % numChannels.toNat)

/-- The destination port of packet `i`; the retransmissions know one port only. -/
def SendPath.port (params : ConnectionParams) (i : ℕ) : SendPath → U16
  | sendPost         => channelPort params i
  | streamContinue   => channelPort params i
  | sendPacketsRange => params.udpServerPort
  | retransmitChunk  => params.udpServerPort

/-- Every port that some path uses for one of the first `packets` packets is bound. -/
def PortsBound (ephemeral : U16) (receiver : Option UDPReceiver) (params : ConnectionParams)
    (packets : ℕ) : Prop :=
  ∀ path : SendPath, ∀ i < packets, ∃ r, receiver = some r ∧
    path.port params i ∈ r.ports ephemeral

/-! ### Bound ports -/

/-- How far a port is above the base port. -/
lemma toNat_add_sub (base : U16) {k : ℕ} (hk : k < 2 ^ 16) :
    (base + BitVec.ofNat 16 k - base).toNat = k := by
  rw [BitVec.add_comm, BitVec.add_sub_cancel, BitVec.toNat_ofNat, Nat.mod_eq_of_lt hk]

/-- The channel whose port wraps to 0. -/
lemma add_ofNat_eq_zero_iff {base : U16} (hbase : base ≠ 0) {k : ℕ} (hk : k < 2 ^ 16) :
    base + BitVec.ofNat 16 k = 0 ↔ base.toNat + k = 2 ^ 16 := by
  have hpos := BitVec.toNat_pos_of_ne_zero hbase
  have hlt := base.isLt
  rw [← BitVec.toNat_inj, BitVec.toNat_add, BitVec.toNat_ofNat, Nat.mod_eq_of_lt hk,
    show (0 : U16).toNat = 0 from rfl]
  omega

/-- How many ports there are from a base port up to the wrap. -/
lemma toNat_zero_sub {base : U16} (hbase : base ≠ 0) : (0 - base).toNat = 2 ^ 16 - base.toNat := by
  have hpos := BitVec.toNat_pos_of_ne_zero hbase
  have hlt := base.isLt
  rw [BitVec.toNat_sub, show (0 : U16).toNat = 0 from rfl]
  omega

lemma UDPReceiver.mem_channelPorts_iff {r : UDPReceiver} (hrunning : r.isRunning = true)
    (port : U16) : port ∈ r.channelPorts ↔ (port - r.basePort).toNat < r.numChannels.toNat := by
  rw [channelPorts, if_pos hrunning, List.mem_map]
  constructor
  · rintro ⟨idx, hidx, rfl⟩
    have hlt := List.mem_range.mp hidx
    have := r.numChannels.isLt
    rw [toNat_add_sub _ (by omega)]
    exact hlt
  · intro h
    refine ⟨(port - r.basePort).toNat, List.mem_range.mpr h, ?_⟩
    rw [BitVec.ofNat_toNat, BitVec.setWidth_eq, BitVec.add_comm, BitVec.sub_add_cancel]

/-- A port is bound when it is that of a channel, or the one that a wrapped channel was given. -/
lemma UDPReceiver.mem_ports_iff {r : UDPReceiver} {ephemeral : U16} (hephemeral : ephemeral ≠ 0)
    (hrunning : r.isRunning = true) (hbase : r.basePort ≠ 0) (port : U16) :
    port ∈ r.ports ephemeral ↔ port ≠ 0 ∧
      ((port - r.basePort).toNat < r.numChannels.toNat ∨
        (port = ephemeral ∧ 2 ^ 16 < r.basePort.toNat + r.numChannels.toNat)) := by
  have hwrap : (0 : U16) ∈ r.channelPorts ↔ 2 ^ 16 < r.basePort.toNat + r.numChannels.toNat := by
    have hlt := r.basePort.isLt
    rw [mem_channelPorts_iff hrunning, toNat_zero_sub hbase]
    omega
  rw [ports, List.mem_map, ← mem_channelPorts_iff hrunning, ← hwrap]
  constructor
  · rintro ⟨asked, hasked, rfl⟩
    rcases eq_or_ne asked 0 with rfl | hne
    · exact ⟨hephemeral, Or.inr ⟨rfl, hasked⟩⟩
    · rw [orDefault, if_neg hne]
      exact ⟨hne, Or.inl hasked⟩
  · rintro ⟨hne, hasked | ⟨rfl, hzero⟩⟩
    · exact ⟨port, hasked, if_neg hne⟩
    · exact ⟨0, hzero, if_pos rfl⟩

/-- A transfer with settled ports reaches a running receiver on all paths exactly when the receiver
has as many channels as the transfer uses, none of them wraps to port 0, and the server port is
bound. -/
lemma portsBound_iff {r : UDPReceiver} {params : ConnectionParams} {packets : ℕ} {ephemeral : U16}
    (hephemeral : ephemeral ≠ 0) (hbase : params.channelBasePort ≠ 0)
    (hserver : params.udpServerPort ≠ 0) (hchannels : params.numChannels ≠ 0)
    (hsame : r.basePort = params.channelBasePort) (hpackets : 0 < packets) :
    PortsBound ephemeral (some r) params packets ↔ r.isRunning = true ∧
      min packets params.numChannels.toNat ≤ r.numChannels.toNat ∧
      params.channelBasePort.toNat + min packets params.numChannels.toNat ≤ 2 ^ 16 ∧
      ((params.udpServerPort - params.channelBasePort).toNat < r.numChannels.toNat ∨
        (params.udpServerPort = ephemeral ∧
          2 ^ 16 < params.channelBasePort.toNat + r.numChannels.toNat)) := by
  have hport : ∀ i, channelPort params i
      = params.channelBasePort + BitVec.ofNat 16 (i % params.numChannels.toNat) := fun i => by
    simp only [channelPort, orDefault, if_neg hbase, if_neg hchannels]
  have hpos : 0 < params.numChannels.toNat := BitVec.toNat_pos_of_ne_zero hchannels
  have hmod : ∀ i, i % params.numChannels.toNat < 2 ^ 16 := fun i =>
    (Nat.mod_lt _ hpos).trans params.numChannels.isLt
  have hbasePos := BitVec.toNat_pos_of_ne_zero hbase
  have hmem := fun hrunning =>
    UDPReceiver.mem_ports_iff (r := r) hephemeral hrunning (hsame ▸ hbase)
  rw [hsame] at hmem
  constructor
  · intro h
    have hall : ∀ path : SendPath, ∀ i < packets, path.port params i ∈ r.ports ephemeral :=
      fun path i hi => by
      obtain ⟨r', hr', hport⟩ := h path i hi
      exact Option.some.inj hr' ▸ hport
    have hrunning : r.isRunning = true := by
      by_contra hstopped
      have := hall .sendPost 0 hpackets
      simp [UDPReceiver.ports, UDPReceiver.channelPorts, hstopped] at this
    have hchannel : ∀ i < min packets params.numChannels.toNat,
        params.channelBasePort + BitVec.ofNat 16 i ∈ r.ports ephemeral := fun i hi => by
      have := hall .sendPost i (by omega)
      rwa [SendPath.port, hport, Nat.mod_eq_of_lt (by omega)] at this
    have hwrap : params.channelBasePort.toNat + min packets params.numChannels.toNat ≤ 2 ^ 16 := by
      refine not_lt.mp fun hlt => ?_
      have hlast := ((hmem hrunning _).mp
        (hchannel (2 ^ 16 - params.channelBasePort.toNat) (by omega))).1
      exact hlast ((add_ofNat_eq_zero_iff hbase (by omega)).mpr (by omega))
    refine ⟨hrunning, not_lt.mp fun hlt => ?_, hwrap,
      ((hmem hrunning _).mp (hall .sendPacketsRange 0 hpackets)).2⟩
    -- the first channel that was not started lies below the wrap, so no ephemeral port stands in
    rcases ((hmem hrunning _).mp (hchannel _ hlt)).2 with hidx | ⟨-, hwrapped⟩
    · rw [toNat_add_sub _ r.numChannels.isLt] at hidx
      exact lt_irrefl _ hidx
    · omega
  · rintro ⟨hrunning, hmany, hwrap, hbound⟩ path i hi
    have hchannel : channelPort params i ∈ r.ports ephemeral := by
      have hle := Nat.mod_le i params.numChannels.toNat
      have hlt := Nat.mod_lt i hpos
      rw [hmem hrunning, hport, toNat_add_sub _ (hmod _)]
      refine ⟨fun hzero => ?_, Or.inl (by omega)⟩
      have hsum := (add_ofNat_eq_zero_iff hbase (hmod i)).mp hzero
      omega
    have hretransmit : params.udpServerPort ∈ r.ports ephemeral :=
      (hmem hrunning _).mpr ⟨hserver, hbound⟩
    refine ⟨r, rfl, ?_⟩
    cases path with
    | sendPost => exact hchannel
    | streamContinue => exact hchannel
    | sendPacketsRange => exact hretransmit
    | retransmitChunk => exact hretransmit

/-! ### Runs of a connection -/

/-- One event, with the parameters of the transfers that were announced to the sender. -/
def announce (tm : List ConnectionParams × ReceiverMemory) (e : SlotEvent) :
    List ConnectionParams × ReceiverMemory :=
  (match e with
    | .recvPost msgId generation buffer length offer opened answer =>
      match (recvPostOnOffer tm.2 msgId generation buffer length offer opened answer).1 with
      | .ready _ (some cts) => cts.params :: tm.1
      | _                   => tm.1
    | _ => tm.1,
    e.apply tm.2)

/-- Ports that a negotiation leaves as they are. -/
structure Settled (server base : U16) (p : ConnectionParams) : Prop where
  server : p.udpServerPort = server
  base : p.channelBasePort = base
  channels : p.numChannels ≠ 0

/-- The ports that a configuration leads to. -/
def settledPorts (own : ConnectionParams) : U16 × U16 :=
  let p := negotiate own .zero 0
  (p.udpServerPort, p.channelBasePort)

lemma settledPorts_ne_zero (own : ConnectionParams) :
    (settledPorts own).1 ≠ 0 ∧ (settledPorts own).2 ≠ 0 :=
  have hserver := orDefault_ne_zero (orDefault_ne_zero (by decide))
  ⟨hserver, orDefault_ne_zero hserver⟩

lemma negotiate_settled (own offer : ConnectionParams) (length : ℕ) :
    Settled (settledPorts own).1 (settledPorts own).2 (negotiate own offer length) :=
  ⟨rfl, rfl, orDefault_ne_zero (orDefault_ne_zero (by decide))⟩

/-- Settled ports stay as they are. -/
lemma Settled.settledPorts {server base : U16} {p : ConnectionParams} (h : Settled server base p)
    (hserver : server ≠ 0) (hbase : base ≠ 0) : settledPorts p = (server, base) := by
  simp only [SdrUdp.settledPorts, negotiate, orDefault, h.server, h.base, if_neg hserver,
    if_neg hbase]

/-- What only a post changes. -/
structure PortsKept (m m' : ReceiverMemory) : Prop where
  params : m'.conn.connectionCtx.params = m.conn.connectionCtx.params
  receiver : m'.conn.udpReceiver = m.conn.udpReceiver

lemma ReceiverMemory.sendMessage_udpReceiver (m : ReceiverMemory) (msg : ControlMessage)
    (answer : ℤ) : (m.sendMessage msg answer).conn.udpReceiver = m.conn.udpReceiver := by
  unfold sendMessage; split <;> rfl

lemma ReceiverAction.portsKept {act : ReceiverMemory → ReceiverMemory} (hact : ReceiverAction act)
    (m : ReceiverMemory) : PortsKept m (act m) := by
  cases hact with
  | write ptr offset data => cases ptr <;> exact ⟨rfl, rfl⟩
  | retire id =>
    refine ⟨?_, rfl⟩
    simp only [ReceiverMemory.completeMessage, ConnectionContext.completeMessage]
    split_ifs <;> rfl
  | verdict isComplete answer =>
    exact ⟨by rw [ReceiverMemory.sendMessage_connectionCtx], m.sendMessage_udpReceiver _ _⟩
  | _ => exact ⟨rfl, rfl⟩

lemma portsKept_allocateMessageSlot (m : ReceiverMemory) (msgId : ℕ) (generation : U32) :
    PortsKept m ((SlotEvent.allocateMessageSlot msgId generation).apply m) := by
  rw [SlotEvent.apply]
  split
  · exact ⟨rfl, rfl⟩
  · rename_i ctx hslot
    obtain ⟨-, -, -, -, -, -, rfl⟩ := ConnectionContext.allocateMessageSlot_eq_some hslot
    exact ⟨rfl, rfl⟩

lemma portsKept_releaseMessage (m : ReceiverMemory) (msgId : ℕ) :
    PortsKept m ((SlotEvent.releaseMessage msgId).apply m) := by
  refine ⟨?_, rfl⟩
  simp only [SlotEvent.apply, ConnectionContext.releaseMessage]
  split_ifs <;> rfl

/-- An accepted OFFER starts the UDP receiver unless there is one; a refused one does not. -/
lemma recvPostOnOffer_udpReceiver (m : ReceiverMemory) (msgId : ℕ) (generation : U32)
    (buffer length : ℕ) (offer : ConnectionParams) (opened : Bool) (answer : ℤ) :
    let result := recvPostOnOffer m msgId generation buffer length offer opened answer
    (result.1 = .refused ∧ result.2.conn.udpReceiver = m.conn.udpReceiver) ∨
      result.2.conn.udpReceiver = (startReceiver m.conn.udpReceiver
        ((negotiate m.conn.connectionCtx.params offer length).withTransferId generation)
        opened).2 := by
  unfold recvPostOnOffer
  dsimp only
  split
  · exact Or.inl ⟨rfl, rfl⟩
  · refine Or.inr ?_
    split_ifs
    · rfl
    · split
      · rfl
      · split_ifs
        · rfl
        · rw [ReceiverMemory.sendMessage_udpReceiver]
        · rw [ReceiverMemory.sendMessage_udpReceiver]

/-- The books of a connection with settled ports. -/
structure PortsInv (server base : U16) (tm : List ConnectionParams × ReceiverMemory) : Prop where
  params : settledPorts tm.2.conn.connectionCtx.params = (server, base)
  transfers : ∀ p ∈ tm.1, Settled server base p
  receiver : ∀ r, tm.2.conn.udpReceiver = some r → r.basePort = base
  started : tm.1 ≠ [] → tm.2.conn.udpReceiver ≠ none

section PortsInv

variable {server base : U16} {ts : List ConnectionParams} {m m' : ReceiverMemory}

lemma PortsInv.kept (h : PortsInv server base (ts, m)) (hm : PortsKept m m') :
    PortsInv server base (ts, m') := by
  refine ⟨?_, h.transfers, ?_, ?_⟩
  · rw [hm.params]; exact h.params
  · rw [hm.receiver]; exact h.receiver
  · rw [hm.receiver]; exact h.started

lemma startReceiver_basePort {receiver : Option UDPReceiver} (hr : ∀ r, receiver = some r →
    r.basePort = base) (params : ConnectionParams) (hbase : params.channelBasePort = base)
    (opened : Bool) :
    ∃ r, (startReceiver receiver params opened).2 = some r ∧ r.basePort = base := by
  cases receiver with
  | none => exact ⟨_, rfl, hbase⟩
  | some r => exact ⟨r, rfl, hr r rfl⟩

/-- One event keeps the books. -/
lemma PortsInv.announce (hserver : server ≠ 0) (hbase : base ≠ 0)
    (h : PortsInv server base (ts, m)) (e : SlotEvent) :
    PortsInv server base (announce (ts, m) e) := by
  cases e with
  | recvPost msgId generation buffer length offer opened answer =>
    have hspec := recvPostOnOffer_spec m msgId generation buffer length offer opened answer
    have hudp := recvPostOnOffer_udpReceiver m msgId generation buffer length offer opened answer
    have hsettled : Settled server base (negotiate m.conn.connectionCtx.params offer length) := by
      have := negotiate_settled m.conn.connectionCtx.params offer length
      rwa [h.params] at this
    simp only [SdrUdp.announce, SlotEvent.apply]
    generalize recvPostOnOffer m msgId generation buffer length offer opened answer = result
      at hspec hudp ⊢
    obtain ⟨outcome, m'⟩ := result
    have hparams : settledPorts m'.conn.connectionCtx.params = (server, base) := by
      rw [hspec.params]
      exact hsettled.settledPorts hserver hbase
    rcases hudp with ⟨hrefused, hsame⟩ | hstart
    · dsimp only at hrefused hsame
      subst hrefused
      refine ⟨hparams, h.transfers, ?_, ?_⟩
      · rw [hsame]; exact h.receiver
      · rw [hsame]; exact h.started
    · dsimp only at hstart
      obtain ⟨r, hr, hrbase⟩ := startReceiver_basePort h.receiver
        ((negotiate m.conn.connectionCtx.params offer length).withTransferId generation)
        hsettled.base opened
      rw [hr] at hstart
      refine ⟨hparams, fun p hp => ?_, fun r' hr' => ?_, fun _ => by rw [hstart]; simp⟩
      · cases outcome with
        | refused => exact h.transfers p hp
        | failed handle => exact h.transfers p hp
        | ready handle cts =>
          cases cts with
          | none => exact h.transfers p hp
          | some cts =>
            rcases List.mem_cons.mp hp with rfl | hp
            · rw [(hspec.cts handle cts rfl).2]
              exact ⟨hsettled.server, hsettled.base, hsettled.channels⟩
            · exact h.transfers p hp
      · obtain rfl := Option.some.inj (hstart.symm.trans hr')
        exact hrbase
  | thread act hact => exact h.kept (hact.portsKept m)
  | allocateMessageSlot msgId generation => exact h.kept (portsKept_allocateMessageSlot m _ _)
  | releaseMessage msgId => exact h.kept (portsKept_releaseMessage m _)

end PortsInv

/-- At any time after any sequence of OFFERs, the packets of an announced transfer all go to bound
ports exactly when the receiver that the first accepted OFFER started is running, has enough
channels for the packets' ports, none of which wraps to 0, and has bound the server port. -/
theorem portsBound_run_iff {m : ReceiverMemory} (hfresh : m.conn.udpReceiver = none)
    {ephemeral : U16} (hephemeral : ephemeral ≠ 0) (events : List SlotEvent)
    {p : ConnectionParams} (hp : p ∈ (events.foldl announce ([], m)).1) {packets : ℕ}
    (hpackets : 0 < packets) :
    PortsBound ephemeral (events.foldl announce ([], m)).2.conn.udpReceiver p packets ↔
      ∃ r, (events.foldl announce ([], m)).2.conn.udpReceiver = some r ∧ r.isRunning = true ∧
        min packets p.numChannels.toNat ≤ r.numChannels.toNat ∧
        p.channelBasePort.toNat + min packets p.numChannels.toNat ≤ 2 ^ 16 ∧
        ((p.udpServerPort - p.channelBasePort).toNat < r.numChannels.toNat ∨
          (p.udpServerPort = ephemeral ∧
            2 ^ 16 < p.channelBasePort.toNat + r.numChannels.toNat)) := by
  obtain ⟨hserver, hbase⟩ := settledPorts_ne_zero m.conn.connectionCtx.params
  have hinv : PortsInv (settledPorts m.conn.connectionCtx.params).1
      (settledPorts m.conn.connectionCtx.params).2 (events.foldl announce ([], m)) :=
    foldl_keeps (P := PortsInv _ _) (fun _ e _ h => h.announce hserver hbase e)
      ⟨rfl, by simp, by simp [hfresh], by simp⟩
  have hsettled := hinv.transfers p hp
  obtain ⟨r, hr⟩ := Option.ne_none_iff_exists'.mp (hinv.started (List.ne_nil_of_mem hp))
  rw [hr]
  have hiff := portsBound_iff (r := r) hephemeral (by rw [hsettled.base]; exact hbase)
    (by rw [hsettled.server]; exact hserver) hsettled.channels
    ((hinv.receiver r hr).trans hsettled.base.symm) hpackets
  rw [hiff]
  exact ⟨fun h => ⟨r, rfl, h⟩, fun ⟨r', hr', h⟩ => Option.some.inj hr' ▸ h⟩

/-- The post of a receive that takes an OFFER of `channels` channels. -/
def postWithChannels (msgId : ℕ) (channels : U16) : SlotEvent :=
  .recvPost msgId 1 msgId 4 { desiredParams .zero 4 with numChannels := channels } true
    sizeofControlMessage

/-- Two packets over two channels reach the receiver. -/
theorem portsBound_run_two :
    let run := [postWithChannels 0 2].foldl announce ([], ReceiverMemory.idle)
    ∃ p ∈ run.1, PortsBound 40000 run.2.conn.udpReceiver p 2 := by
  have hrun : ([postWithChannels 0 2].foldl announce ([], ReceiverMemory.idle)).1
      = [(negotiate .zero { desiredParams .zero 4 with numChannels := 2 } 4).withTransferId 1] := by
    decide +kernel
  have hreceiver : ([postWithChannels 0 2].foldl announce
      ([], ReceiverMemory.idle)).2.conn.udpReceiver = some ⟨true, 9999, 2⟩ := by
    decide +kernel
  have hmem := List.mem_singleton_self
    ((negotiate .zero { desiredParams .zero 4 with numChannels := 2 } 4).withTransferId 1)
  rw [← hrun] at hmem
  exact ⟨_, hmem, (portsBound_run_iff rfl (by decide) [postWithChannels 0 2] hmem (by decide)).mpr
    ⟨_, hreceiver, rfl, by decide +kernel, by decide +kernel, Or.inl (by decide +kernel)⟩⟩

/-- After an OFFER of one channel, the second packet of a transfer over two channels goes to a port
that nobody has bound. -/
theorem not_portsBound_second :
    let run := [postWithChannels 0 1, postWithChannels 1 2].foldl announce ([], ReceiverMemory.idle)
    ∃ p ∈ run.1, ¬ PortsBound 40000 run.2.conn.udpReceiver p 2 := by
  have hreceiver : ([postWithChannels 0 1, postWithChannels 1 2].foldl announce
      ([], ReceiverMemory.idle)).2.conn.udpReceiver = some ⟨true, 9999, 1⟩ := by
    decide +kernel
  have hports : ([postWithChannels 0 1, postWithChannels 1 2].foldl announce
      ([], ReceiverMemory.idle)).1.map (fun p => SendPath.sendPost.port p 1) = [10000, 9999] := by
    decide +kernel
  obtain ⟨p, hp, hport⟩ := List.mem_map.mp (hports ▸ List.mem_cons_self)
  refine ⟨p, hp, fun h => ?_⟩
  obtain ⟨r, hr, hbound⟩ := h .sendPost 1 (by decide)
  obtain rfl := Option.some.inj (hreceiver.symm.trans hr)
  rw [hport] at hbound
  exact absurd hbound (by decide)

end SdrUdp
