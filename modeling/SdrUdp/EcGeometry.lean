import SdrUdp.EcDecode
import SdrUdp.EcSender

/-!
# The geometry of an erasure-coded transfer

Chunk size, number of data chunks and parity offsets are computed four times: by both ends
before the handshake, by `ECSender::poll` after it, and by the packets themselves.
-/

namespace SdrUdp

open SdrUdp.Core

/-- Bytes of a chunk of the packets that are sent under these parameters. -/
def ConnectionParams.sentChunkBytes (params : ConnectionParams) : ℕ :=
  params.mtuBytes.toNat * params.packetsPerChunk.toNat

/-- The geometry at both ends of a transfer whose handshake has left `params` with the sender. -/
structure GeometryAgrees (params : ConnectionParams) (encoded : ECLayout) (poll : ECSender)
    (posted : ECLayout) : Prop where
  encodedChunk : encoded.chunkBytes = params.sentChunkBytes
  pollChunk : poll.chunkBytes = params.sentChunkBytes
  postedChunk : posted.chunkBytes = params.sentChunkBytes
  pollData : poll.dataChunks = encoded.dataChunks
  ackedSize : poll.chunkAcked.length = encoded.dataChunks
  postedData : posted.dataChunks = encoded.dataChunks
  postedStripes : posted.stripes = encoded.stripes
  encodedParity : ∀ s < encoded.stripes, ∀ p < encoded.m,
    ecOffset (encoded.parityChunk s p) encoded.chunkBytes
      = (encoded.dataChunks + s * encoded.m + p) * params.sentChunkBytes
  postedParity : ∀ s < encoded.stripes, ∀ p < encoded.m,
    ecOffset (posted.parityChunk s p) posted.chunkBytes
      = (encoded.dataChunks + s * encoded.m + p) * params.sentChunkBytes

/-- Both ends are configured alike: the chunk sizes are the same, and where the receiver leaves only
one of the two parameters to the sender, both parameters are. -/
structure ConfiguredAlike (sender receiver : ConnectionParams) : Prop where
  chunk : ecMtuBytes sender * ecPacketsPerChunk sender
    = ecMtuBytes receiver * ecPacketsPerChunk receiver
  mixed : ¬ (receiver.mtuBytes = 0 ↔ receiver.packetsPerChunk = 0) →
    ecMtuBytes sender = ecMtuBytes receiver ∧ ecPacketsPerChunk sender = ecPacketsPerChunk receiver

/-! ### Chunk sizes -/

lemma ecMtuBytes_le (params : ConnectionParams) : ecMtuBytes params ≤ SDRPacket.maxPayloadSize :=
  min_le_right _ _

lemma ecMtuBytes_pos (params : ConnectionParams) : 0 < ecMtuBytes params :=
  lt_min (orDefault_toNat_pos (by decide)) (by decide)

lemma ecPacketsPerChunk_pos (params : ConnectionParams) : 0 < ecPacketsPerChunk params :=
  orDefault_toNat_pos (by decide)

lemma ecPacketsPerChunk_lt (params : ConnectionParams) : ecPacketsPerChunk params < 2 ^ 16 :=
  (orDefault params.packetsPerChunk 32).isLt

lemma ecMtuBytes_of_pos {params : ConnectionParams} (hpos : 0 < params.mtuBytes.toNat)
    (hle : params.mtuBytes.toNat ≤ SDRPacket.maxPayloadSize) :
    ecMtuBytes params = params.mtuBytes.toNat := by
  rw [ecMtuBytes, orDefault_of_ne (ne_zero_of_toNat_pos hpos), min_eq_left hle]

lemma ecPacketsPerChunk_of_pos {params : ConnectionParams}
    (hpos : 0 < params.packetsPerChunk.toNat) :
    ecPacketsPerChunk params = params.packetsPerChunk.toNat := by
  rw [ecPacketsPerChunk, orDefault_of_ne (ne_zero_of_toNat_pos hpos)]

/-- The 32-bit product of a chunk size does not wrap. -/
lemma ecChunkBytes_eq (params : ConnectionParams) :
    ecChunkBytes params = ecMtuBytes params * ecPacketsPerChunk params := by
  refine Nat.mod_eq_of_lt ?_
  calc ecMtuBytes params * ecPacketsPerChunk params
      ≤ SDRPacket.maxPayloadSize * 2 ^ 16 :=
        Nat.mul_le_mul (ecMtuBytes_le params) (ecPacketsPerChunk_lt params).le
    _ < 2 ^ 32 := by decide

lemma ECLayout.chunkBytes_of (cfg : ECConfig) (params : ConnectionParams) (length : ℕ) :
    (ECLayout.of cfg params length).chunkBytes = ecMtuBytes params * ecPacketsPerChunk params := by
  have hpos := Nat.mul_pos (ecMtuBytes_pos params) (ecPacketsPerChunk_pos params)
  rw [← ecChunkBytes_eq] at hpos ⊢
  exact if_neg hpos.ne'

lemma toNat_min {w : ℕ} (x y : BitVec w) :
    (if x < y then x else y).toNat = min x.toNat y.toNat := by
  split_ifs with h
  · exact (min_eq_left h.le).symm
  · exact (min_eq_right (not_lt.mp h)).symm

/-- What the receiver announces is its own value, or what the sender uses without a handshake. -/
lemma negotiate_ecMtuBytes (sender receiver : ConnectionParams) (sent length : ℕ) :
    (negotiate receiver (desiredParams sender sent) length).mtuBytes.toNat
      = if receiver.mtuBytes = 0 then ecMtuBytes sender else ecMtuBytes receiver := by
  have hsender : orDefault sender.mtuBytes (BitVec.ofNat 32 SDRPacket.maxPayloadSize) ≠ 0 :=
    orDefault_ne_zero (by decide)
  refine (toNat_min _ _).trans ?_
  unfold ecMtuBytes desiredParams
  by_cases h : receiver.mtuBytes = 0
  · rw [if_pos h, h, orDefault_zero, orDefault_of_ne hsender, orDefault_of_ne hsender]
    rfl
  · rw [if_neg h, orDefault_of_ne h, orDefault_of_ne h]
    rfl

lemma negotiate_ecPacketsPerChunk (sender receiver : ConnectionParams) (sent length : ℕ) :
    (negotiate receiver (desiredParams sender sent) length).packetsPerChunk.toNat
      = if receiver.packetsPerChunk = 0 then ecPacketsPerChunk sender
        else ecPacketsPerChunk receiver := by
  have hsender : orDefault sender.packetsPerChunk 32 ≠ 0 := orDefault_ne_zero (by decide)
  simp only [negotiate, desiredParams, ecPacketsPerChunk]
  split_ifs with h
  · rw [h, orDefault_zero, orDefault_of_ne hsender]
  · rw [orDefault_of_ne h, orDefault_of_ne h]

/-- The negotiated chunk size is that of both ends exactly when they are configured alike. -/
lemma configuredAlike_iff (sender receiver : ConnectionParams) :
    ConfiguredAlike sender receiver ↔
      ecMtuBytes sender * ecPacketsPerChunk sender
          = (if receiver.mtuBytes = 0 then ecMtuBytes sender else ecMtuBytes receiver)
            * (if receiver.packetsPerChunk = 0 then ecPacketsPerChunk sender
              else ecPacketsPerChunk receiver) ∧
        ecMtuBytes receiver * ecPacketsPerChunk receiver
          = (if receiver.mtuBytes = 0 then ecMtuBytes sender else ecMtuBytes receiver)
            * (if receiver.packetsPerChunk = 0 then ecPacketsPerChunk sender
              else ecPacketsPerChunk receiver) := by
  have hmtu := ecMtuBytes_pos
  have hppc := ecPacketsPerChunk_pos
  by_cases hm : receiver.mtuBytes = 0 <;> by_cases hp : receiver.packetsPerChunk = 0
  · rw [if_pos hm, if_pos hp]
    exact ⟨fun h => ⟨rfl, h.chunk.symm⟩, fun h =>
      ⟨h.2.symm, fun hne => absurd (iff_of_true hm hp) hne⟩⟩
  · rw [if_pos hm, if_neg hp]
    constructor
    · intro h
      obtain ⟨hm', hp'⟩ := h.mixed fun hiff => hp (hiff.mp hm)
      rw [hm', hp']
      exact ⟨rfl, rfl⟩
    · rintro ⟨hs, hr⟩
      have hp' := Nat.eq_of_mul_eq_mul_left (hmtu sender) hs
      have hm' := Nat.eq_of_mul_eq_mul_right (hppc receiver) hr
      exact ⟨by rw [hp', hm'], fun _ => ⟨hm'.symm, hp'⟩⟩
  · rw [if_neg hm, if_pos hp]
    constructor
    · intro h
      obtain ⟨hm', hp'⟩ := h.mixed fun hiff => hm (hiff.mpr hp)
      rw [hm', hp']
      exact ⟨rfl, rfl⟩
    · rintro ⟨hs, hr⟩
      have hm' := Nat.eq_of_mul_eq_mul_right (hppc sender) hs
      have hp' := Nat.eq_of_mul_eq_mul_left (hmtu receiver) hr
      exact ⟨by rw [hp', hm'], fun _ => ⟨hm', hp'.symm⟩⟩
  · rw [if_neg hm, if_neg hp]
    exact ⟨fun h => ⟨h.chunk, rfl⟩, fun h => ⟨h.1, fun hne => absurd (iff_of_false hm hp) hne⟩⟩

/-! ### Agreement -/

namespace ECLayout

/-- Without data chunks there are no chunks at all. -/
lemma dataChunks_pos {l : ECLayout} (h : l.totalBytes ≠ 0) : 0 < l.dataChunks := by
  rw [Nat.pos_iff_ne_zero]
  intro hzero
  have hstripes : l.stripes = 0 := by
    rw [stripes, hzero, zero_add]
    exact Nat.div_eq_of_lt ((Nat.mod_le _ _).trans_lt (Nat.sub_one_lt l.k_pos.ne'))
  exact h (by rw [totalBytes, totalChunks, parityChunks, hstripes, hzero]; simp)

/-- The number of the last parity chunk. -/
def lastParity (l : ECLayout) : ℕ := l.dataChunks + (l.stripes - 1) * l.m + (l.m - 1)

/-- All parity chunks lie where their number says exactly when the last one does. -/
lemma parityOffsets_iff (l : ECLayout) :
    (∀ s < l.stripes, ∀ p < l.m, ecOffset (l.parityChunk s p) l.chunkBytes
        = (l.dataChunks + s * l.m + p) * l.chunkBytes) ↔
      (l.stripes ≠ 0 → l.lastParity * l.chunkBytes < 2 ^ 32) := by
  constructor
  · intro h hstripes
    have hlast := h (l.stripes - 1) (by omega) (l.m - 1) (Nat.sub_one_lt l.m_pos.ne')
    rw [lastParity, ← hlast]
    exact Nat.mod_lt _ (by decide)
  · intro h s hs p hp
    refine parityOffset_of_lt ((Nat.mul_le_mul_right _ ?_).trans_lt (h (by omega)))
    have hle : s * l.m ≤ (l.stripes - 1) * l.m := Nat.mul_le_mul_right _ (by omega)
    unfold lastParity
    omega

end ECLayout

lemma ecDataChunks_zero (n : ℕ) : ecDataChunks 0 n = 0 := by
  unfold ecDataChunks ceilDiv
  rcases Nat.eq_zero_or_pos n with rfl | hn
  · rfl
  · rw [Nat.div_eq_of_lt ((Nat.mod_le _ _).trans_lt (by omega)), Nat.zero_mod]

/-- `poll` counts with the negotiated chunk size, since negotiation leaves nothing to default. -/
lemma ecChunkBytes_negotiated {sender receiver params : ConnectionParams}
    (hmtu : params.mtuBytes.toNat
      = if receiver.mtuBytes = 0 then ecMtuBytes sender else ecMtuBytes receiver)
    (hppc : params.packetsPerChunk.toNat = if receiver.packetsPerChunk = 0 then
      ecPacketsPerChunk sender else ecPacketsPerChunk receiver) :
    ecChunkBytes params = params.sentChunkBytes := by
  have hmtuBytes : 0 < params.mtuBytes.toNat ∧
      params.mtuBytes.toNat ≤ SDRPacket.maxPayloadSize := by
    rw [hmtu]
    split_ifs
    · exact ⟨ecMtuBytes_pos _, ecMtuBytes_le _⟩
    · exact ⟨ecMtuBytes_pos _, ecMtuBytes_le _⟩
  have hpackets : 0 < params.packetsPerChunk.toNat := by
    rw [hppc]
    split_ifs
    · exact ecPacketsPerChunk_pos _
    · exact ecPacketsPerChunk_pos _
  rw [ecChunkBytes_eq, ConnectionParams.sentChunkBytes, ecMtuBytes_of_pos hmtuBytes.1 hmtuBytes.2,
    ecPacketsPerChunk_of_pos hpackets]

/-- The geometry agrees exactly when `data_bytes` is configured, the configured chunk sizes are the
negotiated one and no parity offset wraps. -/
lemma geometryAgrees_iff {sender receiver params : ConnectionParams} {cfg cfg' : ECConfig}
    {sentLength recvLength : ℕ} (handle : SDRSendHandle) (hk : cfg'.k = cfg.k) (hm : cfg'.m = cfg.m)
    (hdata : cfg'.dataBytes = cfg.dataBytes)
    (hsize : (ECLayout.of cfg sender sentLength).totalBytes ≠ 0)
    (hmtu : params.mtuBytes.toNat
      = if receiver.mtuBytes = 0 then ecMtuBytes sender else ecMtuBytes receiver)
    (hppc : params.packetsPerChunk.toNat = if receiver.packetsPerChunk = 0 then
      ecPacketsPerChunk sender else ecPacketsPerChunk receiver) :
    GeometryAgrees params (ECLayout.of cfg sender sentLength)
        (ECSender.posted cfg sender params sentLength handle)
          (ECLayout.of cfg' receiver recvLength) ↔
      cfg.dataBytes ≠ 0 ∧ ConfiguredAlike sender receiver ∧
        ((ECLayout.of cfg sender sentLength).stripes ≠ 0 →
          (ECLayout.of cfg sender sentLength).lastParity
            * (ECLayout.of cfg sender sentLength).chunkBytes < 2 ^ 32) := by
  have hpoll : ecChunkBytes params = params.sentChunkBytes := ecChunkBytes_negotiated hmtu hppc
  have halike : ConfiguredAlike sender receiver ↔
      (ECLayout.of cfg sender sentLength).chunkBytes = params.sentChunkBytes ∧
        (ECLayout.of cfg' receiver recvLength).chunkBytes = params.sentChunkBytes := by
    rw [configuredAlike_iff, ECLayout.chunkBytes_of, ECLayout.chunkBytes_of,
      ConnectionParams.sentChunkBytes, hmtu, hppc]
  constructor
  · intro h
    refine ⟨fun hzero => ?_, halike.mpr ⟨h.encodedChunk, h.postedChunk⟩,
      (ECLayout.parityOffsets_iff _).mp fun s hs p hp => ?_⟩
    · refine (ECLayout.dataChunks_pos hsize).ne' (h.pollData.symm.trans ?_)
      simp only [ECSender.dataChunks, ECSender.posted, hzero]
      exact ecDataChunks_zero _
    · rw [h.encodedParity s hs p hp, h.encodedChunk]
  · rintro ⟨hbytes, hconfigured, hlast⟩
    obtain ⟨hencoded, hposted⟩ := halike.mp hconfigured
    have hencodedBytes : (ECLayout.of cfg sender sentLength).dataBytes = cfg.dataBytes.toNat :=
      if_neg hbytes
    have hpostedBytes : (ECLayout.of cfg' receiver recvLength).dataBytes = cfg.dataBytes.toNat :=
      (if_neg (hdata ▸ hbytes)).trans (congrArg BitVec.toNat hdata)
    have hchunks : (ECLayout.of cfg' receiver recvLength).dataChunks
        = (ECLayout.of cfg sender sentLength).dataChunks := by
      rw [ECLayout.dataChunks, ECLayout.dataChunks, hencoded, hposted, hencodedBytes, hpostedBytes]
    have hparity := (ECLayout.parityOffsets_iff (ECLayout.of cfg sender sentLength)).mpr hlast
    have hsame : ∀ s p, (ECLayout.of cfg' receiver recvLength).parityChunk s p
        = (ECLayout.of cfg sender sentLength).parityChunk s p := by
      intro s p
      have hm' : (ECLayout.of cfg' receiver recvLength).m
        = (ECLayout.of cfg sender sentLength).m := hm
      rw [ECLayout.parityChunk, ECLayout.parityChunk, hchunks, hm']
    rw [hencoded] at hparity
    exact
      { encodedChunk := hencoded
        pollChunk := hpoll
        postedChunk := hposted
        pollData := by
          rw [ECLayout.dataChunks, hencoded, hencodedBytes, ← hpoll]
          rfl
        ackedSize := List.length_replicate
        postedData := hchunks
        postedStripes := by
          have hk' : (ECLayout.of cfg' receiver recvLength).k
            = (ECLayout.of cfg sender sentLength).k := hk
          rw [ECLayout.stripes, ECLayout.stripes, hchunks, hk']
        encodedParity := fun s hs p hp => hencoded ▸ hparity s hs p hp
        postedParity := fun s hs p hp => by rw [hsame, hposted, hparity s hs p hp] }

lemma canOffer_length {conn : SDRConnection} {length : ℕ} (h : canOffer conn length = true) :
    length ≠ 0 := by
  simp only [canOffer, Bool.and_eq_true, decide_eq_true_eq] at h
  exact h.1.1

/-- A completed handshake between `encode_and_send` and `post_receive`: the OFFER carries the
sender's parameters and the size of its storage, the CTS those of the receiver. Both ends are
configured with the same code and the same number of data bytes. -/
structure ECHandshake where
  isal : Isal
  cfg : ECConfig
  receiverCfg : ECConfig
  conn : SDRConnection
  memory : ReceiverMemory
  message : ℕ → U8
  sentLength : ℕ
  recvLength : ℕ
  recvId : ℕ
  generation : U32
  buffer : ℕ
  opened : Bool
  answer : ℤ
  sendId : ℕ
  socketReady : Bool
  receiver : ECReceiver
  recvHandle : SDRRecvHandle
  cts : ControlMessage
  sendHandle : SDRSendHandle
  packets : List SDRPacket
  connected : SDRConnection
  k_eq : receiverCfg.k = cfg.k
  m_eq : receiverCfg.m = cfg.m
  dataBytes_eq : receiverCfg.dataBytes = cfg.dataBytes
  receives : ECReceiver.postReceive receiverCfg memory.conn.connectionCtx.params recvLength
    = some receiver
  offers : canOffer conn
    (ECSender.storage isal cfg conn.connectionCtx.params message sentLength).length = true
  answers : (recvPostOnOffer memory recvId generation buffer recvLength
    (offerMessage conn.connectionCtx
      (ECSender.storage isal cfg conn.connectionCtx.params message sentLength).length).params
    opened answer).1 = .ready recvHandle (some cts)
  sends : sendPostOnCts conn sendId
    (ECSender.storage isal cfg conn.connectionCtx.params message sentLength) cts socketReady
    = (.sent sendHandle packets, connected)

namespace ECHandshake

/-- The parameters configured at the sender. -/
def senderParams (h : ECHandshake) : ConnectionParams := h.conn.connectionCtx.params

/-- The parameters configured at the receiver. -/
def receiverParams (h : ECHandshake) : ConnectionParams := h.memory.conn.connectionCtx.params

/-- The layout that `encode_and_send` uses. -/
def encoded (h : ECHandshake) : ECLayout := ECLayout.of h.cfg h.senderParams h.sentLength

/-- The sender that `poll` is called on. -/
def sender (h : ECHandshake) : ECSender :=
  ECSender.posted h.cfg h.senderParams h.connected.connectionCtx.params h.sentLength h.sendHandle

end ECHandshake

theorem ecGeometry_iff (h : ECHandshake) :
    GeometryAgrees h.connected.connectionCtx.params h.encoded h.sender h.receiver.layout ↔
      h.cfg.dataBytes ≠ 0 ∧ ConfiguredAlike h.senderParams h.receiverParams ∧
        (h.encoded.stripes ≠ 0 → h.encoded.lastParity * h.encoded.chunkBytes < 2 ^ 32) := by
  have hlayout : h.receiver.layout = ECLayout.of h.receiverCfg h.receiverParams h.recvLength := by
    have hreceives := h.receives
    unfold ECReceiver.postReceive at hreceives
    dsimp only at hreceives
    split_ifs at hreceives
    exact congrArg ECReceiver.layout (Option.some.inj hreceives).symm
  have hparams : h.connected.connectionCtx.params = h.cts.params := by
    rw [← sendPostOnCts_params h.conn h.sendId _ h.cts h.socketReady, h.sends]
  have hcts := ((recvPostOnOffer_spec h.memory h.recvId h.generation h.buffer h.recvLength _
    h.opened
    h.answer).cts _ _ h.answers).2
  have hsize : h.encoded.totalBytes ≠ 0 := by
    have := canOffer_length h.offers
    rwa [ECSender.storage, List.length_map, List.length_range] at this
  rw [hlayout, ECHandshake.sender, hparams, hcts]
  exact geometryAgrees_iff h.sendHandle h.k_eq h.m_eq h.dataBytes_eq hsize
    (negotiate_ecMtuBytes h.senderParams h.receiverParams _ h.recvLength)
    (negotiate_ecPacketsPerChunk h.senderParams h.receiverParams _ h.recvLength)

/-! ### A handshake -/

/-- An end of a connection, configured with `params`. -/
def sampleEnd (isReceiver : Bool) (params : ConnectionParams) : SDRConnection where
  connectionCtx := ConnectionContext.fresh.initializeContext 1 params
  udpReceiver := none
  parentCtx := 0
  tcpServer := if isReceiver then some ⟨5⟩ else none
  tcpClient := if isReceiver then none else some ⟨true⟩
  isReceiver := isReceiver

def sampleMtu1024 : ConnectionParams := { ConnectionParams.zero with mtuBytes := 1024 }

/-- The CTS of a receiver with this MTU to a sender without parameters of its own. -/
def sampleCts1024 (length : ℕ) : ControlMessage :=
  ctsMessage 1 ((negotiate sampleMtu1024 (desiredParams .zero length) length).withTransferId 1)

/-- Three chunks at the sender, of the default size. -/
lemma length_sampleStorage : (ECSender.storage .reference ⟨0, 0, 100, 3⟩ .zero sampleMessage
    100).length
    = 6287616 := by
  rw [ECSender.storage, List.length_map, List.length_range]
  decide +kernel

/-- 100 data bytes and the default code, between a sender without parameters of its own and a
receiver configured with an MTU of 1024. -/
noncomputable def sampleHandshake1024 : ECHandshake where
  isal := .reference
  cfg := ⟨0, 0, 100, 3⟩
  receiverCfg := ⟨0, 0, 100, 3⟩
  conn := sampleEnd false .zero
  memory := ⟨sampleEnd true sampleMtu1024, fun _ _ => 0, [], none, []⟩
  message := sampleMessage
  sentLength := 100
  recvLength := 6287616
  recvId := 0
  generation := 1
  buffer := 0
  opened := true
  answer := 288
  sendId := 0
  socketReady := true
  receiver := ⟨⟨0, 0, 100, 3⟩, ECLayout.of ⟨0, 0, 100, 3⟩ sampleMtu1024 6287616, none, 0, false⟩
  recvHandle := ⟨0, 1, 0, 6287616⟩
  cts := sampleCts1024 6287616
  sendHandle := ⟨0, 1, ECSender.storage .reference ⟨0, 0, 100, 3⟩ .zero sampleMessage 100⟩
  packets := (List.range (ceilDiv (ECSender.storage .reference ⟨0, 0, 100, 3⟩ .zero sampleMessage
    100).length 1024)).filterMap (dataPacket 1 0 32 1024
      (ECSender.storage .reference ⟨0, 0, 100, 3⟩ .zero sampleMessage 100))
  connected := { sampleEnd false .zero with
    connectionCtx := (sampleEnd false .zero).connectionCtx.initializeContext 1
      (sampleCts1024 6287616).params }
  k_eq := rfl
  m_eq := rfl
  dataBytes_eq := rfl
  receives := by
    unfold ECReceiver.postReceive
    exact if_neg (by decide +kernel)
  offers := by
    change canOffer (sampleEnd false .zero)
      (ECSender.storage .reference ⟨0, 0, 100, 3⟩ .zero sampleMessage 100).length = true
    rw [length_sampleStorage]
    decide +kernel
  answers := by
    change (recvPostOnOffer _ 0 1 0 6287616 (offerMessage (sampleEnd false .zero).connectionCtx
      (ECSender.storage .reference ⟨0, 0, 100, 3⟩ .zero sampleMessage 100).length).params
        true 288).1
        = _
    rw [length_sampleStorage]
    decide +kernel
  sends := rfl

/-- Data and parity are laid out in chunks of 2095872 bytes, and sent in chunks of 32768 bytes. -/
theorem ecGeometry_mtu1024 :
    sampleHandshake1024.encoded.chunkBytes = 2095872 ∧
      sampleHandshake1024.connected.connectionCtx.params.sentChunkBytes = 32768 ∧
      ¬ GeometryAgrees sampleHandshake1024.connected.connectionCtx.params
        sampleHandshake1024.encoded sampleHandshake1024.sender
          sampleHandshake1024.receiver.layout := by
  have hencoded : sampleHandshake1024.encoded.chunkBytes = 2095872 := by decide +kernel
  have hsent : sampleHandshake1024.connected.connectionCtx.params.sentChunkBytes = 32768 := by
    decide +kernel
  refine ⟨hencoded, hsent, fun h => ?_⟩
  have := h.encodedChunk
  rw [hencoded, hsent] at this
  exact absurd this (by decide)

end SdrUdp
