import SdrUdp.SendPost

/-!
# What a failed send has promised

`sdr_send_post` answers the CTS before it looks at it. Whatever goes wrong from there on goes wrong
after the ACCEPT has left, and the last two failures also leave the caller a handle that was
deleted.
-/

namespace SdrUdp

open SdrUdp.Core

/-- What happens around a call of `sdr_send_post`: the results of its two calls of `send`, what the
calls of `receive_message` find, and whether the UDP socket could be created. -/
structure SendWorld where
  offerAnswer : ℤ
  received : List Received
  acceptAnswer : ℤ
  socketOpened : Bool

/-- A call of `sdr_send_post` that came back: the messages that have left and what `*handle` was set
to. -/
structure SendPostReturn where
  returnCode : ℤ
  sent : List ControlMessage
  handle : Option SDRSendHandle
  conn : SDRConnection

/-- The address the packets go to; a CTS without one means the loopback address. -/
def serverIp (params : ConnectionParams) : Vector U8 16 :=
  if params.udpServerIp.get 0 = 0 then copyServerIp loopbackIp else params.udpServerIp

namespace SendPostReturn

/-- A return with -1 before there is a handle. -/
def failed (sent : List ControlMessage) (conn : SDRConnection) : SendPostReturn :=
  ⟨-1, sent, none, conn⟩

/-- The return after a CTS. A failed call deletes its handle, but `*handle` keeps pointing there. -/
def ofOutcome (sent : List ControlMessage) (cts : ControlMessage) (data : List U8) :
    CtsOutcome × SDRConnection → SendPostReturn
  | (.rejected, conn)      => .failed sent conn
  | (.failed msgId, conn)  => ⟨-1, sent, some ⟨msgId, cts.params.transferId, data⟩, conn⟩
  | (.sent handle _, conn) => ⟨0, sent, some handle, conn⟩

end SendPostReturn

/-- `sdr_send_post` from the CTS on. -/
def answerCts (inetPton : Vector U8 16 → ℤ) (conn : SDRConnection) (client : TCPControlClient)
    (msgId : ℕ) (data : List U8) (world : SendWorld) (offer cts : ControlMessage) :
    SendPostReturn :=
  let accept := acceptMessage cts
  let accepted := client.sendMessage accept world.acceptAnswer
  let sent := if accepted.1 then [offer, accept] else [offer]
  let socketReady := world.socketOpened && decide (0 < inetPton (serverIp cts.params))
  .ofOutcome sent cts data
    (sendPostOnCts { conn with tcpClient := some accepted.2.1 } msgId data cts socketReady)

/-- `sdr_send_post`, with the id `msgId` that `allocate_msg_id` would give; no result while it waits
for a CTS. -/
def sdrSendPost (inetPton : Vector U8 16 → ℤ) (conn : SDRConnection) (msgId : ℕ) (data : List U8)
    (world : SendWorld) : Option SendPostReturn :=
  if canOffer conn data.length = false then some (.failed [] conn)
  else match conn.tcpClient with
    | none        => some (.failed [] conn)
    | some client =>
      let offer := offerMessage conn.connectionCtx data.length
      let offered := client.sendMessage offer world.offerAnswer
      if offered.1 = false then some (.failed [] { conn with tcpClient := some offered.2.1 })
      else match waitFor .cts world.received with
        | none               => none
        | some (none, _)     => some (.failed [offer] { conn with tcpClient := some ⟨false⟩ })
        | some (some cts, _) =>
          some (answerCts inetPton conn offered.2.1 msgId data world offer cts)

/-- The messages among what the calls of `receive_message` find. -/
def messagesOf (received : List Received) : List ControlMessage :=
  received.filterMap fun r => match r with
    | .message msg  => some msg
    | .timeout      => none
    | .disconnected => none

/-- A call that returns -1 has sent no ACCEPT and stored no handle, and no receiver that gets its
messages returns 0. -/
structure CommitsOnSuccess (r : SendPostReturn) : Prop where
  accept : r.returnCode = -1 → ∀ msg ∈ r.sent, msg.msgType ≠ .accept
  handle : r.returnCode = -1 → r.handle = none
  receiver : r.returnCode = -1 → ∀ (p : ReceiverProcess) (i buffer length : ℕ)
    (received : List Received) (opened : Bool) (answer : ℤ) (handle : SDRRecvHandle)
    (cts : Option ControlMessage), messagesOf received = r.sent →
      (p.sdrRecvPost i buffer length received opened answer).1 ≠ .posted handle cts

/-- What follows the CTS goes well, or it is refused and the ACCEPT could not be sent. -/
def KeepsPromise (inetPton : Vector U8 16 → ℤ) (world : SendWorld) (cts : ControlMessage) : Prop :=
  if cts.params.mtuBytes = 0 ∨ cts.params.packetsPerChunk = 0 then
    world.acceptAnswer ≠ sizeofControlMessage
  else world.socketOpened = true ∧ 0 < inetPton (serverIp cts.params)

/-! ### What leaves and what arrives -/

lemma TCPControlClient.sendMessage_iff (client : TCPControlClient) (msg : ControlMessage)
    (answer : ℤ) : (client.sendMessage msg answer).1 = true ↔
      client.isConnected = true ∧ answer = sizeofControlMessage := by
  have hlen : (msg.serialize sizeofControlMessage).length = sizeofControlMessage := msg.length_wire
  simp only [sendMessage, hlen]
  split_ifs with hopen hneg hpart
  · simp [hopen]
  · refine iff_of_false (by simp) fun h => ?_
    omega
  · refine iff_of_false (by simp) fun h => ?_
    omega
  · refine iff_of_true rfl ⟨by simpa using hopen, ?_⟩
    omega

lemma TCPControlClient.sendMessage_isConnected {client : TCPControlClient} {msg : ControlMessage}
    {answer : ℤ} (h : (client.sendMessage msg answer).1 = true) :
    (client.sendMessage msg answer).2.1.isConnected = true := by
  have hopen := ((client.sendMessage_iff msg answer).mp h).1
  simp only [sendMessage] at h ⊢
  split_ifs at h ⊢
  exact hopen

/-- A message that ends a wait is among those received, and so is all that is left. -/
lemma waitFor_found {type : ControlMsgType} {received rest : List Received} {msg : ControlMessage}
    (h : waitFor type received = some (some msg, rest)) :
    msg.msgType = type ∧ msg ∈ messagesOf received ∧ messagesOf rest ⊆ messagesOf received := by
  induction received with
  | nil => simp [waitFor] at h
  | cons r received ih =>
    cases r with
    | message m =>
      simp only [waitFor] at h
      split_ifs at h with htype
      · obtain ⟨hm, rfl⟩ := Prod.mk.inj (Option.some.inj h)
        obtain rfl := Option.some.inj hm
        exact ⟨htype, by simp [messagesOf], by simp [messagesOf]⟩
      · obtain ⟨hmsg, hmem, hrest⟩ := ih h
        exact ⟨hmsg, by simpa [messagesOf] using Or.inr hmem, by
          simpa [messagesOf] using List.subset_cons_of_subset m hrest⟩
    | timeout => exact ih h
    | disconnected =>
      have hnone := (Prod.mk.inj (Option.some.inj h)).1
      exact absurd hnone (by simp)

/-- A post that returns 0 has received an ACCEPT. -/
lemma accept_of_posted {p : ReceiverProcess} {i buffer length : ℕ} {received : List Received}
    {opened : Bool} {answer : ℤ} {handle : SDRRecvHandle} {cts : Option ControlMessage}
    (h : (p.sdrRecvPost i buffer length received opened answer).1 = .posted handle cts) :
    ∃ msg ∈ messagesOf received, msg.msgType = .accept := by
  simp only [ReceiverProcess.sdrRecvPost] at h
  split_ifs at h
  split at h
  · exact absurd h (by simp)
  · exact absurd h (by simp)
  rename_i offer rest hoffer
  obtain ⟨-, -, hrest⟩ := waitFor_found hoffer
  split at h
  · exact absurd h (by simp)
  · exact absurd h (by simp)
  split at h
  · exact absurd h (by simp)
  · exact absurd h (by simp)
  · rename_i haccept
    obtain ⟨htype, hmem, -⟩ := waitFor_found haccept
    exact ⟨_, hrest hmem, htype⟩

/-- Where no ACCEPT has left, no receiver has returned 0. -/
lemma commitsOnSuccess_iff (r : SendPostReturn) : CommitsOnSuccess r ↔
    (r.returnCode = -1 → (∀ msg ∈ r.sent, msg.msgType ≠ .accept) ∧ r.handle = none) := by
  constructor
  · intro h hfailed
    exact ⟨h.accept hfailed, h.handle hfailed⟩
  · intro h
    refine ⟨fun hfailed => (h hfailed).1, fun hfailed => (h hfailed).2, ?_⟩
    intro hfailed p i buffer length received opened answer handle cts hsent hposted
    obtain ⟨msg, hmsg, htype⟩ := accept_of_posted hposted
    exact (h hfailed).1 msg (hsent ▸ hmsg) htype

/-! ### When a failed send has promised nothing -/

lemma offerMessage_ne_accept (ctx : ConnectionContext) (length : ℕ) :
    (offerMessage ctx length).msgType ≠ .accept := by simp [offerMessage]

lemma commitsOnSuccess_failed {sent : List ControlMessage} (conn : SDRConnection)
    (h : ∀ msg ∈ sent, msg.msgType ≠ .accept) : CommitsOnSuccess (.failed sent conn) := by
  rw [commitsOnSuccess_iff]
  exact fun _ => ⟨h, rfl⟩

section Answer

variable {cts offer : ControlMessage} {world : SendWorld} (hoffer : offer.msgType ≠ .accept)
include hoffer

/-- The ACCEPT is among what was sent exactly when its `send` took all of it. -/
lemma accept_unsent_iff {client : TCPControlClient} (hconnected : client.isConnected = true) :
    (∀ msg ∈ if (client.sendMessage (acceptMessage cts) world.acceptAnswer).1 then
        [offer, acceptMessage cts] else [offer], msg.msgType ≠ .accept) ↔
      world.acceptAnswer ≠ sizeofControlMessage := by
  have hsent := client.sendMessage_iff (acceptMessage cts) world.acceptAnswer
  rw [and_iff_right hconnected] at hsent
  simp only [hsent]
  by_cases h : world.acceptAnswer = sizeofControlMessage
  · simp [h, acceptMessage]
  · simp [h, hoffer]

/-- A call that gets its CTS. -/
lemma answerCts_commits_iff (inetPton : Vector U8 16 → ℤ) (conn : SDRConnection)
    {client : TCPControlClient} (hconnected : client.isConnected = true) (msgId : ℕ)
    (data : List U8) :
    CommitsOnSuccess (answerCts inetPton conn client msgId data world offer cts) ↔
      KeepsPromise inetPton world cts := by
  have hunsent := @accept_unsent_iff cts offer world hoffer client hconnected
  rw [commitsOnSuccess_iff]
  simp only [answerCts, sendPostOnCts, KeepsPromise]
  by_cases hmtu : cts.params.mtuBytes = 0
  · simp only [if_pos hmtu, if_pos (Or.inl hmtu), SendPostReturn.ofOutcome, SendPostReturn.failed]
    rw [hunsent]
    simp
  by_cases hppc : cts.params.packetsPerChunk = 0
  · simp only [if_neg hmtu, if_pos hppc, if_pos (Or.inr hppc), SendPostReturn.ofOutcome,
      SendPostReturn.failed]
    rw [hunsent]
    simp
  have hready : (world.socketOpened = true ∧ 0 < inetPton (serverIp cts.params)) ↔
      (world.socketOpened && decide (0 < inetPton (serverIp cts.params))) = true := by simp
  rw [if_neg (not_or.mpr ⟨hmtu, hppc⟩), hready]
  cases hsocket : world.socketOpened && decide (0 < inetPton (serverIp cts.params)) with
  | true =>
    simp only [if_neg hmtu, if_neg hppc, SendPostReturn.ofOutcome]
    simp
  | false =>
    simp only [if_neg hmtu, if_neg hppc, SendPostReturn.ofOutcome]
    simp

end Answer

lemma exists_client {conn : SDRConnection} {length : ℕ} (h : canOffer conn length = true) :
    ∃ client, conn.tcpClient = some client ∧ client.isConnected = true := by
  simp only [canOffer, Bool.and_eq_true] at h
  exact (Option.any_eq_true _ _).mp h.2

/-- A call that does not get its CTS has promised nothing. -/
lemma sdrSendPost_noCts {inetPton : Vector U8 16 → ℤ} {conn : SDRConnection} {msgId : ℕ}
    {data : List U8} {world : SendWorld}
    (h : ¬ (canOffer conn data.length = true ∧ world.offerAnswer = sizeofControlMessage ∧
      ∃ cts rest, waitFor .cts world.received = some (some cts, rest))) {r : SendPostReturn}
    (hr : sdrSendPost inetPton conn msgId data world = some r) : CommitsOnSuccess r := by
  rw [sdrSendPost] at hr
  split_ifs at hr with hcan
  · rw [← Option.some.inj hr]
    exact commitsOnSuccess_failed _ (by simp)
  rw [Bool.not_eq_false] at hcan
  obtain ⟨client, hclient, hconnected⟩ := exists_client hcan
  simp only [hclient] at hr
  split_ifs at hr with hsent
  · rw [← Option.some.inj hr]
    exact commitsOnSuccess_failed _ (by simp)
  rw [Bool.not_eq_false, TCPControlClient.sendMessage_iff] at hsent
  cases hwait : waitFor .cts world.received with
  | none => simp [hwait] at hr
  | some result =>
    obtain ⟨msg, rest⟩ := result
    cases msg with
    | none =>
      simp only [hwait, Option.some.injEq] at hr
      rw [← hr]
      exact commitsOnSuccess_failed _ (by simp [offerMessage])
    | some cts => exact absurd ⟨hcan, hsent.2, cts, rest, hwait⟩ h

/-- A call that gets its CTS answers it. -/
lemma sdrSendPost_onCts (inetPton : Vector U8 16 → ℤ) {conn : SDRConnection} (msgId : ℕ)
    {data : List U8} {world : SendWorld} (hcan : canOffer conn data.length = true)
    (hanswer : world.offerAnswer = sizeofControlMessage) {cts : ControlMessage}
    {rest : List Received} (hwait : waitFor .cts world.received = some (some cts, rest)) :
    ∃ client : TCPControlClient, client.isConnected = true ∧
      sdrSendPost inetPton conn msgId data world = some (answerCts inetPton conn client msgId data
        world (offerMessage conn.connectionCtx data.length) cts) := by
  obtain ⟨client, hclient, hconnected⟩ := exists_client hcan
  have hsent := (client.sendMessage_iff (offerMessage conn.connectionCtx data.length)
    world.offerAnswer).mpr ⟨hconnected, hanswer⟩
  refine ⟨_, TCPControlClient.sendMessage_isConnected hsent, ?_⟩
  rw [sdrSendPost, if_neg (by simp [hcan])]
  simp only [hclient]
  rw [if_neg (by simp [hsent]), hwait]

/-- A failed call of `sdr_send_post` has promised nothing exactly when the CTS is usable and the
socket ready, or the CTS is not usable and the ACCEPT could not be sent. -/
theorem sdrSendPost_commits_iff (inetPton : Vector U8 16 → ℤ) (conn : SDRConnection) (msgId : ℕ)
    (data : List U8) (world : SendWorld) :
    (∀ r, sdrSendPost inetPton conn msgId data world = some r → CommitsOnSuccess r) ↔
      (canOffer conn data.length = true → world.offerAnswer = sizeofControlMessage →
        ∀ cts rest, waitFor .cts world.received = some (some cts, rest) →
          KeepsPromise inetPton world cts) := by
  constructor
  · intro h hcan hanswer cts rest hwait
    obtain ⟨client, hconnected, hcall⟩ := sdrSendPost_onCts inetPton msgId hcan hanswer hwait
    exact (answerCts_commits_iff (offerMessage_ne_accept _ _) inetPton _ hconnected msgId data).mp
      (h _ hcall)
  · intro h r hr
    by_cases hcts : canOffer conn data.length = true ∧ world.offerAnswer = sizeofControlMessage ∧
        ∃ cts rest, waitFor .cts world.received = some (some cts, rest)
    · obtain ⟨hcan, hanswer, cts, rest, hwait⟩ := hcts
      obtain ⟨client, hconnected, hcall⟩ := sdrSendPost_onCts inetPton msgId hcan hanswer hwait
      rw [← Option.some.inj (hcall.symm.trans hr)]
      exact (answerCts_commits_iff (offerMessage_ne_accept _ _) inetPton _ hconnected msgId
        data).mpr (h hcan hanswer cts rest hwait)
    · exact sdrSendPost_noCts hcts hr

/-- A CTS that names its server by host name. -/
def namedCts : ControlMessage :=
  ctsMessage 1 { ConnectionParams.zero with
    mtuBytes := 100
    packetsPerChunk := 4
    udpServerIp := copyServerIp [108, 111, 99, 97, 108, 104, 111, 115, 116] }

/-- An address that cannot be parsed is found out after the ACCEPT has left. -/
theorem not_sdrSendPost_commits_named : ¬ ∀ r, sdrSendPost (fun _ => 0)
    (SDRConnection.idleSender 0) 0 [1, 2, 3]
      ⟨sizeofControlMessage, [.message namedCts], sizeofControlMessage, true⟩ = some r →
        CommitsOnSuccess r := by
  intro h
  have hwait : waitFor .cts [.message namedCts] = some (some namedCts, []) := rfl
  obtain ⟨client, hconnected, hcall⟩ := sdrSendPost_onCts (fun _ => 0) 0
    (show canOffer (SDRConnection.idleSender 0) [1, 2, 3].length = true from rfl)
    (show (SendWorld.mk sizeofControlMessage [.message namedCts] sizeofControlMessage
      true).offerAnswer = sizeofControlMessage from rfl) hwait
  have hkept := (answerCts_commits_iff (offerMessage_ne_accept _ _) _ _ hconnected 0 _).mp
    (h _ hcall)
  exact absurd hkept.2 (by decide)

end SdrUdp
