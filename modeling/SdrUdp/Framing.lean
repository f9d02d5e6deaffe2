import SdrUdp.TcpControl

/-!
# Framing of the control channel

The receive loop reassembles messages from an arbitrarily cut byte stream. It does so exactly when
no timeout strikes in the middle of a message: the bytes read before such a timeout are lost with
the local buffer, and the rest of the stream is read out of step.
-/

namespace SdrUdp

open SdrUdp.Core

/-- The byte stream of a list of messages. -/
def wireBytes (ms : List ControlMessage) : List U8 := (ms.map ControlMessage.wire).flatten

/-- `recv` hands over bytes or times out. -/
def RecvEvent.delivers : RecvEvent → Bool
  | .arrived _ => true
  | .eagain    => true
  | .closed    => false
  | .failed    => false

/-- Repeated calls of `receive_message`, until the loop waits for the kernel or the connection is
given up: the messages of the calls that returned `true`, and what was not read. -/
def receiveMessages {σ : Type} (receive : σ → Inbound → Option Received × σ × Inbound) :
    ℕ → σ → Inbound → List ControlMessage × Inbound
  | 0, _, inbound => ([], inbound)
  | calls + 1, endpoint, inbound =>
    match receive endpoint inbound with
    | (some (.message m), endpoint, rest) =>
      let later := receiveMessages receive calls endpoint rest
      (m :: later.1, later.2)
    | (some .timeout, endpoint, rest) => receiveMessages receive calls endpoint rest
    | (some .disconnected, _, rest)   => ([], rest)
    | (none, _, rest)                 => ([], rest)

/-- Timeouts strike only between two messages: `remaining` bytes are still to come and `got` bytes
of the current message were read. -/
def timeoutsAligned : List RecvEvent → ℕ → ℕ → Bool
  | [], _, _ => true
  | .arrived n :: events, remaining, got =>
    let k := min n (min (sizeofControlMessage - got) remaining)
    if k = 0 then got == 0 && timeoutsAligned events remaining 0
    else timeoutsAligned events (remaining - k) ((got + k) % sizeofControlMessage)
  | .eagain :: events, remaining, got => got == 0 && timeoutsAligned events remaining 0
  | .closed :: _, _, _ => true
  | .failed :: _, _, _ => true

/-! ### One call -/

/-- Once everything was read there is nothing to lose. -/
lemma timeoutsAligned_of_empty (events : List RecvEvent) : timeoutsAligned events 0 0 = true := by
  induction events with
  | nil => rfl
  | cons e events ih => cases e <;> simp [timeoutsAligned, ih]

/-- What a receive loop does with the stream: it takes `j` bytes off its front. -/
structure LoopSpec (events : List RecvEvent) (stream buffer : List U8) (result : LoopExit × Inbound)
    (j : ℕ) : Prop where
  le : j ≤ stream.length
  rest : result.2.stream = stream.drop j
  delivers : ∀ e ∈ result.2.events, e.delivers = true
  filled : ∀ b, result.1 = .filled b → b = buffer ++ stream.take j ∧
    buffer.length + j = sizeofControlMessage ∧
    timeoutsAligned events stream.length (buffer.length % sizeofControlMessage)
      = timeoutsAligned result.2.events (stream.length - j) 0
  timedOut : result.1 = .timedOut → buffer.length + j < sizeofControlMessage ∧
    timeoutsAligned events stream.length (buffer.length % sizeofControlMessage)
      = (buffer.length + j == 0 && timeoutsAligned result.2.events (stream.length - j) 0)
  pending : result.1 = .pending → buffer.length + j < sizeofControlMessage
  lost : result.1 ≠ .lost

/-- Bytes that arrive come on top of what the rest of the loop takes. -/
lemma LoopSpec.arrived {events : List RecvEvent} {stream buffer : List U8} {n k j : ℕ}
    (hfull : buffer.length < sizeofControlMessage)
    (hk : k = min n (min (sizeofControlMessage - buffer.length) stream.length)) (hk0 : k ≠ 0)
    (hj : LoopSpec events (stream.drop k) (buffer ++ stream.take k)
      (receiveLoop events (stream.drop k) (buffer ++ stream.take k)) j) :
    LoopSpec (.arrived n :: events) stream buffer
      (receiveLoop (.arrived n :: events) stream buffer) (k + j) := by
  have hmod : buffer.length % sizeofControlMessage = buffer.length := Nat.mod_eq_of_lt hfull
  have hlen : (buffer ++ stream.take k).length = buffer.length + k := by
    simp only [List.length_append, List.length_take]; omega
  have hstream : (stream.drop k).length = stream.length - k := List.length_drop
  have hle := hj.le
  have hcomm : stream.length - k - j = stream.length - (k + j) := by omega
  have hal : timeoutsAligned (.arrived n :: events) stream.length
        (buffer.length % sizeofControlMessage)
      = timeoutsAligned events (stream.drop k).length
        ((buffer ++ stream.take k).length % sizeofControlMessage) := by
    simp only [timeoutsAligned, hmod, ← hk, if_neg hk0, hstream, hlen]
  have hloop : receiveLoop (.arrived n :: events) stream buffer
      = receiveLoop events (stream.drop k) (buffer ++ stream.take k) := by
    simp only [receiveLoop, if_pos hfull, ← hk, if_neg hk0]
  rw [hloop]
  refine ⟨by omega, by rw [hj.rest, List.drop_drop], hj.delivers, ?_, ?_, ?_, hj.lost⟩
  · intro b hb
    obtain ⟨hbuf, hsize, halign⟩ := hj.filled b hb
    refine ⟨?_, by omega, by rw [hal, halign, hstream, hcomm]⟩
    rw [hbuf, List.append_assoc, List.take_add]
  · intro ht
    obtain ⟨hlt, halign⟩ := hj.timedOut ht
    refine ⟨by omega, ?_⟩
    rw [hal, halign, hstream, hcomm, hlen, Nat.add_assoc]
  · intro hp
    have := hj.pending hp
    omega

lemma receiveLoop_spec {events : List RecvEvent} (hevents : ∀ e ∈ events, e.delivers = true)
    (stream buffer : List U8) (hbuffer : buffer.length ≤ sizeofControlMessage) :
    ∃ j, LoopSpec events stream buffer (receiveLoop events stream buffer) j := by
  induction events generalizing stream buffer with
  | nil =>
    refine ⟨0, ?_⟩
    by_cases hfull : buffer.length < sizeofControlMessage
    · simp only [receiveLoop, if_pos hfull]
      exact ⟨by simp, by simp, by simp, by simp, by simp, fun _ => by simpa using hfull, by simp⟩
    · simp only [receiveLoop, if_neg hfull]
      refine ⟨by simp, by simp, by simp, ?_, by simp, by simp, by simp⟩
      intro b hb
      cases hb
      exact ⟨by simp, by omega, rfl⟩
  | cons e events ih =>
    have htail : ∀ e ∈ events, e.delivers = true :=
      fun e he => hevents e (List.mem_cons_of_mem _ he)
    by_cases hfull : buffer.length < sizeofControlMessage
    · have hmod : buffer.length % sizeofControlMessage = buffer.length := Nat.mod_eq_of_lt hfull
      cases e with
      | arrived n =>
        set k := min n (min (sizeofControlMessage - buffer.length) stream.length) with hk
        by_cases hk0 : k = 0
        · -- nothing to hand over: `recv` times out
          refine ⟨0, ?_⟩
          simp only [receiveLoop, if_pos hfull, ← hk, if_pos hk0]
          refine ⟨by simp, by simp, htail, by simp, ?_, by simp, by simp⟩
          intro _
          exact ⟨by simpa using hfull, by simp [timeoutsAligned, hmod, ← hk, hk0]⟩
        · have hlen : (buffer ++ stream.take k).length ≤ sizeofControlMessage := by
            simp only [List.length_append, List.length_take]; omega
          obtain ⟨j, hj⟩ := ih htail (stream.drop k) (buffer ++ stream.take k) hlen
          exact ⟨k + j, hj.arrived hfull hk hk0⟩
      | eagain =>
        refine ⟨0, ?_⟩
        simp only [receiveLoop, if_pos hfull]
        refine ⟨by simp, by simp, htail, by simp, ?_, by simp, by simp⟩
        intro _
        exact ⟨by simpa using hfull, by simp [timeoutsAligned, hmod]⟩
      | closed => simpa [RecvEvent.delivers] using hevents .closed List.mem_cons_self
      | failed => simpa [RecvEvent.delivers] using hevents .failed List.mem_cons_self
    · have hsize : buffer.length = sizeofControlMessage := by omega
      refine ⟨0, ?_⟩
      simp only [receiveLoop, if_neg hfull]
      refine ⟨by simp, by simp, hevents, ?_, by simp, by simp, by simp⟩
      intro b hb
      cases hb
      exact ⟨by simp, by simpa using hsize, by simp [hsize]⟩

/-- What one call on an open connection can do: take a whole frame, time out after throwing `j`
bytes away, or wait with `j` bytes in its buffer. -/
inductive CallResult {σ : Type} (endpoint : σ) (inbound : Inbound) :
    Option Received × σ × Inbound → Prop
  | framed (rest : Inbound) (hlen : sizeofControlMessage ≤ inbound.stream.length)
      (hrest : rest.stream = inbound.stream.drop sizeofControlMessage)
      (hdelivers : ∀ e ∈ rest.events, e.delivers = true)
      (haligned : timeoutsAligned inbound.events inbound.stream.length 0
        = timeoutsAligned rest.events (inbound.stream.length - sizeofControlMessage) 0) :
      CallResult endpoint inbound
        (some (.ofBuffer (inbound.stream.take sizeofControlMessage)), endpoint, rest)
  | timedOut (j : ℕ) (rest : Inbound) (hlen : j ≤ inbound.stream.length)
      (hrest : rest.stream = inbound.stream.drop j)
      (hdelivers : ∀ e ∈ rest.events, e.delivers = true)
      (haligned : timeoutsAligned inbound.events inbound.stream.length 0
        = (j == 0 && timeoutsAligned rest.events (inbound.stream.length - j) 0)) :
      CallResult endpoint inbound (some .timeout, endpoint, rest)
  | waiting (j : ℕ) (rest : Inbound) (hlen : j ≤ inbound.stream.length)
      (hrest : rest.stream = inbound.stream.drop j) (hj : j < sizeofControlMessage) :
      CallResult endpoint inbound (none, endpoint, rest)

lemma receiveOn_result {σ : Type} {isOpen : σ → Bool} (close : σ → σ) {endpoint : σ}
    {inbound : Inbound} (hopen : isOpen endpoint = true)
    (hevents : ∀ e ∈ inbound.events, e.delivers = true) :
    CallResult endpoint inbound (receiveOn isOpen close endpoint inbound) := by
  obtain ⟨j, hspec⟩ := receiveLoop_spec hevents inbound.stream [] (by simp)
  simp only [receiveOn, hopen, Bool.true_eq_false, if_false]
  rcases hexit : receiveLoop inbound.events inbound.stream [] with ⟨exit, rest⟩
  rw [hexit] at hspec
  cases exit with
  | filled b =>
    obtain ⟨hb, hj, halign⟩ := hspec.filled b rfl
    simp only [List.length_nil, Nat.zero_add] at hj
    subst hj
    rw [hb, List.nil_append]
    exact .framed rest hspec.le hspec.rest hspec.delivers (by simpa using halign)
  | timedOut =>
    obtain ⟨_, halign⟩ := hspec.timedOut rfl
    exact .timedOut j rest hspec.le hspec.rest hspec.delivers (by simpa using halign)
  | pending => exact .waiting j rest hspec.le hspec.rest (by simpa using hspec.pending rfl)
  | lost => exact absurd rfl hspec.lost

/-! ### All calls -/

section Calls

variable {σ : Type} {isOpen : σ → Bool} {close : σ → σ} {endpoint : σ}

variable (close) in
/-- Every returned message used up a frame of its own. -/
lemma receiveMessages_length (hopen : isOpen endpoint = true) (calls : ℕ) (inbound : Inbound)
    (hevents : ∀ e ∈ inbound.events, e.delivers = true) :
    sizeofControlMessage * (receiveMessages (receiveOn isOpen close) calls endpoint
      inbound).1.length
      ≤ inbound.stream.length := by
  induction calls generalizing inbound with
  | zero => simp [receiveMessages]
  | succ calls ih =>
    have hcall := receiveOn_result close hopen hevents
    unfold receiveMessages
    generalize receiveOn isOpen close endpoint inbound = result at hcall
    cases hcall with
    | framed rest hlen hrest hdelivers _ =>
      have hlater := ih rest hdelivers
      rw [hrest, List.length_drop] at hlater
      cases Received.ofBuffer (inbound.stream.take sizeofControlMessage) with
      | message m => simp only [List.length_cons, Nat.mul_succ]; omega
      | timeout => exact hlater.trans (Nat.sub_le _ _)
      | disconnected => simp
    | timedOut j rest hlen hrest hdelivers _ =>
      have hlater := ih rest hdelivers
      rw [hrest, List.length_drop] at hlater
      exact hlater.trans (Nat.sub_le _ _)
    | waiting j rest hlen hrest hj => simp

/-- A timeout in the middle of a message costs at least one frame. -/
lemma receiveMessages_length_lt (hopen : isOpen endpoint = true) (calls : ℕ) (inbound : Inbound)
    (hevents : ∀ e ∈ inbound.events, e.delivers = true)
    (hread : (receiveMessages (receiveOn isOpen close) calls endpoint inbound).2.stream = [])
    (hbad : timeoutsAligned inbound.events inbound.stream.length 0 = false) :
    sizeofControlMessage * (receiveMessages (receiveOn isOpen close) calls endpoint
      inbound).1.length
      < inbound.stream.length := by
  have hpos : 0 < inbound.stream.length := by
    by_contra h
    rw [Nat.eq_zero_of_not_pos h, timeoutsAligned_of_empty] at hbad
    exact Bool.noConfusion hbad
  induction calls generalizing inbound with
  | zero => simpa [receiveMessages] using hpos
  | succ calls ih =>
    have hcall := receiveOn_result close hopen hevents
    unfold receiveMessages at hread ⊢
    generalize receiveOn isOpen close endpoint inbound = result at hcall hread
    cases hcall with
    | framed rest hlen hrest hdelivers haligned =>
      have hstream : rest.stream.length = inbound.stream.length - sizeofControlMessage := by
        rw [hrest, List.length_drop]
      rw [haligned, ← hstream] at hbad
      have hpos' : 0 < rest.stream.length := by
        by_contra h
        rw [Nat.eq_zero_of_not_pos h, timeoutsAligned_of_empty] at hbad
        exact Bool.noConfusion hbad
      cases hbuf : Received.ofBuffer (inbound.stream.take sizeofControlMessage) with
      | message m =>
        rw [hbuf] at hread
        have := ih rest hdelivers hread hbad hpos'
        simp only [List.length_cons, Nat.mul_succ]
        omega
      | timeout =>
        rw [hbuf] at hread
        have := ih rest hdelivers hread hbad hpos'
        dsimp only
        omega
      | disconnected => simpa using hpos
    | timedOut j rest hlen hrest hdelivers haligned =>
      have hstream : rest.stream.length = inbound.stream.length - j := by
        rw [hrest, List.length_drop]
      dsimp only at hread ⊢
      by_cases hj : j = 0
      · -- between two messages: nothing was thrown away
        subst hj
        rw [haligned] at hbad
        have := ih rest hdelivers hread (by simpa [hstream] using hbad) (by omega)
        omega
      · have hlength := receiveMessages_length close hopen calls rest hdelivers
        omega
    | waiting j rest hlen hrest hj => simpa using hpos

lemma wireBytes_cons (m : ControlMessage) (ms : List ControlMessage) :
    wireBytes (m :: ms) = m.wire ++ wireBytes ms := by simp [wireBytes]

lemma length_wireBytes (ms : List ControlMessage) :
    (wireBytes ms).length = sizeofControlMessage * ms.length := by
  induction ms with
  | nil => simp [wireBytes]
  | cons m ms ih =>
    rw [wireBytes_cons, List.length_append, ih, ControlMessage.length_wire, List.length_cons,
      Nat.mul_succ, Nat.add_comm]

lemma Received.ofBuffer_wire (m : ControlMessage) :
    Received.ofBuffer m.wire
      = if m.magic = ControlMessage.magicValue then .message m else .timeout := by
  rw [Received.ofBuffer, ControlMessage.deserialize_wire]
  split_ifs <;> rfl

/-- With all timeouts between messages, the messages come out one by one; `deserialize` refuses
those without the magic number. -/
lemma receiveMessages_of_aligned (hopen : isOpen endpoint = true) (calls : ℕ)
    (ms : List ControlMessage) (inbound : Inbound) (hstream : inbound.stream = wireBytes ms)
    (hevents : ∀ e ∈ inbound.events, e.delivers = true)
    (hread : (receiveMessages (receiveOn isOpen close) calls endpoint inbound).2.stream = [])
    (haligned : timeoutsAligned inbound.events inbound.stream.length 0 = true) :
    (receiveMessages (receiveOn isOpen close) calls endpoint inbound).1
      = ms.filter (fun m => m.magic = ControlMessage.magicValue) := by
  induction calls generalizing ms inbound with
  | zero =>
    have hlen := length_wireBytes ms
    rw [← hstream, show inbound.stream = [] from hread] at hlen
    have : ms = [] := by
      have : sizeofControlMessage * ms.length = 0 := by simpa using hlen.symm
      simpa [sizeofControlMessage] using this
    simp [receiveMessages, this]
  | succ calls ih =>
    have hcall := receiveOn_result close hopen hevents
    have hlen := length_wireBytes ms
    unfold receiveMessages at hread ⊢
    generalize receiveOn isOpen close endpoint inbound = result at hcall hread
    cases hcall with
    | framed rest hfull hrest hdelivers hal =>
      cases ms with
      | nil => rw [hstream] at hfull; simp [wireBytes, sizeofControlMessage] at hfull
      | cons m ms =>
        have htake : inbound.stream.take sizeofControlMessage = m.wire := by
          rw [hstream, wireBytes_cons, List.take_left' m.length_wire]
        have hrest' : rest.stream = wireBytes ms := by
          rw [hrest, hstream, wireBytes_cons, List.drop_left' m.length_wire]
        have hal' : timeoutsAligned rest.events rest.stream.length 0 = true := by
          rw [← haligned, hal, hrest, List.length_drop]
        rw [htake, Received.ofBuffer_wire] at hread ⊢
        by_cases hmagic : m.magic = ControlMessage.magicValue
        · rw [if_pos hmagic] at hread ⊢
          simp only [List.filter_cons, hmagic, decide_true, if_true]
          rw [ih ms rest hrest' hdelivers hread hal']
        · rw [if_neg hmagic] at hread ⊢
          simp only [List.filter_cons, hmagic, decide_false, Bool.false_eq_true, if_false]
          exact ih ms rest hrest' hdelivers hread hal'
    | timedOut j rest hj hrest hdelivers hal =>
      rw [haligned] at hal
      obtain ⟨hj0, hal'⟩ := Bool.and_eq_true_iff.mp hal.symm
      have hj0 : j = 0 := by simpa using hj0
      subst hj0
      rw [List.drop_zero] at hrest
      exact ih ms rest (hrest.trans hstream) hdelivers hread (by simpa [hrest] using hal')
    | waiting j rest hj hrest hlt =>
      dsimp only at hread ⊢
      rw [hrest, List.drop_eq_nil_iff, hstream, hlen] at hread
      have : ms.length = 0 := by
        by_contra h
        have := Nat.le_mul_of_pos_right sizeofControlMessage (Nat.pos_of_ne_zero h)
        omega
      rw [List.eq_nil_of_length_eq_zero this]
      rfl

/-- The calls return exactly the messages sent if and only if no timeout strikes in the middle of a
message and every message carries the magic number. -/
lemma receiveMessages_eq_iff (hopen : isOpen endpoint = true) (calls : ℕ)
    (ms : List ControlMessage) (events : List RecvEvent)
    (hevents : ∀ e ∈ events, e.delivers = true)
    (hread : (receiveMessages (receiveOn isOpen close) calls endpoint
      ⟨wireBytes ms, events⟩).2.stream = []) :
    (receiveMessages (receiveOn isOpen close) calls endpoint ⟨wireBytes ms, events⟩).1 = ms ↔
      timeoutsAligned events (wireBytes ms).length 0 = true ∧
        ∀ m ∈ ms, m.magic = ControlMessage.magicValue := by
  cases haligned : timeoutsAligned events (wireBytes ms).length 0 with
  | true =>
    rw [receiveMessages_of_aligned hopen calls ms _ rfl hevents hread haligned,
      List.filter_eq_self]
    simp
  | false =>
    have hlt := receiveMessages_length_lt hopen calls _ hevents hread haligned
    constructor
    · intro h
      rw [h, length_wireBytes] at hlt
      exact absurd hlt (lt_irrefl _)
    · rintro ⟨h, _⟩
      exact Bool.noConfusion h

end Calls

/-- On either end of the connection, however the stream of the messages `ms` is cut and interrupted
by timeouts, the calls of `receive_message` that read it return exactly `ms` if and only if no
timeout strikes in the middle of a message (and the messages carry the magic number). -/
theorem receiveMessage_framing (ms : List ControlMessage) (events : List RecvEvent)
    (hevents : ∀ e ∈ events, e.delivers = true) (calls : ℕ) :
    (∀ s : TCPControlServer, s.isOpen = true →
      (receiveMessages TCPControlServer.receiveMessage calls s ⟨wireBytes ms, events⟩).2.stream
        = [] →
      ((receiveMessages TCPControlServer.receiveMessage calls s ⟨wireBytes ms, events⟩).1 = ms ↔
        timeoutsAligned events (wireBytes ms).length 0 = true ∧
          ∀ m ∈ ms, m.magic = ControlMessage.magicValue)) ∧
    (∀ c : TCPControlClient, c.isConnected = true →
      (receiveMessages TCPControlClient.receiveMessage calls c ⟨wireBytes ms, events⟩).2.stream
        = [] →
      ((receiveMessages TCPControlClient.receiveMessage calls c ⟨wireBytes ms, events⟩).1 = ms ↔
        timeoutsAligned events (wireBytes ms).length 0 = true ∧
          ∀ m ∈ ms, m.magic = ControlMessage.magicValue)) :=
  ⟨fun _ hopen hread => receiveMessages_eq_iff hopen calls ms events hevents hread,
    fun _ hopen hread => receiveMessages_eq_iff hopen calls ms events hevents hread⟩

/-- An EC_ACK as the receiver builds it. -/
def sampleAck : ControlMessage :=
  { ControlMessage.zero with magic := ControlMessage.magicValue, msgType := .ecAck }

/-- Two messages cut in half by timeouts between messages only. -/
theorem receiveMessage_framing_sample :
    (receiveMessages TCPControlClient.receiveMessage 3 ⟨true⟩
        ⟨wireBytes [sampleAck], [.eagain, .arrived 100, .arrived 188]⟩).1 = [sampleAck] := by
  refine ((receiveMessage_framing [sampleAck] [.eagain, .arrived 100, .arrived 188]
    (by decide) 3).2 ⟨true⟩ rfl ?_).mpr ⟨?_, ?_⟩
  · decide +kernel
  · decide +kernel
  · decide

/-- A timeout after the first 100 bytes of a message: both messages are lost, though every byte of
the stream was read. -/
theorem receiveMessage_split_by_timeout :
    let events : List RecvEvent :=
      [.arrived 100, .eagain, .arrived 188, .arrived 288, .arrived 188]
    (∀ e ∈ events, e.delivers = true) ∧
    receiveMessages TCPControlClient.receiveMessage 3 ⟨true⟩
        ⟨wireBytes [sampleAck, sampleAck], events⟩ = ([], ⟨[], []⟩) ∧
    receiveMessages TCPControlServer.receiveMessage 3 ⟨5⟩
        ⟨wireBytes [sampleAck, sampleAck], events⟩ = ([], ⟨[], []⟩) := by
  refine ⟨by decide, ?_, ?_⟩
  · decide +kernel
  · decide +kernel

end SdrUdp
