import Mathlib.Algebra.Order.BigOperators.Group.Finset
import Mathlib.Tactic.Abel
import SdrUdp.Core.Descriptors
import SdrUdp.Core.Fold
import SdrUdp.ChannelPorts

/-!
# The sockets of connections

Which sockets the objects of a process hold, and which calls open and close them. Every object
closes the sockets it has opened and no others; a control client whose connection is lost keeps its
socket until `disconnect`, and forgets it when it is connected again.
-/

namespace SdrUdp

open SdrUdp.Core

/-- How the calls end that open a socket: `socket` fails, a later call does and the socket is
closed again, or the socket is ready. -/
inductive OpenAnswer where
  | noSocket
  | refused
  | ready
  deriving DecidableEq

/-- The result of `socket`. -/
def OpenAnswer.opens : OpenAnswer → Bool
  | noSocket => false
  | _        => true

/-! ### The control server -/

/-- `TCPControlServer` with its sockets. -/
structure ServerSockets where
  listenFd : ℤ
  clientFd : ℤ
  listenPort : U16
  isListening : Bool
  idle : isListening = false → listenFd = -1

namespace ServerSockets

def new : ServerSockets := ⟨-1, -1, 0, false, fun _ => rfl⟩

def held (s : ServerSockets) : Multiset ℕ := descriptor s.listenFd + descriptor s.clientFd

def startListening (port : U16) (answer : OpenAnswer) (t : DescriptorTable) (s : ServerSockets) :
    Bool × DescriptorTable × ServerSockets :=
  if s.isListening then (false, t, s)
  else
    let created := t.create answer.opens
    match answer with
    | .noSocket => (false, created.2, ⟨-1, s.clientFd, s.listenPort, false, fun _ => rfl⟩)
    | .refused  =>
      (false, created.2.close created.1, ⟨-1, s.clientFd, s.listenPort, false, fun _ => rfl⟩)
    | .ready    => (true, created.2, ⟨created.1, s.clientFd, port, true, nofun⟩)

/-- `accept_connection`; the connection it had is closed first. -/
def acceptConnection (accepted : Bool) (t : DescriptorTable) (s : ServerSockets) :
    Bool × DescriptorTable × ServerSockets :=
  if s.isListening = false then (false, t, s)
  else
    let t := if 0 ≤ s.clientFd then t.close s.clientFd else t
    let created := t.create accepted
    (accepted, created.2, { s with clientFd := created.1 })

/-- `receive_message`; a connection that is lost is closed. -/
def receiveMessage (inbound : Inbound) (t : DescriptorTable) (s : ServerSockets) :
    Option Received × Inbound × DescriptorTable × ServerSockets :=
  let result := TCPControlServer.receiveMessage ⟨s.clientFd⟩ inbound
  let lost := 0 ≤ s.clientFd ∧ result.2.1.clientFd ≠ s.clientFd
  (result.1, result.2.2, if lost then t.close s.clientFd else t,
    { s with clientFd := result.2.1.clientFd })

def closeConnection (t : DescriptorTable) (s : ServerSockets) : DescriptorTable × ServerSockets :=
  if 0 ≤ s.clientFd then (t.close s.clientFd, { s with clientFd := -1 }) else (t, s)

def stop (t : DescriptorTable) (s : ServerSockets) : DescriptorTable × ServerSockets :=
  let closed := s.closeConnection t
  let s := closed.2
  if 0 ≤ s.listenFd then (closed.1.close s.listenFd, ⟨-1, s.clientFd, 0, false, fun _ => rfl⟩)
  else (closed.1, ⟨-1, s.clientFd, 0, false, fun _ => rfl⟩)

end ServerSockets

/-! ### The control client -/

/-- `TCPControlClient` with its socket. -/
structure ClientSocket where
  socketFd : ℤ
  isConnected : Bool

namespace ClientSocket

def new : ClientSocket := ⟨-1, false⟩

def held (c : ClientSocket) : Multiset ℕ := descriptor c.socketFd

def disconnect (t : DescriptorTable) (c : ClientSocket) : DescriptorTable × ClientSocket :=
  if 0 ≤ c.socketFd then (t.close c.socketFd, ⟨-1, false⟩) else (t, { c with isConnected := false })

def connectToServer (answer : OpenAnswer) (t : DescriptorTable) (c : ClientSocket) :
    Bool × DescriptorTable × ClientSocket :=
  let closed := if c.isConnected then c.disconnect t else (t, c)
  let created := closed.1.create answer.opens
  match answer with
  | .noSocket => (false, created.2, { closed.2 with socketFd := created.1 })
  | .refused  => (false, created.2.close created.1, { closed.2 with socketFd := -1 })
  | .ready    => (true, created.2, ⟨created.1, true⟩)

def sendMessage (msg : ControlMessage) (sent : ℤ) (c : ClientSocket) : Bool × ClientSocket :=
  let result := TCPControlClient.sendMessage ⟨c.isConnected⟩ msg sent
  (result.1, { c with isConnected := result.2.1.isConnected })

/-- `receive_message`; a connection that is lost keeps its socket. -/
def receiveMessage (inbound : Inbound) (c : ClientSocket) :
    Option Received × Inbound × ClientSocket :=
  let result := TCPControlClient.receiveMessage ⟨c.isConnected⟩ inbound
  (result.1, result.2.2, { c with isConnected := result.2.1.isConnected })

/-- Connecting forgets the socket of a connection that was lost. -/
def forgotten (c : ClientSocket) : Multiset ℕ := if c.isConnected then 0 else c.held

end ClientSocket

/-! ### The UDP receiver -/

/-- A worker of the UDP receiver. `thread` says that its `std::thread` was started and not joined
yet; whether `worker_func` has left its loop on a failed `recvfrom` is not followed. -/
structure Worker where
  thread : Bool
  udpSocketFd : ℤ
  udpPort : U16
  deriving DecidableEq

def Worker.new : Worker := ⟨false, -1, 0⟩

def Worker.held (w : Worker) : Multiset ℕ := descriptor w.udpSocketFd

/-- `UDPReceiver` with its workers. -/
structure ReceiverSockets extends UDPReceiver where
  workers : List Worker
  shouldStop : Bool
  idle : isRunning = false → workers = []

namespace ReceiverSockets

def new : ReceiverSockets := ⟨⟨false, 0, 1⟩, [], false, fun _ => rfl⟩

def held (r : ReceiverSockets) : Multiset ℕ := (r.workers.map Worker.held).sum

/-- The workers join their threads and close their sockets. -/
def closeWorkers (workers : List Worker) (t : DescriptorTable) : DescriptorTable :=
  workers.foldl (fun t w => if 0 ≤ w.udpSocketFd then t.close w.udpSocketFd else t) t

def stop (t : DescriptorTable) (r : ReceiverSockets) : DescriptorTable × ReceiverSockets :=
  (closeWorkers r.workers t,
    ⟨{ r.toUDPReceiver with isRunning := false }, [], true, fun _ => rfl⟩)

/-- The loop of `start` over the channels; it ends early when a channel cannot be bound. -/
def bindChannels (basePort : U16) (answer : ℕ → OpenAnswer) :
    List ℕ → DescriptorTable → List Worker → Bool × DescriptorTable × List Worker
  | [], t, workers => (true, t, workers)
  | idx :: channels, t, workers =>
    let created := t.create (answer idx).opens
    match answer idx with
    | .noSocket => (false, created.2, workers)
    | .refused  => (false, created.2.close created.1, workers)
    | .ready    => bindChannels basePort answer channels created.2
        (workers.set idx { (workers.getD idx .new) with
          udpSocketFd := created.1, udpPort := basePort + BitVec.ofNat 16 idx })

/-- `std::max<uint16_t>(1, num_channels)`. -/
def channels (numChannels : U16) : U16 := if numChannels < 1 then 1 else numChannels

/-- The loop of `start` over all channels. -/
def bindAll (basePort numChannels : U16) (answer : ℕ → OpenAnswer) (t : DescriptorTable) :
    Bool × DescriptorTable × List Worker :=
  bindChannels basePort answer (List.range (channels numChannels).toNat) t
    (List.replicate (channels numChannels).toNat .new)

def start (basePort numChannels : U16) (answer : ℕ → OpenAnswer) (t : DescriptorTable)
    (r : ReceiverSockets) : Bool × DescriptorTable × ReceiverSockets :=
  if r.isRunning then (false, t, r)
  else
    let bound := bindAll basePort numChannels answer t
    if bound.1 then
      (true, bound.2.1, ⟨⟨true, basePort, channels numChannels⟩,
        bound.2.2.map fun w => { w with thread := true }, false, nofun⟩)
    else
      (false, closeWorkers bound.2.2 bound.2.1, ⟨⟨false, basePort, channels numChannels⟩, [], true,
        fun _ => rfl⟩)

end ReceiverSockets

/-! ### Connections -/

/-- The objects of an `SDRConnection` that hold sockets. -/
structure ConnectionSockets where
  tcpServer : Option ServerSockets
  tcpClient : Option ClientSocket
  udpReceiver : Option ReceiverSockets

/-- A call that may open or close sockets, with what the system answers. -/
inductive SocketCall where
  | listen (port : U16) (answer : OpenAnswer)
  | connect (answer : OpenAnswer)
  | acceptConnection (accepted : Bool)
  | serverReceive (inbound : Inbound)
  | closeConnection
  | stopServer
  | clientSend (msg : ControlMessage) (sent : ℤ)
  | clientReceive (inbound : Inbound)
  | disconnectClient
  | connectToServer (answer : OpenAnswer)
  | startReceiver (basePort numChannels : U16) (answer : ℕ → OpenAnswer)
  | stopReceiver
  | sendData (answer : OpenAnswer)
  | disconnect

namespace ConnectionSockets

def held (conn : ConnectionSockets) : Multiset ℕ :=
  (conn.tcpServer.elim 0 ServerSockets.held + conn.tcpClient.elim 0 ClientSocket.held)
    + conn.udpReceiver.elim 0 ReceiverSockets.held

/-- `sdr_listen`; a connection that cannot listen is deleted, and its server stops. -/
def listen (port : U16) (answer : OpenAnswer) (t : DescriptorTable) :
    DescriptorTable × Option ConnectionSockets :=
  let started := ServerSockets.new.startListening port answer t
  if started.1 then (started.2.1, some ⟨some started.2.2, none, none⟩)
  else ((started.2.2.stop started.2.1).1, none)

/-- `sdr_connect`; a connection that is refused is deleted, and its client disconnects. -/
def connect (answer : OpenAnswer) (t : DescriptorTable) :
    DescriptorTable × Option ConnectionSockets :=
  let connected := ClientSocket.new.connectToServer answer t
  if connected.1 then (connected.2.1, some ⟨none, some connected.2.2, none⟩)
  else ((connected.2.2.disconnect connected.2.1).1, none)

/-- A call of the control server, if there is one. -/
def onServer (f : DescriptorTable → ServerSockets → DescriptorTable × ServerSockets)
    (t : DescriptorTable) (conn : ConnectionSockets) : DescriptorTable × ConnectionSockets :=
  match conn.tcpServer with
  | none        => (t, conn)
  | some server => ((f t server).1, { conn with tcpServer := some (f t server).2 })

/-- A call of the control client, if there is one. -/
def onClient (f : DescriptorTable → ClientSocket → DescriptorTable × ClientSocket)
    (t : DescriptorTable) (conn : ConnectionSockets) : DescriptorTable × ConnectionSockets :=
  match conn.tcpClient with
  | none        => (t, conn)
  | some client => ((f t client).1, { conn with tcpClient := some (f t client).2 })

/-- What `sdr_recv_post` does about the UDP receiver: it creates one unless there is one. -/
def startReceiver (basePort numChannels : U16) (answer : ℕ → OpenAnswer) (t : DescriptorTable)
    (conn : ConnectionSockets) : DescriptorTable × ConnectionSockets :=
  match conn.udpReceiver with
  | some _ => (t, conn)
  | none   =>
    let started := ReceiverSockets.new.start basePort numChannels answer t
    (started.2.1, { conn with udpReceiver := some started.2.2 })

def stopReceiver (t : DescriptorTable) (conn : ConnectionSockets) :
    DescriptorTable × ConnectionSockets :=
  match conn.udpReceiver with
  | none          => (t, conn)
  | some receiver => ((receiver.stop t).1, { conn with udpReceiver := some (receiver.stop t).2 })

/-- The socket of a call that sends data packets: it is closed when the address is no address, and
else at the end. -/
def sendData (answer : OpenAnswer) (t : DescriptorTable) : DescriptorTable :=
  let created := t.create answer.opens
  match answer with
  | .noSocket => created.2
  | _         => created.2.close created.1

/-- `sdr_disconnect`. Everything is stopped by hand, and once more by the destructors. -/
def disconnect (t : DescriptorTable) (conn : ConnectionSockets) : DescriptorTable :=
  let (t, conn) := conn.stopReceiver t
  let (t, conn) := conn.stopReceiver t
  let conn := { conn with udpReceiver := none }
  let (t, conn) := conn.onServer (fun t s => s.closeConnection t) t
  let (t, conn) := conn.onServer (fun t s => s.stop t) t
  let (t, conn) := conn.onClient (fun t c => c.disconnect t) t
  let (t, conn) := conn.onServer (fun t s => s.stop t) t
  (conn.onClient (fun t c => c.disconnect t) t).1

end ConnectionSockets

namespace SocketCall

/-- A call on a connection. -/
def onConnection (t : DescriptorTable) (conn : ConnectionSockets) :
    SocketCall → DescriptorTable × Option ConnectionSockets
  | listen _ _ => (t, some conn)
  | connect _  => (t, some conn)
  | acceptConnection accepted =>
    (conn.onServer (fun t s => (s.acceptConnection accepted t).2) t).map id some
  | serverReceive inbound =>
    (conn.onServer (fun t s => (s.receiveMessage inbound t).2.2) t).map id some
  | closeConnection => (conn.onServer (fun t s => s.closeConnection t) t).map id some
  | stopServer => (conn.onServer (fun t s => s.stop t) t).map id some
  | clientSend msg sent =>
    (conn.onClient (fun t c => (t, (c.sendMessage msg sent).2)) t).map id some
  | clientReceive inbound =>
    (conn.onClient (fun t c => (t, (c.receiveMessage inbound).2.2)) t).map id some
  | disconnectClient => (conn.onClient (fun t c => c.disconnect t) t).map id some
  | connectToServer answer =>
    (conn.onClient (fun t c => (c.connectToServer answer t).2) t).map id some
  | startReceiver basePort numChannels answer =>
    (conn.startReceiver basePort numChannels answer t).map id some
  | stopReceiver => (conn.stopReceiver t).map id some
  | sendData answer => (ConnectionSockets.sendData answer t, some conn)
  | disconnect => (conn.disconnect t, none)

/-- A call on one of the connections of a process; `sdr_listen` and `sdr_connect` make a new one,
all others need one. -/
def apply (t : DescriptorTable) (conn : Option ConnectionSockets) (call : SocketCall) :
    DescriptorTable × Option ConnectionSockets :=
  match conn, call with
  | some conn, call                => call.onConnection t conn
  | none,      listen port answer  => ConnectionSockets.listen port answer t
  | none,      connect answer      => ConnectionSockets.connect answer t
  | none,      _                   => (t, none)

/-- The sockets that the call forgets. -/
def forgotten (call : SocketCall) (conn : Option ConnectionSockets) : Multiset ℕ :=
  match call, conn with
  | connectToServer _, some conn => conn.tcpClient.elim 0 ClientSocket.forgotten
  | _, _ => 0

end SocketCall

/-! ### What the calls of each object do to its sockets -/

section Holds

variable {t : DescriptorTable} {rest : Multiset ℕ}

/-- A new socket that is closed again. -/
lemma Holds.create_close (h : t.Holds rest) {ok : Bool} (hok : ok = true) :
    ((t.create ok).2.close (t.create ok).1).Holds rest := by
  subst hok
  exact (h.create true).close (Int.natCast_nonneg t.lowest)

namespace ServerSockets

variable {s : ServerSockets}

lemma startListening_holds (h : t.Holds (s.held + rest)) (port : U16) (answer : OpenAnswer) :
    (s.startListening port answer t).2.1.Holds
      ((s.startListening port answer t).2.2.held + rest) := by
  unfold startListening
  split_ifs with hlistening
  · exact h
  · -- a server that does not listen has no socket to forget
    have hnone := s.idle (by simpa using hlistening)
    rw [held, hnone, descriptor_neg_one, zero_add] at h
    cases answer with
    | noSocket =>
      change (t.create false).2.Holds (descriptor (-1) + descriptor s.clientFd + rest)
      rwa [descriptor_neg_one, zero_add]
    | refused =>
      change ((t.create true).2.close (t.create true).1).Holds
        (descriptor (-1) + descriptor s.clientFd + rest)
      rw [descriptor_neg_one, zero_add]
      exact Holds.create_close h rfl
    | ready =>
      change (t.create true).2.Holds
        (descriptor (t.create true).1 + descriptor s.clientFd + rest)
      rw [add_assoc]
      exact h.create true

lemma acceptConnection_holds (h : t.Holds (s.held + rest)) (accepted : Bool) :
    (s.acceptConnection accepted t).2.1.Holds
      ((s.acceptConnection accepted t).2.2.held + rest) := by
  unfold acceptConnection
  by_cases hlistening : s.isListening = false
  · rwa [if_pos hlistening]
  · rw [if_neg hlistening]
    rw [held, add_assoc, add_left_comm] at h
    have hnew := h.release.create accepted
    rw [add_left_comm, ← add_assoc] at hnew
    exact hnew

lemma closeConnection_holds (h : t.Holds (s.held + rest)) :
    (s.closeConnection t).1.Holds ((s.closeConnection t).2.held + rest) := by
  unfold closeConnection
  split_ifs with hopen
  · rw [held, add_assoc, add_left_comm] at h
    change (t.close s.clientFd).Holds (descriptor s.listenFd + descriptor (-1) + rest)
    rw [descriptor_neg_one, add_zero]
    exact h.close hopen
  · exact h

lemma closeConnection_clientFd (s : ServerSockets) (t : DescriptorTable) :
    ¬ 0 ≤ (s.closeConnection t).2.clientFd := by
  unfold closeConnection
  split_ifs with hopen
  · exact (by decide : ¬ (0 : ℤ) ≤ -1)
  · exact hopen

/-- A server closes the connection it loses. -/
lemma receiveMessage_holds (h : t.Holds (s.held + rest)) (inbound : Inbound) :
    (s.receiveMessage inbound t).2.2.1.Holds
      ((s.receiveMessage inbound t).2.2.2.held + rest) := by
  have hfd : (TCPControlServer.receiveMessage ⟨s.clientFd⟩ inbound).2.1.clientFd = s.clientFd ∨
      (TCPControlServer.receiveMessage ⟨s.clientFd⟩ inbound).2.1.clientFd = -1 := by
    unfold TCPControlServer.receiveMessage receiveOn
    split_ifs
    · exact Or.inl rfl
    · split
      · exact Or.inl rfl
      · exact Or.inl rfl
      · exact Or.inr rfl
      · exact Or.inl rfl
  unfold receiveMessage
  dsimp only
  generalize (TCPControlServer.receiveMessage ⟨s.clientFd⟩ inbound).2.1.clientFd = fd at hfd
  rcases hfd with rfl | rfl
  · rwa [if_neg fun hlost => hlost.2 rfl]
  · change (ite _ _ _ : DescriptorTable).Holds (descriptor s.listenFd + descriptor (-1) + rest)
    rw [descriptor_neg_one, add_zero]
    split_ifs with hlost
    · rw [held, add_assoc, add_left_comm] at h
      exact h.close hlost.1
    · have hnone : ¬ 0 ≤ s.clientFd := fun hopen => hlost ⟨hopen, by omega⟩
      rwa [held, descriptor_of_neg hnone, add_zero] at h

/-- A server that stops has no socket left. -/
lemma stop_holds (h : t.Holds (s.held + rest)) : (s.stop t).1.Holds rest := by
  have hclosed := closeConnection_holds h
  have hclient := s.closeConnection_clientFd t
  unfold stop
  dsimp only
  generalize s.closeConnection t = closed at hclosed hclient
  rw [held, descriptor_of_neg hclient, add_zero] at hclosed
  split_ifs with hopen
  · exact hclosed.close hopen
  · rwa [descriptor_of_neg hopen, zero_add] at hclosed

lemma stop_held (s : ServerSockets) (t : DescriptorTable) : (s.stop t).2.held = 0 := by
  have hclient := s.closeConnection_clientFd t
  unfold stop
  dsimp only
  split_ifs
  all_goals rw [held, descriptor_neg_one, descriptor_of_neg hclient, add_zero]

end ServerSockets

namespace ClientSocket

variable {c : ClientSocket}

/-- A client that disconnects has no socket left. -/
lemma disconnect_holds (h : t.Holds (c.held + rest)) : (c.disconnect t).1.Holds rest := by
  unfold disconnect
  split_ifs with hopen
  · exact h.close hopen
  · rwa [held, descriptor_of_neg hopen, zero_add] at h

lemma disconnect_held (c : ClientSocket) (t : DescriptorTable) : (c.disconnect t).2.held = 0 := by
  unfold disconnect held
  split_ifs with hopen
  · exact descriptor_neg_one
  · exact descriptor_of_neg hopen

/-- What is left when a client has got a new socket: its old one, if its connection was lost. -/
lemma connectToServer_holds (h : t.Holds (c.held + rest)) (answer : OpenAnswer) :
    (c.connectToServer answer t).2.1.Holds
      ((c.connectToServer answer t).2.2.held + (c.forgotten + rest)) := by
  have hclosed : (if c.isConnected then c.disconnect t else (t, c)).1.Holds
      (c.forgotten + rest) := by
    unfold forgotten
    split_ifs
    · rw [zero_add]
      exact disconnect_holds h
    · exact h
  unfold connectToServer
  dsimp only
  generalize (if c.isConnected then c.disconnect t else (t, c)) = closed at hclosed
  cases answer with
  | noSocket => exact hclosed.create false
  | refused =>
    rw [held, descriptor_neg_one, zero_add]
    exact Holds.create_close hclosed rfl
  | ready => exact hclosed.create true

end ClientSocket

namespace ReceiverSockets

lemma closeWorkers_holds {workers : List Worker}
    (h : t.Holds ((workers.map Worker.held).sum + rest)) : (closeWorkers workers t).Holds rest := by
  unfold closeWorkers
  induction workers generalizing t with
  | nil => rwa [List.map_nil, List.sum_nil, zero_add] at h
  | cons w workers ih =>
    rw [List.map_cons, List.sum_cons, add_assoc] at h
    exact ih h.release

/-- The workers of the channels from `k` on get a socket each, until one gets none. -/
lemma bindChannels_holds (basePort : U16) (answer : ℕ → OpenAnswer) {n k : ℕ} {bound : List Worker}
    (hk : bound.length = k) (h : t.Holds ((bound.map Worker.held).sum + rest)) :
    let result := bindChannels basePort answer (List.range' k n) t
      (bound ++ List.replicate n Worker.new)
    result.2.1.Holds ((result.2.2.map Worker.held).sum + rest) := by
  induction n generalizing t k bound with
  | zero => rwa [List.replicate_zero, List.append_nil]
  | succ n ih =>
    have hsum : ((bound ++ List.replicate (n + 1) Worker.new).map Worker.held).sum
        = (bound.map Worker.held).sum := by
      rw [List.map_append, List.sum_append, List.map_replicate, List.sum_replicate]
      exact (congrArg _ (smul_zero _)).trans (add_zero _)
    rw [List.range'_succ]
    unfold bindChannels
    cases hanswer : answer k with
    | noSocket =>
      dsimp only
      rw [hsum]
      exact h
    | refused =>
      dsimp only
      rw [hsum]
      exact Holds.create_close h rfl
    | ready =>
      dsimp only
      rw [List.replicate_succ, ← hk, List.set_append_right _ _ le_rfl, Nat.sub_self,
        List.set_cons_zero, List.append_cons]
      refine ih (by rw [List.length_append, List.length_singleton]) ?_
      rw [List.map_append, List.sum_append, List.map_singleton, List.sum_singleton,
        add_comm (bound.map Worker.held).sum, add_assoc]
      exact h.create true

lemma stop_holds {r : ReceiverSockets} (h : t.Holds (r.held + rest)) :
    (r.stop t).1.Holds rest := closeWorkers_holds h

lemma stop_held (r : ReceiverSockets) (t : DescriptorTable) : (r.stop t).2.held = 0 := rfl

/-- A receiver that does not start has no socket left. -/
lemma start_holds {r : ReceiverSockets} (h : t.Holds (r.held + rest)) (basePort numChannels : U16)
    (answer : ℕ → OpenAnswer) :
    (r.start basePort numChannels answer t).2.1.Holds
      ((r.start basePort numChannels answer t).2.2.held + rest) := by
  unfold start
  by_cases hrunning : r.isRunning = true
  · rwa [if_pos hrunning]
  · rw [if_neg hrunning]
    dsimp only
    rw [held, r.idle (by simpa using hrunning), List.map_nil, List.sum_nil] at h
    have hbound : (bindAll basePort numChannels answer t).2.1.Holds
        (((bindAll basePort numChannels answer t).2.2.map Worker.held).sum + rest) := by
      have hloop := bindChannels_holds basePort answer (n := (channels numChannels).toNat)
        (k := 0) (List.length_nil (α := Worker)) h
      rwa [List.nil_append, ← List.range_eq_range'] at hloop
    split_ifs
    · dsimp only [held]
      rwa [List.map_map]
    · rw [held, List.map_nil, List.sum_nil, zero_add]
      exact closeWorkers_holds hbound

end ReceiverSockets

namespace ConnectionSockets

variable {conn : ConnectionSockets}

lemma onServer_holds {f : DescriptorTable → ServerSockets → DescriptorTable × ServerSockets}
    (hf : ∀ {t s rest}, t.Holds (s.held + rest) → (f t s).1.Holds ((f t s).2.held + rest))
    (h : t.Holds (conn.held + rest)) :
    (conn.onServer f t).1.Holds ((conn.onServer f t).2.held + rest) := by
  obtain ⟨server, client, receiver⟩ := conn
  cases server with
  | none => exact h
  | some server =>
    simp only [held, Option.elim_some, add_assoc] at h
    simpa only [held, onServer, Option.elim_some, add_assoc] using hf h

lemma onClient_holds {f : DescriptorTable → ClientSocket → DescriptorTable × ClientSocket}
    {lost : ClientSocket → Multiset ℕ}
    (hf : ∀ {t c rest}, t.Holds (c.held + rest) →
      (f t c).1.Holds ((f t c).2.held + (lost c + rest)))
    (h : t.Holds (conn.held + rest)) :
    (conn.onClient f t).1.Holds
      ((conn.onClient f t).2.held + (conn.tcpClient.elim 0 lost + rest)) := by
  obtain ⟨server, client, receiver⟩ := conn
  cases client with
  | none => exact (congrArg _ (congrArg _ (zero_add rest))).mpr h
  | some client =>
    have hclient : t.Holds (client.held + (server.elim 0 ServerSockets.held
        + receiver.elim 0 ReceiverSockets.held + rest)) := by
      refine (congrArg t.Holds ?_).mp h
      change server.elim 0 ServerSockets.held + client.held
        + receiver.elim 0 ReceiverSockets.held + rest = _
      abel
    refine (congrArg (f t client).1.Holds ?_).mp (hf hclient)
    change _ = server.elim 0 ServerSockets.held + (f t client).2.held
      + receiver.elim 0 ReceiverSockets.held + (lost client + rest)
    abel

lemma stopReceiver_holds (h : t.Holds (conn.held + rest)) :
    (conn.stopReceiver t).1.Holds ((conn.stopReceiver t).2.held + rest) := by
  obtain ⟨server, client, receiver⟩ := conn
  cases receiver with
  | none => exact h
  | some receiver =>
    simp only [held, Option.elim_some] at h
    rw [add_assoc, add_left_comm] at h
    have hstopped := ReceiverSockets.stop_holds h
    simpa only [held, stopReceiver, Option.elim_some, ReceiverSockets.stop_held, add_zero]
      using hstopped

lemma startReceiver_holds (h : t.Holds (conn.held + rest)) (basePort numChannels : U16)
    (answer : ℕ → OpenAnswer) :
    (conn.startReceiver basePort numChannels answer t).1.Holds
      ((conn.startReceiver basePort numChannels answer t).2.held + rest) := by
  obtain ⟨server, client, receiver⟩ := conn
  cases receiver with
  | some receiver => exact h
  | none =>
    have hnew : t.Holds (ReceiverSockets.new.held + (server.elim 0 ServerSockets.held
        + client.elim 0 ClientSocket.held + rest)) := by
      refine (congrArg t.Holds ?_).mp h
      change server.elim 0 ServerSockets.held + client.elim 0 ClientSocket.held + 0 + rest = 0 + _
      abel
    refine (congrArg (DescriptorTable.Holds _) ?_).mp
      (ReceiverSockets.start_holds hnew basePort numChannels answer)
    change _ = server.elim 0 ServerSockets.held + client.elim 0 ClientSocket.held
      + (ReceiverSockets.new.start basePort numChannels answer t).2.2.held + rest
    abel

lemma sendData_holds (h : t.Holds rest) (answer : OpenAnswer) : (sendData answer t).Holds rest := by
  cases answer with
  | noSocket => exact h
  | refused => exact Holds.create_close h rfl
  | ready => exact Holds.create_close h rfl

lemma onServer_tcpClient (f : DescriptorTable → ServerSockets → DescriptorTable × ServerSockets)
    (conn : ConnectionSockets) (t : DescriptorTable) :
    (conn.onServer f t).2.tcpClient = conn.tcpClient ∧
      (conn.onServer f t).2.udpReceiver = conn.udpReceiver := by
  unfold onServer
  split <;> exact ⟨rfl, rfl⟩

lemma onClient_tcpServer (f : DescriptorTable → ClientSocket → DescriptorTable × ClientSocket)
    (conn : ConnectionSockets) (t : DescriptorTable) :
    (conn.onClient f t).2.tcpServer = conn.tcpServer ∧
      (conn.onClient f t).2.udpReceiver = conn.udpReceiver := by
  unfold onClient
  split <;> exact ⟨rfl, rfl⟩

lemma stopReceiver_held (conn : ConnectionSockets) (t : DescriptorTable) :
    (conn.stopReceiver t).2.udpReceiver.elim 0 ReceiverSockets.held = 0 := by
  obtain ⟨server, client, receiver⟩ := conn
  cases receiver <;> rfl

lemma onClient_keeps {f : DescriptorTable → ClientSocket → DescriptorTable × ClientSocket}
    (hf : ∀ {t c rest}, t.Holds (c.held + rest) → (f t c).1.Holds ((f t c).2.held + rest))
    (h : t.Holds (conn.held + rest)) :
    (conn.onClient f t).1.Holds ((conn.onClient f t).2.held + rest) := by
  have hkept : (conn.onClient f t).1.Holds ((conn.onClient f t).2.held
      + (conn.tcpClient.elim 0 (fun _ => (0 : Multiset ℕ)) + rest)) :=
    onClient_holds (fun {t c rest} h => by
      rw [zero_add]
      exact hf h) h
  have hnone : conn.tcpClient.elim 0 (fun _ => (0 : Multiset ℕ)) = 0 := by
    cases conn.tcpClient <;> rfl
  rwa [hnone, zero_add] at hkept

lemma onClient_disconnect_holds (h : t.Holds (conn.held + rest)) :
    (conn.onClient (fun t c => c.disconnect t) t).1.Holds
      ((conn.onClient (fun t c => c.disconnect t) t).2.held + rest) :=
  onClient_keeps (fun {t c rest} (h : t.Holds (c.held + rest)) => by
    rw [c.disconnect_held t, zero_add]
    exact ClientSocket.disconnect_holds h) h

lemma onServer_stop_holds (h : t.Holds (conn.held + rest)) :
    (conn.onServer (fun t s => s.stop t) t).1.Holds
      ((conn.onServer (fun t s => s.stop t) t).2.held + rest) :=
  onServer_holds (fun {t s rest} h => by
    rw [s.stop_held t, zero_add]
    exact ServerSockets.stop_holds h) h

/-- Once the control server and the control client have stopped, only the receiver is left. -/
lemma stopped_held (conn : ConnectionSockets) (t : DescriptorTable) :
    let served := conn.onServer (fun t s => s.stop t) t
    let stopped := (served.2.onClient (fun t c => c.disconnect t) served.1).2
    stopped.held = conn.udpReceiver.elim 0 ReceiverSockets.held ∧
      stopped.udpReceiver = conn.udpReceiver := by
  obtain ⟨server, client, receiver⟩ := conn
  have hserver : ((onServer (fun t s => s.stop t) t
      ⟨server, client, receiver⟩).2.tcpServer.elim 0 ServerSockets.held : Multiset ℕ) = 0 := by
    cases server with
    | none => rfl
    | some server => exact server.stop_held t
  obtain ⟨hclient, hreceiver⟩ := onServer_tcpClient (fun t s => s.stop t)
    ⟨server, client, receiver⟩ t
  generalize onServer (fun t s => s.stop t) t ⟨server, client, receiver⟩ = served
    at hserver hclient hreceiver
  obtain ⟨t', server', client', receiver'⟩ := served
  dsimp only at hserver hclient hreceiver ⊢
  subst hclient hreceiver
  cases client' with
  | none => exact ⟨by simp [onClient, held, hserver], rfl⟩
  | some client' => exact ⟨by simp [onClient, held, hserver, ClientSocket.disconnect_held], rfl⟩

/-- Nothing of a connection is open after `sdr_disconnect`. -/
lemma disconnect_holds (h : t.Holds (conn.held + rest)) : (conn.disconnect t).Holds rest := by
  unfold disconnect
  have h₂ := stopReceiver_holds (stopReceiver_holds h)
  have hreceiver := (conn.stopReceiver t).2.stopReceiver_held (conn.stopReceiver t).1
  dsimp only
  generalize (conn.stopReceiver t).2.stopReceiver (conn.stopReceiver t).1 = stopped
    at h₂ hreceiver ⊢
  -- the receiver goes without a socket
  have h₃ : stopped.1.Holds
      (ConnectionSockets.held { stopped.2 with udpReceiver := none } + rest) := by
    rw [held, hreceiver] at h₂
    exact h₂
  generalize hconn : ({ stopped.2 with udpReceiver := none } : ConnectionSockets) = conn₃ at h₃ ⊢
  have hnone : conn₃.udpReceiver = none := hconn ▸ rfl
  have h₄ := onServer_holds (fun {t s rest} (h : t.Holds (s.held + rest)) =>
    ServerSockets.closeConnection_holds h) h₃
  have hreceiver₄ := (conn₃.onServer_tcpClient (fun t s => s.closeConnection t) stopped.1).2
  generalize conn₃.onServer (fun t s => s.closeConnection t) stopped.1 = closed at h₄ hreceiver₄ ⊢
  have h₅ := onClient_disconnect_holds (onServer_stop_holds h₄)
  obtain ⟨-, hreceiver₅⟩ := closed.2.stopped_held closed.1
  generalize (closed.2.onServer (fun t s => s.stop t) closed.1).2.onClient
    (fun t c => c.disconnect t) (closed.2.onServer (fun t s => s.stop t) closed.1).1 = again
    at h₅ hreceiver₅ ⊢
  have h₆ := onClient_disconnect_holds (onServer_stop_holds h₅)
  obtain ⟨hheld, -⟩ := again.2.stopped_held again.1
  rw [hheld, hreceiver₅, hreceiver₄, hnone, Option.elim_none, zero_add] at h₆
  exact h₆

/-- A new connection holds what its server does; one that cannot listen holds nothing. -/
lemma listen_holds (h : t.Holds rest) (port : U16) (answer : OpenAnswer) :
    (listen port answer t).1.Holds ((listen port answer t).2.elim 0 held + rest) := by
  have hnew : t.Holds (ServerSockets.new.held + rest) := by
    change t.Holds (0 + 0 + rest)
    rwa [zero_add, zero_add]
  have hstarted := ServerSockets.startListening_holds hnew port answer
  unfold listen
  dsimp only
  generalize ServerSockets.new.startListening port answer t = started at hstarted
  split_ifs
  · rw [Option.elim_some, held, Option.elim_some, Option.elim_none, Option.elim_none, add_zero,
      add_zero]
    exact hstarted
  · rw [Option.elim_none, zero_add]
    exact ServerSockets.stop_holds hstarted

lemma connect_holds (h : t.Holds rest) (answer : OpenAnswer) :
    (connect answer t).1.Holds ((connect answer t).2.elim 0 held + rest) := by
  have hnew : t.Holds (ClientSocket.new.held + rest) := by
    change t.Holds (0 + rest)
    rwa [zero_add]
  have hconnected := ClientSocket.connectToServer_holds hnew answer
  have hforgotten : ClientSocket.new.forgotten = 0 := rfl
  rw [hforgotten, zero_add] at hconnected
  unfold connect
  dsimp only
  generalize ClientSocket.new.connectToServer answer t = connected at hconnected
  split_ifs
  · rw [Option.elim_some, held, Option.elim_none, Option.elim_some, Option.elim_none, add_zero,
      zero_add]
    exact hconnected
  · rw [Option.elim_none, zero_add]
    exact ClientSocket.disconnect_holds hconnected

end ConnectionSockets

end Holds

/-! ### Whole runs -/

/-- A call on one of the connections, where all share the table. -/
def socketCall {ι : Type} (_ : ι) (call : SocketCall) (t : DescriptorTable)
    (conn : Option ConnectionSockets) : DescriptorTable × Option ConnectionSockets :=
  call.apply t conn

namespace SocketCall

/-- What a connection, if there is one, holds. -/
def holding (conn : Option ConnectionSockets) : Multiset ℕ := conn.elim 0 ConnectionSockets.held

/-- No call closes a socket of another object, and only `connect_to_server` forgets one. -/
lemma keepsDescriptors {ι : Type} : KeepsDescriptors holding forgotten (socketCall (ι := ι)) := by
  intro _ call t conn rest h
  dsimp only [socketCall]
  cases conn with
  | none =>
    have hnone : forgotten call none = 0 := by cases call <;> rfl
    rw [hnone, zero_add]
    rw [holding, Option.elim_none, zero_add] at h
    cases call
    case listen port answer => exact ConnectionSockets.listen_holds h port answer
    case connect answer => exact ConnectionSockets.connect_holds h answer
    all_goals exact (congrArg _ (zero_add rest)).mpr h
  | some conn =>
    have hkept : ∀ result : DescriptorTable × ConnectionSockets,
        result.1.Holds (result.2.held + rest) →
          (result.map id some).1.Holds (holding (result.map id some).2 + (0 + rest)) := by
      intro result hresult
      rwa [zero_add]
    cases call with
    | listen port answer => exact hkept (t, conn) h
    | connect answer => exact hkept (t, conn) h
    | acceptConnection accepted =>
      exact hkept _ (ConnectionSockets.onServer_holds
        (fun {t s rest} (h : t.Holds (s.held + rest)) =>
          ServerSockets.acceptConnection_holds h accepted) h)
    | serverReceive inbound =>
      exact hkept _ (ConnectionSockets.onServer_holds
        (fun {t s rest} (h : t.Holds (s.held + rest)) =>
          ServerSockets.receiveMessage_holds h inbound) h)
    | closeConnection =>
      exact hkept _ (ConnectionSockets.onServer_holds
        (fun {t s rest} (h : t.Holds (s.held + rest)) => ServerSockets.closeConnection_holds h) h)
    | stopServer => exact hkept _ (ConnectionSockets.onServer_stop_holds h)
    | clientSend msg sent =>
      exact hkept _ (ConnectionSockets.onClient_keeps
        (f := fun t c => (t, (c.sendMessage msg sent).2)) (fun {t c rest} h => h) h)
    | clientReceive inbound =>
      exact hkept _ (ConnectionSockets.onClient_keeps
        (f := fun t c => (t, (c.receiveMessage inbound).2.2)) (fun {t c rest} h => h) h)
    | disconnectClient => exact hkept _ (ConnectionSockets.onClient_disconnect_holds h)
    | connectToServer answer =>
      exact ConnectionSockets.onClient_holds
        (fun {t c rest} (h : t.Holds (c.held + rest)) =>
          ClientSocket.connectToServer_holds h answer) h
    | startReceiver basePort numChannels answer =>
      exact hkept _ (ConnectionSockets.startReceiver_holds h basePort numChannels answer)
    | stopReceiver => exact hkept _ (ConnectionSockets.stopReceiver_holds h)
    | sendData answer =>
      exact hkept (ConnectionSockets.sendData answer t, conn)
        (ConnectionSockets.sendData_holds h answer)
    | disconnect =>
      change (conn.disconnect t).Holds (0 + (0 + rest))
      rw [zero_add, zero_add]
      exact ConnectionSockets.disconnect_holds h

end SocketCall

section Runs

variable {ι : Type}

/-- The call connects a control client again whose connection was lost. -/
def Forgets (w : Sharing ι DescriptorTable (Option ConnectionSockets)) (e : ι × SocketCall) :
    Prop :=
  ∃ answer conn client, e.2 = .connectToServer answer ∧ w.own e.1 = some conn ∧
    conn.tcpClient = some client ∧ client.isConnected = false ∧ 0 ≤ client.socketFd

lemma forgotten_eq_zero_iff (w : Sharing ι DescriptorTable (Option ConnectionSockets))
    (e : ι × SocketCall) : e.2.forgotten (w.own e.1) = 0 ↔ ¬ Forgets w e := by
  obtain ⟨i, call⟩ := e
  constructor
  · rintro hzero ⟨answer, conn, client, rfl, hconn, hclient, hlost, hopen⟩
    dsimp only at hconn hzero
    rw [hconn, SocketCall.forgotten, hclient, Option.elim_some, ClientSocket.forgotten, hlost,
      if_neg Bool.false_ne_true, ClientSocket.held, descriptor_of_nonneg hopen] at hzero
    exact Multiset.singleton_ne_zero _ hzero
  · intro hkept
    cases call
    case connectToServer answer =>
      cases hconn : w.own i with
      | none => rfl
      | some conn =>
        cases hclient : conn.tcpClient with
        | none => rw [SocketCall.forgotten, hclient, Option.elim_none]
        | some client =>
          rw [SocketCall.forgotten, hclient, Option.elim_some, ClientSocket.forgotten]
          split_ifs with hconnected
          · rfl
          · refine descriptor_of_neg fun hopen => hkept ?_
            exact ⟨answer, conn, client, rfl, hconn, hclient, by simpa using hconnected, hopen⟩
    all_goals rfl

variable [DecidableEq ι]

lemma lostIn_eq_zero_iff (calls : List (ι × SocketCall))
    (w : Sharing ι DescriptorTable (Option ConnectionSockets)) :
    lostIn SocketCall.forgotten socketCall calls w = 0 ↔
      EachStep (fun w e => ¬ Forgets w e) (Sharing.step socketCall) calls w := by
  induction calls generalizing w with
  | nil => exact iff_of_true rfl trivial
  | cons e calls ih =>
    rw [lostIn, ← Multiset.card_eq_zero, Multiset.card_add, Nat.add_eq_zero_iff,
      Multiset.card_eq_zero, Multiset.card_eq_zero, forgotten_eq_zero_iff, ih]
    rfl

/-- Whatever calls are made on the connections of a process, in any order, and whatever the system
answers: no descriptor is closed that is not the caller's own, and all that are open are those
that were open before, those of the connections, each of one object, and the ones that a control
client forgot. So when all are disconnected, exactly the runs in which no client is connected again
after its connection was lost leave nothing open. -/
theorem sockets_accounted [Fintype ι] (opened : Finset ℕ) (calls : List (ι × SocketCall)) :
    let start : Sharing ι DescriptorTable (Option ConnectionSockets) := ⟨⟨opened, 0⟩, fun _ => none⟩
    let run := Sharing.run socketCall calls start
    run.cell.stray = 0 ∧
      run.cell.opened.val = ∑ i, SocketCall.holding (run.own i)
        + (lostIn SocketCall.forgotten socketCall calls start + opened.val) ∧
      ((∀ i, run.own i = none) → (run.cell.opened = opened ↔
        EachStep (fun w e => ¬ Forgets w e) (Sharing.step socketCall) calls start)) := by
  intro start run
  have hstart : start.cell.Holds (∑ i, SocketCall.holding (start.own i) + opened.val) := by
    have hnone : ∑ i : ι, SocketCall.holding (start.own i) = 0 := Finset.sum_const_zero
    rw [hnone, zero_add]
    exact ⟨rfl, rfl⟩
  obtain ⟨hopened, hstray⟩ := holds_run SocketCall.keepsDescriptors calls start hstart
  refine ⟨hstray, hopened, fun hnone => ?_⟩
  have hsum : ∑ i, SocketCall.holding (run.own i) = 0 :=
    Finset.sum_eq_zero fun i _ => by rw [hnone i]; rfl
  rw [← lostIn_eq_zero_iff, ← Finset.val_inj]
  change run.cell.opened.val = opened.val ↔ _
  rw [hopened, hsum, zero_add]
  exact add_eq_right

end Runs

/-! ### The workers of a running receiver -/

namespace ReceiverSockets

/-- The workers are those of the ports of the receiver, each with its thread and its socket. -/
structure Staffed (r : ReceiverSockets) : Prop where
  ports : r.workers.map Worker.udpPort = r.toUDPReceiver.channelPorts
  workers : ∀ w ∈ r.workers, w.thread = true ∧ 0 ≤ w.udpSocketFd

/-- Where all channels can be bound, each gets its port and a socket. -/
lemma bindChannels_bound (basePort : U16) (answer : ℕ → OpenAnswer) {n k : ℕ} {bound : List Worker}
    (hk : bound.length = k) {t : DescriptorTable}
    (h : (bindChannels basePort answer (List.range' k n) t
      (bound ++ List.replicate n Worker.new)).1 = true) :
    ∃ new, (bindChannels basePort answer (List.range' k n) t
        (bound ++ List.replicate n Worker.new)).2.2 = bound ++ new ∧
      new.map Worker.udpPort = (List.range' k n).map (fun idx => basePort + BitVec.ofNat 16 idx) ∧
      ∀ w ∈ new, 0 ≤ w.udpSocketFd := by
  induction n generalizing t k bound with
  | zero => exact ⟨[], rfl, rfl, List.forall_mem_nil _⟩
  | succ n ih =>
    rw [List.range'_succ] at h ⊢
    unfold bindChannels at h ⊢
    cases hanswer : answer k with
    | noSocket => simp [hanswer] at h
    | refused => simp [hanswer] at h
    | ready =>
      simp only [hanswer] at h ⊢
      rw [List.replicate_succ, ← hk, List.set_append_right _ _ le_rfl, Nat.sub_self,
        List.set_cons_zero, List.append_cons] at h ⊢
      obtain ⟨new, hnew, hports, hopen⟩ :=
        ih (by rw [List.length_append, List.length_singleton]) h
      refine ⟨_ :: new, hnew.trans (List.append_assoc _ _ _), ?_, ?_⟩
      · rw [List.map_cons, hports, List.map_cons]
      · exact List.forall_mem_cons.mpr ⟨Int.natCast_nonneg t.lowest, hopen⟩

/-- Every channel gets a worker when all can be bound. -/
lemma bindAll_bound {basePort numChannels : U16} {answer : ℕ → OpenAnswer} {t : DescriptorTable}
    (h : (bindAll basePort numChannels answer t).1 = true) :
    (bindAll basePort numChannels answer t).2.2.map Worker.udpPort = (List.range
        (channels numChannels).toNat).map (fun idx => basePort + BitVec.ofNat 16 idx) ∧
      ∀ w ∈ (bindAll basePort numChannels answer t).2.2, 0 ≤ w.udpSocketFd := by
  unfold bindAll at h ⊢
  rw [List.range_eq_range'] at h ⊢
  obtain ⟨new, hnew, hports, hopen⟩ :=
    bindChannels_bound basePort answer (k := 0) (List.length_nil (α := Worker)) h
  rw [List.nil_append, List.nil_append] at hnew
  rw [hnew]
  exact ⟨hports, hopen⟩

lemma Staffed.start {r : ReceiverSockets} (h : r.Staffed) (basePort numChannels : U16)
    (answer : ℕ → OpenAnswer) (t : DescriptorTable) :
    (r.start basePort numChannels answer t).2.2.Staffed := by
  unfold ReceiverSockets.start
  by_cases hrunning : r.isRunning = true
  · rwa [if_pos hrunning]
  · rw [if_neg hrunning]
    dsimp only
    split_ifs with hall
    · obtain ⟨hports, hopen⟩ := bindAll_bound hall
      refine ⟨?_, fun w hw => ?_⟩
      · rw [UDPReceiver.channelPorts, if_pos rfl, ← hports]
        exact List.map_map
      · obtain ⟨w, hmem, rfl⟩ := List.mem_map.mp hw
        exact ⟨rfl, hopen w hmem⟩
    · exact ⟨rfl, List.forall_mem_nil _⟩

lemma staffed_stop (r : ReceiverSockets) (t : DescriptorTable) : (r.stop t).2.Staffed :=
  ⟨rfl, List.forall_mem_nil _⟩

lemma staffed_new : ReceiverSockets.new.Staffed := ⟨rfl, List.forall_mem_nil _⟩

lemma bindChannels_fst (basePort : U16) (answer : ℕ → OpenAnswer) (channels : List ℕ)
    (t : DescriptorTable) (workers : List Worker) :
    (bindChannels basePort answer channels t workers).1
      = decide (∀ idx ∈ channels, answer idx = .ready) := by
  induction channels generalizing t workers with
  | nil => exact (decide_eq_true (List.forall_mem_nil _)).symm
  | cons idx channels ih =>
    unfold bindChannels
    cases hanswer : answer idx
    case ready =>
      refine (ih _ _).trans (decide_eq_decide.mpr ?_)
      rw [List.forall_mem_cons, and_iff_right hanswer]
    all_goals
      refine (decide_eq_false fun hall => ?_).symm
      exact absurd (hanswer.symm.trans (hall idx List.mem_cons_self)) (by decide)

/-- `start` does what it does without the workers, where the sockets can be opened when every
channel can be bound. -/
theorem start_toUDPReceiver (r : ReceiverSockets) (basePort numChannels : U16)
    (answer : ℕ → OpenAnswer) (t : DescriptorTable) :
    ((r.start basePort numChannels answer t).1,
      (r.start basePort numChannels answer t).2.2.toUDPReceiver)
        = r.toUDPReceiver.start basePort numChannels
          (decide (∀ idx < (channels numChannels).toNat, answer idx = .ready)) := by
  have hall : (bindAll basePort numChannels answer t).1
      = decide (∀ idx < (channels numChannels).toNat, answer idx = .ready) := by
    refine (bindChannels_fst basePort answer _ t _).trans (decide_eq_decide.mpr ?_)
    simp only [List.mem_range]
  rw [← hall]
  unfold ReceiverSockets.start UDPReceiver.start
  by_cases hrunning : r.isRunning = true
  · rw [if_pos hrunning, if_pos hrunning]
  · rw [if_neg hrunning, if_neg hrunning]
    dsimp only
    cases (bindAll basePort numChannels answer t).1 <;> rfl

/-- The sockets of the workers. -/
lemma held_eq {r : ReceiverSockets} (h : ∀ w ∈ r.workers, w.thread = true ∧ 0 ≤ w.udpSocketFd) :
    r.held = (r.workers.map fun w => w.udpSocketFd.toNat : List ℕ) := by
  unfold held
  generalize r.workers = workers at h
  induction workers with
  | nil => rfl
  | cons w workers ih =>
    obtain ⟨hw, hworkers⟩ := List.forall_mem_cons.mp h
    rw [List.map_cons, List.sum_cons, ih hworkers, Worker.held, descriptor_of_nonneg hw.2,
      Multiset.singleton_add]
    rfl

end ReceiverSockets

/-- The receiver of the connection, if it has one, has its workers. -/
def ConnectionSockets.Staffed (conn : Option ConnectionSockets) : Prop :=
  ∀ c, conn = some c → ∀ r, c.udpReceiver = some r → r.Staffed

lemma staffed_apply (t : DescriptorTable) {conn : Option ConnectionSockets}
    (h : ConnectionSockets.Staffed conn) (call : SocketCall) :
    ConnectionSockets.Staffed (call.apply t conn).2 := by
  cases conn with
  | none =>
    cases call
    case listen port answer =>
      intro c hc r hr
      change (ConnectionSockets.listen port answer t).2 = some c at hc
      unfold ConnectionSockets.listen at hc
      dsimp only at hc
      split_ifs at hc
      exact absurd ((congrArg ConnectionSockets.udpReceiver (Option.some.inj hc)).trans hr)
        (by simp)
    case connect answer =>
      intro c hc r hr
      change (ConnectionSockets.connect answer t).2 = some c at hc
      unfold ConnectionSockets.connect at hc
      dsimp only at hc
      split_ifs at hc
      exact absurd ((congrArg ConnectionSockets.udpReceiver (Option.some.inj hc)).trans hr)
        (by simp)
    all_goals exact fun c hc => absurd hc (by simp [SocketCall.apply])
  | some conn =>
    have hconn := h conn rfl
    have hkept : ∀ conn' : ConnectionSockets, conn'.udpReceiver = conn.udpReceiver →
        ConnectionSockets.Staffed (some conn') := by
      rintro conn' hsame c hc r hr
      rw [← Option.some.inj hc, hsame] at hr
      exact hconn r hr
    cases call with
    | startReceiver basePort numChannels answer =>
      intro c hc r hr
      obtain ⟨server, client, receiver⟩ := conn
      cases receiver with
      | some receiver => exact hkept _ rfl c hc r hr
      | none =>
        obtain rfl := Option.some.inj hc
        exact Option.some.inj hr ▸
          ReceiverSockets.staffed_new.start basePort numChannels answer t
    | stopReceiver =>
      intro c hc r hr
      obtain ⟨server, client, receiver⟩ := conn
      cases receiver with
      | none => exact hkept _ rfl c hc r hr
      | some receiver =>
        obtain rfl := Option.some.inj hc
        exact Option.some.inj hr ▸ receiver.staffed_stop t
    | disconnect =>
      exact fun c hc => absurd hc (by simp [SocketCall.apply, SocketCall.onConnection])
    | listen port answer => exact hkept conn rfl
    | connect answer => exact hkept conn rfl
    | sendData answer => exact hkept conn rfl
    | acceptConnection accepted =>
      exact hkept _ (conn.onServer_tcpClient (fun t s => (s.acceptConnection accepted t).2) t).2
    | serverReceive inbound =>
      exact hkept _ (conn.onServer_tcpClient (fun t s => (s.receiveMessage inbound t).2.2) t).2
    | closeConnection => exact hkept _ (conn.onServer_tcpClient _ t).2
    | stopServer => exact hkept _ (conn.onServer_tcpClient _ t).2
    | clientSend msg sent =>
      exact hkept _ (conn.onClient_tcpServer (fun t c => (t, (c.sendMessage msg sent).2)) t).2
    | clientReceive inbound =>
      exact hkept _ (conn.onClient_tcpServer (fun t c => (t, (c.receiveMessage inbound).2.2)) t).2
    | disconnectClient => exact hkept _ (conn.onClient_tcpServer _ t).2
    | connectToServer answer =>
      exact hkept _ (conn.onClient_tcpServer (fun t c => (c.connectToServer answer t).2) t).2

/-- In every state that the calls of a process lead to, the workers of a UDP receiver are those of
its ports, each with a started thread and with an open socket of its own. -/
theorem workers_accounted {ι : Type} [DecidableEq ι] [Fintype ι] (opened : Finset ℕ)
    (calls : List (ι × SocketCall)) :
    let start : Sharing ι DescriptorTable (Option ConnectionSockets) := ⟨⟨opened, 0⟩, fun _ => none⟩
    let run := Sharing.run socketCall calls start
    ∀ i conn r, run.own i = some conn → conn.udpReceiver = some r →
      r.workers.map Worker.udpPort = r.toUDPReceiver.channelPorts ∧
        (∀ w ∈ r.workers, w.thread = true ∧ 0 ≤ w.udpSocketFd ∧
          w.udpSocketFd.toNat ∈ run.cell.opened) ∧
        (r.workers.map Worker.udpSocketFd).Nodup := by
  intro start run i conn r hconn hr
  have hstaffed : ∀ i, ConnectionSockets.Staffed (run.own i) := by
    refine foldl_keeps (P := fun w : Sharing ι DescriptorTable (Option ConnectionSockets) =>
      ∀ i, ConnectionSockets.Staffed (w.own i)) (fun w e _ hw j => ?_)
      (fun _ c hc => absurd hc (by simp [start]))
    obtain ⟨k, call⟩ := e
    by_cases hj : j = k
    · subst hj
      rw [Sharing.step_own_self]
      exact staffed_apply w.cell (hw j) call
    · rw [Sharing.step_own_of_ne hj]
      exact hw j
  obtain ⟨hports, hworkers⟩ := hstaffed i conn hconn r hr
  have hstart : start.cell.Holds (∑ i, SocketCall.holding (start.own i) + opened.val) := by
    have hnone : ∑ i : ι, SocketCall.holding (start.own i) = 0 := Finset.sum_const_zero
    rw [hnone, zero_add]
    exact ⟨rfl, rfl⟩
  obtain ⟨hopened, -⟩ := holds_run SocketCall.keepsDescriptors calls start hstart
  -- what the receiver holds is part of what is open
  have hle : r.held ≤ run.cell.opened.val := by
    have hconnection : r.held ≤ SocketCall.holding (run.own i) := by
      rw [hconn, SocketCall.holding, Option.elim_some, ConnectionSockets.held, hr, Option.elim_some]
      exact Multiset.le_add_left _ _
    have hall := Finset.single_le_sum (f := fun i => SocketCall.holding (run.own i))
      (fun _ _ => Multiset.zero_le _) (Finset.mem_univ i)
    refine hconnection.trans (hall.trans ?_)
    rw [show run.cell.opened.val = _ from hopened]
    exact Multiset.le_add_right _ _
  rw [ReceiverSockets.held_eq hworkers] at hle
  refine ⟨hports, fun w hw => ⟨(hworkers w hw).1, (hworkers w hw).2, ?_⟩, ?_⟩
  · exact Multiset.mem_of_le hle (Multiset.mem_coe.mpr (List.mem_map_of_mem hw))
  · have hnodup := Multiset.coe_nodup.mp (Multiset.nodup_of_le hle run.cell.opened.nodup)
    refine List.Nodup.of_map Int.toNat ?_
    rw [List.map_map]
    exact hnodup

/-- It applies to a connection whose receiver runs on two channels. -/
theorem workers_accounted_two :
    let run := Sharing.run socketCall
      [((), .listen 1 .ready), ((), .startReceiver 9999 2 fun _ => .ready)]
      ⟨⟨{0, 1, 2}, 0⟩, fun _ => none⟩
    ∃ conn r, run.own () = some conn ∧ conn.udpReceiver = some r ∧
      r.workers.map Worker.udpPort = r.toUDPReceiver.channelPorts ∧
        (∀ w ∈ r.workers, w.thread = true ∧ 0 ≤ w.udpSocketFd ∧
          w.udpSocketFd.toNat ∈ run.cell.opened) ∧
        (r.workers.map Worker.udpSocketFd).Nodup := by
  intro run
  exact ⟨_, _, rfl, rfl, workers_accounted {0, 1, 2}
    [((), .listen 1 .ready), ((), .startReceiver 9999 2 fun _ => .ready)] () _ _ rfl rfl⟩

/-- A client that loses its connection and connects again leaves a descriptor open. -/
example : (Sharing.run socketCall
      [((), .connect .ready), ((), .clientReceive ⟨[], [.closed]⟩), ((), .connectToServer .ready),
        ((), .disconnect)] ⟨⟨{0, 1, 2}, 0⟩, fun _ => none⟩).cell.opened.card = 4 := by
  decide +kernel

end SdrUdp
