import LinuxGateway.DataRecord
import LinuxGateway.LibRuns
import LinuxGateway.Mqtt
import Mathlib.Data.Finset.Basic
import Mathlib.Data.Vector.Basic
import Mathlib.Data.Int.Order.Basic

/-! The gateway's TCP server (`run_socket_tcp` in `src/mqtt_client/mqtt_client.c`), from the first
`poll` on. One step is either the `poll` call or one pass through the body of the service loop; what
the system calls of a step return is the event of the step. The table `pollFds` is an array of 20
entries on the stack: an access outside it is undefined, and so is the step.

The set `clients` is not a variable of the program. It holds what the operating system knows: the
connections that were accepted and not closed since. -/

namespace LinuxGateway

open Bytes

structure PollFd where
  fd : ℤ
  events : BitVec 16
  revents : BitVec 16
  deriving DecidableEq

def POLLIN : BitVec 16 := 0x001

/-- `revents & POLLIN`. -/
def PollFd.readable (entry : PollFd) : Bool := entry.revents &&& POLLIN != 0

/-- The bytes that one `recv(.., &data, sizeof(data), 0)` stores. -/
structure Chunk where
  bytes : List UInt8
  length_le : bytes.length ≤ sizeofData
  deriving DecidableEq

/-- What `recv` returns: an error, or the bytes it stored (none of them at the end of the stream). -/
inductive RecvResult where
  | error
  | stored (chunk : Chunk)

def RecvResult.rc : RecvResult → ℤ
  | error => -1
  | stored chunk => chunk.bytes.length

/-- What the system calls of a step return, if the step makes them: `poll` (the `revents` it stores,
or a failure), `accept` and `recv`. -/
structure Answers where
  poll : Option (ℕ → BitVec 16)
  accept : ℤ
  recv : RecvResult

/-- What a step does to the outside. A message or a string argument is `none` where the string has no
end inside its object. -/
inductive Action where
  | accept (connfd : ℤ)
  | recv (fd : ℤ) (result : RecvResult)
  | close (fd : ℤ)
  | dispatch (fd : ℤ) (data : Data)
  | publish (message : Option Message)
  | printf (format : String) (argument : Option (List UInt8))

inductive Control where
  | poll
  | service (i : ℕ)
  deriving DecidableEq

def pollFdsSize : ℕ := 20

structure Server where
  pollFds : List.Vector PollFd pollFdsSize
  nfds : ℕ
  data : Data
  clients : Finset ℤ
  control : Control

def dispatchActions (data : Data) : List Action :=
  match data.node with
  | some .kUart => [.printf "msg recive: from UART with data: %s\n" (data.msg .uart)]
  | some .kLora =>
      [.publish (publishMess .dataLora (data.bytes.drop (Data.msgOffset .uart))),
        .printf "msg recive: from lora with data: %s\n" (data.msg .lora)]
  | some .kNRF => [.printf "msg recive: from nrf with data %s\n" (data.msg .nrf)]
  | some .kSPI => []
  | some .kWifi => []
  | none => []

namespace Server

/-- `poll_fds` and `nfds` before the first round: the listening socket in entry 0, whatever the stack
holds in the others. `data` is a global. -/
def init (stack : List.Vector PollFd pollFdsSize) (sockfd : ℤ) : Server where
  pollFds := stack.set ⟨0, by decide⟩ { stack.get ⟨0, by decide⟩ with fd := sockfd, events := POLLIN }
  nfds := 1
  data := Buffer.zero sizeofData
  clients := ∅
  control := .poll

def entry (server : Server) (i : ℕ) : Option PollFd := server.pollFds.toList[i]?

def listenerReady (server : Server) : Bool := (server.pollFds.get ⟨0, by decide⟩).readable

def loopAt (server : Server) (i : ℕ) : Server :=
  { server with control := if i ≤ server.nfds then .service i else .poll }

/-- The kernel stores `revents` in the entries it was asked about. -/
def storeRevents (server : Server) (revents : ℕ → BitVec 16) : Server :=
  { server with
    pollFds := ⟨server.pollFds.toList.mapIdx fun i entry =>
        if i < server.nfds then { entry with revents := revents i } else entry,
      List.length_mapIdx.trans server.pollFds.2⟩ }

/-- `rc = poll(poll_fds, nfds, -1);` and the start of the service loop. A failed `poll` leaves
`revents` as it was, and the loop runs all the same. -/
def pollRound (server : Server) : Option (ℕ → BitVec 16) → Server
  | none => server.loopAt 1
  | some revents => (server.storeRevents revents).loopAt 1

/-- The way one pass through the loop body goes: which `if` it ends in. -/
inductive Pass where
  | accepted (connfd : ℤ)
  | disconnected (entry : PollFd)
  | received (entry : PollFd) (chunk : Chunk)
  | idle

/-- `if (poll_fds[i].revents & POLLIN)` and the test `rc <= 0` behind it. -/
def clientPass (entry : PollFd) (result : RecvResult) : Pass :=
  if entry.readable then
    match result with
    | .error => .disconnected entry
    | .stored chunk => if chunk.bytes = [] then .disconnected entry else .received entry chunk
  else .idle

/-- The branch the body takes for `i`. An accepted connection ends the pass with `break`; after a
failed `accept` it goes on to `poll_fds[i]`. -/
def pass (server : Server) (i : ℕ) (answers : Answers) : Option Pass :=
  if server.listenerReady ∧ 0 ≤ answers.accept then some (.accepted answers.accept)
  else (server.entry i).map fun entry => clientPass entry answers.recv

/-- `poll_fds[nfds].fd = connfd; poll_fds[nfds].events = POLLIN; nfds++; break;` The entry's
`revents` keeps what it held. -/
def appendClient (server : Server) (connfd : ℤ) : Option Server :=
  if h : server.nfds < pollFdsSize then
    let old := server.pollFds.get ⟨server.nfds, h⟩
    some { server with
      pollFds := server.pollFds.set ⟨server.nfds, h⟩ { old with fd := connfd, events := POLLIN }
      nfds := server.nfds + 1
      clients := insert connfd server.clients
      control := .poll }
  else none

/-- `close(poll_fds[i].fd); nfds--; break;` -/
def dropClient (server : Server) (entry : PollFd) : Server :=
  { server with
    nfds := server.nfds - 1
    clients := server.clients.erase entry.fd
    control := .poll }

/-- `recv` stores the chunk over the start of the one global record. -/
def storeChunk (data : Data) (chunk : Chunk) : Data :=
  ⟨overlay data.bytes 0 chunk.bytes,
    (length_overlay (by rw [data.length_eq, Nat.zero_add]; exact chunk.length_le)).trans data.length_eq⟩

def serviceSlot (server : Server) (i : ℕ) (answers : Answers) : Option (Server × List Action) :=
  let accepts : List Action := if server.listenerReady then [.accept answers.accept] else []
  match server.pass i answers with
  | none => none
  | some (.accepted connfd) => (server.appendClient connfd).map fun next => (next, accepts)
  | some (.disconnected entry) =>
      some (server.dropClient entry, accepts ++ [.recv entry.fd answers.recv, .close entry.fd])
  | some (.received entry chunk) =>
      let data := storeChunk server.data chunk
      some (({ server with data := data } : Server).loopAt (i + 1),
        accepts ++ [.recv entry.fd answers.recv, .dispatch entry.fd data] ++ dispatchActions data)
  | some .idle => some (server.loopAt (i + 1), accepts)

/-- `run_socket_tcp`, one statement of its endless loop at a time. -/
def runSocketTcp : Runs.Step Server Answers Action := fun server answers =>
  match server.control with
  | .poll => some (server.pollRound answers.poll, [])
  | .service i => server.serviceSlot i answers

def wayActions (server : Server) (answers : Answers) : Pass → List Action
  | .accepted _ => []
  | .disconnected entry => [.recv entry.fd answers.recv, .close entry.fd]
  | .received entry chunk =>
      [.recv entry.fd answers.recv, .dispatch entry.fd (storeChunk server.data chunk)] ++
        dispatchActions (storeChunk server.data chunk)
  | .idle => []

/-- The actions of a step: none at a `poll`; in a pass the `accept`, if the listening socket is marked,
and what the way of the pass adds. -/
theorem actions_runSocketTcp {server : Server} {answers : Answers} {next : Server × List Action}
    (h : server.runSocketTcp answers = some next) :
    (server.control = .poll ∧ next.2 = []) ∨
      ∃ i way, server.control = .service i ∧ server.pass i answers = some way ∧
        next.2 = (if server.listenerReady then [.accept answers.accept] else []) ++
          server.wayActions answers way := by
  cases hcontrol : server.control with
  | poll =>
      simp only [runSocketTcp, hcontrol, Option.some.injEq] at h
      exact Or.inl ⟨rfl, by rw [← h]⟩
  | service i =>
      simp only [runSocketTcp, hcontrol, serviceSlot] at h
      refine Or.inr ⟨i, ?_⟩
      cases hpass : server.pass i answers with
      | none => simp [hpass] at h
      | some way =>
          refine ⟨way, rfl, rfl, ?_⟩
          cases way with
          | accepted connfd =>
              simp only [hpass, Option.map_eq_some_iff] at h
              obtain ⟨after, _, rfl⟩ := h
              exact (List.append_nil _).symm
          | disconnected gone =>
              simp only [hpass, Option.some.injEq] at h
              rw [← h]
              rfl
          | received entry chunk =>
              simp only [hpass, Option.some.injEq] at h
              rw [← h]
              exact List.append_assoc _ _ _
          | idle =>
              simp only [hpass, Option.some.injEq] at h
              rw [← h]
              exact (List.append_nil _).symm

end Server

end LinuxGateway
