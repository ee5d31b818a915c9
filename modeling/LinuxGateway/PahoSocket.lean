import LinuxGateway.LibKeyed
import LinuxGateway.LibRuns
import LinuxGateway.PahoPacket
import Mathlib.Logic.Function.Basic

/-! How the MQTT client library reads packets (`Socket.c`, `SocketBuffer.c`, `MQTTPacket_Factory` of
`MQTTPacket.c`). The sockets do not block, so a call may end in the middle of a packet; it then starts
over at the next call, and what had been read comes back out of a queue of the socket. The sockets of
all clients share the queue for packets that are read in one go. -/

namespace LinuxGateway.Paho

/-! ### `SocketBuffer.c` -/

/-- `socket_queue`: of the arrays `fixed_header` and `buf` the first `headerlen` and the first `datalen`
bytes. -/
structure SocketQueue where
  socket : ℕ
  index : ℕ
  fixedHeader : List UInt8
  buflen : ℕ
  buf : List UInt8

namespace SocketQueue

/-- `SocketBuffer_newDefQ`, which does not initialise `headerlen`: the header is what the memory holds. -/
def newDefQ (memory : List UInt8) : SocketQueue := ⟨0, 0, memory, 0, []⟩

def push (queue : SocketQueue) (c : UInt8) : SocketQueue :=
  if 4 < queue.index then queue
  else { queue with index := queue.index + 1, fixedHeader := queue.fixedHeader.take queue.index ++ [c] }

/-- The queue belongs to a socket. -/
def claim (queue : SocketQueue) (socket : ℕ) : SocketQueue := { queue with socket }

/-- The next call starts over, with `data` already read. -/
def rewind (queue : SocketQueue) (data : List UInt8) : SocketQueue := { queue with index := 0, buf := data }

def clear (queue : SocketQueue) : SocketQueue :=
  { queue with socket := 0, index := 0, fixedHeader := [], buf := [] }

def grow (queue : SocketQueue) (bytes : ℕ) : SocketQueue :=
  { queue with buflen := if queue.buflen < bytes then bytes else queue.buflen }

end SocketQueue

/-- The completion codes, `complete` with what the call returns. -/
inductive Rc (α : Type) where
  | complete (a : α)
  | interrupted
  | error

/-- The globals `def_queue` and `queues`. -/
structure SocketBuffer where
  defQueue : SocketQueue
  queues : List SocketQueue

namespace SocketBuffer

def find (buffer : SocketBuffer) (socket : ℕ) : Option SocketQueue :=
  Keyed.find SocketQueue.socket socket buffer.queues

/-- An assignment to the members of the queue that was found. -/
def put (buffer : SocketBuffer) (queue : SocketQueue) : SocketBuffer :=
  { buffer with queues := Keyed.replace SocketQueue.socket queue buffer.queues }

/-- `SocketBuffer_getQueuedChar`. -/
def getQueuedChar (buffer : SocketBuffer) (socket : ℕ) : Rc UInt8 × SocketBuffer :=
  match buffer.find socket with
  | some queue =>
    match queue.fixedHeader[queue.index]? with
    | some c => (.complete c, buffer.put { queue with index := queue.index + 1 })
    | none => if 4 < queue.index then (.error, buffer) else (.interrupted, buffer)
  | none => (.interrupted, buffer)

/-- `SocketBuffer_queueChar`. -/
def queueChar (buffer : SocketBuffer) (socket : ℕ) (c : UInt8) : SocketBuffer :=
  match buffer.find socket with
  | some queue => buffer.put (queue.push c)
  | none =>
    if buffer.defQueue.socket = 0 then
      { buffer with defQueue := ((buffer.defQueue.claim socket).rewind []).push c }
    else if buffer.defQueue.socket = socket then { buffer with defQueue := buffer.defQueue.push c }
    -- "attempt to reuse socket queue"
    else buffer

/-- `SocketBuffer_interrupted`, with the `actual_len` bytes that are in the buffer. -/
def interrupted (buffer : SocketBuffer) (memory : List UInt8) (socket : ℕ) (data : List UInt8) : SocketBuffer :=
  match buffer.find socket with
  | some queue => buffer.put (queue.rewind data)
  | none =>
    { defQueue := SocketQueue.newDefQ memory
      queues := buffer.queues ++ [(buffer.defQueue.claim socket).rewind data] }

/-- `SocketBuffer_complete`. -/
def complete (buffer : SocketBuffer) (socket : ℕ) : SocketBuffer :=
  match buffer.find socket with
  | some queue =>
    { defQueue := queue.clear, queues := Keyed.remove SocketQueue.socket socket buffer.queues }
  | none => { buffer with defQueue := buffer.defQueue.clear }

/-- `SocketBuffer_cleanup`, as far as it is about reading. -/
def cleanup (buffer : SocketBuffer) (socket : ℕ) : SocketBuffer :=
  { defQueue := if buffer.defQueue.socket = socket then buffer.defQueue.clear else buffer.defQueue
    queues := Keyed.remove SocketQueue.socket socket buffer.queues }

/-- `SocketBuffer_getQueuedData`: the bytes that are already there. -/
def getQueuedData (buffer : SocketBuffer) (socket bytes : ℕ) : List UInt8 × SocketBuffer :=
  match buffer.find socket with
  | some queue => (queue.buf, buffer.put (queue.grow bytes))
  | none => ([], { buffer with defQueue := buffer.defQueue.grow bytes })

/-! ### Where the bytes of a packet are -/

variable {buffer before : SocketBuffer} {socket k : ℕ} {header data : List UInt8}

theorem find_put_self {queue old : SocketQueue} (h : buffer.find queue.socket = some old) :
    (buffer.put queue).find queue.socket = some queue :=
  Keyed.find_replace_self h

theorem find_put_of_ne {queue : SocketQueue} {t : ℕ} (hne : t ≠ queue.socket) :
    (buffer.put queue).find t = buffer.find t :=
  Keyed.find_replace_of_ne hne

/-- A call on `socket` has got `k` bytes out of those that have been read of its packet, which are
`header` and `data`: nothing has been read; the common queue is taken; or a queue was kept. -/
inductive Place (buffer : SocketBuffer) (socket : ℕ) : List UInt8 → List UInt8 → ℕ → Prop
  | idle (hfind : buffer.find socket = none) (hfree : buffer.defQueue.socket = 0) :
      Place buffer socket [] [] 0
  | claimed {header : List UInt8} (hfind : buffer.find socket = none)
      (hclaim : buffer.defQueue.socket = socket) (hheader : buffer.defQueue.fixedHeader = header)
      (hindex : buffer.defQueue.index = header.length) : Place buffer socket header [] header.length
  | kept {header data : List UInt8} {k : ℕ} {queue : SocketQueue} (hfind : buffer.find socket = some queue)
      (hfree : buffer.defQueue.socket = 0) (hheader : queue.fixedHeader = header) (hdata : queue.buf = data)
      (hindex : queue.index = k) : Place buffer socket header data k

/-- A call on `socket` that began with the buffers `before`: the queues of the other sockets are as they
were. -/
structure InCall (before buffer : SocketBuffer) (socket : ℕ) (header data : List UInt8) (k : ℕ) : Prop where
  distinct : Keyed.Distinct SocketQueue.socket buffer.queues
  others : ∀ t, t ≠ socket → buffer.find t = before.find t
  place : Place buffer socket header data k

/-- Between two calls nobody holds the common queue. -/
structure Settled (buffer : SocketBuffer) : Prop where
  distinct : Keyed.Distinct SocketQueue.socket buffer.queues
  free : buffer.defQueue.socket = 0

theorem put_inCall {old : SocketQueue} (queue : SocketQueue) (h : InCall before buffer socket header data k)
    (hfind : buffer.find socket = some old) (hsocket : queue.socket = socket) :
    InCall before (buffer.put queue) socket queue.fixedHeader queue.buf queue.index := by
  subst hsocket
  refine ⟨h.distinct.replace queue, fun t ht => (find_put_of_ne ht).trans (h.others t ht),
    .kept (find_put_self hfind) ?_ rfl rfl rfl⟩
  cases h.place with
  | idle hnone => exact absurd (hfind.symm.trans hnone) (Option.some_ne_none old)
  | claimed hnone => exact absurd (hfind.symm.trans hnone) (Option.some_ne_none old)
  | kept _ hfree => exact hfree

theorem getQueuedChar_replay (h : InCall before buffer socket header data k) {c : UInt8}
    (hc : header[k]? = some c) :
    ∃ next, buffer.getQueuedChar socket = (.complete c, next) ∧
      InCall before next socket header data (k + 1) := by
  have hk : k < header.length := (List.getElem?_eq_some_iff.mp hc).1
  cases hplace : h.place with
  | idle => exact absurd hk (Nat.not_lt_zero 0)
  | claimed => exact absurd hk (Nat.lt_irrefl _)
  | @kept _ _ _ queue hfind hfree hheader hdata hindex =>
      subst hheader hdata hindex
      have hsocket : queue.socket = socket := Keyed.key_of_find hfind
      refine ⟨_, ?_, put_inCall { queue with index := queue.index + 1 } h hfind hsocket⟩
      rw [getQueuedChar, hfind]
      dsimp only
      rw [hc]

theorem getQueuedChar_end (h : InCall before buffer socket header data header.length)
    (hlen : header.length ≤ 4) : buffer.getQueuedChar socket = (.interrupted, buffer) := by
  generalize hk : header.length = k at h
  rw [getQueuedChar]
  cases h.place with
  | idle hfind => rw [hfind]
  | claimed hfind => rw [hfind]
  | @kept _ _ _ queue hfind hfree hheader hdata hindex =>
      have hnone : queue.fixedHeader[queue.index]? = none := by
        rw [List.getElem?_eq_none_iff, hindex, hheader, hk]
      rw [hfind]
      dsimp only
      rw [hnone, if_neg (by omega)]

theorem push_of_end {queue : SocketQueue} (c : UInt8) (hindex : queue.index = queue.fixedHeader.length)
    (hlen : queue.index ≤ 4) :
    queue.push c = { queue with index := queue.index + 1, fixedHeader := queue.fixedHeader ++ [c] } := by
  rw [SocketQueue.push, if_neg (by omega), hindex, List.take_length]

theorem queueChar_inCall (h : InCall before buffer socket header data header.length) (hlen : header.length ≤ 4)
    (hsocket : socket ≠ 0) (c : UInt8) :
    InCall before (buffer.queueChar socket c) socket (header ++ [c]) data (header ++ [c]).length := by
  rw [List.length_append, List.length_singleton]
  generalize hk : header.length = k at h
  rw [queueChar]
  cases h.place with
  | idle hfind hfree =>
      rw [hfind]
      dsimp only
      rw [if_pos hfree]
      exact ⟨h.distinct, h.others, .claimed hfind rfl rfl rfl⟩
  | claimed hfind hclaim hheader hindex =>
      rw [hfind]
      dsimp only
      rw [if_neg (hclaim ▸ hsocket), if_pos hclaim, push_of_end c (by rw [hindex, hheader]) (by omega)]
      have hlength : header.length + 1 = (header ++ [c]).length := by simp
      rw [hlength]
      refine ⟨h.distinct, h.others, .claimed hfind hclaim (by rw [← hheader]) ?_⟩
      dsimp only
      rw [hindex, hlength]
  | @kept _ _ _ queue hfind hfree hheader hdata hindex =>
      subst hheader hdata hindex
      rw [hfind]
      dsimp only
      rw [push_of_end c hk.symm (by omega)]
      exact put_inCall { queue with index := queue.index + 1, fixedHeader := queue.fixedHeader ++ [c] }
        h hfind (Keyed.key_of_find hfind : queue.socket = socket)

/-- What has been read is kept for the next call, provided that something has. -/
theorem interrupted_inCall (h : InCall before buffer socket header data k) (hne : header ≠ [])
    (memory new : List UInt8) :
    InCall before (buffer.interrupted memory socket new) socket header new 0 ∧
      (buffer.interrupted memory socket new).Settled := by
  have hkeep : ∀ {header}, buffer.find socket = none → buffer.defQueue.fixedHeader = header →
      InCall before (buffer.interrupted memory socket new) socket header new 0 ∧
        (buffer.interrupted memory socket new).Settled := by
    intro header hfind hheader
    replace hheader : ((buffer.defQueue.claim socket).rewind new).fixedHeader = header := hheader
    rw [interrupted, hfind]
    dsimp only
    have hdistinct : Keyed.Distinct SocketQueue.socket
        (buffer.queues ++ [(buffer.defQueue.claim socket).rewind new]) := h.distinct.append hfind
    have hothers : ∀ t, t ≠ socket →
        Keyed.find SocketQueue.socket t (buffer.queues ++ [(buffer.defQueue.claim socket).rewind new]) =
          before.find t := fun t ht => (Keyed.find_append_of_ne ht).trans (h.others t ht)
    have hself : Keyed.find SocketQueue.socket socket
        (buffer.queues ++ [(buffer.defQueue.claim socket).rewind new]) = some _ :=
      Keyed.find_append_self rfl hfind
    exact ⟨⟨hdistinct, hothers, .kept hself rfl hheader rfl rfl⟩, hdistinct, rfl⟩
  cases h.place with
  | idle => exact absurd rfl hne
  | claimed hfind hclaim hheader hindex => exact hkeep hfind hheader
  | @kept _ _ _ queue hfind hfree hheader hdata hindex =>
      subst hheader
      have hput := put_inCall (queue.rewind new) h hfind (Keyed.key_of_find hfind : queue.socket = socket)
      rw [interrupted, hfind]
      exact ⟨hput, hput.distinct, hfree⟩

theorem complete_inCall (h : InCall before buffer socket header data k) :
    InCall before (buffer.complete socket) socket [] [] 0 ∧ (buffer.complete socket).Settled := by
  have hidle : ∀ {next : SocketBuffer}, Keyed.Distinct SocketQueue.socket next.queues →
      (∀ t, t ≠ socket → next.find t = before.find t) → next.find socket = none →
      next.defQueue.socket = 0 → InCall before next socket [] [] 0 ∧ next.Settled :=
    fun hdistinct hothers hfind hfree => ⟨⟨hdistinct, hothers, .idle hfind hfree⟩, hdistinct, hfree⟩
  rw [complete]
  cases hfind : buffer.find socket with
  | none => exact hidle h.distinct h.others hfind rfl
  | some queue =>
      exact hidle (h.distinct.remove socket)
        (fun t ht => (Keyed.find_remove_of_ne ht).trans (h.others t ht)) (Keyed.find_remove_self h.distinct) rfl

theorem cleanup_inCall (h : InCall before buffer socket header data k) :
    InCall before (buffer.cleanup socket) socket [] [] 0 ∧ (buffer.cleanup socket).Settled := by
  have hfree : (buffer.cleanup socket).defQueue.socket = 0 := by
    rw [cleanup]
    dsimp only
    split
    · rfl
    · next hclaim =>
        cases h.place with
        | idle _ hfree => exact hfree
        | claimed _ hclaimed => exact absurd hclaimed hclaim
        | kept _ hfree => exact hfree
  exact ⟨⟨h.distinct.remove socket, fun t ht => (Keyed.find_remove_of_ne ht).trans (h.others t ht),
    .idle (Keyed.find_remove_self h.distinct) hfree⟩, h.distinct.remove socket, hfree⟩

theorem getQueuedData_inCall (h : InCall before buffer socket header data k) (bytes : ℕ) :
    ∃ next, buffer.getQueuedData socket bytes = (data, next) ∧ InCall before next socket header data k := by
  rw [getQueuedData]
  cases h.place with
  | idle hfind hfree => rw [hfind]; exact ⟨_, rfl, h.distinct, h.others, .idle hfind hfree⟩
  | claimed hfind hclaim hheader hindex =>
      rw [hfind]
      exact ⟨_, rfl, h.distinct, h.others, .claimed hfind hclaim hheader hindex⟩
  | @kept _ _ _ queue hfind hfree hheader hdata hindex =>
      have hput := put_inCall (queue.grow bytes) h hfind (Keyed.key_of_find hfind : queue.socket = socket)
      rw [hfind]
      subst hheader hdata hindex
      exact ⟨_, rfl, hput⟩

end SocketBuffer

/-! ### `Socket.c` -/

/-- What the network answers to a `recv`: more than `more` bytes have arrived, none have, the other side
has closed the connection, or there is an error. -/
inductive Answer where
  | ready (more : ℕ)
  | again
  | closed
  | failed

inductive Received where
  | bytes (got : List UInt8)
  | again
  | closed
  | failed

/-- The buffers of the library; for each socket the bytes that are still to be read from it; the
answers to the next calls of `recv`, and the memory of the next queue. -/
structure Net where
  buffer : SocketBuffer
  inbox : ℕ → List UInt8
  answers : List Answer
  memory : List UInt8

namespace Net

/-- `recv` on a socket that does not block; asked for no bytes it returns 0, as for a closed
connection. -/
def recv (net : Net) (socket n : ℕ) : Received × Net :=
  if n = 0 then (.closed, net)
  else
    match net.answers with
    | [] => (.again, net)
    | .again :: answers => (.again, { net with answers })
    | .closed :: answers => (.closed, { net with answers })
    | .failed :: answers => (.failed, { net with answers })
    | .ready more :: answers =>
      match (net.inbox socket).take (min n (more + 1)) with
      | [] => (.again, { net with answers })
      | c :: got => (.bytes (c :: got), { net with
          answers, inbox := Function.update net.inbox socket ((net.inbox socket).drop (got.length + 1)) })

/-- `Socket_getch`. -/
def getch (net : Net) (socket : ℕ) : Rc UInt8 × Net :=
  match net.buffer.getQueuedChar socket with
  | (.complete c, buffer) => (.complete c, { net with buffer })
  | (.error, buffer) => (.error, { net with buffer })
  | (.interrupted, buffer) =>
    match recv { net with buffer } socket 1 with
    | (.bytes (c :: _), net) => (.complete c, { net with buffer := net.buffer.queueChar socket c })
    | (.bytes [], net) => (.error, net)
    | (.again, net) => (.interrupted, { net with buffer := net.buffer.interrupted net.memory socket [] })
    | (.closed, net) => (.error, net)
    | (.failed, net) => (.error, net)

/-- The end of `Socket_getdata`, with `actual_len` bytes read. -/
def received (net : Net) (socket bytes : ℕ) (data : List UInt8) : Rc (List UInt8) × Net :=
  if data.length = bytes then (.complete data, { net with buffer := net.buffer.complete socket })
  else (.interrupted, { net with buffer := net.buffer.interrupted net.memory socket data })

/-- `Socket_getdata`, as `MQTTPacket_Factory` takes its result. It is undefined when more bytes are
there than are asked for: the length for `recv` would be negative. -/
def getdata (net : Net) (socket bytes : ℕ) : Option (Rc (List UInt8) × Net) :=
  if bytes = 0 then some (.complete [], { net with buffer := net.buffer.complete socket })
  else
    let (data, buffer) := net.buffer.getQueuedData socket bytes
    if bytes < data.length then none
    else
      match recv { net with buffer } socket (bytes - data.length) with
      | (.bytes got, net) => some (net.received socket bytes (data ++ got))
      | (.again, net) => some (net.received socket bytes data)
      | (.closed, net) => some (.error, net)
      | (.failed, net) => some (.error, net)

/-! ### `MQTTPacket.c` -/

/-- The loop of `MQTTPacket_decode`, with the number of bytes that it may still read. -/
def decodeLoop (socket : ℕ) : ℕ → ℕ → ℕ → Net → Rc ℕ × Net
  | 0, _, _, net => (.error, net)
  | left + 1, multiplier, value, net =>
    match net.getch socket with
    | (.complete c, net) =>
      let value := value + (c &&& 127).toNat * multiplier
      if c &&& 128 ≠ 0 then decodeLoop socket left (multiplier * 128) value net else (.complete value, net)
    | (.interrupted, net) => (.interrupted, net)
    | (.error, net) => (.error, net)

def MAX_NO_OF_REMAINING_LENGTH_BYTES : ℕ := 4

def MQTTPacketDecode (net : Net) (socket : ℕ) : Rc ℕ × Net :=
  decodeLoop socket MAX_NO_OF_REMAINING_LENGTH_BYTES 1 0 net

/-- `MQTTPacket_Factory` until it has read a packet. -/
def readFrame (net : Net) (socket : ℕ) : Option (Rc Frame × Net) :=
  match net.getch socket with
  | (.interrupted, net) => some (.interrupted, net)
  | (.error, net) => some (.error, net)
  | (.complete header, net) =>
    match net.MQTTPacketDecode socket with
    | (.interrupted, net) => some (.interrupted, net)
    | (.error, net) => some (.error, net)
    | (.complete remainingLength, net) =>
      match net.getdata socket remainingLength with
      | none => none
      | some (.interrupted, net) => some (.interrupted, net)
      | some (.error, net) => some (.error, net)
      | some (.complete data, net) => some (.complete ⟨header, data⟩, net)

end Net

end LinuxGateway.Paho
