import LinuxGateway.TcpServer
import LinuxGateway.LibFraming

/-! The records of the gateway's server: which ones it dispatches for the bytes it receives, and what
it takes out of a record that a radio service filled. The server takes every positive `recv` for a
whole record, and its `switch` reads the text of a LoRa record through another member of the union. -/

namespace LinuxGateway

open Bytes

namespace Server

/-- The chunks that `recv` stored, with the descriptors they came from. -/
def recvs (actions : List Action) : List (ℤ × Chunk) :=
  actions.filterMap fun
    | .recv fd (.stored chunk) => if chunk.bytes = [] then none else some (fd, chunk)
    | _ => none

/-- The records that reached the `switch`, with the descriptors they came from. -/
def dispatches (actions : List Action) : List (ℤ × Data) :=
  actions.filterMap fun
    | .dispatch fd data => some (fd, data)
    | _ => none

/-- The chunks from one client. -/
def received (fd : ℤ) (actions : List Action) : List (List UInt8) :=
  ((recvs actions).filter fun item => item.1 = fd).map fun item => item.2.bytes

/-- The records dispatched for one client. -/
def dispatched (fd : ℤ) (actions : List Action) : List Data :=
  ((dispatches actions).filter fun item => item.1 = fd).map Prod.snd

/-- A record was dispatched for a chunk: the chunk over the start of what the buffer held. -/
def DispatchOf (item : ℤ × Chunk) (record : ℤ × Data) : Prop :=
  item.1 = record.1 ∧ ∃ old, record.2 = storeChunk old item.2

theorem recvs_append (left right : List Action) : recvs (left ++ right) = recvs left ++ recvs right :=
  List.filterMap_append

theorem dispatches_append (left right : List Action) :
    dispatches (left ++ right) = dispatches left ++ dispatches right :=
  List.filterMap_append

theorem recvs_dispatchActions (data : Data) :
    recvs (dispatchActions data) = [] ∧ dispatches (dispatchActions data) = [] := by
  unfold dispatchActions
  split <;> exact ⟨rfl, rfl⟩

theorem recvs_accepts (ready : Bool) (connfd : ℤ) :
    recvs (if ready then [.accept connfd] else []) = [] ∧
      dispatches (if ready then [.accept connfd] else []) = [] := by
  cases ready <;> exact ⟨rfl, rfl⟩

theorem pass_recv {server : Server} {i : ℕ} {answers : Answers} {way : Pass}
    (h : server.pass i answers = some way) :
    (∀ gone, way = .disconnected gone →
      answers.recv = .error ∨ ∃ chunk, answers.recv = .stored chunk ∧ chunk.bytes = []) ∧
    (∀ entry chunk, way = .received entry chunk →
      answers.recv = .stored chunk ∧ chunk.bytes ≠ []) := by
  unfold pass at h
  split at h
  · obtain rfl := Option.some.inj h
    simp
  · obtain ⟨found, _, rfl⟩ := Option.map_eq_some_iff.mp h
    unfold clientPass
    split
    swap
    · simp
    cases hrecv : answers.recv with
    | error => simp
    | stored chunk =>
        by_cases hempty : chunk.bytes = []
        · simp [hempty]
        · simp only [hempty, if_false]
          refine ⟨fun gone hgone => absurd hgone (by simp), fun entry other hway => ?_⟩
          obtain ⟨_, rfl⟩ := Pass.received.inj hway
          exact ⟨rfl, hempty⟩

/-- One step dispatches one record for each chunk it stores. -/
theorem step_dispatchOf {server : Server} {answers : Answers} {next : Server × List Action}
    (h : server.runSocketTcp answers = some next) :
    List.Forall₂ DispatchOf (recvs next.2) (dispatches next.2) := by
  rcases actions_runSocketTcp h with ⟨_, hnil⟩ | ⟨i, way, _, hpass, hactions⟩
  · rw [hnil]
    exact List.Forall₂.nil
  · obtain ⟨hnone, hnone'⟩ := recvs_accepts server.listenerReady answers.accept
    rw [hactions, recvs_append, dispatches_append, hnone, hnone', List.nil_append, List.nil_append]
    cases way with
    | accepted connfd => exact List.Forall₂.nil
    | disconnected gone =>
        rcases (pass_recv hpass).1 gone rfl with hrecv | ⟨chunk, hrecv, hempty⟩
        · rw [wayActions, hrecv]
          exact List.Forall₂.nil
        · rw [wayActions, hrecv]
          simp [recvs, dispatches, hempty]
    | received entry chunk =>
        obtain ⟨hrecv, hne⟩ := (pass_recv hpass).2 entry chunk rfl
        obtain ⟨hswitch, hswitch'⟩ := recvs_dispatchActions (storeChunk server.data chunk)
        have hrecvs : recvs [.recv entry.fd (.stored chunk),
            .dispatch entry.fd (storeChunk server.data chunk)] = [(entry.fd, chunk)] := by
          simp [recvs, hne]
        rw [wayActions, recvs_append, dispatches_append, hswitch, hswitch', hrecv, hrecvs]
        exact List.Forall₂.cons ⟨rfl, server.data, rfl⟩ List.Forall₂.nil
    | idle => exact List.Forall₂.nil

/-- In a whole run the dispatched records are those of the received chunks, one for one. -/
theorem run_dispatchOf {server : Server} {events : List Answers} {result : Server × List Action}
    (h : Runs.run runSocketTcp server events = some result) :
    List.Forall₂ DispatchOf (recvs result.2) (dispatches result.2) := by
  refine Runs.run_invariant (G := fun _ _ => True)
    (P := fun _ out _ => List.Forall₂ DispatchOf (recvs out) (dispatches out)) List.Forall₂.nil ?_
    (Runs.along_of_forall (fun _ _ => trivial) server events) h
  intro _ out _ _ next hout _ hstep
  rw [recvs_append, dispatches_append]
  exact List.rel_append hout (step_dispatchOf hstep)

/-- The same for one client among the others. -/
theorem run_dispatchOf_client (fd : ℤ) {server : Server} {events : List Answers}
    {result : Server × List Action} (h : Runs.run runSocketTcp server events = some result) :
    List.Forall₂ (fun chunk record => ∃ old : Data, record.bytes = overlay old.bytes 0 chunk)
      (received fd result.2) (dispatched fd result.2) := by
  have hfilter : List.Forall₂ DispatchOf ((recvs result.2).filter fun item => item.1 = fd)
      ((dispatches result.2).filter fun item => item.1 = fd) := by
    refine List.rel_filter ?_ (run_dispatchOf h)
    intro item record hitem
    simp [hitem.1]
  rw [received, dispatched, List.forall₂_map_left_iff, List.forall₂_map_right_iff]
  refine hfilter.imp ?_
  rintro item record ⟨_, old, hold⟩
  exact ⟨old, by rw [hold]; rfl⟩

/-! ### Framing -/

theorem received_length_le {fd : ℤ} {actions : List Action} {chunk : List UInt8}
    (h : chunk ∈ received fd actions) : chunk.length ≤ sizeofData := by
  obtain ⟨item, _, rfl⟩ := List.mem_map.mp h
  exact item.2.length_le

theorem whole_chunk {old record : Data} {chunk : List UInt8} (hwhole : chunk.length = sizeofData)
    (h : record.bytes = overlay old.bytes 0 chunk) : record.bytes = chunk := by
  rw [h, overlay_zero, List.drop_eq_nil_of_le (by rw [old.length_eq, hwhole]), List.append_nil]

/-- A record that arrives in one piece. -/
def wholeChunk (record : Data) : Chunk := ⟨record.bytes, record.length_eq.le⟩

theorem storeChunk_wholeChunk (old record : Data) : storeChunk old (wholeChunk record) = record := by
  apply Buffer.ext_bytes
  exact whole_chunk record.length_eq rfl

/-- A client whose chunks make up the records it sent sees exactly these records dispatched if and
only if every chunk is one whole record. -/
theorem dispatched_eq_sent_iff (stack : List.Vector PollFd pollFdsSize) (sockfd : ℤ)
    (events : List Answers) (result : Server × List Action)
    (hrun : Runs.run runSocketTcp (init stack sockfd) events = some result)
    (fd : ℤ) (sent : List Data)
    (hsent : (received fd result.2).flatten = (sent.map Buffer.bytes).flatten) :
    dispatched fd result.2 = sent ↔
      ∀ chunk ∈ received fd result.2, chunk.length = sizeofData := by
  have hpairs := run_dispatchOf_client fd hrun
  have hsizes : ∀ bytes ∈ sent.map Buffer.bytes, bytes.length = sizeofData := by
    intro bytes hbytes
    obtain ⟨record, _, rfl⟩ := List.mem_map.mp hbytes
    exact record.length_eq
  constructor
  · intro heq
    apply Framing.whole_of_count
    · intro chunk hchunk
      exact received_length_le hchunk
    · rw [hsent, Framing.length_flatten_of_length_eq hsizes, List.length_map, hpairs.length_eq, heq]
  · intro hwhole
    have hbytes : received fd result.2 = (dispatched fd result.2).map Buffer.bytes := by
      rw [← List.forall₂_eq_eq_eq, List.forall₂_map_right_iff]
      refine ((List.forall₂_and_left _ _).mpr ⟨hwhole, hpairs⟩).imp ?_
      rintro chunk record ⟨hlen, old, hold⟩
      exact (whole_chunk hlen hold).symm
    have hinj : (dispatched fd result.2).map Buffer.bytes = sent.map Buffer.bytes := by
      apply Framing.flatten_injective (n := sizeofData) (by decide) ?_ hsizes
      · rw [← hbytes, hsent]
      · rw [← hbytes]
        exact hwhole
    exact List.map_injective_iff.mpr (fun a b => Buffer.ext_bytes) hinj

/-- `poll` reports entry 1; `recv` stores this many zero bytes if it is called. -/
def delivers (count : ℕ) (h : count ≤ sizeofData) : Answers where
  poll := some fun i => if i = 1 then POLLIN else 0
  accept := -1
  recv := .stored ⟨List.replicate count 0, by rw [List.length_replicate]; exact h⟩

/-- `poll` reports the listening socket, and a client connects as descriptor 4. -/
def connects : Answers where
  poll := some fun i => if i = 0 then POLLIN else 0
  accept := 4
  recv := .error

def cleanStack : List.Vector PollFd pollFdsSize := List.Vector.replicate pollFdsSize ⟨0, 0, 0⟩

/-- A client connects, and a record, all zero, arrives from it in two chunks. -/
def splitDelivery : List Answers :=
  [connects, connects, delivers 4 (by decide), delivers 4 (by decide), delivers 4 (by decide),
    delivers 300 (by decide), delivers 300 (by decide)]

/-- A second client connects as descriptor 5. -/
def connectsAgain : Answers where
  poll := some fun i => if i = 0 then POLLIN else 0
  accept := 5
  recv := .error

/-- `poll` reports entries 1 and 2; `recv` stores this record if it is called. -/
def deliversWhole (record : Data) : Answers where
  poll := some fun i => if i = 1 ∨ i = 2 then POLLIN else 0
  accept := -1
  recv := .stored (wholeChunk record)

/-- A record that starts with these bytes. -/
def startingWith (bytes : List UInt8) (h : bytes.length ≤ sizeofData) : Data :=
  storeChunk (Buffer.zero sizeofData) ⟨bytes, h⟩

def firstLora : Data := startingWith [1, 0, 0, 0, 76, 49] (by decide)
def secondLora : Data := startingWith [1, 0, 0, 0, 76, 50, 50] (by decide)
def firstNRF : Data := startingWith [2, 0, 0, 0, 78] (by decide)
def secondNRF : Data := startingWith [2, 0, 0, 0, 78, 78, 78] (by decide)

/-- Two clients connect and send two records each, by turns. -/
def wholeDelivery : List Answers :=
  [connects, connects, connectsAgain, connectsAgain,
    deliversWhole firstLora, deliversWhole firstLora, deliversWhole firstNRF, deliversWhole firstNRF,
    deliversWhole secondLora, deliversWhole secondLora, deliversWhole secondNRF]

theorem dispatched_wholeDelivery :
    ∃ result, Runs.run runSocketTcp (init cleanStack 3) wholeDelivery = some result ∧
      dispatched 4 result.2 = [firstLora, secondLora] ∧
      dispatched 5 result.2 = [firstNRF, secondNRF] := by
  obtain ⟨result, hresult⟩ := Option.isSome_iff_exists.mp
    (show (Runs.run runSocketTcp (init cleanStack 3) wholeDelivery).isSome by decide)
  have hreceived : (Runs.run runSocketTcp (init cleanStack 3) wholeDelivery).map
      (fun r => (received 4 r.2, received 5 r.2)) =
        some ([firstLora.bytes, secondLora.bytes], [firstNRF.bytes, secondNRF.bytes]) := by
    decide +kernel
  rw [hresult, Option.map_some, Option.some.injEq, Prod.mk.injEq] at hreceived
  obtain ⟨hlora, hnrf⟩ := hreceived
  refine ⟨result, hresult, ?_, ?_⟩
  · refine (dispatched_eq_sent_iff cleanStack 3 wholeDelivery result hresult 4
      [firstLora, secondLora] (by rw [hlora]; rfl)).mpr fun chunk hchunk => ?_
    rw [hlora] at hchunk
    rcases List.mem_pair.mp hchunk with rfl | rfl
    · exact firstLora.length_eq
    · exact secondLora.length_eq
  · refine (dispatched_eq_sent_iff cleanStack 3 wholeDelivery result hresult 5
      [firstNRF, secondNRF] (by rw [hnrf]; rfl)).mpr fun chunk hchunk => ?_
    rw [hnrf] at hchunk
    rcases List.mem_pair.mp hchunk with rfl | rfl
    · exact firstNRF.length_eq
    · exact secondNRF.length_eq

/-- One record in two chunks is dispatched twice. -/
theorem dispatched_ne_sent :
    ¬∀ (stack : List.Vector PollFd pollFdsSize) (sockfd : ℤ) (events : List Answers)
      (result : Server × List Action),
      Runs.run runSocketTcp (init stack sockfd) events = some result → ∀ sent : ℤ → List Data,
        (∀ fd, (received fd result.2).flatten = ((sent fd).map Buffer.bytes).flatten) →
          ∀ fd, dispatched fd result.2 = sent fd := by
  intro h
  obtain ⟨result, hresult⟩ := Option.isSome_iff_exists.mp
    (show (Runs.run runSocketTcp (init cleanStack 3) splitDelivery).isSome by decide)
  have hfds : (Runs.run runSocketTcp (init cleanStack 3) splitDelivery).map
      (fun r => (recvs r.2).map Prod.fst) = some [4, 4] := by decide
  have hreceived : (Runs.run runSocketTcp (init cleanStack 3) splitDelivery).map
      (fun r => received 4 r.2) = some [List.replicate 4 0, List.replicate 300 0] := by decide +kernel
  have hcount : (Runs.run runSocketTcp (init cleanStack 3) splitDelivery).map
      (fun r => (dispatched 4 r.2).length) = some 2 := by decide
  rw [hresult, Option.map_some, Option.some.injEq] at hfds hreceived hcount
  have hall : ∀ fd, dispatched fd result.2 = if fd = 4 then [Buffer.zero sizeofData] else [] := by
    refine h cleanStack 3 splitDelivery result hresult
      (fun fd => if fd = 4 then [Buffer.zero sizeofData] else []) (fun fd => ?_)
    by_cases hfd : fd = 4
    · subst hfd
      rw [hreceived]
      rfl
    · have hnone : (recvs result.2).filter (fun item => item.1 = fd) = [] := by
        rw [List.filter_eq_nil_iff]
        intro item hitem
        have hmem : item.1 ∈ [4, 4] := hfds ▸ List.mem_map_of_mem hitem
        have hitem4 : item.1 = 4 := by simpa using hmem
        simpa [hitem4] using Ne.symm hfd
      rw [received, hnone, if_neg hfd]
      rfl
  have htwo := congrArg List.length (hall 4)
  rw [hcount] at htwo
  exact absurd htwo (by simp)

/-! ### Senders and gateway -/

/-- The services that fill a record and send it whole. -/
inductive Sender where
  | lora
  | nrf
  deriving DecidableEq

def Sender.fill : Sender → Data → List UInt8 → Option Data
  | lora => Data.fillLora
  | nrf => Data.fillNRF

/-- The strings that the `switch` takes from the record, for `publish_mess` or for `printf`. -/
def takenStrings (actions : List Action) : List (Option (List UInt8)) :=
  actions.filterMap fun
    | .publish message => some (message.map Message.payload)
    | .printf _ argument => some argument
    | _ => none

/-- Each case of the `switch` takes the strings it prints or publishes; a LoRa record is published
through the member `uart`. -/
theorem takenStrings_dispatchActions (data : Data) :
    takenStrings (dispatchActions data) =
      match data.node with
      | some .kUart => [data.msg .uart]
      | some .kLora => [data.msg .uart, data.msg .lora]
      | some .kNRF => [data.msg .nrf]
      | some .kSPI => []
      | some .kWifi => []
      | none => [] := by
  cases hnode : data.node with
  | none => simp only [dispatchActions, hnode]; rfl
  | some kind =>
      cases kind with
      | kUart => simp only [dispatchActions, hnode]; rfl
      | kLora =>
          simp only [dispatchActions, hnode]
          show [(publishMess .dataLora _).map Message.payload, _] = _
          rw [payload_publishMess]
          rfl
      | kNRF => simp only [dispatchActions, hnode]; rfl
      | kSPI => simp only [dispatchActions, hnode]; rfl
      | kWifi => simp only [dispatchActions, hnode]; rfl

/-- The string in `packet.lora.device_name`, if one ends in that field. -/
def deviceName (data : Data) : Option (List UInt8) :=
  cString ((data.bytes.drop Data.packetOffset).take (Data.msgOffset .lora - Data.packetOffset))

/-- A LoRa text read through the member `uart` is whatever `device_name` held before. -/
theorem msg_uart_of_fillLora {prior record : Data} {text : List UInt8} (hno : NoNul text)
    (hbytes : record.bytes = overlay (prior.taggedBytes .kLora) (Data.msgOffset .lora) (text ++ [0])) :
    record.msg .uart = some text ↔ deviceName prior = some text := by
  obtain ⟨rest, hrest⟩ := Data.drop_packet_of_fill hbytes
  have hmsg : record.msg .uart = cString (record.bytes.drop Data.packetOffset) := rfl
  rw [hmsg, hrest, deviceName]
  set name := (prior.bytes.drop Data.packetOffset).take (Data.msgOffset .lora - Data.packetOffset)
  cases hname : cString name with
  | some held => rw [cString_append_of_some hname]
  | none =>
      -- no end inside the field: the string runs on into the text, and is longer than it
      have hfield : name.length = 20 := by
        rw [List.length_take, List.length_drop, prior.length_eq]
        rfl
      rw [cString_append (noNul_of_cString_eq_none hname), cString_terminated hno, Option.map_some,
        Option.some.injEq]
      constructor
      · intro heq
        have hlen := congrArg List.length heq
        rw [List.length_append, hfield] at hlen
        omega
      · intro heq
        exact absurd heq (by simp)

theorem exists_taken_iff {sender : Sender} {prior old record : Data} {payload : List UInt8}
    (hrecord : sender.fill prior payload = some record) :
    (∃ record, sender.fill prior payload = some record ∧
      ∀ taken ∈ takenStrings (dispatchActions (storeChunk old (wholeChunk record))),
        taken = some payload) ↔
      ∀ taken ∈ takenStrings (dispatchActions record), taken = some payload := by
  constructor
  · rintro ⟨other, hother, htaken⟩
    obtain rfl := Option.some.inj (hother.symm.trans hrecord)
    rwa [storeChunk_wholeChunk] at htaken
  · intro htaken
    exact ⟨record, hrecord, by rwa [storeChunk_wholeChunk]⟩

/-- Every string that the gateway takes from a record it received whole is the text that the sender
stored if and only if the sender is not the LoRa service, or its `device_name` field held that very
text before. -/
theorem takenStrings_eq_payload_iff (sender : Sender) (prior old : Data) (payload : List UInt8)
    (hno : NoNul payload) (hlen : payload.length ≤ 254) :
    (∃ record, sender.fill prior payload = some record ∧
      ∀ taken ∈ takenStrings (dispatchActions (storeChunk old (wholeChunk record))),
        taken = some payload) ↔
      (sender = .lora → deviceName prior = some payload) := by
  cases sender with
  | lora =>
      obtain ⟨record, hrecord, hbytes⟩ := Data.fill_eq_some prior .kLora .lora hlen
      have hfill : Sender.lora.fill prior payload = some record := hrecord
      have htaken : takenStrings (dispatchActions record) = [record.msg .uart, record.msg .lora] := by
        rw [takenStrings_dispatchActions, Data.node_of_fill hbytes]
      rw [exists_taken_iff hfill, htaken, Data.msg_of_fill hbytes hno]
      simp [msg_uart_of_fillLora hno hbytes]
  | nrf =>
      obtain ⟨record, hrecord, hbytes⟩ := Data.fill_eq_some prior .kNRF .nrf hlen
      have hfill : Sender.nrf.fill prior payload = some record := hrecord
      have htaken : takenStrings (dispatchActions record) = [record.msg .nrf] := by
        rw [takenStrings_dispatchActions, Data.node_of_fill hbytes]
      rw [exists_taken_iff hfill, htaken, Data.msg_of_fill hbytes hno]
      simp

/-- The RF24 service's text comes through unchanged. -/
theorem takenStrings_nrf :
    ∃ record, Sender.nrf.fill (Buffer.zero sizeofData) (ascii "on") = some record ∧
      ∀ taken ∈ takenStrings (dispatchActions (storeChunk (Buffer.zero sizeofData) (wholeChunk record))),
        taken = some (ascii "on") :=
  (takenStrings_eq_payload_iff .nrf (Buffer.zero sizeofData) (Buffer.zero sizeofData) (ascii "on")
    (by decide) (by decide)).mpr (by decide)

/-- A LoRa text stored in a fresh record is published as the empty string. -/
theorem takenStrings_ne_payload :
    ¬∀ (sender : Sender) (prior old : Data) (payload : List UInt8), NoNul payload →
      payload.length ≤ 254 → ∃ record, sender.fill prior payload = some record ∧
        ∀ taken ∈ takenStrings (dispatchActions (storeChunk old (wholeChunk record))),
          taken = some payload := by
  intro h
  obtain ⟨record, hrecord, htaken⟩ :=
    h .lora (Buffer.zero sizeofData) (Buffer.zero sizeofData) (ascii "on") (by decide) (by decide)
  rw [storeChunk_wholeChunk] at htaken
  have hpublished : (Sender.lora.fill (Buffer.zero sizeofData) (ascii "on")).map
      (fun r => takenStrings (dispatchActions r)) = some [some [], some (ascii "on")] := by
    decide +kernel
  rw [hrecord, Option.map_some, Option.some.injEq] at hpublished
  have hempty := htaken (some []) (by rw [hpublished]; exact List.mem_cons_self)
  exact absurd hempty (by decide)

end Server

end LinuxGateway
