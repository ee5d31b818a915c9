import Mathlib.Data.List.Perm.Subperm
import Mathlib.Data.Nat.Find
import LinuxGateway.LibKeyed
import LinuxGateway.LibRuns
import LinuxGateway.PahoSocket
import LinuxGateway.PahoUtf8

/-! The session of an MQTT client (`MQTTProtocolClient.c`, and of `MQTTClient.c` what starts, ends and
empties a session): the messages that are on their way to the server and from it, the numbers they have,
and the repetitions. What the sockets answer and what the clock shows comes with the events. The memory
functions of the library are not modelled, nor what only version 5 of the protocol has, nor persistence,
which is off. -/

namespace LinuxGateway.Paho

open Bytes

/-! ### The data -/

/-- A stored publication, the topic as a C string. Nobody sets `topiclen` for one that is sent. -/
structure Publications where
  topic : List UInt8
  topiclen : Option ℕ
  payload : List UInt8
  deriving DecidableEq

/-- `nextMessageType` is set for the quality 2 only, `lastTouch` for outbound messages only. -/
structure Messages where
  publish : Publications
  msgid : ℕ
  qos : ℕ
  retain : ℕ
  nextMessageType : Option MsgType
  lastTouch : Option ℤ
  deriving DecidableEq

/-- `qEntry` with its `MQTTClient_message`. -/
structure QEntry where
  topicName : List UInt8
  topicLen : Option ℕ
  payload : List UInt8
  qos : ℕ
  retained : ℕ
  dup : ℕ
  msgid : ℕ
  deriving DecidableEq

structure Clients where
  connected : Bool
  good : Bool
  cleansession : Bool
  retryInterval : ℤ
  maxInflightMessages : ℕ
  msgID : ℕ
  outboundMsgs : List Messages
  inboundMsgs : List Messages
  messageQueue : List QEntry

/-- The values of `MQTTCLIENT_…` that `MQTTClient_publish5` returns; `blocked` while it waits. -/
inductive PublishRc where
  | success
  | failure
  | disconnected
  | badUtf8String
  | maxMessagesInflight
  | blocked
  deriving DecidableEq

inductive ClientSignal where
  /-- A packet was handed to the socket, which took it. -/
  | sent (pack : Outgoing)
  /-- `SOCKET_ERROR`; the thread of the library then closes the session. -/
  | error
  | returned (rc : PublishRc)
  /-- A message was put in `outboundMsgs`. -/
  | published (m : Messages)
  /-- A message was acknowledged and removed from `outboundMsgs`. -/
  | completed (m : Messages)
  /-- A publication was put in `messageQueue`. -/
  | queued (entry : QEntry)
  /-- A packet `SUBSCRIBE` has this number. -/
  | subscribing (msgid : ℕ)
  /-- The callback `deliveryComplete`. -/
  | deliveryComplete (msgid : ℕ)
  /-- The callback `messageArrived` took a publication over. -/
  | arrived (entry : QEntry)

/-- What the caller sees of a send. -/
def send (rc : Rc Unit) (pack : Outgoing) : List ClientSignal :=
  match rc with
  | .complete _ => [.sent pack]
  | .interrupted => [.sent pack]
  | .error => [.error]

namespace Clients

/-- `MQTTClient_create`. -/
def init : Clients := ⟨false, false, false, 0, 0, 0, [], [], []⟩

/-! ### Numbers for messages -/

def MAX_MSG_ID : ℕ := 65535

def nextMsgId (msgid : ℕ) : ℕ := if msgid = MAX_MSG_ID then 1 else msgid + 1

/-- The loop of `MQTTProtocol_assignMsgId`. It has met every number when the fuel is used up. -/
def assignLoop (outboundMsgs : List Messages) (start : ℕ) : ℕ → ℕ → Option ℕ
  | 0, _ => none
  | fuel + 1, msgid =>
    if (Keyed.find Messages.msgid msgid outboundMsgs).isSome then
      let msgid := nextMsgId msgid
      if msgid = start then some 0 else assignLoop outboundMsgs start fuel msgid
    else some msgid

/-- `MQTTProtocol_assignMsgId`: 0 where no number is free, `none` where the loop does not end. -/
def MQTTProtocolAssignMsgId (client : Clients) : Option (ℕ × Clients) :=
  (assignLoop client.outboundMsgs client.msgID (MAX_MSG_ID + 1) (nextMsgId client.msgID)).map fun msgid =>
    (msgid, if msgid = 0 then client else { client with msgID := msgid })

/-! ### The end of a session -/

/-- `MQTTClient_cleanSession`. -/
def cleanSession (client : Clients) : Clients :=
  { client with inboundMsgs := [], outboundMsgs := [], messageQueue := [], msgID := 0 }

/-- `MQTTClient_closeSession`. -/
def closeSession (client : Clients) : Clients :=
  let closed := { client with good := false, connected := false }
  if client.cleansession then closed.cleanSession else closed

/-- `MQTTClient_disconnect1`, without the time it waits for messages. -/
def MQTTClientDisconnect (client : Clients) : Clients := if client.connected then client.closeSession else client

/-! ### Publishing -/

/-- `MQTTProtocol_storePublication`. -/
def storePublication (topic : List UInt8) (topiclen : Option ℕ) (payload : List UInt8) : Publications :=
  ⟨textOf topic, topiclen, payload⟩

/-- `MQTTProtocol_createMessage`. -/
def createMessage (topic payload : List UInt8) (msgid qos retained : ℕ) (clock : ℤ) : Messages where
  publish := storePublication topic none payload
  msgid
  qos
  retain := retained
  nextMessageType := if qos = 2 then some .PUBREC else none
  lastTouch := some clock

/-- `MQTTProtocol_startPublish`. -/
def startPublish (client : Clients) (topic payload : List UInt8) (msgid qos retained : ℕ) (clock : ℤ)
    (rc : Rc Unit) : Clients × List ClientSignal :=
  let pack := Outgoing.publish ⟨0, topic, msgid, payload⟩ 0 qos retained
  if 0 < qos then
    let m := createMessage topic payload msgid qos retained clock
    ({ client with outboundMsgs := client.outboundMsgs ++ [m] }, .published m :: send rc pack)
  else (client, send rc pack)

/-- The end of `MQTTClient_publish5`: a packet of which only a part was written is waited for, and after an
error the session is closed; a message with a number will be sent again. The wait itself is not modelled:
what happens in it are later events, and the return that stands here is the one of a wait that ends with
the packet written. If the connection is lost in the wait, the code returns success all the same for a
message with a number, and failure for one without. -/
def endPublish (client : Clients) (qos : ℕ) : Rc Unit → Clients × List ClientSignal
  | .complete _ => (client, [.returned .success])
  | .interrupted => (client, [.returned .success])
  | .error => (client.MQTTClientDisconnect, [.returned (if 0 < qos then .success else .failure)])

/-- `MQTTClient_publish5` from the number on. -/
def publishNumbered (client : Clients) (topicName payload : List UInt8) (msgid qos retained : ℕ) (clock : ℤ)
    (rc : Rc Unit) : Clients × List ClientSignal :=
  let started := client.startPublish topicName payload msgid qos retained clock rc
  let ended := started.1.endPublish qos rc
  (ended.1, started.2 ++ ended.2)

/-- `MQTTClient_publish5`, with the answer of the socket; `busy` is `!Socket_noPendingWrites`. Qualities above
2 are not refused by the code; nothing is said of them. -/
def MQTTClientPublish5 (client : Clients) (topicName payload : List UInt8) (qos retained : ℕ) (busy : Bool)
    (clock : ℤ) (rc : Rc Unit) : Option (Clients × List ClientSignal) :=
  if ¬client.connected then some (client, [.returned .disconnected])
  else if ¬UTF8ValidateString topicName then some (client, [.returned .badUtf8String])
  else if client.maxInflightMessages ≤ client.outboundMsgs.length ∨ busy then
    some (client, [.returned .blocked])
  else if 2 < qos then none
  else
    (if 0 < qos then client.MQTTProtocolAssignMsgId else some (0, client)).map fun (msgid, client) =>
      if 0 < qos ∧ msgid = 0 then (client, [.returned .maxMessagesInflight])
      else client.publishNumbered topicName payload msgid qos retained clock rc

/-- `MQTTClient_subscribeMany5`, up to the packet. -/
def MQTTClientSubscribeMany5 (client : Clients) (topics : List (List UInt8)) (qoss : List ℕ) :
    Option (Clients × List ClientSignal) :=
  if ¬client.connected ∨ ¬topics.all UTF8ValidateString ∨ ¬qoss.all (· ≤ 2) then some (client, [])
  else
    client.MQTTProtocolAssignMsgId.map fun (msgid, client) =>
      (client, if msgid = 0 then [.returned .maxMessagesInflight] else [.subscribing msgid])

/-! ### Packets from the server -/

/-- `Protocol_processPublication`: a publication with the quality 2 is never given on as a duplicate. -/
def processPublication (client : Clients) (topic : List UInt8) (topiclen : Option ℕ) (payload : List UInt8)
    (qos retain dup msgid : ℕ) : Clients × List ClientSignal :=
  let entry : QEntry := ⟨topic, topiclen, payload, qos, retain, if qos = 2 then 0 else dup, msgid⟩
  ({ client with messageQueue := client.messageQueue ++ [entry] }, [.queued entry])

/-- The message that `MQTTProtocol_handlePublishes` stores. -/
def inboundMessage (publish : Publish) : Messages where
  publish := storePublication publish.topic (some publish.topic.length) publish.payload
  msgid := publish.msgId
  qos := headerQos publish.header
  retain := headerRetain publish.header
  nextMessageType := some .PUBREL
  lastTouch := none

/-- A stored message with the same number is replaced. -/
def storeInbound (client : Clients) (m : Messages) : Clients :=
  { client with inboundMsgs :=
      match Keyed.find Messages.msgid m.msgid client.inboundMsgs with
      | some _ => Keyed.replace Messages.msgid m client.inboundMsgs
      | none => client.inboundMsgs ++ [m] }

/-- `MQTTProtocol_handlePublishes`. -/
def handlePublishes (client : Clients) (publish : Publish) (busy : Bool) (rc : Rc Unit) :
    Clients × List ClientSignal :=
  let process := client.processPublication publish.topic (some publish.topic.length) publish.payload
    (headerQos publish.header) (headerRetain publish.header) (headerDup publish.header) publish.msgId
  if headerQos publish.header = 0 then process
  else if busy then (client, [.error])
  else if headerQos publish.header = 1 then (process.1, send rc (.puback publish.msgId) ++ process.2)
  else if headerQos publish.header = 2 then
    (client.storeInbound (inboundMessage publish), send rc (.pubrec publish.msgId))
  else (client, [])

/-- `MQTTProtocol_handlePubacks`. -/
def handlePubacks (client : Clients) (msgId : ℕ) : Clients × List ClientSignal :=
  match Keyed.find Messages.msgid msgId client.outboundMsgs with
  | none => (client, [])
  | some m =>
    if m.qos ≠ 1 then (client, [])
    else ({ client with outboundMsgs := Keyed.remove Messages.msgid msgId client.outboundMsgs }, [.completed m])

/-- A message that `PUBREL` was sent for. -/
def released (m : Messages) (clock : ℤ) : Messages :=
  { m with nextMessageType := some .PUBCOMP, lastTouch := some clock }

/-- `MQTTProtocol_handlePubrecs`. -/
def handlePubrecs (client : Clients) (msgId : ℕ) (clock : ℤ) (rc : Rc Unit) : Clients × List ClientSignal :=
  match Keyed.find Messages.msgid msgId client.outboundMsgs with
  | none => (client, [])
  | some m =>
    if m.qos ≠ 2 then (client, [])
    else if m.nextMessageType ≠ some .PUBREC then (client, [])
    else
      ({ client with outboundMsgs := Keyed.replace Messages.msgid (released m clock) client.outboundMsgs },
        send rc (.pubrel msgId 0))

/-- `MQTTProtocol_handlePubrels`: one that nothing is stored for is answered when it is a repetition. -/
def handlePubrels (client : Clients) (msgId dup : ℕ) (busy : Bool) (rc : Rc Unit) :
    Clients × List ClientSignal :=
  match Keyed.find Messages.msgid msgId client.inboundMsgs with
  | none =>
    if dup = 0 then (client, [])
    else if busy then (client, [.error])
    else (client, send rc (.pubcomp msgId))
  | some m =>
    if m.qos ≠ 2 then (client, [])
    else if m.nextMessageType ≠ some .PUBREL then (client, [])
    else if busy then (client, [.error])
    else
      let processed := client.processPublication m.publish.topic m.publish.topiclen m.publish.payload
        m.qos m.retain 0 m.msgid
      ({ processed.1 with inboundMsgs := Keyed.remove Messages.msgid msgId processed.1.inboundMsgs },
        send rc (.pubcomp msgId) ++ processed.2)

/-- `MQTTProtocol_handlePubcomps`. -/
def handlePubcomps (client : Clients) (msgId : ℕ) : Clients × List ClientSignal :=
  match Keyed.find Messages.msgid msgId client.outboundMsgs with
  | none => (client, [])
  | some m =>
    if m.qos ≠ 2 then (client, [])
    else if m.nextMessageType ≠ some .PUBCOMP then (client, [])
    else ({ client with outboundMsgs := Keyed.remove Messages.msgid msgId client.outboundMsgs }, [.completed m])

/-- `MQTTClient_cycle` with a packet. The callback is called for every acknowledgement, also for one that
no message waits for. -/
def MQTTClientCycle (client : Clients) (pack : Packet) (busy : Bool) (clock : ℤ) (rc : Rc Unit) :
    Clients × List ClientSignal :=
  match pack with
  | .publish publish => client.handlePublishes publish busy rc
  | .ack ack =>
    match MsgType.ofCode (headerType ack.header) with
    | some .PUBACK =>
      let handled := client.handlePubacks ack.msgId
      (handled.1, handled.2 ++ [.deliveryComplete ack.msgId])
    | some .PUBCOMP =>
      let handled := client.handlePubcomps ack.msgId
      (handled.1, handled.2 ++ [.deliveryComplete ack.msgId])
    | some .PUBREC => client.handlePubrecs ack.msgId clock rc
    | some .PUBREL => client.handlePubrels ack.msgId (headerDup ack.header) busy rc
    | _ => (client, [])
  | _ => (client, [])

/-! ### Repetitions -/

/-- What `MQTTProtocol_retries` sends again for a message. -/
def retryPacket (m : Messages) : Option Outgoing :=
  if m.qos = 1 ∨ m.qos = 2 ∧ m.nextMessageType = some .PUBREC then
    some (.publish ⟨0, m.publish.topic, m.msgid, m.publish.payload⟩ 1 m.qos m.retain)
  else if m.qos ≠ 0 ∧ m.nextMessageType = some .PUBCOMP then some (.pubrel m.msgid 0)
  else none

/-- The loop of `MQTTProtocol_retries` over the messages that are left: the messages after it, and whether
the session has to be closed. The socket's answer to a packet is the one for its number. A publication of
which only a part was written ends the loop, and so does any other packet, with an error. -/
def retriesLoop (due : Messages → Bool) (clock : ℤ) (rcs : ℕ → Rc Unit) :
    List Messages → List Messages × List ClientSignal × Bool
  | [] => ([], [], false)
  | m :: ms =>
    match if due m then retryPacket m else none with
    | none =>
      let (rest, signals, closed) := retriesLoop due clock rcs ms
      (m :: rest, signals, closed)
    | some pack =>
      let touched := { m with lastTouch := some clock }
      match rcs m.msgid with
      | .complete _ =>
        let (rest, signals, closed) := retriesLoop due clock rcs ms
        (touched :: rest, .sent pack :: signals, closed)
      | .interrupted =>
        match pack with
        | .pubrel _ _ => (m :: ms, [.sent pack, .error], true)
        | _ => (touched :: ms, [.sent pack], false)
      | .error => (m :: ms, [.error], true)

/-- Whether a message has waited long enough; after a new connection all have. -/
def retryDue (client : Clients) (now : ℤ) (regardless : Bool) (m : Messages) : Bool :=
  regardless || m.lastTouch.any fun lastTouch => decide (max client.retryInterval 10 < now - lastTouch)

/-- `MQTTProtocol_retries`. -/
def retries (client : Clients) (now : ℤ) (regardless : Bool) (clock : ℤ) (rcs : ℕ → Rc Unit) :
    Clients × List ClientSignal :=
  if ¬regardless ∧ client.retryInterval ≤ 0 then (client, [])
  else
    let result := retriesLoop (client.retryDue now regardless) clock rcs client.outboundMsgs
    let client := { client with outboundMsgs := result.1 }
    (if result.2.2 then client.MQTTClientDisconnect else client, result.2.1)

/-- `MQTTProtocol_retry` for the one client there is. -/
def MQTTProtocolRetry (client : Clients) (now : ℤ) (doRetry regardless busy : Bool) (clock : ℤ)
    (rcs : ℕ → Rc Unit) : Clients × List ClientSignal :=
  if ¬client.connected then (client, [])
  else if ¬client.good then (client.MQTTClientDisconnect, [])
  else if busy then (client, [])
  else if doRetry then client.retries now regardless clock rcs
  else (client, [])

/-- What `MQTTClient_connectURI` takes from the options. -/
structure ConnectOptions where
  cleansession : Bool
  retryInterval : ℤ
  reliable : Bool
  maxInflightMessages : ℕ

def ConnectOptions.maxInflight (options : ConnectOptions) : ℕ :=
  if 0 < options.maxInflightMessages then options.maxInflightMessages else if options.reliable then 1 else 10

/-- The fields that `MQTTClient_connectURI` sets. -/
def configure (client : Clients) (options : ConnectOptions) : Clients :=
  { client with
    cleansession := options.cleansession
    retryInterval := options.retryInterval
    maxInflightMessages := options.maxInflight }

/-- What `MQTTClient_connectURIVersion` does when the server accepts the connection. -/
def connectSession (client : Clients) : Clients :=
  let client := { client with connected := true, good := true }
  let client := if client.cleansession then client.cleanSession else client
  { client with outboundMsgs := client.outboundMsgs.map fun m => { m with lastTouch := some 0 } }

/-- `MQTTClient_connect` of a client that is not connected, once the packet `CONNECT` is sent: the server
accepts it, or it does not or does not answer. The messages on their way are sent again at once. -/
def MQTTClientConnect (client : Clients) (options : ConnectOptions) (accepted : Bool) (clock : ℤ)
    (rcs : ℕ → Rc Unit) : Clients × List ClientSignal :=
  if accepted then (client.configure options).connectSession.MQTTProtocolRetry 0 true true false clock rcs
  else ((client.configure options).closeSession, [])

/-! ### The client as a machine -/

/-- `MQTTClient_run` with a message in the queue; the callback takes it over or not. -/
def messageArrived (client : Clients) (taken : Bool) : Clients × List ClientSignal :=
  match client.messageQueue with
  | [] => (client, [])
  | entry :: rest => if taken then ({ client with messageQueue := rest }, [.arrived entry]) else (client, [])

end Clients

/-- What happens to a client. The thread of the library calls `MQTTClient_retry` after each packet and
closes the session after an error; these are events of their own here, that may come at any time. -/
inductive ClientEvent where
  | connect (options : Clients.ConnectOptions) (accepted : Bool) (clock : ℤ) (rcs : ℕ → Rc Unit)
  | publish (topicName payload : List UInt8) (qos retained : ℕ) (busy : Bool) (clock : ℤ) (rc : Rc Unit)
  | subscribe (topics : List (List UInt8)) (qoss : List ℕ)
  | packet (pack : Packet) (busy : Bool) (clock : ℤ) (rc : Rc Unit)
  | retry (now : ℤ) (doRetry busy : Bool) (clock : ℤ) (rcs : ℕ → Rc Unit)
  | messageArrived (taken : Bool)
  | disconnect

namespace Clients

def step (client : Clients) : ClientEvent → Option (Clients × List ClientSignal)
  | .connect options accepted clock rcs =>
    if client.connected then none else some (client.MQTTClientConnect options accepted clock rcs)
  | .publish topicName payload qos retained busy clock rc =>
    client.MQTTClientPublish5 topicName payload qos retained busy clock rc
  | .subscribe topics qoss => client.MQTTClientSubscribeMany5 topics qoss
  | .packet pack busy clock rc => some (client.MQTTClientCycle pack busy clock rc)
  | .retry now doRetry busy clock rcs => some (client.MQTTProtocolRetry now doRetry false busy clock rcs)
  | .messageArrived taken => some (client.messageArrived taken)
  | .disconnect => some (client.MQTTClientDisconnect, [])

/-! ### The numbers in use -/

/-- The `i`-th number that `MQTTProtocol_assignMsgId` tries. -/
def tried (start i : ℕ) : ℕ := (start + i) % MAX_MSG_ID + 1

theorem nextMsgId_eq_tried {start : ℕ} (h : start ≤ MAX_MSG_ID) : nextMsgId start = tried start 0 := by
  unfold MAX_MSG_ID at h
  unfold nextMsgId tried MAX_MSG_ID
  split <;> omega

theorem nextMsgId_tried (start i : ℕ) : nextMsgId (tried start i) = tried start (i + 1) := by
  unfold nextMsgId tried MAX_MSG_ID
  split <;> omega

theorem tried_ne_start {start i : ℕ} (h : i + 1 < MAX_MSG_ID) : tried start i ≠ start := by
  unfold MAX_MSG_ID at h
  unfold tried MAX_MSG_ID
  omega

theorem tried_injective {start i j : ℕ} (hi : i < MAX_MSG_ID) (hj : j < MAX_MSG_ID)
    (h : tried start i = tried start j) : i = j := by
  unfold tried at h
  unfold MAX_MSG_ID at h hi hj
  omega

theorem tried_mem_range (start i : ℕ) : 1 ≤ tried start i ∧ tried start i ≤ MAX_MSG_ID := by
  unfold tried MAX_MSG_ID
  omega

/-- The loop stops at the first free number. -/
theorem assignLoop_eq {outboundMsgs : List Messages} {start n : ℕ} :
    ∀ fuel i : ℕ, n < fuel → i + n + 1 < MAX_MSG_ID →
      (∀ k < n, (Keyed.find Messages.msgid (tried start (i + k)) outboundMsgs).isSome) →
      Keyed.find Messages.msgid (tried start (i + n)) outboundMsgs = none →
      assignLoop outboundMsgs start fuel (tried start i) = some (tried start (i + n)) := by
  induction n with
  | zero =>
      intro fuel i hfuel _ _ hfree
      obtain ⟨fuel, rfl⟩ := Nat.exists_eq_succ_of_ne_zero (Nat.ne_of_gt hfuel)
      rw [Nat.add_zero] at hfree ⊢
      rw [assignLoop, hfree]
      rfl
  | succ n ih =>
      intro fuel i hfuel hi hused hfree
      obtain ⟨fuel, rfl⟩ := Nat.exists_eq_succ_of_ne_zero (Nat.ne_of_gt (Nat.zero_lt_of_lt hfuel))
      have hfirst := hused 0 (Nat.succ_pos n)
      rw [Nat.add_zero] at hfirst
      have hshift : ∀ k, i + 1 + k = i + (k + 1) := fun k => by omega
      rw [assignLoop, if_pos hfirst, nextMsgId_tried]
      dsimp only
      rw [if_neg (tried_ne_start (by omega)), ← hshift n]
      refine ih fuel (i + 1) (by omega) (by omega) (fun k hk => ?_) ?_
      · rw [hshift]
        exact hused (k + 1) (by omega)
      · rw [hshift]
        exact hfree

/-- Among as many numbers as there are but one, one is free while fewer messages are on their way. -/
theorem exists_free (start : ℕ) {outboundMsgs : List Messages} (h : outboundMsgs.length + 1 < MAX_MSG_ID) :
    ∃ n, n + 1 < MAX_MSG_ID ∧ Keyed.find Messages.msgid (tried start n) outboundMsgs = none := by
  by_contra hall
  have hsub : (List.range (MAX_MSG_ID - 1)).map (tried start) ⊆ outboundMsgs.map Messages.msgid := by
    intro msgid hmem
    obtain ⟨n, hn, rfl⟩ := List.mem_map.mp hmem
    have hlt : n + 1 < MAX_MSG_ID := by
      have := List.mem_range.mp hn
      omega
    obtain ⟨m, hm⟩ := Option.ne_none_iff_exists'.mp fun hnone => hall ⟨n, hlt, hnone⟩
    rw [← Keyed.key_of_find hm]
    exact List.mem_map_of_mem (Keyed.mem_of_find hm)
  have hnodup : ((List.range (MAX_MSG_ID - 1)).map (tried start)).Nodup := by
    refine List.Nodup.map_on (fun i hi j hj hij => ?_) List.nodup_range
    rw [List.mem_range] at hi hj
    exact tried_injective (by omega) (by omega) hij
  have hle := (List.subperm_of_subset hnodup hsub).length_le
  rw [List.length_map, List.length_range, List.length_map] at hle
  omega

theorem MQTTProtocolAssignMsgId_eq {client : Clients} (hmsgID : client.msgID ≤ MAX_MSG_ID)
    (hlength : client.outboundMsgs.length + 1 < MAX_MSG_ID) :
    ∃ msgid, client.MQTTProtocolAssignMsgId = some (msgid, { client with msgID := msgid }) ∧
      (1 ≤ msgid ∧ msgid ≤ MAX_MSG_ID) ∧ Keyed.find Messages.msgid msgid client.outboundMsgs = none := by
  classical
  have hexists := exists_free client.msgID hlength
  have hfind := Nat.find_spec hexists
  have hused : ∀ k < Nat.find hexists,
      (Keyed.find Messages.msgid (tried client.msgID (0 + k)) client.outboundMsgs).isSome := by
    intro k hk
    have hmin := Nat.find_min hexists hk
    rw [Nat.zero_add, Option.isSome_iff_ne_none]
    exact fun hnone => hmin ⟨by omega, hnone⟩
  have hloop := assignLoop_eq (MAX_MSG_ID + 1) 0 (by omega) (by omega) hused
    (by rw [Nat.zero_add]; exact hfind.2)
  rw [Nat.zero_add] at hloop
  have hrange := tried_mem_range client.msgID (Nat.find hexists)
  refine ⟨tried client.msgID (Nat.find hexists), ?_, hrange, hfind.2⟩
  rw [MQTTProtocolAssignMsgId, nextMsgId_eq_tried hmsgID, hloop, Option.map_some,
    if_neg (Nat.ne_of_gt hrange.1)]

/-! ### Every reachable client -/

/-- A message without the time it was last sent. -/
def untouched (m : Messages) : Messages := { m with lastTouch := none }

/-- A message on its way to the server has a number and waits for an answer that fits its quality. -/
def ProperOutbound (m : Messages) : Prop :=
  (1 ≤ m.msgid ∧ m.msgid ≤ MAX_MSG_ID) ∧
    (m.qos = 1 ∨ m.qos = 2 ∧ (m.nextMessageType = some .PUBREC ∨ m.nextMessageType = some .PUBCOMP))

def ProperInbound (m : Messages) : Prop := m.qos = 2 ∧ m.nextMessageType = some .PUBREL

/-- Numbers are used once, and each message is proper. -/
structure Proper (P : Messages → Prop) (ms : List Messages) : Prop where
  distinct : Keyed.Distinct Messages.msgid ms
  proper : ∀ m ∈ ms, P m

namespace Proper

variable {P : Messages → Prop} {ms : List Messages}

theorem nil : Proper P [] := ⟨List.nodup_nil, fun _ h => absurd h List.not_mem_nil⟩

theorem append (h : Proper P ms) {m : Messages} (hfree : Keyed.find Messages.msgid m.msgid ms = none)
    (hm : P m) : Proper P (ms ++ [m]) := by
  refine ⟨h.distinct.append hfree, fun m' hm' => ?_⟩
  rcases List.mem_append.mp hm' with hm' | hm'
  · exact h.proper m' hm'
  · rwa [List.mem_singleton.mp hm']

theorem remove (h : Proper P ms) (msgid : ℕ) : Proper P (Keyed.remove Messages.msgid msgid ms) :=
  ⟨h.distinct.remove msgid, fun m hm => h.proper m (Keyed.remove_sublist.subset hm)⟩

theorem replace (h : Proper P ms) {m : Messages} (hm : P m) : Proper P (Keyed.replace Messages.msgid m ms) :=
  ⟨h.distinct.replace m, fun m' hm' => (Keyed.mem_replace hm').elim (fun heq => heq ▸ hm) (h.proper m')⟩

/-- The time of the last sending does not matter. -/
theorem touch (h : Proper P ms) {ms' : List Messages} (hsame : ms'.map untouched = ms.map untouched)
    (hP : ∀ m, P (untouched m) ↔ P m) : Proper P ms' := by
  constructor
  · have hids := congrArg (List.map Messages.msgid) hsame
    rw [List.map_map, List.map_map] at hids
    exact Eq.mpr (congrArg List.Nodup hids) h.distinct
  · intro m hm
    have hmem : untouched m ∈ ms.map untouched := hsame ▸ List.mem_map_of_mem hm
    obtain ⟨m', hm', heq⟩ := List.mem_map.mp hmem
    rw [← hP, ← heq, hP]
    exact h.proper m' hm'

end Proper

theorem retriesLoop_untouched (due : Messages → Bool) (clock : ℤ) (rcs : ℕ → Rc Unit) (ms : List Messages) :
    (retriesLoop due clock rcs ms).1.map untouched = ms.map untouched := by
  induction ms with
  | nil => rfl
  | cons m ms ih =>
      rw [retriesLoop]
      split
      · exact congrArg (untouched m :: ·) ih
      · next pack _ =>
          dsimp only
          split
          · exact congrArg (untouched m :: ·) ih
          · split <;> rfl
          · rfl

/-- The lists of messages are proper, and fewer messages are on their way than there are numbers. -/
structure Numbered (client : Clients) : Prop where
  outbound : Proper ProperOutbound client.outboundMsgs
  inbound : Proper ProperInbound client.inboundMsgs
  msgID_le : client.msgID ≤ MAX_MSG_ID
  inflight_lt : client.maxInflightMessages + 1 < MAX_MSG_ID
  length_lt : client.outboundMsgs.length + 1 < MAX_MSG_ID

namespace Numbered

variable {client : Clients}

theorem init : Numbered .init := ⟨Proper.nil, Proper.nil, by decide, by decide, by decide⟩

theorem cleanSession (h : Numbered client) : Numbered client.cleanSession :=
  ⟨Proper.nil, Proper.nil, Nat.zero_le _, h.inflight_lt, (by decide : 0 + 1 < 65535)⟩

/-- Changes outside of the lists of messages, and new times of their last sending. -/
theorem touch (h : Numbered client) {next : Clients}
    (houtbound : next.outboundMsgs.map untouched = client.outboundMsgs.map untouched)
    (hinbound : next.inboundMsgs = client.inboundMsgs) (hmsgID : next.msgID ≤ MAX_MSG_ID)
    (hinflight : next.maxInflightMessages + 1 < MAX_MSG_ID) : Numbered next := by
  have hlength := congrArg List.length houtbound
  rw [List.length_map, List.length_map] at hlength
  exact ⟨h.outbound.touch houtbound fun _ => Iff.rfl, hinbound ▸ h.inbound, hmsgID, hinflight,
    hlength ▸ h.length_lt⟩

theorem closeSession (h : Numbered client) : Numbered client.closeSession := by
  have hclosed : Numbered { client with good := false, connected := false } :=
    h.touch rfl rfl h.msgID_le h.inflight_lt
  unfold Clients.closeSession
  split
  · exact hclosed.cleanSession
  · exact hclosed

theorem disconnect (h : Numbered client) : Numbered client.MQTTClientDisconnect := by
  unfold MQTTClientDisconnect
  split
  · exact h.closeSession
  · exact h

theorem retries (h : Numbered client) (now : ℤ) (regardless : Bool) (clock : ℤ) (rcs : ℕ → Rc Unit) :
    Numbered (client.retries now regardless clock rcs).1 := by
  unfold Clients.retries
  split
  · exact h
  · dsimp only
    generalize hloop : retriesLoop (client.retryDue now regardless) clock rcs client.outboundMsgs = result
    have hsame := retriesLoop_untouched (client.retryDue now regardless) clock rcs client.outboundMsgs
    rw [hloop] at hsame
    have htouched : Numbered { client with outboundMsgs := result.1 } :=
      h.touch hsame rfl h.msgID_le h.inflight_lt
    split
    · exact htouched.disconnect
    · exact htouched

theorem retry (h : Numbered client) (now : ℤ) (doRetry regardless busy : Bool) (clock : ℤ) (rcs : ℕ → Rc Unit) :
    Numbered (client.MQTTProtocolRetry now doRetry regardless busy clock rcs).1 := by
  unfold MQTTProtocolRetry
  split
  · exact h
  · split
    · exact h.disconnect
    · split
      · exact h
      · split
        · exact h.retries now regardless clock rcs
        · exact h

theorem connectSession (h : Numbered client) : Numbered client.connectSession := by
  have hconnected : Numbered { client with connected := true, good := true } :=
    h.touch rfl rfl h.msgID_le h.inflight_lt
  unfold Clients.connectSession
  dsimp only
  split
  · have hclean := hconnected.cleanSession
    exact hclean.touch rfl rfl hclean.msgID_le hclean.inflight_lt
  · refine hconnected.touch ?_ rfl h.msgID_le h.inflight_lt
    rw [List.map_map]
    rfl

theorem connect (h : Numbered client) {options : ConnectOptions} (accepted : Bool) (clock : ℤ)
    (rcs : ℕ → Rc Unit) (hoptions : options.maxInflight + 1 < MAX_MSG_ID) :
    Numbered (client.MQTTClientConnect options accepted clock rcs).1 := by
  have hconfigured : Numbered (client.configure options) := h.touch rfl rfl h.msgID_le hoptions
  unfold MQTTClientConnect
  split
  · exact hconfigured.connectSession.retry 0 true true false clock rcs
  · exact hconfigured.closeSession

theorem assigned (h : Numbered client) {msgid : ℕ} (hle : msgid ≤ MAX_MSG_ID) :
    Numbered { client with msgID := msgid } :=
  h.touch rfl rfl hle h.inflight_lt

theorem startPublish (h : Numbered client) {topic payload : List UInt8} {msgid qos : ℕ} (retained : ℕ) (clock : ℤ)
    (rc : Rc Unit) (hqos : qos ≤ 2) (hrange : 0 < qos → 1 ≤ msgid ∧ msgid ≤ MAX_MSG_ID)
    (hfree : 0 < qos → Keyed.find Messages.msgid msgid client.outboundMsgs = none)
    (hlength : client.outboundMsgs.length < client.maxInflightMessages) :
    Numbered (client.startPublish topic payload msgid qos retained clock rc).1 := by
  unfold Clients.startPublish
  dsimp only
  split
  · next hpos =>
      have hproper : ProperOutbound (createMessage topic payload msgid qos retained clock) := by
        refine ⟨hrange hpos, ?_⟩
        have hcases : qos = 1 ∨ qos = 2 := by omega
        rcases hcases with rfl | rfl
        · exact Or.inl rfl
        · exact Or.inr ⟨rfl, Or.inl rfl⟩
      refine ⟨h.outbound.append (hfree hpos) hproper, h.inbound, h.msgID_le, h.inflight_lt, ?_⟩
      have := h.inflight_lt
      rw [List.length_append, List.length_singleton]
      omega
  · exact h

theorem endPublish (h : Numbered client) (qos : ℕ) (rc : Rc Unit) : Numbered (client.endPublish qos rc).1 := by
  cases rc with
  | complete => exact h
  | interrupted => exact h
  | error => exact h.disconnect

theorem publishNumbered (h : Numbered client) {topic payload : List UInt8} {msgid qos : ℕ} (retained : ℕ)
    (clock : ℤ) (rc : Rc Unit) (hqos : qos ≤ 2) (hrange : 0 < qos → 1 ≤ msgid ∧ msgid ≤ MAX_MSG_ID)
    (hfree : 0 < qos → Keyed.find Messages.msgid msgid client.outboundMsgs = none)
    (hlength : client.outboundMsgs.length < client.maxInflightMessages) :
    Numbered (client.publishNumbered topic payload msgid qos retained clock rc).1 :=
  (h.startPublish retained clock rc hqos hrange hfree hlength).endPublish qos rc

/-- A call that is not answered at once goes on with a number that is free. -/
theorem publish_cases (h : Numbered client) (topicName payload : List UInt8) {qos : ℕ} (retained : ℕ) (busy : Bool)
    (clock : ℤ) (rc : Rc Unit) (hqos : qos ≤ 2) :
    (∃ code ≠ PublishRc.maxMessagesInflight,
      client.MQTTClientPublish5 topicName payload qos retained busy clock rc = some (client, [.returned code])) ∨
    ∃ msgid msgID, msgID ≤ MAX_MSG_ID ∧ (0 < qos → 1 ≤ msgid ∧ msgid ≤ MAX_MSG_ID) ∧
      (0 < qos → Keyed.find Messages.msgid msgid client.outboundMsgs = none) ∧
      client.outboundMsgs.length < client.maxInflightMessages ∧
      client.MQTTClientPublish5 topicName payload qos retained busy clock rc = some
        ({ client with msgID := msgID }.publishNumbered topicName payload msgid qos retained clock rc) := by
  unfold MQTTClientPublish5
  split
  · exact Or.inl ⟨_, by decide, rfl⟩
  · split
    · exact Or.inl ⟨_, by decide, rfl⟩
    · split
      · exact Or.inl ⟨_, by decide, rfl⟩
      · next hroom =>
          rw [not_or, Nat.not_le] at hroom
          rw [if_neg (Nat.not_lt.mpr hqos)]
          by_cases hpos : 0 < qos
          · obtain ⟨msgid, hassign, hrange, hfree⟩ := MQTTProtocolAssignMsgId_eq h.msgID_le h.length_lt
            refine Or.inr ⟨msgid, msgid, hrange.2, fun _ => hrange, fun _ => hfree, hroom.1, ?_⟩
            rw [if_pos hpos, hassign, Option.map_some]
            dsimp only
            rw [if_neg fun hzero => absurd hzero.2 (Nat.ne_of_gt hrange.1)]
          · refine Or.inr ⟨0, client.msgID, h.msgID_le, fun h => absurd h hpos, fun h => absurd h hpos, hroom.1, ?_⟩
            rw [if_neg hpos, Option.map_some]
            dsimp only
            rw [if_neg fun hzero => absurd hzero.1 hpos]

theorem handlePublishes (h : Numbered client) (publish : Publish) (busy : Bool) (rc : Rc Unit) :
    Numbered (client.handlePublishes publish busy rc).1 := by
  have hprocess : ∀ topic topiclen payload qos retain dup msgid,
      Numbered (client.processPublication topic topiclen payload qos retain dup msgid).1 :=
    fun _ _ _ _ _ _ _ => h.touch rfl rfl h.msgID_le h.inflight_lt
  unfold Clients.handlePublishes
  dsimp only
  split
  · exact hprocess _ _ _ _ _ _ _
  · split
    · exact h
    · split
      · exact hprocess _ _ _ _ _ _ _
      · split
        · next hqos =>
            have hproper : ProperInbound (inboundMessage publish) := ⟨hqos, rfl⟩
            refine ⟨h.outbound, ?_, h.msgID_le, h.inflight_lt, h.length_lt⟩
            unfold storeInbound
            dsimp only
            split
            · exact h.inbound.replace hproper
            · next hnone => exact h.inbound.append hnone hproper
        · exact h

theorem removed (h : Numbered client) (msgid : ℕ) :
    Numbered { client with outboundMsgs := Keyed.remove Messages.msgid msgid client.outboundMsgs } := by
  refine ⟨h.outbound.remove msgid, h.inbound, h.msgID_le, h.inflight_lt, ?_⟩
  have hle : (Keyed.remove Messages.msgid msgid client.outboundMsgs).length ≤ client.outboundMsgs.length :=
    Keyed.remove_sublist.length_le
  have := h.length_lt
  dsimp only
  omega

theorem handlePubacks (h : Numbered client) (msgId : ℕ) : Numbered (client.handlePubacks msgId).1 := by
  unfold Clients.handlePubacks
  split
  · exact h
  · split
    · exact h
    · exact h.removed msgId

theorem handlePubcomps (h : Numbered client) (msgId : ℕ) : Numbered (client.handlePubcomps msgId).1 := by
  unfold Clients.handlePubcomps
  split
  · exact h
  · split
    · exact h
    · split
      · exact h
      · exact h.removed msgId

theorem handlePubrecs (h : Numbered client) (msgId : ℕ) (clock : ℤ) (rc : Rc Unit) :
    Numbered (client.handlePubrecs msgId clock rc).1 := by
  unfold Clients.handlePubrecs
  split
  · exact h
  · next m hfind =>
      split
      · exact h
      · next hqos =>
          split
          · exact h
          · have hproper : ProperOutbound (released m clock) :=
              ⟨(h.outbound.proper m (Keyed.mem_of_find hfind)).1, Or.inr ⟨not_not.mp hqos, Or.inr rfl⟩⟩
            refine ⟨h.outbound.replace hproper, h.inbound, h.msgID_le, h.inflight_lt, ?_⟩
            dsimp only
            rw [Keyed.length_replace]
            exact h.length_lt

theorem handlePubrels (h : Numbered client) (msgId dup : ℕ) (busy : Bool) (rc : Rc Unit) :
    Numbered (client.handlePubrels msgId dup busy rc).1 := by
  unfold Clients.handlePubrels
  split
  · repeat' split
    all_goals exact h
  · repeat' split
    all_goals first
      | exact h
      | exact ⟨h.outbound, h.inbound.remove msgId, h.msgID_le, h.inflight_lt, h.length_lt⟩

theorem cycle (h : Numbered client) (pack : Packet) (busy : Bool) (clock : ℤ) (rc : Rc Unit) :
    Numbered (client.MQTTClientCycle pack busy clock rc).1 := by
  unfold MQTTClientCycle
  split
  · exact h.handlePublishes _ busy rc
  · split
    · exact h.handlePubacks _
    · exact h.handlePubcomps _
    · exact h.handlePubrecs _ clock rc
    · exact h.handlePubrels _ _ busy rc
    · exact h
  · exact h

end Numbered

/-- The connection leaves numbers free, and the quality of a publication is one of the protocol. -/
def Fair : ClientEvent → Prop
  | .connect options _ _ _ => options.maxInflight + 1 < MAX_MSG_ID
  | .publish _ _ qos _ _ _ _ => qos ≤ 2
  | .subscribe _ _ => True
  | .packet _ _ _ _ => True
  | .retry _ _ _ _ _ => True
  | .messageArrived _ => True
  | .disconnect => True

theorem Numbered.subscribe_cases {client : Clients} (h : Numbered client) (topics : List (List UInt8))
    (qoss : List ℕ) :
    client.MQTTClientSubscribeMany5 topics qoss = some (client, []) ∨
    ∃ msgid, msgid ≤ MAX_MSG_ID ∧ client.MQTTClientSubscribeMany5 topics qoss =
      some ({ client with msgID := msgid }, [.subscribing msgid]) := by
  unfold MQTTClientSubscribeMany5
  split
  · exact Or.inl rfl
  · obtain ⟨msgid, hassign, hrange, _⟩ := MQTTProtocolAssignMsgId_eq h.msgID_le h.length_lt
    refine Or.inr ⟨msgid, hrange.2, ?_⟩
    rw [hassign, Option.map_some]
    dsimp only
    rw [if_neg (Nat.ne_of_gt hrange.1)]

theorem Numbered.step {client : Clients} {event : ClientEvent} {next : Clients × List ClientSignal}
    (h : Numbered client) (hfair : Fair event) (hstep : client.step event = some next) : Numbered next.1 := by
  cases event with
  | connect options accepted clock rcs =>
      simp only [Clients.step] at hstep
      split at hstep
      · exact nomatch hstep
      · cases hstep
        exact h.connect accepted clock rcs hfair
  | publish topicName payload qos retained busy clock rc =>
      obtain ⟨code, _, heq⟩ | ⟨msgid, msgID, hmsgID, hrange, hfree, hlength, heq⟩ :=
        h.publish_cases topicName payload retained busy clock rc hfair
      · cases heq.symm.trans hstep
        exact h
      · cases heq.symm.trans hstep
        exact (h.assigned hmsgID).publishNumbered retained clock rc hfair hrange hfree hlength
  | subscribe topics qoss =>
      obtain heq | ⟨msgid, hmsgid, heq⟩ := h.subscribe_cases topics qoss
      · cases heq.symm.trans hstep
        exact h
      · cases heq.symm.trans hstep
        exact h.assigned hmsgid
  | packet pack busy clock rc =>
      cases hstep
      exact h.cycle pack busy clock rc
  | retry now doRetry busy clock rcs =>
      cases hstep
      exact h.retry now doRetry false busy clock rcs
  | messageArrived taken =>
      cases hstep
      unfold Clients.messageArrived
      split
      · exact h
      · split
        · exact h.touch rfl rfl h.msgID_le h.inflight_lt
        · exact h
  | disconnect =>
      cases hstep
      exact h.disconnect

/-- The signal that no number was left. -/
def exhausted : ClientSignal → Bool
  | .returned .maxMessagesInflight => true
  | _ => false

theorem any_exhausted_send (rc : Rc Unit) (pack : Outgoing) : (send rc pack).any exhausted = false := by
  cases rc <;> rfl

theorem any_exhausted_retriesLoop (due : Messages → Bool) (clock : ℤ) (rcs : ℕ → Rc Unit) (ms : List Messages) :
    (retriesLoop due clock rcs ms).2.1.any exhausted = false := by
  induction ms with
  | nil => rfl
  | cons m ms ih =>
      rw [retriesLoop]
      split
      · exact ih
      · dsimp only
        split
        · exact ih
        · split <;> rfl
        · rfl

theorem any_exhausted_retry (client : Clients) (now : ℤ) (doRetry regardless busy : Bool) (clock : ℤ)
    (rcs : ℕ → Rc Unit) :
    (client.MQTTProtocolRetry now doRetry regardless busy clock rcs).2.any exhausted = false := by
  unfold MQTTProtocolRetry retries
  repeat' split
  all_goals first
    | rfl
    | exact any_exhausted_retriesLoop _ clock rcs _

theorem any_exhausted_cycle (client : Clients) (pack : Packet) (busy : Bool) (clock : ℤ) (rc : Rc Unit) :
    (client.MQTTClientCycle pack busy clock rc).2.any exhausted = false := by
  unfold MQTTClientCycle handlePublishes handlePubacks handlePubcomps handlePubrecs handlePubrels
    processPublication
  repeat' split
  all_goals simp [any_exhausted_send, exhausted]

theorem any_exhausted_publishNumbered (client : Clients) (topic payload : List UInt8) (msgid qos retained : ℕ)
    (clock : ℤ) (rc : Rc Unit) :
    (client.publishNumbered topic payload msgid qos retained clock rc).2.any exhausted = false := by
  have hend : ∀ started : Clients, (started.endPublish qos rc).2.any exhausted = false := by
    intro started
    cases rc with
    | complete => rfl
    | interrupted => rfl
    | error =>
        by_cases hpos : 0 < qos <;> simp [endPublish, exhausted, hpos]
  unfold publishNumbered startPublish
  dsimp only
  split
  · rw [List.any_append, hend, Bool.or_false]
    exact any_exhausted_send rc _
  · rw [List.any_append, hend, Bool.or_false]
    exact any_exhausted_send rc _

theorem Numbered.any_exhausted {client : Clients} {event : ClientEvent} {next : Clients × List ClientSignal}
    (h : Numbered client) (hfair : Fair event) (hstep : client.step event = some next) :
    next.2.any exhausted = false := by
  cases event with
  | connect options accepted clock rcs =>
      simp only [Clients.step] at hstep
      split at hstep
      · exact nomatch hstep
      · cases hstep
        unfold MQTTClientConnect
        split
        · exact any_exhausted_retry _ 0 true true false clock rcs
        · rfl
  | publish topicName payload qos retained busy clock rc =>
      obtain ⟨code, hcode, heq⟩ | ⟨msgid, msgID, hmsgID, hrange, hfree, hlength, heq⟩ :=
        h.publish_cases topicName payload retained busy clock rc hfair
      · cases heq.symm.trans hstep
        cases code
        case maxMessagesInflight => exact absurd rfl hcode
        all_goals rfl
      · cases heq.symm.trans hstep
        exact any_exhausted_publishNumbered _ topicName payload msgid qos retained clock rc
  | subscribe topics qoss =>
      obtain heq | ⟨msgid, hmsgid, heq⟩ := h.subscribe_cases topics qoss
      · cases heq.symm.trans hstep
        rfl
      · cases heq.symm.trans hstep
        rfl
  | packet pack busy clock rc =>
      cases hstep
      exact any_exhausted_cycle client pack busy clock rc
  | retry now doRetry busy clock rcs =>
      cases hstep
      exact any_exhausted_retry client now doRetry false busy clock rcs
  | messageArrived taken =>
      cases hstep
      unfold Clients.messageArrived
      repeat' split
      all_goals rfl
  | disconnect =>
      cases hstep
      rfl

/-- The invariant of every run, with what the signals do not hold. -/
theorem numbered_run {events : List ClientEvent} {result : Clients × List ClientSignal}
    (hevents : ∀ event ∈ events, Fair event) (hrun : Runs.run step .init events = some result) :
    Numbered result.1 ∧ result.2.any exhausted = false :=
  Runs.run_invariant (G := fun _ event => Fair event)
    (P := fun _ signals client => Numbered client ∧ signals.any exhausted = false)
    ⟨Numbered.init, rfl⟩
    (fun _ _ _ _ _ h hfair hstep => ⟨h.1.step hfair hstep, by
      rw [List.any_append, h.2, h.1.any_exhausted hfair hstep]
      rfl⟩)
    (Runs.along_of_forall_mem hevents _) hrun

/-- In every run the messages on their way have different numbers, none of which is 0, and a number is
found whenever one is needed: the search ends, and the answer that too many messages are on their way
is never given. -/
theorem number_found (events : List ClientEvent) (client : Clients) (signals : List ClientSignal)
    (hevents : ∀ event ∈ events, Fair event) (hrun : Runs.run step .init events = some (client, signals)) :
    Keyed.Distinct Messages.msgid client.outboundMsgs ∧
      (∀ m ∈ client.outboundMsgs, 1 ≤ m.msgid ∧ m.msgid ≤ MAX_MSG_ID) ∧
      .returned .maxMessagesInflight ∉ signals ∧
      (∀ topicName payload qos retained busy clock rc, qos ≤ 2 →
        (client.MQTTClientPublish5 topicName payload qos retained busy clock rc).isSome) ∧
      ∀ topics qoss, (client.MQTTClientSubscribeMany5 topics qoss).isSome := by
  obtain ⟨hnumbered, hsignals⟩ := numbered_run hevents hrun
  dsimp only at hnumbered hsignals
  refine ⟨hnumbered.outbound.distinct, fun m hm => (hnumbered.outbound.proper m hm).1, ?_, ?_, ?_⟩
  · intro hmem
    rw [List.any_eq_false] at hsignals
    exact hsignals _ hmem rfl
  · intro topicName payload qos retained busy clock rc hqos
    obtain ⟨code, _, heq⟩ | ⟨msgid, msgID, _, _, _, _, heq⟩ :=
      hnumbered.publish_cases topicName payload retained busy clock rc hqos
    · rw [heq]
      rfl
    · rw [heq]
      rfl
  · intro topics qoss
    obtain heq | ⟨msgid, _, heq⟩ := hnumbered.subscribe_cases topics qoss
    · rw [heq]
      rfl
    · rw [heq]
      rfl

/-- A client that publishes, loses the connection and connects again. -/
theorem number_found_reconnected :
    ∃ client signals, Runs.run step .init
        [.connect ⟨false, 0, true, 0⟩ true 1 fun _ => .complete (),
          .publish [116] [1] 2 0 false 2 (.complete ()), .publish [116] [2] 1 0 false 3 (.complete ()), .disconnect,
          .connect ⟨false, 0, false, 0⟩ true 4 fun _ => .complete (),
          .publish [116] [2] 1 0 false 5 (.complete ())] = some (client, signals) ∧
      client.outboundMsgs.map Messages.msgid = [1, 2] ∧
      Keyed.Distinct Messages.msgid client.outboundMsgs := by
  have hrun : (Runs.run step .init
      [.connect ⟨false, 0, true, 0⟩ true 1 fun _ => .complete (),
        .publish [116] [1] 2 0 false 2 (.complete ()), .publish [116] [2] 1 0 false 3 (.complete ()), .disconnect,
        .connect ⟨false, 0, false, 0⟩ true 4 fun _ => .complete (),
        .publish [116] [2] 1 0 false 5 (.complete ())]).map
      (fun result => result.1.outboundMsgs.map Messages.msgid) = some [1, 2] := by
    decide +kernel
  obtain ⟨⟨client, signals⟩, hrun, hids⟩ := Option.map_eq_some_iff.mp hrun
  refine ⟨client, signals, hrun, hids, (number_found _ client signals (fun event hmem => ?_) hrun).1⟩
  simp only [List.mem_cons, List.not_mem_nil, or_false] at hmem
  rcases hmem with rfl | rfl | rfl | rfl | rfl | rfl <;> simp [Fair, ConnectOptions.maxInflight, MAX_MSG_ID]

end Clients

end LinuxGateway.Paho
