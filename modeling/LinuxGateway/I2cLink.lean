import LinuxGateway.I2cNode
import LinuxGateway.JsonC
import Mathlib.Data.Bool.AllAny

/-! The I2C link: the requests of the gateway (`clientI2C.c`), cut into bus transfers in any way, the
answers of the node, and what the gateway takes them for. -/

namespace LinuxGateway

open Bytes

inductive I2cRequest where
  | key
  | data
  deriving DecidableEq

namespace I2cRequest

/-- `requestkey` and `requestData`. -/
def bytes : I2cRequest → List UInt8
  | .key => ascii "1997."
  | .data => ascii "da*"

/-- The requests of a stream that its first `n` bytes complete. -/
def completed : List I2cRequest → ℕ → List I2cRequest
  | [], _ => []
  | request :: requests, n =>
      if request.bytes.length ≤ n then request :: completed requests (n - request.bytes.length) else []

/-- The `keynode` in the answer to a request; before any request the node answers as to a key
request. -/
def keynode : Option I2cRequest → ℤ
  | none | some .key => 97
  | some .data => 99

end I2cRequest

/-! ### The node's side -/

namespace I2cNode

def flagOf : I2cRequest → ℕ
  | .key => 0
  | .data => 1

def received (events : List I2cEvent) : List UInt8 :=
  events.flatMap fun
    | .receive bytes => bytes
    | .request => []

theorem Awaits.receive_request {node : I2cNode} {flag : ℕ} (h : node.Awaits [] flag)
    (request : I2cRequest) :
    ∃ next, node.receiveEvent request.bytes = some next ∧ next.Awaits [] (flagOf request) := by
  cases request with
  | key =>
      have hword : ∀ c ∈ ascii "1997", c ≠ 46 ∧ c ≠ 42 := List.all_iff_forall_prop.mp (by decide)
      obtain ⟨middle, hmiddle, hawaits⟩ := h.receiveEvent_plain hword (by decide)
      obtain ⟨next, hnext, hready⟩ := hawaits.receiveByte_dot (by decide)
      refine ⟨next, ?_, hready⟩
      show node.receiveEvent (ascii "1997" ++ [46]) = some next
      rw [receiveEvent_append, hmiddle, Option.bind_some, receiveEvent, hnext]
      rfl
  | data =>
      have hword : ∀ c ∈ ascii "da", c ≠ 46 ∧ c ≠ 42 := List.all_iff_forall_prop.mp (by decide)
      obtain ⟨middle, hmiddle, hawaits⟩ := h.receiveEvent_plain hword (by decide)
      obtain ⟨next, hnext, hready⟩ := hawaits.receiveByte_star (by decide)
      refine ⟨next, ?_, hready⟩
      show node.receiveEvent (ascii "da" ++ [42]) = some next
      rw [receiveEvent_append, hmiddle, Option.bind_some, receiveEvent, hnext]
      rfl

/-- A request that is not complete has no terminator yet, and changes no flag. -/
theorem Awaits.receive_part {node : I2cNode} {flag : ℕ} (h : node.Awaits [] flag)
    {request : I2cRequest} {part : List UInt8} (hpart : part <+: request.bytes)
    (hlt : part.length < request.bytes.length) :
    ∃ next, node.receiveEvent part = some next ∧ next.Awaits part flag := by
  have hword : ∀ (request : I2cRequest), ∀ c ∈ request.bytes.dropLast, c ≠ 46 ∧ c ≠ 42 := by
    intro request
    cases request <;> exact List.all_iff_forall_prop.mp (by decide)
  have hlen : ∀ request : I2cRequest, request.bytes.length ≤ 5 := by
    intro request
    cases request <;> decide
  have hinner : part = request.bytes.dropLast.take part.length := by
    rw [List.dropLast_eq_take, List.take_take, Nat.min_eq_left (by omega)]
    exact List.prefix_iff_eq_take.mp hpart
  have hplain : ∀ c ∈ part, c ≠ 46 ∧ c ≠ 42 := by
    intro c hc
    rw [hinner] at hc
    exact hword request c (List.mem_of_mem_take hc)
  apply h.receiveEvent_plain hplain
  have hrequest := hlen request
  rw [List.length_nil]
  omega

/-- The last completed request decides the flag, whatever part of the next one has arrived. -/
theorem Awaits.receive_stream {node : I2cNode} {flag : ℕ} (h : node.Awaits [] flag)
    (requests : List I2cRequest) {stream : List UInt8}
    (hstream : stream <+: requests.flatMap I2cRequest.bytes) :
    ∃ next part, node.receiveEvent stream = some next ∧
      next.Awaits part (((I2cRequest.completed requests stream.length).getLast?.map flagOf).getD flag) := by
  induction requests generalizing node flag stream with
  | nil =>
      obtain rfl := List.prefix_nil.mp hstream
      exact ⟨node, [], rfl, h⟩
  | cons request requests ih =>
      rw [List.flatMap_cons] at hstream
      rw [I2cRequest.completed]
      split
      · rename_i hle
        obtain ⟨rest, rfl⟩ : request.bytes <+: stream :=
          List.prefix_of_prefix_length_le (List.prefix_append _ _) hstream hle
        obtain ⟨middle, hmiddle, hready⟩ := h.receive_request request
        obtain ⟨next, part, hnext, hawaits⟩ := ih hready ((List.prefix_append_right_inj _).mp hstream)
        refine ⟨next, part, ?_, ?_⟩
        · rw [receiveEvent_append, hmiddle]
          exact hnext
        · rw [List.length_append, Nat.add_sub_cancel_left, List.getLast?_cons]
          cases hlast : (I2cRequest.completed requests rest.length).getLast? with
          | none =>
              rw [hlast] at hawaits
              exact hawaits
          | some last =>
              rw [hlast] at hawaits
              exact hawaits
      · rename_i hlt
        obtain ⟨next, hnext, hawaits⟩ := h.receive_part
          (List.prefix_of_prefix_length_le hstream (List.prefix_append _ _) (by omega)) (by omega)
        exact ⟨next, stream, hnext, hawaits⟩

/-- A read leaves the node as it is. -/
theorem Awaits.requestEvent_eq {node : I2cNode} {part : List UInt8} {flag : ℕ}
    (h : node.Awaits part flag) :
    node.requestEvent = (node, println (appendKeynode [] (if flag = 0 then 97 else 99))) := by
  have hcleared : { node with stringData := [] } = node := by rw [← h.stringData]
  rw [requestEvent, hcleared, h.flag, h.stringDetect, h.stringData]
  split <;> rfl

theorem received_append (events events' : List I2cEvent) :
    received (events ++ events') = received events ++ received events' := List.flatMap_append

/-- Only the bytes count, not how they were cut nor the reads in between. -/
theorem run_setup (requests : List I2cRequest) (events : List I2cEvent)
    (hreceived : received events <+: requests.flatMap I2cRequest.bytes) :
    ∃ node responses, Runs.run step setup events = some (node, responses) ∧
      setup.receiveEvent (received events) = some node := by
  induction events using List.reverseRecOn with
  | nil => exact ⟨setup, [], rfl, rfl⟩
  | append_singleton events event ih =>
      have hbefore : received events <+: requests.flatMap I2cRequest.bytes :=
        List.IsPrefix.trans ⟨received [event], (received_append events [event]).symm⟩ hreceived
      obtain ⟨node, responses, hrun, hnode⟩ := ih hbefore
      obtain ⟨next, part, hnext, hawaits⟩ := awaits_setup.receive_stream requests hreceived
      cases event with
      | receive bytes =>
          have hbytes : received (events ++ [.receive bytes]) = received events ++ bytes := by
            simp [received]
          have hstep : node.receiveEvent bytes = some next := by
            rw [hbytes, receiveEvent_append, hnode] at hnext
            exact hnext
          refine ⟨next, responses ++ [], ?_, hnext⟩
          refine Runs.run_snoc_eq_some.mpr ⟨_, (next, []), hrun, ?_, rfl⟩
          rw [step, hstep]
          rfl
      | request =>
          have hsame : received (events ++ [.request]) = received events := by simp [received]
          rw [hsame] at hnext ⊢
          obtain rfl := Option.some.inj (hnode.symm.trans hnext)
          refine ⟨node, responses ++ [node.requestEvent.2], ?_, hnext⟩
          refine Runs.run_snoc_eq_some.mpr ⟨_, (node, [node.requestEvent.2]), hrun, ?_, rfl⟩
          rw [step, hawaits.requestEvent_eq]

end I2cNode

/-! ### The gateway's side -/

inductive I2cAnswer where
  | detected
  | sendData
  deriving DecidableEq

namespace I2cClient

def checkKey : ℤ := 97

def checkData : ℤ := 99

/-- What `threadfunction2` does with the text that the parser gets. -/
def classify (json : JsonC) (recevie : List UInt8) : List I2cAnswer :=
  let parsedJson := json.parse recevie
  let keynode := json.objectGetEx parsedJson (ascii "keynode")
  let checkResponse := json.getInt keynode
  (if checkResponse = checkKey then [.detected] else []) ++
    (if checkResponse = checkData then [.sendData] else [])

/-- One pass of the loop `while (a)` whose `read` delivers these bytes into the cleared `recevie`. With no
NUL in `recevie`, the parser does not get a string. -/
def readAnswer (json : JsonC) (received : List UInt8) : Option (List I2cAnswer) :=
  ((Buffer.zero 50).write 0 received).bind fun recevie =>
    (cString recevie.bytes).map (classify json)

/-- What the gateway does on the answer to a request. -/
def answer : Option I2cRequest → I2cAnswer
  | none | some .key => .detected
  | some .data => .sendData

theorem classify_of_hasInteger {json : JsonC} {text : List UInt8} (request : Option I2cRequest)
    (h : json.HasInteger text (ascii "keynode") (I2cRequest.keynode request)) :
    classify json text = [answer request] := by
  have hrange : -2147483648 < I2cRequest.keynode request ∧ I2cRequest.keynode request < 2147483647 ∧
      I2cRequest.keynode request ≠ 0 := by
    rcases request with _ | _ | _ <;> decide
  have hvalue := (json.getInt_eq_iff hrange.2.2 hrange.1 hrange.2.1).mpr (Or.inl h)
  unfold classify
  dsimp only
  rw [hvalue]
  rcases request with _ | _ | _ <;> rfl

end I2cClient

/-- The text that the node sends before the line end. -/
def keynodeText (request : Option I2cRequest) : List UInt8 :=
  match request with
  | none | some .key => ascii "\x7b\"keynode\":97\x7d"
  | some .data => ascii "\x7b\"keynode\":99\x7d"

theorem appendKeynode_keynode (request : Option I2cRequest) :
    I2cNode.appendKeynode [] (I2cRequest.keynode request) = keynodeText request := by
  rcases request with _ | _ | _ <;> decide

/-- A read that leaves a NUL in `recevie` hands over its own text. -/
theorem I2cClient.readAnswer_eq (json : JsonC) {received : List UInt8} (hlen : received.length ≤ 50)
    (hterminated : received.length < 50 ∨ 0 ∈ received) :
    readAnswer json received = some (classify json (textOf received)) := by
  obtain ⟨recevie, hwrite, hbytes⟩ := (Buffer.zero 50).exists_write 0 received (by omega)
  have hfilled : recevie.Filled received := Buffer.filled_iff_overlay.mpr hbytes
  rw [readAnswer, hwrite, Option.bind_some, hfilled.cString_eq_ite, if_pos hterminated, Option.map_some]

theorem noNul_println_keynodeText (request : Option I2cRequest) :
    NoNul (I2cNode.println (keynodeText request)) := by
  rcases request with _ | _ | _ <;> decide

/-- Every answer is the answer to the last request that was received completely, and the gateway
takes it for that. Behind the answer a read may deliver anything. -/
theorem I2cNode.answers_last_request (json : JsonC)
    (hjson : ∀ request tail,
      json.HasInteger (keynodeText request ++ tail) (ascii "keynode") (I2cRequest.keynode request))
    (requests : List I2cRequest) (events : List I2cEvent)
    (hreceived : I2cNode.received events <+: requests.flatMap I2cRequest.bytes) :
    ∃ node responses response,
      Runs.run I2cNode.step I2cNode.setup (events ++ [.request]) =
        some (node, responses ++ [response]) ∧
      response = I2cNode.println (keynodeText
        (I2cRequest.completed requests (I2cNode.received events).length).getLast?) ∧
      (∀ tail, I2cClient.classify json (response ++ tail) = [I2cClient.answer
        (I2cRequest.completed requests (I2cNode.received events).length).getLast?]) ∧
      ∀ tail, (response ++ tail).length ≤ 50 → (response ++ tail).length < 50 ∨ 0 ∈ tail →
        I2cClient.readAnswer json (response ++ tail) = some [I2cClient.answer
          (I2cRequest.completed requests (I2cNode.received events).length).getLast?] := by
  obtain ⟨node, responses, hrun, hnode⟩ := I2cNode.run_setup requests events hreceived
  obtain ⟨next, part, hnext, hawaits⟩ := I2cNode.awaits_setup.receive_stream requests hreceived
  obtain rfl := Option.some.inj (hnode.symm.trans hnext)
  generalize (I2cRequest.completed requests (I2cNode.received events).length).getLast? = last at hawaits ⊢
  have hresponse : node.requestEvent = (node, I2cNode.println (keynodeText last)) := by
    rw [hawaits.requestEvent_eq, ← appendKeynode_keynode]
    rcases last with _ | _ | _ <;> rfl
  have hclassify : ∀ tail, I2cClient.classify json (I2cNode.println (keynodeText last) ++ tail) =
      [I2cClient.answer last] := by
    intro tail
    apply I2cClient.classify_of_hasInteger
    rw [I2cNode.println, List.append_assoc]
    exact hjson last _
  refine ⟨node, responses, I2cNode.println (keynodeText last), ?_, rfl, hclassify, ?_⟩
  · refine Runs.run_snoc_eq_some.mpr ⟨_, _, hrun, rfl, ?_⟩
    rw [hresponse]
  · intro tail hlen hterminated
    rw [I2cClient.readAnswer_eq json hlen (hterminated.imp_right (List.mem_append_right _)),
      textOf_append (noNul_println_keynodeText last), hclassify]

/-- A parser that knows the two answers. -/
def keynodeJson : JsonC :=
  JsonC.table (ascii "keynode") [(keynodeText none, 97), (keynodeText (some .data), 99)]

theorem hasInteger_keynodeJson (request : Option I2cRequest) (tail : List UInt8) :
    keynodeJson.HasInteger (keynodeText request ++ tail) (ascii "keynode")
      (I2cRequest.keynode request) := by
  refine ⟨.number (I2cRequest.keynode request), ?_, rfl⟩
  rcases request with _ | _ | _ <;> rfl

/-- A key request and a data request in three transfers, with a read after each. -/
theorem I2cNode.answers_cut_requests :
    ∃ node responses response,
      Runs.run I2cNode.step I2cNode.setup ([.receive (ascii "199"), .request,
        .receive (ascii "7.d"), .request, .receive (ascii "a*")] ++ [.request]) =
        some (node, responses ++ [response]) ∧
      response = I2cNode.println (keynodeText (some .data)) ∧
      (∀ tail, I2cClient.classify keynodeJson (response ++ tail) = [.sendData]) ∧
      ∀ tail, (response ++ tail).length ≤ 50 → (response ++ tail).length < 50 ∨ 0 ∈ tail →
        I2cClient.readAnswer keynodeJson (response ++ tail) = some [.sendData] :=
  I2cNode.answers_last_request keynodeJson hasInteger_keynodeJson [.key, .data] _ (by decide)

end LinuxGateway
