import LinuxGateway.RfLink

/-! The messages of the NRF node through the registers of both chips. What the service does with them is
what it does on top of `writePayload`, which knows no registers. -/

namespace LinuxGateway

open Bytes

/-- What a message of the node comes to: what its `radio.write` returns, what the gateway publishes and
what its `nrfbuff` holds. -/
structure Delivery where
  returned : Bool
  published : List RadioOutput
  nrfbuff : Buffer 50

/-- One message from the node to the gateway, its write successful. -/
def NrfNode.deliver {json : JsonC} : Runs.Step (NrfNode × RadioGlobals json) (List UInt8) Delivery :=
  fun state stringData =>
    (state.1.transmit stringData).bind fun sent =>
      (state.2.receiveRf24 sent.2).map fun next => ((sent.1, next.1), [⟨true, next.2, next.1.nrfbuff⟩])

namespace RfDriver

open Scripts

def memoryOf (bytes : List UInt8) : Memory := fun i => (bytes.map UInt8.toBitVec).getD i 0

/-- A payload that `radio.read` has stored. -/
def bufferOf (payload : List Byte) : Option (Buffer payloadSize) :=
  if h : payload.length = payloadSize then
    some ⟨payload.map UInt8.ofBitVec, by rw [List.length_map, h]⟩
  else none

structure Sending where
  text : List UInt8
  attempts : List Attempt
  polls : ℕ
  through : GetsThrough (attempts.take 16)

namespace Link

variable (checksum : Frame → BitVec 16)

/-- One write of the node and one pass of the receive loop, with what the write returns and what is
read. -/
def relay (link : Link) (buf : Memory) (len : Byte) (attempts : List Attempt) (polls : ℕ) :
    Option (Link × Bool × List Byte) :=
  (step checksum link (.write buf len attempts polls)).bind fun written =>
    (step checksum written.1 .available).bind fun polled =>
      (step checksum polled.1 .read).bind fun result =>
        match written.2, result.2 with
        | [.put _ ok _], [.get bytes] => some (result.1, ok, bytes)
        | _, _ => none

variable {json : JsonC}

/-- One message of the node, through both chips to the end of the receive loop's body. -/
def sendMessage : Runs.Step (Link × NrfNode × RadioGlobals json) Sending Delivery :=
  fun state sending =>
    (NrfNode.toCharArray state.2.1.data sending.text).bind fun data =>
      (state.1.relay checksum (memoryOf data.bytes) 255 sending.attempts sending.polls).bind fun relayed =>
        (bufferOf relayed.2.2).bind fun payload =>
          (state.2.2.receiveRf24 payload).map fun next =>
            ((relayed.1, { state.2.1 with data := Buffer.fill 255 0 }, next.1),
              [⟨relayed.2.1, next.2, next.1.nrfbuff⟩])

/-- The gateway is in its slot and has read everything, and its chip takes the next payload for a new
one. -/
structure Waiting (node₀ gateway₀ : Nrf24) (link : Link) : Prop where
  sound : ∃ signals, Sound checksum node₀ gateway₀ signals link
  inSlot : link.inSlot = true
  found : link.found = false
  empty : link.gateway.rxFifo = []
  fresh : ∀ payload,
    link.gateway.last ≠ some (link.node.pid, checksum (frameOf node₀ link.node.pid payload))

variable {checksum} {node₀ gateway₀ : Nrf24} {link : Link}

/-- The payload is found and read, and the gateway is waiting for the next one. -/
theorem Waiting.relay (h : Waiting checksum node₀ gateway₀ link)
    (hwidth : node₀.regs SETUP_AW &&& 3 = gateway₀.regs SETUP_AW &&& 3) (buf : Memory) (len : Byte)
    {attempts : List Attempt} (hthrough : GetsThrough (attempts.take 16)) (polls : ℕ) :
    ∃ next, link.relay checksum buf len attempts polls =
        some (next, true, payloadOf link.nodeRadio buf len) ∧
      Waiting checksum node₀ gateway₀ next := by
  obtain ⟨signals, hsound⟩ := h.sound
  obtain ⟨node, hwrite, hpid⟩ :=
    hsound.deliver h.inSlot (by rw [h.empty]; decide) hwidth buf len hthrough polls
  obtain ⟨written, out, hwrite', hwritten⟩ := hsound.write buf len attempts polls
  obtain ⟨rfl, rfl⟩ := Prod.mk.inj (Option.some.inj (hwrite.symm.trans hwrite'))
  have hlast : (link.gateway.take checksum
      (frameOf node₀ link.node.pid (payloadOf link.nodeRadio buf len)) 0).last = some (link.node.pid, _) := rfl
  have hfifo : (link.gateway.take checksum
      (frameOf node₀ link.node.pid (payloadOf link.nodeRadio buf len)) 0).rxFifo =
        [(0, payloadOf link.nodeRadio buf len)] := by
    show link.gateway.rxFifo ++ [(0, payloadOf link.nodeRadio buf len)] = _
    rw [h.empty, List.nil_append]
  have hnew : ¬link.gateway.last = some ((frameOf node₀ link.node.pid (payloadOf link.nodeRadio buf len)).number,
      checksum (frameOf node₀ link.node.pid (payloadOf link.nodeRadio buf len))) := h.fresh _
  rw [if_neg hnew] at hwrite hwritten
  generalize link.gateway.take checksum (frameOf _ _ _) 0 = gateway at hwrite hwritten hlast hfifo
  -- The loop finds the payload,
  have havailable : step checksum { link with node, gateway } .available =
      some ({ link with node, gateway, found := true }, []) := by
    have hready : link.inSlot = true ∧ ¬link.found = true := by
      rw [h.inSlot, h.found]
      decide
    simp only [step, if_pos hready, run_available, hfifo, List.isEmpty_cons, Bool.not_false]
  have hpolled := hwritten.available havailable
  -- and reads it.
  have hlen := hwritten.lengths _ (by rw [hfifo]; exact List.mem_cons_self)
  have hread : ∃ chip, step checksum { link with node, gateway, found := true } .read =
      some ({ link with node, gateway := chip, found := false },
        [.get (payloadOf link.nodeRadio buf len)]) ∧ chip.rxFifo = [] ∧ chip.last = gateway.last := by
    simp only [step, if_true, run_read gateway hwritten.radio.payloadSize hwritten.radio.static hfifo hlen]
    exact ⟨_, rfl, rfl, rfl⟩
  obtain ⟨chip, hresult, hempty, hkept⟩ := hread
  refine ⟨_, ?_, ⟨⟨_, hpolled.read hresult⟩, h.inSlot, rfl, hempty, fun payload hsame => ?_⟩⟩
  · rw [Link.relay, hwrite, Option.bind_some, havailable, Option.bind_some, hresult]
    rfl
  · -- The number of the next payload is another one.
    obtain ⟨heq, _⟩ := Prod.mk.inj (Option.some.inj (hlast.symm.trans (hkept.symm.trans hsame)))
    have hnext : ∀ number : BitVec 2, number ≠ number + 1 := by decide
    exact hnext _ (heq.trans hpid)

end Link

end RfDriver

end LinuxGateway
