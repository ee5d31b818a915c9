import LinuxGateway.DataRecord
import LinuxGateway.JsonC
import LinuxGateway.LibRuns
import LinuxGateway.Mqtt
import Mathlib.Data.List.Pairwise

/-! The LoRa receive path of the radio service: the interrupt handler of the driver (`LoRa.c`), which
copies a packet into the one receive buffer, and the callback `rx_f` (`lora_rf24_receive.cpp`), which
publishes what the buffer holds and forwards packets of the expected node. Every SPI transfer
succeeds here, and a callback has finished before the next packet arrives. -/

namespace LinuxGateway

open Bytes

def IRQ_RXDONE : BitVec 8 := 0x40

def idLora : ℤ := 95

/-- The registers of the radio chip that the handler reads. `fifo` is what a burst read of `REG_FIFO`
returns from the start address of the current packet on. -/
structure LoraChip where
  irqFlags : BitVec 8
  rxNbBytes : UInt8
  fifo : List UInt8

/-- A packet on the air: at most 255 bytes. -/
structure LoraPacket where
  bytes : List UInt8
  length_le : bytes.length ≤ 255
  deriving DecidableEq

/-- The chip when it raises the interrupt for a packet. -/
def LoraPacket.received (packet : LoraPacket) : LoraChip where
  irqFlags := IRQ_RXDONE
  rxNbBytes := UInt8.ofNat packet.bytes.length
  fifo := packet.bytes

/-- The fields of `LoRa_ctl` that the receive path uses; `buf` is the array `lorabuff` that
`rx.data.buf` points to. -/
structure Modem where
  implicitHeader : Bool
  payloadLen : UInt8
  buf : Buffer 255
  size : UInt8

/-- `memset(buff, 0, size); ret = spiXfer(spid, tx, rx, size + 1); memcpy(buff, &rx[1], ret - 1);` -/
def loraRegReadBytes (buff : Buffer 255) (fifo : List UInt8) (size : UInt8) : Option (Buffer 255) :=
  (buff.write 0 (List.replicate size.toNat 0)).bind fun cleared =>
    cleared.write 0 (fifo.take size.toNat)

/-- The handler of the rising edge on DIO0. The result tells whether it started a callback thread. -/
def rxDoneISRf (modem : Modem) (chip : LoraChip) : Option (Modem × Bool) :=
  if chip.irqFlags &&& IRQ_RXDONE ≠ 0 then
    let size := if modem.implicitHeader then modem.payloadLen else chip.rxNbBytes
    (loraRegReadBytes modem.buf chip.fifo size).map fun buf =>
      ({ modem with buf := buf, size := size }, true)
  else some (modem, false)

/-- The globals of the radio service that its two receive paths work on. -/
structure RadioGlobals (json : JsonC) where
  modem : Modem
  parsedJson : Option json.Value
  idNode : Option json.Value
  checkResponse : ℤ
  nrfbuff : Buffer 50
  countLora : ℕ
  count : ℕ
  data : Data

inductive RadioOutput where
  | publish (message : Message)
  | send (data : Data)

namespace RadioGlobals

variable {json : JsonC}

/-- `main` configures explicit-header mode; the arrays and the counters are zero. -/
def init (json : JsonC) : RadioGlobals json where
  modem := { implicitHeader := false, payloadLen := 0, buf := Buffer.zero 255, size := 0 }
  parsedJson := none
  idNode := none
  checkResponse := 0
  nrfbuff := Buffer.zero 50
  countLora := 0
  count := 0
  data := Buffer.zero sizeofData

/-- The callback. It publishes first; the identity check only decides about the record. -/
def rxF (globals : RadioGlobals json) : Option (RadioGlobals json × List RadioOutput) :=
  (publishMess .dataLora globals.modem.buf.bytes).bind fun message =>
    -- `publish_mess` found the end of the string, so the other readers of it find the same text
    let text := message.payload
    let parsedJson := json.parse text
    let idNode := json.objectGetEx parsedJson (ascii "id")
    let checkResponse := json.getInt idNode
    let checked := { globals with parsedJson, idNode, checkResponse }
    if checkResponse = idLora then
      (globals.data.fillLora text).map fun data =>
        ({ checked with countLora := globals.countLora + 1, data := data }, [.publish message, .send data])
    else some (checked, [.publish message])

/-- One packet from the interrupt to the end of the callback. -/
def receivePacket : Runs.Step (RadioGlobals json) LoraPacket RadioOutput := fun globals packet =>
  (rxDoneISRf globals.modem packet.received).bind fun handled =>
    let globals := { globals with modem := handled.1 }
    if handled.2 then globals.rxF else some (globals, [])

end RadioGlobals

/-- The payloads that were published on a topic. -/
def payloadsOn (topic : Topic) (outputs : List RadioOutput) : List (List UInt8) :=
  outputs.filterMap fun
    | .publish message => if message.topic = topic then some message.payload else none
    | .send _ => none

/-! ### What the buffer holds -/

/-- A burst read writes over the start of the buffer and leaves the rest. -/
theorem loraRegReadBytes_eq_some (buff : Buffer 255) {fifo : List UInt8} {size : UInt8}
    (hfifo : fifo.length = size.toNat) (hle : fifo.length ≤ 255) :
    ∃ result, loraRegReadBytes buff fifo size = some result ∧
      result.bytes = fifo ++ buff.bytes.drop fifo.length := by
  have hzeros : (List.replicate size.toNat (0 : UInt8)).length = fifo.length := by
    rw [List.length_replicate, hfifo]
  obtain ⟨cleared, hcleared, hclearedBytes⟩ := buff.exists_write 0 (List.replicate size.toNat 0)
    (by omega)
  obtain ⟨result, hresult, hresultBytes⟩ := cleared.exists_write 0 fifo (by omega)
  refine ⟨result, ?_, ?_⟩
  · rw [loraRegReadBytes, hcleared, ← hfifo, List.take_length]
    exact hresult
  · rw [hresultBytes, hclearedBytes, overlay_zero, overlay_zero, hzeros, List.drop_append, hzeros,
      List.drop_eq_nil_of_le (by omega), List.nil_append, Nat.sub_self, List.drop_zero]

theorem rxDoneISRf_received {modem : Modem} (hexplicit : modem.implicitHeader = false)
    (packet : LoraPacket) :
    ∃ handled, rxDoneISRf modem packet.received = some (handled, true) ∧
      handled.implicitHeader = false ∧
      handled.buf.bytes = packet.bytes ++ modem.buf.bytes.drop packet.bytes.length := by
  have hsize : packet.bytes.length = (UInt8.ofNat packet.bytes.length).toNat := by
    have := packet.length_le
    rw [UInt8.toNat_ofNat']
    omega
  obtain ⟨buf, hbuf, hbytes⟩ := loraRegReadBytes_eq_some modem.buf hsize packet.length_le
  refine ⟨{ modem with buf := buf, size := UInt8.ofNat packet.bytes.length }, ?_, hexplicit, hbytes⟩
  have hflag : packet.received.irqFlags &&& IRQ_RXDONE ≠ 0 := by
    show IRQ_RXDONE &&& IRQ_RXDONE ≠ 0
    decide
  rw [rxDoneISRf, if_pos hflag, hexplicit]
  show (loraRegReadBytes modem.buf packet.bytes (UInt8.ofNat packet.bytes.length)).map _ = _
  rw [hbuf]
  rfl

namespace RadioGlobals

variable {json : JsonC}

/-- The buffer holds a text and nothing but zeros behind it. -/
structure Holds (globals : RadioGlobals json) (held : List UInt8) : Prop where
  explicit : globals.modem.implicitHeader = false
  bytes : globals.modem.buf.bytes = held ++ List.replicate (255 - held.length) 0
  noNul : NoNul held

theorem Holds.filled {globals : RadioGlobals json} {held : List UInt8} (h : globals.Holds held) :
    globals.modem.buf.Filled held := h.bytes

theorem holds_init (json : JsonC) : (init json).Holds [] :=
  ⟨rfl, rfl, fun _ hb => absurd hb List.not_mem_nil⟩

/-- The callback publishes the string in the buffer, whatever json-c makes of it. The record stays as
it is, or is filled with that string. -/
theorem rxF_of_cString {globals : RadioGlobals json} {text : List UInt8}
    (htext : cString globals.modem.buf.bytes = some text) :
    ∃ next, globals.rxF = some next ∧ next.1.modem = globals.modem ∧
      payloadsOn .dataLora next.2 = [text] ∧
      (next.1.data = globals.data ∨ globals.data.fillLora text = some next.1.data) := by
  have hlen : text.length ≤ 254 := Nat.le_of_lt_succ (Buffer.length_lt_of_cString htext)
  obtain ⟨data, hdata, _⟩ := Data.fill_eq_some globals.data .kLora .lora hlen
  have hfill : globals.data.fillLora text = some data := hdata
  unfold rxF publishMess
  simp only [htext, Option.map_some, Option.bind_some, hfill]
  split
  · exact ⟨_, rfl, rfl, rfl, Or.inr rfl⟩
  · exact ⟨_, rfl, rfl, rfl, Or.inl rfl⟩

theorem rxF_of_unterminated {globals : RadioGlobals json}
    (h : cString globals.modem.buf.bytes = none) : globals.rxF = none := by
  simp [rxF, publishMess, h]

/-- A packet that started a thread is handled by the callback on the modem the handler left. -/
theorem receivePacket_eq_rxF {globals : RadioGlobals json} {packet : LoraPacket} {handled : Modem}
    (hisr : rxDoneISRf globals.modem packet.received = some (handled, true)) :
    globals.receivePacket packet = ({ globals with modem := handled } : RadioGlobals json).rxF := by
  rw [receivePacket, hisr]
  rfl

section Packet

variable {globals : RadioGlobals json} (hexplicit : globals.modem.implicitHeader = false)
  {packet : LoraPacket}

include hexplicit

/-- A packet that leaves a string in the buffer: the string is published. -/
theorem receivePacket_of_cString {text : List UInt8}
    (htext : cString (packet.bytes ++ globals.modem.buf.bytes.drop packet.bytes.length) = some text) :
    ∃ next, globals.receivePacket packet = some next ∧ next.1.modem.implicitHeader = false ∧
      next.1.modem.buf.bytes = packet.bytes ++ globals.modem.buf.bytes.drop packet.bytes.length ∧
      payloadsOn .dataLora next.2 = [text] ∧
      (next.1.data = globals.data ∨ globals.data.fillLora text = some next.1.data) := by
  obtain ⟨handled, hisr, hhandled, hbuf⟩ := rxDoneISRf_received hexplicit packet
  rw [← hbuf] at htext
  have hcString : cString ({ globals with modem := handled } : RadioGlobals json).modem.buf.bytes =
      some text := htext
  obtain ⟨next, hnext, hmodem, hpayload, hdata⟩ := rxF_of_cString hcString
  refine ⟨next, (receivePacket_eq_rxF hisr).trans hnext, ?_, ?_, hpayload, hdata⟩
  · rw [hmodem]
    exact hhandled
  · rw [hmodem]
    exact hbuf

theorem receivePacket_of_unterminated
    (h : cString (packet.bytes ++ globals.modem.buf.bytes.drop packet.bytes.length) = none) :
    globals.receivePacket packet = none := by
  obtain ⟨handled, hisr, _, hbuf⟩ := rxDoneISRf_received hexplicit packet
  rw [receivePacket_eq_rxF hisr]
  apply rxF_of_unterminated
  show cString handled.buf.bytes = none
  rw [hbuf]
  exact h

end Packet

/-- What the buffer holds after a packet: the packet, then what an earlier, longer one left. -/
def heldAfter (held : List UInt8) (packet : LoraPacket) : List UInt8 :=
  packet.bytes ++ held.drop packet.bytes.length

theorem length_heldAfter (held : List UInt8) (packet : LoraPacket) :
    (heldAfter held packet).length = max packet.bytes.length held.length := by
  rw [heldAfter, List.length_append, List.length_drop]
  omega

theorem heldAfter_eq_self {held : List UInt8} {packet : LoraPacket} :
    heldAfter held packet = packet.bytes ↔ held.length ≤ packet.bytes.length := by
  rw [heldAfter, List.append_right_eq_self, List.drop_eq_nil_iff]

/-- One packet: what is published is what the buffer then holds, if a zero is left behind it. -/
theorem receivePacket_holds {globals : RadioGlobals json} {held : List UInt8} (h : globals.Holds held)
    {packet : LoraPacket} (hno : NoNul packet.bytes) :
    if (heldAfter held packet).length ≤ 254 then
      ∃ next, globals.receivePacket packet = some next ∧ next.1.Holds (heldAfter held packet) ∧
        payloadsOn .dataLora next.2 = [heldAfter held packet]
    else globals.receivePacket packet = none := by
  have hpacket := packet.length_le
  have hheld := h.filled.length_le
  have hlen := length_heldAfter held packet
  have hnew : NoNul (heldAfter held packet) :=
    noNul_append hno fun b hb => h.noNul b (List.mem_of_mem_drop hb)
  have hbuf : packet.bytes ++ globals.modem.buf.bytes.drop packet.bytes.length =
      heldAfter held packet ++ List.replicate (255 - (heldAfter held packet).length) 0 := by
    rw [h.bytes, List.drop_append, List.drop_replicate, hlen, heldAfter, List.append_assoc]
    congr 3
    omega
  split
  · rename_i hshort
    have htext : cString (packet.bytes ++ globals.modem.buf.bytes.drop packet.bytes.length) =
        some (heldAfter held packet) := by
      rw [hbuf, cString_append_zeros _ (by omega), textOf_of_noNul hnew]
    obtain ⟨next, hnext, hexplicit, hbytes, hpayload, _⟩ := receivePacket_of_cString h.explicit htext
    exact ⟨next, hnext, ⟨hexplicit, hbytes.trans hbuf, hnew⟩, hpayload⟩
  · rename_i hlong
    apply receivePacket_of_unterminated h.explicit
    have hfull : 255 - (heldAfter held packet).length = 0 := by omega
    rw [hbuf, hfull, List.replicate_zero, List.append_nil, cString_eq_ite,
      if_neg fun hmem => hnew 0 hmem rfl]

/-- A whole sequence from any contents of the buffer. -/
theorem each_published_iff {globals : RadioGlobals json} {held : List UInt8} (h : globals.Holds held)
    (packets : List LoraPacket) (hno : ∀ packet ∈ packets, NoNul packet.bytes) :
    Runs.Each receivePacket
      (fun _ packet next => payloadsOn .dataLora next.2 = [packet.bytes]) globals packets ↔
      (∀ packet ∈ packets, held.length ≤ packet.bytes.length ∧ packet.bytes.length ≤ 254) ∧
        (packets.map fun packet => packet.bytes.length).Pairwise (· ≤ ·) := by
  induction packets generalizing globals held with
  | nil => simp [Runs.Each]
  | cons packet packets ih =>
      have hpacket : NoNul packet.bytes := hno packet List.mem_cons_self
      have hrest : ∀ p ∈ packets, NoNul p.bytes := fun p hp => hno p (List.mem_cons_of_mem packet hp)
      have hstep := receivePacket_holds h hpacket
      have hlen := length_heldAfter held packet
      rw [List.map_cons, List.pairwise_cons]
      constructor
      · rintro ⟨next, hnext, hpayload, heach⟩
        by_cases hshort : (heldAfter held packet).length ≤ 254
        swap
        · rw [if_neg hshort, hnext] at hstep
          exact absurd hstep (by simp)
        rw [if_pos hshort] at hstep
        obtain ⟨next', hnext', hholds, hpayload'⟩ := hstep
        obtain rfl := Option.some.inj (hnext.symm.trans hnext')
        have hself : heldAfter held packet = packet.bytes :=
          List.singleton_inj.mp (hpayload'.symm.trans hpayload)
        have hle : held.length ≤ packet.bytes.length := heldAfter_eq_self.mp hself
        rw [hself] at hholds hshort
        obtain ⟨hbounds, hpairwise⟩ := (ih hholds hrest).mp heach
        refine ⟨fun p hp => ?_, fun n hn => ?_, hpairwise⟩
        · rcases List.mem_cons.mp hp with rfl | hp
          · exact ⟨hle, hshort⟩
          · exact ⟨hle.trans (hbounds p hp).1, (hbounds p hp).2⟩
        · obtain ⟨p, hp, rfl⟩ := List.mem_map.mp hn
          exact (hbounds p hp).1
      · rintro ⟨hbounds, hsorted, hpairwise⟩
        obtain ⟨hle, hshort⟩ := hbounds packet List.mem_cons_self
        have hself : heldAfter held packet = packet.bytes := heldAfter_eq_self.mpr hle
        rw [hself, if_pos hshort] at hstep
        obtain ⟨next, hnext, hholds, hpayload⟩ := hstep
        refine ⟨next, hnext, hpayload, (ih hholds hrest).mpr ⟨fun p hp => ⟨?_, ?_⟩, hpairwise⟩⟩
        · exact hsorted _ (List.mem_map_of_mem hp)
        · exact (hbounds p (List.mem_cons_of_mem packet hp)).2

/-- Every packet is published as it was received if and only if no packet is shorter than one before
it and none fills the buffer. -/
theorem published_eq_packets_iff (json : JsonC) (packets : List LoraPacket)
    (hno : ∀ packet ∈ packets, NoNul packet.bytes) :
    Runs.Each receivePacket
      (fun _ packet next => payloadsOn .dataLora next.2 = [packet.bytes]) (init json) packets ↔
      (packets.map fun packet => packet.bytes.length).Pairwise (· ≤ ·) ∧
        ∀ packet ∈ packets, packet.bytes.length ≤ 254 := by
  rw [each_published_iff (holds_init json) packets hno, and_comm]
  simp

/-- A json-c that accepts nothing, for runs in which no text is JSON. -/
def rejecting : JsonC where
  Value := Unit
  parse _ := none
  field _ _ := none
  integer _ := none
  intValue _ := 0
  intValue_integer _ _ h := absurd h (by simp)

def packetOf (text : String) (h : (ascii text).length ≤ 255) : LoraPacket := ⟨ascii text, h⟩

theorem published_growing_packets :
    Runs.Each receivePacket
      (fun _ packet next => payloadsOn .dataLora next.2 = [packet.bytes]) (init rejecting)
        [packetOf "hi" (by decide), packetOf "hello" (by decide)] :=
  (published_eq_packets_iff rejecting _ (by decide)).mpr (by decide)

/-- After `hello`, the packet `hi` is published as `hillo`. -/
theorem published_ne_packets :
    ¬∀ (json : JsonC) (packets : List LoraPacket), (∀ packet ∈ packets, NoNul packet.bytes) →
      Runs.Each receivePacket
        (fun _ packet next => payloadsOn .dataLora next.2 = [packet.bytes]) (init json) packets := by
  intro h
  obtain ⟨first, hfirst, _, second, hsecond, hpayload, _⟩ :=
    h rejecting [packetOf "hello" (by decide), packetOf "hi" (by decide)] (by decide)
  have hrun : ((receivePacket (init rejecting) (packetOf "hello" (by decide))).bind fun next =>
      (receivePacket next.1 (packetOf "hi" (by decide))).map fun next =>
        payloadsOn .dataLora next.2) = some [ascii "hillo"] := by
    decide +kernel
  rw [hfirst, Option.bind_some, hsecond, Option.map_some, hpayload] at hrun
  exact absurd hrun (by decide)

end RadioGlobals

end LinuxGateway
