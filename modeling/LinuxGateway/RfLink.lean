import LinuxGateway.LibChannel
import LinuxGateway.NrfNode
import LinuxGateway.RfSettings

/-! The RF24 link: the chip of the node and a chip of the gateway with the air between them, each under
the calls its program makes. The programs go on independently, and the gateway hears the node only in
the slots of its chip. A packet is taken by a receiver whose channel, rate, checksum and address agree
with it and whose FIFO has room; the node hears of it by an acknowledgement on its own pipe 0, and repeats
a packet that was not acknowledged. Packets and acknowledgements can be lost. The receiver knows the
repetitions of a packet by its number, of two bits, and its checksum, which may be any function here. -/

namespace LinuxGateway.RfDriver

open Scripts

/-! ### The air -/

structure Frame where
  number : BitVec 2
  channel : Byte
  rate : Byte
  crc : CrcLength
  address : List Byte
  payload : List Byte
  deriving DecidableEq

namespace Nrf24

variable (chip : Nrf24)

def poweredUp : Prop := chip.regs NRF_CONFIG &&& BV PWR_UP ≠ 0

def primRx : Prop := chip.regs NRF_CONFIG &&& BV PRIM_RX ≠ 0

instance : Decidable chip.poweredUp := inferInstanceAs (Decidable (_ ≠ _))

instance : Decidable chip.primRx := inferInstanceAs (Decidable (_ ≠ _))

def rate : Byte := chip.regs RF_SETUP &&& (BV RF_DR_LOW ||| BV RF_DR_HIGH)

/-- Acknowledgements need a checksum. -/
def crc : CrcLength :=
  if chip.regs NRF_CONFIG &&& BV EN_CRC ≠ 0 ∨ chip.regs EN_AA ≠ 0 then
    if chip.regs NRF_CONFIG &&& BV CRCO ≠ 0 then .crc16 else .crc8
  else .disabled

/-- The bytes of an address that count. -/
def addressIn (memory : Memory) : List Byte :=
  (List.range ((chip.regs SETUP_AW &&& 3).toNat + 2)).map memory

/-- What a transmitter sends. -/
def sends : Option Frame :=
  match chip.txFifo with
  | [] => none
  | (number, payload) :: _ =>
      if chip.poweredUp ∧ ¬chip.primRx ∧ chip.ce then
        some
          { number, channel := chip.regs RF_CH, rate := chip.rate, crc := chip.crc
            address := chip.addressIn (chip.addrs TX_ADDR), payload }
      else none

/-- Pipes 2 to 5 have their first byte from a register of their own. -/
def pipeMemory (pipe : ℕ) : Memory :=
  if pipe = 0 then chip.addrs RX_ADDR_P0
  else if pipe = 1 then chip.addrs RX_ADDR_P1
  else Function.update (chip.addrs RX_ADDR_P1) 0 (chip.regs (RX_ADDR_P0 + BitVec.ofNat 8 pipe))

def dynamicOn (pipe : ℕ) : Prop :=
  chip.unlocked ∧ chip.regs FEATURE &&& BV EN_DPL ≠ 0 ∧ chip.regs DYNPD &&& BV pipe ≠ 0

instance (pipe : ℕ) : Decidable (chip.dynamicOn pipe) := inferInstanceAs (Decidable (_ ∧ _))

/-- The pipe is open for the frame. -/
def takes (frame : Frame) (pipe : ℕ) : Prop :=
  chip.regs EN_RXADDR &&& BV pipe ≠ 0 ∧ frame.address = chip.addressIn (chip.pipeMemory pipe) ∧
    (chip.dynamicOn pipe ∨ frame.payload.length = (chip.regs (RX_PW_P0 + BitVec.ofNat 8 pipe)).toNat)

instance (frame : Frame) (pipe : ℕ) : Decidable (chip.takes frame pipe) :=
  inferInstanceAs (Decidable (_ ∧ _))

/-- The pipe on which a receiver hears a frame. -/
def hears (frame : Frame) : Option ℕ :=
  if (chip.poweredUp ∧ chip.primRx ∧ chip.ce) ∧ frame.channel = chip.regs RF_CH ∧
      frame.rate = chip.rate ∧ frame.crc = chip.crc then
    (List.range 6).find? fun pipe => chip.takes frame pipe
  else none

/-- Pipe 0 of the transmitter is open for the acknowledgement of the frame. -/
def hearsAck (frame : Frame) : Prop :=
  chip.regs EN_RXADDR &&& BV ERX_P0 ≠ 0 ∧ chip.addressIn (chip.addrs RX_ADDR_P0) = frame.address

instance (frame : Frame) : Decidable (chip.hearsAck frame) := inferInstanceAs (Decidable (_ ∧ _))

/-- What is received on the pipe is acknowledged. -/
def acknowledges (pipe : ℕ) : Prop := chip.regs EN_AA &&& BV pipe ≠ 0

instance (pipe : ℕ) : Decidable (chip.acknowledges pipe) := inferInstanceAs (Decidable (_ ≠ _))

/-- How often a transmitter repeats a frame. -/
def retransmits : ℕ := (chip.regs SETUP_RETR &&& 0x0F).toNat

def raise (flag : ℕ) : Nrf24 :=
  { chip with regs := Function.update chip.regs NRF_STATUS (chip.regs NRF_STATUS ||| BV flag) }

variable (checksum : Frame → BitVec 16)

/-- The receiver with the payload of a frame in its FIFO. -/
def take (frame : Frame) (pipe : ℕ) : Nrf24 :=
  { chip with
    rxFifo := chip.rxFifo ++ [(BitVec.ofNat 8 pipe, frame.payload)]
    last := some (frame.number, checksum frame) }.raise RX_DR

/-- The receiver after a frame that it has heard and has room for, with the pipe. Where it
acknowledges, it throws away what has the number and the checksum of the last frame taken. -/
def receive (frame : Frame) : Option (ℕ × Nrf24) :=
  (chip.hears frame).bind fun pipe =>
    if chip.rxFifo.length < fifoSize then
      some (pipe,
        if chip.acknowledges pipe ∧ chip.last = some (frame.number, checksum frame) then chip
        else chip.take checksum frame pipe)
    else none

/-- The transmitter at the end: the payload is gone if nothing was to be acknowledged or it was. -/
def complete (ok : Bool) : Nrf24 :=
  if ok then { chip with txFifo := chip.txFifo.tail }.raise TX_DS else chip.raise MAX_RT

end Nrf24

/-- A chip at power-on. -/
def Nrf24.reset (plus : Bool) : Nrf24 where
  plus := plus
  activated := false
  regs := fun reg =>
    if reg = NRF_CONFIG then 0x08
    else if reg = EN_AA then 0x3F
    else if reg = EN_RXADDR ∨ reg = SETUP_AW ∨ reg = SETUP_RETR then 0x03
    else if reg = RF_CH then 0x02
    else if reg = RF_SETUP then if plus then 0x0E else 0x0F
    else if reg = RX_ADDR_P2 then 0xC3
    else if reg = RX_ADDR_P3 then 0xC4
    else if reg = RX_ADDR_P4 then 0xC5
    else if reg = RX_ADDR_P5 then 0xC6
    else 0
  addrs := fun reg _ => if reg = RX_ADDR_P1 then 0xC2 else 0xE7
  ce := false
  rxFifo := []
  txFifo := []
  pid := 0
  last := none

/-- Whether a transmission of a frame gets to the receiver, and what the receiver answers back. -/
structure Attempt where
  heard : Bool
  ackHeard : Bool
  deriving DecidableEq

section Air

variable (checksum : Frame → BitVec 16)

/-- A frame and its repetitions until one is acknowledged; `acks` tells whether the transmitter can hear
an acknowledgement at all. -/
def exchange (acks : Bool) (frame : Frame) : List Attempt → Nrf24 → Bool × Nrf24
  | [], gateway => (false, gateway)
  | attempt :: attempts, gateway =>
      match if attempt.heard then gateway.receive checksum frame else none with
      | none => exchange acks frame attempts gateway
      | some (pipe, next) =>
          if acks ∧ attempt.ackHeard ∧ gateway.acknowledges pipe then (true, next)
          else exchange acks frame attempts next

/-- The two chips after a transmission. What is not to be acknowledged is sent once. -/
def transmit (attempts : List Attempt) (node gateway : Nrf24) : Nrf24 × Nrf24 :=
  match node.sends with
  | none => (node, gateway)
  | some frame =>
      if node.acknowledges 0 then
        let result :=
          exchange checksum (node.hearsAck frame) frame (attempts.take (node.retransmits + 1)) gateway
        (node.complete result.1, result.2)
      else (node.complete true, (exchange checksum false frame (attempts.take 1) gateway).2)

end Air

/-! ### The two programs -/

/-- `const uint8_t address[6] = "00001";` at both ends. -/
def address : Memory := fun i => ((Bytes.ascii "00001").map UInt8.toBitVec).getD i 0

/-- `setup` of the node. -/
def nodeSetup (radio : Rf24) : Driver Rf24 := do
  let begun ← begin false radio
  openWritingPipe begun.2 address
  stopListening
  return begun.2

/-- The start of a slot: `begin`, `openReadingPipe(0, address)` and `startListening`. -/
def slotStart (radio : Rf24) : Driver (Option Rf24) := do
  let begun ← begin true radio
  match openReadingPipe begun.2 0 address with
  | none => return none
  | some opening =>
      let radio ← opening
      startListening radio
      return some radio

/-- The end of a slot: `stopListening`, `closeReadingPipe(0)` and `powerDown`. -/
def slotEnd : Option (Driver Unit) :=
  (closeReadingPipe 0).map fun closing => do
    stopListening
    closing
    powerDown

structure Link where
  nodeRadio : Rf24
  node : Nrf24
  gatewayRadio : Rf24
  gateway : Nrf24
  inSlot : Bool
  /-- `available` has found something that is not read yet. -/
  found : Bool

inductive LinkEvent where
  /-- `radio.write(buf, len)` at the node; the status is read `polls` times and once more. -/
  | write (buf : Memory) (len : Byte) (attempts : List Attempt) (polls : ℕ)
  | available
  /-- `radio.read(&nrfbuff, sizeof(nrfbuff))` -/
  | read
  | slotStart
  | slotEnd

namespace Link

/-- The output is what the two programs see of each other, and whether the gateway's chip has taken a
payload. -/
def step (checksum : Frame → BitVec 16) : Runs.Step Link LinkEvent (Channels.Signal (List Byte)) :=
  fun link event =>
    match event with
    | .write buf len attempts polls =>
        let started := ((startFastWrite link.nodeRadio buf len false true).run exec link.node).2
        let sent := transmit checksum attempts started link.gateway
        let finished := (finishWrite (polls + 1)).run exec sent.1
        some ({ link with node := finished.2, gateway := sent.2 },
          [.put (payloadOf link.nodeRadio buf len) finished.1
            (decide (link.gateway.rxFifo.length < sent.2.rxFifo.length))])
    | .available =>
        if link.inSlot ∧ ¬link.found then
          let result := RfDriver.available.run exec link.gateway
          some ({ link with gateway := result.2, found := result.1 }, [])
        else none
    | .read =>
        if link.found then
          let result := (RfDriver.read link.gatewayRadio 50).run exec link.gateway
          some ({ link with gateway := result.2, found := false }, [.get result.1])
        else none
    | .slotStart =>
        if link.inSlot then none
        else
          let result := (RfDriver.slotStart link.gatewayRadio).run exec link.gateway
          result.1.map fun radio =>
            ({ link with gatewayRadio := radio, gateway := result.2, inSlot := true }, [.reset])
    | .slotEnd =>
        if link.inSlot ∧ ¬link.found then
          RfDriver.slotEnd.map fun ending =>
            ({ link with gateway := (ending.run exec link.gateway).2, inSlot := false }, [])
        else none

end Link

/-! ### A payload at the node -/

section Write

variable (chip : Nrf24)

theorem status_and_allFlags : chip.status &&& allFlags = chip.regs NRF_STATUS &&& allFlags := by
  have hpipe : ∀ pipe : Byte, (pipe &&& 7) <<< RX_P_NO &&& allFlags = 0 := by decide
  have hfull : ∀ full : Bool, ofBool full <<< TX_FULL &&& allFlags = 0 := by decide
  rw [Nrf24.status, BitVec.and_or_distrib_right, BitVec.and_or_distrib_right, hpipe, hfull,
    BitVec.and_assoc, BitVec.and_self]
  simp

theorem status_and {mask : Byte} (h : allFlags &&& mask = mask) :
    chip.status &&& mask = chip.regs NRF_STATUS &&& mask := by
  rw [← h, ← BitVec.and_assoc, status_and_allFlags, BitVec.and_assoc]

/-- The chip when it starts to send a payload. -/
def Nrf24.loaded (payload : List Byte) : Nrf24 :=
  { chip with txFifo := chip.txFifo ++ [(chip.pid, payload)], pid := chip.pid + 1, ce := true }

theorem run_startFastWrite (radio : Rf24) (buf : Memory) (len : Byte) (hroom : chip.txFifo.length < 3) :
    ((startFastWrite radio buf len false true).run exec chip).2 = chip.loaded (payloadOf radio buf len) := by
  have hcommand : chip.command W_TX_PAYLOAD (payloadOf radio buf len) =
      (List.replicate (payloadOf radio buf len).length 0,
        { chip with txFifo := chip.txFifo ++ [(chip.pid, payloadOf radio buf len)], pid := chip.pid + 1 }) := by
    rw [Nrf24.command]
    simp only [show W_TX_PAYLOAD &&& 0xE0 ≠ R_REGISTER by decide,
      show W_TX_PAYLOAD &&& 0xE0 ≠ W_REGISTER by decide, show W_TX_PAYLOAD ≠ R_RX_PAYLOAD by decide,
      if_false, true_or, if_true, Nrf24.fifoSize, hroom]
  rw [startFastWrite, Script.run_bind, writePayload, Script.run_bind, run_transfernb, if_neg Bool.false_ne_true,
    Nrf24.transfer, hcommand]
  rfl

/-- With a flag up, the first look at the status ends the wait. -/
theorem run_finishWrite (polls : ℕ) (hflag : chip.regs NRF_STATUS &&& (BV TX_DS ||| BV MAX_RT) ≠ 0) :
    (finishWrite (polls + 1)).run exec chip =
      if chip.regs NRF_STATUS &&& BV MAX_RT ≠ 0 then
        (false, ((chip.setCe false).write NRF_STATUS [allFlags]).flushTx)
      else (true, (chip.setCe false).write NRF_STATUS [allFlags]) := by
  have hwait : (waitSent (polls + 1)).run exec chip = (true, chip) := by
    rw [waitSent, Script.run_bind, run_getStatus]
    dsimp only
    rw [if_pos (by rw [status_and chip (by decide)]; exact hflag)]
    rfl
  have hstatus : (chip.setCe false).status &&& BV MAX_RT = chip.regs NRF_STATUS &&& BV MAX_RT :=
    status_and _ (by decide)
  rw [finishWrite, Script.run_bind, hwait, if_pos rfl, endWrite, Script.run_bind, run_ce, Script.run_bind,
    run_writeRegister _ (by decide)]
  dsimp only
  rw [hstatus]
  split
  · rfl
  · rfl

end Write

/-- The node between two writes. -/
structure Ready (radio : Rf24) (chip : Nrf24) : Prop where
  payloadSize : radio.payloadSize = 32
  static : radio.dynamicPayloadsEnabled = false
  config : chip.regs NRF_CONFIG = 0x0E
  channel : chip.regs RF_CH = 76
  rate : chip.rate = 0
  retries : chip.regs SETUP_RETR = 0x5F
  address : ∀ i < 5, chip.addrs TX_ADDR i = RfDriver.address i
  ackAddress : ∀ i < 5, chip.addrs RX_ADDR_P0 i = RfDriver.address i
  ackPipe : chip.regs EN_RXADDR &&& BV ERX_P0 ≠ 0
  empty : chip.txFifo = []
  flags : chip.regs NRF_STATUS &&& allFlags = 0
  acks : chip.acknowledges 0

theorem length_payloadOf {radio : Rf24} {chip : Nrf24} (h : Ready radio chip) (buf : Memory) (len : Byte) :
    (payloadOf radio buf len).length = 32 := by
  have hsum : ∀ len : Byte, (rf24Min len 32).toNat + (32 - rf24Min len 32).toNat = 32 := by decide
  rw [payloadOf, h.payloadSize, h.static, if_neg Bool.false_ne_true]
  simp only [List.length_append, List.length_map, List.length_range, List.length_replicate]
  exact hsum len

/-- What is on the air when the node sends. -/
def frameOf (chip : Nrf24) (number : BitVec 2) (payload : List Byte) : Frame where
  number := number
  channel := 76
  rate := 0
  crc := .crc16
  address := chip.addressIn address
  payload := payload

theorem addressIn_congr (chip : Nrf24) {memory memory' : Memory} (h : ∀ i < 5, memory i = memory' i) :
    chip.addressIn memory = chip.addressIn memory' := by
  have hwidth : ∀ width : Byte, (width &&& 3).toNat + 2 ≤ 5 := by decide
  have hle := hwidth (chip.regs SETUP_AW)
  apply List.map_congr_left
  intro i hi
  rw [List.mem_range] at hi
  exact h i (by omega)

theorem crc_of_config {chip : Nrf24} {config : Byte} (h : chip.regs NRF_CONFIG = config)
    (hcrc : config &&& BV EN_CRC ≠ 0 ∧ config &&& BV CRCO ≠ 0) : chip.crc = .crc16 := by
  rw [Nrf24.crc, h, if_pos (.inl hcrc.1), if_pos hcrc.2]

theorem frameOf_congr {chip chip' : Nrf24} (h : chip.regs SETUP_AW = chip'.regs SETUP_AW) :
    frameOf chip = frameOf chip' := by
  funext number payload
  simp only [frameOf, Nrf24.addressIn, h]

theorem Ready.sends {radio : Rf24} {chip : Nrf24} (h : Ready radio chip) (payload : List Byte) :
    (chip.loaded payload).sends = some (frameOf chip chip.pid payload) := by
  have hup : chip.poweredUp := by
    rw [Nrf24.poweredUp, h.config]
    decide
  have htx : ¬chip.primRx := by
    rw [Nrf24.primRx, h.config]
    decide
  rw [Nrf24.sends, Nrf24.loaded, h.empty, List.nil_append]
  dsimp only
  rw [if_pos ⟨hup, htx, rfl⟩]
  exact congrArg some (Frame.mk.injEq .. |>.mpr
    ⟨rfl, h.channel, h.rate, crc_of_config h.config (by decide), addressIn_congr chip h.address, rfl⟩)

/-- The node can hear the acknowledgements of what it sends. -/
theorem Ready.hearsAck {radio : Rf24} {chip : Nrf24} (h : Ready radio chip) (payload : List Byte) :
    (chip.loaded payload).hearsAck (frameOf chip chip.pid payload) :=
  ⟨h.ackPipe, addressIn_congr chip h.ackAddress⟩

theorem raise_flag : ∀ flag ∈ [TX_DS, MAX_RT], ∀ old : Byte, old &&& allFlags = 0 →
    (old ||| BV flag) &&& (BV TX_DS ||| BV MAX_RT) ≠ 0 ∧
      ((old ||| BV flag) &&& BV MAX_RT ≠ 0 ↔ flag = MAX_RT) := by
  decide

/-- The end of a write: the node is ready again, and it is told that the payload has arrived exactly if
the chip was. -/
theorem Ready.finish {radio : Rf24} {chip : Nrf24} (h : Ready radio chip) (payload : List Byte) (ok : Bool)
    (polls : ℕ) :
    ∃ next, (finishWrite (polls + 1)).run exec ((chip.loaded payload).complete ok) = (ok, next) ∧
      Ready radio next ∧ next.regs SETUP_AW = chip.regs SETUP_AW ∧ next.pid = chip.pid + 1 := by
  rw [Nrf24.loaded, h.empty, List.nil_append]
  cases ok with
  | true =>
      obtain ⟨hflag, hmaxRt⟩ := raise_flag TX_DS (by decide) _ h.flags
      rw [run_finishWrite _ polls hflag]
      exact ⟨_, if_neg fun h => absurd (hmaxRt.mp h) (by decide),
        ⟨h.payloadSize, h.static, h.config, h.channel, h.rate, h.retries, h.address, h.ackAddress, h.ackPipe,
          rfl, stored_allFlags _, h.acks⟩, rfl, rfl⟩
  | false =>
      obtain ⟨hflag, hmaxRt⟩ := raise_flag MAX_RT (by decide) _ h.flags
      rw [run_finishWrite _ polls hflag]
      exact ⟨_, if_pos (hmaxRt.mpr rfl),
        ⟨h.payloadSize, h.static, h.config, h.channel, h.rate, h.retries, h.address, h.ackAddress, h.ackPipe,
          rfl, stored_allFlags _, h.acks⟩, rfl, rfl⟩

/-! ### A payload at the gateway -/

section Read

variable (chip : Nrf24)

theorem run_available : available.run exec chip = (!chip.rxFifo.isEmpty, chip) := by
  have hbit : ∀ full txEmpty rxFull rxEmpty : Bool,
      decide ((ofBool full <<< FIFO_FULL ||| ofBool txEmpty <<< TX_EMPTY ||| ofBool rxFull <<< RX_FULL |||
        ofBool rxEmpty <<< RX_EMPTY) &&& BV RX_EMPTY = 0) = !rxEmpty := by decide
  rw [available, Script.run_bind, run_readRegister chip (by decide)]
  exact congrArg (·, chip) (hbit _ _ _ _)

/-- The payload at the head of the FIFO is read whole. -/
theorem run_read {radio : Rf24} (hsize : radio.payloadSize = 32)
    (hstatic : radio.dynamicPayloadsEnabled = false) {pipe : Byte} {payload : List Byte}
    {rest : List (Byte × List Byte)} (hfifo : chip.rxFifo = (pipe, payload) :: rest)
    (hlen : payload.length = 32) :
    (read radio 50).run exec chip =
      (payload, ({ chip with rxFifo := rest } : Nrf24).write NRF_STATUS [allFlags]) := by
  have hbytes : (List.range 32).map (payload.getD · 0) = payload := by
    apply List.ext_getElem
    · simp [hlen]
    · intro i hi hi'
      simp [List.getElem?_eq_getElem hi']
  have hpayload : (readPayload radio 50).run exec chip = (payload, { chip with rxFifo := rest }) := by
    rw [readPayload, hsize, hstatic]
    show (((chip.command R_RX_PAYLOAD (List.replicate 32 RF24_NOP)).1).take 32,
      (chip.command R_RX_PAYLOAD (List.replicate 32 RF24_NOP)).2) = _
    have hcommand : chip.command R_RX_PAYLOAD (List.replicate 32 RF24_NOP) =
        (payload, { chip with rxFifo := rest }) := by
      rw [Nrf24.command, if_neg (by decide), if_neg (by decide), if_pos rfl, hfifo]
      dsimp only
      rw [List.length_replicate, hbytes]
    rw [hcommand, List.take_of_length_le (Nat.le_of_eq hlen)]
  rw [read, Script.run_bind, hpayload, Script.run_bind, run_writeRegister _ (by decide)]
  rfl

end Read

/-! ### The chips after the calls -/

theorem storedAddr_range {w : ℕ} (old memory : Memory) {i : ℕ} (hi : i < w) :
    Nrf24.storedAddr old ((List.range w).map memory) i = memory i := by
  simp [Nrf24.storedAddr, hi]

/-- The node is ready after its `setup`, whatever its chip held. -/
theorem ready_nodeSetup {radio : Rf24} (hsize : radio.payloadSize = 32) (hwidth : radio.addrWidth = 5)
    {chip : Nrf24} (hacks : chip.acknowledges 0) :
    ∃ radio' next, (nodeSetup radio).run exec chip = (radio', next) ∧ Ready radio' next ∧
      next.regs SETUP_AW = chip.regs SETUP_AW := by
  obtain ⟨ok, begun, hbegin, h⟩ := run_begin false radio chip
  rw [nodeSetup, Script.run_bind, hbegin, Script.run_bind, run_openWritingPipe]
  dsimp only
  rw [hwidth, hsize, Script.run_bind]
  generalize hopened : Nrf24.write _ RX_PW_P0 [32] = opened
  have hregs : ∀ reg ≠ RX_PW_P0, opened.regs reg = begun.regs reg := by
    intro reg hreg
    rw [← hopened, Nrf24.write_regs_of_ne _ _ hreg, Nrf24.write_regs_of_address _ _ (by decide),
      Nrf24.write_regs_of_address _ _ (by decide)]
  have haddress : ∀ i < 5, opened.addrs TX_ADDR i = address i := by
    intro i hi
    rw [← hopened, Nrf24.write_addrs_of_not_address _ _ (by decide), Nrf24.write_addrs_self _ _ (by decide)]
    exact storedAddr_range _ _ hi
  have hackAddress : ∀ i < 5, opened.addrs RX_ADDR_P0 i = address i := by
    intro i hi
    rw [← hopened, Nrf24.write_addrs_of_not_address _ _ (by decide), Nrf24.write_addrs_of_ne _ _ (by decide),
      Nrf24.write_addrs_self _ _ (by decide)]
    exact storedAddr_range _ _ hi
  have hpipe : ∀ pipes : Byte, (pipes ||| BV 0) &&& BV ERX_P0 ≠ 0 := by decide
  have hempty : opened.txFifo = [] := by
    rw [← hopened]
    simp [h.txFifo]
  obtain ⟨next, hstop, hstopped⟩ := run_stopListening opened
  rw [hstop]
  refine ⟨_, next, rfl, ⟨rfl, rfl, ?_, ?_, ?_, ?_, ?_, ?_, ?_, ?_, ?_, ?_⟩, ?_⟩
  · rw [hstopped.config, hregs _ (by decide), h.config]
    decide
  · rw [hstopped.others _ (by decide), hregs _ (by decide), h.channel]
  · rw [Nrf24.rate, hstopped.others _ (by decide), hregs _ (by decide), h.rate]
  · rw [hstopped.others _ (by decide), hregs _ (by decide), h.retries]
  · intro i hi
    rw [hstopped.addrs]
    exact haddress i hi
  · intro i hi
    rw [hstopped.addrs]
    exact hackAddress i hi
  · rw [hstopped.pipes]
    exact hpipe _
  · rcases hstopped.txFifo with htx | htx
    · exact htx.trans hempty
    · exact htx
  · rw [hstopped.others _ (by decide), hregs _ (by decide), h.flags]
  · rw [Nrf24.acknowledges, hstopped.others _ (by decide), hregs _ (by decide), h.others _ (by decide)]
    exact hacks
  · rw [hstopped.others _ (by decide), hregs _ (by decide), h.others _ (by decide)]

/-- A chip of the gateway in its slot. -/
structure Receiving (chip : Nrf24) : Prop where
  config : chip.regs NRF_CONFIG = 0x0F
  ce : chip.ce = true
  channel : chip.regs RF_CH = 76
  rate : chip.rate = 0
  pipe : chip.regs EN_RXADDR &&& BV 0 ≠ 0
  size : chip.regs RX_PW_P0 = 32
  address : ∀ i < 5, chip.addrs RX_ADDR_P0 i = RfDriver.address i

/-- The object between two slots. -/
structure Static (radio : Rf24) : Prop where
  payloadSize : radio.payloadSize = 32
  static : radio.dynamicPayloadsEnabled = false
  addrWidth : radio.addrWidth = 5

theorem run_openReadingPipe_zero (radio : Rf24) (address : Memory) (chip : Nrf24) :
    ∃ opening, openReadingPipe radio 0 address = some opening ∧
      opening.run exec chip = (cacheAddress radio address,
        ((enablePipe 0).run exec ((chip.write RX_ADDR_P0 ((List.range radio.addrWidth.toNat).map address)).write
          RX_PW_P0 [radio.payloadSize])).2) := by
  refine ⟨_, rfl, ?_⟩
  rw [Script.run_bind]
  exact congrArg (fun next => (cacheAddress radio address, next.2))
    (run_openPipe chip radio 0 (show RX_ADDR_P0 &&& REGISTER_MASK = RX_ADDR_P0 by decide)
      (show RX_PW_P0 &&& REGISTER_MASK = RX_PW_P0 by decide) address)

/-- The chip is receiving after the start of a slot, whatever it held. -/
theorem receiving_slotStart {radio : Rf24} (hradio : Static radio) (chip : Nrf24) :
    ∃ radio' next, (slotStart radio).run exec chip = (some radio', next) ∧ Static radio' ∧ Receiving next ∧
      next.rxFifo = [] ∧ next.regs SETUP_AW = chip.regs SETUP_AW ∧ next.regs EN_AA = chip.regs EN_AA := by
  obtain ⟨ok, begun, hbegin, h⟩ := run_begin true radio chip
  rw [slotStart, Script.run_bind, hbegin]
  dsimp only
  obtain ⟨opening, hopening, hrun⟩ := run_openReadingPipe_zero
    ⟨radio.pVariant || chip.plus, radio.payloadSize, false, radio.addrWidth, radio.pipe0ReadingAddress⟩
    address begun
  rw [hopening]
  dsimp only
  rw [Script.run_bind, hrun, run_enablePipe]
  dsimp only
  rw [hradio.addrWidth, hradio.payloadSize, Script.run_bind]
  generalize hopened : Nrf24.write _ EN_RXADDR _ = opened
  have hregs : ∀ reg ∉ [RX_PW_P0, EN_RXADDR], opened.regs reg = begun.regs reg := by
    intro reg hreg
    simp only [List.mem_cons, List.not_mem_nil, or_false, not_or] at hreg
    rw [← hopened, Nrf24.write_regs_of_ne _ _ hreg.2, Nrf24.write_regs_of_ne _ _ hreg.1,
      Nrf24.write_regs_of_address _ _ (by decide)]
  have hpipe : opened.regs EN_RXADDR &&& BV 0 ≠ 0 := by
    have hset : ∀ pipes : Byte, (pipes &&& 0xFF ||| BV 0) &&& BV 0 ≠ 0 := by decide
    rw [← hopened, Nrf24.write_regs_of_plain _ (by decide)]
    exact hset _
  have hsize : opened.regs RX_PW_P0 = 32 := by
    rw [← hopened, Nrf24.write_regs_of_ne _ _ (by decide), Nrf24.write_regs_of_plain _ (by decide)]
  have hempty : opened.rxFifo = [] := by
    rw [← hopened]
    simp [h.rxFifo]
  let cached := cacheAddress ⟨radio.pVariant || chip.plus, 32, false, 5, radio.pipe0ReadingAddress⟩ address
  have hcached : cached.pipe0ReadingAddress 0 ≠ 0 := by
    show address 0 ≠ 0
    decide
  obtain ⟨next, hstart, hstarted⟩ := run_startListening opened cached
  obtain ⟨hrestored, hpipes⟩ := hstarted.restored hcached
  rw [hstart]
  refine ⟨_, next, rfl, ⟨rfl, rfl, rfl⟩, ⟨?_, hstarted.ce, ?_, ?_, ?_, ?_, ?_⟩, ?_, ?_, ?_⟩
  · rw [hstarted.config, hregs _ (by decide), h.config]
    decide
  · rw [hstarted.others _ (by decide), hregs _ (by decide), h.channel]
  · rw [Nrf24.rate, hstarted.others _ (by decide), hregs _ (by decide), h.rate]
  · rw [hpipes]
    exact hpipe
  · rw [hstarted.others _ (by decide), hsize]
  · intro i hi
    rw [hrestored, storedAddr_range _ _ (show i < cached.addrWidth.toNat from hi)]
    exact if_pos hi
  · rw [hstarted.rxFifo, hempty]
  · rw [hstarted.others _ (by decide), hregs _ (by decide), h.others _ (by decide)]
  · rw [hstarted.others _ (by decide), hregs _ (by decide), h.others _ (by decide)]

theorem run_slotEnd (chip : Nrf24) :
    ∃ ending next, slotEnd = some ending ∧ ending.run exec chip = ((), next) ∧ next.rxFifo = chip.rxFifo ∧
      next.regs NRF_CONFIG &&& BV PWR_UP = 0 ∧
      next.regs SETUP_AW = chip.regs SETUP_AW ∧ next.regs EN_AA = chip.regs EN_AA := by
  obtain ⟨stopped, hstop, h⟩ := run_stopListening chip
  have hclear : ∀ config : Byte, (config &&& ~~~BV PWR_UP ||| 0) &&& BV PWR_UP = 0 := by decide
  have hrun : (do stopListening; closePipe 0; powerDown : Driver Unit).run exec chip =
      powerDown.run exec (stopped.write EN_RXADDR [(stopped.regs EN_RXADDR &&& ~~~BV 0) ||| 0]) := by
    rw [Script.run_bind, hstop, Script.run_bind, run_closePipe]
  refine ⟨_, _, rfl, hrun.trans (run_powerDown _), ?_, ?_, ?_, ?_⟩
  · simp [h.rxFifo]
  · rw [Nrf24.write_regs_of_plain _ (by decide)]
    exact hclear _
  · rw [Nrf24.write_regs_of_ne _ _ (by decide), Nrf24.setCe_regs, Nrf24.write_regs_of_ne _ _ (by decide),
      h.others _ (by decide)]
  · rw [Nrf24.write_regs_of_ne _ _ (by decide), Nrf24.setCe_regs, Nrf24.write_regs_of_ne _ _ (by decide),
      h.others _ (by decide)]

/-! ### A frame from the node at a chip that is receiving -/

/-- A chip that is receiving takes the frames of the node on pipe 0 if its address width is that of the
node, and otherwise it does not hear them. -/
theorem Receiving.hears {chip : Nrf24} (h : Receiving chip) (node : Nrf24) {number : BitVec 2}
    {payload : List Byte} (hlen : payload.length = 32)
    (hwidth : node.regs SETUP_AW &&& 3 = chip.regs SETUP_AW &&& 3) :
    chip.hears (frameOf node number payload) = some 0 := by
  have hup : chip.poweredUp := by
    rw [Nrf24.poweredUp, h.config]
    decide
  have hrx : chip.primRx := by
    rw [Nrf24.primRx, h.config]
    decide
  have htakes : chip.takes (frameOf node number payload) 0 := by
    refine ⟨h.pipe, ?_, .inr (hlen.trans ?_)⟩
    · show node.addressIn RfDriver.address = chip.addressIn (chip.addrs RX_ADDR_P0)
      rw [addressIn_congr chip h.address, Nrf24.addressIn, hwidth]
      rfl
    · show 32 = (chip.regs RX_PW_P0).toNat
      rw [h.size]
      rfl
  rw [Nrf24.hears, if_pos ⟨⟨hup, hrx, h.ce⟩, h.channel.symm, h.rate.symm,
    (crc_of_config h.config (by decide)).symm⟩]
  exact List.find?_cons_of_pos (by simpa using htakes)

theorem hears_of_width_ne {chip node : Nrf24} (number : BitVec 2) (payload : List Byte)
    (hwidth : node.regs SETUP_AW &&& 3 ≠ chip.regs SETUP_AW &&& 3) :
    chip.hears (frameOf node number payload) = none := by
  have hnot : ∀ pipe, ¬chip.takes (frameOf node number payload) pipe := by
    rintro pipe ⟨_, haddress, _⟩
    have hlen := congrArg List.length haddress
    simp only [frameOf, Nrf24.addressIn, List.length_map, List.length_range] at hlen
    exact hwidth (BitVec.eq_of_toNat_eq (by omega))
  unfold Nrf24.hears
  split
  · exact List.find?_eq_none.mpr fun pipe _ => by simpa using hnot pipe
  · rfl

theorem Receiving.take {chip : Nrf24} (h : Receiving chip) (checksum : Frame → BitVec 16) (frame : Frame)
    (pipe : ℕ) : Receiving (chip.take checksum frame pipe) :=
  ⟨h.config, h.ce, h.channel, h.rate, h.pipe, h.size, h.address⟩

/-! ### A frame and its repetitions -/

section Exchange

variable (checksum : Frame → BitVec 16) (acks : Bool) (frame : Frame) {gateway : Nrf24}

theorem lt_length_take (pipe : ℕ) :
    gateway.rxFifo.length < (gateway.take checksum frame pipe).rxFifo.length := by
  show _ < (gateway.rxFifo ++ [(BitVec.ofNat 8 pipe, frame.payload)]).length
  rw [List.length_append]
  exact Nat.lt_succ_self _

theorem hears_lt {frame : Frame} {pipe : ℕ} (h : gateway.hears frame = some pipe) : pipe < 6 := by
  unfold Nrf24.hears at h
  split at h
  · exact List.mem_range.mp (List.mem_of_find?_eq_some h)
  · cases h

/-- What a reception does. -/
theorem receive_eq_some {frame : Frame} {pipe : ℕ} {next : Nrf24} (h : gateway.receive checksum frame = some (pipe, next)) :
    gateway.hears frame = some pipe ∧ gateway.rxFifo.length < 3 ∧
      next = if gateway.acknowledges pipe ∧ gateway.last = some (frame.number, checksum frame) then gateway
        else gateway.take checksum frame pipe := by
  obtain ⟨pipe', hears, hroom⟩ := Option.bind_eq_some_iff.mp h
  split at hroom
  · rename_i hlt
    obtain ⟨rfl, rfl⟩ := Prod.mk.inj (Option.some.inj hroom)
    exact ⟨hears, hlt, rfl⟩
  · cases hroom

/-- What looks like the last frame taken is not taken, however often it is repeated. -/
theorem exchange_of_last (hacks : ∀ pipe < 6, gateway.acknowledges pipe)
    (hlast : gateway.last = some (frame.number, checksum frame)) (attempts : List Attempt) :
    (exchange checksum acks frame attempts gateway).2 = gateway := by
  induction attempts with
  | nil => rfl
  | cons attempt attempts ih =>
      rw [exchange]
      split
      · exact ih
      · rename_i pipe next hreceive
        split at hreceive
        · obtain ⟨hears, _, hnext⟩ := receive_eq_some checksum hreceive
          rw [if_pos ⟨hacks pipe (hears_lt hears), hlast⟩] at hnext
          rw [hnext]
          split
          · rfl
          · exact ih
        · cases hreceive

/-- Another frame is taken once, or not at all and then it is not acknowledged. -/
theorem exchange_cases (hacks : ∀ pipe < 6, gateway.acknowledges pipe)
    (hlast : gateway.last ≠ some (frame.number, checksum frame)) (attempts : List Attempt) :
    exchange checksum acks frame attempts gateway = (false, gateway) ∨
      ∃ pipe, gateway.rxFifo.length < 3 ∧
        (exchange checksum acks frame attempts gateway).2 = gateway.take checksum frame pipe := by
  induction attempts with
  | nil => exact .inl rfl
  | cons attempt attempts ih =>
      rw [exchange]
      split
      · exact ih
      · rename_i pipe next hreceive
        split at hreceive
        · obtain ⟨_, hroom, hnext⟩ := receive_eq_some checksum hreceive
          rw [if_neg fun h => hlast h.2] at hnext
          refine .inr ⟨pipe, hroom, ?_⟩
          rw [hnext]
          split
          · rfl
          · have htaken : (gateway.take checksum frame pipe).last = some (frame.number, checksum frame) := rfl
            have hstill : ∀ pipe' < 6, (gateway.take checksum frame pipe).acknowledges pipe' := hacks
            exact exchange_of_last checksum acks frame hstill htaken attempts
        · cases hreceive

/-- The first transmission that is heard is acknowledged in time, and the acknowledgement is heard. -/
def GetsThrough (attempts : List Attempt) : Prop :=
  ∃ attempt, attempts.find? Attempt.heard = some attempt ∧ attempt.ackHeard = true

/-- What gets through to a receiver that hears it and has room is acknowledged, and taken unless it looks
like the last frame taken. -/
theorem exchange_of_getsThrough {frame : Frame} (hacks : ∀ pipe < 6, gateway.acknowledges pipe) {pipe : ℕ}
    (hears : gateway.hears frame = some pipe) (hroom : gateway.rxFifo.length < 3) {attempts : List Attempt}
    (h : GetsThrough attempts) :
    exchange checksum true frame attempts gateway =
      (true, if gateway.last = some (frame.number, checksum frame) then gateway
        else gateway.take checksum frame pipe) := by
  have hacknowledges := hacks pipe (hears_lt hears)
  have hreceive : gateway.receive checksum frame =
      some (pipe, if gateway.last = some (frame.number, checksum frame) then gateway
        else gateway.take checksum frame pipe) := by
    rw [Nrf24.receive, hears, Option.bind_some, if_pos (show _ < Nrf24.fifoSize from hroom)]
    simp only [hacknowledges, true_and]
  obtain ⟨attempt, hfind, hackHeard⟩ := h
  induction attempts with
  | nil => cases hfind
  | cons first attempts ih =>
      rw [exchange]
      cases hheard : first.heard with
      | true =>
          rw [List.find?_cons_of_pos hheard] at hfind
          obtain rfl := Option.some.inj hfind
          simp only [if_true, hreceive, hackHeard, hacknowledges, and_self]
      | false =>
          rw [List.find?_cons_of_neg (by rw [hheard]; exact Bool.false_ne_true)] at hfind
          simp only [Bool.false_eq_true, if_false]
          exact ih hfind

/-- Nothing comes of what nobody hears. -/
theorem exchange_of_deaf {frame : Frame} (hdeaf : gateway.hears frame = none) (attempts : List Attempt) :
    exchange checksum acks frame attempts gateway = (false, gateway) := by
  have hreceive : gateway.receive checksum frame = none := by
    rw [Nrf24.receive, hdeaf, Option.bind_none]
  induction attempts with
  | nil => rfl
  | cons attempt attempts ih =>
      rw [exchange, hreceive, ite_self]
      exact ih

/-- A transmission of the node: it is sent sixteen times at most. -/
theorem Ready.transmit {radio : Rf24} {chip : Nrf24} (h : Ready radio chip) (attempts : List Attempt)
    (payload : List Byte) (gateway : Nrf24) :
    RfDriver.transmit checksum attempts (chip.loaded payload) gateway =
      ((chip.loaded payload).complete
          (exchange checksum true (frameOf chip chip.pid payload) (attempts.take 16) gateway).1,
        (exchange checksum true (frameOf chip chip.pid payload) (attempts.take 16) gateway).2) := by
  have hacks : (chip.loaded payload).acknowledges 0 := h.acks
  have hretransmits : (chip.loaded payload).retransmits = 15 := by
    show (chip.regs SETUP_RETR &&& 0x0F).toNat = 15
    rw [h.retries]
    rfl
  rw [RfDriver.transmit, h.sends payload]
  dsimp only
  rw [if_pos hacks, hretransmits, decide_eq_true (h.hearsAck payload)]

end Exchange

/-! ### Every interleaving -/

/-- The link as a channel: three payloads wait at most, and two look the same if they have one checksum. -/
def rules (checksum : Frame → BitVec 16) (node : Nrf24) : Channels.Rules (List Byte) where
  capacity := 3
  numbers := 4
  same b a := ∃ number, checksum (frameOf node number b) = checksum (frameOf node number a)

namespace Link

variable (checksum : Frame → BitVec 16)

/-- The last payload that the gateway's chip has taken, by its number and its checksum. -/
def Remembers (node₀ : Nrf24) (signals : List (Channels.Signal (List Byte))) (link : Link) : Prop :=
  ∀ number sum, link.gateway.last = some (number, sum) → ∃ before b ok after,
    signals = before ++ .put b ok true :: after ∧ Channels.taken after = [] ∧
      sum = checksum (frameOf node₀ number b) ∧
      link.node.pid = number + 1 + BitVec.ofNat 2 (Channels.puts after).length

/-- What holds between any two steps. -/
structure Sound (node₀ gateway₀ : Nrf24) (signals : List (Channels.Signal (List Byte))) (link : Link) :
    Prop where
  node : Ready link.nodeRadio link.node
  nodeWidth : link.node.regs SETUP_AW = node₀.regs SETUP_AW
  radio : Static link.gatewayRadio
  receiving : link.inSlot = true → Receiving link.gateway
  gatewayWidth : link.gateway.regs SETUP_AW = gateway₀.regs SETUP_AW
  acks : ∀ pipe < 6, link.gateway.acknowledges pipe
  found : link.found = true → link.inSlot = true ∧ link.gateway.rxFifo ≠ []
  lengths : ∀ entry ∈ link.gateway.rxFifo, entry.2.length = 32
  remembers : Remembers checksum node₀ signals link
  trace : Channels.Trace (rules checksum node₀) signals (link.gateway.rxFifo.map Prod.snd)

variable {checksum} {node₀ gateway₀ : Nrf24} {signals : List (Channels.Signal (List Byte))} {link : Link}

/-- Only writes count. -/
theorem Remembers.other (h : Remembers checksum node₀ signals link) {signal : Channels.Signal (List Byte)}
    (hsent : signal.sent = []) (hkept : signal.kept = []) {next : Link} (hpid : next.node.pid = link.node.pid)
    (hlast : next.gateway.last = link.gateway.last) : Remembers checksum node₀ (signals ++ [signal]) next := by
  intro number sum hsome
  obtain ⟨before, b, ok, after, rfl, htaken, hsum, hnumber⟩ := h number sum (hlast ▸ hsome)
  refine ⟨before, b, ok, after ++ [signal], ?_, ?_, hsum, ?_⟩
  · rw [List.append_assoc, List.cons_append]
  · rw [Channels.taken_snoc, htaken, hkept, List.append_nil]
  · rw [Channels.puts_snoc, hsent, List.append_nil, hpid, hnumber]

/-- A payload that is not taken has a number nevertheless. -/
theorem Remembers.passed (h : Remembers checksum node₀ signals link) (payload : List Byte) (ok : Bool)
    {next : Link} (hpid : next.node.pid = link.node.pid + 1) (hlast : next.gateway.last = link.gateway.last) :
    Remembers checksum node₀ (signals ++ [.put payload ok false]) next := by
  intro number sum hsome
  obtain ⟨before, b, ok', after, rfl, htaken, hsum, hnumber⟩ := h number sum (hlast ▸ hsome)
  refine ⟨before, b, ok', after ++ [.put payload ok false], ?_, ?_, hsum, ?_⟩
  · rw [List.append_assoc, List.cons_append]
  · rw [Channels.taken_snoc, htaken]
    rfl
  · rw [Channels.puts_snoc, hpid, hnumber, List.length_append, Channels.Signal.sent, List.length_singleton,
      BitVec.ofNat_add, BitVec.add_assoc]
    rfl

theorem remembers_taken {payload : List Byte} {ok : Bool} {next : Link} {number : BitVec 2}
    (hpid : next.node.pid = number + 1)
    (hlast : next.gateway.last = some (number, checksum (frameOf node₀ number payload))) :
    Remembers checksum node₀ (signals ++ [.put payload ok true]) next := by
  intro number' sum hsome
  obtain ⟨rfl, rfl⟩ := Prod.mk.inj (Option.some.inj (hlast.symm.trans hsome))
  exact ⟨signals, payload, ok, [], rfl, rfl, rfl, hpid.trans (BitVec.add_zero _).symm⟩

/-- What looks to the chip like the last payload taken is its copy. -/
theorem Remembers.copy (h : Remembers checksum node₀ signals link) {payload : List Byte}
    (hlast : link.gateway.last =
      some (link.node.pid, checksum (frameOf node₀ link.node.pid payload))) :
    Channels.Copy (rules checksum node₀) signals payload := by
  obtain ⟨before, b, ok, after, rfl, htaken, hsum, hnumber⟩ := h _ _ hlast
  refine ⟨before, b, ok, after, rfl, htaken, ?_, _, hsum.symm⟩
  have hmod := congrArg BitVec.toNat hnumber
  have hlt := link.node.pid.isLt
  rw [BitVec.toNat_add, BitVec.toNat_add, BitVec.toNat_ofNat] at hmod
  show 4 ∣ (Channels.puts after).length + 1
  generalize (Channels.puts after).length = n at hmod ⊢
  have hone : (1 : BitVec 2).toNat = 1 := rfl
  omega

/-- The two chips after a write of the node, whatever becomes of it. -/
theorem Sound.written (h : Sound checksum node₀ gateway₀ signals link) (buf : Memory) (len : Byte)
    (attempts : List Attempt) (polls : ℕ) {ok : Bool} {gateway : Nrf24}
    (hexchange : exchange checksum true (frameOf node₀ link.node.pid (payloadOf link.nodeRadio buf len))
      (attempts.take 16) link.gateway = (ok, gateway)) :
    ∃ node, step checksum link (.write buf len attempts polls) =
        some ({ link with node, gateway },
          [.put (payloadOf link.nodeRadio buf len) ok
            (decide (link.gateway.rxFifo.length < gateway.rxFifo.length))]) ∧
      Ready link.nodeRadio node ∧ node.regs SETUP_AW = node₀.regs SETUP_AW ∧ node.pid = link.node.pid + 1 := by
  have hroom : link.node.txFifo.length < 3 := by
    rw [h.node.empty]
    decide
  obtain ⟨node, hfinish, hready, hwidth, hpid⟩ := h.node.finish (payloadOf link.nodeRadio buf len) ok polls
  refine ⟨node, ?_, hready, hwidth.trans h.nodeWidth, hpid⟩
  simp only [step, run_startFastWrite link.node link.nodeRadio buf len hroom, h.node.transmit,
    frameOf_congr h.nodeWidth, hexchange, hfinish]

/-- A write that leaves the gateway as it is. -/
theorem Sound.passed (h : Sound checksum node₀ gateway₀ signals link) (payload : List Byte) {ok : Bool}
    (hcopy : ok = true → Channels.Copy (rules checksum node₀) signals payload) {node : Nrf24}
    (hready : Ready link.nodeRadio node) (hwidth : node.regs SETUP_AW = node₀.regs SETUP_AW)
    (hpid : node.pid = link.node.pid + 1) :
    Sound checksum node₀ gateway₀ (signals ++ [.put payload ok false]) { link with node } := by
  refine ⟨hready, hwidth, h.radio, h.receiving, h.gatewayWidth, h.acks, h.found, h.lengths,
    h.remembers.passed payload ok hpid rfl, h.trace.snoc ?_⟩
  cases ok with
  | false => exact .lost
  | true => exact .copied (hcopy rfl)

/-- A write whose payload the gateway takes. -/
theorem Sound.take (h : Sound checksum node₀ gateway₀ signals link) {payload : List Byte}
    (hlen : payload.length = 32) (ok : Bool) (pipe : ℕ) (hroom : link.gateway.rxFifo.length < 3)
    {node : Nrf24} (hready : Ready link.nodeRadio node) (hwidth : node.regs SETUP_AW = node₀.regs SETUP_AW)
    (hpid : node.pid = link.node.pid + 1) :
    Sound checksum node₀ gateway₀ (signals ++ [.put payload ok true])
      { link with
        node
        gateway := link.gateway.take checksum (frameOf node₀ link.node.pid payload) pipe } := by
  refine ⟨hready, hwidth, h.radio, fun hslot => (h.receiving hslot).take _ _ _, h.gatewayWidth, h.acks,
    fun hfound => ⟨(h.found hfound).1, List.append_ne_nil_of_right_ne_nil _ (List.cons_ne_nil _ _)⟩, ?_,
    remembers_taken hpid rfl, ?_⟩
  · intro entry hentry
    rcases List.mem_append.mp hentry with hold | hnew
    · exact h.lengths entry hold
    · rw [List.mem_singleton.mp hnew]
      exact hlen
  · show Channels.Trace _ _ ((link.gateway.rxFifo ++ [(BitVec.ofNat 8 pipe, payload)]).map Prod.snd)
    rw [List.map_append]
    exact h.trace.snoc (.kept (by rw [List.length_map]; exact hroom))

/-- A write: the payload is at the end of the gateway's FIFO, or the node is told that it is not, or it
looks like the last one taken. -/
theorem Sound.write (h : Sound checksum node₀ gateway₀ signals link) (buf : Memory) (len : Byte)
    (attempts : List Attempt) (polls : ℕ) :
    ∃ next out, step checksum link (.write buf len attempts polls) = some (next, out) ∧
      Sound checksum node₀ gateway₀ (signals ++ out) next := by
  have hlen := length_payloadOf h.node buf len
  let frame := frameOf node₀ link.node.pid (payloadOf link.nodeRadio buf len)
  cases hexchange : exchange checksum true frame (attempts.take 16) link.gateway with
  | mk ok gateway =>
      obtain ⟨node, hstep, hready, hwidth, hpid⟩ := h.written buf len attempts polls hexchange
      refine ⟨_, _, hstep, ?_⟩
      by_cases hlast : link.gateway.last = some (frame.number, checksum frame)
      · have hsame := exchange_of_last checksum true frame h.acks hlast (attempts.take 16)
        rw [hexchange] at hsame
        dsimp only at hsame
        subst hsame
        rw [decide_eq_false (Nat.lt_irrefl _)]
        exact h.passed _ (fun _ => h.remembers.copy hlast) hready hwidth hpid
      · rcases exchange_cases checksum true frame h.acks hlast (attempts.take 16) with
          hfalse | ⟨pipe, hroom, htake⟩
        · obtain ⟨rfl, rfl⟩ := Prod.mk.inj (hexchange.symm.trans hfalse)
          rw [decide_eq_false (Nat.lt_irrefl _)]
          exact h.passed _ (fun hok => absurd hok Bool.false_ne_true) hready hwidth hpid
        · rw [hexchange] at htake
          dsimp only at htake
          subst htake
          rw [decide_eq_true (lt_length_take checksum frame pipe)]
          exact h.take hlen ok pipe hroom hready hwidth hpid

theorem Sound.available (h : Sound checksum node₀ gateway₀ signals link) {next : Link × List _}
    (hstep : step checksum link .available = some next) :
    Sound checksum node₀ gateway₀ (signals ++ next.2) next.1 := by
  unfold step at hstep
  dsimp only at hstep
  split at hstep
  · rename_i hready
    rw [run_available] at hstep
    obtain rfl := Option.some.inj hstep
    rw [List.append_nil]
    refine ⟨h.node, h.nodeWidth, h.radio, h.receiving, h.gatewayWidth, h.acks, fun hfound => ?_,
      h.lengths, h.remembers, h.trace⟩
    exact ⟨hready.1, by simpa using hfound⟩
  · cases hstep

theorem Sound.read (h : Sound checksum node₀ gateway₀ signals link) {next : Link × List _}
    (hstep : step checksum link .read = some next) :
    Sound checksum node₀ gateway₀ (signals ++ next.2) next.1 := by
  unfold step at hstep
  dsimp only at hstep
  split at hstep
  · rename_i hfound
    obtain ⟨entry, rest, hfifo⟩ := List.exists_cons_of_ne_nil (h.found hfound).2
    have hlen := h.lengths entry (by rw [hfifo]; exact List.mem_cons_self)
    rw [run_read _ h.radio.payloadSize h.radio.static hfifo hlen] at hstep
    obtain rfl := Option.some.inj hstep
    refine ⟨h.node, h.nodeWidth, h.radio, fun hslot => ?_, h.gatewayWidth, h.acks,
      fun hfalse => absurd hfalse Bool.false_ne_true, fun other hother => ?_,
      h.remembers.other rfl rfl rfl rfl, ?_⟩
    · have hreceiving := h.receiving hslot
      exact ⟨hreceiving.config, hreceiving.ce, hreceiving.channel, hreceiving.rate, hreceiving.pipe,
        hreceiving.size, hreceiving.address⟩
    · exact h.lengths other (by rw [hfifo]; exact List.mem_cons_of_mem _ hother)
    · have htrace := h.trace
      rw [hfifo, List.map_cons] at htrace
      exact htrace.snoc .get
  · cases hstep

theorem Sound.slotStart (h : Sound checksum node₀ gateway₀ signals link) {next : Link × List _}
    (hstep : step checksum link .slotStart = some next) :
    Sound checksum node₀ gateway₀ (signals ++ next.2) next.1 := by
  unfold step at hstep
  dsimp only at hstep
  split at hstep
  · cases hstep
  · rename_i hslot
    obtain ⟨radio, chip, hrun, hstatic, hreceiving, hempty, hwidth, hacks⟩ :=
      receiving_slotStart h.radio link.gateway
    have hlast : chip.last = link.gateway.last := by
      have hkept := run_last link.gateway (RfDriver.slotStart link.gatewayRadio)
      rwa [hrun] at hkept
    rw [hrun] at hstep
    obtain rfl := Option.some.inj hstep
    refine ⟨h.node, h.nodeWidth, hstatic, fun _ => hreceiving, hwidth.trans h.gatewayWidth,
      fun pipe hpipe => ?_, fun hfound => absurd (h.found hfound).1 hslot, ?_,
      h.remembers.other rfl rfl rfl hlast, ?_⟩
    · show chip.regs EN_AA &&& BV pipe ≠ 0
      rw [hacks]
      exact h.acks pipe hpipe
    · dsimp only
      rw [hempty]
      exact fun _ hentry => absurd hentry List.not_mem_nil
    · dsimp only
      rw [hempty]
      exact h.trace.snoc .reset

theorem Sound.slotEnd (h : Sound checksum node₀ gateway₀ signals link) {next : Link × List _}
    (hstep : step checksum link .slotEnd = some next) :
    Sound checksum node₀ gateway₀ (signals ++ next.2) next.1 := by
  unfold step at hstep
  dsimp only at hstep
  split at hstep
  · rename_i hready
    obtain ⟨ending, chip, hending, hrun, hfifo, _, hwidth, hacks⟩ := run_slotEnd link.gateway
    have hlast : chip.last = link.gateway.last := by
      have hkept := run_last link.gateway ending
      rwa [hrun] at hkept
    rw [hending, Option.map_some, hrun] at hstep
    obtain rfl := Option.some.inj hstep
    rw [List.append_nil]
    refine ⟨h.node, h.nodeWidth, h.radio, fun hfalse => absurd hfalse Bool.false_ne_true,
      hwidth.trans h.gatewayWidth, fun pipe hpipe => ?_,
      fun hfound => absurd hfound hready.2, ?_, fun number sum hsome => ?_, ?_⟩
    · show chip.regs EN_AA &&& BV pipe ≠ 0
      rw [hacks]
      exact h.acks pipe hpipe
    · dsimp only
      rw [hfifo]
      exact h.lengths
    · exact h.remembers number sum (hlast ▸ hsome)
    · dsimp only
      rw [hfifo]
      exact h.trace
  · cases hstep

/-- In a slot whose FIFO has room, with the same address width at both ends, what gets through is
acknowledged and taken on pipe 0, unless it looks like the last payload taken. -/
theorem Sound.deliver (h : Sound checksum node₀ gateway₀ signals link) (hslot : link.inSlot = true)
    (hroom : link.gateway.rxFifo.length < 3)
    (hwidth : node₀.regs SETUP_AW &&& 3 = gateway₀.regs SETUP_AW &&& 3) (buf : Memory) (len : Byte)
    {attempts : List Attempt} (hthrough : GetsThrough (attempts.take 16)) (polls : ℕ) :
    let frame := frameOf node₀ link.node.pid (payloadOf link.nodeRadio buf len)
    let copied := link.gateway.last = some (frame.number, checksum frame)
    ∃ node, step checksum link (.write buf len attempts polls) =
      some ({ link with node, gateway := if copied then link.gateway else link.gateway.take checksum frame 0 },
        [.put frame.payload true (decide ¬copied)]) ∧ node.pid = link.node.pid + 1 := by
  have hlen := length_payloadOf h.node buf len
  intro frame copied
  have hwidths : node₀.regs SETUP_AW &&& 3 = link.gateway.regs SETUP_AW &&& 3 := by
    rw [h.gatewayWidth, hwidth]
  have hears : link.gateway.hears frame = some 0 := (h.receiving hslot).hears node₀ hlen hwidths
  obtain ⟨node, hstep, _, _, hpid⟩ := h.written buf len attempts polls
    (exchange_of_getsThrough checksum h.acks hears hroom hthrough)
  refine ⟨node, hstep.trans ?_, hpid⟩
  have htaken : decide (link.gateway.rxFifo.length <
      (if copied then link.gateway else link.gateway.take checksum frame 0).rxFifo.length) = decide ¬copied := by
    rw [decide_eq_decide]
    split
    · rename_i hcopied
      exact ⟨fun hlt => absurd hlt (Nat.lt_irrefl _), fun hnot => absurd hcopied hnot⟩
    · rename_i hcopied
      exact ⟨fun _ => hcopied, fun _ => lt_length_take checksum frame 0⟩
  exact congrArg (fun taken => some (_, [Channels.Signal.put frame.payload true taken])) htaken

/-- With another address width nothing is taken. -/
theorem Sound.miss (h : Sound checksum node₀ gateway₀ signals link)
    (hwidth : node₀.regs SETUP_AW &&& 3 ≠ gateway₀.regs SETUP_AW &&& 3) (buf : Memory) (len : Byte)
    (attempts : List Attempt) (polls : ℕ) :
    ∃ node, step checksum link (.write buf len attempts polls) =
      some ({ link with node }, [.put (payloadOf link.nodeRadio buf len) false false]) := by
  have hdeaf : link.gateway.hears (frameOf node₀ link.node.pid (payloadOf link.nodeRadio buf len)) = none := by
    refine hears_of_width_ne _ _ ?_
    rw [h.gatewayWidth]
    exact hwidth
  obtain ⟨node, hstep, _⟩ := h.written buf len attempts polls (exchange_of_deaf checksum true hdeaf _)
  rw [decide_eq_false (Nat.lt_irrefl _)] at hstep
  exact ⟨node, hstep⟩

/-- The node after its `setup`, the gateway before its first slot, with objects fresh from their
constructors. -/
def start (nodeMemory gatewayMemory : Memory) (node gateway : Nrf24) : Link :=
  let setup := (nodeSetup (Rf24.new nodeMemory)).run exec node
  { nodeRadio := setup.1, node := setup.2, gatewayRadio := Rf24.new gatewayMemory, gateway
    inSlot := false, found := false }

/-- The chips at the start, with any settings but these: the node asks for acknowledgements and the gateway
gives them on every pipe, as after power-on, and the gateway has not received anything yet. -/
structure Fresh (node gateway : Nrf24) : Prop where
  asks : node.acknowledges 0
  acks : ∀ pipe < 6, gateway.acknowledges pipe
  empty : gateway.rxFifo = []
  last : gateway.last = none

theorem fresh_reset (plus plus' : Bool) : Fresh (Nrf24.reset plus) (Nrf24.reset plus') :=
  ⟨by cases plus <;> decide, by cases plus' <;> decide, rfl, rfl⟩

theorem sound_start (nodeMemory gatewayMemory : Memory) {node gateway : Nrf24} (hfresh : Fresh node gateway) :
    Sound checksum node gateway [] (start nodeMemory gatewayMemory node gateway) := by
  have hsize : (Rf24.new nodeMemory).payloadSize = 32 := rfl
  obtain ⟨radio, next, hrun, hready, hwidth⟩ := ready_nodeSetup hsize rfl hfresh.asks
  rw [start, hrun]
  refine ⟨hready, hwidth, ⟨rfl, rfl, rfl⟩, fun hslot => absurd hslot Bool.false_ne_true, rfl, hfresh.acks,
    fun hfound => absurd hfound Bool.false_ne_true, ?_, fun number sum hsome => ?_, ?_⟩
  · dsimp only
    rw [hfresh.empty]
    exact fun _ hentry => absurd hentry List.not_mem_nil
  · cases hfresh.last.symm.trans hsome
  · dsimp only
    rw [hfresh.empty]
    exact .nil

theorem sound_run {nodeMemory gatewayMemory : Memory} {node gateway : Nrf24} (hfresh : Fresh node gateway)
    {events : List LinkEvent} {result : Link × List (Channels.Signal (List Byte))}
    (hrun : Runs.run (step checksum) (start nodeMemory gatewayMemory node gateway) events = some result) :
    Sound checksum node gateway result.2 result.1 := by
  apply Runs.run_invariant (P := fun _ signals link => Sound checksum node gateway signals link)
    (G := fun _ _ => True) (sound_start nodeMemory gatewayMemory hfresh) ?_
    (Runs.along_of_forall (fun _ _ => trivial) _ events) hrun
  intro _ signals link event next hsound _ hstep
  cases event with
  | write buf len attempts polls =>
      obtain ⟨next', out, hnext, hsound'⟩ := hsound.write buf len attempts polls
      obtain rfl := Option.some.inj (hnext.symm.trans hstep)
      exact hsound'
  | available => exact hsound.available hstep
  | read => exact hsound.read hstep
  | slotStart => exact hsound.slotStart hstep
  | slotEnd => exact hsound.slotEnd hstep

/-- Over every interleaving of the node's writes and the gateway's slots the link is a lossy queue of
three payloads: what the gateway reads was written in this order, none of it twice, however often the
chips repeat a packet. Of the payloads that the node was told have arrived in a slot, only what is still in
the FIFO has not been read, and what the chip has thrown away as the copy of the last payload taken. Such a
payload has the checksum of that one, and the number of writes from there is a multiple of four. -/
theorem link_refines_channel (checksum : Frame → BitVec 16) (nodeMemory gatewayMemory : Memory)
    (node gateway : Nrf24) (hfresh : Fresh node gateway) (events : List LinkEvent) (link : Link)
    (signals : List (Channels.Signal (List Byte)))
    (hrun : Runs.run (step checksum) (start nodeMemory gatewayMemory node gateway) events =
      some (link, signals)) :
    let queue := link.gateway.rxFifo.map Prod.snd
    Channels.Trace (rules checksum node) signals queue ∧ queue.length ≤ 3 ∧
      (Channels.gets signals ++ queue).Sublist (Channels.puts signals) ∧
      ∀ before slot, signals = before ++ .reset :: slot → .reset ∉ slot →
        (Channels.acknowledged slot).Sublist (Channels.gets slot ++ queue) := by
  have htrace := (sound_run hfresh hrun).trace
  refine ⟨htrace, htrace.length_le, htrace.gets_sublist, fun before slot hsplit hslot => ?_⟩
  rw [hsplit] at htrace
  exact htrace.acknowledged_sublist hslot

/-- The checksum of the examples: the sum of the bytes. -/
def sampleChecksum (frame : Frame) : BitVec 16 :=
  (frame.address ++ frame.payload).foldl (fun sum byte => sum + byte.setWidth 16) (frame.number.setWidth 16)

/-- A slot in which the node writes `A`, which it sends twice because the first acknowledgement is lost, and
the gateway reads it once. -/
theorem link_refines_channel_slot :
    ∃ link signals, Runs.run (step sampleChecksum)
        (start (fun _ => 0) (fun _ => 0) (Nrf24.reset true) (Nrf24.reset false))
        [.slotStart, .write (fun _ => 0x41) 1 [⟨true, false⟩, ⟨true, true⟩] 0, .available, .read, .available] =
          some (link, signals) ∧
      link.found = false ∧ (Channels.gets signals).Sublist (Channels.puts signals) := by
  have hrun : (Runs.run (step sampleChecksum)
      (start (fun _ => 0) (fun _ => 0) (Nrf24.reset true) (Nrf24.reset false))
      [.slotStart, .write (fun _ => 0x41) 1 [⟨true, false⟩, ⟨true, true⟩] 0, .available, .read, .available]).map
        (fun result => result.1.found) = some false := by decide +kernel
  obtain ⟨⟨link, signals⟩, hrun, hfound⟩ := Option.map_eq_some_iff.mp hrun
  exact ⟨link, signals, hrun, hfound, (List.sublist_append_left _ _).trans
    (link_refines_channel _ _ _ _ _ (fresh_reset true false) _ link signals hrun).2.2.1⟩

/-- From any registers of both chips: in a slot whose FIFO has room, a payload that gets through is
acknowledged and taken on pipe 0, read next after those before it, if the two chips have the same address
width, except that the copy of the last payload taken is thrown away; with another width none is ever taken.
Nothing the programs call writes the width. -/
theorem link_delivers (checksum : Frame → BitVec 16) (nodeMemory gatewayMemory : Memory)
    (node gateway : Nrf24) (hfresh : Fresh node gateway) (events : List LinkEvent) (link : Link)
    (signals : List (Channels.Signal (List Byte)))
    (hrun : Runs.run (step checksum) (start nodeMemory gatewayMemory node gateway) events =
      some (link, signals))
    (hslot : link.inSlot = true) (hroom : link.gateway.rxFifo.length < 3) (buf : Memory) (len : Byte)
    (attempts : List Attempt) (hthrough : GetsThrough (attempts.take 16)) (polls : ℕ) :
    let payload := payloadOf link.nodeRadio buf len
    let sameWidth := node.regs SETUP_AW &&& 3 = gateway.regs SETUP_AW &&& 3
    ∃ next taken, step checksum link (.write buf len attempts polls) =
        some (next, [.put payload (decide sameWidth) taken]) ∧
      next.gateway.rxFifo = (if taken then link.gateway.rxFifo ++ [(0, payload)] else link.gateway.rxFifo) ∧
      (¬sameWidth → taken = false) ∧
      (sameWidth → ¬Channels.Copy (rules checksum node) signals payload → taken = true) := by
  have h : Sound checksum node gateway signals link := sound_run hfresh hrun
  intro payload sameWidth
  by_cases hwidth : sameWidth
  · obtain ⟨next, hstep, _⟩ := h.deliver hslot hroom hwidth buf len hthrough polls
    rw [decide_eq_true hwidth]
    refine ⟨_, _, hstep, ?_, fun hne => absurd hwidth hne,
      fun _ hcopy => decide_eq_true fun hlast => hcopy (h.remembers.copy hlast)⟩
    simp only [decide_eq_true_eq, ite_not]
    split
    · rfl
    · rfl
  · obtain ⟨next, hstep⟩ := h.miss hwidth buf len attempts polls
    rw [decide_eq_false hwidth]
    exact ⟨_, _, hstep, rfl, fun _ => rfl, fun hsame => absurd hsame hwidth⟩

/-- Two chips fresh from power-on have the same width. -/
theorem link_delivers_slot :
    ∃ link signals next taken, Runs.run (step sampleChecksum)
        (start (fun _ => 0) (fun _ => 0) (Nrf24.reset true) (Nrf24.reset false)) [.slotStart] =
          some (link, signals) ∧
      step sampleChecksum link (.write (fun _ => 0x41) 1 [⟨false, false⟩, ⟨true, true⟩] 0) =
        some (next, [.put (payloadOf link.nodeRadio (fun _ => 0x41) 1) true taken]) := by
  obtain ⟨⟨link, signals⟩, hrun⟩ := Option.isSome_iff_exists.mp (show (Runs.run (step sampleChecksum)
    (start (fun _ => 0) (fun _ => 0) (Nrf24.reset true) (Nrf24.reset false)) [.slotStart]).isSome = true by rfl)
  have hslot : (Runs.run (step sampleChecksum)
      (start (fun _ => 0) (fun _ => 0) (Nrf24.reset true) (Nrf24.reset false))
      [.slotStart]).map (fun result => (result.1.inSlot, result.1.gateway.rxFifo.length)) =
        some (true, 0) := by rfl
  rw [hrun, Option.map_some, Option.some.injEq, Prod.mk.injEq] at hslot
  obtain ⟨next, taken, hnext, _⟩ := link_delivers _ _ _ (Nrf24.reset true) (Nrf24.reset false)
    (fresh_reset true false) _ link signals hrun hslot.1 (by rw [hslot.2]; decide) (fun _ => 0x41) 1
    [⟨false, false⟩, ⟨true, true⟩] ⟨⟨true, true⟩, rfl, rfl⟩ 0
  exact ⟨link, signals, next, taken, hrun, hnext⟩

end Link

end LinuxGateway.RfDriver
