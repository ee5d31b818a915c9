import LinuxGateway.LibRegisters
import LinuxGateway.LibScript
import Mathlib.Tactic.Simps.Basic

/-! The RF24 driver (`RF24.cpp`) down to its SPI transactions. The chip is what its data sheet says of
the commands the driver uses: three registers hold addresses of up to five bytes, the others one byte;
a one written to an interrupt flag clears it; `FIFO_STATUS` and the rest of `NRF_STATUS` follow the two
FIFOs of three payloads. The older nRF24L01 has no rate of 250 kbps, and `FEATURE` and `DYNPD` are locked
until they are activated. A delay does nothing here. -/

namespace LinuxGateway.RfDriver

open Scripts Registers

abbrev Byte := BitVec 8

def NRF_CONFIG : Byte := 0x00
def EN_AA : Byte := 0x01
def EN_RXADDR : Byte := 0x02
def SETUP_AW : Byte := 0x03
def SETUP_RETR : Byte := 0x04
def RF_CH : Byte := 0x05
def RF_SETUP : Byte := 0x06
def NRF_STATUS : Byte := 0x07
def OBSERVE_TX : Byte := 0x08
def CD : Byte := 0x09
def RX_ADDR_P0 : Byte := 0x0A
def RX_ADDR_P1 : Byte := 0x0B
def RX_ADDR_P2 : Byte := 0x0C
def RX_ADDR_P3 : Byte := 0x0D
def RX_ADDR_P4 : Byte := 0x0E
def RX_ADDR_P5 : Byte := 0x0F
def TX_ADDR : Byte := 0x10
def RX_PW_P0 : Byte := 0x11
def RX_PW_P1 : Byte := 0x12
def RX_PW_P2 : Byte := 0x13
def RX_PW_P3 : Byte := 0x14
def RX_PW_P4 : Byte := 0x15
def RX_PW_P5 : Byte := 0x16
def FIFO_STATUS : Byte := 0x17
def DYNPD : Byte := 0x1C
def FEATURE : Byte := 0x1D

def R_REGISTER : Byte := 0x00
def W_REGISTER : Byte := 0x20
def REGISTER_MASK : Byte := 0x1F
def ACTIVATE : Byte := 0x50
def R_RX_PAYLOAD : Byte := 0x61
def W_TX_PAYLOAD : Byte := 0xA0
def W_TX_PAYLOAD_NO_ACK : Byte := 0xB0
def FLUSH_TX : Byte := 0xE1
def FLUSH_RX : Byte := 0xE2
def RF24_NOP : Byte := 0xFF

/-- `_BV(x)` -/
def BV (bit : ℕ) : Byte := 1 <<< bit

def EN_CRC : ℕ := 3
def CRCO : ℕ := 2
def PWR_UP : ℕ := 1
def PRIM_RX : ℕ := 0
def ERX_P0 : ℕ := 0
def ARD : ℕ := 4
def ARC : ℕ := 0
def RX_DR : ℕ := 6
def TX_DS : ℕ := 5
def MAX_RT : ℕ := 4
def RX_P_NO : ℕ := 1
def TX_FULL : ℕ := 0
def FIFO_FULL : ℕ := 5
def TX_EMPTY : ℕ := 4
def RX_FULL : ℕ := 1
def RX_EMPTY : ℕ := 0
def EN_DPL : ℕ := 2
def EN_ACK_PAY : ℕ := 1
def RF_DR_LOW : ℕ := 5
def RF_DR_HIGH : ℕ := 3

/-- `_BV(RX_DR) | _BV(TX_DS) | _BV(MAX_RT)` -/
def allFlags : Byte := BV RX_DR ||| BV TX_DS ||| BV MAX_RT

def ofBool (b : Bool) : Byte := if b then 1 else 0

/-! ### The chip -/

/-- The bytes at a pointer. -/
abbrev Memory := ℕ → Byte

structure Nrf24 where
  /-- An nRF24L01+. -/
  plus : Bool
  /-- The older chip has been sent `ACTIVATE`. -/
  activated : Bool
  regs : Byte → Byte
  /-- The registers of five bytes. -/
  addrs : Byte → Memory
  ce : Bool
  /-- Received payloads with their pipes. -/
  rxFifo : List (Byte × List Byte)
  /-- Payloads to be sent, with their numbers. -/
  txFifo : List (BitVec 2 × List Byte)
  /-- The number of the next payload to be sent, `PID` in a packet. -/
  pid : BitVec 2
  /-- The number and the checksum of the last packet taken. No command makes the chip forget them. -/
  last : Option (BitVec 2 × BitVec 16)

namespace Nrf24

/-- How many payloads a FIFO holds. -/
def fifoSize : ℕ := 3

def isAddress (reg : Byte) : Prop := reg = RX_ADDR_P0 ∨ reg = RX_ADDR_P1 ∨ reg = TX_ADDR

instance (reg : Byte) : Decidable (isAddress reg) := inferInstanceAs (Decidable (_ ∨ _))

/-- `FEATURE` and `DYNPD` can be written, and what they hold counts. -/
def unlocked (chip : Nrf24) : Bool := chip.plus || chip.activated

/-- The pipe of the payload that would be read next, 7 for none. -/
def rxPipe (chip : Nrf24) : Byte :=
  match chip.rxFifo with
  | [] => 7
  | (pipe, _) :: _ => pipe

def status (chip : Nrf24) : Byte :=
  (chip.regs NRF_STATUS &&& allFlags) ||| (chip.rxPipe &&& 7) <<< RX_P_NO |||
    ofBool (chip.txFifo.length = fifoSize) <<< TX_FULL

def fifoStatus (chip : Nrf24) : Byte :=
  ofBool (chip.txFifo.length = fifoSize) <<< FIFO_FULL ||| ofBool chip.txFifo.isEmpty <<< TX_EMPTY |||
    ofBool (chip.rxFifo.length = fifoSize) <<< RX_FULL ||| ofBool chip.rxFifo.isEmpty <<< RX_EMPTY

/-- One byte of a register. -/
def read (chip : Nrf24) (reg : Byte) (i : ℕ) : Byte :=
  if reg = NRF_STATUS then chip.status
  else if reg = FIFO_STATUS then chip.fifoStatus
  else if isAddress reg then chip.addrs reg i
  else chip.regs reg

/-- What a register of one byte holds after a byte was written to it. -/
def stored (chip : Nrf24) (reg byte : Byte) : Byte :=
  if reg = NRF_STATUS then chip.regs reg &&& ~~~byte
  else if reg = RF_SETUP ∧ ¬chip.plus then byte &&& ~~~BV RF_DR_LOW
  else if (reg = FEATURE ∨ reg = DYNPD) ∧ ¬chip.unlocked then chip.regs reg
  else if reg = OBSERVE_TX ∨ reg = CD ∨ reg = FIFO_STATUS then chip.regs reg
  else byte

/-- The low bytes of an address are replaced, the others stay. -/
def storedAddr (old : Memory) (bytes : List Byte) : Memory := fun i => bytes.getD i (old i)

def write (chip : Nrf24) (reg : Byte) (bytes : List Byte) : Nrf24 :=
  if isAddress reg then
    { chip with addrs := Function.update chip.addrs reg (storedAddr (chip.addrs reg) bytes) }
  else
    match bytes with
    | [] => chip
    | byte :: _ => { chip with regs := Function.update chip.regs reg (chip.stored reg byte) }

@[simps] def setCe (chip : Nrf24) (level : Bool) : Nrf24 := { chip with ce := level }

@[simps] def flushRx (chip : Nrf24) : Nrf24 := { chip with rxFifo := [] }

@[simps] def flushTx (chip : Nrf24) : Nrf24 := { chip with txFifo := [] }

@[simps] def setActivated (chip : Nrf24) (activated : Bool) : Nrf24 := { chip with activated }

/-- The answer to a command behind the status, and the chip after it. -/
def command (chip : Nrf24) (cmd : Byte) (data : List Byte) : List Byte × Nrf24 :=
  let zeros := List.replicate data.length (0 : Byte)
  if cmd &&& 0xE0 = R_REGISTER then
    ((List.range data.length).map (chip.read (cmd &&& REGISTER_MASK)), chip)
  else if cmd &&& 0xE0 = W_REGISTER then (zeros, chip.write (cmd &&& REGISTER_MASK) data)
  else if cmd = R_RX_PAYLOAD then
    match chip.rxFifo with
    | [] => (zeros, chip)
    | (_, payload) :: rest =>
        ((List.range data.length).map (payload.getD · 0), { chip with rxFifo := rest })
  else if cmd = W_TX_PAYLOAD ∨ cmd = W_TX_PAYLOAD_NO_ACK then
    (zeros,
      if chip.txFifo.length < fifoSize then
        { chip with txFifo := chip.txFifo ++ [(chip.pid, data)], pid := chip.pid + 1 }
      else chip)
  else if cmd = FLUSH_TX then (zeros, chip.flushTx)
  else if cmd = FLUSH_RX then (zeros, chip.flushRx)
  else if cmd = ACTIVATE ∧ data = [0x73] then
    (zeros, chip.setActivated (chip.activated ^^ !chip.plus))
  else (zeros, chip)

/-- A transaction: the status comes back while the command goes out. -/
def transfer (chip : Nrf24) : List Byte → List Byte × Nrf24
  | [] => ([], chip)
  | cmd :: data => (chip.status :: (chip.command cmd data).1, (chip.command cmd data).2)

end Nrf24

inductive Op where
  /-- The bytes between a falling and a rising edge of CSN. -/
  | transfer (tx : List Byte)
  | ce (level : Bool)

def exec : Op → Nrf24 → List Byte × Nrf24
  | .transfer tx, chip => chip.transfer tx
  | .ce level, chip => ([], chip.setCe level)

abbrev Driver := Script Op (List Byte)

/-! ### Register access -/

/-- `csn(LOW); ...; csn(HIGH);` around some bytes. -/
def transfernb (tx : List Byte) : Driver (List Byte) := Script.call (.transfer tx)

def ce (level : Bool) : Driver Unit := do
  let _ ← Script.call (.ce level)

def readRegister (reg : Byte) : Driver Byte := do
  let rx ← transfernb [R_REGISTER ||| (REGISTER_MASK &&& reg), RF24_NOP]
  return rx.getD 1 0

/-- `write_register(reg, buf, len)` -/
def writeRegisterBytes (reg : Byte) (buf : Memory) (len : Byte) : Driver Byte := do
  let rx ← transfernb ((W_REGISTER ||| (REGISTER_MASK &&& reg)) :: (List.range len.toNat).map buf)
  return rx.getD 0 0

def writeRegister (reg value : Byte) : Driver Byte := do
  let rx ← transfernb [W_REGISTER ||| (REGISTER_MASK &&& reg), value]
  return rx.getD 0 0

/-- `write_register(reg, (read_register(reg) & keep) | value)`, which most setters are. -/
def modifyRegister (reg keep value : Byte) : Driver Unit := do
  let old ← readRegister reg
  let _ ← writeRegister reg ((old &&& keep) ||| value)

def spiTrans (cmd : Byte) : Driver Byte := do
  let rx ← transfernb [cmd]
  return rx.getD 0 0

def getStatus : Driver Byte := spiTrans RF24_NOP

def flushRx : Driver Byte := spiTrans FLUSH_RX

def flushTx : Driver Byte := spiTrans FLUSH_TX

/-! ### The object -/

/-- The fields of `RF24` that the driver reads back. -/
structure Rf24 where
  pVariant : Bool
  payloadSize : Byte
  dynamicPayloadsEnabled : Bool
  addrWidth : Byte
  /-- `uint8_t pipe0_reading_address[5]` -/
  pipe0ReadingAddress : Memory

/-- The constructor sets one byte of `pipe0_reading_address`. -/
def Rf24.new (memory : Memory) : Rf24 where
  pVariant := false
  payloadSize := 32
  dynamicPayloadsEnabled := false
  addrWidth := 5
  pipe0ReadingAddress := Function.update memory 0 0

def rf24Min (a b : Byte) : Byte := if a < b then a else b

def setChannel (channel : Byte) : Driver Unit := do
  let _ ← writeRegister RF_CH (rf24Min channel 125)

inductive DataRate where
  | rf24_1mbps
  | rf24_2mbps
  | rf24_250kbps
  deriving DecidableEq

def DataRate.bits : DataRate → Byte
  | rf24_1mbps => 0
  | rf24_2mbps => BV RF_DR_HIGH
  | rf24_250kbps => BV RF_DR_LOW

/-- The two bits of the rate are read back to see whether the chip has taken them. -/
def setDataRate (speed : DataRate) : Driver Bool := do
  let old ← readRegister RF_SETUP
  let setup := (old &&& ~~~(BV RF_DR_LOW ||| BV RF_DR_HIGH)) ||| speed.bits
  let _ ← writeRegister RF_SETUP setup
  let new ← readRegister RF_SETUP
  return decide (new = setup)

inductive CrcLength where
  | disabled
  | crc8
  | crc16
  deriving DecidableEq

def setRetries (delay count : Byte) : Driver Unit := do
  let _ ← writeRegister SETUP_RETR ((delay &&& 0xf) <<< ARD ||| (count &&& 0xf) <<< ARC)

/-- On the Raspberry Pi the hardware drives CSN, and lifts it after each byte of `_SPI.transfer`. -/
def toggleFeatures (linux : Bool) : Driver Unit :=
  if linux then do
    let _ ← spiTrans ACTIVATE
    let _ ← spiTrans 0x73
  else do
    let _ ← transfernb [ACTIVATE, 0x73]

def disableDynamicPayloads (radio : Rf24) : Driver Rf24 := do
  let _ ← writeRegister FEATURE 0
  let _ ← writeRegister DYNPD 0
  return { radio with dynamicPayloadsEnabled := false }

/-- Nothing is written when the chip is up already. -/
def powerUp : Driver Unit := do
  let cfg ← readRegister NRF_CONFIG
  if cfg &&& BV PWR_UP = 0 then
    let _ ← writeRegister NRF_CONFIG (cfg ||| BV PWR_UP)

def powerDown : Driver Unit := do
  ce false
  modifyRegister NRF_CONFIG (~~~BV PWR_UP) 0

/-- `begin`, from the first write to the chip on; the result tells whether a chip has answered. -/
def begin (linux : Bool) (radio : Rf24) : Driver (Bool × Rf24) := do
  ce false
  let _ ← writeRegister NRF_CONFIG 0x0C
  setRetries 5 15
  let slow ← setDataRate .rf24_250kbps
  let setup ← readRegister RF_SETUP
  let _ ← setDataRate .rf24_1mbps
  toggleFeatures linux
  let radio ← disableDynamicPayloads { radio with pVariant := radio.pVariant || slow }
  let _ ← writeRegister NRF_STATUS allFlags
  setChannel 76
  let _ ← flushRx
  let _ ← flushTx
  powerUp
  modifyRegister NRF_CONFIG (~~~BV PRIM_RX) 0
  return (decide (setup ≠ 0 ∧ setup ≠ 0xff), radio)

/-! ### Pipes -/

def childPipe : List Byte := [RX_ADDR_P0, RX_ADDR_P1, RX_ADDR_P2, RX_ADDR_P3, RX_ADDR_P4, RX_ADDR_P5]

def childPayloadSize : List Byte := [RX_PW_P0, RX_PW_P1, RX_PW_P2, RX_PW_P3, RX_PW_P4, RX_PW_P5]

/-- `child_pipe_enable[pipe]` is `pipe`. -/
def closePipe (pipe : ℕ) : Driver Unit := modifyRegister EN_RXADDR (~~~BV pipe) 0

def enablePipe (pipe : ℕ) : Driver Unit := modifyRegister EN_RXADDR 0xFF (BV pipe)

/-- `none` for a read past the end of `child_pipe_enable`. -/
def closeReadingPipe (pipe : Byte) : Option (Driver Unit) :=
  if pipe.toNat < 6 then some (closePipe pipe.toNat) else none

def openWritingPipe (radio : Rf24) (address : Memory) : Driver Unit := do
  let _ ← writeRegisterBytes RX_ADDR_P0 address radio.addrWidth
  let _ ← writeRegisterBytes TX_ADDR address radio.addrWidth
  let _ ← writeRegister RX_PW_P0 radio.payloadSize

/-- `memcpy(pipe0_reading_address, address, addr_width)` -/
def cacheAddress (radio : Rf24) (address : Memory) : Rf24 :=
  { radio with pipe0ReadingAddress := fun i =>
      if i < radio.addrWidth.toNat then address i else radio.pipe0ReadingAddress i }

/-- The transfers for a pipe with its registers; pipes 2 to 5 have one byte of their own. -/
def openPipe (radio : Rf24) (child : ℕ) (pipe payloadSize : Byte) (address : Memory) : Driver Unit := do
  let _ ← writeRegisterBytes pipe address (if child < 2 then radio.addrWidth else 1)
  let _ ← writeRegister payloadSize radio.payloadSize
  enablePipe child

/-- The test `child <= 6` lets a child through that the tables do not have. -/
def openReadingPipe (radio : Rf24) (child : Byte) (address : Memory) : Option (Driver Rf24) :=
  let cached := if child = 0 then cacheAddress radio address else radio
  if child ≤ 6 then
    childPipe[child.toNat]?.bind fun pipe =>
      childPayloadSize[child.toNat]?.map fun payloadSize => do
        openPipe radio child.toNat pipe payloadSize address
        return cached
  else some (pure cached)

/-- `if (read_register(FEATURE) & _BV(EN_ACK_PAY)) flush_tx();` -/
def flushAcks : Driver Unit := do
  let feature ← readRegister FEATURE
  if feature &&& BV EN_ACK_PAY ≠ 0 then
    let _ ← flushTx

/-- The address that `openWritingPipe` has overwritten comes back; without one the pipe is closed. -/
def restorePipe0 (radio : Rf24) : Driver Unit :=
  if radio.pipe0ReadingAddress 0 > 0 then do
    let _ ← writeRegisterBytes RX_ADDR_P0 radio.pipe0ReadingAddress radio.addrWidth
  else closePipe 0

def startListening (radio : Rf24) : Driver Unit := do
  powerUp
  modifyRegister NRF_CONFIG 0xFF (BV PRIM_RX)
  let _ ← writeRegister NRF_STATUS allFlags
  ce true
  restorePipe0 radio
  flushAcks

def stopListening : Driver Unit := do
  ce false
  flushAcks
  modifyRegister NRF_CONFIG (~~~BV PRIM_RX) 0
  enablePipe ERX_P0

/-! ### Payloads -/

/-- The bytes of a payload: so many of the buffer, then blanks unless payloads are dynamic. -/
def payloadOf (radio : Rf24) (buf : Memory) (dataLen : Byte) : List Byte :=
  let dataLen := rf24Min dataLen radio.payloadSize
  let blankLen := if radio.dynamicPayloadsEnabled then 0 else radio.payloadSize - dataLen
  (List.range dataLen.toNat).map buf ++ List.replicate blankLen.toNat 0

def writePayload (radio : Rf24) (buf : Memory) (dataLen writeType : Byte) : Driver Byte := do
  let rx ← transfernb (writeType :: payloadOf radio buf dataLen)
  return rx.getD 0 0

/-- What is stored from `buf` on. -/
def readPayload (radio : Rf24) (dataLen : Byte) : Driver (List Byte) := do
  let dataLen := if dataLen > radio.payloadSize then radio.payloadSize else dataLen
  let blankLen := if radio.dynamicPayloadsEnabled then 0 else radio.payloadSize - dataLen
  let rx ← transfernb (R_RX_PAYLOAD :: List.replicate (dataLen.toNat + blankLen.toNat) RF24_NOP)
  return (rx.drop 1).take dataLen.toNat

def startFastWrite (radio : Rf24) (buf : Memory) (len : Byte) (multicast startTx : Bool) : Driver Unit := do
  let _ ← writePayload radio buf len (if multicast then W_TX_PAYLOAD_NO_ACK else W_TX_PAYLOAD)
  if startTx then ce true

/-- The status is read until it tells how the transmission ended, `polls` times within the 95 ms. -/
def waitSent : ℕ → Driver Bool
  | 0 => pure false
  | polls + 1 => do
      let status ← getStatus
      if status &&& (BV TX_DS ||| BV MAX_RT) ≠ 0 then pure true else waitSent polls

/-- The end of `write`. A payload that nobody has acknowledged is thrown away. -/
def endWrite : Driver Bool := do
  ce false
  let status ← writeRegister NRF_STATUS allFlags
  if status &&& BV MAX_RT ≠ 0 then
    let _ ← flushTx
    return false
  else return true

/-- `write` from its wait on. -/
def finishWrite (polls : ℕ) : Driver Bool := do
  let sent ← waitSent polls
  if sent then endWrite else return false

def available : Driver Bool := do
  let fifo ← readRegister FIFO_STATUS
  return decide (fifo &&& BV RX_EMPTY = 0)

def read (radio : Rf24) (len : Byte) : Driver (List Byte) := do
  let bytes ← readPayload radio len
  let _ ← writeRegister NRF_STATUS allFlags
  return bytes

/-! ### What the transactions do -/

namespace Nrf24

variable (chip : Nrf24) {reg : Byte} (bytes : List Byte)

/-- A write changes registers only. -/
theorem write_eq : ∃ regs addrs, chip.write reg bytes = { chip with regs, addrs } := by
  unfold write
  split
  · exact ⟨_, _, rfl⟩
  · split
    · exact ⟨_, _, rfl⟩
    · exact ⟨_, _, rfl⟩

@[simp] theorem write_plus : (chip.write reg bytes).plus = chip.plus := by
  obtain ⟨_, _, h⟩ := chip.write_eq bytes
  rw [h]

@[simp] theorem write_activated : (chip.write reg bytes).activated = chip.activated := by
  obtain ⟨_, _, h⟩ := chip.write_eq bytes
  rw [h]

@[simp] theorem write_ce : (chip.write reg bytes).ce = chip.ce := by
  obtain ⟨_, _, h⟩ := chip.write_eq bytes
  rw [h]

@[simp] theorem write_rxFifo : (chip.write reg bytes).rxFifo = chip.rxFifo := by
  obtain ⟨_, _, h⟩ := chip.write_eq bytes
  rw [h]

@[simp] theorem write_txFifo : (chip.write reg bytes).txFifo = chip.txFifo := by
  obtain ⟨_, _, h⟩ := chip.write_eq bytes
  rw [h]

@[simp] theorem write_last : (chip.write reg bytes).last = chip.last := by
  obtain ⟨_, _, h⟩ := chip.write_eq bytes
  rw [h]

@[simp] theorem setCe_unlocked (level : Bool) : (chip.setCe level).unlocked = chip.unlocked := rfl

@[simp] theorem flushRx_unlocked : chip.flushRx.unlocked = chip.unlocked := rfl

@[simp] theorem flushTx_unlocked : chip.flushTx.unlocked = chip.unlocked := rfl

@[simp] theorem setActivated_unlocked (activated : Bool) :
    (chip.setActivated activated).unlocked = (chip.plus || activated) := rfl

@[simp] theorem write_unlocked : (chip.write reg bytes).unlocked = chip.unlocked := by
  rw [unlocked, write_plus, write_activated, unlocked]

theorem write_regs_of_ne {other : Byte} (h : other ≠ reg) :
    (chip.write reg bytes).regs other = chip.regs other := by
  unfold write
  split
  · rfl
  · split
    · rfl
    · exact Function.update_of_ne h _ _

theorem write_regs_of_address {other : Byte} (h : isAddress reg) :
    (chip.write reg bytes).regs other = chip.regs other := by
  unfold write
  rw [if_pos h]

theorem write_regs_self (h : ¬isAddress reg) (byte : Byte) :
    (chip.write reg [byte]).regs reg = chip.stored reg byte := by
  rw [write, if_neg h]
  exact Function.update_self ..

theorem write_addrs_of_ne {other : Byte} (h : other ≠ reg) :
    (chip.write reg bytes).addrs other = chip.addrs other := by
  unfold write
  split
  · exact Function.update_of_ne h _ _
  · split <;> rfl

theorem write_addrs_of_not_address {other : Byte} (h : ¬isAddress reg) :
    (chip.write reg bytes).addrs other = chip.addrs other := by
  unfold write
  rw [if_neg h]
  split <;> rfl

theorem write_addrs_self (h : isAddress reg) :
    (chip.write reg bytes).addrs reg = storedAddr (chip.addrs reg) bytes := by
  unfold write
  rw [if_pos h]
  exact Function.update_self ..

/-- A register of one byte that is read and written like memory. -/
def Plain (reg : Byte) : Prop :=
  ¬isAddress reg ∧ reg ∉ [NRF_STATUS, RF_SETUP, FEATURE, DYNPD, OBSERVE_TX, CD, FIFO_STATUS]

instance (reg : Byte) : Decidable (Plain reg) := inferInstanceAs (Decidable (_ ∧ _))

theorem stored_of_plain (h : Plain reg) (byte : Byte) : chip.stored reg byte = byte := by
  obtain ⟨_, hspecial⟩ := h
  simp only [List.mem_cons, List.not_mem_nil, or_false, not_or] at hspecial
  obtain ⟨hstatus, hsetup, hfeature, hdynpd, hobserve, hcd, hfifo⟩ := hspecial
  simp [stored, hstatus, hsetup, hfeature, hdynpd, hobserve, hcd, hfifo]

theorem write_regs_of_plain (h : Plain reg) (byte : Byte) : (chip.write reg [byte]).regs reg = byte := by
  rw [write_regs_self chip h.1, stored_of_plain chip h]

/-- Writing what a register holds changes nothing. -/
theorem write_same (h : Plain reg) : chip.write reg [chip.regs reg] = chip := by
  have hstored := stored_of_plain chip h (chip.regs reg)
  unfold write
  rw [if_neg h.1]
  dsimp only
  rw [hstored, Function.update_eq_self]

theorem read_eq_regs (h : ¬isAddress reg ∧ reg ≠ NRF_STATUS ∧ reg ≠ FIFO_STATUS) (i : ℕ) :
    chip.read reg i = chip.regs reg := by
  rw [read, if_neg h.2.1, if_neg h.2.2, if_neg h.1]

end Nrf24

section Transactions

variable (chip : Nrf24)

theorem command_read : ∀ reg : Byte, (R_REGISTER ||| (REGISTER_MASK &&& reg)) &&& 0xE0 = R_REGISTER ∧
    (R_REGISTER ||| (REGISTER_MASK &&& reg)) &&& REGISTER_MASK = reg &&& REGISTER_MASK := by
  decide

theorem command_write : ∀ reg : Byte, (W_REGISTER ||| (REGISTER_MASK &&& reg)) &&& 0xE0 = W_REGISTER ∧
    (W_REGISTER ||| (REGISTER_MASK &&& reg)) &&& REGISTER_MASK = reg &&& REGISTER_MASK := by
  decide

theorem run_transfernb (tx : List Byte) : (transfernb tx).run exec chip = chip.transfer tx := rfl

@[simp] theorem run_ce (level : Bool) : (ce level).run exec chip = ((), chip.setCe level) := rfl

theorem run_readRegister {reg : Byte} (h : reg &&& REGISTER_MASK = reg) :
    (readRegister reg).run exec chip = (chip.read reg 0, chip) := by
  obtain ⟨hcmd, hreg⟩ := command_read reg
  rw [readRegister, Script.run_bind, run_transfernb, Nrf24.transfer, Nrf24.command, if_pos hcmd, hreg, h]
  rfl

theorem run_writeRegister {reg : Byte} (h : reg &&& REGISTER_MASK = reg) (value : Byte) :
    (writeRegister reg value).run exec chip = (chip.status, chip.write reg [value]) := by
  obtain ⟨hcmd, hreg⟩ := command_write reg
  rw [writeRegister, Script.run_bind, run_transfernb, Nrf24.transfer, Nrf24.command,
    if_neg (by rw [hcmd]; decide), if_pos hcmd, hreg, h]
  rfl

theorem run_writeRegisterBytes {reg : Byte} (h : reg &&& REGISTER_MASK = reg) (buf : Memory) (len : Byte) :
    (writeRegisterBytes reg buf len).run exec chip =
      (chip.status, chip.write reg ((List.range len.toNat).map buf)) := by
  obtain ⟨hcmd, hreg⟩ := command_write reg
  rw [writeRegisterBytes, Script.run_bind, run_transfernb, Nrf24.transfer, Nrf24.command,
    if_neg (by rw [hcmd]; decide), if_pos hcmd, hreg, h]
  rfl

theorem run_modifyRegister {reg : Byte} (h : reg &&& REGISTER_MASK = reg)
    (hread : ¬Nrf24.isAddress reg ∧ reg ≠ NRF_STATUS ∧ reg ≠ FIFO_STATUS) (keep value : Byte) :
    (modifyRegister reg keep value).run exec chip =
      ((), chip.write reg [(chip.regs reg &&& keep) ||| value]) := by
  rw [modifyRegister, Script.run_bind, run_readRegister chip h, Script.run_bind, run_writeRegister _ h,
    chip.read_eq_regs hread]
  rfl

@[simp] theorem run_getStatus : getStatus.run exec chip = (chip.status, chip) := rfl

@[simp] theorem run_flushRx : flushRx.run exec chip = (chip.status, chip.flushRx) := rfl

@[simp] theorem run_flushTx : flushTx.run exec chip = (chip.status, chip.flushTx) := rfl

theorem exec_last (op : Op) : (exec op chip).2.last = chip.last := by
  cases op with
  | ce level => rfl
  | transfer tx =>
      cases tx with
      | nil => rfl
      | cons cmd data =>
          show (chip.command cmd data).2.last = chip.last
          unfold Nrf24.command
          dsimp only
          split_ifs
          all_goals first | rfl | exact chip.write_last data | (split <;> rfl)

/-- No program makes a chip forget the last packet. -/
theorem run_last {α : Type} (script : Driver α) : (script.run exec chip).2.last = chip.last := by
  induction script generalizing chip with
  | done result => rfl
  | perform op next ih => exact (ih _ _).trans (exec_last chip op)

end Transactions

end LinuxGateway.RfDriver
