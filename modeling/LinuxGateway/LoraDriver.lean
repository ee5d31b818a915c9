import LinuxGateway.LibRegisters
import LinuxGateway.LibScript
import Mathlib.Data.Int.Notation

/-! The LoRa driver (`LoRa.c`) down to its SPI transfers. The chip is what its data sheet says of the
registers the driver uses: a burst goes through consecutive registers, except that the FIFO register
stands for the buffer behind it; a one written to an interrupt flag clears it; the bit that selects
LoRa can change only in sleep mode. Every SPI transfer succeeds. -/

namespace LinuxGateway.LoraDriver

open Scripts Registers

abbrev Byte := BitVec 8

def REG_FIFO : Byte := 0x00
def REG_OP_MODE : Byte := 0x01
def REG_FR_MSB : Byte := 0x06
def REG_FR_DIM : Byte := 0x07
def REG_FR_LSB : Byte := 0x08
def REG_PA_CONFIG : Byte := 0x09
def REG_OCP : Byte := 0x0B
def REG_LNA : Byte := 0x0C
def REG_FIFO_ADDR_PTR : Byte := 0x0D
def REG_FIFO_TX_BASE_ADDR : Byte := 0x0E
def REG_FIFO_RX_BASE_ADDR : Byte := 0x0F
def REG_FIFO_RX_CURRENT_ADDR : Byte := 0x10
def REG_IRQ_FLAGS : Byte := 0x12
def REG_RX_NB_BYTES : Byte := 0x13
def REG_PKT_SNR_VALUE : Byte := 0x19
def REG_PKT_RSSI_VALUE : Byte := 0x1A
def REG_MODEM_CONFIG_1 : Byte := 0x1D
def REG_MODEM_CONFIG_2 : Byte := 0x1E
def REG_PREAMBLE_MSB : Byte := 0x20
def REG_PREAMBLE_LSB : Byte := 0x21
def REG_PAYLOAD_LENGTH : Byte := 0x22
def REG_MODEM_CONFIG_3 : Byte := 0x26
def REG_DETECT_OPTIMIZE : Byte := 0x31
def REG_DETECTION_THRESHOLD : Byte := 0x37
def REG_SYNC_WORD : Byte := 0x39
def REG_DIO_MAPPING_1 : Byte := 0x40
def REG_PA_DAC : Byte := 0x4d

def TX_BASE_ADDR : Byte := 0x00
def RX_BASE_ADDR : Byte := 0x00
def LORA_MODE : Byte := 0x80
def SLEEP_MODE : Byte := 0x00
def STDBY_MODE : Byte := 0x01
def TX_MODE : Byte := 0x03
def RXCONT_MODE : Byte := 0x05
def IRQ_TXDONE : Byte := 0x08
def IRQ_RXDONE : Byte := 0x40

/-- `0 << 6`: DIO0 rises with `IRQ_RXDONE`. -/
def dioRxMapping : Byte := 0x00

/-- `1 << 6`: DIO0 rises with `IRQ_TXDONE`. -/
def dioTxMapping : Byte := 0x40

/-! ### The chip -/

structure Sx1278 where
  regs : Byte → Byte
  /-- The data buffer that `REG_FIFO` gives access to. -/
  ram : Byte → Byte

namespace Sx1278

/-- What a register holds after a byte was written to it. -/
def stored (reg old byte : Byte) : Byte :=
  if reg = REG_IRQ_FLAGS then old &&& ~~~byte
  else if reg = REG_OP_MODE ∧ old &&& 0x07 ≠ SLEEP_MODE then (byte &&& 0x7f) ||| (old &&& LORA_MODE)
  else byte

/-- One byte written to a register. -/
def write (chip : Sx1278) (reg byte : Byte) : Sx1278 :=
  if reg = REG_FIFO then
    { regs := Function.update chip.regs REG_FIFO_ADDR_PTR (chip.regs REG_FIFO_ADDR_PTR + 1)
      ram := Function.update chip.ram (chip.regs REG_FIFO_ADDR_PTR) byte }
  else { chip with regs := Function.update chip.regs reg (stored reg (chip.regs reg) byte) }

/-- One byte read from a register. -/
def read (chip : Sx1278) (reg : Byte) : Byte × Sx1278 :=
  if reg = REG_FIFO then
    (chip.ram (chip.regs REG_FIFO_ADDR_PTR),
      { chip with regs :=
          Function.update chip.regs REG_FIFO_ADDR_PTR (chip.regs REG_FIFO_ADDR_PTR + 1) })
  else (chip.regs reg, chip)

/-- The register of the next byte of a burst. -/
def nextReg (reg : Byte) : Byte := if reg = REG_FIFO then reg else reg + 1

def writeBurst : Sx1278 → Byte → List Byte → Sx1278
  | chip, _, [] => chip
  | chip, reg, byte :: bytes => (chip.write reg byte).writeBurst (nextReg reg) bytes

def readBurst : Sx1278 → Byte → ℕ → List Byte × Sx1278
  | chip, _, 0 => ([], chip)
  | chip, reg, n + 1 =>
      let first := chip.read reg
      let rest := first.2.readBurst (nextReg reg) n
      (first.1 :: rest.1, rest.2)

/-- A transfer: the top bit of the first byte tells a write from a read. -/
def xfer (chip : Sx1278) : List Byte → List Byte × Sx1278
  | [] => ([], chip)
  | addr :: data =>
      if addr &&& 0x80 ≠ 0 then
        (List.replicate (data.length + 1) 0, chip.writeBurst (addr &&& 0x7f) data)
      else
        let answer := chip.readBurst addr data.length
        (0 :: answer.1, answer.2)

end Sx1278

/-- The handlers that can be attached to the rising edge of DIO0. -/
inductive Isr where
  | rxDoneISRf
  | txDoneISRf
  deriving DecidableEq

/-- The chip and what pigpio runs when its DIO0 pin rises. -/
structure Host where
  chip : Sx1278
  isr : Option Isr

inductive Op where
  | spiXfer (tx : List Byte)
  | gpioSetISRFunc (handler : Option Isr)

def exec : Op → Host → List Byte × Host
  | .spiXfer tx, host => ((host.chip.xfer tx).1, { host with chip := (host.chip.xfer tx).2 })
  | .gpioSetISRFunc handler, host => ([], { host with isr := handler })

abbrev Driver := Script Op (List Byte)

/-! ### Register access -/

def loraRegReadByte (reg : Byte) : Driver Byte := do
  let rx ← Script.call (.spiXfer [reg, 0x00])
  return rx.getD 1 0

def loraRegWriteByte (reg byte : Byte) : Driver Unit := do
  let _ ← Script.call (.spiXfer [reg ||| 0x80, byte])

def loraRegReadBytes (reg size : Byte) : Driver (List Byte) := do
  let rx ← Script.call (.spiXfer (reg :: List.replicate size.toNat 0))
  return rx.drop 1

def loraRegWriteBytes (reg : Byte) (buff : List Byte) (size : Byte) : Driver Unit := do
  let _ ← Script.call (.spiXfer ((reg ||| 0x80) :: buff.take size.toNat))

/-- The read-modify-write that most setters are. -/
def modifyReg (reg keep value : Byte) : Driver Unit := do
  let old ← loraRegReadByte reg
  loraRegWriteByte reg ((old &&& keep) ||| value)

/-! ### Settings -/

inductive BandWidth where
  | bw7_8 | bw10_4 | bw15_6 | bw20_8 | bw31_25 | bw41_7 | bw62_5 | bw125 | bw250 | bw500
  deriving DecidableEq

def BandWidth.value : BandWidth → Byte
  | bw7_8 => 0x00 | bw10_4 => 0x10 | bw15_6 => 0x20 | bw20_8 => 0x30 | bw31_25 => 0x40
  | bw41_7 => 0x50 | bw62_5 => 0x60 | bw125 => 0x70 | bw250 => 0x80 | bw500 => 0x90

/-- `BW_VAL[bw >> 4]` -/
def BandWidth.hertz : BandWidth → ℕ
  | bw7_8 => 7800 | bw10_4 => 10400 | bw15_6 => 15600 | bw20_8 => 20800 | bw31_25 => 31250
  | bw41_7 => 41700 | bw62_5 => 62500 | bw125 => 125000 | bw250 => 250000 | bw500 => 500000

inductive SpreadingFactor where
  | sf7 | sf8 | sf9 | sf10 | sf11 | sf12
  deriving DecidableEq

def SpreadingFactor.value : SpreadingFactor → Byte
  | sf7 => 0x70 | sf8 => 0x80 | sf9 => 0x90 | sf10 => 0xa0 | sf11 => 0xb0 | sf12 => 0xc0

inductive ErrorCodingRate where
  | cr5 | cr6 | cr7 | cr8
  deriving DecidableEq

def ErrorCodingRate.value : ErrorCodingRate → Byte
  | cr5 => 0x02 | cr6 => 0x04 | cr7 => 0x06 | cr8 => 0x08

inductive OutputPower where
  | op0 | op1 | op2 | op3 | op4 | op5 | op6 | op7 | op8 | op9 | op10 | op11 | op12 | op13 | op14
  | op15 | op16 | op17 | op20
  deriving DecidableEq

def OutputPower.value : OutputPower → Byte
  | op0 => 0 | op1 => 1 | op2 => 2 | op3 => 3 | op4 => 4 | op5 => 5 | op6 => 6 | op7 => 7 | op8 => 8
  | op9 => 9 | op10 => 10 | op11 => 11 | op12 => 12 | op13 => 13 | op14 => 14 | op15 => 15
  | op16 => 16 | op17 => 17 | op20 => 20

inductive PowerAmplifireOutputPin where
  | rfo
  | paBoost
  deriving DecidableEq

def PowerAmplifireOutputPin.value : PowerAmplifireOutputPin → Byte
  | rfo => 0x70
  | paBoost => 0xf0

/-- `LnaGain`; a `Modem_cfg` that nobody filled in holds 0. -/
inductive LnaGain where
  | unset | g1 | g2 | g3 | g4 | g5 | g6
  deriving DecidableEq

def LnaGain.value : LnaGain → Byte
  | unset => 0 | g1 => 1 | g2 => 2 | g3 => 3 | g4 => 4 | g5 => 5 | g6 => 6

/-- `Modem_cfg`, with a frequency of whole hertz. -/
structure ModemCfg where
  bw : BandWidth
  sf : SpreadingFactor
  ecr : ErrorCodingRate
  freq : ℕ
  preambleLen : BitVec 32
  outPower : OutputPower
  powerOutPin : PowerAmplifireOutputPin
  syncWord : Byte
  lnaGain : LnaGain
  lnaBoost : Bool
  agc : Bool
  ocp : Byte
  implicitHeader : Bool
  payloadLen : Byte
  crc : Bool

/-- The first bytes of a number in the memory of the host, which is little-endian. -/
def memory (n : ℕ) (value : BitVec 32) : List Byte :=
  (List.range n).map fun i => (value >>> (8 * i)).setWidth 8

def ofBool (b : Bool) : Byte := if b then 1 else 0

def loraSetSleepMode : Driver Unit := modifyReg REG_OP_MODE 0xf8 SLEEP_MODE

def loraSetSatandbyMode : Driver Unit := modifyReg REG_OP_MODE 0xf8 STDBY_MODE

def loraSetRxcontMode : Driver Unit := modifyReg REG_OP_MODE 0xf8 RXCONT_MODE

def loraSetTxMode : Driver Unit := modifyReg REG_OP_MODE 0xf8 TX_MODE

def loraSetLoraMode : Driver Unit := do
  loraSetSleepMode
  modifyReg REG_OP_MODE 0x7f LORA_MODE

def loraGetOpMode : Driver Byte := do
  let mode ← loraRegReadByte REG_OP_MODE
  return mode &&& 0x07

def loraSetSf (sf : SpreadingFactor) : Driver Unit := modifyReg REG_MODEM_CONFIG_2 0x0f sf.value

def loraSetCrcOn : Driver Unit := modifyReg REG_MODEM_CONFIG_2 0xfb 0x04

def loraSetCrcOff : Driver Unit := modifyReg REG_MODEM_CONFIG_2 0xfb 0

def loraSetBandwidth (bw : BandWidth) : Driver Unit := modifyReg REG_MODEM_CONFIG_1 0x0f bw.value

def loraSetErrorcr (cr : ErrorCodingRate) : Driver Unit := modifyReg REG_MODEM_CONFIG_1 0xf1 cr.value

def loraSetExplicitHeader : Driver Unit := modifyReg REG_MODEM_CONFIG_1 0xfe 0

/-- The one setter that clears nothing first. -/
def loraSetImplicitHeader : Driver Unit := do
  let old ← loraRegReadByte REG_MODEM_CONFIG_1
  loraRegWriteByte REG_MODEM_CONFIG_1 (old ||| 0x01)

def loraSetLowdatarateoptimizeOn : Driver Unit := modifyReg REG_MODEM_CONFIG_3 0xf7 0x08

def loraSetLowdatarateoptimizeOff : Driver Unit := modifyReg REG_MODEM_CONFIG_3 0xf7 0

def loraSetPayload (payload : Byte) : Driver Unit := loraRegWriteByte REG_PAYLOAD_LENGTH payload

def loraSetSyncw (word : Byte) : Driver Unit := loraRegWriteByte REG_SYNC_WORD word

def loraSetAgc (agc : Bool) : Driver Unit := loraRegWriteByte REG_MODEM_CONFIG_3 (ofBool agc <<< 2)

def loraSetLna (lnaGain : LnaGain) (lnaBoost : Bool) : Driver Unit :=
  loraRegWriteByte REG_LNA ((lnaGain.value <<< 5) + ofBool lnaBoost)

/-- `preambleLen` between the two bounds of the source. -/
def clampPreamble (preambleLen : BitVec 32) : BitVec 32 :=
  if preambleLen < 6 then 6 else if preambleLen > 65535 then 65535 else preambleLen

def loraSetPreamble (preambleLen : BitVec 32) : Driver Unit :=
  let len := clampPreamble preambleLen
  let lenRevers : BitVec 32 :=
    (len.setWidth 8).setWidth 32 <<< 8 + ((len >>> 8).setWidth 8).setWidth 32
  loraRegWriteBytes REG_PREAMBLE_MSB (memory 4 lenRevers) 2

/-- `(int)ceil((freq/(32000000.0))*524288)`; a double is close enough to the
quotient for its ceiling (`ceil_eq_ceilFrf`). -/
def ceilFrf (freq : ℕ) : ℕ := (freq * 256 + 15624) / 15625

def loraSetFreq (freq : ℕ) : Driver Unit :=
  let frf := BitVec.ofNat 32 (ceilFrf freq)
  let frfRevers : BitVec 32 :=
    (frf.setWidth 8).setWidth 32 <<< 16 + ((frf >>> 8).setWidth 8).setWidth 32 <<< 8 +
      ((frf >>> 16).setWidth 8).setWidth 32
  loraRegWriteBytes REG_FR_MSB (memory 4 frfRevers) 3

def loraSetOcp (ocp : Byte) : Driver Unit :=
  if ocp = 0 then modifyReg REG_OCP 0xdf 0
  else if ocp.toNat ≤ 120 then
    let ocp := if ocp.toNat < 50 then 50 else ocp.toNat
    loraRegWriteByte REG_OCP (BitVec.ofNat 8 ((ocp - 45) / 5 + 0x20))
  else
    let ocp := if ocp.toNat < 130 then 130 else ocp.toNat
    loraRegWriteByte REG_OCP (BitVec.ofNat 8 ((ocp + 30) / 10 + 0x20))

def loraSetTxPower (power : OutputPower) : PowerAmplifireOutputPin → Driver Unit
  | .rfo => do
      loraRegWriteByte REG_OCP 0x1f
      let power := if power.value ≥ 15 then 15 else if power.value ≤ 0 then 0 else power.value
      loraRegWriteByte REG_PA_DAC 0x84
      loraRegWriteByte REG_PA_CONFIG (PowerAmplifireOutputPin.rfo.value ||| power)
  | .paBoost => do
      loraRegWriteByte REG_OCP 0x1f
      if power = .op20 then
        loraRegWriteByte REG_PA_DAC 0x87
        loraRegWriteByte REG_PA_CONFIG (PowerAmplifireOutputPin.paBoost.value ||| (power.value - 2))
      else
        let power := if power.value ≥ 17 then 17 else if power.value ≤ 2 then 2 else power.value
        loraRegWriteByte REG_PA_DAC 0x84
        loraRegWriteByte REG_PA_CONFIG (PowerAmplifireOutputPin.paBoost.value ||| (power - 2))

def loraSetDioRxMapping : Driver Unit := loraRegWriteByte REG_DIO_MAPPING_1 dioRxMapping

def loraSetDioTxMapping : Driver Unit := loraRegWriteByte REG_DIO_MAPPING_1 dioTxMapping

def loraSetRxdoneDioISR : Driver Unit := do
  let _ ← Script.call (.gpioSetISRFunc (some .rxDoneISRf))

def loraSetTxdoneDioISR : Driver Unit := do
  let _ ← Script.call (.gpioSetISRFunc (some .txDoneISRf))

def loraRemoveDioISR : Driver Unit := do
  let _ ← Script.call (.gpioSetISRFunc none)

def loraSetAddrPtr (addr : Byte) : Driver Unit := loraRegWriteByte REG_FIFO_ADDR_PTR addr

def loraResetIrqFlags : Driver Unit := loraRegWriteByte REG_IRQ_FLAGS 0xff

def loraWriteFifo (buf : List Byte) (size : Byte) : Driver Unit := do
  loraSetAddrPtr TX_BASE_ADDR
  loraSetPayload size
  loraRegWriteBytes REG_FIFO buf size

/-! ### The calls of the library -/

/-- The first two branches of `LoRa_begin`. -/
def loraSetHeader (implicitHeader : Bool) (payloadLen : Byte) : Driver Unit :=
  if implicitHeader then do
    loraSetImplicitHeader
    loraSetPayload payloadLen
  else
    loraSetExplicitHeader

def loraSetCrc (crc : Bool) : Driver Unit := if crc then loraSetCrcOn else loraSetCrcOff

/-- `LoRa_begin` from the reset of the chip on. -/
def LoRaBegin (eth : ModemCfg) : Driver Unit := do
  loraSetLoraMode
  loraSetHeader eth.implicitHeader eth.payloadLen
  loraSetErrorcr eth.ecr
  loraSetBandwidth eth.bw
  loraSetSf eth.sf
  loraSetCrc eth.crc
  loraSetTxPower eth.outPower eth.powerOutPin
  loraSetSyncw eth.syncWord
  loraSetPreamble eth.preambleLen
  loraSetAgc eth.agc
  loraSetLna eth.lnaGain eth.lnaBoost
  loraSetOcp eth.ocp
  loraRegWriteByte REG_FIFO_TX_BASE_ADDR TX_BASE_ADDR
  loraRegWriteByte REG_FIFO_RX_BASE_ADDR RX_BASE_ADDR
  loraRegWriteByte REG_DETECT_OPTIMIZE 0xc3
  loraRegWriteByte REG_DETECTION_THRESHOLD 0x0a
  loraSetFreq eth.freq

/-- What `LoRa_calculate_packet_t` decides: a symbol of `2 ^ sf / bw` seconds is longer than 16 ms. -/
def lowDataRateOptimize (eth : ModemCfg) : Bool :=
  Nat.pow 2 (eth.sf.value >>> 4).toNat * 1000 > 16 * eth.bw.hertz

def loraSetLowdatarateoptimize (on : Bool) : Driver Unit :=
  if on then loraSetLowdatarateoptimizeOn else loraSetLowdatarateoptimizeOff

/-- `if (lora_get_op_mode(spid) != STDBY_MODE) lora_set_satandby_mode(spid);` -/
def ensureStandby : Driver Unit := do
  let mode ← loraGetOpMode
  if mode ≠ STDBY_MODE then loraSetSatandbyMode

def LoRaSend (eth : ModemCfg) (buf : List Byte) (size : Byte) : Driver Unit := do
  ensureStandby
  loraSetLowdatarateoptimize (lowDataRateOptimize eth)
  loraWriteFifo buf (if eth.implicitHeader then eth.payloadLen else size)
  loraSetDioTxMapping
  loraSetTxdoneDioISR
  loraSetTxMode

def LoRaReceive (eth : ModemCfg) : Driver Unit := do
  loraSetLowdatarateoptimize (lowDataRateOptimize eth)
  ensureStandby
  loraSetDioRxMapping
  loraSetRxdoneDioISR
  loraSetRxcontMode

/-- `LoRa_end` does this, too, and closes the SPI device. -/
def LoRaStopReceive : Driver Unit := do
  loraRemoveDioISR
  loraSetSatandbyMode

def LoRaSleep : Driver Unit := do
  loraRemoveDioISR
  loraSetSleepMode

/-- What the handler of a received packet stores in `rx.data`. The source scales `snr` by a quarter. -/
structure RxData where
  bytes : List Byte
  size : Byte
  crc : Bool
  rssi : ℤ
  snr : Byte

/-- The size of the packet that was received. -/
def rxSize (eth : ModemCfg) : Driver Byte :=
  if eth.implicitHeader then pure eth.payloadLen else loraRegReadByte REG_RX_NB_BYTES

/-- The handler of a received packet, with what it stores when the flag was set. `lowBand` is
`freq < 779E6`. -/
def rxDoneISRf (eth : ModemCfg) (lowBand : Bool) : Driver (Option RxData) := do
  let flags ← loraRegReadByte REG_IRQ_FLAGS
  if flags &&& IRQ_RXDONE ≠ 0 then
    let current ← loraRegReadByte REG_FIFO_RX_CURRENT_ADDR
    loraRegWriteByte REG_FIFO_ADDR_PTR current
    let size ← rxSize eth
    let bytes ← loraRegReadBytes REG_FIFO size
    let flags ← loraRegReadByte REG_IRQ_FLAGS
    let rssi ← loraRegReadByte REG_PKT_RSSI_VALUE
    let snr ← loraRegReadByte REG_PKT_SNR_VALUE
    loraResetIrqFlags
    return some
      { bytes, size, crc := flags &&& 0x20 ≠ 0, rssi := rssi.toNat - (if lowBand then 164 else 157), snr }
  else return none

/-- The handler of a finished transmission. -/
def txDoneISRf : Driver Unit := do
  let flags ← loraRegReadByte REG_IRQ_FLAGS
  if flags &&& IRQ_TXDONE ≠ 0 then
    loraResetIrqFlags
    loraSetSatandbyMode

/-! ### What the transfers do -/

section Transfers

variable {reg : Byte} (host : Host)

/-- The registers are changed, and nothing else. -/
def Host.onRegs (f : (Byte → Byte) → Byte → Byte) : Host :=
  { host with chip := { host.chip with regs := f host.chip.regs } }

@[simp] theorem onRegs_regs (f : (Byte → Byte) → Byte → Byte) :
    (host.onRegs f).chip.regs = f host.chip.regs := rfl

@[simp] theorem onRegs_onRegs (f g : (Byte → Byte) → Byte → Byte) :
    (host.onRegs f).onRegs g = host.onRegs fun regs => g (f regs) := rfl

/-- A register that is read and written like memory. -/
def Plain (reg : Byte) : Prop :=
  reg &&& 0x80 = 0 ∧ reg ≠ REG_FIFO ∧ reg ≠ REG_IRQ_FLAGS ∧ reg ≠ REG_OP_MODE

instance (reg : Byte) : Decidable (Plain reg) := inferInstanceAs (Decidable (_ ∧ _))

theorem or_top_and : ∀ reg : Byte, reg &&& 0x80 = 0 →
    (reg ||| 0x80) &&& 0x80 ≠ 0 ∧ (reg ||| 0x80) &&& 0x7f = reg := by
  decide

theorem xfer_read (chip : Sx1278) (htop : reg &&& 0x80 = 0) (data : List Byte) :
    chip.xfer (reg :: data) =
      (0 :: (chip.readBurst reg data.length).1, (chip.readBurst reg data.length).2) := by
  rw [Sx1278.xfer, if_neg (not_not_intro htop)]

theorem xfer_write (chip : Sx1278) (htop : reg &&& 0x80 = 0) (data : List Byte) :
    (chip.xfer ((reg ||| 0x80) :: data)).2 = chip.writeBurst reg data := by
  obtain ⟨hwrite, hreg⟩ := or_top_and reg htop
  rw [Sx1278.xfer, if_pos hwrite, hreg]

theorem run_loraRegReadByte (htop : reg &&& 0x80 = 0) (hfifo : reg ≠ REG_FIFO) :
    (loraRegReadByte reg).run exec host = (host.chip.regs reg, host) := by
  rw [loraRegReadByte, Script.run_bind, Script.run_call, exec, xfer_read _ htop]
  simp [Sx1278.readBurst, Sx1278.read, hfifo]

theorem run_loraRegWriteByte (htop : reg &&& 0x80 = 0) (hfifo : reg ≠ REG_FIFO) (byte : Byte) :
    (loraRegWriteByte reg byte).run exec host =
      ((), host.onRegs fun regs => Function.update regs reg (Sx1278.stored reg (regs reg) byte)) := by
  rw [loraRegWriteByte, Script.run_bind, Script.run_call, exec, xfer_write _ htop]
  simp [Sx1278.writeBurst, Sx1278.write, hfifo, Host.onRegs]

theorem stored_of_plain (h : Plain reg) (old byte : Byte) : Sx1278.stored reg old byte = byte := by
  obtain ⟨_, _, hirq, hmode⟩ := h
  rw [Sx1278.stored, if_neg hirq, if_neg fun h => hmode h.1]

theorem run_loraRegWriteByte_of_plain (h : Plain reg) (byte : Byte) :
    (loraRegWriteByte reg byte).run exec host =
      ((), host.onRegs fun regs => Function.update regs reg byte) := by
  simp only [run_loraRegWriteByte host h.1 h.2.1, stored_of_plain h]

theorem run_modifyReg (htop : reg &&& 0x80 = 0) (hfifo : reg ≠ REG_FIFO) (keep value : Byte) :
    (modifyReg reg keep value).run exec host =
      ((), host.onRegs fun regs =>
        Function.update regs reg (Sx1278.stored reg (regs reg) ((regs reg &&& keep) ||| value))) := by
  rw [modifyReg, Script.run_bind, run_loraRegReadByte host htop hfifo,
    run_loraRegWriteByte host htop hfifo]
  rfl

/-- A change of the mode keeps the bit that selects LoRa, so the chip takes it in every mode. -/
theorem stored_mode : ∀ mode ∈ [SLEEP_MODE, STDBY_MODE, TX_MODE, RXCONT_MODE], ∀ old : Byte,
    Sx1278.stored REG_OP_MODE old ((old &&& 0xf8) ||| mode) = (old &&& 0xf8) ||| mode := by
  decide

end Transfers

end LinuxGateway.LoraDriver
