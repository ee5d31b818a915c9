import LinuxGateway.LoraDriver
import Mathlib.Data.Rat.Floor
import Mathlib.Tactic.Linarith
import Mathlib.Tactic.NormNum

/-! What the driver's setters leave in the registers. Each setter writes one field and no other bit;
`LoRa_begin` is their composition, so the settings that the chip then has are those of the
configuration, whatever the registers held before, with two exceptions: the power of 20 dBm and the
boost of the amplifier of the receiver are written in a way that does not turn them on. -/

namespace LinuxGateway.LoraDriver

open Scripts Registers

def opMode : Field Byte 8 := ⟨REG_OP_MODE, 0x07⟩
def longRangeMode : Field Byte 8 := ⟨REG_OP_MODE, 0x80⟩
def bandWidth : Field Byte 8 := ⟨REG_MODEM_CONFIG_1, 0xf0⟩
def codingRate : Field Byte 8 := ⟨REG_MODEM_CONFIG_1, 0x0e⟩
def implicitHeaderMode : Field Byte 8 := ⟨REG_MODEM_CONFIG_1, 0x01⟩
def spreadingFactor : Field Byte 8 := ⟨REG_MODEM_CONFIG_2, 0xf0⟩
def rxPayloadCrc : Field Byte 8 := ⟨REG_MODEM_CONFIG_2, 0x04⟩
def lowDataRate : Field Byte 8 := ⟨REG_MODEM_CONFIG_3, 0x08⟩
def ocpOn : Field Byte 8 := ⟨REG_OCP, 0x20⟩

section Setters

variable (host : Host)

theorem run_write {reg : Byte} (h : Plain reg) (byte : Byte) :
    (loraRegWriteByte reg byte).run exec host = ((), host.onRegs ((whole reg).set byte)) := by
  rw [run_loraRegWriteByte_of_plain host h]
  simp only [update_eq_whole_set]

/-- A read-modify-write on a plain register writes the field whose bits it clears. -/
theorem run_modify (field : Field Byte 8) (h : Plain field.addr) {keep value : Byte}
    (hkeep : keep = ~~~field.mask) (hvalue : value &&& field.mask = value) :
    (modifyReg field.addr keep value).run exec host = ((), host.onRegs (field.set value)) := by
  rw [run_modifyReg host h.1 h.2.1]
  simp only [stored_of_plain h, field.update_eq_set hkeep hvalue]

theorem run_mode {mode : Byte} (h : mode ∈ [SLEEP_MODE, STDBY_MODE, TX_MODE, RXCONT_MODE]) :
    (modifyReg REG_OP_MODE 0xf8 mode).run exec host = ((), host.onRegs (opMode.set mode)) := by
  have hvalue : mode &&& opMode.mask = mode := by
    revert h mode
    decide
  have hset := opMode.update_eq_set (show (0xf8 : Byte) = ~~~opMode.mask by decide) hvalue
  rw [run_modifyReg host (by decide) (by decide)]
  simp only [stored_mode mode h]
  simp only [opMode] at hset
  simp only [hset, opMode]

theorem run_loraSetSf (sf : SpreadingFactor) :
    (loraSetSf sf).run exec host = ((), host.onRegs (spreadingFactor.set sf.value)) := by
  rw [loraSetSf]
  exact run_modify host spreadingFactor (by decide) (by decide) (by cases sf <;> decide)

theorem run_loraSetBandwidth (bw : BandWidth) :
    (loraSetBandwidth bw).run exec host = ((), host.onRegs (bandWidth.set bw.value)) := by
  rw [loraSetBandwidth]
  exact run_modify host bandWidth (by decide) (by decide) (by cases bw <;> decide)

theorem run_loraSetErrorcr (cr : ErrorCodingRate) :
    (loraSetErrorcr cr).run exec host = ((), host.onRegs (codingRate.set cr.value)) := by
  rw [loraSetErrorcr]
  exact run_modify host codingRate (by decide) (by decide) (by cases cr <;> decide)

theorem run_loraSetCrc (crc : Bool) :
    (loraSetCrc crc).run exec host =
      ((), host.onRegs (rxPayloadCrc.set (if crc then 0x04 else 0))) := by
  cases crc with
  | false => exact run_modify host rxPayloadCrc (by decide) (by decide) (by decide)
  | true => exact run_modify host rxPayloadCrc (by decide) (by decide) (by decide)

theorem run_loraSetLowdatarateoptimize (on : Bool) :
    (loraSetLowdatarateoptimize on).run exec host =
      ((), host.onRegs (lowDataRate.set (if on then 0x08 else 0))) := by
  cases on with
  | false => exact run_modify host lowDataRate (by decide) (by decide) (by decide)
  | true => exact run_modify host lowDataRate (by decide) (by decide) (by decide)

theorem run_loraSetExplicitHeader :
    loraSetExplicitHeader.run exec host = ((), host.onRegs (implicitHeaderMode.set 0)) :=
  run_modify host implicitHeaderMode (by decide) (by decide) (by decide)

theorem run_loraSetImplicitHeader :
    loraSetImplicitHeader.run exec host = ((), host.onRegs (implicitHeaderMode.set 0x01)) := by
  have hor : ∀ old : Byte, old ||| 0x01 = (old &&& ~~~0x01) ||| (0x01 &&& 0x01) := by decide
  rw [loraSetImplicitHeader, Script.run_bind, run_loraRegReadByte host (by decide) (by decide),
    run_loraRegWriteByte_of_plain host (by decide)]
  show ((), host.onRegs fun regs =>
    Function.update regs REG_MODEM_CONFIG_1 (host.chip.regs REG_MODEM_CONFIG_1 ||| 0x01)) = _
  rw [hor]
  rfl

/-- LoRa is selected in sleep mode, where the chip allows it. -/
theorem run_loraSetLoraMode :
    loraSetLoraMode.run exec host =
      ((), host.onRegs fun regs => longRangeMode.set LORA_MODE (opMode.set SLEEP_MODE regs)) := by
  have hstored : ∀ old : Byte, old &&& 0x07 = SLEEP_MODE →
      Sx1278.stored REG_OP_MODE old ((old &&& 0x7f) ||| LORA_MODE) =
        (old &&& ~~~0x80) ||| (LORA_MODE &&& 0x80) := by
    decide
  have hsleep : (opMode.set SLEEP_MODE host.chip.regs) REG_OP_MODE &&& 0x07 = SLEEP_MODE :=
    opMode.get_set SLEEP_MODE host.chip.regs
  rw [loraSetLoraMode, Script.run_bind, loraSetSleepMode, run_mode host (by decide),
    run_modifyReg _ (by decide) (by decide)]
  show ((), host.onRegs fun _ => Function.update (opMode.set SLEEP_MODE host.chip.regs) REG_OP_MODE
    (Sx1278.stored REG_OP_MODE (opMode.set SLEEP_MODE host.chip.regs REG_OP_MODE)
      ((opMode.set SLEEP_MODE host.chip.regs REG_OP_MODE &&& 0x7f) ||| LORA_MODE))) = _
  rw [hstored _ hsleep]
  rfl

theorem run_loraSetHeader (implicitHeader : Bool) (payloadLen : Byte) :
    (loraSetHeader implicitHeader payloadLen).run exec host =
      ((), host.onRegs fun regs =>
        if implicitHeader then (whole REG_PAYLOAD_LENGTH).set payloadLen (implicitHeaderMode.set 0x01 regs)
        else implicitHeaderMode.set 0 regs) := by
  cases implicitHeader with
  | false => exact run_loraSetExplicitHeader host
  | true =>
      show (loraSetImplicitHeader >>= fun _ => loraSetPayload payloadLen).run exec host = _
      rw [Script.run_bind, run_loraSetImplicitHeader, loraSetPayload, run_write _ (by decide)]
      rfl

theorem memory_four (value : BitVec 32) :
    memory 4 value = [(value >>> 0).setWidth 8, (value >>> 8).setWidth 8, (value >>> 16).setWidth 8,
      (value >>> 24).setWidth 8] := rfl

/-- The most significant byte of the preamble length comes first in the memory of the host. -/
theorem memory_lenRevers (lsb msb : Byte) :
    (memory 4 (lsb.setWidth 32 <<< 8 + msb.setWidth 32)).take 2 = [msb, lsb] := by
  rw [memory_four]
  simp only [List.take_succ_cons, List.take_zero, List.cons.injEq, and_true]
  constructor
  · bv_omega
  · bv_omega

theorem memory_frfRevers (lsb mid msb : Byte) :
    (memory 4 (lsb.setWidth 32 <<< 16 + mid.setWidth 32 <<< 8 + msb.setWidth 32)).take 3 =
      [msb, mid, lsb] := by
  rw [memory_four]
  simp only [List.take_succ_cons, List.take_zero, List.cons.injEq, and_true]
  refine ⟨?_, ?_, ?_⟩
  · bv_omega
  · bv_omega
  · bv_omega

theorem run_loraSetPreamble (preambleLen : BitVec 32) :
    (loraSetPreamble preambleLen).run exec host =
      ((), host.onRegs fun regs =>
        (whole REG_PREAMBLE_LSB).set ((clampPreamble preambleLen).setWidth 8)
          ((whole REG_PREAMBLE_MSB).set ((clampPreamble preambleLen >>> 8).setWidth 8) regs)) := by
  rw [loraSetPreamble, loraRegWriteBytes, Script.run_bind, Script.run_call, exec,
    show (2 : Byte).toNat = 2 from rfl, memory_lenRevers, xfer_write _ (by decide)]
  simp only [← update_eq_whole_set]
  rfl

/-- The three bytes of the frequency. -/
def frfMsb (freq : ℕ) : Byte := (BitVec.ofNat 32 (ceilFrf freq) >>> 16).setWidth 8

def frfMid (freq : ℕ) : Byte := (BitVec.ofNat 32 (ceilFrf freq) >>> 8).setWidth 8

def frfLsb (freq : ℕ) : Byte := (BitVec.ofNat 32 (ceilFrf freq)).setWidth 8

theorem run_loraSetFreq (freq : ℕ) :
    (loraSetFreq freq).run exec host =
      ((), host.onRegs fun regs =>
        (whole REG_FR_LSB).set (frfLsb freq) ((whole REG_FR_DIM).set (frfMid freq)
          ((whole REG_FR_MSB).set (frfMsb freq) regs))) := by
  rw [loraSetFreq, loraRegWriteBytes, Script.run_bind, Script.run_call, exec,
    show (3 : Byte).toNat = 3 from rfl, memory_frfRevers, xfer_write _ (by decide)]
  simp only [← update_eq_whole_set]
  rfl

/-- The byte that `lora_set_ocp` writes when it does not only clear the bit. -/
def ocpTrim (ocp : Byte) : Byte :=
  if ocp.toNat ≤ 120 then BitVec.ofNat 8 (((if ocp.toNat < 50 then 50 else ocp.toNat) - 45) / 5 + 0x20)
  else BitVec.ofNat 8 (((if ocp.toNat < 130 then 130 else ocp.toNat) + 30) / 10 + 0x20)

theorem run_loraSetOcp (ocp : Byte) :
    (loraSetOcp ocp).run exec host =
      ((), host.onRegs (if ocp = 0 then ocpOn.set 0 else (whole REG_OCP).set (ocpTrim ocp))) := by
  unfold loraSetOcp ocpTrim
  split
  · exact run_modify host ocpOn (by decide) (by decide) (by decide)
  · split
    · exact run_write host (by decide) _
    · exact run_write host (by decide) _

/-- `REG_PA_DAC` and `REG_PA_CONFIG` after `lora_set_tx_power`. -/
def paDac (power : OutputPower) (pin : PowerAmplifireOutputPin) : Byte :=
  if pin = .paBoost ∧ power = .op20 then 0x87 else 0x84

def paConfig (power : OutputPower) : PowerAmplifireOutputPin → Byte
  | .rfo => 0x70 ||| (if power.value ≥ 15 then 15 else if power.value ≤ 0 then 0 else power.value)
  | .paBoost =>
      0xf0 ||| (if power = .op20 then power.value - 2
        else (if power.value ≥ 17 then 17 else if power.value ≤ 2 then 2 else power.value) - 2)

theorem run_loraSetTxPower (power : OutputPower) (pin : PowerAmplifireOutputPin) :
    (loraSetTxPower power pin).run exec host =
      ((), host.onRegs fun regs =>
        (whole REG_PA_CONFIG).set (paConfig power pin) ((whole REG_PA_DAC).set (paDac power pin)
          ((whole REG_OCP).set 0x1f regs))) := by
  cases pin with
  | rfo =>
      simp only [loraSetTxPower, Script.run_bind]
      rw [run_write host (by decide), run_write _ (by decide), run_write _ (by decide)]
      rfl
  | paBoost =>
      simp only [loraSetTxPower, Script.run_bind]
      rw [run_write host (by decide)]
      by_cases h20 : power = .op20
      · have hdac : paDac power .paBoost = 0x87 := if_pos ⟨rfl, h20⟩
        rw [if_pos h20, Script.run_bind, run_write _ (by decide), run_write _ (by decide), hdac,
          paConfig, if_pos h20]
        rfl
      · have hdac : paDac power .paBoost = 0x84 := if_neg fun h => h20 h.2
        rw [if_neg h20, Script.run_bind, run_write _ (by decide), run_write _ (by decide), hdac,
          paConfig, if_neg h20]
        rfl

end Setters

/-! ### `LoRa_begin` -/

/-- The writes of `LoRa_begin`. -/
def beginWrites (eth : ModemCfg) : List (Field Byte 8 × Byte) :=
  [(opMode, SLEEP_MODE), (longRangeMode, LORA_MODE)] ++
  (if eth.implicitHeader then [(implicitHeaderMode, 0x01), (whole REG_PAYLOAD_LENGTH, eth.payloadLen)]
    else [(implicitHeaderMode, 0)]) ++
  [(codingRate, eth.ecr.value), (bandWidth, eth.bw.value), (spreadingFactor, eth.sf.value),
    (rxPayloadCrc, if eth.crc then 0x04 else 0), (whole REG_OCP, 0x1f),
    (whole REG_PA_DAC, paDac eth.outPower eth.powerOutPin),
    (whole REG_PA_CONFIG, paConfig eth.outPower eth.powerOutPin), (whole REG_SYNC_WORD, eth.syncWord),
    (whole REG_PREAMBLE_MSB, (clampPreamble eth.preambleLen >>> 8).setWidth 8),
    (whole REG_PREAMBLE_LSB, (clampPreamble eth.preambleLen).setWidth 8),
    (whole REG_MODEM_CONFIG_3, ofBool eth.agc <<< 2),
    (whole REG_LNA, (eth.lnaGain.value <<< 5) + ofBool eth.lnaBoost)] ++
  [if eth.ocp = 0 then (ocpOn, 0) else (whole REG_OCP, ocpTrim eth.ocp)] ++
  [(whole REG_FIFO_TX_BASE_ADDR, TX_BASE_ADDR), (whole REG_FIFO_RX_BASE_ADDR, RX_BASE_ADDR),
    (whole REG_DETECT_OPTIMIZE, 0xc3), (whole REG_DETECTION_THRESHOLD, 0x0a),
    (whole REG_FR_MSB, frfMsb eth.freq), (whole REG_FR_DIM, frfMid eth.freq),
    (whole REG_FR_LSB, frfLsb eth.freq)]

/-- The fields that these writes are for. -/
def beginFields : List (Field Byte 8) :=
  [opMode, longRangeMode, implicitHeaderMode, whole REG_PAYLOAD_LENGTH, codingRate, bandWidth,
    spreadingFactor, rxPayloadCrc, whole REG_OCP, ocpOn] ++
  [REG_PA_DAC, REG_PA_CONFIG, REG_SYNC_WORD, REG_PREAMBLE_MSB, REG_PREAMBLE_LSB, REG_MODEM_CONFIG_3,
    REG_LNA, REG_FIFO_TX_BASE_ADDR, REG_FIFO_RX_BASE_ADDR, REG_DETECT_OPTIMIZE,
    REG_DETECTION_THRESHOLD, REG_FR_MSB, REG_FR_DIM, REG_FR_LSB].map whole

theorem mem_beginFields {eth : ModemCfg} {write : Field Byte 8 × Byte} (h : write ∈ beginWrites eth) :
    write.1 ∈ beginFields := by
  have hmap : ∀ field ∈ (beginWrites eth).map Prod.fst, field ∈ beginFields := by
    unfold beginWrites
    cases eth.implicitHeader <;> by_cases hocp : eth.ocp = 0 <;>
      simp only [hocp, reduceIte, Bool.false_eq_true, List.map_append, List.map_cons, List.map_nil] <;>
      decide
  exact hmap _ (List.mem_map_of_mem h)

theorem run_LoRaBegin (eth : ModemCfg) (host : Host) :
    (LoRaBegin eth).run exec host = ((), host.onRegs (writeAll (beginWrites eth))) := by
  have hplain : ∀ reg ∈ [REG_SYNC_WORD, REG_MODEM_CONFIG_3, REG_LNA, REG_FIFO_TX_BASE_ADDR,
      REG_FIFO_RX_BASE_ADDR, REG_DETECT_OPTIMIZE, REG_DETECTION_THRESHOLD], Plain reg := by
    decide
  simp only [LoRaBegin, Script.run_bind, run_loraSetLoraMode, run_loraSetHeader, run_loraSetErrorcr,
    run_loraSetBandwidth, run_loraSetSf, run_loraSetCrc, run_loraSetTxPower, run_loraSetPreamble,
    run_loraSetOcp, run_loraSetFreq, loraSetSyncw, loraSetAgc, loraSetLna, onRegs_onRegs,
    run_write _ (hplain REG_SYNC_WORD (by decide)), run_write _ (hplain REG_MODEM_CONFIG_3 (by decide)),
    run_write _ (hplain REG_LNA (by decide)), run_write _ (hplain REG_FIFO_TX_BASE_ADDR (by decide)),
    run_write _ (hplain REG_FIFO_RX_BASE_ADDR (by decide)),
    run_write _ (hplain REG_DETECT_OPTIMIZE (by decide)),
    run_write _ (hplain REG_DETECTION_THRESHOLD (by decide))]
  unfold beginWrites
  cases eth.implicitHeader <;> by_cases hocp : eth.ocp = 0 <;> simp only [hocp, if_true, if_false] <;> rfl

/-- The registers after the writes, field by field. -/
structure Began (eth : ModemCfg) (regs : Byte → Byte) : Prop where
  longRangeMode : longRangeMode.get regs = LORA_MODE
  opMode : opMode.get regs = SLEEP_MODE
  implicitHeader : implicitHeaderMode.get regs = ofBool eth.implicitHeader
  payloadLen : eth.implicitHeader = true → (whole REG_PAYLOAD_LENGTH).get regs = eth.payloadLen
  codingRate : codingRate.get regs = eth.ecr.value &&& 0x0e
  bandWidth : bandWidth.get regs = eth.bw.value &&& 0xf0
  spreadingFactor : spreadingFactor.get regs = eth.sf.value &&& 0xf0
  crc : rxPayloadCrc.get regs = (if eth.crc then 0x04 else 0) &&& 0x04
  paDac : (whole REG_PA_DAC).get regs = paDac eth.outPower eth.powerOutPin
  paConfig : (whole REG_PA_CONFIG).get regs = paConfig eth.outPower eth.powerOutPin
  syncWord : (whole REG_SYNC_WORD).get regs = eth.syncWord
  preambleMsb : (whole REG_PREAMBLE_MSB).get regs = (clampPreamble eth.preambleLen >>> 8).setWidth 8
  preambleLsb : (whole REG_PREAMBLE_LSB).get regs = (clampPreamble eth.preambleLen).setWidth 8
  modemConfig3 : (whole REG_MODEM_CONFIG_3).get regs = ofBool eth.agc <<< 2
  lna : (whole REG_LNA).get regs = (eth.lnaGain.value <<< 5) + ofBool eth.lnaBoost
  ocpOff : eth.ocp = 0 → ocpOn.get regs = 0
  ocpTrim : eth.ocp ≠ 0 → (whole REG_OCP).get regs = ocpTrim eth.ocp
  txBase : (whole REG_FIFO_TX_BASE_ADDR).get regs = TX_BASE_ADDR
  rxBase : (whole REG_FIFO_RX_BASE_ADDR).get regs = RX_BASE_ADDR
  detectOptimize : (whole REG_DETECT_OPTIMIZE).get regs = 0xc3
  detectionThreshold : (whole REG_DETECTION_THRESHOLD).get regs = 0x0a
  frMsb : (whole REG_FR_MSB).get regs = frfMsb eth.freq
  frDim : (whole REG_FR_DIM).get regs = frfMid eth.freq
  frLsb : (whole REG_FR_LSB).get regs = frfLsb eth.freq

/-- The writes of one field, among writes of others. -/
theorem began_beginWrites (eth : ModemCfg) (regs : Byte → Byte) :
    Began eth (writeAll (beginWrites eth) regs) := by
  have hmask : ∀ byte reg : Byte, byte &&& (whole reg).mask = byte := fun _ _ => BitVec.and_allOnes
  unfold beginWrites
  cases himplicit : eth.implicitHeader <;> by_cases hocp : eth.ocp = 0 <;> constructor
  all_goals
    simp (disch := decide) only [himplicit, hocp, reduceIte, writeAll, List.cons_append, List.nil_append,
      List.foldl_cons, List.foldl_nil, Field.get_set, Field.get_set_of_apart, Bool.false_eq_true, hmask,
      false_implies, true_implies, ne_eq, not_true, not_false_iff]
  all_goals rfl

/-! ### The settings by the data sheet -/

/-- The settings of the chip. -/
structure Settings where
  longRangeMode : Bool
  opMode : Byte
  implicitHeader : Bool
  /-- In hertz. -/
  bandWidth : ℕ
  spreadingFactor : ℕ
  /-- The denominator of the rate 4 / 5 to 4 / 8. -/
  codingRate : ℕ
  crc : Bool
  /-- In tenths of a dBm, where the data sheet gives it. -/
  power : Option ℤ
  syncWord : Byte
  preambleLen : ℕ
  agc : Bool
  lowDataRateOptimize : Bool
  lnaGain : Byte
  lnaBoost : Bool
  /-- The current limit in mA, when the protection is on. -/
  ocp : Option ℕ
  /-- The frequency in steps of 1 / 256 hertz. -/
  carrier : ℕ
  detectOptimize : Byte
  detectionThreshold : Byte
  deriving DecidableEq

/-- The output power: on RFO from the fields MaxPower and OutputPower; on PA_BOOST from OutputPower, and
with the high power setting of the DAC only for the largest. -/
def powerOf (dac config : Byte) : Option ℤ :=
  let output : ℤ := (config &&& 0x0f).toNat
  if config &&& 0x80 = 0 then some (108 + 6 * ((config >>> 4) &&& 0x07).toNat - 10 * (15 - output))
  else if dac &&& 0x07 = 0x04 then some (170 - 10 * (15 - output))
  else if dac &&& 0x07 = 0x07 ∧ output = 15 then some 200
  else none

def bandWidthOf (field : Byte) : ℕ :=
  [7800, 10400, 15600, 20800, 31250, 41700, 62500, 125000, 250000, 500000].getD (field >>> 4).toNat 0

/-- The current limit that a value of `REG_OCP` stands for. -/
def ocpLimit (byte : Byte) : Option ℕ :=
  if byte &&& 0x20 = 0 then none
  else
    let trim := (byte &&& 0x1f).toNat
    some (if trim ≤ 15 then 45 + 5 * trim else if trim ≤ 27 then 10 * trim - 30 else 240)

/-- The frequency is a multiple of 32 MHz / 2 ^ 19, which is 15625 / 256 hertz. -/
def carrierOf (msb mid lsb : Byte) : ℕ := 15625 * (65536 * msb.toNat + 256 * mid.toNat + lsb.toNat)

def settingsOf (regs : Byte → Byte) : Settings where
  longRangeMode := longRangeMode.get regs ≠ 0
  opMode := opMode.get regs
  implicitHeader := implicitHeaderMode.get regs ≠ 0
  bandWidth := bandWidthOf (bandWidth.get regs)
  spreadingFactor := (spreadingFactor.get regs >>> 4).toNat
  codingRate := 4 + (codingRate.get regs >>> 1).toNat
  crc := rxPayloadCrc.get regs ≠ 0
  power := powerOf (regs REG_PA_DAC) (regs REG_PA_CONFIG)
  syncWord := regs REG_SYNC_WORD
  preambleLen := 256 * (regs REG_PREAMBLE_MSB).toNat + (regs REG_PREAMBLE_LSB).toNat
  agc := regs REG_MODEM_CONFIG_3 &&& 0x04 ≠ 0
  lowDataRateOptimize := lowDataRate.get regs ≠ 0
  lnaGain := regs REG_LNA >>> 5
  lnaBoost := regs REG_LNA &&& 0x03 = 0x03
  ocp := ocpLimit (regs REG_OCP)
  carrier := carrierOf (regs REG_FR_MSB) (regs REG_FR_DIM) (regs REG_FR_LSB)
  detectOptimize := regs REG_DETECT_OPTIMIZE
  detectionThreshold := regs REG_DETECTION_THRESHOLD

def SpreadingFactor.number : SpreadingFactor → ℕ
  | sf7 => 7 | sf8 => 8 | sf9 => 9 | sf10 => 10 | sf11 => 11 | sf12 => 12

def ErrorCodingRate.denominator : ErrorCodingRate → ℕ
  | cr5 => 5 | cr6 => 6 | cr7 => 7 | cr8 => 8

/-- The power that is asked for, within what the pin can give. -/
def OutputPower.asked (power : OutputPower) : PowerAmplifireOutputPin → ℤ
  | .rfo => 10 * min 15 power.value.toNat
  | .paBoost => if power = .op20 then 200 else 10 * max 2 (min 17 power.value.toNat)

/-- The settings that a configuration asks for. The current limit is at least 50 mA, and a multiple of
5 mA up to 120 mA; above, it is at least 130 mA, and a multiple of 10 mA. -/
def ModemCfg.settings (eth : ModemCfg) : Settings where
  longRangeMode := true
  opMode := SLEEP_MODE
  implicitHeader := eth.implicitHeader
  bandWidth := eth.bw.hertz
  spreadingFactor := eth.sf.number
  codingRate := eth.ecr.denominator
  crc := eth.crc
  power := some (eth.outPower.asked eth.powerOutPin)
  syncWord := eth.syncWord
  preambleLen := max 6 (min 65535 eth.preambleLen.toNat)
  agc := eth.agc
  lowDataRateOptimize := false
  lnaGain := eth.lnaGain.value
  lnaBoost := eth.lnaBoost
  ocp :=
    if eth.ocp = 0 then none
    else if eth.ocp.toNat ≤ 120 then some (max 50 (eth.ocp.toNat / 5 * 5))
    else some (max 130 (min 240 (eth.ocp.toNat / 10 * 10)))
  carrier := 256 * eth.freq
  detectOptimize := 0xc3
  detectionThreshold := 0x0a

/-- The settings that come of a configuration: those it asks for, with a frequency less than a step above,
but neither 20 dBm nor the boost. -/
structure ModemCfg.Obeyed (eth : ModemCfg) (got : Settings) : Prop where
  settings : { got with power := none, lnaBoost := false, carrier := 0 } =
    { eth.settings with power := none, lnaBoost := false, carrier := 0 }
  power : got.power = eth.settings.power ↔ ¬(eth.powerOutPin = .paBoost ∧ eth.outPower = .op20)
  lnaBoost : got.lnaBoost = eth.settings.lnaBoost ↔ eth.lnaBoost = false
  carrier : ceilFrf eth.freq < 2 ^ 24 →
    eth.settings.carrier ≤ got.carrier ∧ got.carrier < eth.settings.carrier + 15625

/-- A quotient in double precision, which is exact where it can be, has the same ceiling. -/
theorem ceil_eq_ceilFrf {freq : ℕ} (hfreq : freq ≤ 2 ^ 32) {quotient : ℚ}
    (herror : |quotient - freq / 32000000| ≤ freq / 32000000 / 2 ^ 53)
    (hexact : 15625 ∣ freq → quotient = freq / 32000000) :
    ⌈quotient * 524288⌉ = ceilFrf freq := by
  have hnear := abs_le.mp herror
  have hsmall : (freq : ℚ) ≤ 2 ^ 32 := by exact_mod_cast hfreq
  by_cases hdvd : 15625 ∣ freq
  · obtain ⟨k, rfl⟩ := hdvd
    have hceil : ceilFrf (15625 * k) = 256 * k := by
      rw [ceilFrf]
      omega
    have hquotient : quotient * 524288 = ((256 * k : ℕ) : ℤ) := by
      rw [hexact (dvd_mul_right _ _)]
      push_cast
      ring
    rw [hceil, hquotient, Int.ceil_intCast]
  · -- The exact quotient is at least a 15625th away from every whole number.
    have hbelow : 15625 * ceilFrf freq ≤ freq * 256 + 15624 := by
      rw [ceilFrf]
      omega
    have habove : freq * 256 + 1 ≤ 15625 * ceilFrf freq := by
      rw [ceilFrf]
      omega
    have hbelow' : (15625 : ℚ) * ceilFrf freq ≤ freq * 256 + 15624 := by exact_mod_cast hbelow
    have habove' : (freq : ℚ) * 256 + 1 ≤ 15625 * ceilFrf freq := by exact_mod_cast habove
    rw [Int.ceil_eq_iff]
    push_cast
    constructor
    · linarith only [hnear.1, hsmall, hbelow']
    · linarith only [hnear.2, hsmall, habove']

theorem ocpLimit_ocpTrim : ∀ ocp : Byte, ocp ≠ 0 →
    ocpLimit (ocpTrim ocp) =
      if ocp.toNat ≤ 120 then some (max 50 (ocp.toNat / 5 * 5))
      else some (max 130 (min 240 (ocp.toNat / 10 * 10))) := by
  decide +kernel

theorem clampPreamble_toNat (preambleLen : BitVec 32) :
    (clampPreamble preambleLen).toNat = max 6 (min 65535 preambleLen.toNat) := by
  unfold clampPreamble
  split
  · bv_omega
  · split
    · bv_omega
    · bv_omega

theorem powerOf_paConfig (power : OutputPower) (pin : PowerAmplifireOutputPin) :
    powerOf (paDac power pin) (paConfig power pin) = some (power.asked pin) ↔ ¬(pin = .paBoost ∧ power = .op20) := by
  cases pin <;> cases power <;> decide

theorem carrierOf_frf {freq : ℕ} (h : ceilFrf freq < 2 ^ 24) :
    256 * freq ≤ carrierOf (frfMsb freq) (frfMid freq) (frfLsb freq) ∧
      carrierOf (frfMsb freq) (frfMid freq) (frfLsb freq) < 256 * freq + 15625 := by
  have hbytes : 65536 * (frfMsb freq).toNat + 256 * (frfMid freq).toNat + (frfLsb freq).toNat = ceilFrf freq := by
    simp only [frfMsb, frfMid, frfLsb, BitVec.toNat_setWidth, BitVec.toNat_ushiftRight, BitVec.toNat_ofNat,
      Nat.shiftRight_eq_div_pow]
    omega
  rw [carrierOf, hbytes, ceilFrf]
  omega

section Began

variable {eth : ModemCfg} {regs : Byte → Byte} (h : Began eth regs)
include h

theorem Began.lna_eq : regs REG_LNA = (eth.lnaGain.value <<< 5) + ofBool eth.lnaBoost :=
  reg_eq_of_whole h.lna

theorem Began.ocpLimit_eq : ocpLimit (regs REG_OCP) = eth.settings.ocp := by
  by_cases hzero : eth.ocp = 0
  · have hoff : regs REG_OCP &&& 0x20 = 0 := h.ocpOff hzero
    rw [ocpLimit, if_pos hoff, ModemCfg.settings, if_pos hzero]
  · have htrim : regs REG_OCP = LoraDriver.ocpTrim eth.ocp := reg_eq_of_whole (h.ocpTrim hzero)
    rw [htrim, ocpLimit_ocpTrim _ hzero, ModemCfg.settings, if_neg hzero]

/-- All but the power, the boost and the carrier. -/
theorem Began.settings_eq :
    { settingsOf regs with power := none, lnaBoost := false, carrier := 0 } =
      { eth.settings with power := none, lnaBoost := false, carrier := 0 } := by
  have hcfg3 : regs REG_MODEM_CONFIG_3 = ofBool eth.agc <<< 2 := reg_eq_of_whole h.modemConfig3
  have hlow : lowDataRate.get regs = ofBool eth.agc <<< 2 &&& 0x08 := by
    rw [Field.get]
    exact congrArg (· &&& (0x08 : Byte)) hcfg3
  have hbandWidth : bandWidthOf (LoraDriver.bandWidth.get regs) = eth.bw.hertz := by
    rw [h.bandWidth]
    cases eth.bw <;> rfl
  have hspreading : (LoraDriver.spreadingFactor.get regs >>> 4).toNat = eth.sf.number := by
    rw [h.spreadingFactor]
    cases eth.sf <;> rfl
  have hcoding : 4 + (LoraDriver.codingRate.get regs >>> 1).toNat = eth.ecr.denominator := by
    rw [h.codingRate]
    cases eth.ecr <;> rfl
  have himplicit : decide (implicitHeaderMode.get regs ≠ 0) = eth.implicitHeader := by
    rw [h.implicitHeader]
    cases eth.implicitHeader <;> rfl
  have hcrc : decide (rxPayloadCrc.get regs ≠ 0) = eth.crc := by
    rw [h.crc]
    cases eth.crc <;> rfl
  have hlength : 256 * (regs REG_PREAMBLE_MSB).toNat + (regs REG_PREAMBLE_LSB).toNat =
      max 6 (min 65535 eth.preambleLen.toNat) := by
    rw [reg_eq_of_whole h.preambleMsb, reg_eq_of_whole h.preambleLsb, ← clampPreamble_toNat]
    have hle := clampPreamble_toNat eth.preambleLen
    bv_omega
  have hagc : decide (regs REG_MODEM_CONFIG_3 &&& 0x04 ≠ 0) = eth.agc := by
    rw [hcfg3]
    cases eth.agc <;> rfl
  have hoptimize : decide (lowDataRate.get regs ≠ 0) = false := by
    rw [hlow]
    cases eth.agc <;> rfl
  have hgain : regs REG_LNA >>> 5 = eth.lnaGain.value := by
    rw [h.lna_eq]
    cases eth.lnaGain <;> cases eth.lnaBoost <;> rfl
  have hlora : decide (LoraDriver.longRangeMode.get regs ≠ 0) = true := by
    rw [h.longRangeMode]
    rfl
  simp only [settingsOf, ModemCfg.settings, hbandWidth, hspreading, hcoding, himplicit, hcrc, hlength, hagc,
    hoptimize, hgain, hlora, h.ocpLimit_eq, h.opMode, reg_eq_of_whole h.syncWord, reg_eq_of_whole h.detectOptimize,
    reg_eq_of_whole h.detectionThreshold]

theorem Began.power_iff :
    (settingsOf regs).power = eth.settings.power ↔
      ¬(eth.powerOutPin = .paBoost ∧ eth.outPower = .op20) := by
  have hdac : regs REG_PA_DAC = LoraDriver.paDac eth.outPower eth.powerOutPin := reg_eq_of_whole h.paDac
  have hconfig : regs REG_PA_CONFIG = LoraDriver.paConfig eth.outPower eth.powerOutPin :=
    reg_eq_of_whole h.paConfig
  show powerOf (regs REG_PA_DAC) (regs REG_PA_CONFIG) = some _ ↔ _
  rw [hdac, hconfig]
  exact powerOf_paConfig eth.outPower eth.powerOutPin

/-- No configuration sets both bits of the boost. -/
theorem Began.lnaBoost_iff : (settingsOf regs).lnaBoost = eth.settings.lnaBoost ↔ eth.lnaBoost = false := by
  have hoff : ∀ gain boost, ¬(LnaGain.value gain <<< 5 + ofBool boost) &&& 0x03 = 0x03 := by
    intro gain boost
    cases gain <;> cases boost <;> decide
  show decide (regs REG_LNA &&& 0x03 = 0x03) = eth.lnaBoost ↔ _
  rw [h.lna_eq, decide_eq_false (hoff _ _)]
  exact eq_comm

theorem Began.carrier_eq :
    (settingsOf regs).carrier = carrierOf (frfMsb eth.freq) (frfMid eth.freq) (frfLsb eth.freq) := by
  have hmsb : regs REG_FR_MSB = frfMsb eth.freq := reg_eq_of_whole h.frMsb
  have hmid : regs REG_FR_DIM = frfMid eth.freq := reg_eq_of_whole h.frDim
  have hlsb : regs REG_FR_LSB = frfLsb eth.freq := reg_eq_of_whole h.frLsb
  rw [← hmsb, ← hmid, ← hlsb]
  rfl

/-- Reading the registers back by the data sheet gives what the configuration asks for. -/
theorem Began.obeyed : eth.Obeyed (settingsOf regs) where
  settings := h.settings_eq
  power := h.power_iff
  lnaBoost := h.lnaBoost_iff
  carrier := by
    rw [h.carrier_eq]
    exact carrierOf_frf

end Began

end LinuxGateway.LoraDriver
