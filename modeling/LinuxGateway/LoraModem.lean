import LinuxGateway.LoraSettings

/-! The modem between `LoRa_begin` and `LoRa_end`. The program calls the library from its own thread,
the handlers of DIO0 run in theirs, and the chip receives and transmits by itself; their SPI transfers
come in any order. Each change of the mode is a read and a later write, and the other threads may have
changed the mode in between. The pin follows the flag it is mapped to, so it rises with an event of the
chip, and also with a transfer that maps it to a flag that is up. -/

namespace LinuxGateway.LoraDriver

open Scripts Registers

/-- The fields that are written after `LoRa_begin`, by the driver or by the chip. -/
def workingFields : List (Field Byte 8) :=
  [opMode, lowDataRate, whole REG_DIO_MAPPING_1, whole REG_PAYLOAD_LENGTH, whole REG_FIFO_ADDR_PTR,
    whole REG_IRQ_FLAGS, whole REG_RX_NB_BYTES, whole REG_FIFO_RX_CURRENT_ADDR,
    whole REG_PKT_SNR_VALUE, whole REG_PKT_RSSI_VALUE]

/-! ### The chip by itself -/

/-- A packet in the data buffer, from an address on; addresses wrap. -/
def store (ram : Byte → Byte) (start : Byte) (bytes : List Byte) : Byte → Byte := fun addr =>
  bytes.getD (addr - start).toNat (ram addr)

inductive ChipEvent where
  /-- A packet has been received into the data buffer. -/
  | rxDone (start : Byte) (bytes : List Byte) (rssi snr : Byte) (crcError : Bool)
  | txDone

/-- The thread that pigpio starts on the rising edge. -/
def handlerThread (eth : ModemCfg) (lowBand : Bool) : Isr → Driver Unit
  | .rxDoneISRf => do
      let _ ← rxDoneISRf eth lowBand
      return ()
  | .txDoneISRf => txDoneISRf

/-- The level of DIO0: the two top bits of its register select the flag that it shows. -/
def Sx1278.dio0 (chip : Sx1278) : Prop :=
  chip.regs REG_DIO_MAPPING_1 &&& 0xc0 = dioRxMapping ∧ chip.regs REG_IRQ_FLAGS &&& IRQ_RXDONE ≠ 0 ∨
    chip.regs REG_DIO_MAPPING_1 &&& 0xc0 = dioTxMapping ∧ chip.regs REG_IRQ_FLAGS &&& IRQ_TXDONE ≠ 0

instance (chip : Sx1278) : Decidable chip.dio0 := inferInstanceAs (Decidable (_ ∨ _))

/-- The threads that start when the chip goes from one state to another: that of the attached handler when
the pin rises. -/
def interrupts (eth : ModemCfg) (lowBand : Bool) (host host' : Host) : List (Driver Unit) :=
  if ¬host.chip.dio0 ∧ host'.chip.dio0 then host'.isr.toList.map (handlerThread eth lowBand) else []

/-- The chip when a packet has come in. -/
def Sx1278.receive (chip : Sx1278) (start : Byte) (bytes : List Byte) (rssi snr : Byte)
    (crcError : Bool) : Sx1278 where
  regs := writeAll [
    (whole REG_IRQ_FLAGS,
      chip.regs REG_IRQ_FLAGS ||| IRQ_RXDONE ||| (if crcError then 0x20 else 0)),
    (whole REG_RX_NB_BYTES, BitVec.ofNat 8 bytes.length), (whole REG_FIFO_RX_CURRENT_ADDR, start),
    (whole REG_PKT_RSSI_VALUE, rssi), (whole REG_PKT_SNR_VALUE, snr)] chip.regs
  ram := store chip.ram start bytes

/-- What the chip does by itself. After a transmission it goes to standby. -/
def happen (eth : ModemCfg) (lowBand : Bool) (host : Host) :
    ChipEvent → Option (Host × List (Driver Unit))
  | .rxDone start bytes rssi snr crcError =>
      if opMode.get host.chip.regs = RXCONT_MODE then
        let next := { host with chip := host.chip.receive start bytes rssi snr crcError }
        some (next, interrupts eth lowBand host next)
      else none
  | .txDone =>
      if opMode.get host.chip.regs = TX_MODE then
        let flags := host.chip.regs REG_IRQ_FLAGS ||| IRQ_TXDONE
        let next := host.onRegs (writeAll [(whole REG_IRQ_FLAGS, flags), (opMode, STDBY_MODE)])
        some (next, interrupts eth lowBand host next)
      else none

/-- The calls that a program may make after `LoRa_begin`. -/
inductive LoraCall where
  | receive
  | send (buf : List Byte) (size : Byte)
  | stopReceive
  | sleep

def LoraCall.script (eth : ModemCfg) : LoraCall → Driver Unit
  | .receive => LoRaReceive eth
  | .send buf size => LoRaSend eth buf size
  | .stopReceive => LoRaStopReceive
  | .sleep => LoRaSleep

/-- A program: any sequence of calls. -/
def program (eth : ModemCfg) : List LoraCall → Driver Unit
  | [] => pure ()
  | call :: calls => do
      call.script eth
      program eth calls

/-! ### What holds at every moment -/

/-- Outside the working fields the registers are what they were. -/
def Untouched (ref regs : Byte → Byte) : Prop :=
  ∀ field : Field Byte 8, (∀ working ∈ workingFields, field.Apart working) → field.get regs = field.get ref

/-- The mode, the pin mapping and the attached handler belong together. -/
structure Coherent (ref : Byte → Byte) (host : Host) : Prop where
  untouched : Untouched ref host.chip.regs
  receiving : opMode.get host.chip.regs = RXCONT_MODE →
    host.chip.regs REG_DIO_MAPPING_1 = dioRxMapping ∧ host.isr ≠ some .txDoneISRf
  sending : opMode.get host.chip.regs = TX_MODE →
    host.chip.regs REG_DIO_MAPPING_1 = dioTxMapping ∧ host.isr ≠ some .rxDoneISRf

/-- What the handlers and the chip may do between two transfers of the program. -/
structure Interference (host host' : Host) : Prop where
  isr : host'.isr = host.isr
  mapping : host'.chip.regs REG_DIO_MAPPING_1 = host.chip.regs REG_DIO_MAPPING_1
  mode : opMode.get host'.chip.regs = opMode.get host.chip.regs ∨
    opMode.get host'.chip.regs = STDBY_MODE

/-- The pin does not rise by this: the mapping stays, and no flag goes up. -/
def Quiet (host host' : Host) : Prop :=
  host'.chip.regs REG_DIO_MAPPING_1 = host.chip.regs REG_DIO_MAPPING_1 ∧
    ∀ flag, host.chip.regs REG_IRQ_FLAGS &&& flag = 0 → host'.chip.regs REG_IRQ_FLAGS &&& flag = 0

/-- Only a write to the mapping may let the pin rise, and only in standby. -/
def Conduct (op : Op) (host : Host) : Prop :=
  Quiet host (exec op host).2 ∨
    (∃ mapping, op = .spiXfer [REG_DIO_MAPPING_1 ||| 0x80, mapping]) ∧ opMode.get host.chip.regs = STDBY_MODE

theorem Quiet.interrupts {host host' : Host} (h : Quiet host host') (eth : ModemCfg) (lowBand : Bool) :
    interrupts eth lowBand host host' = [] := by
  refine if_neg fun hrise => hrise.1 ?_
  obtain ⟨hmapping, hflags⟩ := h
  have hup : ∀ flag, host'.chip.regs REG_IRQ_FLAGS &&& flag ≠ 0 → host.chip.regs REG_IRQ_FLAGS &&& flag ≠ 0 :=
    fun flag hup hdown => hup (hflags flag hdown)
  rcases hrise.2 with ⟨hrx, hflag⟩ | ⟨htx, hflag⟩
  · exact .inl ⟨hmapping ▸ hrx, hup _ hflag⟩
  · exact .inr ⟨hmapping ▸ htx, hup _ hflag⟩

theorem Untouched.set {ref regs : Byte → Byte} (h : Untouched ref regs) {field : Field Byte 8}
    (hfield : field ∈ workingFields) (value : Byte) : Untouched ref (field.set value regs) :=
  fun other happart => (Field.get_set_of_apart (happart field hfield) value regs).trans (h other happart)

theorem Untouched.writeAll {ref regs : Byte → Byte} (h : Untouched ref regs)
    {writes : List (Field Byte 8 × Byte)} (hwrites : ∀ field ∈ writes.map Prod.fst, field ∈ workingFields) :
    Untouched ref (Registers.writeAll writes regs) := by
  intro other happart
  refine (get_writeAll_of_apart (fun write hwrite => ?_) regs).trans (h other happart)
  exact happart _ (hwrites _ (List.mem_map_of_mem hwrite))

/-- A write that leaves the mode and the pin mapping alone. -/
theorem Coherent.set {ref : Byte → Byte} {host host' : Host} (h : Coherent ref host)
    {field : Field Byte 8} (hfield : field ∈ workingFields) (hmode : opMode.Apart field)
    (hmapping : (whole REG_DIO_MAPPING_1).Apart field) {value : Byte} (hisr : host'.isr = host.isr)
    (hregs : host'.chip.regs = field.set value host.chip.regs) :
    Coherent ref host' ∧ Interference host host' := by
  have hmode' : opMode.get host'.chip.regs = opMode.get host.chip.regs := by
    rw [hregs]
    exact Field.get_set_of_apart hmode value _
  have hmapping' : host'.chip.regs REG_DIO_MAPPING_1 = host.chip.regs REG_DIO_MAPPING_1 := by
    have hget := Field.get_set_of_apart hmapping value host.chip.regs
    rwa [whole_get, whole_get, ← hregs] at hget
  refine ⟨⟨?_, ?_, ?_⟩, ⟨hisr, hmapping', Or.inl hmode'⟩⟩
  · rw [hregs]
    exact h.untouched.set hfield value
  · rw [hmode', hmapping', hisr]
    exact h.receiving
  · rw [hmode', hmapping', hisr]
    exact h.sending

/-- In standby and in sleep mode there is nothing to fit together. -/
theorem Coherent.of_mode {ref : Byte → Byte} {host : Host} (huntouched : Untouched ref host.chip.regs)
    {mode : Byte} (hmode : opMode.get host.chip.regs = mode) (hreceiving : mode ≠ RXCONT_MODE)
    (hsending : mode ≠ TX_MODE) : Coherent ref host :=
  ⟨huntouched, fun h => absurd (hmode.symm.trans h) hreceiving,
    fun h => absurd (hmode.symm.trans h) hsending⟩

/-- A change of the mode. It is safe if the new mode goes with the mapping and the handler. -/
theorem Coherent.setMode {ref : Byte → Byte} {host host' : Host} (h : Coherent ref host) {mode : Byte}
    (hmode : mode &&& 0x07 = mode) (hisr : host'.isr = host.isr)
    (hregs : host'.chip.regs = opMode.set mode host.chip.regs)
    (hreceiving : mode = RXCONT_MODE →
      host.chip.regs REG_DIO_MAPPING_1 = dioRxMapping ∧ host.isr ≠ some .txDoneISRf)
    (hsending : mode = TX_MODE →
      host.chip.regs REG_DIO_MAPPING_1 = dioTxMapping ∧ host.isr ≠ some .rxDoneISRf) :
    Coherent ref host' ∧ opMode.get host'.chip.regs = mode ∧
      host'.chip.regs REG_DIO_MAPPING_1 = host.chip.regs REG_DIO_MAPPING_1 := by
  have hget : opMode.get host'.chip.regs = mode := by
    rw [hregs, Field.get_set]
    exact hmode
  have hmapping : host'.chip.regs REG_DIO_MAPPING_1 = host.chip.regs REG_DIO_MAPPING_1 := by
    rw [hregs]
    rfl
  refine ⟨⟨?_, ?_, ?_⟩, hget, hmapping⟩
  · rw [hregs]
    exact h.untouched.set List.mem_cons_self mode
  · rw [hget, hmapping, hisr]
    exact hreceiving
  · rw [hget, hmapping, hisr]
    exact hsending

/-! ### Transfers among other threads -/

section Operations

variable {ref : Byte → Byte} {reg : Byte}

theorem exec_read (htop : reg &&& 0x80 = 0) (hfifo : reg ≠ REG_FIFO) (host : Host) :
    exec (.spiXfer [reg, 0x00]) host = ([0, host.chip.regs reg], host) := by
  rw [exec, xfer_read _ htop]
  simp [Sx1278.readBurst, Sx1278.read, hfifo]

theorem exec_write (htop : reg &&& 0x80 = 0) (hfifo : reg ≠ REG_FIFO) (byte : Byte) (host : Host) :
    (exec (.spiXfer [reg ||| 0x80, byte]) host).2 =
      host.onRegs fun regs => Function.update regs reg (Sx1278.stored reg (regs reg) byte) := by
  rw [exec, xfer_write _ htop]
  simp [Sx1278.writeBurst, Sx1278.write, hfifo, Host.onRegs]

theorem quiet_of_chip {host host' : Host} (h : host'.chip.regs = host.chip.regs) : Quiet host host' := by
  rw [Quiet, h]
  exact ⟨rfl, fun _ hdown => hdown⟩

/-- A flag that is written goes down or stays. -/
theorem quiet_exec_write (htop : reg &&& 0x80 = 0) (hfifo : reg ≠ REG_FIFO) (hmapping : reg ≠ REG_DIO_MAPPING_1)
    (byte : Byte) (host : Host) : Quiet host (exec (.spiXfer [reg ||| 0x80, byte]) host).2 := by
  rw [exec_write htop hfifo]
  refine ⟨Function.update_of_ne hmapping.symm _ _, fun flag hdown => ?_⟩
  by_cases hirq : REG_IRQ_FLAGS = reg
  · subst hirq
    rw [onRegs_regs, Function.update_self, Sx1278.stored, if_pos rfl, BitVec.and_assoc,
      BitVec.and_comm _ flag, ← BitVec.and_assoc, hdown]
    exact BitVec.zero_and
  · rw [onRegs_regs, Function.update_of_ne hirq]
    exact hdown

/-- Moving the FIFO pointer on. -/
def advance (regs : Byte → Byte) (n : ℕ) : Byte → Byte :=
  Function.update regs REG_FIFO_ADDR_PTR (regs REG_FIFO_ADDR_PTR + BitVec.ofNat 8 n)

theorem quiet_advance {host host' : Host} {n : ℕ} (h : host'.chip.regs = advance host.chip.regs n) :
    Quiet host host' := by
  rw [Quiet, h]
  exact ⟨rfl, fun _ hdown => hdown⟩

theorem advance_one (regs : Byte → Byte) (n : ℕ) : advance (advance regs 1) n = advance regs (n + 1) := by
  rw [advance, advance, advance, Function.update_self, Function.update_idem, BitVec.add_assoc]
  congr 2
  bv_omega

/-- A burst from the FIFO gives the bytes from the pointer on. -/
theorem readBurst_fifo (chip : Sx1278) (n : ℕ) :
    chip.readBurst REG_FIFO n =
      ((List.range n).map fun i => chip.ram (chip.regs REG_FIFO_ADDR_PTR + BitVec.ofNat 8 i),
        ⟨advance chip.regs n, chip.ram⟩) := by
  induction n generalizing chip with
  | zero => simp [Sx1278.readBurst, advance]
  | succ n ih =>
      have hread : chip.read REG_FIFO =
          (chip.ram (chip.regs REG_FIFO_ADDR_PTR), ⟨advance chip.regs 1, chip.ram⟩) := rfl
      have hnext : Sx1278.nextReg REG_FIFO = REG_FIFO := rfl
      rw [Sx1278.readBurst, hread, hnext, ih, advance_one]
      simp only [Prod.mk.injEq, and_true]
      rw [List.range_succ_eq_map, List.map_cons, List.map_map]
      congr 1
      · simp
      · apply List.map_congr_left
        intro i _
        simp only [advance, Function.update_self, Function.comp_apply]
        congr 1
        bv_omega

theorem writeBurst_fifo (chip : Sx1278) (bytes : List Byte) :
    (chip.writeBurst REG_FIFO bytes).regs = advance chip.regs bytes.length := by
  induction bytes generalizing chip with
  | nil => simp [Sx1278.writeBurst, advance]
  | cons byte bytes ih =>
      have hnext : Sx1278.nextReg REG_FIFO = REG_FIFO := rfl
      have hwrite : (chip.write REG_FIFO byte).regs = advance chip.regs 1 := rfl
      rw [Sx1278.writeBurst, hnext, ih, hwrite, advance_one]
      rfl

/-- The bits that a read-modify-write keeps are bits that nobody changes. -/
def KeptBits (ref : Byte → Byte) (reg value : Byte) : Prop :=
  ∀ mask : Byte, (∀ working ∈ workingFields, Field.Apart ⟨reg, mask⟩ working) →
    value &&& mask = ref reg &&& mask

theorem Untouched.keptBits {regs : Byte → Byte} (h : Untouched ref regs) (reg : Byte) :
    KeptBits ref reg (regs reg) := fun mask happart => h ⟨reg, mask⟩ happart

/-- The write that ends a change of the mode does what it would have done at once. -/
theorem exec_mode {mode value : Byte} (hmode : mode ∈ [SLEEP_MODE, STDBY_MODE, TX_MODE, RXCONT_MODE])
    (hvalue : KeptBits ref REG_OP_MODE value) {host : Host} (h : Untouched ref host.chip.regs) :
    (exec (.spiXfer [REG_OP_MODE ||| 0x80, (value &&& 0xf8) ||| mode]) host).2 =
      host.onRegs (opMode.set mode) := by
  have hkept : value &&& 0xf8 = host.chip.regs REG_OP_MODE &&& 0xf8 :=
    (hvalue 0xf8 (by decide)).trans (h.keptBits REG_OP_MODE 0xf8 (by decide)).symm
  have hmask : mode &&& opMode.mask = mode := by
    revert hmode mode
    decide
  have hset := opMode.update_eq_set (show (0xf8 : Byte) = ~~~opMode.mask by decide) hmask host.chip.regs
  rw [exec_write (by decide) (by decide), Host.onRegs, hkept, stored_mode mode hmode]
  exact congrArg (fun regs => ({ host with chip := { host.chip with regs } } : Host)) hset

theorem exec_lowDataRate {on value : Byte} (hon : on &&& lowDataRate.mask = on)
    (hvalue : KeptBits ref REG_MODEM_CONFIG_3 value) {host : Host} (h : Untouched ref host.chip.regs) :
    (exec (.spiXfer [REG_MODEM_CONFIG_3 ||| 0x80, (value &&& 0xf7) ||| on]) host).2 =
      host.onRegs (lowDataRate.set on) := by
  have hkept : value &&& 0xf7 = host.chip.regs REG_MODEM_CONFIG_3 &&& 0xf7 :=
    (hvalue 0xf7 (by decide)).trans (h.keptBits REG_MODEM_CONFIG_3 0xf7 (by decide)).symm
  have hset := lowDataRate.update_eq_set (show (0xf7 : Byte) = ~~~lowDataRate.mask by decide) hon
    host.chip.regs
  rw [exec_write (by decide) (by decide), Host.onRegs, hkept, stored_of_plain (by decide)]
  exact congrArg (fun regs => ({ host with chip := { host.chip with regs } } : Host)) hset

theorem Interference.refl (host : Host) : Interference host host := ⟨rfl, rfl, Or.inl rfl⟩

/-- The whole registers that are written in any mode, and by any thread. -/
def freeRegs : List Byte := [REG_FIFO_ADDR_PTR, REG_IRQ_FLAGS, REG_PAYLOAD_LENGTH]

theorem freeRegs_facts : ∀ reg ∈ freeRegs, reg &&& 0x80 = 0 ∧ reg ≠ REG_FIFO ∧
    whole reg ∈ workingFields ∧ opMode.Apart (whole reg) ∧
      (whole REG_DIO_MAPPING_1 : Field Byte 8).Apart (whole reg) := by
  decide

/-- A write to one of them does not matter for the mode. -/
theorem Coherent.exec_free {host : Host} (h : Coherent ref host) (hreg : reg ∈ freeRegs) (byte : Byte) :
    Coherent ref (exec (.spiXfer [reg ||| 0x80, byte]) host).2 ∧
      Interference host (exec (.spiXfer [reg ||| 0x80, byte]) host).2 := by
  obtain ⟨htop, hfifo, hworking, hmode, hmapping⟩ := freeRegs_facts reg hreg
  rw [exec_write htop hfifo]
  exact h.set hworking hmode hmapping rfl (update_eq_whole_set _ _ _)

theorem conduct_free (hreg : reg ∈ freeRegs) (byte : Byte) (host : Host) :
    Conduct (.spiXfer [reg ||| 0x80, byte]) host := by
  obtain ⟨htop, hfifo, _, _, hmapping⟩ := freeRegs_facts reg hreg
  refine .inl (quiet_exec_write htop hfifo ?_ byte host)
  revert hreg reg
  decide

/-- A burst to or from the FIFO moves the pointer. -/
theorem Coherent.advance {host host' : Host} (h : Coherent ref host) {n : ℕ}
    (hisr : host'.isr = host.isr) (hregs : host'.chip.regs = LoraDriver.advance host.chip.regs n) :
    Coherent ref host' ∧ Interference host host' := by
  obtain ⟨_, _, hworking, hmode, hmapping⟩ := freeRegs_facts REG_FIFO_ADDR_PTR (by decide)
  exact h.set hworking hmode hmapping hisr (hregs.trans (update_eq_whole_set _ _ _))

end Operations

/-! ### The handlers -/

section Handlers

variable (ref : Byte → Byte)

theorem keeps_loraRegReadByte {reg : Byte} (htop : reg &&& 0x80 = 0) (hfifo : reg ≠ REG_FIFO) :
    Keeps exec (Coherent ref) Interference Conduct (loraRegReadByte reg) (KeptBits ref reg) := by
  apply Keeps.bind fun rx => KeptBits ref reg (rx.getD 1 0)
  · apply Keeps.call
    intro host h
    have hconduct : Conduct (.spiXfer [reg, 0x00]) host :=
      .inl (quiet_of_chip (by rw [exec_read htop hfifo]))
    rw [exec_read htop hfifo]
    exact ⟨hconduct, h, Interference.refl host, h.untouched.keptBits reg⟩
  · intro rx hrx
    exact hrx

theorem keeps_loraRegWriteByte {reg : Byte} (hreg : reg ∈ freeRegs) (byte : Byte) :
    Keeps exec (Coherent ref) Interference Conduct (loraRegWriteByte reg byte) fun _ => True := by
  apply Keeps.bind fun _ => True
  · apply Keeps.call
    intro host h
    obtain ⟨hinv, heffect⟩ := h.exec_free hreg byte
    exact ⟨conduct_free hreg byte host, hinv, heffect, trivial⟩
  · intro _ _
    trivial

theorem keeps_loraRegReadBytes (size : Byte) :
    Keeps exec (Coherent ref) Interference Conduct (loraRegReadBytes REG_FIFO size) fun _ => True := by
  apply Keeps.bind fun _ => True
  · apply Keeps.call
    intro host h
    have hregs : (exec (.spiXfer (REG_FIFO :: List.replicate size.toNat 0)) host).2.chip.regs =
        advance host.chip.regs size.toNat := by
      rw [exec, xfer_read _ (by decide), List.length_replicate, readBurst_fifo]
    have hisr : (exec (.spiXfer (REG_FIFO :: List.replicate size.toNat 0)) host).2.isr = host.isr := rfl
    obtain ⟨hinv, heffect⟩ := h.advance hisr hregs
    exact ⟨.inl (quiet_advance hregs), hinv, heffect, trivial⟩
  · intro _ _
    trivial

theorem keeps_loraSetSatandbyMode :
    Keeps exec (Coherent ref) Interference Conduct loraSetSatandbyMode fun _ => True := by
  apply Keeps.bind _ (keeps_loraRegReadByte ref (by decide) (by decide))
  intro value hvalue
  apply Keeps.bind fun _ => True
  · apply Keeps.call
    intro host h
    have hconduct : Conduct (.spiXfer [REG_OP_MODE ||| 0x80, (value &&& 0xf8) ||| STDBY_MODE]) host :=
      .inl (quiet_exec_write (by decide) (by decide) (by decide) _ host)
    rw [exec_mode (by decide) hvalue h.untouched]
    have hisr : (host.onRegs (opMode.set STDBY_MODE)).isr = host.isr := rfl
    obtain ⟨hinv, hmode, hmapping⟩ := h.setMode (by decide) hisr rfl
      (fun heq => absurd heq (by decide)) (fun heq => absurd heq (by decide))
    exact ⟨hconduct, hinv, ⟨rfl, hmapping, Or.inr hmode⟩, trivial⟩
  · intro _ _
    trivial

theorem keeps_rxSize (eth : ModemCfg) :
    Keeps exec (Coherent ref) Interference Conduct (rxSize eth) fun _ => True := by
  unfold rxSize
  split
  · trivial
  · exact (keeps_loraRegReadByte ref (by decide) (by decide)).mono fun _ _ => trivial

theorem keeps_rxDoneISRf (eth : ModemCfg) (lowBand : Bool) :
    Keeps exec (Coherent ref) Interference Conduct (rxDoneISRf eth lowBand) fun _ => True := by
  apply Keeps.bind _ (keeps_loraRegReadByte ref (by decide) (by decide))
  intro flags _
  split
  · apply Keeps.bind _ (keeps_loraRegReadByte ref (by decide) (by decide))
    intro current _
    apply Keeps.bind _ (keeps_loraRegWriteByte ref (by decide) current)
    intro _ _
    apply Keeps.bind _ (keeps_rxSize ref eth)
    intro size _
    apply Keeps.bind _ (keeps_loraRegReadBytes ref size)
    intro bytes _
    apply Keeps.bind _ (keeps_loraRegReadByte ref (by decide) (by decide))
    intro flags _
    apply Keeps.bind _ (keeps_loraRegReadByte ref (by decide) (by decide))
    intro rssi _
    apply Keeps.bind _ (keeps_loraRegReadByte ref (by decide) (by decide))
    intro snr _
    apply Keeps.bind _ (keeps_loraRegWriteByte ref (by decide) 0xff)
    exact fun _ _ => trivial
  · trivial

theorem keeps_txDoneISRf : Keeps exec (Coherent ref) Interference Conduct txDoneISRf fun _ => True := by
  apply Keeps.bind _ (keeps_loraRegReadByte ref (by decide) (by decide))
  intro flags _
  split
  · apply Keeps.bind _ (keeps_loraRegWriteByte ref (by decide) 0xff)
    intro _ _
    exact keeps_loraSetSatandbyMode ref
  · trivial

theorem keeps_handlerThread (eth : ModemCfg) (lowBand : Bool) (isr : Isr) :
    Keeps exec (Coherent ref) Interference Conduct (handlerThread eth lowBand isr) fun _ => True := by
  cases isr with
  | rxDoneISRf => exact Keeps.bind _ (keeps_rxDoneISRf ref eth lowBand) fun _ _ => trivial
  | txDoneISRf => exact keeps_txDoneISRf ref

theorem keeps_of_mem_interrupts {eth : ModemCfg} {lowBand : Bool} (host host' : Host) :
    ∀ helper ∈ interrupts eth lowBand host host',
      Keeps exec (Coherent ref) Interference Conduct helper fun _ => True := by
  intro helper hmem
  unfold interrupts at hmem
  split at hmem
  · obtain ⟨isr, _, rfl⟩ := List.mem_map.mp hmem
    exact keeps_handlerThread ref eth lowBand isr
  · exact absurd hmem List.not_mem_nil

/-- What the chip does by itself is no more than the program must expect. -/
theorem happen_coherent (eth : ModemCfg) (lowBand : Bool) (host : Host) (event : ChipEvent)
    (result : Host × List (Driver Unit)) (h : Coherent ref host)
    (hresult : happen eth lowBand host event = some result) :
    Coherent ref result.1 ∧ Interference host result.1 ∧
      ∀ helper ∈ result.2, Keeps exec (Coherent ref) Interference Conduct helper fun _ => True := by
  cases event with
  | rxDone start bytes rssi snr crcError =>
      obtain ⟨_, heq⟩ := Option.ite_none_right_eq_some.mp hresult
      obtain rfl := Option.some.inj heq
      refine ⟨⟨?_, h.receiving, h.sending⟩, ⟨rfl, rfl, Or.inl rfl⟩, keeps_of_mem_interrupts ref _ _⟩
      apply h.untouched.writeAll
      show ∀ field ∈ [whole REG_IRQ_FLAGS, whole REG_RX_NB_BYTES, whole REG_FIFO_RX_CURRENT_ADDR,
        whole REG_PKT_RSSI_VALUE, whole REG_PKT_SNR_VALUE], field ∈ workingFields
      decide
  | txDone =>
      obtain ⟨_, heq⟩ := Option.ite_none_right_eq_some.mp hresult
      obtain rfl := Option.some.inj heq
      have hmode : opMode.get (writeAll [(whole REG_IRQ_FLAGS, host.chip.regs REG_IRQ_FLAGS ||| IRQ_TXDONE),
          (opMode, STDBY_MODE)] host.chip.regs) = STDBY_MODE := opMode.get_set STDBY_MODE _
      refine ⟨⟨?_, fun hreceiving => ?_, fun hsending => ?_⟩, ⟨rfl, rfl, Or.inr hmode⟩,
        keeps_of_mem_interrupts ref _ _⟩
      · apply h.untouched.writeAll
        show ∀ field ∈ [whole REG_IRQ_FLAGS, opMode], field ∈ workingFields
        decide
      · exact absurd (hmode.symm.trans hreceiving) (by decide)
      · exact absurd (hmode.symm.trans hsending) (by decide)

end Handlers

/-! ### The calls -/

section Calls

variable (ref : Byte → Byte)

/-- A call of the program, among the other threads. -/
abbrev Calls {α : Type} (script : Driver α) (pre : Host → Prop) (post : α → Host → Prop) : Prop :=
  Owns exec (Coherent ref) Interference Conduct script pre post

/-- In standby, with something known about the pin and its handler. -/
def InStandby (know : Byte → Option Isr → Prop) (host : Host) : Prop :=
  opMode.get host.chip.regs = STDBY_MODE ∧ know (host.chip.regs REG_DIO_MAPPING_1) host.isr

theorem stable_true : Stable (Coherent ref) Interference fun _ => True :=
  fun _ _ _ _ _ _ => trivial

/-- In standby nothing that the other threads do changes the mode, the mapping or the handler. -/
theorem stable_standby (know : Byte → Option Isr → Prop) :
    Stable (Coherent ref) Interference (InStandby know) := by
  rintro host host' _ _ ⟨hisr, hmapping, hmode⟩ ⟨hstandby, hknow⟩
  refine ⟨?_, ?_⟩
  · rcases hmode with hsame | hnew
    · exact hsame.trans hstandby
    · exact hnew
  · rw [hisr, hmapping]
    exact hknow

/-- A read by the program. -/
theorem calls_loraRegReadByte {reg : Byte} (htop : reg &&& 0x80 = 0) (hfifo : reg ≠ REG_FIFO)
    (know : Byte → Host → Prop) (hstable : ∀ value, Stable (Coherent ref) Interference (know value))
    {pre : Host → Prop} (hknow : ∀ host, pre host → know (host.chip.regs reg) host) :
    Calls ref (loraRegReadByte reg) pre fun value host => KeptBits ref reg value ∧ know value host := by
  apply Owns.bind fun rx host => KeptBits ref reg (rx.getD 1 0) ∧ know (rx.getD 1 0) host
  · apply Owns.call
    · intro rx host host' h h' heffect hrx
      exact ⟨hrx.1, hstable _ host host' h h' heffect hrx.2⟩
    · intro host h hpre
      have hconduct : Conduct (.spiXfer [reg, 0x00]) host :=
        .inl (quiet_of_chip (by rw [exec_read htop hfifo]))
      rw [exec_read htop hfifo]
      exact ⟨hconduct, h, h.untouched.keptBits reg, hknow host hpre⟩
  · intro rx host _ hrx
    exact hrx

/-- A write by the program. -/
theorem calls_loraRegWriteByte {reg byte : Byte} {pre post : Host → Prop}
    (hstable : Stable (Coherent ref) Interference post)
    (h : ∀ host, Coherent ref host → pre host → Conduct (.spiXfer [reg ||| 0x80, byte]) host ∧
      Coherent ref (exec (.spiXfer [reg ||| 0x80, byte]) host).2 ∧
        post (exec (.spiXfer [reg ||| 0x80, byte]) host).2) :
    Calls ref (loraRegWriteByte reg byte) pre fun _ => post := by
  apply Owns.bind fun _ => post
  · exact Owns.call (fun _ => hstable) h
  · exact fun _ _ _ hpost => hpost

/-- A write to a register that does not matter for the mode. -/
theorem calls_free {reg : Byte} (hreg : reg ∈ freeRegs) (byte : Byte) {pre : Host → Prop}
    (hstable : Stable (Coherent ref) Interference pre) :
    Calls ref (loraRegWriteByte reg byte) pre fun _ => pre := by
  apply calls_loraRegWriteByte ref hstable
  intro host h hpre
  obtain ⟨hinv, heffect⟩ := h.exec_free hreg byte
  exact ⟨conduct_free hreg byte host, hinv, hstable host _ h hinv heffect hpre⟩

/-- A change of the mode by the program. -/
theorem calls_mode {mode : Byte} (hmode : mode ∈ [SLEEP_MODE, STDBY_MODE, TX_MODE, RXCONT_MODE])
    {pre post : Host → Prop} (hpre : Stable (Coherent ref) Interference pre)
    (hpost : Stable (Coherent ref) Interference post)
    (hreceiving : mode = RXCONT_MODE → ∀ host, pre host →
      host.chip.regs REG_DIO_MAPPING_1 = dioRxMapping ∧ host.isr ≠ some .txDoneISRf)
    (hsending : mode = TX_MODE → ∀ host, pre host →
      host.chip.regs REG_DIO_MAPPING_1 = dioTxMapping ∧ host.isr ≠ some .rxDoneISRf)
    (h : ∀ host host' : Host, pre host → opMode.get host'.chip.regs = mode →
      host'.chip.regs REG_DIO_MAPPING_1 = host.chip.regs REG_DIO_MAPPING_1 → host'.isr = host.isr →
      post host') :
    Calls ref (modifyReg REG_OP_MODE 0xf8 mode) pre fun _ => post := by
  have hmask : mode &&& 0x07 = mode := by
    clear hreceiving hsending h
    revert hmode mode
    decide
  apply Owns.bind _ (calls_loraRegReadByte ref (by decide) (by decide) (fun _ => pre)
    (fun _ => hpre) (fun _ hpre => hpre))
  intro value
  apply calls_loraRegWriteByte ref hpost
  rintro host hinv ⟨hkept, hpre⟩
  have hisr : (host.onRegs (opMode.set mode)).isr = host.isr := rfl
  refine ⟨.inl (quiet_exec_write (by decide) (by decide) (by decide) _ host), ?_⟩
  rw [exec_mode hmode hkept hinv.untouched]
  obtain ⟨hinv', hmode', hmapping'⟩ := hinv.setMode hmask hisr rfl (fun heq => hreceiving heq host hpre)
    (fun heq => hsending heq host hpre)
  exact ⟨hinv', h host _ hpre hmode' hmapping' hisr⟩

theorem calls_loraSetLowdatarateoptimize (on : Bool) {pre : Host → Prop}
    (hstable : Stable (Coherent ref) Interference pre) :
    Calls ref (loraSetLowdatarateoptimize on) pre fun _ => pre := by
  have hmodify : ∀ value : Byte, value &&& lowDataRate.mask = value →
      Calls ref (modifyReg REG_MODEM_CONFIG_3 0xf7 value) pre fun _ => pre := by
    intro on hon
    apply Owns.bind _ (calls_loraRegReadByte ref (by decide) (by decide) (fun _ => pre)
      (fun _ => hstable) (fun _ hpre => hpre))
    intro value
    apply calls_loraRegWriteByte ref hstable
    rintro host hinv ⟨hkept, hpre⟩
    have hisr : (host.onRegs (lowDataRate.set on)).isr = host.isr := rfl
    refine ⟨.inl (quiet_exec_write (by decide) (by decide) (by decide) _ host), ?_⟩
    rw [exec_lowDataRate hon hkept hinv.untouched]
    obtain ⟨hinv', heffect⟩ := hinv.set (by decide) (by decide) (by decide) hisr rfl
    exact ⟨hinv', hstable host _ hinv hinv' heffect hpre⟩
  cases on with
  | false => exact hmodify 0 (by decide)
  | true => exact hmodify 0x08 (by decide)

theorem calls_loraSetSatandbyMode {pre : Host → Prop} (hpre : Stable (Coherent ref) Interference pre) :
    Calls ref loraSetSatandbyMode pre fun _ => InStandby fun _ _ => True :=
  calls_mode ref (by decide) hpre (stable_standby ref fun _ _ => True)
    (fun heq => absurd heq (by decide)) (fun heq => absurd heq (by decide))
    (fun _ _ _ hmode _ _ => ⟨hmode, trivial⟩)

/-- Whatever the mode was, the modem is in standby afterwards. -/
theorem calls_ensureStandby : Calls ref ensureStandby (fun _ => True) fun _ => InStandby fun _ _ => True := by
  apply Owns.bind fun mode host => mode = STDBY_MODE → InStandby (fun _ _ => True) host
  · apply Owns.bind _ (calls_loraRegReadByte ref (by decide) (by decide)
      (fun value host => value &&& 0x07 = STDBY_MODE → InStandby (fun _ _ => True) host) ?_
      fun host _ hstandby => ⟨hstandby, trivial⟩)
    · intro value host _ hvalue
      exact hvalue.2
    · intro value host host' h h' heffect hold hstandby
      exact stable_standby ref (fun _ _ => True) host host' h h' heffect (hold hstandby)
  · intro mode
    split
    · exact (calls_loraSetSatandbyMode ref (stable_true ref)).mono (fun _ _ _ => trivial) fun _ _ _ h => h
    · rename_i hstandby
      exact Owns.done fun host _ h => h (not_not.mp hstandby)

/-- In standby the pin may be mapped to either flag. -/
theorem calls_mapping (mapping : Byte) :
    Calls ref (loraRegWriteByte REG_DIO_MAPPING_1 mapping) (InStandby fun _ _ => True)
      fun _ => InStandby fun mapped _ => mapped = mapping := by
  apply calls_loraRegWriteByte ref (stable_standby ref fun mapped _ => mapped = mapping)
  rintro host h ⟨hstandby, _⟩
  refine ⟨.inr ⟨⟨mapping, rfl⟩, hstandby⟩, ?_⟩
  rw [exec_write (by decide) (by decide)]
  simp only [stored_of_plain (show Plain REG_DIO_MAPPING_1 by decide)]
  have huntouched : Untouched ref (Function.update host.chip.regs REG_DIO_MAPPING_1 mapping) := by
    rw [update_eq_whole_set]
    exact h.untouched.set (by decide) mapping
  have hmapped : Function.update host.chip.regs REG_DIO_MAPPING_1 mapping REG_DIO_MAPPING_1 = mapping :=
    Function.update_self ..
  exact ⟨Coherent.of_mode huntouched hstandby (by decide) (by decide), hstandby, hmapped⟩

/-- In standby either handler may be attached. -/
theorem calls_attach (mapping : Byte) (isr : Isr) :
    Calls ref (Script.call (.gpioSetISRFunc (some isr)) >>= fun _ => pure ())
      (InStandby fun mapped _ => mapped = mapping)
      fun _ => InStandby fun mapped handler => mapped = mapping ∧ handler = some isr := by
  apply Owns.bind fun _ => InStandby fun mapped handler => mapped = mapping ∧ handler = some isr
  · apply Owns.call fun _ => stable_standby ref fun mapped handler => mapped = mapping ∧ handler = some isr
    rintro host h ⟨hstandby, hmapping⟩
    exact ⟨.inl (quiet_of_chip rfl), Coherent.of_mode h.untouched hstandby (by decide) (by decide), hstandby,
      hmapping, rfl⟩
  · exact fun _ _ _ h => h

/-- Without a handler every mode is safe. -/
theorem calls_loraRemoveDioISR : Calls ref loraRemoveDioISR (fun _ => True) fun _ _ => True := by
  apply Owns.bind fun _ _ => True
  · apply Owns.call fun _ => stable_true ref
    intro host h _
    refine ⟨.inl (quiet_of_chip rfl),
      ⟨h.untouched, fun hmode => ⟨(h.receiving hmode).1, ?_⟩, fun hmode => ⟨(h.sending hmode).1, ?_⟩⟩, trivial⟩
    · exact fun heq => absurd heq (by simp [exec])
    · exact fun heq => absurd heq (by simp [exec])
  · exact fun _ _ _ _ => trivial

theorem calls_LoRaReceive (eth : ModemCfg) :
    Calls ref (LoRaReceive eth) (fun _ => True) fun _ _ => True := by
  apply Owns.bind _ (calls_loraSetLowdatarateoptimize ref _ (stable_true ref))
  intro _
  apply Owns.bind _ (calls_ensureStandby ref)
  intro _
  apply Owns.bind _ (calls_mapping ref dioRxMapping)
  intro _
  apply Owns.bind _ (calls_attach ref dioRxMapping .rxDoneISRf)
  intro _
  rw [loraSetRxcontMode]
  apply calls_mode ref (by decide) (stable_standby ref _) (stable_true ref)
  · rintro _ host ⟨_, hmapping, hisr⟩
    exact ⟨hmapping, by rw [hisr]; decide⟩
  · exact fun heq => absurd heq (by decide)
  · exact fun _ _ _ _ _ _ => trivial

theorem calls_loraWriteFifo (buf : List Byte) (size : Byte) :
    Calls ref (loraWriteFifo buf size) (InStandby fun _ _ => True)
      fun _ => InStandby fun _ _ => True := by
  have hstable := stable_standby ref fun _ _ => True
  apply Owns.bind _ (calls_free ref (by decide) TX_BASE_ADDR hstable)
  intro _
  apply Owns.bind _ (calls_free ref (by decide) size hstable)
  intro _
  apply Owns.bind fun _ => InStandby fun _ _ => True
  · apply Owns.call fun _ => hstable
    intro host h hpre
    have hregs : (exec (.spiXfer ((REG_FIFO ||| 0x80) :: buf.take size.toNat)) host).2.chip.regs =
        advance host.chip.regs (buf.take size.toNat).length := by
      rw [exec, xfer_write _ (by decide), writeBurst_fifo]
    have hisr : (exec (.spiXfer ((REG_FIFO ||| 0x80) :: buf.take size.toNat)) host).2.isr = host.isr := rfl
    obtain ⟨hinv, heffect⟩ := h.advance hisr hregs
    exact ⟨.inl (quiet_advance hregs), hinv, hstable host _ h hinv heffect hpre⟩
  · exact fun _ _ _ h => h

theorem calls_LoRaSend (eth : ModemCfg) (buf : List Byte) (size : Byte) :
    Calls ref (LoRaSend eth buf size) (fun _ => True) fun _ _ => True := by
  apply Owns.bind _ (calls_ensureStandby ref)
  intro _
  apply Owns.bind _ (calls_loraSetLowdatarateoptimize ref _ (stable_standby ref fun _ _ => True))
  intro _
  apply Owns.bind _ (calls_loraWriteFifo ref buf _)
  intro _
  apply Owns.bind _ (calls_mapping ref dioTxMapping)
  intro _
  apply Owns.bind _ (calls_attach ref dioTxMapping .txDoneISRf)
  intro _
  rw [loraSetTxMode]
  apply calls_mode ref (by decide) (stable_standby ref _) (stable_true ref)
  · exact fun heq => absurd heq (by decide)
  · rintro _ host ⟨_, hmapping, hisr⟩
    exact ⟨hmapping, by rw [hisr]; decide⟩
  · exact fun _ _ _ _ _ _ => trivial

theorem calls_script (eth : ModemCfg) (call : LoraCall) :
    Calls ref (call.script eth) (fun _ => True) fun _ _ => True := by
  cases call with
  | receive => exact calls_LoRaReceive ref eth
  | send buf size => exact calls_LoRaSend ref eth buf size
  | stopReceive =>
      apply Owns.bind _ (calls_loraRemoveDioISR ref)
      intro _
      exact (calls_loraSetSatandbyMode ref (stable_true ref)).mono (fun _ _ h => h) fun _ _ _ _ => trivial
  | sleep =>
      apply Owns.bind _ (calls_loraRemoveDioISR ref)
      intro _
      exact calls_mode ref (by decide) (stable_true ref) (stable_true ref)
        (fun heq => absurd heq (by decide)) (fun heq => absurd heq (by decide))
        fun _ _ _ _ _ _ => trivial

theorem calls_program (eth : ModemCfg) (calls : List LoraCall) :
    Calls ref (program eth calls) (fun _ => True) fun _ _ => True := by
  induction calls with
  | nil => exact fun _ _ _ => trivial
  | cons call calls ih => exact Owns.bind _ (calls_script ref eth call) fun _ => ih

end Calls

/-! ### Every interleaving -/

/-- A program that has just called `LoRa_begin`. -/
def begun (eth : ModemCfg) (calls : List LoraCall) (host : Host) : System Op (List Byte) Host where
  owner := program eth calls
  helpers := []
  device := ((LoRaBegin eth).run exec host).2

/-- The flag of which a handler takes care. -/
def Isr.flag : Isr → Byte
  | .rxDoneISRf => IRQ_RXDONE
  | .txDoneISRf => IRQ_TXDONE

/-- A handler whose flag is down changes nothing. -/
theorem run_handlerThread_of_down (eth : ModemCfg) (lowBand : Bool) {isr : Isr} {host : Host}
    (h : host.chip.regs REG_IRQ_FLAGS &&& isr.flag = 0) :
    (handlerThread eth lowBand isr).run exec host = ((), host) := by
  cases isr with
  | rxDoneISRf =>
      have hdown : host.chip.regs REG_IRQ_FLAGS &&& IRQ_RXDONE = 0 := h
      rw [handlerThread, Script.run_bind, rxDoneISRf, Script.run_bind,
        run_loraRegReadByte host (by decide) (by decide)]
      dsimp only
      rw [if_neg (not_not_intro hdown)]
      rfl
  | txDoneISRf =>
      have hdown : host.chip.regs REG_IRQ_FLAGS &&& IRQ_TXDONE = 0 := h
      rw [handlerThread, txDoneISRf, Script.run_bind, run_loraRegReadByte host (by decide) (by decide)]
      dsimp only
      rw [if_neg (not_not_intro hdown)]
      rfl

/-- The handler that belongs to an event of the chip. -/
def ChipEvent.isr : ChipEvent → Isr
  | .rxDone .. => .rxDoneISRf
  | .txDone => .txDoneISRf

/-- An interrupt can only start the handler that belongs to it. -/
theorem Coherent.handlerThread_of_mem {ref : Byte → Byte} {host : Host} (h : Coherent ref host)
    {eth : ModemCfg} {lowBand : Bool} {event : ChipEvent} {result : Host × List (Driver Unit)}
    (hresult : happen eth lowBand host event = some result) {helper : Driver Unit}
    (hhelper : helper ∈ result.2) : helper = handlerThread eth lowBand event.isr := by
  have hstarted : ∀ next, helper ∈ interrupts eth lowBand host next →
      ∃ isr, next.isr = some isr ∧ helper = handlerThread eth lowBand isr := by
    intro next hmem
    unfold interrupts at hmem
    split at hmem
    · obtain ⟨isr, hisr, rfl⟩ := List.mem_map.mp hmem
      exact ⟨isr, Option.mem_toList.mp hisr, rfl⟩
    · exact absurd hmem List.not_mem_nil
  cases event with
  | rxDone start bytes rssi snr crcError =>
      obtain ⟨hmode, heq⟩ := Option.ite_none_right_eq_some.mp hresult
      obtain rfl := Option.some.inj heq
      obtain ⟨isr, hisr, rfl⟩ := hstarted _ hhelper
      have hne := (h.receiving hmode).2
      cases isr with
      | rxDoneISRf => rfl
      | txDoneISRf => exact absurd hisr hne
  | txDone =>
      obtain ⟨hmode, heq⟩ := Option.ite_none_right_eq_some.mp hresult
      obtain rfl := Option.some.inj heq
      obtain ⟨isr, hisr, rfl⟩ := hstarted _ hhelper
      have hne := (h.sending hmode).2
      cases isr with
      | rxDoneISRf => exact absurd hisr hne
      | txDoneISRf => rfl

/-- The settings are made of bits outside the working fields, apart from these two. -/
theorem Untouched.settingsOf_eq {ref regs : Byte → Byte} (h : Untouched ref regs) :
    { settingsOf regs with opMode := SLEEP_MODE, lowDataRateOptimize := false } =
      ({ settingsOf ref with opMode := SLEEP_MODE, lowDataRateOptimize := false } : Settings) := by
  have hapart : ∀ reg ∈ [REG_PA_DAC, REG_PA_CONFIG, REG_SYNC_WORD, REG_PREAMBLE_MSB, REG_PREAMBLE_LSB,
      REG_LNA, REG_OCP, REG_FR_MSB, REG_FR_DIM, REG_FR_LSB, REG_DETECT_OPTIMIZE,
      REG_DETECTION_THRESHOLD], ∀ working ∈ workingFields, (whole reg).Apart working := by
    decide
  have hreg : ∀ reg ∈ [REG_PA_DAC, REG_PA_CONFIG, REG_SYNC_WORD, REG_PREAMBLE_MSB, REG_PREAMBLE_LSB,
      REG_LNA, REG_OCP, REG_FR_MSB, REG_FR_DIM, REG_FR_LSB, REG_DETECT_OPTIMIZE,
      REG_DETECTION_THRESHOLD], regs reg = ref reg := by
    intro reg hmem
    have hget := h (whole reg) (hapart reg hmem)
    rwa [whole_get, whole_get] at hget
  have hagc : regs REG_MODEM_CONFIG_3 &&& 0x04 = ref REG_MODEM_CONFIG_3 &&& 0x04 :=
    h ⟨REG_MODEM_CONFIG_3, 0x04⟩ (by decide)
  unfold settingsOf
  simp only [hagc, h longRangeMode (by decide), h implicitHeaderMode (by decide),
    h bandWidth (by decide), h spreadingFactor (by decide), h codingRate (by decide),
    h rxPayloadCrc (by decide), hreg REG_PA_DAC (by decide), hreg REG_PA_CONFIG (by decide),
    hreg REG_SYNC_WORD (by decide), hreg REG_PREAMBLE_MSB (by decide),
    hreg REG_PREAMBLE_LSB (by decide), hreg REG_LNA (by decide), hreg REG_OCP (by decide),
    hreg REG_FR_MSB (by decide), hreg REG_FR_DIM (by decide), hreg REG_FR_LSB (by decide),
    hreg REG_DETECT_OPTIMIZE (by decide), hreg REG_DETECTION_THRESHOLD (by decide)]

/-- However the transfers of the program and of the handlers interleave, with each other and with what
the chip does: the settings stay those that `LoRa_begin` has made, the pin and the handler fit the mode, and
what the chip receives or sends starts the handler that belongs to it. No transfer lets the pin rise, but a
change of the mapping, in standby, to a flag that is up; the handler that is attached then changes nothing if
its own flag is down. -/
theorem modem_coherent (eth : ModemCfg) (lowBand : Bool) (calls : List LoraCall) (host : Host)
    (events : List (Event ChipEvent)) (next : System Op (List Byte) Host × List Unit)
    (hrun : Runs.run (step exec (happen eth lowBand) (interrupts eth lowBand)) (begun eth calls host) events =
      some next) :
    let device := next.1.device
    { settingsOf device.chip.regs with opMode := SLEEP_MODE, lowDataRateOptimize := false } =
        settingsOf ((LoRaBegin eth).run exec host).2.chip.regs ∧
      (opMode.get device.chip.regs = RXCONT_MODE →
        device.chip.regs REG_DIO_MAPPING_1 = dioRxMapping ∧ device.isr ≠ some .txDoneISRf) ∧
      (opMode.get device.chip.regs = TX_MODE →
        device.chip.regs REG_DIO_MAPPING_1 = dioTxMapping ∧ device.isr ≠ some .rxDoneISRf) ∧
      (∀ event result, happen eth lowBand device event = some result →
        ∀ helper ∈ result.2, helper = handlerThread eth lowBand event.isr) ∧
      (∀ thread ∈ next.1.owner :: next.1.helpers, ∀ op cont, thread = .perform op cont →
        interrupts eth lowBand device (exec op device).2 ≠ [] →
          (∃ mapping, op = .spiXfer [REG_DIO_MAPPING_1 ||| 0x80, mapping]) ∧
            opMode.get device.chip.regs = STDBY_MODE) ∧
      ∀ isr : Isr, device.chip.regs REG_IRQ_FLAGS &&& isr.flag = 0 →
        (handlerThread eth lowBand isr).run exec device = ((), device) := by
  have hbegan := began_beginWrites eth host.chip.regs
  have hdevice : (begun eth calls host).device.chip.regs = writeAll (beginWrites eth) host.chip.regs := by
    rw [begun, run_LoRaBegin]
    rfl
  have hstart : Invariant exec (Coherent (writeAll (beginWrites eth) host.chip.regs)) Interference Conduct
      (begun eth calls host) := by
    refine ⟨?_, ⟨fun _ => True, stable_true _, trivial, calls_program _ eth calls⟩, ?_⟩
    · refine Coherent.of_mode ?_ (hdevice ▸ hbegan.opMode) (by decide) (by decide)
      rw [hdevice]
      exact fun _ _ => rfl
    · exact fun _ hmem => absurd hmem List.not_mem_nil
  have hinvariant := invariant_of_run (happen_coherent _ eth lowBand) (keeps_of_mem_interrupts _) hstart hrun
  have hcoherent := hinvariant.device
  refine ⟨?_, hcoherent.receiving, hcoherent.sending, fun event result hresult helper hhelper => ?_,
    fun thread hthread op cont hop hrise => ?_, fun isr => run_handlerThread_of_down eth lowBand⟩
  · have hsleep : (settingsOf (writeAll (beginWrites eth) host.chip.regs)).opMode = SLEEP_MODE := hbegan.opMode
    have hoff := congrArg Settings.lowDataRateOptimize hbegan.obeyed.settings
    rw [hcoherent.untouched.settingsOf_eq, run_LoRaBegin, onRegs_regs]
    generalize settingsOf (writeAll (beginWrites eth) host.chip.regs) = settings at hsleep hoff
    rw [← hsleep, show false = settings.lowDataRateOptimize from hoff.symm]
  · exact hcoherent.handlerThread_of_mem hresult hhelper
  · have hconduct : Conduct op next.1.device := by
      rcases List.mem_cons.mp hthread with rfl | hmem
      · exact hinvariant.owner_conduct hop
      · exact hinvariant.helper_conduct (hop ▸ hmem)
    exact hconduct.resolve_left fun hquiet => hrise (hquiet.interrupts eth lowBand)

/-- The configuration of the radio service. -/
def serviceCfg : ModemCfg where
  bw := .bw62_5
  sf := .sf7
  ecr := .cr8
  freq := 433000000
  preambleLen := 6
  outPower := .op20
  powerOutPin := .paBoost
  syncWord := 0x12
  lnaGain := .unset
  lnaBoost := false
  agc := true
  ocp := 240
  implicitHeader := false
  payloadLen := 0
  crc := false

/-- A chip with every register and every byte of its buffer zero. -/
def Host.zero : Host := ⟨⟨fun _ => 0, fun _ => 0⟩, none⟩

/-- A packet comes in, and its handler is late: the program sends and begins to receive again, and maps
the pin to the flag, which is still up. This starts the handler of the transmission, which is attached. -/
theorem modem_coherent_receiving : ∃ next,
    Runs.run (step exec (happen serviceCfg true) (interrupts serviceCfg true))
      (begun serviceCfg [.receive, .send [0x68, 0x69] 2, .receive] Host.zero)
      (List.replicate 9 .owner ++ [.device (.rxDone 0 [0x68, 0x69] 0 0 false)] ++ List.replicate 18 .owner) =
        some next ∧
    next.1.helpers.length = 2 ∧ next.1.device.isr = some .txDoneISRf ∧
    { settingsOf next.1.device.chip.regs with opMode := SLEEP_MODE, lowDataRateOptimize := false } =
      settingsOf ((LoRaBegin serviceCfg).run exec Host.zero).2.chip.regs := by
  have hrun : (Runs.run (step exec (happen serviceCfg true) (interrupts serviceCfg true))
      (begun serviceCfg [.receive, .send [0x68, 0x69] 2, .receive] Host.zero)
      (List.replicate 9 .owner ++ [.device (.rxDone 0 [0x68, 0x69] 0 0 false)] ++ List.replicate 18 .owner)).map
        (fun next => (next.1.helpers.length, next.1.device.isr)) = some (2, some .txDoneISRf) := by
    decide +kernel
  obtain ⟨next, hnext, heq⟩ := Option.map_eq_some_iff.mp hrun
  rw [Prod.mk.injEq] at heq
  exact ⟨next, hnext, heq.1, heq.2, (modem_coherent serviceCfg true _ Host.zero _ next hnext).1⟩

end LinuxGateway.LoraDriver
