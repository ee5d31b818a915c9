import LinuxGateway.LoraModem
import LinuxGateway.LoraReceive

/-! A packet from the air to the receive buffer, through the registers of the chip. The chip stores it
in its data buffer from any address on, wrapping at the end; the handler reads it back through the
FIFO. What the callback then sees is what `receivePacket` says without any registers. -/

namespace LinuxGateway.LoraDriver

open Scripts Registers

/-! ### The handler on its own -/

section Handler

variable (host : Host)

/-- The registers after the handler has read a packet. -/
def handledRegs (regs : Byte → Byte) (size : Byte) : Byte → Byte :=
  Function.update
    (advance (Function.update regs REG_FIFO_ADDR_PTR (regs REG_FIFO_RX_CURRENT_ADDR)) size.toNat)
    REG_IRQ_FLAGS 0

/-- What the handler reads: the bytes of the data buffer from the address of the packet on. -/
def readFrom (chip : Sx1278) (size : Byte) : List Byte :=
  (List.range size.toNat).map fun i => chip.ram (chip.regs REG_FIFO_RX_CURRENT_ADDR + BitVec.ofNat 8 i)

theorem run_loraRegReadBytes_fifo (size : Byte) :
    (loraRegReadBytes REG_FIFO size).run exec host =
      ((List.range size.toNat).map fun i =>
          host.chip.ram (host.chip.regs REG_FIFO_ADDR_PTR + BitVec.ofNat 8 i),
        host.onRegs fun regs => advance regs size.toNat) := by
  rw [loraRegReadBytes, Script.run_bind, Script.run_call, exec, xfer_read _ (by decide),
    List.length_replicate, readBurst_fifo]
  rfl

theorem run_loraResetIrqFlags :
    loraResetIrqFlags.run exec host =
      ((), host.onRegs fun regs => Function.update regs REG_IRQ_FLAGS 0) := by
  have hcleared : ∀ old : Byte, Sx1278.stored REG_IRQ_FLAGS old 0xff = 0 := by decide
  rw [loraResetIrqFlags, run_loraRegWriteByte host (by decide) (by decide)]
  simp only [hcleared]

theorem run_rxSize {eth : ModemCfg} (hexplicit : eth.implicitHeader = false) :
    (rxSize eth).run exec host = (host.chip.regs REG_RX_NB_BYTES, host) := by
  rw [rxSize, hexplicit]
  exact run_loraRegReadByte host (by decide) (by decide)

/-- The handler stores the packet and leaves the flags down. -/
theorem run_rxDoneISRf {eth : ModemCfg} (hexplicit : eth.implicitHeader = false) (lowBand : Bool)
    (hflag : host.chip.regs REG_IRQ_FLAGS &&& IRQ_RXDONE ≠ 0) :
    ∃ rx : RxData, (rxDoneISRf eth lowBand).run exec host =
        (some rx, host.onRegs fun regs => handledRegs regs (regs REG_RX_NB_BYTES)) ∧
      rx.bytes = readFrom host.chip (host.chip.regs REG_RX_NB_BYTES) ∧
      rx.size = host.chip.regs REG_RX_NB_BYTES := by
  rw [rxDoneISRf, Script.run_bind, run_loraRegReadByte host (by decide) (by decide), if_pos hflag]
  simp only [Script.run_bind, run_loraRegReadByte _ (show REG_FIFO_RX_CURRENT_ADDR &&& 0x80 = 0 by decide)
    (show REG_FIFO_RX_CURRENT_ADDR ≠ REG_FIFO by decide),
    run_loraRegWriteByte_of_plain _ (show Plain REG_FIFO_ADDR_PTR by decide), run_rxSize _ hexplicit,
    run_loraRegReadBytes_fifo, run_loraResetIrqFlags,
    run_loraRegReadByte _ (show REG_IRQ_FLAGS &&& 0x80 = 0 by decide)
      (show REG_IRQ_FLAGS ≠ REG_FIFO by decide),
    run_loraRegReadByte _ (show REG_PKT_RSSI_VALUE &&& 0x80 = 0 by decide)
      (show REG_PKT_RSSI_VALUE ≠ REG_FIFO by decide),
    run_loraRegReadByte _ (show REG_PKT_SNR_VALUE &&& 0x80 = 0 by decide)
      (show REG_PKT_SNR_VALUE ≠ REG_FIFO by decide), Script.run_pure]
  exact ⟨_, rfl, rfl, rfl⟩

end Handler

/-! ### A packet through the data buffer -/

/-- A packet as the chip receives it. -/
structure Reception where
  packet : LoraPacket
  start : Byte
  rssi : Byte
  snr : Byte
  crcError : Bool

def Reception.event (reception : Reception) : ChipEvent :=
  .rxDone reception.start (reception.packet.bytes.map UInt8.toBitVec) reception.rssi reception.snr
    reception.crcError

/-- Reading back what was stored, across the end of the data buffer too. -/
theorem map_store (ram : Byte → Byte) (start : Byte) {bytes : List Byte} (hlen : bytes.length ≤ 255) :
    (List.range bytes.length).map (fun i => store ram start bytes (start + BitVec.ofNat 8 i)) = bytes := by
  apply List.ext_getElem
  · simp
  · intro i hi hi'
    have hoffset : (start + BitVec.ofNat 8 i - start).toNat = i := by bv_omega
    rw [List.getElem_map, List.getElem_range, store, hoffset, List.getD_eq_getElem?_getD,
      List.getElem?_eq_getElem hi', Option.getD_some]

theorem readFrom_store {chip : Sx1278} {ram : Byte → Byte} {start : Byte} {bytes : List Byte}
    (hlen : bytes.length ≤ 255) (hram : chip.ram = store ram start bytes)
    (hcurrent : chip.regs REG_FIFO_RX_CURRENT_ADDR = start) :
    readFrom chip (BitVec.ofNat 8 bytes.length) = bytes := by
  have hsize : (BitVec.ofNat 8 bytes.length).toNat = bytes.length := by
    rw [BitVec.toNat_ofNat]
    omega
  rw [readFrom, hsize, hcurrent, hram]
  exact map_store ram start hlen

/-- The modem is receiving and its interrupt is armed. -/
structure Listening (host : Host) : Prop where
  mode : opMode.get host.chip.regs = RXCONT_MODE
  mapping : host.chip.regs REG_DIO_MAPPING_1 = dioRxMapping
  isr : host.isr = some .rxDoneISRf
  flag : host.chip.regs REG_IRQ_FLAGS &&& IRQ_RXDONE = 0

/-- The registers that the handler uses, when the interrupt has come. -/
structure Received (chip : Sx1278) (reception : Reception) (next : Sx1278) : Prop where
  ram : next.ram = store chip.ram reception.start (reception.packet.bytes.map UInt8.toBitVec)
  current : next.regs REG_FIFO_RX_CURRENT_ADDR = reception.start
  nbBytes : next.regs REG_RX_NB_BYTES = BitVec.ofNat 8 reception.packet.bytes.length
  flag : next.regs REG_IRQ_FLAGS &&& IRQ_RXDONE ≠ 0
  mode : opMode.get next.regs = opMode.get chip.regs
  mapping : next.regs REG_DIO_MAPPING_1 = chip.regs REG_DIO_MAPPING_1

theorem received_receive (chip : Sx1278) (reception : Reception) :
    Received chip reception (chip.receive reception.start (reception.packet.bytes.map UInt8.toBitVec)
      reception.rssi reception.snr reception.crcError) := by
  have hset : ∀ old error : Byte, (old ||| IRQ_RXDONE ||| error) &&& IRQ_RXDONE ≠ 0 := by
    intro old error heq
    have hbit : ((old ||| IRQ_RXDONE ||| error) &&& IRQ_RXDONE)[6] = false := by
      rw [heq]
      rfl
    simp [IRQ_RXDONE] at hbit
  constructor
  case ram => rfl
  case mode =>
    simp (disch := decide) only [Sx1278.receive, writeAll, List.foldl_cons, List.foldl_nil,
      Field.get_set_of_apart]
  case flag =>
    simp (disch := decide) only [Sx1278.receive, writeAll, List.foldl_cons, List.foldl_nil,
      ← update_eq_whole_set, Function.update_self, Function.update_of_ne]
    exact hset _ _
  all_goals
    simp (disch := decide) only [Sx1278.receive, writeAll, List.foldl_cons, List.foldl_nil,
      ← update_eq_whole_set, Function.update_self, Function.update_of_ne, List.length_map]

theorem Listening.happen {host : Host} (h : Listening host) (eth : ModemCfg) (lowBand : Bool)
    (reception : Reception) :
    ∃ chip, LoraDriver.happen eth lowBand host reception.event =
        some ({ host with chip }, [handlerThread eth lowBand .rxDoneISRf]) ∧
      Received host.chip reception chip := by
  have hreceived := received_receive host.chip reception
  have hdown : ¬host.chip.dio0 := by
    rintro (⟨_, hflag⟩ | ⟨hmapping, _⟩)
    · exact hflag h.flag
    · exact absurd (h.mapping ▸ hmapping) (by decide)
  have hmapping : (host.chip.receive reception.start (reception.packet.bytes.map UInt8.toBitVec) reception.rssi
      reception.snr reception.crcError).regs REG_DIO_MAPPING_1 &&& 0xc0 = dioRxMapping := by
    rw [hreceived.mapping, h.mapping]
    rfl
  refine ⟨_, ?_, hreceived⟩
  rw [Reception.event, LoraDriver.happen, if_pos h.mode]
  dsimp only
  rw [interrupts, if_pos ⟨hdown, .inl ⟨hmapping, hreceived.flag⟩⟩, h.isr]
  rfl

/-- One packet at a modem that is listening: the interrupt comes, the handler reads exactly the packet,
and the modem is listening again. -/
theorem Listening.receive {host : Host} (h : Listening host) {eth : ModemCfg}
    (hexplicit : eth.implicitHeader = false) (lowBand : Bool) (reception : Reception) :
    ∃ next rx handled,
      LoraDriver.happen eth lowBand host reception.event =
        some (next, [handlerThread eth lowBand .rxDoneISRf]) ∧
      (rxDoneISRf eth lowBand).run exec next = (some rx, handled) ∧
      rx.bytes = reception.packet.bytes.map UInt8.toBitVec ∧
      rx.size = BitVec.ofNat 8 reception.packet.bytes.length ∧ Listening handled := by
  have hlen : (reception.packet.bytes.map UInt8.toBitVec).length ≤ 255 := by
    rw [List.length_map]
    exact reception.packet.length_le
  obtain ⟨chip, hhappen, hreceived⟩ := h.happen eth lowBand reception
  obtain ⟨rx, hrun, hbytes, hsize⟩ := run_rxDoneISRf { host with chip } hexplicit lowBand hreceived.flag
  refine ⟨_, rx, _, hhappen, hrun, ?_, hsize.trans hreceived.nbBytes, ⟨?_, ?_, h.isr, ?_⟩⟩
  · have hnb := hreceived.nbBytes
    rw [← List.length_map UInt8.toBitVec] at hnb
    rw [hbytes, hnb]
    exact readFrom_store hlen hreceived.ram hreceived.current
  · exact hreceived.mode.trans h.mode
  · exact hreceived.mapping.trans h.mapping
  · exact BitVec.zero_and

/-! ### The service on top of the registers -/

/-- The end of the handler: the bytes go to the start of the receive buffer. -/
def storeRx (modem : Modem) (rx : RxData) : Option Modem :=
  let size := UInt8.ofBitVec rx.size
  (LinuxGateway.loraRegReadBytes modem.buf (rx.bytes.map UInt8.ofBitVec) size).map fun buf =>
    { modem with buf := buf, size := size }

/-- One packet from the chip to the end of the callback. -/
def receiveReception {json : JsonC} (eth : ModemCfg) (lowBand : Bool) :
    Runs.Step (Host × RadioGlobals json) Reception RadioOutput := fun state reception =>
  (happen eth lowBand state.1 reception.event).bind fun result =>
    if result.2.isEmpty then some ((result.1, state.2), [])
    else
      let handled := (rxDoneISRf eth lowBand).run exec result.1
      match handled.1 with
      | none => some ((handled.2, state.2), [])
      | some rx =>
          (storeRx state.2.modem rx).bind fun modem =>
            ({ state.2 with modem } : RadioGlobals json).rxF.map fun next =>
              ((handled.2, next.1), next.2)

theorem storeRx_eq {modem : Modem} (hexplicit : modem.implicitHeader = false) {packet : LoraPacket}
    {rx : RxData} (hbytes : rx.bytes = packet.bytes.map UInt8.toBitVec)
    (hsize : rx.size = BitVec.ofNat 8 packet.bytes.length) :
    (storeRx modem rx).map (fun modem => (modem, true)) =
      LinuxGateway.rxDoneISRf modem packet.received := by
  have hmap : rx.bytes.map UInt8.ofBitVec = packet.bytes := by
    rw [hbytes, List.map_map]
    exact List.map_id _
  have hflag : packet.received.irqFlags &&& LinuxGateway.IRQ_RXDONE ≠ 0 := by
    show LinuxGateway.IRQ_RXDONE &&& LinuxGateway.IRQ_RXDONE ≠ 0
    decide
  rw [LinuxGateway.rxDoneISRf, if_pos hflag, storeRx, hmap, hsize, Option.map_map, hexplicit]
  rfl

theorem rxF_modem {json : JsonC} {globals : RadioGlobals json} {next : RadioGlobals json × List RadioOutput}
    (h : globals.rxF = some next) : next.1.modem = globals.modem := by
  cases htext : Bytes.cString globals.modem.buf.bytes with
  | none => exact absurd (RadioGlobals.rxF_of_unterminated htext) (by simp [h])
  | some text =>
      obtain ⟨next', hnext', hmodem, _⟩ := RadioGlobals.rxF_of_cString htext
      obtain rfl := Option.some.inj (h.symm.trans hnext')
      exact hmodem

/-- The globals are the same, and the modem is listening. -/
def SameGlobals {json : JsonC} (state : Host × RadioGlobals json) (globals : RadioGlobals json) : Prop :=
  state.2 = globals ∧ Listening state.1 ∧ globals.modem.implicitHeader = false

/-- Step for step, the chip with its registers does what `receivePacket` says. -/
theorem receiveReception_agrees {json : JsonC} {eth : ModemCfg} (hexplicit : eth.implicitHeader = false)
    (lowBand : Bool) (state : Host × RadioGlobals json) (globals : RadioGlobals json)
    (reception : Reception) (h : SameGlobals state globals) :
    Option.Rel (Runs.Same SameGlobals) (receiveReception eth lowBand state reception)
      (globals.receivePacket reception.packet) := by
  obtain ⟨rfl, hlistening, hmodem⟩ := h
  obtain ⟨next, rx, handled, hhappen, hrun, hbytes, hsize, hagain⟩ :=
    hlistening.receive hexplicit lowBand reception
  have hstore := storeRx_eq hmodem hbytes hsize
  rw [receiveReception, hhappen, Option.bind_some, List.isEmpty_cons, if_neg Bool.false_ne_true, hrun,
    RadioGlobals.receivePacket, ← hstore]
  dsimp only
  cases hmodem' : storeRx state.2.modem rx with
  | none => exact .none
  | some modem =>
      have hkeep : modem.implicitHeader = false := by
        obtain ⟨buf, _, rfl⟩ := Option.map_eq_some_iff.mp hmodem'
        exact hmodem
      show Option.Rel _ (Option.map _ ({ state.2 with modem } : RadioGlobals json).rxF)
        ({ state.2 with modem } : RadioGlobals json).rxF
      cases hrx : ({ state.2 with modem } : RadioGlobals json).rxF with
      | none => exact .none
      | some result =>
          have hmodem'' := rxF_modem hrx
          refine .some ⟨⟨rfl, hagain, ?_⟩, rfl⟩
          rw [hmodem'']
          exact hkeep

/-! ### From `LoRa_begin` on -/

theorem run_ensureStandby (host : Host) :
    ensureStandby.run exec host = ((), host.onRegs (opMode.set STDBY_MODE)) := by
  have hmode : loraGetOpMode.run exec host = (opMode.get host.chip.regs, host) := by
    rw [loraGetOpMode, Script.run_bind, run_loraRegReadByte host (by decide) (by decide)]
    rfl
  rw [ensureStandby, Script.run_bind, hmode]
  by_cases hstandby : opMode.get host.chip.regs = STDBY_MODE
  · rw [if_neg (not_not_intro hstandby), Script.run_pure, Host.onRegs, Field.set_eq_self hstandby]
  · rw [if_pos hstandby]
    exact run_mode host (by decide)

theorem run_LoRaReceive (eth : ModemCfg) (host : Host) :
    (LoRaReceive eth).run exec host =
      ((), { host.onRegs (writeAll [
        (lowDataRate, if lowDataRateOptimize eth then 0x08 else 0), (opMode, STDBY_MODE),
        (whole REG_DIO_MAPPING_1, dioRxMapping), (opMode, RXCONT_MODE)]) with
          isr := some .rxDoneISRf }) := by
  rw [LoRaReceive, Script.run_bind, run_loraSetLowdatarateoptimize, Script.run_bind, run_ensureStandby,
    Script.run_bind, loraSetDioRxMapping, run_write _ (by decide), Script.run_bind, loraSetRxcontMode,
    run_mode _ (by decide)]
  rfl

/-- A modem that has been set up to receive, from any state without a pending interrupt, is listening. -/
theorem listening_begin (eth : ModemCfg) {host : Host}
    (hflag : host.chip.regs REG_IRQ_FLAGS &&& IRQ_RXDONE = 0) :
    Listening ((LoRaBegin eth >>= fun _ => LoRaReceive eth).run exec host).2 := by
  rw [Script.run_bind, run_LoRaBegin, run_LoRaReceive]
  have hmapping : ∀ regs : Byte → Byte, (whole REG_DIO_MAPPING_1).get (writeAll [
      (lowDataRate, if lowDataRateOptimize eth then 0x08 else 0), (opMode, STDBY_MODE),
      (whole REG_DIO_MAPPING_1, dioRxMapping), (opMode, RXCONT_MODE)] regs) = dioRxMapping := by
    intro regs
    simp (disch := decide) only [writeAll, List.foldl_cons, List.foldl_nil, Field.get_set_of_apart,
      Field.get_set]
    rfl
  have hirq : ∀ regs : Byte → Byte, (writeAll [(lowDataRate, if lowDataRateOptimize eth then 0x08 else 0),
      (opMode, STDBY_MODE), (whole REG_DIO_MAPPING_1, dioRxMapping), (opMode, RXCONT_MODE)] regs)
        REG_IRQ_FLAGS = regs REG_IRQ_FLAGS := fun _ => rfl
  have hbegin : writeAll (beginWrites eth) host.chip.regs REG_IRQ_FLAGS = host.chip.regs REG_IRQ_FLAGS := by
    have hfields : ∀ field ∈ beginFields, (whole REG_IRQ_FLAGS).Apart field := by decide
    have hapart : ∀ write ∈ beginWrites eth, (whole REG_IRQ_FLAGS).Apart write.1 :=
      fun write hwrite => hfields _ (mem_beginFields hwrite)
    have hget := get_writeAll_of_apart hapart host.chip.regs
    rwa [whole_get, whole_get] at hget
  refine ⟨opMode.get_set RXCONT_MODE _, ?_, rfl, ?_⟩
  · exact reg_eq_of_whole (hmapping _)
  · show (writeAll _ (writeAll _ host.chip.regs)) REG_IRQ_FLAGS &&& IRQ_RXDONE = 0
    rw [hirq, hbegin, hflag]

/-- Over every sequence of packets the service on top of the registers of the chip does what it does on
top of `receivePacket`: it is defined for the same sequences, and its globals and its output are the
same. The chip may put each packet anywhere in its data buffer. -/
theorem receiveReception_refines (json : JsonC) (eth : ModemCfg) (hexplicit : eth.implicitHeader = false)
    (lowBand : Bool) (host : Host) (hflag : host.chip.regs REG_IRQ_FLAGS &&& IRQ_RXDONE = 0)
    (receptions : List Reception) :
    (Runs.run (receiveReception eth lowBand)
        (((LoRaBegin eth >>= fun _ => LoRaReceive eth).run exec host).2, RadioGlobals.init json)
        receptions).map (fun result => (result.1.2, result.2)) =
      Runs.run RadioGlobals.receivePacket (RadioGlobals.init json)
        (receptions.map Reception.packet) := by
  have hagree := Runs.run_agree Reception.packet
    (fun state globals reception => receiveReception_agrees hexplicit lowBand state globals reception)
    (s := (((LoRaBegin eth >>= fun _ => LoRaReceive eth).run exec host).2, RadioGlobals.init json))
    ⟨rfl, listening_begin eth hflag, rfl⟩ receptions
  generalize Runs.run (receiveReception eth lowBand) _ receptions = concrete at hagree
  generalize Runs.run RadioGlobals.receivePacket _ _ = abstract at hagree
  cases hagree with
  | none => rfl
  | some hsame => exact congrArg some (Prod.ext hsame.1.1 hsame.2)

/-- The first packet wraps around the end of the data buffer. -/
theorem receiveReception_refines_wrapping :
    (Runs.run (receiveReception serviceCfg true)
        (((LoRaBegin serviceCfg >>= fun _ => LoRaReceive serviceCfg).run exec Host.zero).2,
          RadioGlobals.init RadioGlobals.rejecting)
        [⟨RadioGlobals.packetOf "hello" (by decide), 0xfe, 0, 0, false⟩,
          ⟨RadioGlobals.packetOf "hi" (by decide), 0x03, 0, 0, false⟩]).map
          (fun result => (result.1.2, result.2)) =
      Runs.run RadioGlobals.receivePacket (RadioGlobals.init RadioGlobals.rejecting)
        [RadioGlobals.packetOf "hello" (by decide), RadioGlobals.packetOf "hi" (by decide)] :=
  receiveReception_refines RadioGlobals.rejecting serviceCfg rfl true Host.zero (by decide) _

/-! ### From one modem to another -/

/-- What the chip sends in transmit mode: the payload from the base address on. -/
def transmitted (chip : Sx1278) : List Byte :=
  (List.range (chip.regs REG_PAYLOAD_LENGTH).toNat).map fun i =>
    chip.ram (chip.regs REG_FIFO_TX_BASE_ADDR + BitVec.ofNat 8 i)

theorem store_cons (ram : Byte → Byte) (start byte : Byte) {bytes : List Byte} (h : bytes.length ≤ 255) :
    store (Function.update ram start byte) (start + 1) bytes = store ram start (byte :: bytes) := by
  funext addr
  by_cases haddr : addr = start
  · have hlast : (addr - (start + 1)).toNat = 255 := by
      subst haddr
      bv_omega
    have hfirst : (addr - start).toNat = 0 := by
      subst haddr
      bv_omega
    rw [store, store, hlast, hfirst, haddr, Function.update_self, List.getD_cons_zero,
      List.getD_eq_getElem?_getD, List.getElem?_eq_none h, Option.getD_none]
  · have hnext : (addr - start).toNat = (addr - (start + 1)).toNat + 1 := by bv_omega
    rw [store, store, hnext, Function.update_of_ne haddr, List.getD_cons_succ]

/-- A burst to the FIFO stores the bytes from the pointer on. -/
theorem writeBurst_fifo_ram (chip : Sx1278) {bytes : List Byte} (h : bytes.length ≤ 255) :
    (chip.writeBurst REG_FIFO bytes).ram =
      store chip.ram (chip.regs REG_FIFO_ADDR_PTR) bytes := by
  induction bytes generalizing chip with
  | nil => rfl
  | cons byte bytes ih =>
      have hnext : Sx1278.nextReg REG_FIFO = REG_FIFO := rfl
      rw [List.length_cons] at h
      rw [Sx1278.writeBurst, hnext, ih _ (by omega)]
      exact store_cons chip.ram _ byte (by omega)

theorem run_loraWriteFifo (host : Host) {buf : List Byte} {size : Byte} (hsize : size.toNat ≤ buf.length) :
    let next := ((loraWriteFifo buf size).run exec host).2
    next.chip.ram = store host.chip.ram TX_BASE_ADDR (buf.take size.toNat) ∧
      next.chip.regs = advance (writeAll [(whole REG_FIFO_ADDR_PTR, TX_BASE_ADDR),
        (whole REG_PAYLOAD_LENGTH, size)] host.chip.regs) size.toNat := by
  have hlen : (buf.take size.toNat).length = size.toNat := by
    rw [List.length_take]
    omega
  have hle : (buf.take size.toNat).length ≤ 255 := by bv_omega
  have hptr : (whole REG_PAYLOAD_LENGTH).set size ((whole REG_FIFO_ADDR_PTR).set TX_BASE_ADDR
      host.chip.regs) REG_FIFO_ADDR_PTR = TX_BASE_ADDR := by
    simp (disch := decide) only [← update_eq_whole_set, Function.update_self, Function.update_of_ne]
  rw [loraWriteFifo, Script.run_bind, loraSetAddrPtr, run_write _ (by decide), Script.run_bind,
    loraSetPayload, run_write _ (by decide), loraRegWriteBytes, Script.run_bind, Script.run_call, exec,
    xfer_write _ (by decide)]
  refine ⟨?_, ?_⟩
  · show (Sx1278.writeBurst _ _ _).ram = _
    rw [writeBurst_fifo_ram _ hle]
    exact congrArg (fun ptr => store host.chip.ram ptr (buf.take size.toNat)) hptr
  · show (Sx1278.writeBurst _ _ _).regs = _
    rw [writeBurst_fifo, hlen]
    rfl

/-- After `LoRa_begin` and `LoRa_send` the chip sends the bytes of the buffer. -/
theorem transmitted_send (eth : ModemCfg) (hexplicit : eth.implicitHeader = false) (host : Host)
    {buf : List Byte} {size : Byte} (hsize : size.toNat ≤ buf.length) :
    let sent := ((LoRaBegin eth >>= fun _ => LoRaSend eth buf size).run exec host).2
    opMode.get sent.chip.regs = TX_MODE ∧ transmitted sent.chip = buf.take size.toNat := by
  have hlen : (buf.take size.toNat).length = size.toNat := by
    rw [List.length_take]
    omega
  have hbase : writeAll (beginWrites eth) host.chip.regs REG_FIFO_TX_BASE_ADDR = TX_BASE_ADDR :=
    reg_eq_of_whole (began_beginWrites eth host.chip.regs).txBase
  obtain ⟨hram, hregs⟩ := run_loraWriteFifo (((host.onRegs (writeAll (beginWrites eth))).onRegs
    (opMode.set STDBY_MODE)).onRegs (lowDataRate.set (if lowDataRateOptimize eth then 0x08 else 0))) hsize
  rw [Script.run_bind, run_LoRaBegin, LoRaSend, Script.run_bind, run_ensureStandby, Script.run_bind,
    run_loraSetLowdatarateoptimize, Script.run_bind, hexplicit, if_neg Bool.false_ne_true]
  generalize (loraWriteFifo buf size).run exec _ = written at hram hregs ⊢
  rw [Script.run_bind, loraSetDioTxMapping, run_write _ (by decide), Script.run_bind, loraSetTxMode,
    run_mode _ (by decide)]
  have hlength : written.2.chip.regs REG_PAYLOAD_LENGTH = size := by
    rw [hregs]
    simp (disch := decide) only [advance, writeAll, List.foldl_cons, List.foldl_nil,
      ← update_eq_whole_set, Function.update_self, Function.update_of_ne]
  have htxBase : written.2.chip.regs REG_FIFO_TX_BASE_ADDR = TX_BASE_ADDR := by
    rw [hregs, ← hbase]
    rfl
  refine ⟨opMode.get_set TX_MODE _, ?_⟩
  show (List.range (written.2.chip.regs REG_PAYLOAD_LENGTH).toNat).map (fun i =>
    written.2.chip.ram (written.2.chip.regs REG_FIFO_TX_BASE_ADDR + BitVec.ofNat 8 i)) = _
  have hstored := map_store host.chip.ram TX_BASE_ADDR (show (buf.take size.toNat).length ≤ 255 by bv_omega)
  rw [hlen] at hstored
  rw [hlength, htxBase, hram]
  exact hstored

/-- A message from one modem to another: what `LoRa_send` is given is what the handler of a listening
modem stores, wherever its chip puts the packet, and it is listening for the next one. -/
theorem send_received (eth : ModemCfg) (hexplicit : eth.implicitHeader = false) (lowBand : Bool)
    (sender receiver : Host) (hlistening : Listening receiver) (buf : List UInt8) (size : Byte)
    (hsize : size.toNat ≤ buf.length) (start rssi snr : Byte) (crcError : Bool) :
    let sent := ((LoRaBegin eth >>= fun _ => LoRaSend eth (buf.map UInt8.toBitVec) size).run exec sender).2
    opMode.get sent.chip.regs = TX_MODE ∧
      ∃ next rx handled,
        happen eth lowBand receiver (.rxDone start (transmitted sent.chip) rssi snr crcError) =
          some (next, [handlerThread eth lowBand .rxDoneISRf]) ∧
        (rxDoneISRf eth lowBand).run exec next = (some rx, handled) ∧
        rx.bytes.map UInt8.ofBitVec = buf.take size.toNat ∧ rx.size = size ∧ Listening handled := by
  have hlen : (buf.take size.toNat).length = size.toNat := by
    rw [List.length_take]
    omega
  have hle : (buf.take size.toNat).length ≤ 255 := by bv_omega
  have hsent := transmitted_send eth hexplicit sender (show size.toNat ≤ (buf.map UInt8.toBitVec).length by
      rw [List.length_map]
      exact hsize)
  obtain ⟨next, rx, handled, hhappen, hrun, hbytes, hrxSize, hagain⟩ :=
    hlistening.receive hexplicit lowBand ⟨⟨buf.take size.toNat, hle⟩, start, rssi, snr, crcError⟩
  refine ⟨hsent.1, next, rx, handled, ?_, hrun, ?_, ?_, hagain⟩
  · rw [hsent.2, ← List.map_take]
    exact hhappen
  · rw [hbytes, List.map_map]
    exact List.map_id _
  · rw [hrxSize, hlen]
    exact BitVec.ofNat_toNat ..

/-- From two chips with nothing in them, `hello`. -/
theorem send_received_hello :
    ∃ next rx handled,
      happen serviceCfg true
          ((LoRaBegin serviceCfg >>= fun _ => LoRaReceive serviceCfg).run exec Host.zero).2
          (.rxDone 0xfe (transmitted ((LoRaBegin serviceCfg >>= fun _ =>
            LoRaSend serviceCfg ((Bytes.ascii "hello").map UInt8.toBitVec) 5).run exec
              Host.zero).2.chip) 0 0 false) =
        some (next, [handlerThread serviceCfg true .rxDoneISRf]) ∧
      (rxDoneISRf serviceCfg true).run exec next = (some rx, handled) ∧
      rx.bytes.map UInt8.ofBitVec = Bytes.ascii "hello" := by
  obtain ⟨_, next, rx, handled, hhappen, hrun, hbytes, _⟩ :=
    send_received serviceCfg rfl true Host.zero _ (listening_begin serviceCfg (show Host.zero.chip.regs
        REG_IRQ_FLAGS &&& IRQ_RXDONE = 0 by decide))
      (Bytes.ascii "hello") 5 (by decide) 0xfe 0 0 false
  exact ⟨next, rx, handled, hhappen, hrun, hbytes.trans (by decide)⟩

end LinuxGateway.LoraDriver
