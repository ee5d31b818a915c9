import LinuxGateway.RfDriver

/-! What the calls of the RF24 library leave in the registers. -/

namespace LinuxGateway.RfDriver

open Scripts Registers

section Calls

variable (chip : Nrf24)

theorem run_setRetries (delay count : Byte) :
    (setRetries delay count).run exec chip =
      ((), chip.write SETUP_RETR [(delay &&& 0xf) <<< ARD ||| (count &&& 0xf) <<< ARC]) := by
  rw [setRetries, Script.run_bind, run_writeRegister chip (by decide)]
  rfl

theorem run_setChannel (channel : Byte) :
    (setChannel channel).run exec chip = ((), chip.write RF_CH [rf24Min channel 125]) := by
  rw [setChannel, Script.run_bind, run_writeRegister chip (by decide)]
  rfl

/-- The setup with another rate in it. -/
def withRate (setup : Byte) (speed : DataRate) : Byte :=
  (setup &&& ~~~(BV RF_DR_LOW ||| BV RF_DR_HIGH)) ||| speed.bits

/-- The chip has taken a rate if it has it. -/
theorem run_setDataRate (speed : DataRate) :
    (setDataRate speed).run exec chip =
      (decide (speed = .rf24_250kbps → chip.plus),
        chip.write RF_SETUP [withRate (chip.regs RF_SETUP) speed]) := by
  have hstored : chip.stored RF_SETUP (withRate (chip.regs RF_SETUP) speed) =
      withRate (chip.regs RF_SETUP) speed ↔ (speed = .rf24_250kbps → chip.plus) := by
    generalize hplus : chip.plus = plus
    generalize chip.regs RF_SETUP = old
    have hmissing : ∀ old : Byte, withRate old .rf24_250kbps &&& ~~~BV RF_DR_LOW ≠
        withRate old .rf24_250kbps := by decide
    have hother : ∀ old : Byte, withRate old .rf24_1mbps &&& ~~~BV RF_DR_LOW = withRate old .rf24_1mbps ∧
        withRate old .rf24_2mbps &&& ~~~BV RF_DR_LOW = withRate old .rf24_2mbps := by decide
    cases plus with
    | true => simp [Nrf24.stored, hplus, RF_SETUP, NRF_STATUS, FEATURE, DYNPD, OBSERVE_TX, CD, FIFO_STATUS]
    | false =>
        rw [Nrf24.stored, if_neg (by decide), if_pos ⟨rfl, by simp [hplus]⟩]
        cases speed with
        | rf24_1mbps => simp [hother]
        | rf24_2mbps => simp [hother]
        | rf24_250kbps => simp [hmissing]
  rw [setDataRate, Script.run_bind, run_readRegister chip (by decide), Script.run_bind,
    run_writeRegister _ (by decide), Script.run_bind, run_readRegister _ (by decide),
    chip.read_eq_regs (by decide), Nrf24.read_eq_regs _ (by decide),
    chip.write_regs_self (by decide)]
  exact congrArg (·, chip.write RF_SETUP [withRate (chip.regs RF_SETUP) speed])
    (decide_eq_decide.mpr hstored)

theorem run_toggleFeatures (linux : Bool) :
    (toggleFeatures linux).run exec chip =
      ((), chip.setActivated (if linux then chip.activated else chip.activated ^^ !chip.plus)) := by
  cases linux <;> rfl

theorem run_disableDynamicPayloads (radio : Rf24) :
    (disableDynamicPayloads radio).run exec chip =
      ({ radio with dynamicPayloadsEnabled := false }, (chip.write FEATURE [0]).write DYNPD [0]) := by
  rw [disableDynamicPayloads, Script.run_bind, run_writeRegister chip (by decide), Script.run_bind,
    run_writeRegister _ (by decide)]
  rfl

/-- Nothing is written to a chip that is up, which is as if the same were written. -/
theorem run_powerUp :
    powerUp.run exec chip = ((), chip.write NRF_CONFIG [chip.regs NRF_CONFIG ||| BV PWR_UP]) := by
  have hset : ∀ cfg : Byte, cfg &&& BV PWR_UP ≠ 0 → cfg ||| BV PWR_UP = cfg := by decide
  rw [powerUp, Script.run_bind, run_readRegister chip (by decide), chip.read_eq_regs (by decide)]
  dsimp only
  split
  · rw [Script.run_bind, run_writeRegister chip (by decide)]
    rfl
  · rename_i hup
    rw [hset _ hup, chip.write_same (by decide)]
    rfl

end Calls

/-! ### `begin` -/

/-- The registers that `begin` writes. -/
def beginRegs : List Byte := [NRF_CONFIG, SETUP_RETR, RF_CH, RF_SETUP, NRF_STATUS, FEATURE, DYNPD]

/-- The chip after `begin`. The address width, the acknowledgements, the pipes and the power are what
they were. -/
structure Begun (chip next : Nrf24) : Prop where
  plus : next.plus = chip.plus
  ce : next.ce = false
  rxFifo : next.rxFifo = []
  txFifo : next.txFifo = []
  addrs : next.addrs = chip.addrs
  config : next.regs NRF_CONFIG = 0x0E
  retries : next.regs SETUP_RETR = 0x5F
  channel : next.regs RF_CH = 76
  rate : next.regs RF_SETUP &&& (BV RF_DR_LOW ||| BV RF_DR_HIGH) = 0
  flags : next.regs NRF_STATUS &&& allFlags = 0
  feature : next.unlocked → next.regs FEATURE = 0
  dynpd : next.unlocked → next.regs DYNPD = 0
  others : ∀ reg ∉ beginRegs, next.regs reg = chip.regs reg

section Stored

variable (chip : Nrf24)

/-- Every chip has the rate of 1 Mbps. -/
theorem stored_withRate (setup : Byte) :
    chip.stored RF_SETUP (withRate setup .rf24_1mbps) = withRate setup .rf24_1mbps := by
  have hlow : ∀ setup : Byte, withRate setup .rf24_1mbps &&& ~~~BV RF_DR_LOW = withRate setup .rf24_1mbps := by
    decide
  rw [Nrf24.stored, if_neg (by decide)]
  split
  · exact hlow setup
  · rw [if_neg (fun h => absurd h.1 (by decide)), if_neg (by decide)]

theorem stored_allFlags : chip.stored NRF_STATUS allFlags &&& allFlags = 0 := by
  have hclear : ∀ flags : Byte, flags &&& ~~~allFlags &&& allFlags = 0 := by decide
  rw [Nrf24.stored, if_pos rfl]
  exact hclear _

theorem stored_of_unlocked (h : chip.unlocked) {reg : Byte} (hreg : reg = FEATURE ∨ reg = DYNPD) (byte : Byte) :
    chip.stored reg byte = byte := by
  have hsetup : reg ≠ NRF_STATUS ∧ reg ≠ RF_SETUP ∧ ¬(reg = OBSERVE_TX ∨ reg = CD ∨ reg = FIFO_STATUS) := by
    revert hreg reg
    decide
  rw [Nrf24.stored, if_neg hsetup.1, if_neg (fun hold => hsetup.2.1 hold.1), if_neg (by simp [h]),
    if_neg hsetup.2.2]

end Stored

theorem run_begin (linux : Bool) (radio : Rf24) (chip : Nrf24) :
    ∃ ok next, (begin linux radio).run exec chip =
        ((ok, { radio with pVariant := radio.pVariant || chip.plus, dynamicPayloadsEnabled := false }),
          next) ∧ Begun chip next := by
  have hrate : ∀ setup : Byte,
      withRate setup .rf24_1mbps &&& (BV RF_DR_LOW ||| BV RF_DR_HIGH) = 0 := by decide
  simp (disch := decide) only [begin, Script.run_bind, run_ce, run_writeRegister, run_setRetries,
    run_setDataRate, run_readRegister, run_toggleFeatures, run_disableDynamicPayloads, run_setChannel,
    run_flushRx, run_flushTx, Script.run_pure, run_modifyRegister, run_powerUp, Nrf24.write_regs_of_ne,
    Nrf24.write_regs_of_plain, Nrf24.setCe_regs, Nrf24.flushTx_regs, Nrf24.flushRx_regs,
    Nrf24.setActivated_regs, Nrf24.write_plus, Nrf24.setCe_plus]
  refine ⟨_, _, Prod.ext (Prod.ext rfl (by simp)) rfl, ?_⟩
  generalize (if linux = true then _ else _) = activated
  constructor
  case others =>
    intro reg hreg
    simp only [beginRegs, List.mem_cons, List.not_mem_nil, or_false, not_or] at hreg
    obtain ⟨hconfig, hretr, hch, hsetup, hstatus, hfeature, hdynpd⟩ := hreg
    simp (disch := assumption) only [Nrf24.write_regs_of_ne, Nrf24.flushTx_regs, Nrf24.flushRx_regs,
      Nrf24.setActivated_regs, Nrf24.setCe_regs]
  case addrs =>
    funext reg i
    simp (disch := decide) only [Nrf24.write_addrs_of_not_address, Nrf24.flushTx_addrs,
      Nrf24.flushRx_addrs, Nrf24.setActivated_addrs, Nrf24.setCe_addrs]
  case feature | dynpd =>
    intro hunlocked
    simp only [Nrf24.write_unlocked] at hunlocked
    simp (disch := decide) only [Nrf24.write_regs_of_ne, Nrf24.flushTx_regs, Nrf24.flushRx_regs,
      Nrf24.write_regs_self]
    exact stored_of_unlocked _ (by simpa using hunlocked) (by decide) 0
  all_goals
    simp (disch := decide) only [Nrf24.write_plus, Nrf24.write_ce, Nrf24.write_rxFifo,
      Nrf24.write_txFifo, Nrf24.flushTx_plus, Nrf24.flushRx_plus, Nrf24.setActivated_plus, Nrf24.setCe_plus,
      Nrf24.flushTx_ce, Nrf24.flushRx_ce, Nrf24.setActivated_ce, Nrf24.setCe_ce, Nrf24.flushTx_txFifo,
      Nrf24.flushTx_rxFifo, Nrf24.flushRx_rxFifo, Nrf24.write_regs_of_plain, Nrf24.write_regs_of_ne,
      Nrf24.flushTx_regs, Nrf24.flushRx_regs, Nrf24.write_regs_self, Nrf24.setActivated_regs,
      stored_withRate, stored_allFlags, hrate]
  case config | retries | channel => decide

/-! ### Listening -/

section Listening

variable (chip : Nrf24)

theorem run_closePipe (pipe : ℕ) :
    (closePipe pipe).run exec chip =
      ((), chip.write EN_RXADDR [(chip.regs EN_RXADDR &&& ~~~BV pipe) ||| 0]) := by
  rw [closePipe, run_modifyRegister chip (by decide) (by decide)]

theorem run_enablePipe (pipe : ℕ) :
    (enablePipe pipe).run exec chip =
      ((), chip.write EN_RXADDR [(chip.regs EN_RXADDR &&& 0xFF) ||| BV pipe]) := by
  rw [enablePipe, run_modifyRegister chip (by decide) (by decide)]

theorem run_flushAcks : ∃ next, flushAcks.run exec chip = ((), next) ∧
    (next = chip ∨ next = chip.flushTx) := by
  rw [flushAcks, Script.run_bind, run_readRegister chip (by decide)]
  dsimp only
  split
  · exact ⟨_, rfl, .inr rfl⟩
  · exact ⟨_, rfl, .inl rfl⟩

theorem run_restorePipe0 (radio : Rf24) :
    (restorePipe0 radio).run exec chip =
      ((), if radio.pipe0ReadingAddress 0 > 0 then
          chip.write RX_ADDR_P0 ((List.range radio.addrWidth.toNat).map radio.pipe0ReadingAddress)
        else chip.write EN_RXADDR [(chip.regs EN_RXADDR &&& ~~~BV 0) ||| 0]) := by
  unfold restorePipe0
  split
  · rw [Script.run_bind, run_writeRegisterBytes chip (by decide)]
    rfl
  · exact run_closePipe chip 0

/-- The chip after `startListening`. -/
structure Started (radio : Rf24) (chip next : Nrf24) : Prop where
  unlocked : next.unlocked = chip.unlocked
  ce : next.ce = true
  rxFifo : next.rxFifo = chip.rxFifo
  txFifo : next.txFifo = chip.txFifo ∨ next.txFifo = []
  config : next.regs NRF_CONFIG = chip.regs NRF_CONFIG ||| BV PWR_UP ||| BV PRIM_RX
  restored : radio.pipe0ReadingAddress 0 ≠ 0 →
    next.addrs RX_ADDR_P0 = Nrf24.storedAddr (chip.addrs RX_ADDR_P0)
      ((List.range radio.addrWidth.toNat).map radio.pipe0ReadingAddress) ∧
    next.regs EN_RXADDR = chip.regs EN_RXADDR
  closed : radio.pipe0ReadingAddress 0 = 0 →
    next.regs EN_RXADDR = chip.regs EN_RXADDR &&& ~~~BV 0 ∧
    next.addrs RX_ADDR_P0 = chip.addrs RX_ADDR_P0
  addrs : ∀ reg ≠ RX_ADDR_P0, next.addrs reg = chip.addrs reg
  others : ∀ reg ∉ [NRF_CONFIG, NRF_STATUS, EN_RXADDR], next.regs reg = chip.regs reg

theorem Started.flushAcks {radio : Rf24} {chip next : Nrf24} (h : Started radio chip next) :
    ∃ last, RfDriver.flushAcks.run exec next = ((), last) ∧ Started radio chip last := by
  obtain ⟨last, hrun, rfl | rfl⟩ := run_flushAcks next
  · exact ⟨_, hrun, h⟩
  · exact ⟨_, hrun, ⟨h.unlocked, h.ce, h.rxFifo, .inr rfl, h.config, h.restored, h.closed, h.addrs, h.others⟩⟩

/-- The chip when `startListening` has raised CE. -/
def awake : Nrf24 :=
  (((chip.write NRF_CONFIG [chip.regs NRF_CONFIG ||| BV PWR_UP]).write NRF_CONFIG
    [chip.regs NRF_CONFIG ||| BV PWR_UP ||| BV PRIM_RX]).write NRF_STATUS [allFlags]).setCe true

theorem awake_addrs (reg : Byte) : (awake chip).addrs reg = chip.addrs reg := by
  funext i
  simp (disch := decide) only [awake, Nrf24.write_addrs_of_not_address, Nrf24.setCe_addrs]

theorem awake_config : (awake chip).regs NRF_CONFIG = chip.regs NRF_CONFIG ||| BV PWR_UP ||| BV PRIM_RX := by
  simp (disch := decide) only [awake, Nrf24.setCe_regs, Nrf24.write_regs_of_ne, Nrf24.write_regs_of_plain]

theorem awake_regs {reg : Byte} (h : reg ∉ [NRF_CONFIG, NRF_STATUS]) :
    (awake chip).regs reg = chip.regs reg := by
  simp only [List.mem_cons, List.not_mem_nil, or_false, not_or] at h
  obtain ⟨hconfig, hstatus⟩ := h
  simp (disch := assumption) only [awake, Nrf24.setCe_regs, Nrf24.write_regs_of_ne]

theorem started_of_cached {radio : Rf24} (hcached : radio.pipe0ReadingAddress 0 ≠ 0) :
    Started radio chip ((awake chip).write RX_ADDR_P0
      ((List.range radio.addrWidth.toNat).map radio.pipe0ReadingAddress)) := by
  constructor
  case config => rw [Nrf24.write_regs_of_address _ _ (by decide), awake_config]
  case closed => exact fun hzero => absurd hzero hcached
  case restored =>
    intro _
    rw [Nrf24.write_addrs_self _ _ (by decide), awake_addrs, Nrf24.write_regs_of_address _ _ (by decide),
      awake_regs chip (by decide)]
    exact ⟨rfl, rfl⟩
  case addrs =>
    intro reg hreg
    rw [Nrf24.write_addrs_of_ne _ _ hreg, awake_addrs]
  case others =>
    intro reg hreg
    rw [Nrf24.write_regs_of_address _ _ (by decide), awake_regs chip fun h => hreg (by grind)]
  all_goals simp [awake]

theorem started_of_empty {radio : Rf24} (hempty : radio.pipe0ReadingAddress 0 = 0) :
    Started radio chip ((awake chip).write EN_RXADDR [(chip.regs EN_RXADDR &&& ~~~BV 0) ||| 0]) := by
  constructor
  case config => rw [Nrf24.write_regs_of_ne _ _ (by decide), awake_config]
  case restored => exact fun hcached => absurd hempty hcached
  case closed =>
    intro _
    rw [Nrf24.write_regs_of_plain _ (by decide), Nrf24.write_addrs_of_not_address _ _ (by decide),
      awake_addrs]
    exact ⟨BitVec.or_zero, rfl⟩
  case addrs =>
    intro reg _
    rw [Nrf24.write_addrs_of_not_address _ _ (by decide), awake_addrs]
  case others =>
    intro reg hreg
    rw [Nrf24.write_regs_of_ne _ _ fun h => hreg (by grind), awake_regs chip fun h => hreg (by grind)]
  all_goals simp [awake]

theorem run_startListening (radio : Rf24) :
    ∃ next, (startListening radio).run exec chip = ((), next) ∧ Started radio chip next := by
  have hmask : ∀ config : Byte, (config ||| BV PWR_UP) &&& 0xFF ||| BV PRIM_RX =
      config ||| BV PWR_UP ||| BV PRIM_RX := by decide
  have hawake : (startListening radio).run exec chip =
      RfDriver.flushAcks.run exec ((restorePipe0 radio).run exec (awake chip)).2 := by
    simp (disch := decide) only [startListening, Script.run_bind, run_powerUp, run_modifyRegister,
      run_writeRegister, run_ce, Nrf24.write_regs_of_plain, hmask, awake]
  rw [hawake, run_restorePipe0]
  split
  · rename_i hcached
    exact (started_of_cached chip (by bv_omega)).flushAcks
  · rename_i hempty
    rw [awake_regs chip (by decide)]
    exact (started_of_empty chip (by bv_omega)).flushAcks

/-- The chip after `stopListening`. -/
structure Stopped (chip next : Nrf24) : Prop where
  unlocked : next.unlocked = chip.unlocked
  ce : next.ce = false
  rxFifo : next.rxFifo = chip.rxFifo
  txFifo : next.txFifo = chip.txFifo ∨ next.txFifo = []
  config : next.regs NRF_CONFIG = chip.regs NRF_CONFIG &&& ~~~BV PRIM_RX
  pipes : next.regs EN_RXADDR = chip.regs EN_RXADDR ||| BV 0
  addrs : ∀ reg, next.addrs reg = chip.addrs reg
  others : ∀ reg ∉ [NRF_CONFIG, EN_RXADDR], next.regs reg = chip.regs reg

theorem run_stopListening : ∃ next, stopListening.run exec chip = ((), next) ∧ Stopped chip next := by
  have hmask : ∀ pipes : Byte, pipes &&& 0xFF = pipes := by decide
  rw [stopListening, Script.run_bind, run_ce, Script.run_bind]
  obtain ⟨quiet, hrun, hquiet⟩ := run_flushAcks (chip.setCe false)
  have hregs : ∀ reg, quiet.regs reg = chip.regs reg := by rcases hquiet with rfl | rfl <;> exact fun _ => rfl
  have haddrs : ∀ reg, quiet.addrs reg = chip.addrs reg := by
    rcases hquiet with rfl | rfl <;> exact fun _ => rfl
  rw [hrun, Script.run_bind, run_modifyRegister _ (by decide) (by decide), run_enablePipe]
  refine ⟨_, rfl, ?_⟩
  constructor
  case config =>
    rw [Nrf24.write_regs_of_ne _ _ (by decide), Nrf24.write_regs_of_plain _ (by decide), hregs]
    exact BitVec.or_zero
  case pipes =>
    rw [Nrf24.write_regs_of_plain _ (by decide), Nrf24.write_regs_of_ne _ _ (by decide), hregs, hmask]
    rfl
  case addrs =>
    intro reg
    rw [Nrf24.write_addrs_of_not_address _ _ (by decide), Nrf24.write_addrs_of_not_address _ _ (by decide),
      haddrs]
  case others =>
    intro reg hreg
    rw [Nrf24.write_regs_of_ne _ _ fun h => hreg (by grind), Nrf24.write_regs_of_ne _ _ fun h => hreg (by grind),
      hregs]
  all_goals rcases hquiet with rfl | rfl <;> simp

theorem run_powerDown :
    powerDown.run exec chip =
      ((), (chip.setCe false).write NRF_CONFIG [(chip.regs NRF_CONFIG &&& ~~~BV PWR_UP) ||| 0]) := by
  rw [powerDown, Script.run_bind, run_ce, run_modifyRegister _ (by decide) (by decide)]
  rfl

theorem run_openWritingPipe (radio : Rf24) (address : Memory) :
    (openWritingPipe radio address).run exec chip =
      ((), ((chip.write RX_ADDR_P0 ((List.range radio.addrWidth.toNat).map address)).write TX_ADDR
        ((List.range radio.addrWidth.toNat).map address)).write RX_PW_P0 [radio.payloadSize]) := by
  rw [openWritingPipe, Script.run_bind, run_writeRegisterBytes chip (by decide), Script.run_bind,
    run_writeRegisterBytes _ (by decide), Script.run_bind, run_writeRegister _ (by decide)]
  rfl

theorem run_openPipe (radio : Rf24) (child : ℕ) {pipe payloadSize : Byte}
    (hpipe : pipe &&& REGISTER_MASK = pipe) (hsize : payloadSize &&& REGISTER_MASK = payloadSize)
    (address : Memory) :
    (openPipe radio child pipe payloadSize address).run exec chip =
      (enablePipe child).run exec ((chip.write pipe ((List.range
        (if child < 2 then radio.addrWidth else 1).toNat).map address)).write payloadSize
          [radio.payloadSize]) := by
  rw [openPipe, Script.run_bind, run_writeRegisterBytes chip hpipe, Script.run_bind,
    run_writeRegister _ hsize]

end Listening

end LinuxGateway.RfDriver
