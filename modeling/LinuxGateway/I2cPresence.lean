import LinuxGateway.I2cScan
import LinuxGateway.LibRuns

/-! The absence report of the I2C service. The timer handler counts its calls in `var`, and a call
that finds the counter above five reports that there is no device in place of a scan. Between the
calls a device may be found, which stops the timer, and lost again, which the reading thread notices
and restarts it. Only the report sets the counter back, so it says that six calls went by, whatever
they found. A call of the handler is over before the next statement of a thread. -/

namespace LinuxGateway

open I2cScanner

/-- The statements of `threadfunction2` that change what the handler and the threads share. -/
inductive I2cThreadPc where
  | ifAddress
  | startTimer
  | stopTimer
  | read
  | clearA
  | clearAddress
  | restartTimer
  | setA
  | whileA
  | readWhile
  | clearAWhile
  deriving DecidableEq

structure I2cPresence where
  scanner : I2cScanner
  a : Bool
  /-- The interval timer runs. -/
  timer : Bool
  /-- The reading thread, once `main` has created it. -/
  thread : Option I2cThreadPc
  deriving DecidableEq

inductive I2cPresenceEvent where
  /-- The timer expires; the bus answers so during the scan. -/
  | tick (bus : I2cBus)
  /-- `main` tests `while (address < 0 || address > 128)`. -/
  | wait
  /-- The next statement of the reading thread; a `read` succeeds or not. -/
  | thread (succeeded : Bool)
  /-- `main` calls `sendRequestToNode`; its `ioctl` succeeds or not. -/
  | request (succeeded : Bool)

namespace I2cPresence

/-- `main` has opened the bus and started the timer. -/
def init : I2cPresence where
  scanner := ⟨0, -1, 0⟩
  a := false
  timer := true
  thread := none

/-- `var++; address = scan_address(fd);` and the test behind it. -/
def timerHandler (s : I2cPresence) (bus : I2cBus) : I2cPresence × List I2cAction :=
  let scan := scanAddress bus { s.scanner with var := s.scanner.var + 1 }
  let address := scan.1.2
  ({ s with
      scanner := { scan.1.1 with address := address }
      timer := if address < 128 ∧ 0 < address then false else s.timer }, scan.2)

/-- The test of `main` and of the reading thread for an address that was found. -/
def hasAddress (s : I2cPresence) : Bool := 0 ≤ s.scanner.address ∧ s.scanner.address ≤ 128

def threadStep (s : I2cPresence) (succeeded : Bool) : I2cThreadPc → I2cPresence
  | .ifAddress => { s with thread := some (if s.hasAddress then .stopTimer else .startTimer) }
  | .startTimer => { s with timer := true, thread := some .read }
  | .stopTimer => { s with timer := false, thread := some .read }
  | .read => { s with thread := some (if succeeded then .setA else .clearA) }
  | .clearA => { s with a := false, thread := some .clearAddress }
  | .clearAddress => { s with scanner := { s.scanner with address := -1 }, thread := some .restartTimer }
  | .restartTimer => { s with timer := true, thread := some .whileA }
  | .setA => { s with a := true, thread := some .whileA }
  | .whileA => { s with thread := some (if s.a then .readWhile else .ifAddress) }
  | .readWhile => { s with thread := some (if succeeded then .whileA else .clearAWhile) }
  | .clearAWhile => { s with a := false, thread := some .whileA }

/-- A request selects the node again; if that fails, the bus is opened anew. -/
def sendRequestToNode (s : I2cPresence) (succeeded : Bool) : I2cPresence :=
  if succeeded ∧ 0 ≤ s.scanner.address ∧ s.scanner.address < 128 then
    { s with scanner := { s.scanner with selected := s.scanner.address.toNat } }
  else { s with scanner := { s.scanner with selected := 0 }, a := false }

/-- A tick needs a running timer, and the other events the thread that they belong to. -/
def step : Runs.Step I2cPresence I2cPresenceEvent I2cAction := fun s event =>
  match event with
  | .tick bus => if s.timer then some (s.timerHandler bus) else none
  | .wait =>
      if s.thread = none then some (if s.hasAddress then { s with thread := some .ifAddress } else s, [])
      else none
  | .thread succeeded => s.thread.map fun pc => (s.threadStep succeeded pc, [])
  | .request succeeded => s.thread.map fun _ => (s.sendRequestToNode succeeded, [])

/-! ### The ticks so far -/

inductive TickOutcome where
  | reported
  | found
  | absent
  deriving DecidableEq

/-- A tick: whether the bus acknowledged a probe of it, and what the handler made of it. -/
structure Tick where
  acknowledged : Bool
  outcome : TickOutcome
  deriving DecidableEq

/-- Some probe of a full scan is acknowledged. -/
def acknowledged (bus : I2cBus) (selected : ℕ) : Bool := (List.range 128).any (answered bus selected)

/-- What the handler did: report, or scan and return an address or 200. -/
def outcome (next : I2cPresence × List I2cAction) : TickOutcome :=
  if .notDetected ∈ next.2 then .reported else if next.1.scanner.address = 200 then .absent else .found

/-- The ticks of the run, the last one first. -/
def record (s : I2cPresence) (event : I2cPresenceEvent) (next : I2cPresence × List I2cAction)
    (ticks : List Tick) : List Tick :=
  match event with
  | .tick bus => ⟨acknowledged bus s.scanner.selected, outcome next⟩ :: ticks
  | _ => ticks

/-- The service with the record of its ticks. -/
def observed : Runs.Step (I2cPresence × List Tick) I2cPresenceEvent I2cAction := Runs.observe step record

/-- A report is made only if the five ticks before it all scanned and found nothing; a device that was
found before is then older than all of them. -/
def ReportsAbsence (s : I2cPresence × List Tick) (event : I2cPresenceEvent) : Prop :=
  ∀ next, step s.1 event = some next → .notDetected ∈ next.2 →
    (s.2.take 5).length = 5 ∧ ∀ tick ∈ s.2.take 5, tick.outcome = .absent

/-- At every sixth tick since the start, no probe of the five ticks before was acknowledged. -/
def QuietBlock (s : I2cPresence × List Tick) : I2cPresenceEvent → Prop
  | .tick _ => s.1.timer = true → s.2.length % 6 = 5 → ∀ tick ∈ s.2.take 5, tick.acknowledged = false
  | _ => True

/-! ### What a tick does -/

theorem acknowledged_eq_false_iff {bus : I2cBus} {selected : ℕ} :
    acknowledged bus selected = false ↔ lastAnswered bus selected 128 = none := by
  rw [lastAnswered_eq_none_iff, acknowledged, List.any_eq_false]
  simp only [List.mem_range]

theorem notDetected_notMem_passes (bus : I2cBus) (selected n : ℕ) :
    I2cAction.notDetected ∉ (List.range n).flatMap (passActions bus selected) := by
  intro h
  obtain ⟨i, _, hi⟩ := List.mem_flatMap.mp h
  simp [passActions] at hi

/-- The sixth tick reports and starts to count anew. -/
theorem timerHandler_report {s : I2cPresence} (hvar : s.scanner.var = 5) (bus : I2cBus) :
    (s.timerHandler bus).1.scanner.var = 0 ∧ outcome (s.timerHandler bus) = .reported ∧
      .notDetected ∈ (s.timerHandler bus).2 := by
  have hscan := scanAddress_report bus (s := { s.scanner with var := s.scanner.var + 1 })
    (show 5 < s.scanner.var + 1 by omega)
  have hmem : I2cAction.notDetected ∈ (s.timerHandler bus).2 := by
    rw [timerHandler, hscan]
    exact List.mem_cons_self
  refine ⟨?_, if_pos hmem, hmem⟩
  rw [timerHandler, hscan]

/-- Any other tick scans, and finds a device exactly when a probe is acknowledged. -/
theorem timerHandler_scan {s : I2cPresence} (hvar : s.scanner.var < 5) (bus : I2cBus) :
    (s.timerHandler bus).1.scanner.var = s.scanner.var + 1 ∧
      outcome (s.timerHandler bus) =
        (if acknowledged bus s.scanner.selected then .found else .absent) ∧
      .notDetected ∉ (s.timerHandler bus).2 := by
  have hvar' : ({ s.scanner with var := s.scanner.var + 1 } : I2cScanner).var ≤ 5 := hvar
  have hscan := scanAddress_full bus hvar'
  have hnot : I2cAction.notDetected ∉ (s.timerHandler bus).2 := by
    rw [timerHandler, hscan]
    exact notDetected_notMem_passes bus _ 128
  refine ⟨?_, ?_, hnot⟩
  · rw [timerHandler, hscan]
  · rw [outcome, if_neg hnot, timerHandler, hscan]
    dsimp only
    cases hlast : lastAnswered bus s.scanner.selected 128 with
    | none =>
        rw [acknowledged_eq_false_iff.mpr hlast]
        rfl
    | some i =>
        have hi := (lastAnswered_eq_some hlast).1
        have hacknowledged : acknowledged bus s.scanner.selected = true := by
          rw [← Bool.not_eq_false, acknowledged_eq_false_iff, hlast]
          simp
        have hne : ¬(Int.ofNat i = 200) := by
          rw [Int.ofNat_eq_natCast]
          omega
        rw [hacknowledged, if_pos rfl, Option.map_some, Option.getD_some, if_neg hne]

/-- A tick happens while the timer runs. -/
theorem step_tick {s : I2cPresence} {bus : I2cBus} {next : I2cPresence × List I2cAction}
    (h : step s (.tick bus) = some next) : s.timer = true ∧ next = s.timerHandler bus := by
  by_cases htimer : s.timer
  · rw [step, if_pos htimer] at h
    exact ⟨htimer, (Option.some.inj h).symm⟩
  · rw [step, if_neg htimer] at h
    exact absurd h (by simp)

theorem threadStep_var (s : I2cPresence) (succeeded : Bool) (pc : I2cThreadPc) :
    (s.threadStep succeeded pc).scanner.var = s.scanner.var := by
  cases pc <;> rfl

theorem sendRequestToNode_var (s : I2cPresence) (succeeded : Bool) :
    (s.sendRequestToNode succeeded).scanner.var = s.scanner.var := by
  rw [sendRequestToNode]
  split <;> rfl

/-- The threads neither count nor report. -/
theorem step_thread {s : I2cPresence} {event : I2cPresenceEvent} {next : I2cPresence × List I2cAction}
    (hevent : ∀ bus, event ≠ .tick bus) (h : step s event = some next) :
    next.1.scanner.var = s.scanner.var ∧ next.2 = [] := by
  cases event with
  | tick bus => exact absurd rfl (hevent bus)
  | wait =>
      rw [step] at h
      split at h
      · obtain rfl := Option.some.inj h
        refine ⟨?_, rfl⟩
        dsimp only
        split <;> rfl
      · exact absurd h (by simp)
  | thread succeeded =>
      obtain ⟨pc, _, rfl⟩ := Option.map_eq_some_iff.mp h
      exact ⟨s.threadStep_var succeeded pc, rfl⟩
  | request succeeded =>
      obtain ⟨_, _, rfl⟩ := Option.map_eq_some_iff.mp h
      exact ⟨s.sendRequestToNode_var succeeded, rfl⟩

/-! ### Whole runs -/

/-- `var` counts the ticks since the last report, and these ticks scanned. -/
structure Counts (s : I2cPresence × List Tick) : Prop where
  var : s.1.scanner.var = s.2.length % 6
  scanned : ∀ tick ∈ s.2.take s.1.scanner.var,
    tick.outcome = if tick.acknowledged then .found else .absent

theorem counts_init : Counts (init, []) := ⟨rfl, fun _ h => absurd h List.not_mem_nil⟩

theorem counts_tick {s : I2cPresence} {ticks : List Tick} (h : Counts (s, ticks)) (bus : I2cBus) :
    Counts ((s.timerHandler bus).1,
      ⟨acknowledged bus s.scanner.selected, outcome (s.timerHandler bus)⟩ :: ticks) := by
  have hvar : s.scanner.var = ticks.length % 6 := h.var
  rcases Nat.lt_or_ge s.scanner.var 5 with hlt | hge
  · obtain ⟨hnext, houtcome, _⟩ := timerHandler_scan hlt bus
    constructor
    · show (s.timerHandler bus).1.scanner.var = (_ :: ticks).length % 6
      rw [hnext, List.length_cons]
      omega
    · show ∀ tick ∈ (_ :: ticks).take (s.timerHandler bus).1.scanner.var, _
      rw [hnext, List.take_succ_cons, List.forall_mem_cons]
      exact ⟨houtcome, h.scanned⟩
  · obtain ⟨hnext, _, _⟩ := timerHandler_report (show s.scanner.var = 5 by omega) bus
    constructor
    · show (s.timerHandler bus).1.scanner.var = (_ :: ticks).length % 6
      rw [hnext, List.length_cons]
      omega
    · show ∀ tick ∈ (_ :: ticks).take (s.timerHandler bus).1.scanner.var, _
      rw [hnext, List.take_zero]
      exact fun _ hmem => absurd hmem List.not_mem_nil

theorem counts_step {s : I2cPresence × List Tick} {event : I2cPresenceEvent}
    {next : (I2cPresence × List Tick) × List I2cAction} (h : Counts s)
    (hstep : observed s event = some next) : Counts next.1 := by
  obtain ⟨result, hresult, rfl⟩ := Runs.observe_eq_some.mp hstep
  by_cases hevent : ∃ bus, event = .tick bus
  · obtain ⟨bus, rfl⟩ := hevent
    obtain ⟨_, rfl⟩ := step_tick hresult
    exact counts_tick h bus
  · have hrecord : record s.1 event result s.2 = s.2 := by
      cases event with
      | tick bus => exact absurd ⟨bus, rfl⟩ hevent
      | wait => rfl
      | thread succeeded => rfl
      | request succeeded => rfl
    obtain ⟨hvar, _⟩ := step_thread (fun bus heq => hevent ⟨bus, heq⟩) hresult
    show Counts (result.1, record s.1 event result s.2)
    rw [hrecord]
    constructor
    · show result.1.scanner.var = _
      rw [hvar]
      exact h.var
    · show ∀ tick ∈ s.2.take result.1.scanner.var, _
      rw [hvar]
      exact h.scanned

/-- Of the ticks that scanned, those without an answer found nothing. -/
theorem absent_iff {tick : Tick} (h : tick.outcome = if tick.acknowledged then .found else .absent) :
    tick.outcome = .absent ↔ tick.acknowledged = false := by
  rw [h]
  cases tick.acknowledged <;> simp

theorem reportsAbsence_iff {s : I2cPresence × List Tick} (h : Counts s) (event : I2cPresenceEvent) :
    ReportsAbsence s event ↔ QuietBlock s event := by
  by_cases hevent : ∃ bus, event = .tick bus
  swap
  · have hquiet : QuietBlock s event := by
      cases event with
      | tick bus => exact absurd ⟨bus, rfl⟩ hevent
      | wait => trivial
      | thread succeeded => trivial
      | request succeeded => trivial
    refine iff_of_true (fun next hnext hreport => ?_) hquiet
    rw [(step_thread (fun bus heq => hevent ⟨bus, heq⟩) hnext).2] at hreport
    exact absurd hreport List.not_mem_nil
  obtain ⟨bus, rfl⟩ := hevent
  have hcount := h.var
  constructor
  · intro hreports htimer hsixth tick htick
    have hvar : s.1.scanner.var = 5 := hcount.trans hsixth
    obtain ⟨_, habsent⟩ := hreports (s.1.timerHandler bus) (by rw [step, if_pos htimer])
      (timerHandler_report hvar bus).2.2
    have hscanned := h.scanned tick (by rw [hvar]; exact htick)
    exact (absent_iff hscanned).mp (habsent tick htick)
  · intro hquiet next hnext hreport
    obtain ⟨htimer, rfl⟩ := step_tick hnext
    have hvar : s.1.scanner.var = 5 := by
      by_contra hne
      exact (timerHandler_scan (show s.1.scanner.var < 5 by omega) bus).2.2 hreport
    have hsixth : s.2.length % 6 = 5 := hcount.symm.trans hvar
    refine ⟨List.length_take_of_le (by omega), fun tick htick => ?_⟩
    have hscanned := h.scanned tick (by rw [hvar]; exact htick)
    exact (absent_iff hscanned).mpr (hquiet htimer hsixth tick htick)

/-- In every run, each report follows five scans that found nothing if and only if at every sixth tick
since the start no probe of the five ticks before was acknowledged. -/
theorem along_reportsAbsence_iff (events : List I2cPresenceEvent) :
    Runs.Along observed ReportsAbsence (init, []) events ↔
      Runs.Along observed QuietBlock (init, []) events :=
  Runs.along_congr (J := Counts) (fun _ event h => reportsAbsence_iff h event)
    (fun _ _ _ h hstep => counts_step h hstep) counts_init events

/-- No device answers. -/
def silent : I2cBus := .ofSets ∅ ∅

/-- A device is found at address 16, the thread loses it at its first `read`, and the bus stays
silent for four more ticks. -/
def lossBeforeReport : List I2cPresenceEvent :=
  [.tick (.ofSets {16} ∅), .wait, .thread true, .thread true, .thread false, .thread true, .thread true,
    .thread true, .tick silent, .tick silent, .tick silent, .tick silent]

/-- The sixth tick reports, though the device was found five ticks before. -/
theorem not_along_reportsAbsence :
    ¬∀ events, Runs.Along observed ReportsAbsence (init, []) events := by
  intro h
  have hrun : (Runs.run observed (init, []) lossBeforeReport).map
      (fun result => (result.1.1.timer, result.1.1.scanner.var, result.1.2.map Tick.outcome)) =
        some (true, 5, [.absent, .absent, .absent, .absent, .found]) := by decide +kernel
  obtain ⟨before, hbefore, hstate⟩ := Option.map_eq_some_iff.mp hrun
  simp only [Prod.mk.injEq] at hstate
  obtain ⟨htimer, hvar, hticks⟩ := hstate
  have hreports : ReportsAbsence before.1 (.tick silent) :=
    Runs.Along.last (h (lossBeforeReport ++ [.tick silent])) hbefore
  obtain ⟨_, habsent⟩ := hreports (before.1.1.timerHandler silent) (by rw [step, if_pos htimer])
    (timerHandler_report hvar silent).2.2
  have hfive : before.1.2.length = 5 := by
    rw [← List.length_map, hticks]
    rfl
  rw [List.take_of_length_le hfive.le] at habsent
  have hfound : TickOutcome.found ∈ before.1.2.map Tick.outcome := by
    rw [hticks]
    decide
  obtain ⟨tick, htick, houtcome⟩ := List.mem_map.mp hfound
  exact absurd ((habsent tick htick).symm.trans houtcome) (by decide)

end I2cPresence

end LinuxGateway
