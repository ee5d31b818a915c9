import LinuxGateway.RadioScheduler

/-! The quota of the RF24 slots. `count` is a packet counter and a time-out flag in one: the signal handler
overwrites it with 6, and the increment of the main loop may overwrite that. -/

namespace LinuxGateway.Radio

open Bytes

variable {json : JsonC}

/-- The statements of an RF24 slot before its timer is started. -/
def RfOpening (pc : RadioPc) : Prop := pc = .rfBegin ∨ pc = .rfStartTimer

/-- The statements after its receive loop. -/
def RfClosing (pc : RadioPc) : Prop := pc = .rfStopTimer ∨ pc = .rfResetCount ∨ pc = .rfEnd

/-- The counter says how many messages were published, or that the time is over. -/
def Counted (count : ℕ) (log : SlotLog) : Prop := count = log.published ∨ log.fired = true ∧ 6 ≤ count

/-- The invariant, statement by statement. Inside the loop the test has been passed, so at most three
messages are out; between the load and the store of `count++` what was loaded counts, not `count`. -/
def Quota (radio : Radio json) (log : SlotLog) : Prop :=
  match radio.pc with
  | .rfBegin | .rfStartTimer => radio.globals.count = 0 ∧ radio.timer = none ∧ log.published = 0
  | .rfWhile => Counted radio.globals.count log ∧ log.published ≤ 4
  | .rfAvailable | .rfMemset _ | .rfRead _ | .rfParse | .rfGetId | .rfGetInt | .rfIfOwn | .rfPublish =>
      Counted radio.globals.count log ∧ log.published ≤ 3
  | .rfLoadCount => Counted (radio.globals.count + 1) log ∧ log.published ≤ 4
  | .rfStoreCount loaded => Counted (loaded + 1) log ∧ log.published ≤ 4
  | .rfStopTimer => (log.published = 4 ∨ log.fired = true) ∧ log.published ≤ 4
  | .rfResetCount => (log.published = 4 ∨ log.fired = true) ∧ log.published ≤ 4 ∧ radio.timer = none
  | .rfEnd =>
      (log.published = 4 ∨ log.fired = true) ∧ log.published ≤ 4 ∧ radio.timer = none ∧
        radio.globals.count = 0
  | .loraWhile | .loraStopTimer =>
      radio.globals.count = 0 ∧ radio.timer = some .timerHandlerLora
  | _ => radio.globals.count = 0 ∧ radio.timer = none

theorem quota_init (json : JsonC) : Quota (init json) SlotLog.empty := ⟨rfl, rfl⟩

/-- A step that changes neither the counter nor the statement nor the timer. -/
theorem Quota.of_frame {radio radio' : Radio json} {log log' : SlotLog} (h : Quota radio log)
    (hpc : radio'.pc = radio.pc) (htimer : radio'.timer = radio.timer)
    (hcount : radio'.globals.count = radio.globals.count) (hfired : log'.fired = log.fired)
    (hpublished : log'.published = log.published) : Quota radio' log' := by
  unfold Quota Counted at h ⊢
  rw [hpc, htimer, hcount, hfired, hpublished]
  exact h

theorem Counted.fired {count : ℕ} {log : SlotLog} (h : Counted count log) :
    Counted count { log with fired := true } :=
  h.imp_right fun hfired => ⟨rfl, hfired.2⟩

/-- The handler keeps the counter's meaning: it makes it a time-out flag, or does not touch it. -/
theorem Counted.handle {globals : RadioGlobals json} {log : SlotLog} (n : ℕ)
    (h : Counted (globals.count + n) log) (handler : TimerHandler) :
    Counted ((handle globals handler).count + n) { log with fired := true } := by
  cases handler with
  | timerHandler => exact Or.inr ⟨rfl, Nat.le_add_right 6 n⟩
  | timerHandlerLora => exact h.fired

/-- The loop goes on only while a message may still be published. -/
theorem Counted.room {count : ℕ} {log : SlotLog} (h : Counted count log) (hcount : count < 4) :
    log.published ≤ 3 := by
  have hpublished : count = log.published := h.resolve_right fun hfired => by omega
  omega

/-- It ends with the fourth message, or with the time. -/
theorem Counted.full {count : ℕ} {log : SlotLog} (h : Counted count log) (hcount : ¬count < 4)
    (hle : log.published ≤ 4) : log.published = 4 ∨ log.fired = true :=
  h.imp (fun heq => by omega) fun hfired => hfired.1

theorem Counted.publish {count : ℕ} {log : SlotLog} (h : Counted count log) :
    Counted (count + 1) { log with published := log.published + 1 } :=
  h.imp (congrArg (· + 1)) fun hfired => ⟨hfired.1, hfired.2.trans (Nat.le_succ _)⟩

/-- The signal may come between any two statements. -/
theorem Quota.sigalrm {radio : Radio json} {log : SlotLog} (h : Quota radio log) {handler : TimerHandler}
    (htimer : radio.timer = some handler) :
    Quota { radio with globals := Radio.handle radio.globals handler } { log with fired := true } := by
  obtain ⟨pc, select, timer, listening, globals, callbacks⟩ := radio
  cases htimer
  cases pc
  case rfWhile | rfAvailable | rfMemset | rfRead | rfParse | rfGetId | rfGetInt | rfIfOwn | rfPublish =>
      exact ⟨h.1.handle 0 handler, h.2⟩
  case rfLoadCount => exact ⟨h.1.handle 1 handler, h.2⟩
  case rfStoreCount => exact ⟨h.1.fired, h.2⟩
  case rfStopTimer => exact ⟨Or.inr rfl, h.2⟩
  case loraWhile | loraStopTimer =>
      obtain ⟨hcount, htimer⟩ := h
      cases htimer
      exact ⟨hcount, rfl⟩
  -- no timer runs at the other statements
  case rfResetCount => exact absurd h.2.2 (by simp)
  case rfEnd => exact absurd h.2.2.1 (by simp)
  case rfBegin | rfStartTimer => exact absurd h.2.1 (by simp)
  all_goals exact absurd h.2 (by simp)

theorem quota_slotOf {radio : Radio json} (hcount : radio.globals.count = 0)
    (htimer : radio.timer = none) :
    Quota { radio with pc := slotOf radio.select } SlotLog.empty := by
  unfold slotOf
  split
  · exact ⟨hcount, htimer, rfl⟩
  · exact ⟨hcount, htimer, rfl⟩
  · exact ⟨hcount, htimer, rfl⟩
  · exact ⟨hcount, htimer⟩
  · exact ⟨hcount, htimer⟩
  · exact ⟨hcount, htimer⟩

/-- One statement of the main loop. -/
theorem Quota.mainStep {radio : Radio json} {log : SlotLog} (h : Quota radio log)
    {arrived : Option (Buffer 32)} {next : Radio json × List RadioOutput}
    (hstep : radio.mainStep arrived = some next) :
    Quota next.1 (record radio (.main arrived) next log) := by
  obtain ⟨pc, select, timer, listening, globals, callbacks⟩ := radio
  cases pc
  case switch =>
      obtain rfl := Option.some.inj hstep
      exact quota_slotOf h.1 h.2
  case rfStartTimer =>
      obtain rfl := Option.some.inj hstep
      obtain ⟨hcount, _, hpublished⟩ := h
      exact ⟨Or.inl (hcount.trans hpublished.symm), le_of_eq_of_le hpublished (Nat.zero_le 4)⟩
  case rfWhile =>
      obtain rfl := Option.some.inj hstep
      obtain ⟨hcounted, hle⟩ := h
      by_cases hcount : globals.count < 4
      · simp only [hcount, if_true]
        exact ⟨hcounted, hcounted.room hcount⟩
      · simp only [hcount, if_false]
        exact ⟨hcounted.full hcount hle, hle⟩
  case rfAvailable =>
      obtain ⟨hcounted, hle⟩ := h
      cases arrived with
      | none =>
          obtain rfl := Option.some.inj hstep
          exact ⟨hcounted, hle.trans (Nat.le_succ 3)⟩
      | some payload =>
          obtain rfl := Option.some.inj hstep
          exact ⟨hcounted, hle⟩
  case rfRead | rfParse =>
      obtain ⟨inner, hinner, rfl⟩ := Option.map_eq_some_iff.mp hstep
      obtain ⟨_, _, rfl⟩ := Option.map_eq_some_iff.mp hinner
      exact h
  case rfIfOwn =>
      obtain rfl := Option.some.inj hstep
      obtain ⟨hcounted, hle⟩ := h
      by_cases hown : globals.checkResponse = idRF24
      · simp only [hown, if_true]
        exact ⟨hcounted, hle⟩
      · simp only [hown, if_false]
        exact ⟨hcounted, hle.trans (Nat.le_succ 3)⟩
  case rfPublish =>
      obtain ⟨inner, hinner, rfl⟩ := Option.map_eq_some_iff.mp hstep
      obtain ⟨message, hmessage, rfl⟩ := Option.map_eq_some_iff.mp hinner
      obtain ⟨hcounted, hle⟩ := h
      have hone : (payloadsOn .dataRf [RadioOutput.publish message]).length = 1 := by
        rw [payloadsOn_publishMess hmessage]
        rfl
      show Counted (globals.count + 1) { log with published := log.published + _ } ∧ log.published + _ ≤ 4
      rw [hone]
      exact ⟨hcounted.publish, Nat.succ_le_succ hle⟩
  case rfStopTimer =>
      obtain rfl := Option.some.inj hstep
      exact ⟨h.1, h.2, rfl⟩
  case rfResetCount =>
      obtain rfl := Option.some.inj hstep
      exact ⟨h.1, h.2.1, h.2.2, rfl⟩
  case rfEnd =>
      obtain rfl := Option.some.inj hstep
      exact ⟨h.2.2.2, h.2.2.1⟩
  case loraStartTimer | loraStopTimer =>
      obtain rfl := Option.some.inj hstep
      exact ⟨h.1, rfl⟩
  case loraWhile =>
      obtain rfl := Option.some.inj hstep
      by_cases hcount : globals.countLora > 2
      · simp only [hcount, if_true]
        exact h
      · simp only [hcount, if_false]
        exact h
  -- the other statements change nothing that is counted here
  all_goals
    obtain rfl := Option.some.inj hstep
    exact h

theorem Quota.step {radio : Radio json} {log : SlotLog} (h : Quota radio log) {event : RadioEvent}
    {next : Radio json × List RadioOutput} (hstep : Radio.step radio event = some next) :
    Quota next.1 (record radio event next log) := by
  cases event with
  | main arrived => exact h.mainStep hstep
  | sigalrm =>
      obtain ⟨handler, htimer, rfl⟩ := Option.map_eq_some_iff.mp hstep
      exact h.sigalrm htimer
  | rxDone packet =>
      simp only [Radio.step] at hstep
      split at hstep
      · obtain ⟨handled, _, rfl⟩ := Option.map_eq_some_iff.mp hstep
        exact h.of_frame rfl rfl rfl rfl rfl
      · cases hstep
  | callback i =>
      obtain ⟨callback, _, hmap⟩ := Option.bind_eq_some_iff.mp hstep
      obtain ⟨⟨globals, continued, out⟩, hcallback, rfl⟩ := Option.map_eq_some_iff.mp hmap
      obtain ⟨_, hcount, hout⟩ := callbackStep_frame hcallback
      refine h.of_frame rfl rfl hcount rfl ?_
      show log.published + (payloadsOn .dataRf out).length = log.published
      rw [hout]
      rfl

theorem quota_of_run {events : List RadioEvent} {result : (Radio json × SlotLog) × List RadioOutput}
    (hrun : Runs.run logged (init json, SlotLog.empty) events = some result) :
    Quota result.1.1 result.1.2 := by
  apply Runs.run_invariant (G := fun _ _ => True)
    (P := fun _ _ s => Quota s.1 s.2) (quota_init json) _
    (Runs.along_of_forall (fun _ _ => trivial) _ _) hrun
  intro _ _ s event next hquota _ hstep
  obtain ⟨next', hnext', rfl⟩ := Runs.observe_eq_some.mp hstep
  exact hquota.step hnext'

/-- The statements of an RF24 slot. -/
def InRfSlot : RadioPc → Prop
  | .switch | .nextSelect => False
  | .loraBegin | .loraReceive | .loraStartTimer | .loraWhile | .loraStopTimer | .loraResetCount
  | .loraEnd => False
  | _ => True

theorem Quota.published_le {radio : Radio json} {log : SlotLog} (h : Quota radio log)
    (hslot : InRfSlot radio.pc) : log.published ≤ 4 := by
  obtain ⟨pc, select, timer, listening, globals, callbacks⟩ := radio
  cases pc
  case rfBegin | rfStartTimer => exact le_of_eq_of_le h.2.2 (Nat.zero_le 4)
  case rfWhile | rfLoadCount | rfStoreCount | rfStopTimer => exact h.2
  case rfAvailable | rfMemset | rfRead | rfParse | rfGetId | rfGetInt | rfIfOwn | rfPublish =>
      exact h.2.trans (Nat.le_succ 3)
  case rfResetCount | rfEnd => exact h.2.1
  all_goals exact hslot.elim

/-- In every run, an RF24 slot starts with a counter of zero, publishes at most four messages, and
publishes fewer only if its timer fired. -/
theorem rf_slot_quota (json : JsonC) {events : List RadioEvent}
    {result : (Radio json × SlotLog) × List RadioOutput}
    (hrun : Runs.run logged (init json, SlotLog.empty) events = some result) :
    (RfOpening result.1.1.pc → result.1.1.globals.count = 0 ∧ result.1.2.published = 0) ∧
    (InRfSlot result.1.1.pc → result.1.2.published ≤ 4) ∧
    (RfClosing result.1.1.pc → result.1.2.published < 4 → result.1.2.fired = true) := by
  have hquota := quota_of_run hrun
  refine ⟨fun hopening => ?_, hquota.published_le, fun hclosing hfew => ?_⟩
  · unfold Quota at hquota
    rcases hopening with hpc | hpc
    · rw [hpc] at hquota
      exact ⟨hquota.1, hquota.2.2⟩
    · rw [hpc] at hquota
      exact ⟨hquota.1, hquota.2.2⟩
  · have hended : result.1.2.published = 4 ∨ result.1.2.fired = true := by
      unfold Quota at hquota
      rcases hclosing with hpc | hpc | hpc
      · rw [hpc] at hquota
        exact hquota.1
      · rw [hpc] at hquota
        exact hquota.1
      · rw [hpc] at hquota
        exact hquota.1
    exact hended.resolve_left (Nat.ne_of_lt hfew)

/-- A parser that knows one text of the RF24 node. -/
def rf24Json : JsonC := JsonC.table (ascii "id") [(ascii "\x7b\"id\":96\x7d", 96)]

/-- That text in a payload of the radio. -/
def rf24Payload : Buffer 32 :=
  ⟨ascii "\x7b\"id\":96\x7d" ++ List.replicate 23 0, by decide⟩

/-- The first RF24 slot: one message; a second one with a tick between the load and the store of its
`count++`, which loses the tick; another tick, which ends the slot. -/
def tickInCount : List RadioEvent :=
  List.replicate 26 (.main (some rf24Payload)) ++ [.sigalrm, .main none, .sigalrm, .main none]

theorem rf_slot_quota_timeout :
    ∃ result, Runs.run logged (init rf24Json, SlotLog.empty) tickInCount = some result ∧
      result.1.1.pc = .rfStopTimer ∧ result.1.2.published = 2 ∧ result.1.2.fired = true := by
  have hslot : (Runs.run logged (init rf24Json, SlotLog.empty) tickInCount).map
      (fun result => (result.1.1.pc, result.1.2.published)) = some (.rfStopTimer, 2) := by
    decide +kernel
  obtain ⟨result, hresult, hstop⟩ := Option.map_eq_some_iff.mp hslot
  obtain ⟨hstop, htwo⟩ := Prod.mk.inj hstop
  exact ⟨result, hresult, hstop, htwo,
    (rf_slot_quota rf24Json hresult).2.2 (Or.inl hstop) (by rw [htwo]; decide)⟩

end LinuxGateway.Radio
