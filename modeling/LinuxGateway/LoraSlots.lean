import LinuxGateway.RadioScheduler

/-! The LoRa slots and the threads of their packets. `countLora` belongs to no slot: a thread that is late
adds to the slot that is open when it gets to it. The condition below is what keeps the packets of a
slot apart from those of the next and from each other. -/

namespace LinuxGateway.Radio

open Bytes

variable {json : JsonC}

/-- The statements of a LoRa slot while the interrupt is attached and the counter is not yet reset. -/
def LoraOpen (pc : RadioPc) : Prop :=
  pc = .loraStartTimer ∨ pc = .loraWhile ∨ pc = .loraStopTimer ∨ pc = .loraResetCount

/-- The statements after the waiting loop. -/
def LoraClosing (pc : RadioPc) : Prop := pc = .loraStopTimer ∨ pc = .loraResetCount ∨ pc = .loraEnd

instance (pc : RadioPc) : Decidable (LoraOpen pc) := inferInstanceAs (Decidable (_ ∨ _))

/-- json-c would read the id of the LoRa node in the receive buffer. -/
def ownBuffer (globals : RadioGlobals json) : Bool :=
  (cString globals.modem.buf.bytes).any (isOwn json)

/-- What a step must meet. A packet arrives before `countLora` is reset, one of the node not before the
waiting loop; no thread of a packet of another kind is still running then, and what an earlier packet left
behind it in the buffer does not make it look like a packet of the node. The counter is reset when all
threads have ended. -/
def KeepsApart (s : Radio json × SlotLog) (event : RadioEvent) : Prop :=
  match event with
  | .rxDone packet =>
      s.1.pc ≠ .loraEnd ∧
      (s.1.pc = .loraStartTimer → ownPacket json packet = false) ∧
      (∀ callback ∈ s.1.callbacks, ownPacket json callback.packet = ownPacket json packet) ∧
      ((cString (packet.bytes ++ s.1.globals.modem.buf.bytes.drop packet.bytes.length)).any
        (isOwn json) = true → ownPacket json packet = true)
  | .main _ => s.1.pc = .loraResetCount → s.1.callbacks = []
  | _ => True

/-! ### What the threads may still add -/

/-- The thread has not stored its increment yet. -/
def unsettled : CallbackPc → Bool
  | .fill | .send => false
  | _ => true

/-- The threads of own packets that may still count. -/
def owed (json : JsonC) (callbacks : List Callback) : ℕ :=
  callbacks.countP fun callback => ownPacket json callback.packet && unsettled callback.pc

/-- What keeps the thread of a packet of another node from counting. -/
def Foreign (globals : RadioGlobals json) : CallbackPc → Prop
  | .publish | .parse => ownBuffer globals = false
  | .getId => ownBuffer globals = false ∧
      json.getInt (json.objectGetEx globals.parsedJson (ascii "id")) ≠ idLora
  | .getInt => ownBuffer globals = false ∧ json.getInt globals.idNode ≠ idLora
  | .ifOwn => ownBuffer globals = false ∧ globals.checkResponse ≠ idLora
  | _ => False

/-- The counter and what is owed to it do not exceed the own packets of the slot. A thread between
the load and the store of its increment will write what it loaded, whatever the counter is then. -/
structure Budget (globals : RadioGlobals json) (callbacks : List Callback) (own : ℕ) : Prop where
  counter : globals.countLora + owed json callbacks ≤ own
  loaded : ∀ callback ∈ callbacks, ∀ v, callback.pc = .storeCount v → v + owed json callbacks ≤ own
  same : ∀ callback ∈ callbacks, ∀ callback' ∈ callbacks,
    ownPacket json callback.packet = ownPacket json callback'.packet
  foreign : ∀ callback ∈ callbacks, ownPacket json callback.packet = false →
    Foreign globals callback.pc

theorem owed_append (callbacks callbacks' : List Callback) :
    owed json (callbacks ++ callbacks') = owed json callbacks + owed json callbacks' :=
  List.countP_append

theorem owed_singleton (callback : Callback) :
    owed json [callback] =
      if ownPacket json callback.packet && unsettled callback.pc then 1 else 0 := by
  simp [owed, List.countP_cons]

theorem budget_nil {globals : RadioGlobals json} (hcount : globals.countLora = 0) (own : ℕ) :
    Budget globals [] own where
  counter := by
    rw [hcount]
    exact Nat.zero_le own
  loaded callback hmem := absurd hmem List.not_mem_nil
  same callback hmem := absurd hmem List.not_mem_nil
  foreign callback hmem := absurd hmem List.not_mem_nil

/-- Where the globals do not come to name the node, a foreign thread stays foreign. -/
theorem Foreign.of_globals {globals globals' : RadioGlobals json} {pc : CallbackPc}
    (h : Foreign globals pc) (hbuffer : ownBuffer globals' = false)
    (hparsed : json.getInt (json.objectGetEx globals.parsedJson (ascii "id")) ≠ idLora →
      json.getInt (json.objectGetEx globals'.parsedJson (ascii "id")) ≠ idLora)
    (hnode : json.getInt globals.idNode ≠ idLora → json.getInt globals'.idNode ≠ idLora)
    (hcheck : globals.checkResponse ≠ idLora → globals'.checkResponse ≠ idLora) :
    Foreign globals' pc := by
  cases pc with
  | publish => exact hbuffer
  | parse => exact hbuffer
  | getId => exact ⟨hbuffer, hparsed h.2⟩
  | getInt => exact ⟨hbuffer, hnode h.2⟩
  | ifOwn => exact ⟨hbuffer, hcheck h.2⟩
  | loadCount => exact h.elim
  | storeCount => exact h.elim
  | fill => exact h.elim
  | send => exact h.elim

/-- A packet of the node pays for its own thread. -/
theorem Budget.rxDone {globals globals' : RadioGlobals json} {callbacks : List Callback} {own : ℕ}
    (h : Budget globals callbacks own) {packet : LoraPacket}
    (hcount : globals'.countLora = globals.countLora) (hparsed : globals'.parsedJson = globals.parsedJson)
    (hnode : globals'.idNode = globals.idNode) (hcheck : globals'.checkResponse = globals.checkResponse)
    (hkind : ∀ callback ∈ callbacks, ownPacket json callback.packet = ownPacket json packet)
    (hbuffer : ownBuffer globals' = true → ownPacket json packet = true) :
    Budget globals' (callbacks ++ [⟨packet, .publish⟩])
      (own + if ownPacket json packet then 1 else 0) := by
  have howed : owed json (callbacks ++ [⟨packet, .publish⟩]) =
      owed json callbacks + if ownPacket json packet then 1 else 0 := by
    rw [owed_append, owed_singleton]
    simp [unsettled]
  have hsame : ∀ callback ∈ callbacks ++ [⟨packet, .publish⟩],
      ownPacket json callback.packet = ownPacket json packet := by
    intro callback hmem
    rcases List.mem_append.mp hmem with hmem | hmem
    · exact hkind callback hmem
    · rw [List.mem_singleton.mp hmem]
  refine ⟨?_, fun callback hmem v hpc => ?_, fun callback hmem callback' hmem' => ?_,
    fun callback hmem hforeign => ?_⟩
  · have hle := h.counter
    rw [howed, hcount]
    omega
  · rcases List.mem_append.mp hmem with hmem | hmem
    · have hle := h.loaded callback hmem v hpc
      rw [howed]
      omega
    · rw [List.mem_singleton.mp hmem] at hpc
      cases hpc
  · exact (hsame callback hmem).trans (hsame callback' hmem').symm
  · have hother : ownPacket json packet = false := (hsame callback hmem).symm.trans hforeign
    have hclean : ownBuffer globals' = false := by
      rw [← Bool.not_eq_true]
      intro hown
      rw [hbuffer hown] at hother
      cases hother
    rcases List.mem_append.mp hmem with hmem | hmem
    · apply (h.foreign callback hmem hforeign).of_globals hclean
      · rw [hparsed]
        exact id
      · rw [hnode]
        exact id
      · rw [hcheck]
        exact id
    · rw [List.mem_singleton.mp hmem]
      exact hclean

/-! ### One statement of a thread -/

theorem ownBuffer_eq {globals : RadioGlobals json} {text : List UInt8}
    (h : cString globals.modem.buf.bytes = some text) : ownBuffer globals = isOwn json text := by
  rw [ownBuffer, h]
  rfl

/-- The counter changes at a store only, and what is stored was loaded before. -/
theorem callbackStep_counter {globals globals' : RadioGlobals json} {pc : CallbackPc}
    {continued : Option CallbackPc} {out : List RadioOutput}
    (h : callbackStep globals pc = some (globals', continued, out)) :
    (globals'.countLora = globals.countLora ∨
      ∃ v, pc = .storeCount v ∧ globals'.countLora = v + 1 ∧ continued = some .fill) ∧
    (∀ v, continued = some (.storeCount v) → v = globals.countLora) ∧
    (∀ pc', continued = some pc' → unsettled pc' = true → unsettled pc = true) := by
  cases pc with
  | publish =>
      obtain ⟨message, _, heq⟩ := Option.map_eq_some_iff.mp h
      cases heq
      exact ⟨Or.inl rfl, by simp, fun _ _ _ => rfl⟩
  | parse =>
      obtain ⟨text, _, heq⟩ := Option.map_eq_some_iff.mp h
      cases heq
      exact ⟨Or.inl rfl, by simp, fun _ _ _ => rfl⟩
  | getId =>
      cases h
      exact ⟨Or.inl rfl, by simp, fun _ _ _ => rfl⟩
  | getInt =>
      cases h
      exact ⟨Or.inl rfl, by simp, fun _ _ _ => rfl⟩
  | ifOwn =>
      cases h
      refine ⟨Or.inl rfl, fun v hv => ?_, fun _ _ _ => rfl⟩
      split at hv <;> simp at hv
  | loadCount =>
      cases h
      refine ⟨Or.inl rfl, fun v hv => ?_, fun _ _ _ => rfl⟩
      cases hv
      rfl
  | storeCount loaded =>
      cases h
      exact ⟨Or.inr ⟨loaded, rfl, rfl, rfl⟩, by simp, fun _ _ _ => rfl⟩
  | fill =>
      obtain ⟨text, _, hfill⟩ := Option.bind_eq_some_iff.mp h
      obtain ⟨data, _, heq⟩ := Option.map_eq_some_iff.mp hfill
      cases heq
      refine ⟨Or.inl rfl, by simp, fun pc' hpc' hunsettled => ?_⟩
      cases hpc'
      exact hunsettled
  | send =>
      cases h
      exact ⟨Or.inl rfl, by simp, by simp⟩

/-- A foreign thread does not come to the counter, nor lets another foreign thread. -/
theorem callbackStep_foreign {globals globals' : RadioGlobals json} {pc : CallbackPc}
    {continued : Option CallbackPc} {out : List RadioOutput}
    (h : callbackStep globals pc = some (globals', continued, out)) (hforeign : Foreign globals pc) :
    (∀ pc', continued = some pc' → Foreign globals' pc') ∧
    (∀ pc', Foreign globals pc' → Foreign globals' pc') := by
  cases pc with
  | publish =>
      obtain ⟨message, _, heq⟩ := Option.map_eq_some_iff.mp h
      cases heq
      refine ⟨fun pc' hpc' => ?_, fun _ => id⟩
      cases hpc'
      exact hforeign
  | parse =>
      obtain ⟨text, htext, heq⟩ := Option.map_eq_some_iff.mp h
      cases heq
      have hnot : json.getInt (json.objectGetEx (json.parse text) (ascii "id")) ≠ idLora := by
        have hown : isOwn json text = false := (ownBuffer_eq htext).symm.trans hforeign
        exact of_decide_eq_false hown
      refine ⟨fun pc' hpc' => ?_, fun pc' hother => ?_⟩
      · cases hpc'
        exact ⟨hforeign, hnot⟩
      · exact hother.of_globals hforeign (fun _ => hnot) id id
  | getId =>
      cases h
      refine ⟨fun pc' hpc' => ?_, fun pc' hother => ?_⟩
      · cases hpc'
        exact hforeign
      · exact hother.of_globals hforeign.1 id (fun _ => hforeign.2) id
  | getInt =>
      cases h
      refine ⟨fun pc' hpc' => ?_, fun pc' hother => ?_⟩
      · cases hpc'
        exact hforeign
      · exact hother.of_globals hforeign.1 id id fun _ => hforeign.2
  | ifOwn =>
      cases h
      refine ⟨fun pc' hpc' => ?_, fun _ => id⟩
      rw [if_neg hforeign.2] at hpc'
      cases hpc'
  | loadCount => exact hforeign.elim
  | storeCount => exact hforeign.elim
  | fill => exact hforeign.elim
  | send => exact hforeign.elim

/-- The thread that has made a step, if it goes on, and the others. -/
theorem mem_continued {before after : List Callback} {callback c : Callback}
    {continued : Option CallbackPc}
    (hmem : c ∈ before ++ (continued.map fun pc => { callback with pc := pc }).toList ++ after) :
    c ∈ before ++ callback :: after ∨ ∃ pc, continued = some pc ∧ c = { callback with pc := pc } := by
  rw [List.mem_append, List.mem_append] at hmem
  rcases hmem with (hmem | hmem) | hmem
  · exact Or.inl (List.mem_append_left _ hmem)
  · cases continued with
    | none => exact absurd hmem List.not_mem_nil
    | some pc => exact Or.inr ⟨pc, rfl, List.mem_singleton.mp hmem⟩
  · exact Or.inl (List.mem_append_right _ (List.mem_cons_of_mem callback hmem))

theorem owed_continued_le (json : JsonC) {callback : Callback} {continued : Option CallbackPc}
    (h : ∀ pc, continued = some pc → unsettled pc = true → unsettled callback.pc = true) :
    owed json (continued.map fun pc => { callback with pc := pc }).toList ≤ owed json [callback] := by
  cases continued with
  | none => exact Nat.zero_le _
  | some pc =>
      show owed json [{ callback with pc := pc }] ≤ owed json [callback]
      rw [owed_singleton, owed_singleton]
      have hpc := h pc rfl
      cases hnew : unsettled pc with
      | false => simp
      | true => simp [hpc hnew]

/-- A thread that is about to store the counter is of an own packet, and still owes it. -/
theorem Budget.owed_storeCount {globals : RadioGlobals json} {callbacks : List Callback} {own : ℕ}
    (h : Budget globals callbacks own) {callback : Callback} (hself : callback ∈ callbacks) {v : ℕ}
    (hpc : callback.pc = .storeCount v) : owed json [callback] = 1 := by
  have hown : ownPacket json callback.packet = true := by
    rw [← Bool.not_eq_false]
    intro hforeign
    have hno := h.foreign callback hself hforeign
    rw [hpc] at hno
    exact hno
  rw [owed_singleton, hown, hpc]
  rfl

/-- One statement of one thread. -/
theorem Budget.callback {globals globals' : RadioGlobals json} {before after : List Callback}
    {callback : Callback} {own : ℕ} (h : Budget globals (before ++ callback :: after) own)
    {continued : Option CallbackPc} {out : List RadioOutput}
    (hstep : callbackStep globals callback.pc = some (globals', continued, out)) :
    Budget globals' (before ++
      (continued.map fun pc => { callback with pc := pc }).toList ++ after) own := by
  have hself : callback ∈ before ++ callback :: after :=
    List.mem_append_right before List.mem_cons_self
  obtain ⟨hcounter, hloads, hsettles⟩ := callbackStep_counter hstep
  have hold : owed json (before ++ callback :: after) =
      owed json before + owed json [callback] + owed json after := by
    rw [← List.singleton_append, ← List.append_assoc, owed_append, owed_append]
  have hnew : owed json (before ++ (continued.map fun pc => { callback with pc := pc }).toList ++ after) =
      owed json before + owed json (continued.map fun pc => { callback with pc := pc }).toList +
        owed json after := by
    rw [owed_append, owed_append]
  have hle := owed_continued_le json hsettles
  refine ⟨?_, fun c hmem v hpc => ?_, fun c hmem c' hmem' => ?_, fun c hmem hforeign => ?_⟩
  · have hbudget := h.counter
    rcases hcounter with hcount | ⟨v, hpc, hcount, rfl⟩
    · rw [hcount]
      omega
    · have hone := h.owed_storeCount hself hpc
      have hzero : owed json ((some CallbackPc.fill).map fun pc =>
          { callback with pc := pc }).toList = 0 := by
        show owed json [{ callback with pc := .fill }] = 0
        rw [owed_singleton]
        simp [unsettled]
      have hloaded := h.loaded callback hself v hpc
      rw [hcount]
      omega
  · rcases mem_continued hmem with hmem | ⟨pc, hpc', rfl⟩
    · have hloaded := h.loaded c hmem v hpc
      omega
    · have hv : v = globals.countLora := hloads v (hpc'.trans (congrArg some hpc))
      have hbudget := h.counter
      omega
  · have hpacket : ∀ c ∈ before ++ (continued.map fun pc => { callback with pc := pc }).toList ++ after,
        ownPacket json c.packet = ownPacket json callback.packet := by
      intro c hmem
      rcases mem_continued hmem with hmem | ⟨pc, _, rfl⟩
      · exact h.same c hmem callback hself
      · rfl
    exact (hpacket c hmem).trans (hpacket c' hmem').symm
  · rcases mem_continued hmem with hmem | ⟨pc, hpc, rfl⟩
    · have hother : ownPacket json callback.packet = false :=
        (h.same callback hself c hmem).trans hforeign
      exact (callbackStep_foreign hstep (h.foreign callback hself hother)).2 c.pc
        (h.foreign c hmem hforeign)
    · exact (callbackStep_foreign hstep (h.foreign callback hself hforeign)).1 pc hpc

/-! ### The whole service -/

/-- Outside the LoRa slots nothing is left of them. -/
structure Idle (radio : Radio json) : Prop where
  explicit : radio.globals.modem.implicitHeader = false
  callbacks : radio.callbacks = []
  countLora : radio.globals.countLora = 0
  listening : radio.listening = false
  timer : radio.timer ≠ some .timerHandlerLora

structure LoraKept (radio : Radio json) (log : SlotLog) : Prop where
  explicit : radio.globals.modem.implicitHeader = false
  quiet : ¬LoraOpen radio.pc → radio.callbacks = [] ∧ radio.globals.countLora = 0
  /-- No packet of the node has arrived before the waiting loop. -/
  starting : radio.pc = .loraStartTimer → Budget radio.globals radio.callbacks 0
  budget : LoraOpen radio.pc → log.fired = true ∨ Budget radio.globals radio.callbacks log.own
  closing : LoraClosing radio.pc → log.fired = true ∨ 3 ≤ log.own
  listening : radio.listening = true → LoraOpen radio.pc ∨ radio.pc = .loraEnd
  timer : radio.timer = some .timerHandlerLora → radio.pc = .loraWhile ∨ radio.pc = .loraStopTimer

theorem LoraKept.open_of_timer {radio : Radio json} {log : SlotLog} (h : LoraKept radio log)
    (htimer : radio.timer = some .timerHandlerLora) : LoraOpen radio.pc := by
  rcases h.timer htimer with hpc | hpc
  · exact Or.inr (Or.inl hpc)
  · exact Or.inr (Or.inr (Or.inl hpc))

theorem LoraKept.idle {radio : Radio json} {log : SlotLog} (h : LoraKept radio log)
    (hopen : ¬LoraOpen radio.pc) (hend : radio.pc ≠ .loraEnd) : Idle radio := by
  obtain ⟨hcallbacks, hcount⟩ := h.quiet hopen
  refine ⟨h.explicit, hcallbacks, hcount, ?_, fun htimer => hopen (h.open_of_timer htimer)⟩
  rw [← Bool.not_eq_true]
  intro hlistening
  rcases h.listening hlistening with hpc | hpc
  · exact hopen hpc
  · exact hend hpc

theorem Idle.kept {radio : Radio json} (h : Idle radio) (hopen : ¬LoraOpen radio.pc)
    (hclosing : ¬LoraClosing radio.pc) (log : SlotLog) : LoraKept radio log where
  explicit := h.explicit
  quiet _ := ⟨h.callbacks, h.countLora⟩
  starting hpc := absurd (Or.inl hpc) hopen
  budget hpc := absurd hpc hopen
  closing hpc := absurd hpc hclosing
  listening hlistening := by
    rw [h.listening] at hlistening
    cases hlistening
  timer htimer := absurd htimer h.timer

theorem loraKept_init (json : JsonC) : LoraKept (init json) SlotLog.empty :=
  Idle.kept ⟨rfl, rfl, rfl, rfl, by simp [init]⟩ (by simp [LoraOpen, init])
    (by simp [LoraClosing, init]) SlotLog.empty

theorem not_loraOpen_slotOf (select : ℕ) : ¬LoraOpen (slotOf select) := by
  unfold slotOf
  split <;> simp [LoraOpen]

theorem not_loraClosing_slotOf (select : ℕ) : ¬LoraClosing (slotOf select) := by
  unfold slotOf
  split <;> simp [LoraClosing]

/-- The statements of an RF24 slot leave the LoRa side alone. -/
theorem rfStep_frame {globals globals' : RadioGlobals json} {arrived : Option (Buffer 32)}
    {pc pc' : RadioPc} {out : List RadioOutput}
    (h : rfStep globals arrived pc = some (globals', pc', out)) :
    globals'.modem = globals.modem ∧ globals'.countLora = globals.countLora ∧ ¬LoraOpen pc' ∧
      ¬LoraClosing pc' := by
  cases pc
  case rfWhile | rfIfOwn =>
      cases h
      refine ⟨rfl, rfl, ?_, ?_⟩ <;> split <;> simp [LoraOpen, LoraClosing]
  case rfAvailable =>
      cases arrived with
      | none =>
          cases h
          simp [LoraOpen, LoraClosing]
      | some payload =>
          cases h
          simp [LoraOpen, LoraClosing]
  case rfRead | rfParse | rfPublish =>
      obtain ⟨_, _, heq⟩ := Option.map_eq_some_iff.mp h
      cases heq
      simp [LoraOpen, LoraClosing]
  case rfMemset | rfGetId | rfGetInt | rfLoadCount | rfStoreCount =>
      cases h
      simp [LoraOpen, LoraClosing]
  all_goals cases h

theorem LoraKept.sigalrm {radio : Radio json} {log : SlotLog} (h : LoraKept radio log)
    {handler : TimerHandler} (htimer : radio.timer = some handler) :
    LoraKept { radio with globals := handle radio.globals handler } { log with fired := true } where
  explicit := by
    cases handler with
    | timerHandler => exact h.explicit
    | timerHandlerLora => exact h.explicit
  quiet hopen := by
    cases handler with
    | timerHandler => exact h.quiet hopen
    | timerHandlerLora => exact absurd (h.open_of_timer htimer) hopen
  starting hpc := by
    have hbudget := h.starting hpc
    cases handler with
    | timerHandler => exact ⟨hbudget.counter, hbudget.loaded, hbudget.same, hbudget.foreign⟩
    | timerHandlerLora =>
        rcases h.timer htimer with hwaiting | hwaiting
        · exact absurd (hpc.symm.trans hwaiting) (by decide)
        · exact absurd (hpc.symm.trans hwaiting) (by decide)
  budget _ := Or.inl rfl
  closing _ := Or.inl rfl
  listening := h.listening
  timer := h.timer

theorem LoraKept.rxDone {radio : Radio json} {log : SlotLog} (h : LoraKept radio log)
    {packet : LoraPacket} {next : Radio json × List RadioOutput}
    (hkeeps : KeepsApart (radio, log) (.rxDone packet))
    (hstep : Radio.step radio (.rxDone packet) = some next) :
    LoraKept next.1 (record radio (.rxDone packet) next log) := by
  obtain ⟨hend, hstarting, hkind, hclean⟩ := hkeeps
  obtain ⟨handled, hisr, hexplicit, hbuf⟩ := rxDoneISRf_received h.explicit packet
  simp only [Radio.step, hisr] at hstep
  split at hstep
  swap
  · cases hstep
  rename_i hlistening
  obtain rfl := Option.some.inj hstep
  have hopen : LoraOpen radio.pc := (h.listening hlistening).resolve_right hend
  have harrived : ∀ {own : ℕ}, Budget radio.globals radio.callbacks own →
      Budget { radio.globals with modem := handled } (radio.callbacks ++ [⟨packet, .publish⟩])
        (own + if ownPacket json packet then 1 else 0) := by
    intro own hbudget
    refine hbudget.rxDone rfl rfl rfl rfl hkind fun hown => hclean ?_
    rw [← hbuf]
    exact hown
  refine ⟨hexplicit, fun hclosed => absurd hopen hclosed, fun hpc => ?_, fun _ => ?_, fun hclosing => ?_,
    h.listening, h.timer⟩
  · have hbudget := harrived (h.starting hpc)
    rw [hstarting hpc] at hbudget
    exact hbudget
  · exact (h.budget hopen).imp_right harrived
  · exact (h.closing hclosing).imp_right fun hle => hle.trans (Nat.le_add_right _ _)

theorem LoraKept.callback {radio : Radio json} {log : SlotLog} (h : LoraKept radio log) {i : ℕ}
    {next : Radio json × List RadioOutput} (hstep : Radio.step radio (.callback i) = some next) :
    LoraKept next.1 (record radio (.callback i) next log) := by
  obtain ⟨callback, hcallback, hmap⟩ := Option.bind_eq_some_iff.mp hstep
  obtain ⟨⟨globals, continued, out⟩, hinner, rfl⟩ := Option.map_eq_some_iff.mp hmap
  have hsplit : radio.callbacks = radio.callbacks.take i ++ callback :: radio.callbacks.drop (i + 1) := by
    obtain ⟨hlt, hget⟩ := List.getElem?_eq_some_iff.mp hcallback
    rw [← hget, List.getElem_cons_drop, List.take_append_drop]
  have hopen : LoraOpen radio.pc := by
    by_contra hclosed
    rw [(h.quiet hclosed).1] at hcallback
    cases hcallback
  have hmoved : ∀ {own : ℕ}, Budget radio.globals radio.callbacks own →
      Budget globals (radio.callbacks.take i ++ (continued.map fun pc => { callback with pc := pc }).toList ++
        radio.callbacks.drop (i + 1)) own := by
    intro own hbudget
    rw [hsplit] at hbudget
    exact hbudget.callback hinner
  refine ⟨?_, fun hclosed => absurd hopen hclosed, fun hpc => hmoved (h.starting hpc),
    fun _ => (h.budget hopen).imp_right hmoved, h.closing, h.listening, h.timer⟩
  show globals.modem.implicitHeader = false
  rw [(callbackStep_frame hinner).1]
  exact h.explicit

/-- Between the LoRa slots the main loop stays clear of them. -/
theorem Idle.mainStep {radio : Radio json} (h : Idle radio) {arrived : Option (Buffer 32)}
    {next : Radio json × List RadioOutput} (hstep : radio.mainStep arrived = some next)
    (hreceive : radio.pc ≠ .loraReceive) (hopen : ¬LoraOpen radio.pc) (hend : radio.pc ≠ .loraEnd) :
    Idle next.1 ∧ ¬LoraOpen next.1.pc ∧ ¬LoraClosing next.1.pc := by
  obtain ⟨pc, select, timer, listening, globals, callbacks⟩ := radio
  cases pc
  case loraReceive => exact absurd rfl hreceive
  case loraEnd => exact absurd rfl hend
  case loraStartTimer | loraWhile | loraStopTimer | loraResetCount =>
      exact absurd (by simp [LoraOpen]) hopen
  case switch =>
      obtain rfl := Option.some.inj hstep
      exact ⟨⟨h.explicit, h.callbacks, h.countLora, h.listening, h.timer⟩, not_loraOpen_slotOf select,
        not_loraClosing_slotOf select⟩
  case rfStartTimer | rfStopTimer =>
      obtain rfl := Option.some.inj hstep
      refine ⟨⟨h.explicit, h.callbacks, h.countLora, h.listening, ?_⟩, ?_, ?_⟩ <;>
        simp [LoraOpen, LoraClosing]
  case rfBegin | rfResetCount | rfEnd | loraBegin | nextSelect =>
      obtain rfl := Option.some.inj hstep
      refine ⟨⟨h.explicit, h.callbacks, h.countLora, h.listening, h.timer⟩, ?_, ?_⟩ <;>
        simp [LoraOpen, LoraClosing]
  all_goals
    simp only [Radio.mainStep] at hstep
    obtain ⟨inner, hinner, rfl⟩ := Option.map_eq_some_iff.mp hstep
    obtain ⟨hmodem, hcount, hopen', hclosing'⟩ := rfStep_frame hinner
    refine ⟨⟨?_, h.callbacks, hcount.trans h.countLora, h.listening, h.timer⟩, hopen', hclosing'⟩
    rw [hmodem]
    exact h.explicit

theorem LoraKept.mainStep {radio : Radio json} {log : SlotLog} (h : LoraKept radio log)
    {arrived : Option (Buffer 32)} {next : Radio json × List RadioOutput}
    (hkeeps : KeepsApart (radio, log) (.main arrived))
    (hstep : radio.mainStep arrived = some next) :
    LoraKept next.1 (record radio (.main arrived) next log) := by
  obtain ⟨pc, select, timer, listening, globals, callbacks⟩ := radio
  cases pc
  case loraReceive =>
      have hidle := h.idle (by simp [LoraOpen]) (by simp)
      obtain rfl := Option.some.inj hstep
      have hempty : callbacks = [] := hidle.callbacks
      have hbudget : ∀ own, Budget globals callbacks own := by
        intro own
        rw [hempty]
        exact budget_nil hidle.countLora own
      exact ⟨h.explicit, fun hclosed => absurd (Or.inl rfl) hclosed, fun _ => hbudget 0,
        fun _ => Or.inr (hbudget log.own), fun hclosing => absurd hclosing (by simp [LoraClosing]),
        fun _ => Or.inl (Or.inl rfl), fun htimer => absurd htimer hidle.timer⟩
  case loraStartTimer =>
      obtain rfl := Option.some.inj hstep
      exact ⟨h.explicit, fun hclosed => absurd (Or.inr (Or.inl rfl)) hclosed, (fun hpc => by cases hpc),
        fun _ => h.budget (Or.inl rfl), fun hclosing => absurd hclosing (by simp [LoraClosing]),
        fun _ => Or.inl (Or.inr (Or.inl rfl)), fun _ => Or.inl rfl⟩
  case loraWhile =>
      obtain rfl := Option.some.inj hstep
      have hbudget := h.budget (Or.inr (Or.inl rfl))
      by_cases hcount : globals.countLora > 2
      · simp only [hcount, if_true]
        refine ⟨h.explicit, fun hclosed => absurd (Or.inr (Or.inr (Or.inl rfl))) hclosed, (fun hpc => by cases hpc),
          fun _ => hbudget, fun _ => hbudget.imp_right fun hbudget => ?_,
          fun _ => Or.inl (Or.inr (Or.inr (Or.inl rfl))), fun _ => Or.inr rfl⟩
        have hle := hbudget.counter
        show 3 ≤ log.own
        change globals.countLora + owed json callbacks ≤ log.own at hle
        omega
      · simp only [hcount, if_false]
        exact h
  case loraStopTimer =>
      obtain rfl := Option.some.inj hstep
      exact ⟨h.explicit, fun hclosed => absurd (Or.inr (Or.inr (Or.inr rfl))) hclosed, (fun hpc => by cases hpc),
        fun _ => h.budget (Or.inr (Or.inr (Or.inl rfl))), fun _ => h.closing (Or.inl rfl),
        fun _ => Or.inl (Or.inr (Or.inr (Or.inr rfl))), fun htimer => by cases htimer⟩
  case loraResetCount =>
      obtain rfl := Option.some.inj hstep
      exact ⟨h.explicit, fun _ => ⟨hkeeps rfl, rfl⟩, (fun hpc => by cases hpc),
        fun hopen => absurd hopen (by simp [LoraOpen]), fun _ => h.closing (Or.inr (Or.inl rfl)), fun _ => Or.inr rfl,
        fun htimer => absurd (h.timer htimer) (by simp)⟩
  case loraEnd =>
      obtain rfl := Option.some.inj hstep
      obtain ⟨hcallbacks, hcount⟩ := h.quiet (by simp [LoraOpen])
      have hidle : Idle (⟨.nextSelect, select, timer, false, globals, callbacks⟩ : Radio json) :=
        ⟨h.explicit, hcallbacks, hcount, rfl, fun htimer => absurd (h.timer htimer) (by simp)⟩
      exact hidle.kept (by simp [LoraOpen]) (by simp [LoraClosing]) _
  all_goals
    have hidle := h.idle (by simp [LoraOpen]) (by simp)
    obtain ⟨hnext, hopen, hclosing⟩ := hidle.mainStep hstep (by simp) (by simp [LoraOpen]) (by simp)
    exact hnext.kept hopen hclosing _

theorem LoraKept.step {radio : Radio json} {log : SlotLog} (h : LoraKept radio log) {event : RadioEvent}
    {next : Radio json × List RadioOutput} (hkeeps : KeepsApart (radio, log) event)
    (hstep : Radio.step radio event = some next) :
    LoraKept next.1 (record radio event next log) := by
  cases event with
  | main arrived => exact h.mainStep hkeeps hstep
  | sigalrm =>
      obtain ⟨handler, htimer, rfl⟩ := Option.map_eq_some_iff.mp hstep
      exact h.sigalrm htimer
  | rxDone packet => exact h.rxDone hkeeps hstep
  | callback i => exact h.callback hstep

theorem loraKept_of_run {events : List RadioEvent} {result : (Radio json × SlotLog) × List RadioOutput}
    (hkeeps : Runs.Along logged KeepsApart (init json, SlotLog.empty) events)
    (hrun : Runs.run logged (init json, SlotLog.empty) events = some result) :
    LoraKept result.1.1 result.1.2 := by
  apply Runs.run_invariant (P := fun _ _ s => LoraKept s.1 s.2) (loraKept_init json) _ hkeeps hrun
  intro _ _ s event next hkept happly hstep
  obtain ⟨next', hnext', rfl⟩ := Runs.observe_eq_some.mp hstep
  exact hkept.step happly hnext'

/-- A LoRa slot counts its own packets only: it opens and begins to wait with a counter of zero, the counter
never gets ahead of the packets of the node that raised the interrupt in this slot, and the slot is left
only when there were three of them, unless its timer has fired. -/
def CountsOwn (radio : Radio json) (log : SlotLog) : Prop :=
  (radio.pc = .loraBegin ∨ radio.pc = .loraReceive → radio.globals.countLora = 0) ∧
  (∀ arrived next, radio.mainStep arrived = some next → radio.pc ≠ .loraWhile → next.1.pc = .loraWhile →
    next.1.globals.countLora = 0) ∧
  (radio.pc = .loraWhile → log.fired = true ∨ radio.globals.countLora ≤ log.own) ∧
  (LoraClosing radio.pc → log.fired = true ∨ 3 ≤ log.own)

/-- The waiting loop is entered from `start_timer`. -/
theorem mainStep_loraWhile {radio : Radio json} {arrived : Option (Buffer 32)}
    {next : Radio json × List RadioOutput} (hstep : radio.mainStep arrived = some next)
    (hbefore : radio.pc ≠ .loraWhile) (hafter : next.1.pc = .loraWhile) :
    radio.pc = .loraStartTimer ∧ next.1.globals.countLora = radio.globals.countLora := by
  obtain ⟨pc, select, timer, listening, globals, callbacks⟩ := radio
  cases pc
  case loraStartTimer =>
      obtain rfl := Option.some.inj hstep
      exact ⟨rfl, rfl⟩
  case loraWhile => exact absurd rfl hbefore
  case switch =>
      obtain rfl := Option.some.inj hstep
      exact absurd (Or.inr (Or.inl hafter)) (not_loraOpen_slotOf select)
  case rfWhile | rfAvailable | rfMemset | rfRead | rfParse | rfGetId | rfGetInt | rfIfOwn | rfPublish |
      rfLoadCount | rfStoreCount =>
      simp only [Radio.mainStep] at hstep
      obtain ⟨inner, hinner, rfl⟩ := Option.map_eq_some_iff.mp hstep
      exact absurd (Or.inr (Or.inl hafter)) (rfStep_frame hinner).2.2.1
  all_goals
    obtain rfl := Option.some.inj hstep
    cases hafter

/-- In every run that keeps the packets apart. -/
theorem lora_slot_counts_own (json : JsonC) {events : List RadioEvent}
    {result : (Radio json × SlotLog) × List RadioOutput}
    (hkeeps : Runs.Along logged KeepsApart (init json, SlotLog.empty) events)
    (hrun : Runs.run logged (init json, SlotLog.empty) events = some result) :
    CountsOwn result.1.1 result.1.2 := by
  have hkept := loraKept_of_run hkeeps hrun
  refine ⟨fun hopening => ?_, fun arrived next hstep hbefore hafter => ?_, fun hpc => ?_, hkept.closing⟩
  · have hclosed : ¬LoraOpen result.1.1.pc := by
      rcases hopening with hpc | hpc
      · rw [hpc]
        simp [LoraOpen]
      · rw [hpc]
        simp [LoraOpen]
    exact (hkept.quiet hclosed).2
  · obtain ⟨hpc, hcount⟩ := mainStep_loraWhile hstep hbefore hafter
    rw [hcount]
    exact Nat.le_zero.mp ((Nat.le_add_right _ _).trans (hkept.starting hpc).counter)
  · exact (hkept.budget (Or.inr (Or.inl hpc))).imp_right fun hbudget =>
      (Nat.le_add_right _ _).trans hbudget.counter

/-- A parser that knows one text of the LoRa node. -/
def loraJson : JsonC := JsonC.table (ascii "id") [(ascii "\x7b\"id\":95\x7d", 95)]

def loraPacket : LoraPacket := ⟨ascii "\x7b\"id\":95\x7d", by decide⟩

/-- From the start to the waiting loop of the first LoRa slot. -/
def untilLoraWhile : List RadioEvent :=
  List.replicate 5 (.main none) ++ .sigalrm :: List.replicate 9 (.main none)

instance (s : Radio json × SlotLog) (event : RadioEvent) : Decidable (KeepsApart s event) :=
  match event with
  | .rxDone _ => inferInstanceAs (Decidable (_ ∧ (_ → _) ∧ _ ∧ (_ → _)))
  | .main _ => inferInstanceAs (Decidable (_ → _))
  | .sigalrm | .callback _ => isTrue trivial

/-- Three packets, each handled before the next, end the first LoRa slot. -/
theorem lora_slot_three_packets :
    ∃ result, Runs.run logged (init loraJson, SlotLog.empty) (untilLoraWhile ++
        (List.replicate 3 (.rxDone loraPacket :: List.replicate 9 (.callback 0))).flatten ++
        [.main none]) = some result ∧
      result.1.1.pc = .loraStopTimer ∧ CountsOwn result.1.1 result.1.2 := by
  have hpc : (Runs.run logged (init loraJson, SlotLog.empty) (untilLoraWhile ++
      (List.replicate 3 (.rxDone loraPacket :: List.replicate 9 (.callback 0))).flatten ++
      [.main none])).map (·.1.1.pc) = some .loraStopTimer := by decide +kernel
  obtain ⟨result, hresult, hstop⟩ := Option.map_eq_some_iff.mp hpc
  exact ⟨result, hresult, hstop, lora_slot_counts_own loraJson (by decide +kernel) hresult⟩

/-- The threads of three packets of one slot, which its timer ends, run after the counter was reset. The
next LoRa slot is left at once: no packet has come in it and its timer has not fired. -/
theorem lora_slot_late_callbacks :
    ¬∀ (json : JsonC) (events : List RadioEvent) (result : (Radio json × SlotLog) × List RadioOutput),
      Runs.run logged (init json, SlotLog.empty) events = some result →
        CountsOwn result.1.1 result.1.2 := by
  intro h
  have hrun : (Runs.run logged (init loraJson, SlotLog.empty) (untilLoraWhile ++
      List.replicate 3 (.rxDone loraPacket) ++ .sigalrm :: List.replicate 3 (.main none) ++
      List.replicate 27 (.callback 0) ++ List.replicate 5 (.main none) ++
      .sigalrm :: List.replicate 10 (.main none))).map
        (fun result => (result.1.1.pc, result.1.2.fired, result.1.2.own)) =
      some (.loraStopTimer, false, 0) := by decide +kernel
  obtain ⟨result, hresult, hlog⟩ := Option.map_eq_some_iff.mp hrun
  obtain ⟨hpc, hfired, hown⟩ : result.1.1.pc = .loraStopTimer ∧ result.1.2.fired = false ∧
      result.1.2.own = 0 := by simpa using hlog
  have hcounts := (h loraJson _ result hresult).2.2.2 (Or.inl hpc)
  rw [hfired, hown] at hcounts
  exact absurd hcounts (by decide)

end LinuxGateway.Radio
