import LinuxGateway.Uplinks

/-! The radio service (`main` of `lora_rf24_receive.cpp`) as its threads and signals see it. The main loop
goes through its slots, three for the RF24 radio and two for the LoRa modem; `SIGALRM` runs a handler
between any two of its statements, and inside `count++`; each LoRa interrupt starts a thread that runs
`rx_f` on the shared globals whenever it gets to it. Every call of the libraries succeeds here. -/

namespace LinuxGateway

open Bytes

inductive TimerHandler where
  | timerHandler
  | timerHandlerLora
  deriving DecidableEq

/-- The statements of the main loop. The slots of a kind differ only in the pins they set. -/
inductive RadioPc where
  | switch
  | rfBegin
  | rfStartTimer
  | rfWhile
  | rfAvailable
  | rfMemset (payload : Buffer 32)
  | rfRead (payload : Buffer 32)
  | rfParse
  | rfGetId
  | rfGetInt
  | rfIfOwn
  | rfPublish
  | rfLoadCount
  | rfStoreCount (loaded : ℕ)
  | rfStopTimer
  | rfResetCount
  | rfEnd
  | loraBegin
  | loraReceive
  | loraStartTimer
  | loraWhile
  | loraStopTimer
  | loraResetCount
  | loraEnd
  | nextSelect
  deriving DecidableEq

inductive CallbackPc where
  | publish
  | parse
  | getId
  | getInt
  | ifOwn
  | loadCount
  | storeCount (loaded : ℕ)
  | fill
  | send
  deriving DecidableEq

/-- A thread in `rx_f`. No statement reads which packet started it. -/
structure Callback where
  packet : LoraPacket
  pc : CallbackPc
  deriving DecidableEq

structure Radio (json : JsonC) where
  pc : RadioPc
  select : ℕ
  /-- The handler that `SIGALRM` runs, between `start_timer` and `stop_timer`. -/
  timer : Option TimerHandler
  /-- Whether `rxDoneISRf` is attached, between `LoRa_receive` and `LoRa_end`. -/
  listening : Bool
  globals : RadioGlobals json
  callbacks : List Callback

inductive RadioEvent where
  /-- The next statement of the main loop; `arrived` is what `radio.available()` would find. -/
  | main (arrived : Option (Buffer 32))
  | sigalrm
  | rxDone (packet : LoraPacket)
  /-- The next statement of one of the threads. -/
  | callback (i : ℕ)
  deriving DecidableEq

namespace Radio

variable {json : JsonC}

def init (json : JsonC) : Radio json where
  pc := .switch
  select := 0
  timer := none
  listening := false
  globals := RadioGlobals.init json
  callbacks := []

/-- The `switch`; slot 0 is commented out. -/
def slotOf (select : ℕ) : RadioPc :=
  match select with
  | 1 | 3 | 5 => .rfBegin
  | 2 | 4 => .loraBegin
  | _ => .nextSelect

/-- One statement of an RF24 slot, on the globals. -/
def rfStep (globals : RadioGlobals json) (arrived : Option (Buffer 32)) :
    RadioPc → Option (RadioGlobals json × RadioPc × List RadioOutput)
  | .rfWhile => some (globals, if globals.count < 4 then .rfAvailable else .rfStopTimer, [])
  | .rfAvailable =>
      match arrived with
      | some payload => some (globals, .rfMemset payload, [])
      | none => some (globals, .rfWhile, [])
  | .rfMemset payload => some ({ globals with nrfbuff := Buffer.zero 50 }, .rfRead payload, [])
  | .rfRead payload =>
      (globals.nrfbuff.write 0 payload.bytes).map fun nrfbuff =>
        ({ globals with nrfbuff := nrfbuff }, .rfParse, [])
  | .rfParse =>
      (cString globals.nrfbuff.bytes).map fun text =>
        ({ globals with parsedJson := json.parse text }, .rfGetId, [])
  | .rfGetId =>
      some ({ globals with idNode := json.objectGetEx globals.parsedJson (ascii "id") }, .rfGetInt, [])
  | .rfGetInt => some ({ globals with checkResponse := json.getInt globals.idNode }, .rfIfOwn, [])
  | .rfIfOwn =>
      some (globals, if globals.checkResponse = idRF24 then .rfPublish else .rfWhile, [])
  | .rfPublish =>
      (publishMess .dataRf globals.nrfbuff.bytes).map fun message =>
        (globals, .rfLoadCount, [.publish message])
  | .rfLoadCount => some (globals, .rfStoreCount globals.count, [])
  | .rfStoreCount loaded => some ({ globals with count := loaded + 1 }, .rfWhile, [])
  | _ => none

def mainStep (radio : Radio json) (arrived : Option (Buffer 32)) :
    Option (Radio json × List RadioOutput) :=
  match radio.pc with
  | .switch => some ({ radio with pc := slotOf radio.select }, [])
  | .rfBegin => some ({ radio with pc := .rfStartTimer }, [])
  | .rfStartTimer => some ({ radio with pc := .rfWhile, timer := some .timerHandler }, [])
  | .rfStopTimer => some ({ radio with pc := .rfResetCount, timer := none }, [])
  | .rfResetCount =>
      some ({ radio with pc := .rfEnd, globals := { radio.globals with count := 0 } }, [])
  | .rfEnd => some ({ radio with pc := .nextSelect }, [])
  | .loraBegin => some ({ radio with pc := .loraReceive }, [])
  | .loraReceive => some ({ radio with pc := .loraStartTimer, listening := true }, [])
  | .loraStartTimer => some ({ radio with pc := .loraWhile, timer := some .timerHandlerLora }, [])
  | .loraWhile =>
      some ({ radio with pc := if radio.globals.countLora > 2 then .loraStopTimer else .loraWhile }, [])
  | .loraStopTimer => some ({ radio with pc := .loraResetCount, timer := none }, [])
  | .loraResetCount =>
      some ({ radio with pc := .loraEnd, globals := { radio.globals with countLora := 0 } }, [])
  | .loraEnd => some ({ radio with pc := .nextSelect, listening := false }, [])
  | .nextSelect => some ({ radio with pc := .switch, select := (radio.select + 1) % 6 }, [])
  | pc =>
      (rfStep radio.globals arrived pc).map fun next =>
        ({ radio with globals := next.1, pc := next.2.1 }, next.2.2)

def handle (globals : RadioGlobals json) : TimerHandler → RadioGlobals json
  | .timerHandler => { globals with count := 6 }
  | .timerHandlerLora => { globals with countLora := 3 }

/-- One statement of `rx_f`, with the one after it; `none` for that is the end of the thread. -/
def callbackStep (globals : RadioGlobals json) :
    CallbackPc → Option (RadioGlobals json × Option CallbackPc × List RadioOutput)
  | .publish =>
      (publishMess .dataLora globals.modem.buf.bytes).map fun message =>
        (globals, some .parse, [.publish message])
  | .parse =>
      (cString globals.modem.buf.bytes).map fun text =>
        ({ globals with parsedJson := json.parse text }, some .getId, [])
  | .getId =>
      some ({ globals with idNode := json.objectGetEx globals.parsedJson (ascii "id") }, some .getInt, [])
  | .getInt => some ({ globals with checkResponse := json.getInt globals.idNode }, some .ifOwn, [])
  | .ifOwn => some (globals, if globals.checkResponse = idLora then some .loadCount else none, [])
  | .loadCount => some (globals, some (.storeCount globals.countLora), [])
  | .storeCount loaded => some ({ globals with countLora := loaded + 1 }, some .fill, [])
  | .fill =>
      (cString globals.modem.buf.bytes).bind fun text =>
        (globals.data.fillLora text).map fun data =>
          ({ globals with data := data }, some .send, [])
  | .send => some (globals, none, [.send globals.data])

def step : Runs.Step (Radio json) RadioEvent RadioOutput := fun radio event =>
  match event with
  | .main arrived => radio.mainStep arrived
  | .sigalrm =>
      radio.timer.map fun handler => ({ radio with globals := handle radio.globals handler }, [])
  | .rxDone packet =>
      if radio.listening then
        (rxDoneISRf radio.globals.modem packet.received).map fun handled =>
          ({ radio with
            globals := { radio.globals with modem := handled.1 }
            callbacks := radio.callbacks ++ if handled.2 then [⟨packet, .publish⟩] else [] }, [])
      else none
  | .callback i =>
      radio.callbacks[i]?.bind fun callback =>
        (callbackStep radio.globals callback.pc).map fun next =>
          ({ radio with
            globals := next.1
            callbacks := radio.callbacks.take i ++
              (next.2.1.map fun pc => { callback with pc := pc }).toList ++
              radio.callbacks.drop (i + 1) }, next.2.2)

/-! ### What a statement of a thread leaves alone -/

theorem payloadsOn_publishMess {topic topic' : Topic} {msg : List UInt8} {message : Message}
    (h : publishMess topic msg = some message) :
    payloadsOn topic' [.publish message] = if topic = topic' then [message.payload] else [] := by
  obtain ⟨payload, _, rfl⟩ := Option.map_eq_some_iff.mp h
  simp only [payloadsOn, List.filterMap_cons, List.filterMap_nil]
  split <;> simp_all

/-- The callback leaves the modem alone; it neither counts for the RF24 slots nor publishes on their
topic. -/
theorem callbackStep_frame {globals globals' : RadioGlobals json} {pc : CallbackPc}
    {continued : Option CallbackPc} {out : List RadioOutput}
    (h : callbackStep globals pc = some (globals', continued, out)) :
    globals'.modem = globals.modem ∧ globals'.count = globals.count ∧ payloadsOn .dataRf out = [] := by
  cases pc with
  | publish =>
      obtain ⟨message, hmessage, heq⟩ := Option.map_eq_some_iff.mp h
      cases heq
      exact ⟨rfl, rfl, payloadsOn_publishMess hmessage⟩
  | parse =>
      obtain ⟨text, _, heq⟩ := Option.map_eq_some_iff.mp h
      cases heq
      exact ⟨rfl, rfl, rfl⟩
  | fill =>
      obtain ⟨text, _, hfill⟩ := Option.bind_eq_some_iff.mp h
      obtain ⟨data, _, heq⟩ := Option.map_eq_some_iff.mp hfill
      cases heq
      exact ⟨rfl, rfl, rfl⟩
  | getId | getInt | ifOwn | loadCount | storeCount | send =>
      cases h
      exact ⟨rfl, rfl, rfl⟩

/-! ### Undisturbed, the statements add up to the receive paths -/

structure SlotLog where
  fired : Bool
  /-- Messages on `data_rf`. -/
  published : ℕ
  /-- Packets with the id of the LoRa node that raised the interrupt. -/
  own : ℕ
  deriving DecidableEq

def SlotLog.empty : SlotLog := ⟨false, 0, 0⟩

/-- json-c reads the id of the LoRa node in this text. -/
def isOwn (json : JsonC) (text : List UInt8) : Bool :=
  json.getInt (json.objectGetEx (json.parse text) (ascii "id")) = idLora

/-- The packet's own text has the id of the LoRa node. -/
def ownPacket (json : JsonC) (packet : LoraPacket) : Bool := isOwn json (textOf packet.bytes)

/-- The log of the slot after a step. -/
def record (radio : Radio json) (event : RadioEvent) (next : Radio json × List RadioOutput)
    (log : SlotLog) : SlotLog :=
  match event with
  | .main _ =>
      if radio.pc = .switch then SlotLog.empty
      else { log with published := log.published + (payloadsOn .dataRf next.2).length }
  | .sigalrm => { log with fired := true }
  | .rxDone packet => { log with own := log.own + if ownPacket json packet then 1 else 0 }
  | .callback _ => { log with published := log.published + (payloadsOn .dataRf next.2).length }

/-- The service with the log of the current slot beside it. -/
def logged : Runs.Step (Radio json × SlotLog) RadioEvent RadioOutput := Runs.observe step record

end Radio

end LinuxGateway
