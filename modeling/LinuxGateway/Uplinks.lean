import LinuxGateway.LoraReceive

/-! The three uplinks that filter by node id: LoRa packets and RF24 payloads, which share the globals of
the radio service (`lora_rf24_receive.cpp`), and the serial line (`ClientUART.c`). Packets are handled
one at a time, in any order. -/

namespace LinuxGateway

open Bytes

def idRF24 : ℤ := 96

def idBlue : ℤ := 97

/-- What the radio service receives. A read of the RF24 radio returns a payload of 32 bytes. -/
inductive RadioPacket where
  | lora (packet : LoraPacket)
  | rf24 (payload : Buffer 32)

namespace RadioGlobals

variable {json : JsonC}

/-- The body of the receive loop in the RF24 slots, once a payload is available. -/
def receiveRf24 (globals : RadioGlobals json) (payload : Buffer 32) :
    Option (RadioGlobals json × List RadioOutput) :=
  ((Buffer.zero 50).write 0 payload.bytes).bind fun nrfbuff =>
    (cString nrfbuff.bytes).bind fun text =>
      let parsedJson := json.parse text
      let idNode := json.objectGetEx parsedJson (ascii "id")
      let checkResponse := json.getInt idNode
      let checked := { globals with nrfbuff, parsedJson, idNode, checkResponse }
      if checkResponse = idRF24 then
        (publishMess .dataRf nrfbuff.bytes).map fun message =>
          ({ checked with count := checked.count + 1 }, [.publish message])
      else some (checked, [])

def receiveRadio : Runs.Step (RadioGlobals json) RadioPacket RadioOutput := fun globals packet =>
  match packet with
  | .lora packet => globals.receivePacket packet
  | .rf24 payload => globals.receiveRf24 payload

end RadioGlobals

/-- The globals of the serial service. -/
structure UartGlobals (json : JsonC) where
  msg : Buffer 50
  parsedJson : Option json.Value
  idNode : Option json.Value
  checkResponse : ℤ
  count : ℕ

/-- What `read(fd, msg, sizeof(msg))` returns. -/
inductive SerialRead where
  | failed
  | bytes (received : List UInt8) (h : received.length ≤ 50)

namespace UartGlobals

variable {json : JsonC}

def init (json : JsonC) : UartGlobals json where
  msg := Buffer.zero 50
  parsedJson := none
  idNode := none
  checkResponse := 0
  count := 0

/-- One pass of the receive loop. The message is printed before anything is decided about it. -/
def receiveSerial : Runs.Step (UartGlobals json) SerialRead Message := fun globals read =>
  match read with
  | .failed => some ({ globals with msg := Buffer.zero 50 }, [])
  | .bytes received _ =>
      ((Buffer.zero 50).write 0 received).bind fun msg =>
        (cString msg.bytes).bind fun text =>
          if received.length > 41 then
            let parsedJson := json.parse text
            let idNode := json.objectGetEx parsedJson (ascii "id")
            let checkResponse := json.getInt idNode
            let checked := { globals with
              msg, parsedJson, idNode, checkResponse, count := globals.count + 1 }
            if checkResponse = idBlue then
              (publishMess .dataBl msg.bytes).map fun message => (checked, [message])
            else some (checked, [])
          else some ({ globals with msg }, [])

end UartGlobals

/-! ### The rule -/

namespace RadioPacket

def topic : RadioPacket → Topic
  | .lora _ => .dataLora
  | .rf24 _ => .dataRf

def id : RadioPacket → ℤ
  | .lora _ => idLora
  | .rf24 _ => idRF24

def text : RadioPacket → List UInt8
  | .lora packet => textOf packet.bytes
  | .rf24 payload => textOf payload.bytes

/-- The packet is published, its own text and nothing else, if and only if that text has the id of its
uplink. -/
def Filtered (json : JsonC) (packet : RadioPacket) (outputs : List RadioOutput) : Prop :=
  payloadsOn packet.topic outputs = [packet.text] ∧ json.HasInteger packet.text (ascii "id") packet.id ∨
    payloadsOn packet.topic outputs = [] ∧ ¬json.HasInteger packet.text (ascii "id") packet.id

end RadioPacket

namespace SerialRead

/-- The read is long enough and its own text has the id of the node. -/
def Accepted (json : JsonC) : SerialRead → Prop
  | .failed => False
  | .bytes received _ => received.length > 41 ∧ json.HasInteger (textOf received) (ascii "id") idBlue

def text : SerialRead → List UInt8
  | .failed => []
  | .bytes received _ => textOf received

/-- The same for a read of the serial line. -/
def Filtered (json : JsonC) (read : SerialRead) (outputs : List Message) : Prop :=
  outputs = [⟨.dataBl, read.text, QOS, 0⟩] ∧ read.Accepted json ∨ outputs = [] ∧ ¬read.Accepted json

end SerialRead

/-! ### When it is kept -/

namespace RadioGlobals

variable {json : JsonC}

/-- On the LoRa path the packet must be one of the expected node, and a NUL must stand right behind its text
in the receive buffer. On the RF24 path its id must not be a value of another type that json-c converts. -/
def KeepsRule (globals : RadioGlobals json) : RadioPacket → Prop
  | .lora packet => json.HasInteger (textOf packet.bytes) (ascii "id") idLora ∧
      (packet.bytes ++ globals.modem.buf.bytes.drop packet.bytes.length)[(textOf packet.bytes).length]? = some 0
  | .rf24 payload => ¬json.Converts (textOf payload.bytes) (ascii "id") idRF24

/-- The callback publishes the string that the packet and what was left behind it make. -/
theorem receivePacket_published {globals : RadioGlobals json}
    (hexplicit : globals.modem.implicitHeader = false) (packet : LoraPacket) :
    (∃ text next, cString (packet.bytes ++ globals.modem.buf.bytes.drop packet.bytes.length) = some text ∧
      globals.receivePacket packet = some next ∧ next.1.modem.implicitHeader = false ∧
      payloadsOn .dataLora next.2 = [text]) ∨
    cString (packet.bytes ++ globals.modem.buf.bytes.drop packet.bytes.length) = none ∧
      globals.receivePacket packet = none := by
  cases htext : cString (packet.bytes ++ globals.modem.buf.bytes.drop packet.bytes.length) with
  | some text =>
      obtain ⟨next, hnext, hhandled, _, hpayload, _⟩ := receivePacket_of_cString hexplicit htext
      exact Or.inl ⟨text, next, rfl, hnext, hhandled, hpayload⟩
  | none => exact Or.inr ⟨rfl, receivePacket_of_unterminated hexplicit htext⟩

/-- The RF24 path reads the payload into a cleared buffer and publishes what json-c reads as the id. -/
theorem receiveRf24_published (globals : RadioGlobals json) (payload : Buffer 32) :
    ∃ next,
      globals.receiveRf24 payload = some (next,
        if json.getInt (json.objectGetEx (json.parse (textOf payload.bytes)) (ascii "id")) = idRF24
        then [.publish ⟨.dataRf, textOf payload.bytes, QOS, 0⟩] else []) ∧
      next.modem = globals.modem ∧ next.nrfbuff.Filled payload.bytes ∧
      next.count = globals.count +
        if json.getInt (json.objectGetEx (json.parse (textOf payload.bytes)) (ascii "id")) = idRF24
        then 1 else 0 := by
  obtain ⟨nrfbuff, hwrite, hbytes⟩ := (Buffer.zero 50).exists_write 0 payload.bytes
    (by rw [payload.length_eq]; decide)
  have hfilled : nrfbuff.Filled payload.bytes := Buffer.filled_iff_overlay.mpr hbytes
  have htext : cString nrfbuff.bytes = some (textOf payload.bytes) := by
    rw [hfilled.cString_eq_ite, payload.length_eq, if_pos (Or.inl (by decide))]
  unfold receiveRf24 publishMess
  simp only [hwrite, htext, Option.bind_some, Option.map_some]
  split
  · exact ⟨_, rfl, rfl, hfilled, rfl⟩
  · exact ⟨_, rfl, rfl, hfilled, rfl⟩

/-- One packet keeps the rule exactly under the condition. -/
theorem keepsRule_iff {globals : RadioGlobals json} (hexplicit : globals.modem.implicitHeader = false)
    (packet : RadioPacket) :
    globals.KeepsRule packet ↔
      ∃ next, globals.receiveRadio packet = some next ∧ packet.Filtered json next.2 := by
  cases packet with
  | lora packet =>
      have hbehind := cString_append_eq_textOf_iff packet.bytes
        (globals.modem.buf.bytes.drop packet.bytes.length)
      obtain ⟨text, next, htext, hnext, _, hpayload⟩ | ⟨hnone, hundefined⟩ :=
        receivePacket_published hexplicit packet
      · rw [htext, Option.some.injEq] at hbehind
        constructor
        · intro h
          refine ⟨next, hnext, Or.inl ⟨?_, h.1⟩⟩
          rw [hbehind.mpr h.2] at hpayload
          exact hpayload
        · intro h
          obtain ⟨next', hnext', hfiltered⟩ := h
          obtain rfl := Option.some.inj (hnext.symm.trans hnext')
          obtain ⟨hpublished, hown⟩ | ⟨hsilent, _⟩ := hfiltered
          · exact ⟨hown, hbehind.mp (List.singleton_inj.mp (hpayload.symm.trans hpublished))⟩
          · exact absurd (hpayload.symm.trans hsilent) (List.cons_ne_nil _ _)
      · rw [hnone] at hbehind
        constructor
        · intro h
          exact absurd (hbehind.mpr h.2) (by simp)
        · intro h
          obtain ⟨next, hnext, _⟩ := h
          exact absurd (hundefined.symm.trans hnext) (by simp)
  | rf24 payload =>
      obtain ⟨next, hnext, _⟩ := globals.receiveRf24_published payload
      have hexact := json.getInt_eq_iff_hasInteger_iff (textOf payload.bytes) (ascii "id")
        (show idRF24 ≠ 0 by decide) (by decide) (by decide)
      have hfiltered : (RadioPacket.rf24 payload).Filtered json
            (if json.getInt (json.objectGetEx (json.parse (textOf payload.bytes)) (ascii "id")) = idRF24
              then [.publish ⟨.dataRf, textOf payload.bytes, QOS, 0⟩] else []) ↔
          ¬json.Converts (textOf payload.bytes) (ascii "id") idRF24 := by
        rw [← hexact, RadioPacket.Filtered, show (RadioPacket.rf24 payload).topic = .dataRf from rfl]
        by_cases hid : json.getInt (json.objectGetEx (json.parse (textOf payload.bytes)) (ascii "id")) = idRF24
        · simp [hid, payloadsOn, RadioPacket.text, RadioPacket.id]
        · simp [hid, payloadsOn, RadioPacket.text, RadioPacket.id]
      constructor
      · intro h
        exact ⟨_, hnext, hfiltered.mpr h⟩
      · intro h
        obtain ⟨next', hnext', hrule⟩ := h
        obtain rfl := Option.some.inj (hnext.symm.trans hnext')
        exact hfiltered.mp hrule

theorem explicit_receiveRadio {globals : RadioGlobals json} {packet : RadioPacket}
    {next : RadioGlobals json × List RadioOutput} (hexplicit : globals.modem.implicitHeader = false)
    (hstep : globals.receiveRadio packet = some next) : next.1.modem.implicitHeader = false := by
  cases packet with
  | lora packet =>
      have hsome : globals.receivePacket packet = some next := hstep
      obtain ⟨_, next', _, hnext', hkeeps, _⟩ | ⟨_, hundefined⟩ := receivePacket_published hexplicit packet
      · obtain rfl := Option.some.inj (hsome.symm.trans hnext')
        exact hkeeps
      · exact absurd (hundefined.symm.trans hsome) (by simp)
  | rf24 payload =>
      obtain ⟨next', hnext', hmodem, _⟩ := globals.receiveRf24_published payload
      obtain rfl := Option.some.inj (hnext'.symm.trans hstep)
      show next'.modem.implicitHeader = false
      rw [hmodem]
      exact hexplicit

end RadioGlobals

namespace UartGlobals

variable {json : JsonC}

/-- The read must leave a NUL in `msg`, and its id must not be a converted value. -/
def KeepsRule (json : JsonC) : SerialRead → Prop
  | .failed => True
  | .bytes received _ => (received.length < 50 ∨ 0 ∈ received) ∧
      (received.length > 41 → ¬json.Converts (textOf received) (ascii "id") idBlue)

theorem cString_received {received : List UInt8} {msg : Buffer 50}
    (hmsg : msg.bytes = overlay (Buffer.zero 50).bytes 0 received) :
    cString msg.bytes =
      if received.length < 50 ∨ 0 ∈ received then some (textOf received) else none := by
  have hfilled : msg.Filled received := Buffer.filled_iff_overlay.mpr hmsg
  exact hfilled.cString_eq_ite

/-- A read that leaves a NUL in `msg` is published as it is, when it is long and json-c reads the id. -/
theorem receiveSerial_published (globals : UartGlobals json) {received : List UInt8}
    (hlen : received.length ≤ 50) :
    if received.length < 50 ∨ 0 ∈ received then
      ∃ next, globals.receiveSerial (.bytes received hlen) =
        some (next, if received.length > 41 ∧ json.getInt (json.objectGetEx
            (json.parse (textOf received)) (ascii "id")) = idBlue
          then [⟨.dataBl, textOf received, QOS, 0⟩] else [])
    else globals.receiveSerial (.bytes received hlen) = none := by
  obtain ⟨msg, hwrite, hbytes⟩ := (Buffer.zero 50).exists_write 0 received (by omega)
  have htext := cString_received hbytes
  split
  · rename_i hterminated
    rw [if_pos hterminated] at htext
    unfold receiveSerial publishMess
    simp only [hwrite, htext, Option.bind_some, Option.map_some]
    split
    · rename_i hlong
      split
      · rename_i hid
        exact ⟨_, by rw [if_pos ⟨hlong, hid⟩]⟩
      · rename_i hid
        exact ⟨_, by rw [if_neg fun h => hid h.2]⟩
    · rename_i hshort
      exact ⟨_, by rw [if_neg fun h => hshort h.1]⟩
  · rename_i hterminated
    rw [if_neg hterminated] at htext
    unfold receiveSerial
    simp only [hwrite, htext, Option.bind_some, Option.bind_none]

theorem keepsRule_iff (globals : UartGlobals json) (read : SerialRead) :
    KeepsRule json read ↔
      ∃ next, globals.receiveSerial read = some next ∧ read.Filtered json next.2 := by
  cases read with
  | failed => exact ⟨fun _ => ⟨_, rfl, Or.inr ⟨rfl, id⟩⟩, fun _ => trivial⟩
  | bytes received hlen =>
      have hpublished := globals.receiveSerial_published hlen
      have hexact := json.getInt_eq_iff_hasInteger_iff (textOf received) (ascii "id")
        (show idBlue ≠ 0 by decide) (by decide) (by decide)
      by_cases hterminated : received.length < 50 ∨ 0 ∈ received
      · rw [if_pos hterminated] at hpublished
        obtain ⟨next, hnext⟩ := hpublished
        rw [hnext]
        simp only [KeepsRule, SerialRead.Filtered, SerialRead.Accepted, SerialRead.text, hterminated, true_and,
          Option.some.injEq, exists_eq_left', ← hexact]
        by_cases hlong : received.length > 41
        · by_cases hid : json.getInt (json.objectGetEx (json.parse (textOf received)) (ascii "id")) = idBlue
          · simp [hlong, hid]
          · simp [hlong, hid]
        · simp [hlong]
      · rw [if_neg hterminated] at hpublished
        rw [hpublished]
        simp [KeepsRule, hterminated]

end UartGlobals

/-- On every uplink and for every sequence of packets, the rule is kept exactly when each packet meets
its path's condition. -/
theorem published_iff_own_id (json : JsonC) :
    (∀ packets, Runs.Each RadioGlobals.receiveRadio
        (fun _ packet next => packet.Filtered json next.2) (RadioGlobals.init json) packets ↔
      Runs.Along RadioGlobals.receiveRadio RadioGlobals.KeepsRule (RadioGlobals.init json) packets) ∧
    ∀ reads, Runs.Each UartGlobals.receiveSerial
        (fun _ read next => read.Filtered json next.2) (UartGlobals.init json) reads ↔
      ∀ read ∈ reads, UartGlobals.KeepsRule json read := by
  refine ⟨fun packets => ?_, fun reads => ?_⟩
  · exact Runs.each_iff_along
      (J := fun globals : RadioGlobals json => globals.modem.implicitHeader = false)
      (fun globals packet hexplicit => RadioGlobals.keepsRule_iff hexplicit packet)
      (fun globals packet next hexplicit hstep =>
        RadioGlobals.explicit_receiveRadio hexplicit hstep) rfl packets
  · exact Runs.each_iff_forall_mem (fun read _ globals => globals.keepsRule_iff read) _

namespace RadioGlobals

/-- A packet that is not even JSON is published on `data_lora`. -/
theorem published_foreign_packet :
    ¬∀ (json : JsonC) (packets : List RadioPacket), Runs.Each receiveRadio
        (fun _ packet next => packet.Filtered json next.2) (init json) packets := by
  intro h
  obtain ⟨next, hnext, hfiltered, _⟩ := h rejecting [.lora (packetOf "hi" (by decide))]
  have hkeeps := (keepsRule_iff rfl _).mpr ⟨next, hnext, hfiltered⟩
  obtain ⟨value, hvalue, _⟩ := hkeeps.1
  exact absurd hvalue (by simp [rejecting, JsonC.objectGetEx])

end RadioGlobals

end LinuxGateway
