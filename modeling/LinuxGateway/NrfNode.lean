import LinuxGateway.Uplinks
import LinuxGateway.LibDecimal
import Mathlib.Data.List.Forall2

/-! The NRF node (`Node_RF24_V1.1.ino`) and the RF24 slot of the radio service. The node copies each
of its four messages into an array of 255 bytes and hands the whole array to the radio, which sends a
payload of 32 bytes; the longest messages take exactly that many. Temperature, humidity and pressure
are given in exact hundredths. The node keeps them in `float` variables: the rounding of a value to
binary32, and two pressures that differ as hundredths and compare equal as `float`, lie outside what is
modelled here. -/

namespace LinuxGateway

open Bytes Decimal

/-- `payload_size` of the RF24 library: static payloads of the largest size. -/
def payloadSize : ℕ := 32

/-- `data_len = rf24_min(data_len, payload_size)`: so many bytes of the buffer, then blanks up to the
size of a payload. -/
def writePayload {n : ℕ} (buf : Buffer n) : Buffer payloadSize where
  bytes := buf.bytes.take (min n payloadSize) ++ List.replicate (payloadSize - min n payloadSize) 0
  length_eq := by
    have hlen := buf.length_eq
    rw [List.length_append, List.length_take, List.length_replicate, hlen]
    omega

/-- What the sensors deliver in one pass of `loop`. -/
structure NrfReading where
  temp : ℤ
  hum : ℤ
  gas : BitVec 16
  pres : ℤ
  temp_range : -99999 ≤ temp ∧ temp ≤ 999999
  hum_range : -99999 ≤ hum ∧ hum ≤ 999999
  pres_range : 0 ≤ pres ∧ pres ≤ 99999999 ∨ pres = -100

/-- The globals of the node that outlive a pass. -/
structure NrfNode where
  data : Buffer 255
  valuePresTemp : ℤ

namespace NrfNode

def idNode : ℤ := 96

/-- `float valuePres_temp = -1; char data[255];` -/
def init : NrfNode := ⟨Buffer.zero 255, -100⟩

/-! ### The messages -/

/-- How every message begins. -/
def stringStart (type : ℤ) : List UInt8 :=
  ascii "\x7b\"id\":" ++ itoa idNode ++ ascii ",\"type\":" ++ itoa type

def tempMessage (valueTemp : ℤ) : List UInt8 :=
  stringStart 1 ++ ascii ",\"t\":\"" ++ fixed2 valueTemp ++ ascii "\"\x7d"

def humMessage (valueHum : ℤ) : List UInt8 :=
  stringStart 2 ++ ascii ",\"h\":\"" ++ fixed2 valueHum ++ ascii "\"\x7d"

def gasMessage (valueGas : BitVec 16) : List UInt8 :=
  stringStart 3 ++ ascii ",\"g\":" ++ itoa valueGas.toInt ++ ascii "\x7d"

def presMessage (valuePres : ℤ) : List UInt8 :=
  stringStart 4 ++ ascii ",\"p\":" ++ fixed2 valuePres ++ ascii "\x7d"

/-- `if (valuePres_temp == valuePres) valuePres = -1;` -/
def reportedPres (valuePresTemp valuePres : ℤ) : ℤ :=
  if valuePresTemp = valuePres then -100 else valuePres

/-- `else valuePres_temp = valuePres;` -/
def remember (node : NrfNode) (valuePres : ℤ) : NrfNode :=
  if node.valuePresTemp = valuePres then node else { node with valuePresTemp := valuePres }

/-- The values of `stringData` in one pass of `loop`. -/
def messages (valuePresTemp : ℤ) (reading : NrfReading) : List (List UInt8) :=
  [tempMessage reading.temp, humMessage reading.hum, gasMessage reading.gas,
    presMessage (reportedPres valuePresTemp reading.pres)]

/-- The texts that the node sends for a sequence of readings. A pressure that differs from the one
before is remembered, so what is remembered is always the last reading. -/
def texts : ℤ → List NrfReading → List (List UInt8)
  | _, [] => []
  | valuePresTemp, reading :: readings => messages valuePresTemp reading ++ texts reading.pres readings

/-! ### Node and gateway -/

/-- `stringData.toCharArray(data, sizeof(data))`: what fits, and a NUL behind it. -/
def toCharArray (data : Buffer 255) (stringData : List UInt8) : Option (Buffer 255) :=
  data.write 0 (stringData.take 254 ++ [0])

/-- `toCharArray`, `radio.write(&data, sizeof(data))` and the `memset` behind it. -/
def transmit (node : NrfNode) (stringData : List UInt8) : Option (NrfNode × Buffer payloadSize) :=
  (toCharArray node.data stringData).map fun data =>
    ({ node with data := Buffer.fill 255 0 }, writePayload data)

section Link

variable {json : JsonC}

/-- One message from the node to the gateway. The output is what `nrfbuff` then holds. -/
def sendMessage : Runs.Step (NrfNode × RadioGlobals json) (List UInt8) (Buffer 50) :=
  fun state stringData =>
    (state.1.transmit stringData).bind fun sent =>
      (state.2.receiveRf24 sent.2).map fun next => ((sent.1, next.1), [next.1.nrfbuff])

/-- One pass of `loop`, its messages received one after the other. -/
def loop : Runs.Step (NrfNode × RadioGlobals json) NrfReading (Buffer 50) := fun state reading =>
  Runs.run sendMessage (state.1.remember reading.pres, state.2)
    (messages state.1.valuePresTemp reading)

end Link

/-! ### Lengths -/

/-- A text that a payload can carry. -/
def Carried (stringData : List UInt8) : Prop := NoNul stringData ∧ stringData.length ≤ payloadSize

theorem length_stringStart {type : ℤ} (hlow : 0 ≤ type) (hhigh : type ≤ 9) :
    (stringStart type).length ≤ 17 := by
  have htype : (itoa type).length ≤ 1 := length_itoa_le_of_nonneg hlow (by decide) (by omega)
  have htexts : (ascii "\x7b\"id\":").length = 6 ∧ (itoa idNode).length = 2 ∧
      (ascii ",\"type\":").length = 8 := by decide
  simp only [stringStart, List.length_append]
  omega

theorem noNul_stringStart (type : ℤ) : NoNul (stringStart type) :=
  noNul_append (noNul_append (noNul_append (by decide) (noNul_itoa _)) (by decide)) (noNul_itoa _)

/-- A message is its start, the name of its field, its number and its end. -/
theorem carried_message {type : ℤ} (hlow : 0 ≤ type) (hhigh : type ≤ 9) {name number last : List UInt8}
    (hname : NoNul name) (hnumber : NoNul number) (hlast : NoNul last)
    (hlen : name.length + number.length + last.length ≤ 15) :
    Carried (stringStart type ++ name ++ number ++ last) := by
  refine ⟨noNul_append (noNul_append (noNul_append (noNul_stringStart type) hname) hnumber) hlast, ?_⟩
  have hstart := length_stringStart hlow hhigh
  simp only [List.length_append, payloadSize]
  omega

theorem length_fixed2_of_range {value : ℤ} (hrange : -99999 ≤ value ∧ value ≤ 999999) :
    (fixed2 value).length ≤ 7 := by
  by_cases hneg : value < 0
  · have hlen := length_fixed2_le (e := 3) (by decide) (show value.natAbs / 100 < 10 ^ 3 by omega)
    rwa [if_pos hneg] at hlen
  · have hlen := length_fixed2_le (e := 4) (by decide) (show value.natAbs / 100 < 10 ^ 4 by omega)
    rwa [if_neg hneg] at hlen

theorem length_fixed2_pres {value : ℤ} (hrange : 0 ≤ value ∧ value ≤ 99999999 ∨ value = -100) :
    (fixed2 value).length ≤ 9 := by
  rcases hrange with hrange | rfl
  · have hlen := length_fixed2_le (e := 6) (by decide) (show value.natAbs / 100 < 10 ^ 6 by omega)
    rwa [if_neg (by omega)] at hlen
  · decide

theorem reportedPres_range (valuePresTemp : ℤ) (reading : NrfReading) :
    0 ≤ reportedPres valuePresTemp reading.pres ∧ reportedPres valuePresTemp reading.pres ≤ 99999999 ∨
      reportedPres valuePresTemp reading.pres = -100 := by
  rw [reportedPres]
  split
  · exact Or.inr rfl
  · exact reading.pres_range

/-- Every message of a pass fits a payload. -/
theorem carried_messages (valuePresTemp : ℤ) (reading : NrfReading) :
    ∀ stringData ∈ messages valuePresTemp reading, Carried stringData := by
  have htemp := length_fixed2_of_range reading.temp_range
  have hhum := length_fixed2_of_range reading.hum_range
  have hgas : (itoa reading.gas.toInt).length ≤ 6 := by
    have hhigh := reading.gas.toInt_lt
    have hlow := reading.gas.le_toInt
    exact length_itoa_le (by decide) (by omega)
  have hpres := length_fixed2_pres (reportedPres_range valuePresTemp reading)
  have htexts : (ascii ",\"t\":\"").length = 6 ∧ (ascii ",\"h\":\"").length = 6 ∧
      (ascii ",\"g\":").length = 5 ∧ (ascii ",\"p\":").length = 5 ∧ (ascii "\"\x7d").length = 2 ∧
      (ascii "\x7d").length = 1 := by decide
  simp only [messages, List.forall_mem_cons, List.not_mem_nil, false_imp_iff, implies_true, and_true]
  refine ⟨?_, ?_, ?_, ?_⟩
  · exact carried_message (by decide) (by decide) (by decide) (noNul_fixed2 _) (by decide) (by omega)
  · exact carried_message (by decide) (by decide) (by decide) (noNul_fixed2 _) (by decide) (by omega)
  · exact carried_message (by decide) (by decide) (by decide) (noNul_itoa _) (by decide) (by omega)
  · exact carried_message (by decide) (by decide) (by decide) (noNul_fixed2 _) (by decide) (by omega)

/-! ### What arrives -/

/-- The buffer of the gateway holds the text as a string, and zeros behind it. -/
def Arrived (nrfbuff : Buffer 50) (stringData : List UInt8) : Prop :=
  nrfbuff.Filled stringData ∧ cString nrfbuff.bytes = some stringData

theorem toCharArray_filled {data : Buffer 255} (hdata : data.Filled []) {stringData : List UInt8}
    (hlen : stringData.length ≤ 254) :
    ∃ result, toCharArray data stringData = some result ∧ result.Filled stringData := by
  have hfits : 0 + (stringData ++ [0]).length ≤ 255 := by
    rw [List.length_append, List.length_singleton]
    omega
  obtain ⟨result, hresult, hbytes⟩ := data.exists_write 0 (stringData ++ [0]) hfits
  refine ⟨result, ?_, ?_⟩
  · rw [toCharArray, List.take_of_length_le hlen]
    exact hresult
  · rw [Buffer.Filled, hbytes, overlay_zero, hdata, List.nil_append, List.drop_replicate,
      List.append_assoc, List.length_append, List.length_singleton, List.singleton_append,
      ← List.replicate_succ]
    congr 2
    rw [List.length_nil]
    omega

theorem writePayload_filled {data : Buffer 255} {stringData : List UInt8} (hdata : data.Filled stringData)
    (hlen : stringData.length ≤ payloadSize) : (writePayload data).Filled stringData := by
  have hmin : min 255 payloadSize = payloadSize := by decide
  have htake : payloadSize - stringData.length ≤ 255 - stringData.length := by
    rw [payloadSize]
    omega
  show data.bytes.take (min 255 payloadSize) ++ List.replicate (payloadSize - min 255 payloadSize) 0 = _
  rw [hmin, Nat.sub_self, List.replicate_zero, List.append_nil, hdata, List.take_append,
    List.take_of_length_le hlen, List.take_replicate, Nat.min_eq_left htake]

/-- What a payload carries arrives as it is. -/
theorem receiveRf24_arrived {json : JsonC} (globals : RadioGlobals json) {payload : Buffer payloadSize}
    {stringData : List UInt8} (hpayload : payload.Filled stringData) (hno : NoNul stringData) :
    ∃ next, globals.receiveRf24 payload = some next ∧ Arrived next.1.nrfbuff stringData := by
  have hlen := hpayload.length_le
  rw [payloadSize] at hlen
  obtain ⟨next, hnext, _, hread, _⟩ := globals.receiveRf24_published payload
  have hfilled : next.nrfbuff.Filled stringData := by
    rw [Buffer.Filled, hread, payload.length_eq, hpayload, List.append_assoc,
      List.replicate_append_replicate]
    congr 2
    rw [payloadSize]
    omega
  refine ⟨_, hnext, hfilled, ?_⟩
  rw [hfilled.cString_eq_ite, if_pos (Or.inl (by omega)), textOf_of_noNul hno]

theorem remember_spec (node : NrfNode) (valuePres : ℤ) :
    (node.remember valuePres).valuePresTemp = valuePres ∧ (node.remember valuePres).data = node.data := by
  rw [remember]
  split
  · rename_i hsame
    exact ⟨hsame, rfl⟩
  · exact ⟨rfl, rfl⟩

section Link

variable {json : JsonC}

/-- One message: it arrives, and the node's array is clear again. -/
theorem sendMessage_arrived {state : NrfNode × RadioGlobals json} (hdata : state.1.data.Filled [])
    {stringData : List UInt8} (h : Carried stringData) :
    ∃ next nrfbuff, sendMessage state stringData = some (next, [nrfbuff]) ∧
      (next.1.data.Filled [] ∧ next.1.valuePresTemp = state.1.valuePresTemp) ∧
      Arrived nrfbuff stringData := by
  have hlen : stringData.length ≤ 254 := h.2.trans (by decide)
  obtain ⟨data, hcopied, hfilled⟩ := toCharArray_filled hdata hlen
  obtain ⟨next, hnext, harrived⟩ :=
    receiveRf24_arrived state.2 (writePayload_filled hfilled h.2) h.1
  refine ⟨({ state.1 with data := Buffer.fill 255 0 }, next.1), next.1.nrfbuff, ?_, ⟨rfl, rfl⟩, harrived⟩
  rw [sendMessage, transmit, hcopied, Option.map_some, Option.bind_some, hnext]
  rfl

/-- One pass of `loop`: its four messages arrive one after the other. -/
theorem loop_arrived {state : NrfNode × RadioGlobals json} (hdata : state.1.data.Filled [])
    (reading : NrfReading) :
    ∃ next, loop state reading = some next ∧
      (next.1.1.data.Filled [] ∧ next.1.1.valuePresTemp = reading.pres) ∧
      List.Forall₂ Arrived next.2 (messages state.1.valuePresTemp reading) := by
  have hsteps : ∀ between : NrfNode × RadioGlobals json,
      ∀ stringData ∈ messages state.1.valuePresTemp reading,
      (between.1.data.Filled [] ∧ between.1.valuePresTemp = reading.pres) →
        ∃ next nrfbuff, sendMessage between stringData = some (next, [nrfbuff]) ∧
          (next.1.data.Filled [] ∧ next.1.valuePresTemp = reading.pres) ∧ Arrived nrfbuff stringData := by
    intro between stringData hmem hbetween
    obtain ⟨next, nrfbuff, hnext, ⟨hclear, hkept⟩, harrived⟩ :=
      sendMessage_arrived hbetween.1 (carried_messages _ _ stringData hmem)
    exact ⟨next, nrfbuff, hnext, ⟨hclear, hkept.trans hbetween.2⟩, harrived⟩
  obtain ⟨hremembers, hsame⟩ := remember_spec state.1 reading.pres
  exact Runs.exists_run_forall₂ hsteps (s := (state.1.remember reading.pres, state.2))
    ⟨hsame ▸ hdata, hremembers⟩

/-- A whole sequence of readings, from any remembered pressure. -/
theorem run_arrived {state : NrfNode × RadioGlobals json} (hdata : state.1.data.Filled [])
    (readings : List NrfReading) :
    ∃ result, Runs.run loop state readings = some result ∧
      List.Forall₂ Arrived result.2 (texts state.1.valuePresTemp readings) := by
  induction readings generalizing state with
  | nil => exact ⟨(state, []), rfl, List.Forall₂.nil⟩
  | cons reading readings ih =>
      obtain ⟨next, hnext, ⟨hclear, hkept⟩, hfirst⟩ := loop_arrived hdata reading
      obtain ⟨result, hresult, hrest⟩ := ih hclear
      rw [hkept] at hrest
      exact ⟨(result.1, next.2 ++ result.2),
        Runs.run_cons_eq_some.mpr ⟨next, result, hnext, hresult, rfl⟩, List.rel_append hfirst hrest⟩

/-- Whatever the readings are and whatever the gateway did before, each message of the node arrives
whole, and with nothing behind it. -/
theorem messages_arrive (globals : RadioGlobals json) (readings : List NrfReading) :
    ∃ result, Runs.run loop (init, globals) readings = some result ∧
      List.Forall₂ Arrived result.2 (texts init.valuePresTemp readings) :=
  run_arrived (Buffer.filled_zero 255) readings

end Link

end NrfNode

end LinuxGateway
