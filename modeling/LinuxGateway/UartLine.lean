import LinuxGateway.UartStream

/-! One line of the bluetooth node that arrives in one read. The service takes a read of more than 41
bytes for a message and reads into an array of 50 bytes that it does not terminate; how long a line is
depends only on how many characters the four numbers take. -/

namespace LinuxGateway

open Bytes Decimal

/-- What the sensors of the node can deliver: the DHT11 measures 0 to 50 degrees and 0 to 100 percent,
the converter at the gas sensor has 10 bits, and the pressure is any `int`. -/
structure BluetoothReading extends BluetoothMessage where
  temp_range : 0 ≤ valueTemp.toInt ∧ valueTemp.toInt ≤ 50
  hum_range : 0 ≤ valueHum.toInt ∧ valueHum.toInt ≤ 100
  gas_range : 0 ≤ valueGas.toInt ∧ valueGas.toInt ≤ 1023

/-- The number of characters that the four values take, the sign of the pressure included. -/
def BluetoothMessage.numerals (m : BluetoothMessage) : ℕ :=
  (itoa m.valueTemp.toInt).length + (itoa m.valueHum.toInt).length + (itoa m.valueGas.toInt).length +
    (itoa m.valuePres.toInt).length

theorem BluetoothMessage.length_line (m : BluetoothMessage) : m.line.length = 35 + m.numerals := by
  have hid : (itoa idNode).length = 2 := by decide
  have htexts : (ascii "\"id\":").length = 5 ∧ (ascii ",\"t\":\"").length = 6 ∧
      (ascii "\",\"h\":\"").length = 7 ∧ (ascii "\",\"g\":").length = 6 ∧
      (ascii ",\"p\":").length = 5 := by decide
  obtain ⟨hhead, htemp, hhum, hgas, hpres⟩ := htexts
  rw [line_eq, body, numerals]
  simp only [List.length_cons, List.length_append, List.length_nil]
  omega

namespace BluetoothReading

theorem length_line_le (reading : BluetoothReading) : reading.line.length ≤ 50 := by
  have htemp : (itoa reading.valueTemp.toInt).length ≤ 2 := by
    have hrange := reading.temp_range
    exact length_itoa_le_of_nonneg hrange.1 (by decide) (by omega)
  have hhum : (itoa reading.valueHum.toInt).length ≤ 3 := by
    have hrange := reading.hum_range
    exact length_itoa_le_of_nonneg hrange.1 (by decide) (by omega)
  have hgas : (itoa reading.valueGas.toInt).length ≤ 4 := by
    have hrange := reading.gas_range
    exact length_itoa_le_of_nonneg hrange.1 (by decide) (by omega)
  have hpres : (itoa reading.valuePres.toInt).length ≤ 6 := by
    have hhigh := reading.valuePres.toInt_lt
    have hlow := reading.valuePres.le_toInt
    exact length_itoa_le (by decide) (by omega)
  rw [BluetoothMessage.length_line, BluetoothMessage.numerals]
  omega

/-- The `read` that returns the whole line. -/
def read (reading : BluetoothReading) : SerialRead := .bytes reading.line reading.length_line_le

/-- The service publishes exactly the line. -/
def Published {json : JsonC} (reading : BluetoothReading) (globals : UartGlobals json) : Prop :=
  ∃ next, globals.receiveSerial reading.read = some (next, [⟨.dataBl, reading.line, QOS, 0⟩])

/-- A line that comes in one read is published if and only if its numbers take at least 7 and at most
14 characters. -/
theorem published_iff_numerals {json : JsonC} (hjson : ReadsMessages json) (reading : BluetoothReading)
    (globals : UartGlobals json) :
    reading.Published globals ↔ 7 ≤ reading.numerals ∧ reading.numerals ≤ 14 := by
  have hno : NoNul reading.line := reading.noNul_line
  have hlen : reading.line.length = 35 + reading.numerals := reading.length_line
  have hannounces : Announces json ([] ++ (reading.text ++ [13, 10])) :=
    announces_message hjson isLineEnd_nil reading.toBluetoothMessage
  have hpublished := globals.receiveSerial_published reading.length_line_le
  rw [textOf_of_noNul hno] at hpublished
  rw [Published, read]
  by_cases hroom : reading.line.length < 50
  · rw [if_pos (Or.inl hroom)] at hpublished
    obtain ⟨next, hnext⟩ := hpublished
    rw [hnext]
    by_cases hlong : reading.line.length > 41
    · rw [if_pos ⟨hlong, hannounces⟩]
      exact iff_of_true ⟨next, rfl⟩ (by omega)
    · rw [if_neg fun hboth => hlong hboth.1]
      exact iff_of_false (by simp) (by omega)
  · have hfull : ¬(reading.line.length < 50 ∨ 0 ∈ reading.line) :=
      fun hor => hor.elim hroom fun hmem => hno 0 hmem rfl
    rw [if_neg hfull] at hpublished
    rw [hpublished]
    exact iff_of_false (by simp) (by omega)

/-- 25 degrees, 60 percent, no gas and an unchanged pressure: 42 bytes. -/
def usual : BluetoothReading where
  valueTemp := 25
  valueHum := 60
  valueGas := 0
  valuePres := -1
  temp_range := by decide
  hum_range := by decide
  gas_range := by decide

theorem published_usual : usual.Published (UartGlobals.init messageReader) :=
  (published_iff_numerals readsMessages_messageReader usual _).mpr (by decide)

/-- Four values of one digit: 39 bytes. -/
def short : BluetoothReading where
  valueTemp := 5
  valueHum := 9
  valueGas := 0
  valuePres := 0
  temp_range := by decide
  hum_range := by decide
  gas_range := by decide

/-- Two, three and four digits and a pressure of six characters: 50 bytes. -/
def long : BluetoothReading where
  valueTemp := 25
  valueHum := 100
  valueGas := 1023
  valuePres := -20000
  temp_range := by decide
  hum_range := by decide
  gas_range := by decide

/-- A short line is dropped by the filter, and one of 50 bytes is not terminated. -/
theorem not_published_edges :
    ReadsMessages messageReader ∧ ¬short.Published (UartGlobals.init messageReader) ∧
      ¬long.Published (UartGlobals.init messageReader) := by
  refine ⟨readsMessages_messageReader, ?_, ?_⟩
  · rintro ⟨next, hnext⟩
    have hsilent : ((UartGlobals.init messageReader).receiveSerial short.read).map Prod.snd = some [] := by
      decide +kernel
    rw [hnext] at hsilent
    exact absurd hsilent (by simp)
  · rintro ⟨next, hnext⟩
    have hundefined : ((UartGlobals.init messageReader).receiveSerial long.read).isNone := by
      decide +kernel
    rw [hnext] at hundefined
    exact absurd hundefined (by simp)

end BluetoothReading

end LinuxGateway
