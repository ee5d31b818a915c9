import LinuxGateway.TcpServer

/-! The record of the Wi-Fi clients (`src/esp/sketch_nov05a/data.h`), a copy of the gateway's header
that kept other node kinds, other members of the union and other field widths, and what the gateway
reads in the bytes of such a record. Both sides are little-endian with natural alignment. -/

namespace LinuxGateway.Esp

open Bytes Layout

/-- `enum Node` in the sketch's header. -/
inductive Node where
  | kUart
  | kI2c
  | kUSB
  | kWifi
  deriving DecidableEq

namespace Node

def value : Node → ℕ
  | kUart => 0
  | kI2c => 1
  | kUSB => 2
  | kWifi => 3

def ofValue : ℕ → Option Node
  | 0 => some kUart
  | 1 => some kI2c
  | 2 => some kUSB
  | 3 => some kWifi
  | _ => none

/-- The enumerator of the gateway's header with the same name. -/
def sameName : Node → Option LinuxGateway.Node
  | kUart => some .kUart
  | kI2c => none
  | kUSB => none
  | kWifi => some .kWifi

theorem ofValue_eq_some {value : ℕ} {kind : Node} :
    ofValue value = some kind ↔ value = kind.value := by
  constructor
  · intro h
    unfold ofValue at h
    split at h <;> cases h <;> rfl
  · rintro rfl
    cases kind <;> rfl

/-- Only `kUart` has the same name and the same value in both headers. -/
theorem sameName_eq_ofValue (kind : Node) {name : LinuxGateway.Node} (h : kind.sameName = some name) :
    LinuxGateway.Node.ofValue kind.value = some name ↔ kind = kUart := by
  cases kind <;> cases h <;> decide

end Node

/-- The members of `union MSG` in the sketch's header. -/
inductive Member where
  | i2c
  | uart
  | usb
  | wifi
  deriving DecidableEq

def Member.fields : Member → List CType
  | i2c => [array char 2, array char 50]
  | uart => [array char 50]
  | usb => [array char 20, array char 50]
  | wifi => [array char 15, array char 20, array char 50]

def unionMSG : CType :=
  unionOf [structOf Member.i2c.fields, structOf Member.uart.fields, structOf Member.usb.fields,
    structOf Member.wifi.fields]

/-- `enum Node node; union MSG msg;` -/
def dataFields : List CType := [int32, unionMSG]

/-- `sizeof(data)` in the sketch. -/
def sizeofData : ℕ := (structOf dataFields).size

example : sizeofData = 92 := by decide

theorem sizeofData_le : sizeofData ≤ LinuxGateway.sizeofData := by decide

/-- The bytes of the sketch's `struct Data`: every value of every field, and of the padding. -/
abbrev Data := Buffer sizeofData

/-- The fields of `struct DataWifi`, which both headers declare in this order. -/
inductive WifiField where
  | ip
  | deviceName
  | msg
  deriving DecidableEq

def WifiField.index : WifiField → ℕ
  | ip => 0
  | deviceName => 1
  | msg => 2

namespace Data

def nodeOffset : ℕ := offsetOf dataFields 0

/-- Where `data.msg.wifi.<field>` starts. -/
def wifiOffset (field : WifiField) : ℕ :=
  offsetOf dataFields 1 + offsetOf Member.wifi.fields field.index

/-- `data.node`. -/
def node (record : Data) : Option Node :=
  Node.ofValue (ofLittleEndian ((record.bytes.drop nodeOffset).take int32.size))

/-- The string that starts at `data.msg.wifi.<field>`. -/
def wifi (record : Data) (field : WifiField) : Option (List UInt8) :=
  record.stringAt (wifiOffset field)

/-- `data.node = kind;` -/
def setNode (record : Data) (kind : Node) : Option Data :=
  record.write nodeOffset (littleEndian int32.size kind.value)

/-- `strcpy(data.msg.wifi.<field>, text);` -/
def strcpyWifi (record : Data) (field : WifiField) (text : List UInt8) : Option Data :=
  record.write (wifiOffset field) (text ++ [0])

/-! ### The record at the gateway -/

/-- What the gateway's `data` holds once `recv` has stored the record over it. -/
def seen (old : LinuxGateway.Data) (record : Data) : LinuxGateway.Data :=
  Server.storeChunk old ⟨record.bytes, record.length_eq.trans_le sizeofData_le⟩

/-- Where the gateway's `data.packet.wifi.<field>` starts. -/
def packetWifiOffset (field : WifiField) : ℕ :=
  LinuxGateway.Data.packetOffset + offsetOf LinuxGateway.Member.wifi.fields field.index

/-- The string that starts at the gateway's `data.packet.wifi.<field>`. -/
def packetWifi (data : LinuxGateway.Data) (field : WifiField) : Option (List UInt8) :=
  data.stringAt (packetWifiOffset field)

/-- Both sides name the kind of the record alike. -/
def SameKind (record : Data) (data : LinuxGateway.Data) : Prop :=
  ∃ kind name, record.node = some kind ∧ kind.sameName = some name ∧ data.node = some name

/-- The two sides agree on a record, whatever the gateway's variable held before. -/
structure Agrees (record : Data) (old : LinuxGateway.Data) : Prop where
  size : sizeofData = LinuxGateway.sizeofData
  kind : SameKind record (seen old record)
  strings : ∀ field, packetWifi (seen old record) field = record.wifi field

theorem bytes_seen (old : LinuxGateway.Data) (record : Data) :
    (seen old record).bytes = record.bytes ++ old.bytes.drop sizeofData := by
  show overlay old.bytes 0 record.bytes = _
  rw [overlay_zero, record.length_eq]

/-- The gateway looks up the same four bytes in its own enumeration. -/
theorem node_seen (old : LinuxGateway.Data) (record : Data) {kind : Node}
    (h : record.node = some kind) :
    (seen old record).node = LinuxGateway.Node.ofValue kind.value := by
  have hvalue := Node.ofValue_eq_some.mp h
  have hle : int32.size ≤ record.bytes.length := by
    rw [record.length_eq]
    decide
  rw [LinuxGateway.Data.node, bytes_seen, LinuxGateway.Data.nodeOffset_eq, List.drop_zero,
    List.take_append_of_le_length hle, ← hvalue]
  rfl

/-- The gateway's union starts at a multiple of eight, because of `dmsg`, and the sketch's does not. -/
theorem packetWifiOffset_eq (field : WifiField) : packetWifiOffset field = wifiOffset field + 4 := by
  cases field <;> decide

theorem wifiOffset_le (field : WifiField) : wifiOffset field + 4 ≤ sizeofData := by
  cases field <;> decide

/-- So the gateway's strings start four bytes into the sketch's fields. -/
theorem packetWifi_seen (old : LinuxGateway.Data) (record : Data) (field : WifiField) :
    packetWifi (seen old record) field =
      cString ((record.bytes.drop (wifiOffset field)).drop 4 ++ old.bytes.drop sizeofData) := by
  have hle : wifiOffset field + 4 ≤ record.bytes.length := by
    rw [record.length_eq]
    exact wifiOffset_le field
  rw [packetWifi, Buffer.stringAt, bytes_seen, packetWifiOffset_eq,
    List.drop_append_of_le_length hle, List.drop_drop]

/-- A text of four or more bytes reaches the gateway without its first four. -/
theorem packetWifi_seen_of_text (old : LinuxGateway.Data) (record : Data) {field : WifiField}
    {text : List UInt8} (htext : record.wifi field = some text) (hlen : 4 ≤ text.length) :
    packetWifi (seen old record) field = some (text.drop 4) := by
  obtain ⟨hno, rest, hrest⟩ := exists_of_cString htext
  have hdrop : NoNul (text.drop 4) := fun b hb => hno b (List.mem_of_mem_drop hb)
  rw [packetWifi_seen, hrest, List.drop_append_of_le_length hlen, List.append_assoc,
    List.cons_append]
  exact cString_terminated hdrop _

theorem sameKind_seen_iff (old : LinuxGateway.Data) (record : Data) :
    SameKind record (seen old record) ↔ record.node = some .kUart := by
  constructor
  · rintro ⟨kind, name, hkind, hname, hseen⟩
    rw [node_seen old record hkind] at hseen
    rw [hkind, (kind.sameName_eq_ofValue hname).mp hseen]
  · intro h
    exact ⟨.kUart, .kUart, h, rfl, node_seen old record h⟩

/-- No record reaches the gateway as it was sent. The sizes differ, of all kinds only `kUart` keeps
its name, and every string of four or more bytes loses its start. -/
theorem not_agrees (record : Data) (old : LinuxGateway.Data) :
    ¬ Agrees record old ∧
      (SameKind record (seen old record) ↔ record.node = some .kUart) ∧
      ∀ field text, record.wifi field = some text → 4 ≤ text.length →
        packetWifi (seen old record) field ≠ record.wifi field := by
  refine ⟨fun h => absurd h.size (by decide), sameKind_seen_iff old record, ?_⟩
  intro field text htext hlen hsame
  rw [packetWifi_seen_of_text old record htext hlen, htext] at hsame
  have hshort := congrArg List.length (Option.some.inj hsame)
  rw [List.length_drop] at hshort
  omega

/-- A Wi-Fi record as a sketch builds it: `data.node = kWifi;` and a `strcpy` for each string. -/
def wifiRecord (ip deviceName msg : List UInt8) : Option Data := do
  let record ← setNode (Buffer.zero sizeofData) .kWifi
  let record ← strcpyWifi record .ip ip
  let record ← strcpyWifi record .deviceName deviceName
  strcpyWifi record .msg msg

/-- The gateway takes this record for one of an SPI node, and reads 168.1.7 where 192.168.1.7 was
stored. -/
theorem wifiRecord_not_agrees :
    ∃ record, wifiRecord (ascii "192.168.1.7") (ascii "esp") (ascii "on") = some record ∧
      record.node = some .kWifi ∧
      (seen (Buffer.zero LinuxGateway.sizeofData) record).node = some .kSPI ∧
      record.wifi .ip = some (ascii "192.168.1.7") ∧
      packetWifi (seen (Buffer.zero LinuxGateway.sizeofData) record) .ip = some (ascii "168.1.7") ∧
      ¬ Agrees record (Buffer.zero LinuxGateway.sizeofData) := by
  refine ⟨(wifiRecord (ascii "192.168.1.7") (ascii "esp") (ascii "on")).get (by decide), by simp,
    by decide, by decide, by decide, by decide, ?_⟩
  intro h
  exact absurd h.size (by decide)

end Data

end LinuxGateway.Esp
