import LinuxGateway.LibBytes
import LinuxGateway.LibLayout

/-! The record that the radio, serial and bus clients send to the gateway (`src/common/data.h`). It
travels as the bytes of `struct Data`, so the model keeps the bytes: a field is an offset computed
from the declarations, and writing or reading a field writes or reads there. -/

namespace LinuxGateway

open Bytes Layout

/-- `enum Node`. -/
inductive Node where
  | kUart
  | kLora
  | kNRF
  | kSPI
  | kWifi
  deriving DecidableEq

namespace Node

/-- The value of an enumerator. -/
def value : Node → ℕ
  | kUart => 0
  | kLora => 1
  | kNRF => 2
  | kSPI => 3
  | kWifi => 4

/-- The enumerator with a value; a `switch` on any other value takes no case. -/
def ofValue : ℕ → Option Node
  | 0 => some kUart
  | 1 => some kLora
  | 2 => some kNRF
  | 3 => some kSPI
  | 4 => some kWifi
  | _ => none

end Node

/-- The members of `union MSG`. -/
inductive Member where
  | nrf
  | uart
  | lora
  | wifi
  deriving DecidableEq

namespace Member

/-- The fields of the member's struct, in the order of the declaration. -/
def fields : Member → List CType
  | nrf => [array char 2, array char 255]
  | uart => [array char 255, double]
  | lora => [array char 20, array char 255]
  | wifi => [array char 15, array char 20, array char 255]

/-- The number of the field `msg` in the member's struct. -/
def msgIndex : Member → ℕ
  | nrf => 1
  | uart => 0
  | lora => 1
  | wifi => 2

end Member

def unionMSG : CType :=
  unionOf [structOf Member.nrf.fields, structOf Member.uart.fields, structOf Member.lora.fields,
    structOf Member.wifi.fields]

/-- `enum Node node; union MSG packet;` -/
def dataFields : List CType := [int32, unionMSG]

/-- `sizeof(struct Data)`. -/
def sizeofData : ℕ := (structOf dataFields).size

theorem sizeofData_eq : sizeofData = 304 := by decide

/-- The bytes of a `struct Data`. -/
abbrev Data := Buffer sizeofData

namespace Data

def nodeOffset : ℕ := offsetOf dataFields 0

def packetOffset : ℕ := offsetOf dataFields 1

/-- Where `packet.<member>.msg` starts. -/
def msgOffset (member : Member) : ℕ := packetOffset + offsetOf member.fields member.msgIndex

theorem nodeOffset_eq : nodeOffset = 0 := by decide

/-- `sizeof(data.packet.<member>.msg)`. -/
def msgSize (member : Member) : ℕ := (member.fields.getD member.msgIndex char).size

theorem msgSize_eq (member : Member) : msgSize member = 255 := by cases member <;> rfl

/-- The bytes of `data.packet.<member>.msg`. -/
def msgField (data : Data) (member : Member) : List UInt8 :=
  (data.bytes.drop (msgOffset member)).take (msgSize member)

/-- `data.node`. -/
def node (data : Data) : Option Node :=
  Node.ofValue (ofLittleEndian ((data.bytes.drop nodeOffset).take int32.size))

/-- The string that starts at `data.packet.<member>.msg`. -/
def msg (data : Data) (member : Member) : Option (List UInt8) := data.stringAt (msgOffset member)

/-- `data.node = node;` -/
def setNode (data : Data) (node : Node) : Option Data :=
  data.write nodeOffset (littleEndian int32.size node.value)

/-- `strcpy(data.packet.<member>.msg, text);` -/
def strcpyMsg (data : Data) (member : Member) (text : List UInt8) : Option Data :=
  data.write (msgOffset member) (text ++ [0])

/-- A sender stores its node kind and its text in the global record that it sends. -/
def fill (data : Data) (node : Node) (member : Member) (text : List UInt8) : Option Data :=
  (data.setNode node).bind fun tagged => tagged.strcpyMsg member text

/-- `data.node = kLora; strcpy(data.packet.lora.msg, text);` -/
def fillLora (data : Data) (text : List UInt8) : Option Data := data.fill .kLora .lora text

/-- `data.node = kNRF; strcpy(data.packet.nrf.msg, text);` -/
def fillNRF (data : Data) (text : List UInt8) : Option Data := data.fill .kNRF .nrf text

/-! ### What a filled record holds -/

/-- The bytes of the record once the node kind is stored. -/
def taggedBytes (data : Data) (node : Node) : List UInt8 :=
  overlay data.bytes nodeOffset (littleEndian int32.size node.value)

theorem length_taggedBytes (data : Data) (node : Node) :
    (data.taggedBytes node).length = sizeofData := by
  rw [taggedBytes, length_overlay (by rw [length_littleEndian, data.length_eq]; decide), data.length_eq]

theorem take_taggedBytes (data : Data) (node : Node) :
    (data.taggedBytes node).take int32.size = littleEndian int32.size node.value := by
  have hlen := length_littleEndian int32.size node.value
  rw [taggedBytes, nodeOffset_eq, overlay_zero, List.take_append_of_le_length (by rw [hlen]),
    List.take_of_length_le (by rw [hlen])]

theorem drop_taggedBytes (data : Data) (node : Node) :
    (data.taggedBytes node).drop packetOffset = data.bytes.drop packetOffset := by
  apply drop_overlay_of_ge
  · rw [length_littleEndian]
    decide
  · rw [nodeOffset_eq]
    exact Nat.zero_le _

theorem ofValue_littleEndian (node : Node) :
    Node.ofValue (ofLittleEndian (littleEndian int32.size node.value)) = some node := by
  cases node <;> rfl

theorem msgOffset_bounds (member : Member) :
    int32.size ≤ msgOffset member ∧ packetOffset ≤ msgOffset member ∧
      msgOffset member + 255 ≤ sizeofData := by
  cases member <;> decide

example : [Member.uart, .nrf, .lora, .wifi].map msgOffset = [8, 10, 28, 43] := by decide

theorem fill_eq_some (data : Data) (node : Node) (member : Member) {text : List UInt8}
    (hlen : text.length ≤ 254) :
    ∃ record, data.fill node member text = some record ∧
      record.bytes = overlay (data.taggedBytes node) (msgOffset member) (text ++ [0]) := by
  have htag : nodeOffset + (littleEndian int32.size node.value).length ≤ sizeofData := by
    rw [length_littleEndian]
    decide
  obtain ⟨tagged, htagged, htaggedBytes⟩ := data.exists_write _ _ htag
  have hwrite : msgOffset member + (text ++ [0]).length ≤ sizeofData := by
    have hmsg := (msgOffset_bounds member).2.2
    rw [List.length_append, List.length_singleton]
    omega
  obtain ⟨record, hrecord, hbytes⟩ := tagged.exists_write _ _ hwrite
  refine ⟨record, by rw [fill, setNode, htagged]; exact hrecord, ?_⟩
  rw [hbytes, htaggedBytes, taggedBytes]

section Filled

variable {data record : Data} {node : Node} {member : Member} {text : List UInt8}
  (hbytes : record.bytes = overlay (data.taggedBytes node) (msgOffset member) (text ++ [0]))

include hbytes

theorem node_of_fill : record.node = some node := by
  obtain ⟨hnode, _, hmsg⟩ := msgOffset_bounds member
  have hle : msgOffset member ≤ (data.taggedBytes node).length := by
    rw [length_taggedBytes]
    omega
  rw [Data.node, hbytes, nodeOffset_eq, List.drop_zero, take_overlay hnode hle, take_taggedBytes,
    ofValue_littleEndian]

/-- From the start of the union on: what was there before the text, then the text. -/
theorem drop_packet_of_fill :
    ∃ rest, record.bytes.drop packetOffset =
      (data.bytes.drop packetOffset).take (msgOffset member - packetOffset) ++ (text ++ 0 :: rest) := by
  obtain ⟨_, hpacket, hmsg⟩ := msgOffset_bounds member
  have hle : msgOffset member ≤ (data.taggedBytes node).length := by
    rw [length_taggedBytes]
    omega
  refine ⟨(data.taggedBytes node).drop (msgOffset member + (text ++ [0]).length), ?_⟩
  rw [hbytes, drop_overlay_of_le hpacket hle, drop_taggedBytes, List.append_assoc,
    List.singleton_append]

/-- Through the member it was stored in, a text reads back. -/
theorem msg_of_fill (hno : NoNul text) : record.msg member = some text := by
  obtain ⟨_, _, hmsg⟩ := msgOffset_bounds member
  have hle : msgOffset member ≤ (data.taggedBytes node).length := by
    rw [length_taggedBytes]
    omega
  rw [msg, Buffer.stringAt, hbytes, drop_overlay_self hle, List.append_assoc, List.singleton_append]
  exact cString_terminated hno _

/-- The text and the NUL behind it are in the field. -/
theorem zero_mem_msgField_of_fill (hlen : text.length ≤ 254) : 0 ∈ record.msgField member := by
  obtain ⟨_, _, hmsg⟩ := msgOffset_bounds member
  have hle : msgOffset member ≤ (data.taggedBytes node).length := by
    rw [length_taggedBytes]
    omega
  have hfits : (text ++ [0]).length ≤ msgSize member := by
    rw [msgSize_eq, List.length_append, List.length_singleton]
    omega
  rw [msgField, hbytes, drop_overlay_self hle, List.take_append, List.take_of_length_le hfits]
  simp

/-- A byte that is neither in `node` nor in the field `msg` keeps its value. -/
theorem getElem?_of_fill (hlen : text.length ≤ 254) {i : ℕ}
    (hnode : i < nodeOffset ∨ nodeOffset + int32.size ≤ i)
    (hmsg : i < msgOffset member ∨ msgOffset member + msgSize member ≤ i) :
    record.bytes[i]? = data.bytes[i]? := by
  have htag := length_taggedBytes data node
  have hfits : (text ++ [0]).length ≤ msgSize member := by
    rw [msgSize_eq, List.length_append, List.length_singleton]
    omega
  have hbound := (msgOffset_bounds member).2.2
  rw [msgSize_eq] at hfits
  rw [hbytes, getElem?_overlay_of_outside (by omega) (hmsg.imp_right fun h => by rw [msgSize_eq] at h; omega),
    taggedBytes, getElem?_overlay_of_outside _ (by rw [length_littleEndian]; exact hnode)]
  rw [length_littleEndian, data.length_eq]
  decide

end Filled

end Data

end LinuxGateway
