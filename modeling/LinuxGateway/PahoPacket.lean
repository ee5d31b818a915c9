import LinuxGateway.LibBytes

/-! The packets of the MQTT client library (`MQTTPacket.c`, `MQTTPacketOut.c`) for the versions of the
protocol before 5, which have no properties: the bytes that the `MQTTPacket_send_…` functions hand to the
socket, and the functions of the table `new_packets`, which take packets apart. A packet is a header
byte, the length of the rest in digits of seven bits, and the rest. The functions of the table read
numbers without a look at the end of the data; such a read behind the end is undefined and `none`. -/

namespace LinuxGateway.Paho

open Bytes

/-! ### The header byte -/

/-- `enum msgTypes`. -/
inductive MsgType where
  | CONNECT
  | CONNACK
  | PUBLISH
  | PUBACK
  | PUBREC
  | PUBREL
  | PUBCOMP
  | SUBSCRIBE
  | SUBACK
  | UNSUBSCRIBE
  | UNSUBACK
  | PINGREQ
  | PINGRESP
  | DISCONNECT
  | AUTH
  deriving DecidableEq

def MsgType.code : MsgType → ℕ
  | CONNECT => 1
  | CONNACK => 2
  | PUBLISH => 3
  | PUBACK => 4
  | PUBREC => 5
  | PUBREL => 6
  | PUBCOMP => 7
  | SUBSCRIBE => 8
  | SUBACK => 9
  | UNSUBSCRIBE => 10
  | UNSUBACK => 11
  | PINGREQ => 12
  | PINGRESP => 13
  | DISCONNECT => 14
  | AUTH => 15

/-- The type with a code; there is none with the code zero. -/
def MsgType.ofCode : ℕ → Option MsgType
  | 1 => some CONNECT
  | 2 => some CONNACK
  | 3 => some PUBLISH
  | 4 => some PUBACK
  | 5 => some PUBREC
  | 6 => some PUBREL
  | 7 => some PUBCOMP
  | 8 => some SUBSCRIBE
  | 9 => some SUBACK
  | 10 => some UNSUBSCRIBE
  | 11 => some UNSUBACK
  | 12 => some PINGREQ
  | 13 => some PINGRESP
  | 14 => some DISCONNECT
  | 15 => some AUTH
  | _ => none

theorem MsgType.ofCode_code (type : MsgType) : ofCode type.code = some type := by
  cases type <;> rfl

/-- The union `Header` after assignments to its bit fields, which keep the low bits of what they get. -/
def Header (type : MsgType) (dup qos retain : ℕ) : UInt8 :=
  UInt8.ofNat (retain % 2 + 2 * (qos % 4) + 8 * (dup % 2) + 16 * type.code)

def headerType (header : UInt8) : ℕ := header.toNat / 16

def headerDup (header : UInt8) : ℕ := header.toNat / 8 % 2

def headerQos (header : UInt8) : ℕ := header.toNat / 2 % 4

def headerRetain (header : UInt8) : ℕ := header.toNat % 2

theorem toNat_header (type : MsgType) (dup qos retain : ℕ) :
    (Header type dup qos retain).toNat = retain % 2 + 2 * (qos % 4) + 8 * (dup % 2) + 16 * type.code := by
  have hcode : type.code ≤ 15 := by cases type <;> decide
  rw [Header, UInt8.toNat_ofNat']
  omega

@[simp] theorem headerType_header (type : MsgType) (dup qos retain : ℕ) :
    headerType (Header type dup qos retain) = type.code := by
  rw [headerType, toNat_header]
  omega

@[simp] theorem headerDup_header (type : MsgType) (dup qos retain : ℕ) :
    headerDup (Header type dup qos retain) = dup % 2 := by
  rw [headerDup, toNat_header]
  omega

@[simp] theorem headerQos_header (type : MsgType) (dup qos retain : ℕ) :
    headerQos (Header type dup qos retain) = qos % 4 := by
  rw [headerQos, toNat_header]
  omega

@[simp] theorem headerRetain_header (type : MsgType) (dup qos retain : ℕ) :
    headerRetain (Header type dup qos retain) = retain % 2 := by
  rw [headerRetain, toNat_header]
  omega

/-! ### Numbers and strings -/

/-- The loop of `MQTTPacket_encode`. -/
def MQTTPacketEncode (length : ℕ) : List UInt8 :=
  let d := UInt8.ofNat (length % 128)
  if 0 < length / 128 then (d ||| 0x80) :: MQTTPacketEncode (length / 128) else [d]
termination_by length
decreasing_by omega

/-- `writeInt`: the two low bytes, the high one first. -/
def writeInt (anInt : ℕ) : List UInt8 := [UInt8.ofNat (anInt / 256), UInt8.ofNat (anInt % 256)]

/-- `readInt`, with the rest of the data behind the number. -/
def readInt : List UInt8 → Option (ℕ × List UInt8)
  | high :: low :: rest => some (256 * high.toNat + low.toNat, rest)
  | [_] => none
  | [] => none

/-- `readChar`. -/
def readChar : List UInt8 → Option (UInt8 × List UInt8)
  | c :: rest => some (c, rest)
  | [] => none

/-- `readUTFlen`, which does check the end of the data; `none` is its null pointer. -/
def readUTFlen (data : List UInt8) : Option (List UInt8 × List UInt8) :=
  match readInt data with
  | some (len, rest) => if len ≤ rest.length then some (rest.take len, rest.drop len) else none
  | none => none

/-- `writeUTF` of a C string. -/
def writeUTF (string : List UInt8) : List UInt8 :=
  writeInt (textOf string).length ++ textOf string

/-- `writeData`. -/
def writeData (data : List UInt8) : List UInt8 := writeInt data.length ++ data

@[simp] theorem length_writeInt (anInt : ℕ) : (writeInt anInt).length = 2 := rfl

theorem readInt_writeInt {anInt : ℕ} (h : anInt < 65536) (rest : List UInt8) :
    readInt (writeInt anInt ++ rest) = some (anInt, rest) := by
  have hhigh : (UInt8.ofNat (anInt / 256)).toNat = anInt / 256 := by
    rw [UInt8.toNat_ofNat']
    omega
  have hlow : (UInt8.ofNat (anInt % 256)).toNat = anInt % 256 := by
    rw [UInt8.toNat_ofNat']
    omega
  change some (256 * (UInt8.ofNat (anInt / 256)).toNat + (UInt8.ofNat (anInt % 256)).toNat, rest) = _
  rw [hhigh, hlow, Nat.div_add_mod]

theorem readUTFlen_writeData {data : List UInt8} (h : data.length < 65536) (rest : List UInt8) :
    readUTFlen (writeData data ++ rest) = some (data, rest) := by
  have hle : data.length ≤ (data ++ rest).length := by
    rw [List.length_append]
    exact Nat.le_add_right _ _
  rw [readUTFlen, writeData, List.append_assoc, readInt_writeInt h]
  dsimp only
  rw [if_pos hle, List.take_left, List.drop_left]

/-! ### Digits of seven bits -/

/-- `bytes` is a numeral of `n`: every digit but the last has its top bit set, the low digits first. -/
inductive Numeral : List UInt8 → ℕ → Prop
  | last {c : UInt8} (h : c &&& 128 = 0) : Numeral [c] (c &&& 127).toNat
  | more {c : UInt8} {bytes : List UInt8} {n : ℕ} (h : c &&& 128 ≠ 0) (hrest : Numeral bytes n) :
      Numeral (c :: bytes) ((c &&& 127).toNat + 128 * n)

theorem digit_last {d : ℕ} (hd : d < 128) :
    (UInt8.ofNat d &&& 127).toNat = d ∧ UInt8.ofNat d &&& 128 = 0 := by
  have hall : ∀ d : Fin 128, (UInt8.ofNat d &&& 127).toNat = d ∧ UInt8.ofNat d &&& 128 = 0 := by decide
  exact hall ⟨d, hd⟩

theorem digit_more {d : ℕ} (hd : d < 128) :
    ((UInt8.ofNat d ||| 0x80) &&& 127).toNat = d ∧ (UInt8.ofNat d ||| 0x80) &&& 128 ≠ 0 := by
  have hall : ∀ d : Fin 128, ((UInt8.ofNat d ||| 0x80) &&& 127).toNat = d ∧
      (UInt8.ofNat d ||| 0x80) &&& 128 ≠ 0 := by decide
  exact hall ⟨d, hd⟩

theorem numeral_MQTTPacketEncode (length : ℕ) : Numeral (MQTTPacketEncode length) length := by
  induction length using MQTTPacketEncode.induct with
  | case1 length hmore ih =>
      obtain ⟨hvalue, hbit⟩ := digit_more (Nat.mod_lt length (by decide : 128 > 0))
      have hnumeral := Numeral.more hbit ih
      rw [hvalue, Nat.mod_add_div] at hnumeral
      rw [MQTTPacketEncode, if_pos hmore]
      exact hnumeral
  | case2 length hlast =>
      have hlt : length < 128 := by omega
      obtain ⟨hvalue, hbit⟩ := digit_last hlt
      have hnumeral := Numeral.last hbit
      rw [hvalue] at hnumeral
      rw [MQTTPacketEncode, if_neg hlast, Nat.mod_eq_of_lt hlt]
      exact hnumeral

/-- Four digits are enough below the limit of the protocol. -/
theorem length_MQTTPacketEncode_le (k : ℕ) :
    ∀ length, length < Nat.pow 128 (k + 1) → (MQTTPacketEncode length).length ≤ k + 1 := by
  induction k with
  | zero =>
      intro length h
      change length < 128 at h
      rw [MQTTPacketEncode]
      rw [if_neg (by omega)]
      exact le_rfl
  | succ k ih =>
      intro length h
      rw [MQTTPacketEncode]
      split
      · rw [List.length_cons]
        have hdiv : length / 128 < Nat.pow 128 (k + 1) := by
          rw [Nat.div_lt_iff_lt_mul (by decide)]
          exact h
        exact Nat.succ_le_succ (ih _ hdiv)
      · exact Nat.succ_le_succ (Nat.zero_le _)

/-! ### Packets that are sent -/

/-- `MQTTPacket_sends`: the buffers that go to the socket, the fixed header in front. `MQTTPacket_send` is
the same for at most one buffer. -/
def MQTTPacketSends (header : UInt8) (buffers : List (List UInt8)) : List (List UInt8) :=
  (header :: MQTTPacketEncode buffers.flatten.length) :: buffers

/-- A publication, the topic with the bytes that `topiclen` counts. -/
structure Publish where
  header : UInt8
  topic : List UInt8
  msgId : ℕ
  payload : List UInt8
  deriving DecidableEq

structure Ack where
  header : UInt8
  msgId : ℕ
  deriving DecidableEq

/-- `MQTTPacket_send_publish`: the topic is sent as a C string. -/
def MQTTPacketSendPublish (pack : Publish) (dup qos retained : ℕ) : List (List UInt8) :=
  let topic := textOf pack.topic
  MQTTPacketSends (Header .PUBLISH dup qos retained)
    (if 0 < qos then [writeInt topic.length, topic, writeInt pack.msgId, pack.payload]
    else [writeInt topic.length, topic, pack.payload])

/-- `MQTTPacket_send_ack`. -/
def MQTTPacketSendAck (type : MsgType) (msgid dup : ℕ) : List (List UInt8) :=
  MQTTPacketSends (Header type dup (if type = .PUBREL then 1 else 0) 0) [writeInt msgid]

def MQTTPacketSendPuback (msgid : ℕ) : List (List UInt8) := MQTTPacketSendAck .PUBACK msgid 0

def MQTTPacketSendPubrec (msgid : ℕ) : List (List UInt8) := MQTTPacketSendAck .PUBREC msgid 0

def MQTTPacketSendPubrel (msgid dup : ℕ) : List (List UInt8) := MQTTPacketSendAck .PUBREL msgid dup

def MQTTPacketSendPubcomp (msgid : ℕ) : List (List UInt8) := MQTTPacketSendAck .PUBCOMP msgid 0

def MQTTPacketSendPingreq : List (List UInt8) := MQTTPacketSends (Header .PINGREQ 0 0 0) []

def MQTTPacketSendDisconnect : List (List UInt8) := MQTTPacketSends (Header .DISCONNECT 0 0 0) []

/-- A packet as it stands on the wire. -/
structure Frame where
  header : UInt8
  data : List UInt8
  deriving DecidableEq

namespace Frame

/-- The header byte and the remaining length. -/
def fixedHeader (frame : Frame) : List UInt8 := frame.header :: MQTTPacketEncode frame.data.length

def bytes (frame : Frame) : List UInt8 := frame.fixedHeader ++ frame.data

/-- The lengths that the protocol can state. -/
def Fits (frame : Frame) : Prop := frame.data.length < 268435456

theorem length_fixedHeader_le {frame : Frame} (h : frame.Fits) : frame.fixedHeader.length ≤ 5 :=
  Nat.succ_le_succ (length_MQTTPacketEncode_le 3 _ h)

end Frame

theorem flatten_MQTTPacketSends (header : UInt8) (buffers : List (List UInt8)) :
    (MQTTPacketSends header buffers).flatten = (Frame.mk header buffers.flatten).bytes := by
  rw [MQTTPacketSends, List.flatten_cons, Frame.bytes, Frame.fixedHeader]

/-! ### Packets that are received -/

inductive Packet where
  | connack (header flags rc : UInt8)
  | publish (pack : Publish)
  | ack (pack : Ack)
  | suback (header : UInt8) (msgId : ℕ) (qoss : List UInt8)
  | unsuback (header : UInt8) (msgId : ℕ)
  | headerOnly (header : UInt8)
  deriving DecidableEq

/-- `MQTTPacket_publish`: `some none` is its null pointer. -/
def MQTTPacketPublish (header : UInt8) (data : List UInt8) : Option (Option Packet) :=
  match readUTFlen data with
  | none => some none
  | some (topic, rest) =>
    if 0 < headerQos header then
      (readInt rest).map fun (msgId, payload) => some (.publish ⟨header, topic, msgId, payload⟩)
    else some (some (.publish ⟨header, topic, 0, rest⟩))

/-- `MQTTPacket_ack`: what follows the number is not looked at. -/
def MQTTPacketAck (header : UInt8) (data : List UInt8) : Option (Option Packet) :=
  (readInt data).map fun (msgId, _) => some (.ack ⟨header, msgId⟩)

/-- `MQTTPacket_connack`: the two bytes are read before the length is checked. -/
def MQTTPacketConnack (header : UInt8) (data : List UInt8) : Option (Option Packet) := do
  let (flags, rest) ← readChar data
  let (rc, _) ← readChar rest
  return if data.length = 2 then some (.connack header flags rc) else none

/-- `MQTTPacket_suback`: at least one code has to follow the number. -/
def MQTTPacketSuback (header : UInt8) (data : List UInt8) : Option (Option Packet) :=
  (readInt data).map fun (msgId, qoss) => if qoss = [] then none else some (.suback header msgId qoss)

/-- `MQTTPacket_unsuback`. -/
def MQTTPacketUnsuback (header : UInt8) (data : List UInt8) : Option (Option Packet) :=
  (readInt data).map fun (msgId, _) => some (.unsuback header msgId)

/-- `MQTTPacket_header_only`. -/
def MQTTPacketHeaderOnly (header : UInt8) (_data : List UInt8) : Option (Option Packet) :=
  some (some (.headerOnly header))

/-- The table `new_packets`, without the two entries that only version 5 has. -/
def newPackets : MsgType → Option (UInt8 → List UInt8 → Option (Option Packet))
  | .CONNECT => none
  | .CONNACK => some MQTTPacketConnack
  | .PUBLISH => some MQTTPacketPublish
  | .PUBACK => some MQTTPacketAck
  | .PUBREC => some MQTTPacketAck
  | .PUBREL => some MQTTPacketAck
  | .PUBCOMP => some MQTTPacketAck
  | .SUBSCRIBE => none
  | .SUBACK => some MQTTPacketSuback
  | .UNSUBSCRIBE => none
  | .UNSUBACK => some MQTTPacketUnsuback
  | .PINGREQ => some MQTTPacketHeaderOnly
  | .PINGRESP => some MQTTPacketHeaderOnly
  | .DISCONNECT => none
  | .AUTH => none

/-- What `MQTTPacket_Factory` does with a whole packet. -/
inductive Outcome where
  /-- The structure it returns. -/
  | packet (pack : Packet)
  /-- The type has no entry in the table: a null pointer, and no error. -/
  | unknown
  /-- The packet is bad: a null pointer and `SOCKET_ERROR`. -/
  | bad
  deriving DecidableEq

def newPacket (header : UInt8) (data : List UInt8) : Option Outcome :=
  match (MsgType.ofCode (headerType header)).bind newPackets with
  | none => some .unknown
  | some build =>
    match build header data with
    | none => none
    | some none => some .bad
    | some (some pack) => some (.packet pack)

theorem newPacket_of_entry {type : MsgType} {build : UInt8 → List UInt8 → Option (Option Packet)}
    {header : UInt8} {data : List UInt8} {pack : Packet} (htype : headerType header = type.code)
    (hentry : newPackets type = some build) (hbuild : build header data = some (some pack)) :
    newPacket header data = some (.packet pack) := by
  rw [newPacket, htype, MsgType.ofCode_code, Option.bind_some, hentry]
  dsimp only
  rw [hbuild]

/-! ### From one end to the other -/

/-- The packets that both ends of a connection may send. -/
inductive Outgoing where
  | publish (pack : Publish) (dup qos retained : ℕ)
  | puback (msgid : ℕ)
  | pubrec (msgid : ℕ)
  | pubrel (msgid dup : ℕ)
  | pubcomp (msgid : ℕ)

namespace Outgoing

def buffers : Outgoing → List (List UInt8)
  | publish pack dup qos retained => MQTTPacketSendPublish pack dup qos retained
  | puback msgid => MQTTPacketSendPuback msgid
  | pubrec msgid => MQTTPacketSendPubrec msgid
  | pubrel msgid dup => MQTTPacketSendPubrel msgid dup
  | pubcomp msgid => MQTTPacketSendPubcomp msgid

/-- The structure at the other end: the number of a publication with the quality 0 is not sent. -/
def packet : Outgoing → Packet
  | publish pack dup qos retained => .publish ⟨Header .PUBLISH dup qos retained, textOf pack.topic,
      if 0 < qos then pack.msgId else 0, pack.payload⟩
  | puback msgid => .ack ⟨Header .PUBACK 0 0 0, msgid⟩
  | pubrec msgid => .ack ⟨Header .PUBREC 0 0 0, msgid⟩
  | pubrel msgid dup => .ack ⟨Header .PUBREL dup 1 0, msgid⟩
  | pubcomp msgid => .ack ⟨Header .PUBCOMP 0 0 0, msgid⟩

/-- The ranges of the fields of a packet. The callers keep the qualities of service and the numbers in
them; nothing checks the length of a topic. -/
def Valid : Outgoing → Prop
  | publish pack _ qos _ => qos ≤ 2 ∧ pack.msgId < 65536 ∧ (textOf pack.topic).length < 65536 ∧
      pack.payload.length < 268300000
  | puback msgid => msgid < 65536
  | pubrec msgid => msgid < 65536
  | pubrel msgid _ => msgid < 65536
  | pubcomp msgid => msgid < 65536

/-- The packet on the wire. -/
def frame : Outgoing → Frame
  | publish pack dup qos retained =>
      ⟨Header .PUBLISH dup qos retained, writeUTF pack.topic ++
        if 0 < qos then writeInt pack.msgId ++ pack.payload else pack.payload⟩
  | puback msgid => ⟨Header .PUBACK 0 0 0, writeInt msgid⟩
  | pubrec msgid => ⟨Header .PUBREC 0 0 0, writeInt msgid⟩
  | pubrel msgid dup => ⟨Header .PUBREL dup 1 0, writeInt msgid⟩
  | pubcomp msgid => ⟨Header .PUBCOMP 0 0 0, writeInt msgid⟩

theorem flatten_buffers (outgoing : Outgoing) : outgoing.buffers.flatten = outgoing.frame.bytes := by
  cases outgoing with
  | publish pack dup qos retained =>
      rw [buffers, MQTTPacketSendPublish, flatten_MQTTPacketSends]
      dsimp only [frame]
      split <;> simp [writeUTF]
  | puback msgid => exact flatten_MQTTPacketSends _ _
  | pubrec msgid => exact flatten_MQTTPacketSends _ _
  | pubrel msgid dup => exact flatten_MQTTPacketSends _ _
  | pubcomp msgid => exact flatten_MQTTPacketSends _ _

theorem fits_frame {outgoing : Outgoing} (h : outgoing.Valid) : outgoing.frame.Fits := by
  cases outgoing with
  | publish pack dup qos retained =>
      obtain ⟨_, _, htopic, hpayload⟩ := h
      dsimp only [Frame.Fits, frame]
      rw [List.length_append, writeUTF, List.length_append, length_writeInt]
      split
      · rw [List.length_append, length_writeInt]
        omega
      · omega
  | puback msgid => exact (by decide : 2 < 268435456)
  | pubrec msgid => exact (by decide : 2 < 268435456)
  | pubrel msgid dup => exact (by decide : 2 < 268435456)
  | pubcomp msgid => exact (by decide : 2 < 268435456)

theorem MQTTPacketAck_writeInt (header : UInt8) {msgid : ℕ} (h : msgid < 65536) :
    MQTTPacketAck header (writeInt msgid) = some (some (.ack ⟨header, msgid⟩)) := by
  have hread := readInt_writeInt h []
  rw [List.append_nil] at hread
  rw [MQTTPacketAck, hread]
  rfl

theorem MQTTPacketPublish_frame {pack : Publish} {qos : ℕ} (dup retained : ℕ) (hqos : qos ≤ 2)
    (hid : pack.msgId < 65536) (htopic : (textOf pack.topic).length < 65536) :
    MQTTPacketPublish (Header .PUBLISH dup qos retained) (publish pack dup qos retained).frame.data =
      some (some (publish pack dup qos retained).packet) := by
  have hheader : headerQos (Header .PUBLISH dup qos retained) = qos := by
    rw [headerQos_header]
    exact Nat.mod_eq_of_lt (by omega)
  rw [MQTTPacketPublish, hheader]
  dsimp only [frame, packet]
  rw [writeUTF, ← writeData, readUTFlen_writeData htopic]
  dsimp only
  by_cases hpos : 0 < qos
  · rw [if_pos hpos, if_pos hpos, if_pos hpos, readInt_writeInt hid]
    rfl
  · rw [if_neg hpos, if_neg hpos, if_neg hpos]

/-- Taking apart what the send functions put together. -/
theorem newPacket_frame {outgoing : Outgoing} (h : outgoing.Valid) :
    newPacket outgoing.frame.header outgoing.frame.data = some (.packet outgoing.packet) := by
  cases outgoing with
  | publish pack dup qos retained =>
      obtain ⟨hqos, hid, htopic, _⟩ := h
      exact newPacket_of_entry (headerType_header .PUBLISH dup qos retained) rfl
        (MQTTPacketPublish_frame dup retained hqos hid htopic)
  | puback msgid => exact newPacket_of_entry (headerType_header .PUBACK 0 0 0) rfl (MQTTPacketAck_writeInt _ h)
  | pubrec msgid => exact newPacket_of_entry (headerType_header .PUBREC 0 0 0) rfl (MQTTPacketAck_writeInt _ h)
  | pubrel msgid dup =>
      exact newPacket_of_entry (headerType_header .PUBREL dup 1 0) rfl (MQTTPacketAck_writeInt _ h)
  | pubcomp msgid => exact newPacket_of_entry (headerType_header .PUBCOMP 0 0 0) rfl (MQTTPacketAck_writeInt _ h)

end Outgoing

/-- What a connected client sends, but for subscriptions. -/
inductive ClientPacket where
  | outgoing (pack : Outgoing)
  | pingreq
  | disconnect

namespace ClientPacket

def buffers : ClientPacket → List (List UInt8)
  | outgoing pack => pack.buffers
  | pingreq => MQTTPacketSendPingreq
  | disconnect => MQTTPacketSendDisconnect

def Valid : ClientPacket → Prop
  | outgoing pack => pack.Valid
  | pingreq => True
  | disconnect => True

def frame : ClientPacket → Frame
  | outgoing pack => pack.frame
  | pingreq => ⟨Header .PINGREQ 0 0 0, []⟩
  | disconnect => ⟨Header .DISCONNECT 0 0 0, []⟩

/-- What the library makes of it at the other end: it has no entry for `DISCONNECT` in its table. -/
def outcome : ClientPacket → Outcome
  | outgoing pack => .packet pack.packet
  | pingreq => .packet (.headerOnly (Header .PINGREQ 0 0 0))
  | disconnect => .unknown

theorem flatten_buffers (pack : ClientPacket) : pack.buffers.flatten = pack.frame.bytes := by
  cases pack with
  | outgoing pack => exact pack.flatten_buffers
  | pingreq => exact flatten_MQTTPacketSends _ _
  | disconnect => exact flatten_MQTTPacketSends _ _

theorem fits_frame {pack : ClientPacket} (h : pack.Valid) : pack.frame.Fits := by
  cases pack with
  | outgoing pack => exact Outgoing.fits_frame h
  | pingreq => exact (by decide : 0 < 268435456)
  | disconnect => exact (by decide : 0 < 268435456)

theorem newPacket_frame {pack : ClientPacket} (h : pack.Valid) :
    newPacket pack.frame.header pack.frame.data = some pack.outcome := by
  cases pack with
  | outgoing pack => exact Outgoing.newPacket_frame h
  | pingreq => exact newPacket_of_entry (headerType_header .PINGREQ 0 0 0) rfl rfl
  | disconnect => decide

end ClientPacket

end LinuxGateway.Paho
