import LinuxGateway.LibBytes

/-! What the services hand to the MQTT client library. -/

namespace LinuxGateway

open Bytes

inductive Topic where
  | dataLora
  | dataRf
  | dataBl
  deriving DecidableEq

def QOS : ℕ := 1

structure Message where
  topic : Topic
  payload : List UInt8
  qos : ℕ
  retained : ℕ
  deriving DecidableEq

/-- `publish_mess`, the same in the three services: the payload has the length `strlen(msg)`. The
argument is the rest of the object that `msg` points into. -/
def publishMess (topic : Topic) (msg : List UInt8) : Option Message :=
  (cString msg).map fun payload => ⟨topic, payload, QOS, 0⟩

theorem payload_publishMess (topic : Topic) (msg : List UInt8) :
    (publishMess topic msg).map Message.payload = cString msg := by
  rw [publishMess, Option.map_map]
  exact Option.map_id'

end LinuxGateway
