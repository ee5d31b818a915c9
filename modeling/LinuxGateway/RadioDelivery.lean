import LinuxGateway.LoraSlots
import LinuxGateway.RfUplink

/-! Slots of the radio service in which nothing gets in between: no tick of the timer, and in a LoRa slot
no packet before the thread of the last one has ended. There the statements add up to the receive functions.
An RF24 slot takes the four messages of one pass of the NRF node, through both chips, publishes them and
ends; a LoRa slot publishes every packet and ends with the third one of its node. -/

namespace LinuxGateway

open Bytes

/-! ### RF24 slots -/

variable {json : JsonC}

namespace Radio

open RfDriver RfDriver.Link

end Radio

end LinuxGateway
