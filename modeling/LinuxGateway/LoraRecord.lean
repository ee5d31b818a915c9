import LinuxGateway.LoraReceive

/-! The record that `rx_f` builds for a LoRa packet. The callback copies the string in `lorabuff` into
`data.packet.lora.msg`, an array of the same size, and neither the driver nor the callback stores a
NUL: the copy stays inside its field exactly when one is left among the 255 bytes. -/

namespace LinuxGateway

open Bytes Layout

/-- Outside `node` and `packet.lora.msg` the record is what it was, and the field `msg` holds a NUL. -/
structure Data.LoraConfined (before after : Data) : Prop where
  outside : ∀ i, (i < nodeOffset ∨ nodeOffset + int32.size ≤ i) →
    (i < msgOffset .lora ∨ msgOffset .lora + msgSize .lora ≤ i) → after.bytes[i]? = before.bytes[i]?
  terminated : 0 ∈ after.msgField .lora

namespace RadioGlobals

variable {json : JsonC}

/-- A NUL is left in the receive buffer: in the packet, or behind it where an earlier packet or the
start left one. -/
def LeavesNul (globals : RadioGlobals json) (packet : LoraPacket) : Prop :=
  0 ∈ packet.bytes ++ globals.modem.buf.bytes.drop packet.bytes.length

instance (globals : RadioGlobals json) (packet : LoraPacket) : Decidable (globals.LeavesNul packet) :=
  inferInstanceAs (Decidable (0 ∈ packet.bytes ++ globals.modem.buf.bytes.drop packet.bytes.length))

/-- The driver is in explicit-header mode, and the record's text has an end. -/
structure Settled (globals : RadioGlobals json) : Prop where
  explicit : globals.modem.implicitHeader = false
  terminated : 0 ∈ globals.data.msgField .lora

theorem settled_init (json : JsonC) : (init json).Settled := by
  refine ⟨rfl, ?_⟩
  show 0 ∈ Data.msgField (Buffer.zero sizeofData) .lora
  decide +kernel

/-- A record that stays as it is, or is filled with a short text, is confined. -/
theorem loraConfined_of_filled {before after : Data} (h : 0 ∈ before.msgField .lora) {text : List UInt8}
    (hlen : text.length ≤ 254) (hafter : after = before ∨ before.fillLora text = some after) :
    before.LoraConfined after := by
  rcases hafter with rfl | hfill
  · exact ⟨fun _ _ _ => rfl, h⟩
  · obtain ⟨record, hrecord, hbytes⟩ := Data.fill_eq_some before .kLora .lora hlen
    obtain rfl := Option.some.inj (hrecord.symm.trans hfill)
    refine ⟨fun i hnode hmsg => ?_, ?_⟩
    · exact Data.getElem?_of_fill hbytes hlen hnode hmsg
    · exact Data.zero_mem_msgField_of_fill hbytes hlen

/-- One packet: the callback is defined, and confined, exactly when a NUL is left in the buffer. -/
theorem receivePacket_confined {globals : RadioGlobals json} (h : globals.Settled) (packet : LoraPacket) :
    if globals.LeavesNul packet then
      ∃ next, globals.receivePacket packet = some next ∧ next.1.Settled ∧
        globals.data.LoraConfined next.1.data
    else globals.receivePacket packet = none := by
  split
  · rename_i hleaves
    have htext : cString (packet.bytes ++ globals.modem.buf.bytes.drop packet.bytes.length) = some _ :=
      (cString_eq_ite _).trans (if_pos hleaves)
    obtain ⟨next, hnext, hexplicit, hbuf, _, hdata⟩ := receivePacket_of_cString h.explicit htext
    rw [← hbuf] at htext
    have hlen := Nat.le_of_lt_succ (Buffer.length_lt_of_cString htext)
    rw [hbuf] at hlen
    have hconfined := loraConfined_of_filled h.terminated hlen hdata
    exact ⟨next, hnext, ⟨hexplicit, hconfined.terminated⟩, hconfined⟩
  · rename_i hfull
    exact receivePacket_of_unterminated h.explicit ((cString_eq_ite _).trans (if_neg hfull))

/-- In every sequence of packets, the callback stays inside the receive buffer and inside its field of
the record if and only if each packet leaves a NUL in the buffer. -/
theorem each_confined_iff (json : JsonC) (packets : List LoraPacket) :
    Runs.Each receivePacket (fun globals _ next => globals.data.LoraConfined next.1.data) (init json)
      packets ↔ Runs.Along receivePacket LeavesNul (init json) packets := by
  refine Runs.each_iff_along (J := Settled) ?_ ?_ (settled_init json) packets
  · intro globals packet h
    have hstep := receivePacket_confined h packet
    split at hstep
    · rename_i hleaves
      obtain ⟨next, hnext, _, hconfined⟩ := hstep
      exact ⟨fun _ => ⟨next, hnext, hconfined⟩, fun _ => hleaves⟩
    · rename_i hfull
      refine ⟨fun hleaves => absurd hleaves hfull, ?_⟩
      rintro ⟨next, hnext, _⟩
      exact absurd (hstep.symm.trans hnext) (by simp)
  · intro globals packet next h hnext
    have hstep := receivePacket_confined h packet
    split at hstep
    · obtain ⟨next', hnext', hsettled, _⟩ := hstep
      obtain rfl := Option.some.inj (hnext.symm.trans hnext')
      exact hsettled
    · exact absurd (hstep.symm.trans hnext) (by simp)

/-- A JSON object of the expected node, followed by as many spaces as a packet can still hold. -/
def fullPacket : LoraPacket :=
  ⟨ascii "\x7b\"id\":95\x7d" ++ List.replicate 246 32, by decide +kernel⟩

/-- A json-c that knows this object. -/
def knowsLora : JsonC := JsonC.table (ascii "id") [(ascii "\x7b\"id\":95\x7d", 95)]

/-- A packet of 255 bytes leaves no room for a NUL: the callback reads past `lorabuff`. -/
theorem not_each_confined :
    ¬∀ (json : JsonC) (packets : List LoraPacket),
      (∀ packet ∈ packets, json.HasInteger (textOf packet.bytes) (ascii "id") idLora) →
        Runs.Each receivePacket (fun globals _ next => globals.data.LoraConfined next.1.data) (init json)
          packets := by
  intro h
  have hid : knowsLora.HasInteger (textOf fullPacket.bytes) (ascii "id") idLora := by
    rw [textOf_of_noNul (by decide +kernel)]
    exact ⟨.number 95, rfl, rfl⟩
  obtain ⟨next, hnext, _⟩ := h knowsLora [fullPacket] (fun packet hpacket => by
    rw [List.mem_singleton.mp hpacket]
    exact hid)
  have hnone : (receivePacket (init knowsLora) fullPacket).isNone := by decide +kernel
  rw [hnext] at hnone
  exact absurd hnone (by simp)

end RadioGlobals

end LinuxGateway
