import LinuxGateway.PahoStreams

/-! How the MQTT client library writes packets (`Socket_putdatas`, `Socket_continueWrite` of `Socket.c`,
the write half of `SocketBuffer.c`). A packet goes out as several buffers in one `writev`; when the
network takes only some of the bytes, the rest follows in later calls, and until then no other packet
is begun on the socket. -/

namespace LinuxGateway.Paho

/-! ### The rest of a packet -/

/-- The loop of `Socket_continueWrite` over the buffers of a packet of which `bytes` bytes are written:
`curbuflen` is the length of the buffers before. It ends at the buffer that was begun. -/
def continueBufs (bytes : ℕ) : ℕ → List (List UInt8) → List (List UInt8)
  | _, [] => []
  | curbuflen, buf :: bufs =>
    if bytes ≤ curbuflen then buf :: continueBufs bytes (curbuflen + buf.length) bufs
    else if bytes < curbuflen + buf.length then [buf.drop (bytes - curbuflen)]
    else continueBufs bytes (curbuflen + buf.length) bufs

theorem continueBufs_of_le {bytes curbuflen : ℕ} {bufs : List (List UInt8)} (h : bytes ≤ curbuflen) :
    continueBufs bytes curbuflen bufs = bufs := by
  induction bufs generalizing curbuflen with
  | nil => rfl
  | cons buf bufs ih => rw [continueBufs, if_pos h, ih (h.trans (Nat.le_add_right _ _))]

/-- The loop chooses some of the bytes that are not yet written, the next ones. -/
theorem continueBufs_prefix (bytes curbuflen : ℕ) (bufs : List (List UInt8)) :
    (continueBufs bytes curbuflen bufs).flatten <+: bufs.flatten.drop (bytes - curbuflen) := by
  induction bufs generalizing curbuflen with
  | nil => exact List.nil_prefix
  | cons buf bufs ih =>
      rw [continueBufs]
      split
      · next hle =>
          rw [continueBufs_of_le (hle.trans (Nat.le_add_right _ _)), Nat.sub_eq_zero_of_le hle]
          exact List.prefix_refl _
      · next hlt =>
          split
          · next hmid =>
              rw [List.flatten_cons, List.flatten_nil, List.append_nil, List.flatten_cons,
                List.drop_append_of_le_length (by omega)]
              exact List.prefix_append _ _
          · next hbehind =>
              have hsplit : bytes - curbuflen = buf.length + (bytes - (curbuflen + buf.length)) := by omega
              rw [List.flatten_cons, hsplit, List.drop_length_add_append]
              exact ih _

/-- There is something to choose as long as something is not written. -/
theorem continueBufs_ne_nil {bytes curbuflen : ℕ} {bufs : List (List UInt8)}
    (h : bytes < curbuflen + bufs.flatten.length) (hpos : 0 < bufs.flatten.length) :
    (continueBufs bytes curbuflen bufs).flatten ≠ [] := by
  induction bufs generalizing curbuflen with
  | nil => exact absurd hpos (Nat.lt_irrefl 0)
  | cons buf bufs ih =>
      rw [List.flatten_cons, List.length_append] at h hpos
      rw [continueBufs]
      split
      · next hle =>
          rw [continueBufs_of_le (hle.trans (Nat.le_add_right _ _)), Ne, ← List.length_eq_zero_iff,
            List.flatten_cons, List.length_append]
          omega
      · next hlt =>
          split
          · next hmid =>
              rw [Ne, ← List.length_eq_zero_iff, List.flatten_cons, List.flatten_nil, List.append_nil,
                List.length_drop]
              omega
          · exact ih (by omega) (by omega)

/-! ### `Socket.c` -/

/-- `pending_writes`. -/
structure PendingWrite where
  socket : ℕ
  total : ℕ
  bytes : ℕ
  iovecs : List (List UInt8)

/-- What the network answers to a `writev`: it takes so many bytes, none for now, or there is an error. -/
inductive WriteAnswer where
  | taken (count : ℕ)
  | again
  | failed

/-- The packets that are not finished (`writes` of `SocketBuffer.c` and `s.write_pending`); the bytes that
each connection has taken, and whether it has reported an error: it takes no more bytes after that. -/
structure Output where
  writes : List PendingWrite
  writePending : List ℕ
  sent : ℕ → List UInt8
  dead : ℕ → Bool

namespace Output

/-- `Socket_writev`: the number of bytes, or `none` for `SOCKET_ERROR`. -/
def writev (output : Output) (socket : ℕ) (iovecs : List (List UInt8)) (answer : WriteAnswer) :
    Option ℕ × Output :=
  if output.dead socket then (none, output)
  else
    match answer with
    | .taken count =>
      let bytes := iovecs.flatten.take count
      (some bytes.length,
        { output with sent := Function.update output.sent socket (output.sent socket ++ bytes) })
    | .again => (some 0, output)
    | .failed => (none, { output with dead := Function.update output.dead socket true })

/-- `Socket_putdatas`, where the first of the buffers is `buf0`. -/
def putdatas (output : Output) (socket : ℕ) (iovecs : List (List UInt8)) (answer : WriteAnswer) :
    Rc Unit × Output :=
  if socket ∈ output.writePending then (.error, output)
  else
    match output.writev socket iovecs answer with
    | (none, output) => (.error, output)
    | (some bytes, output) =>
      if bytes = iovecs.flatten.length then (.complete (), output)
      else (.interrupted, { output with
        writes := output.writes ++ [⟨socket, iovecs.flatten.length, bytes, iovecs⟩]
        writePending := output.writePending ++ [socket] })

/-- `SocketBuffer_writeComplete` and the removal from `s.write_pending`. -/
def removePending (output : Output) (socket : ℕ) : Output :=
  { output with
    writes := Keyed.remove PendingWrite.socket socket output.writes
    writePending := output.writePending.erase socket }

/-- The body of the loop of `Socket_continueWrites` for a socket that can be written, with
`Socket_continueWrite`, which is undefined for a socket without a pending write. After an error the
write is not pending any more. -/
def continueWrite (output : Output) (socket : ℕ) (answer : WriteAnswer) : Option Output :=
  match Keyed.find PendingWrite.socket socket output.writes with
  | none => none
  | some pw =>
    match output.writev socket (continueBufs pw.bytes 0 pw.iovecs) answer with
    | (none, output) => some (output.removePending socket)
    | (some bytes, output) =>
      if pw.bytes + bytes = pw.total then some (output.removePending socket)
      else some { output with
        writes := Keyed.replace PendingWrite.socket { pw with bytes := pw.bytes + bytes } output.writes }

end Output

/-- Packets of some kind, each with the buffers that it goes out as. -/
structure Encoding (π : Type) where
  buffers : π → List (List UInt8)
  frame : π → Frame
  flatten_buffers : ∀ pack, (buffers pack).flatten = (frame pack).bytes

/-- Whatever is given to `MQTTPacket_sends`, or to `MQTTPacket_send` for at most one buffer. -/
def Encoding.sends : Encoding (UInt8 × List (List UInt8)) where
  buffers pack := MQTTPacketSends pack.1 pack.2
  frame pack := ⟨pack.1, pack.2.flatten⟩
  flatten_buffers pack := flatten_MQTTPacketSends pack.1 pack.2

/-- The packets of the client, with what its functions make of them. -/
def Encoding.client : Encoding ClientPacket := ⟨ClientPacket.buffers, ClientPacket.frame, ClientPacket.flatten_buffers⟩

inductive WriteEvent (π : Type) where
  /-- The function that sends a packet of this kind. -/
  | send (socket : ℕ) (pack : π) (answer : WriteAnswer)
  /-- `Socket_continueWrites` comes to the socket. -/
  | writable (socket : ℕ) (answer : WriteAnswer)
  /-- `Socket_close`, and a new connection that gets the same number. -/
  | reopen (socket : ℕ)

inductive WriteSignal (π : Type) where
  /-- The packet is written, or will be: the call did not return `SOCKET_ERROR`. -/
  | accepted (socket : ℕ) (pack : π)
  | refused (socket : ℕ)
  | reopened (socket : ℕ)

variable {π : Type}

namespace Output

def init : Output := ⟨[], [], fun _ => [], fun _ => false⟩

def step (encoding : Encoding π) (output : Output) : WriteEvent π → Option (Output × List (WriteSignal π))
  | .send socket pack answer =>
    match output.putdatas socket (encoding.buffers pack) answer with
    | (.error, output) => some (output, [.refused socket])
    | (.interrupted, output) => some (output, [.accepted socket pack])
    | (.complete _, output) => some (output, [.accepted socket pack])
  | .writable socket answer =>
    if socket ∈ output.writePending then (output.continueWrite socket answer).map fun output => (output, [])
    else none
  | .reopen socket =>
    some ({ output.removePending socket with
      sent := Function.update output.sent socket []
      dead := Function.update output.dead socket false }, [.reopened socket])

end Output

/-- The packets that were accepted on the present connection of a socket. -/
def accepted (socket : ℕ) : List (WriteSignal π) → List π :=
  List.foldl (fun packs signal =>
    match signal with
    | .accepted t pack => if t = socket then packs ++ [pack] else packs
    | .refused _ => packs
    | .reopened t => if t = socket then [] else packs) []

/-- They as they stand on the wire. -/
def frames (encoding : Encoding π) (signals : List (WriteSignal π)) (socket : ℕ) : List Frame :=
  (accepted socket signals).map encoding.frame

section Frames

variable (encoding : Encoding π) (signals : List (WriteSignal π)) (socket : ℕ)

theorem frames_accepted (pack : π) :
    frames encoding (signals ++ [.accepted socket pack]) =
      Function.update (frames encoding signals) socket (frames encoding signals socket ++ [encoding.frame pack]) := by
  funext t
  rw [frames, accepted, List.foldl_append, Function.update_apply]
  change (if socket = t then accepted t signals ++ [pack] else accepted t signals).map encoding.frame = _
  by_cases ht : socket = t
  · rw [if_pos ht, if_pos ht.symm, List.map_append, ht]
    rfl
  · rw [if_neg ht, if_neg (Ne.symm ht)]
    rfl

theorem frames_refused : frames encoding (signals ++ [.refused socket]) = frames encoding signals := by
  funext t
  rw [frames, accepted, List.foldl_append]
  rfl

theorem frames_reopened :
    frames encoding (signals ++ [.reopened socket]) = Function.update (frames encoding signals) socket [] := by
  funext t
  rw [frames, accepted, List.foldl_append, Function.update_apply]
  change (if socket = t then [] else accepted t signals).map encoding.frame = _
  by_cases ht : socket = t
  · rw [if_pos ht, if_pos ht.symm]
    rfl
  · rw [if_neg ht, if_neg (Ne.symm ht)]
    rfl

end Frames

/-! ### Bytes on the way -/

theorem wire_append (frames frames' : List Frame) : wire (frames ++ frames') = wire frames ++ wire frames' :=
  List.flatMap_append

@[simp] theorem wire_singleton (frame : Frame) : wire [frame] = frame.bytes := List.flatMap_singleton _ _

theorem wire_mono {frames frames' : List Frame} (h : frames <+: frames') : wire frames <+: wire frames' := by
  obtain ⟨rest, rfl⟩ := h
  rw [wire_append]
  exact List.prefix_append _ _

/-- A socket on whose connection the packets `frames` were accepted: a part of the last one is on its way, all
bytes are out, or the connection has failed somewhere in the last one. -/
inductive FlowAt (output : Output) (socket : ℕ) (frames : List Frame) : Prop
  | pending {pw : PendingWrite} {front : List Frame} {last : Frame}
      (hfind : Keyed.find PendingWrite.socket socket output.writes = some pw)
      (hmem : socket ∈ output.writePending) (htotal : pw.total = pw.iovecs.flatten.length)
      (hlt : pw.bytes < pw.total) (hframes : frames = front ++ [last]) (hiovecs : pw.iovecs.flatten = last.bytes)
      (hsent : output.sent socket = wire front ++ last.bytes.take pw.bytes)
  | whole (hfind : Keyed.find PendingWrite.socket socket output.writes = none)
      (hmem : socket ∉ output.writePending) (hwire : wire frames = output.sent socket)
  | cut (hfind : Keyed.find PendingWrite.socket socket output.writes = none)
      (hmem : socket ∉ output.writePending) (hdead : output.dead socket)
      (hfront : wire frames.dropLast <+: output.sent socket) (hwire : output.sent socket <+: wire frames)

structure Flowing (output : Output) (frames : ℕ → List Frame) : Prop where
  distinct : Keyed.Distinct PendingWrite.socket output.writes
  nodup : output.writePending.Nodup
  flow : ∀ socket, FlowAt output socket (frames socket)

/-- An event that is about `socket` does nothing to the others. -/
structure Apart (output next : Output) (socket : ℕ) : Prop where
  find : ∀ t, t ≠ socket → Keyed.find PendingWrite.socket t next.writes =
    Keyed.find PendingWrite.socket t output.writes
  mem : ∀ t, t ≠ socket → (t ∈ next.writePending ↔ t ∈ output.writePending)
  sent : ∀ t, t ≠ socket → next.sent t = output.sent t
  dead : ∀ t, t ≠ socket → next.dead t = output.dead t

theorem Apart.flowAt {output next : Output} {socket t : ℕ} {frames : List Frame} (h : Apart output next socket)
    (ht : t ≠ socket) (hflow : FlowAt output t frames) : FlowAt next t frames := by
  have hfind := h.find t ht
  have hmem := h.mem t ht
  have hsent := h.sent t ht
  cases hflow with
  | pending hsome hin htotal hlt hframes hiovecs hpart =>
      exact .pending (hfind.trans hsome) (hmem.mpr hin) htotal hlt hframes hiovecs (hsent.trans hpart)
  | whole hnone hout hwire => exact .whole (hfind.trans hnone) (fun hin => hout (hmem.mp hin)) (hwire.trans hsent.symm)
  | cut hnone hout hdead hfront hwire =>
      exact .cut (hfind.trans hnone) (fun hin => hout (hmem.mp hin)) (by rw [h.dead t ht]; exact hdead)
        (by rw [hsent]; exact hfront) (by rw [hsent]; exact hwire)

theorem Flowing.update {output next : Output} {frames : ℕ → List Frame} {socket : ℕ} (h : Flowing output frames)
    (hapart : Apart output next socket) (hdistinct : Keyed.Distinct PendingWrite.socket next.writes)
    (hnodup : next.writePending.Nodup) {new : List Frame} (hflow : FlowAt next socket new) :
    Flowing next (Function.update frames socket new) := by
  refine ⟨hdistinct, hnodup, fun t => ?_⟩
  by_cases ht : t = socket
  · rw [ht, Function.update_self]
    exact hflow
  · rw [Function.update_of_ne ht]
    exact hapart.flowAt ht (h.flow t)

namespace Output

variable {output : Output} {socket : ℕ}

/-- What a `writev` can do. -/
theorem writev_cases (output : Output) (socket : ℕ) (iovecs : List (List UInt8)) (answer : WriteAnswer) :
    (∃ dead, output.writev socket iovecs answer = (none, { output with dead }) ∧ dead socket = true ∧
      (∀ t, t ≠ socket → dead t = output.dead t) ∧ (output.dead socket ∨ answer = .failed)) ∨
    (∃ part rest, ¬ output.dead socket ∧ iovecs.flatten = part ++ rest ∧
      (∀ count, answer = .taken (count + 1) → iovecs.flatten ≠ [] → part ≠ []) ∧
      output.writev socket iovecs answer = (some part.length,
        { output with sent := Function.update output.sent socket (output.sent socket ++ part) })) := by
  unfold writev
  by_cases hdead : output.dead socket
  · rw [if_pos hdead]
    exact .inl ⟨output.dead, rfl, hdead, fun _ _ => rfl, .inl hdead⟩
  · rw [if_neg hdead]
    cases answer with
    | taken count =>
        refine .inr ⟨_, _, hdead, (List.take_append_drop count _).symm, fun more heq hne hnil => ?_, rfl⟩
        rw [WriteAnswer.taken.inj heq] at hnil
        rcases List.take_eq_nil_iff.mp hnil with hzero | hempty
        · exact absurd hzero (Nat.succ_ne_zero more)
        · exact hne hempty
    | again =>
        refine .inr ⟨[], iovecs.flatten, hdead, rfl, (fun _ heq => nomatch heq), ?_⟩
        rw [List.append_nil, Function.update_eq_self]
        rfl
    | failed =>
        exact .inl ⟨_, rfl, Function.update_self _ _ _, fun t ht => Function.update_of_ne ht _ _, .inr rfl⟩

end Output

variable {output : Output} {socket : ℕ} {encoding : Encoding π}

/-- A step that leaves the packets of its socket as they are. -/
theorem Flowing.keep {frames : ℕ → List Frame} (h : Flowing output frames) {next : Output}
    (hapart : Apart output next socket) (hwrites : next.writes = output.writes)
    (hpending : next.writePending = output.writePending) (hflow : FlowAt next socket (frames socket)) :
    Flowing next frames := by
  have hupdate := h.update hapart (hwrites ▸ h.distinct) (hpending ▸ h.nodup) hflow
  rwa [Function.update_eq_self] at hupdate

/-- Which packets are accepted does not depend on how many bytes of them go out at once. -/
theorem Flowing.send {frames : ℕ → List Frame} (h : Flowing output frames) (pack : π) (answer : WriteAnswer) :
    (∃ next, output.step encoding (.send socket pack answer) = some (next, [.refused socket]) ∧
      Flowing next frames) ∨
    (∃ next, output.step encoding (.send socket pack answer) = some (next, [.accepted socket pack]) ∧
      Flowing next (Function.update frames socket (frames socket ++ [encoding.frame pack]))) := by
  rw [Output.step, Output.putdatas]
  by_cases hbusy : socket ∈ output.writePending
  · rw [if_pos hbusy]
    exact .inl ⟨output, rfl, h⟩
  · rw [if_neg hbusy]
    rcases Output.writev_cases output socket (encoding.buffers pack) answer with
      ⟨dead, hwritev, hdead, hothers, _⟩ | ⟨part, rest, halive, hsplit, _, hwritev⟩
    · rw [hwritev]
      refine .inl ⟨_, rfl, h.keep ⟨fun _ _ => rfl, fun _ _ => Iff.rfl, fun _ _ => rfl, hothers⟩ rfl rfl ?_⟩
      cases h.flow socket with
      | pending _ hmem => exact absurd hmem hbusy
      | whole hfind _ hwire =>
          refine .cut hfind hbusy hdead ?_ (hwire ▸ List.prefix_refl _)
          exact (wire_mono (List.dropLast_prefix _)).trans (hwire ▸ List.prefix_refl _)
      | cut hfind _ _ hfront hwire => exact .cut hfind hbusy hdead hfront hwire
    · rw [hwritev]
      dsimp only
      cases h.flow socket with
      | pending _ hmem => exact absurd hmem hbusy
      | cut _ _ hdead => exact absurd hdead halive
      | whole hfind _ hwire =>
          have hbytes : (encoding.frame pack).bytes = part ++ rest := (encoding.flatten_buffers pack).symm.trans hsplit
          have hsent : ∀ t, t ≠ socket →
              Function.update output.sent socket (output.sent socket ++ part) t = output.sent t :=
            fun t ht => Function.update_of_ne ht _ _
          have hself : Function.update output.sent socket (output.sent socket ++ part) socket =
              output.sent socket ++ part := Function.update_self _ _ _
          by_cases hall : part.length = (encoding.buffers pack).flatten.length
          · rw [if_pos hall]
            have hrest : rest = [] := by
              rw [hsplit, List.length_append] at hall
              exact List.length_eq_zero_iff.mp (by omega)
            rw [hrest, List.append_nil] at hbytes
            refine .inr ⟨_, rfl, ?_⟩
            refine h.update ?_ ?_ ?_ ?_
            · exact ⟨fun _ _ => rfl, fun _ _ => Iff.rfl, hsent, fun _ _ => rfl⟩
            · exact h.distinct
            · exact h.nodup
            · refine .whole hfind hbusy ?_
              rw [wire_append, wire_singleton, hwire, hbytes]
              exact hself.symm
          · rw [if_neg hall]
            refine .inr ⟨_, rfl, ?_⟩
            refine h.update ?_ ?_ ?_ ?_
            · refine ⟨fun t ht => Keyed.find_append_of_ne ht, fun t ht => ?_, hsent, fun _ _ => rfl⟩
              rw [List.mem_append, List.mem_singleton]
              exact or_iff_left ht
            · exact h.distinct.append hfind
            · rw [List.nodup_append]
              refine ⟨h.nodup, List.nodup_singleton _, fun t ht u hu heq => ?_⟩
              rw [List.mem_singleton.mp hu] at heq
              exact hbusy (heq ▸ ht)
            · refine .pending (Keyed.find_append_self rfl hfind) (List.mem_append.mpr (.inr List.mem_cons_self)) rfl
                ?_ rfl (encoding.flatten_buffers pack) ?_
              · rw [hsplit, List.length_append] at hall ⊢
                dsimp only
                omega
              · dsimp only
                rw [hself, hwire, hbytes, List.take_left]

/-- Nothing is pending for a socket any more. -/
theorem Flowing.removePending {frames : ℕ → List Frame} (h : Flowing output frames) (next : Output)
    (hwrites : next.writes = output.writes) (hpending : next.writePending = output.writePending)
    (hsent : ∀ t, t ≠ socket → next.sent t = output.sent t) (hdead : ∀ t, t ≠ socket → next.dead t = output.dead t)
    (new : List Frame)
    (hwire : wire new = next.sent socket ∨
      next.dead socket ∧ wire new.dropLast <+: next.sent socket ∧ next.sent socket <+: wire new) :
    Flowing (next.removePending socket) (Function.update frames socket new) := by
  have hdistinct : Keyed.Distinct PendingWrite.socket next.writes := hwrites ▸ h.distinct
  have hnodup : next.writePending.Nodup := hpending ▸ h.nodup
  have hfind : Keyed.find PendingWrite.socket socket (next.removePending socket).writes = none :=
    Keyed.find_remove_self hdistinct
  have hmem : socket ∉ (next.removePending socket).writePending := hnodup.not_mem_erase
  refine h.update ?_ ?_ ?_ ?_
  · refine ⟨fun t ht => ?_, fun t ht => ?_, hsent, hdead⟩
    · exact (Keyed.find_remove_of_ne ht).trans (by rw [hwrites])
    · exact (List.mem_erase_of_ne ht).trans (by rw [hpending])
  · exact hdistinct.remove socket
  · exact hnodup.erase socket
  · rcases hwire with hwire | ⟨hdead, hfront, hwire⟩
    · exact .whole hfind hmem hwire
    · exact .cut hfind hmem hdead hfront hwire

/-- What the network takes when a packet is gone on with are its next bytes. -/
theorem take_part_of_continueBufs {pw : PendingWrite} {last : Frame}
    (htotal : pw.total = pw.iovecs.flatten.length) (hiovecs : pw.iovecs.flatten = last.bytes)
    {part rest : List UInt8} (hsplit : (continueBufs pw.bytes 0 pw.iovecs).flatten = part ++ rest) :
    part.length ≤ pw.total - pw.bytes ∧
      last.bytes.take (pw.bytes + part.length) = last.bytes.take pw.bytes ++ part := by
  obtain ⟨more, hmore⟩ := continueBufs_prefix pw.bytes 0 pw.iovecs
  rw [hsplit, Nat.sub_zero, List.append_assoc] at hmore
  constructor
  · have hlen := congrArg List.length hmore
    rw [List.length_append, List.length_drop, ← htotal] at hlen
    omega
  · rw [List.take_add, ← hiovecs, ← hmore, List.take_left]

/-- Going on with a packet is always defined, and it gets on when the network takes anything. -/
theorem Flowing.writable {frames : ℕ → List Frame} (h : Flowing output frames)
    (hmem : socket ∈ output.writePending) (answer : WriteAnswer) :
    ∃ next, output.step encoding (.writable socket answer) = some (next, []) ∧ Flowing next frames ∧
      (¬ output.dead socket → ∀ count, answer = .taken (count + 1) →
        (output.sent socket).length < (next.sent socket).length) := by
  obtain ⟨pw, front, last, hfind, htotal, hlt, hframes, hiovecs, hsent⟩ : ∃ pw front last,
      Keyed.find PendingWrite.socket socket output.writes = some pw ∧ pw.total = pw.iovecs.flatten.length ∧
      pw.bytes < pw.total ∧ frames socket = front ++ [last] ∧ pw.iovecs.flatten = last.bytes ∧
      output.sent socket = wire front ++ last.bytes.take pw.bytes := by
    cases h.flow socket with
    | pending hfind _ htotal hlt hframes hiovecs hsent =>
        exact ⟨_, _, _, hfind, htotal, hlt, hframes, hiovecs, hsent⟩
    | whole _ hout => exact absurd hmem hout
    | cut _ hout => exact absurd hmem hout
  have hwire : wire (frames socket) = output.sent socket ++ last.bytes.drop pw.bytes := by
    rw [hframes, wire_append, wire_singleton, hsent, List.append_assoc, List.take_append_drop]
  rw [Output.step, if_pos hmem, Output.continueWrite, hfind]
  dsimp only
  rcases Output.writev_cases output socket (continueBufs pw.bytes 0 pw.iovecs) answer with
    ⟨dead, hwritev, hdead, hothers, hfailed⟩ | ⟨part, rest, _, hsplit, htaken, hwritev⟩
  · rw [hwritev]
    refine ⟨_, rfl, ?_, fun halive count hanswer => ?_⟩
    · have hfront : wire (frames socket).dropLast <+: output.sent socket := by
        rw [hframes, List.dropLast_concat, hsent]
        exact List.prefix_append _ _
      have hremove := h.removePending { output with dead } rfl rfl (fun _ _ => rfl) hothers _
        (.inr ⟨hdead, hfront, hwire ▸ List.prefix_append _ _⟩)
      rwa [Function.update_eq_self] at hremove
    · rcases hfailed with hfailed | hfailed
      · exact absurd hfailed halive
      · exact absurd (hanswer.symm.trans hfailed) (fun heq => nomatch heq)
  · obtain ⟨hpart, hpart'⟩ := take_part_of_continueBufs htotal hiovecs hsplit
    have hnew : output.sent socket ++ part = wire front ++ last.bytes.take (pw.bytes + part.length) := by
      rw [hsent, hpart', List.append_assoc]
    have hlonger : ∀ count, answer = .taken (count + 1) → (output.sent socket).length <
        (Function.update output.sent socket (output.sent socket ++ part) socket).length := by
      intro count hanswer
      have hne := continueBufs_ne_nil (show pw.bytes < 0 + pw.iovecs.flatten.length by omega) (by omega)
      have hpos := List.length_pos_of_ne_nil (htaken count hanswer hne)
      rw [Function.update_self, List.length_append]
      omega
    rw [hwritev]
    dsimp only
    by_cases hall : pw.bytes + part.length = pw.total
    · rw [if_pos hall]
      refine ⟨_, rfl, ?_, fun _ => hlonger⟩
      have hwhole : wire (frames socket) = output.sent socket ++ part := by
        rw [hnew, hall, htotal, hiovecs, List.take_length, hframes, wire_append, wire_singleton]
      have hremove := h.removePending
        { output with sent := Function.update output.sent socket (output.sent socket ++ part) } rfl rfl
        (fun t ht => Function.update_of_ne ht _ _) (fun _ _ => rfl) _
        (.inl (hwhole.trans (Function.update_self socket _ output.sent).symm))
      rwa [Function.update_eq_self] at hremove
    · rw [if_neg hall]
      refine ⟨_, rfl, ?_, fun _ => hlonger⟩
      have hsocket : pw.socket = socket := Keyed.key_of_find hfind
      subst hsocket
      rw [← Function.update_eq_self pw.socket frames]
      refine h.update ?_ ?_ ?_ ?_
      · exact ⟨fun t ht => Keyed.find_replace_of_ne ht, fun _ _ => Iff.rfl,
          fun t ht => Function.update_of_ne ht _ _, fun _ _ => rfl⟩
      · exact h.distinct.replace _
      · exact h.nodup
      · have hnext := Keyed.find_replace_self (a := { pw with bytes := pw.bytes + part.length }) hfind
        refine .pending hnext hmem htotal ?_ hframes hiovecs ?_
        · dsimp only
          omega
        · dsimp only
          rw [Function.update_self]
          exact hnew

theorem Flowing.reopen {frames : ℕ → List Frame} (h : Flowing output frames) (socket : ℕ) :
    ∃ next, output.step encoding (.reopen socket) = some (next, [.reopened socket]) ∧
      Flowing next (Function.update frames socket []) := by
  have hnew := h.removePending { output with
      sent := Function.update output.sent socket []
      dead := Function.update output.dead socket false } rfl rfl
    (fun t ht => Function.update_of_ne ht _ _) (fun t ht => Function.update_of_ne ht _ _) []
    (.inl (Function.update_self socket [] output.sent).symm)
  exact ⟨_, rfl, hnew⟩

theorem Flowing.step {signals : List (WriteSignal π)} {event : WriteEvent π}
    {next : Output × List (WriteSignal π)} (h : Flowing output (frames encoding signals))
    (hstep : output.step encoding event = some next) : Flowing next.1 (frames encoding (signals ++ next.2)) := by
  cases event with
  | send socket pack answer =>
      rcases h.send pack answer with ⟨output', hsend, hflow⟩ | ⟨output', hsend, hflow⟩
      · obtain rfl := Option.some.inj (hsend.symm.trans hstep)
        rwa [frames_refused]
      · obtain rfl := Option.some.inj (hsend.symm.trans hstep)
        rwa [frames_accepted]
  | writable socket answer =>
      by_cases hmem : socket ∈ output.writePending
      · obtain ⟨output', hwritable, hflow, _⟩ := h.writable hmem answer
        obtain rfl := Option.some.inj (hwritable.symm.trans hstep)
        rwa [List.append_nil]
      · rw [Output.step, if_neg hmem] at hstep
        exact absurd hstep (Option.some_ne_none _).symm
  | reopen socket =>
      obtain ⟨output', hreopen, hflow⟩ := h.reopen socket
      obtain rfl := Option.some.inj (hreopen.symm.trans hstep)
      rwa [frames_reopened]

theorem flowing_init (encoding : Encoding π) : Flowing .init (frames encoding []) :=
  ⟨List.nodup_nil, List.nodup_nil, fun _ => .whole rfl List.not_mem_nil rfl⟩

theorem flowing_run {events : List (WriteEvent π)} {result : Output × List (WriteSignal π)}
    (hrun : Runs.run (Output.step encoding) .init events = some result) :
    Flowing result.1 (frames encoding result.2) :=
  Runs.run_invariant (G := fun _ _ => True) (P := fun _ signals output => Flowing output (frames encoding signals))
    (flowing_init encoding) (fun _ _ _ _ _ h _ hstep => h.step hstep)
    (Runs.along_of_forall (fun _ _ => trivial) _ _) hrun

/-- All packets but the last are out, and nothing is out that is not of them. -/
theorem FlowAt.bounds {packs : List Frame} (h : FlowAt output socket packs) :
    wire packs.dropLast <+: output.sent socket ∧ output.sent socket <+: wire packs := by
  cases h with
  | pending _ _ _ _ hframes _ hsent =>
      rw [hframes, List.dropLast_concat, hsent, wire_append, wire_singleton, List.prefix_append_right_inj]
      exact ⟨List.prefix_append _ _, List.take_prefix _ _⟩
  | whole _ _ hwire => exact ⟨hwire ▸ wire_mono (List.dropLast_prefix _), hwire ▸ List.prefix_refl _⟩
  | cut _ _ _ hfront hwire => exact ⟨hfront, hwire⟩

theorem FlowAt.sent_eq {packs : List Frame} (h : FlowAt output socket packs)
    (hidle : socket ∉ output.writePending) (halive : ¬ output.dead socket) : output.sent socket = wire packs := by
  cases h with
  | pending _ hmem => exact absurd hmem hidle
  | whole _ _ hwire => exact hwire.symm
  | cut _ _ hdead => exact absurd hdead halive

namespace Output

/-- Every run of sends and writes on any number of sockets, of packets of any kind and whatever part of a
buffer the network takes each time. What is out on a connection are the packets accepted on it, back to back
in the order of the calls, cut at most inside the last of them: a pending write is the rest of that one, and
when nothing is pending and no error has been reported all of it is out. A pending packet can always be
continued, and gets on whenever the network takes anything. -/
theorem bytes_in_order {π : Type} (encoding : Encoding π) (events : List (WriteEvent π)) (output : Output)
    (signals : List (WriteSignal π)) (hrun : Runs.run (step encoding) init events = some (output, signals))
    (socket : ℕ) :
    (wire (frames encoding signals socket).dropLast <+: output.sent socket ∧
      output.sent socket <+: wire (frames encoding signals socket)) ∧
    (socket ∉ output.writePending → ¬ output.dead socket →
      output.sent socket = wire (frames encoding signals socket)) ∧
    (socket ∈ output.writePending →
      (∃ (pw : PendingWrite) (last : Frame), Keyed.find PendingWrite.socket socket output.writes = some pw ∧
        (frames encoding signals socket).getLast? = some last ∧ pw.iovecs.flatten = last.bytes ∧
        pw.bytes < last.bytes.length ∧
        output.sent socket = wire (frames encoding signals socket).dropLast ++ last.bytes.take pw.bytes) ∧
      ∀ answer, ∃ next, output.step encoding (.writable socket answer) = some (next, []) ∧
        (¬ output.dead socket → ∀ count, answer = .taken (count + 1) →
          (output.sent socket).length < (next.sent socket).length)) := by
  have hflowing := flowing_run hrun
  refine ⟨(hflowing.flow socket).bounds, (hflowing.flow socket).sent_eq, fun hmem => ⟨?_, fun answer => ?_⟩⟩
  · cases hflowing.flow socket with
    | pending hfind _ htotal hlt hframes hiovecs hsent =>
        rw [htotal, hiovecs] at hlt
        rw [hframes, List.dropLast_concat, List.getLast?_concat]
        exact ⟨_, _, hfind, rfl, hiovecs, hlt, hsent⟩
    | whole _ hout => exact absurd hmem hout
    | cut _ hout => exact absurd hmem hout
  · obtain ⟨next, hstep, _, hprogress⟩ := hflowing.writable hmem answer
    exact ⟨next, hstep, hprogress⟩

/-- A ping and an acknowledgement, the second in parts that end in the middle of its buffers; at the end two of
its bytes are out. -/
theorem bytes_in_order_parts :
    ∃ output signals, Runs.run (step Encoding.sends) init
        [.send 3 (0xC0, []) (.taken 9), .send 3 (0x40, [[0, 1]]) (.taken 1), .writable 3 .again,
          .writable 3 (.taken 1)] = some (output, signals) ∧
      output.sent 3 = [0xC0, 0, 0x40, 2] ∧
      ∃ (pw : PendingWrite) (last : Frame), Keyed.find PendingWrite.socket 3 output.writes = some pw ∧
        pw.iovecs.flatten = last.bytes ∧ pw.bytes < last.bytes.length := by
  have hpending : (Runs.run (step Encoding.sends) init
      [.send 3 (0xC0, []) (.taken 9), .send 3 (0x40, [[0, 1]]) (.taken 1), .writable 3 .again,
        .writable 3 (.taken 1)]).map
        (fun result => (decide (3 ∈ result.1.writePending), result.1.sent 3)) =
      some (true, [0xC0, 0, 0x40, 2]) := by
    decide +kernel
  obtain ⟨⟨output, signals⟩, hrun, heq⟩ := Option.map_eq_some_iff.mp hpending
  rw [Prod.mk.injEq] at heq
  obtain ⟨⟨pw, last, hfind, _, hiovecs, hlt, _⟩, _⟩ :=
    (bytes_in_order Encoding.sends _ output signals hrun 3).2.2 (of_decide_eq_true heq.1)
  exact ⟨output, signals, hrun, heq.2, pw, last, hfind, hiovecs, hlt⟩

end Output

/-! ### From one end of a connection to the other -/

/-- A numeral shows where it ends. -/
theorem Numeral.append_inj {bytes bytes' rest rest' : List UInt8} {n n' : ℕ} (h : Numeral bytes n)
    (h' : Numeral bytes' n') (heq : bytes ++ rest = bytes' ++ rest') : n = n' ∧ rest = rest' := by
  induction h generalizing bytes' n' with
  | last hlast =>
      cases h' with
      | last hlast' =>
          obtain ⟨rfl, hrest⟩ := List.cons.inj heq
          exact ⟨rfl, hrest⟩
      | more hmore hrest =>
          obtain ⟨rfl, _⟩ := List.cons.inj heq
          exact absurd hlast hmore
  | more hmore hrest ih =>
      cases h' with
      | last hlast' =>
          obtain ⟨rfl, _⟩ := List.cons.inj heq
          exact absurd hlast' hmore
      | more hmore' hrest' =>
          obtain ⟨rfl, htail⟩ := List.cons.inj heq
          obtain ⟨rfl, hrest⟩ := ih hrest' htail
          exact ⟨rfl, hrest⟩

theorem Frame.bytes_append_inj {frame frame' : Frame} {rest rest' : List UInt8}
    (h : frame.bytes ++ rest = frame'.bytes ++ rest') : frame = frame' ∧ rest = rest' := by
  rw [Frame.bytes, Frame.bytes, Frame.fixedHeader, Frame.fixedHeader, List.cons_append, List.cons_append,
    List.cons_append, List.cons_append, List.cons.injEq, List.append_assoc, List.append_assoc] at h
  obtain ⟨hlen, hdata⟩ := (numeral_MQTTPacketEncode frame.data.length).append_inj
    (numeral_MQTTPacketEncode frame'.data.length) h.2
  obtain ⟨hdata, hrest⟩ := List.append_inj hdata hlen
  obtain ⟨header, data⟩ := frame
  obtain ⟨header', data'⟩ := frame'
  obtain rfl : header = header' := h.1
  obtain rfl : data = data' := hdata
  exact ⟨rfl, hrest⟩

theorem Frame.bytes_ne_nil (frame : Frame) : frame.bytes ≠ [] := List.cons_ne_nil _ _

theorem wire_cons (frame : Frame) (frames : List Frame) : wire (frame :: frames) = frame.bytes ++ wire frames :=
  List.flatMap_cons

/-- The bytes of a connection determine its packets. -/
theorem prefix_of_wire {frames frames' : List Frame} (h : wire frames <+: wire frames') : frames <+: frames' := by
  induction frames generalizing frames' with
  | nil => exact List.nil_prefix
  | cons frame frames ih =>
      rw [wire_cons] at h
      cases frames' with
      | nil => exact absurd (List.append_eq_nil_iff.mp (List.prefix_nil.mp h)).1 frame.bytes_ne_nil
      | cons frame' frames' =>
          obtain ⟨rest, heq⟩ := h
          rw [wire_cons, List.append_assoc] at heq
          obtain ⟨rfl, hrest⟩ := Frame.bytes_append_inj heq
          exact (List.prefix_cons_inj frame).mpr (ih ⟨rest, hrest⟩)

/-- A packet that has not come as a whole is none of those that have. -/
theorem prefix_of_wire_part {frames done : List Frame} {frame : Frame} {c : ℕ} (hc : c < frame.bytes.length)
    (h : wire frames <+: wire done ++ frame.bytes.take c) : frames <+: done := by
  have hwhole : wire frames <+: wire (done ++ [frame]) := by
    rw [wire_append, wire_singleton]
    exact h.trans ((List.prefix_append_right_inj _).mpr (List.take_prefix c frame.bytes))
  rcases List.prefix_concat_iff.mp (prefix_of_wire hwhole) with rfl | hdone
  · have hlen := h.length_le
    rw [wire_append, wire_singleton, List.length_append, List.length_append, List.length_take] at hlen
    omega
  · exact hdone

/-- The packets that the other side was to send on the present connection of a socket. -/
def promised (socket : ℕ) : List SocketSignal → List Frame :=
  List.foldl (fun frames signal =>
    match signal with
    | .connected t new => if t = socket then new else frames
    | .packet _ _ => frames
    | .lost t => if t = socket then [] else frames) []

/-- What `MQTTPacket_Factory` has made of those that have come. -/
def returned (socket : ℕ) : List SocketSignal → List Outcome :=
  List.foldl (fun outcomes signal =>
    match signal with
    | .connected t _ => if t = socket then [] else outcomes
    | .packet t outcome => if t = socket then outcomes ++ [outcome] else outcomes
    | .lost t => if t = socket then [] else outcomes) []

theorem Served.returned {signals : List SocketSignal} {owed : ℕ → List Frame} (h : Served signals owed)
    (socket : ℕ) : ∃ done, promised socket signals = done ++ owed socket ∧
      (returned socket signals).map some = done.map fun frame => newPacket frame.header frame.data := by
  induction h with
  | nil => exact ⟨[], rfl, rfl⟩
  | @connected signals owed t h hnone frames ih =>
      rw [promised, Paho.returned, List.foldl_append, List.foldl_append, Function.update_apply]
      change ∃ done, (if t = socket then frames else promised socket signals) = done ++ _ ∧
        (if t = socket then [] else Paho.returned socket signals).map some = _
      by_cases ht : t = socket
      · rw [if_pos ht, if_pos ht, if_pos ht.symm]
        exact ⟨[], rfl, rfl⟩
      · rw [if_neg ht, if_neg ht, if_neg (Ne.symm ht)]
        exact ih
  | @packet signals owed t frame rest outcome h hnext hpacket ih =>
      rw [promised, Paho.returned, List.foldl_append, List.foldl_append, Function.update_apply]
      change ∃ done, promised socket signals = done ++ _ ∧
        (if t = socket then Paho.returned socket signals ++ [outcome] else Paho.returned socket signals).map some = _
      by_cases ht : t = socket
      · rw [if_pos ht, if_pos ht.symm]
        obtain ⟨done, hpromised, hreturned⟩ := ih
        refine ⟨done ++ [frame], ?_, ?_⟩
        · rw [hpromised, ← ht, hnext, List.append_assoc, List.singleton_append]
        · rw [List.map_append, List.map_append, hreturned, List.map_singleton, List.map_singleton, hpacket]
      · rw [if_neg ht, if_neg (Ne.symm ht)]
        exact ih
  | @lost signals owed h t ih =>
      rw [promised, Paho.returned, List.foldl_append, List.foldl_append, Function.update_apply]
      change ∃ done, (if t = socket then [] else promised socket signals) = done ++ _ ∧
        (if t = socket then [] else Paho.returned socket signals).map some = _
      by_cases ht : t = socket
      · rw [if_pos ht, if_pos ht, if_pos ht.symm]
        exact ⟨[], rfl, rfl⟩
      · rw [if_neg ht, if_neg ht, if_neg (Ne.symm ht)]
        exact ih

/-- Of the packets that are to come, those have been read as a whole whose bytes have. -/
theorem Sockets.Ready.read {sockets : Sockets} {owed : ℕ → List Frame} (h : sockets.Ready owed) {peer : ℕ}
    {done : List Frame} {read : List UInt8}
    (hread : wire (done ++ owed peer) = read ++ sockets.net.inbox peer) :
    wire done <+: read ∧ ∀ frames, wire frames <+: read → frames <+: done := by
  have hwaiting := h.waiting peer
  rw [wire_append] at hread
  cases howed : owed peer with
  | nil =>
      rw [howed] at hwaiting hread
      rw [hwaiting.2, List.append_nil, show wire [] = [] from rfl, List.append_nil] at hread
      rw [← hread]
      exact ⟨List.prefix_refl _, fun frames => prefix_of_wire⟩
  | cons frame rest =>
      rw [howed] at hwaiting hread
      obtain ⟨c, hc, _, hinbox⟩ := hwaiting
      have hpart : read = wire done ++ frame.bytes.take c := by
        rw [hinbox, wire_cons, ← List.take_append_drop c frame.bytes, List.append_assoc, ← List.append_assoc (wire done),
          List.take_append_drop c frame.bytes] at hread
        exact (List.append_cancel_right hread).symm
      rw [hpart]
      exact ⟨List.prefix_append _ _, fun frames => prefix_of_wire_part hc⟩

/-- The packets that the callers hand over are in the ranges of their fields. -/
def WriteEvent.Valid : WriteEvent ClientPacket → Prop
  | send _ pack _ => pack.Valid
  | writable _ _ => True
  | reopen _ => True

theorem Output.accepted_of_step {encoding : Encoding π} {output : Output} {event : WriteEvent π}
    {next : Output × List (WriteSignal π)} (hstep : output.step encoding event = some next) {socket : ℕ} {pack : π}
    (hmem : .accepted socket pack ∈ next.2) : ∃ answer, event = .send socket pack answer := by
  cases event with
  | send socket' pack' answer =>
      rw [Output.step] at hstep
      split at hstep
      all_goals
        obtain rfl := Option.some.inj hstep
        cases List.mem_singleton.mp hmem
      · exact ⟨answer, rfl⟩
      · exact ⟨answer, rfl⟩
  | writable socket' answer =>
      rw [Output.step] at hstep
      split at hstep
      · obtain ⟨_, _, rfl⟩ := Option.map_eq_some_iff.mp hstep
        exact absurd hmem List.not_mem_nil
      · cases hstep
  | reopen socket' =>
      obtain rfl := Option.some.inj hstep
      cases List.mem_singleton.mp hmem

theorem mem_of_accepted {socket : ℕ} {pack : π} {signals : List (WriteSignal π)}
    (h : pack ∈ accepted socket signals) : .accepted socket pack ∈ signals := by
  induction signals using List.reverseRecOn with
  | nil => exact absurd h List.not_mem_nil
  | append_singleton signals signal ih =>
      rw [accepted, List.foldl_append] at h
      cases signal with
      | accepted t pack' =>
          change pack ∈ if t = socket then accepted socket signals ++ [pack'] else accepted socket signals at h
          split at h
          · next ht =>
              rcases List.mem_append.mp h with hold | hnew
              · exact List.mem_append_left _ (ih hold)
              · rw [List.mem_singleton.mp hnew, ht]
                exact List.mem_append_right _ List.mem_cons_self
          · exact List.mem_append_left _ (ih h)
      | refused t => exact List.mem_append_left _ (ih h)
      | reopened t =>
          change pack ∈ if t = socket then [] else accepted socket signals at h
          split at h
          · exact absurd h List.not_mem_nil
          · exact List.mem_append_left _ (ih h)

theorem valid_of_accepted {events : List (WriteEvent ClientPacket)} (hvalid : ∀ event ∈ events, event.Valid)
    {result : Output × List (WriteSignal ClientPacket)}
    (hrun : Runs.run (Output.step Encoding.client) .init events = some result) {socket : ℕ} {pack : ClientPacket}
    (hpack : pack ∈ accepted socket result.2) : pack.Valid := by
  have hsignals := Runs.run_invariant (G := fun _ event => event.Valid)
    (P := fun _ signals _ => ∀ socket pack, .accepted socket pack ∈ signals → pack.Valid)
    (fun _ _ hmem => absurd hmem List.not_mem_nil)
    (fun _ _ _ event _ h hevent hstep socket pack hmem => by
      rcases List.mem_append.mp hmem with hold | hnew
      · exact h socket pack hold
      · obtain ⟨answer, rfl⟩ := Output.accepted_of_step hstep hnew
        exact hevent)
    (Runs.along_of_forall_mem hvalid Output.init) hrun
  exact hsignals socket pack (mem_of_accepted hpack)

/-- Two ends with this library and a connection between them: the bytes that one of them has read are the first
of those that the other one's writes have put on it, in whatever parts the network took them and whatever is
pending. What the reader has got, in whatever parts it read the bytes and whatever it did on other sockets, are
the first of the packets that were handed to the functions of the sender and accepted. When it has read all that
is out, these are all of them but perhaps the last; and all, when nothing is pending and the writes have not
failed. -/
theorem end_to_end (writes : List (WriteEvent ClientPacket)) (hvalid : ∀ event ∈ writes, event.Valid)
    (output : Output) (writeSignals : List (WriteSignal ClientPacket))
    (hwrites : Runs.run (Output.step Encoding.client) .init writes = some (output, writeSignals)) (socket : ℕ)
    (memory : List UInt8) (reads : List SocketEvent) (hfits : ∀ event ∈ reads, event.Fits)
    (sockets : Sockets) (signals : List SocketSignal)
    (hreads : Runs.run Sockets.step (.init memory) reads = some (sockets, signals)) (peer : ℕ)
    (read : List UInt8) (hread : wire (promised peer signals) = read ++ sockets.net.inbox peer)
    (hstream : read <+: output.sent socket) :
    returned peer signals <+: (accepted socket writeSignals).map ClientPacket.outcome ∧
      (read = output.sent socket →
        ((accepted socket writeSignals).map ClientPacket.outcome).dropLast <+: returned peer signals ∧
        (socket ∉ output.writePending → ¬ output.dead socket →
          returned peer signals = (accepted socket writeSignals).map ClientPacket.outcome)) := by
  have hflow := (flowing_run hwrites).flow socket
  obtain ⟨owed, hsound⟩ := Sockets.sound_run hfits hreads
  obtain ⟨done, hpromised, hreturned⟩ := hsound.served.returned peer
  rw [hpromised] at hread
  obtain ⟨hdone, hcome⟩ := hsound.ready.read hread
  have hprefix : done <+: frames Encoding.client writeSignals socket :=
    prefix_of_wire ((hdone.trans hstream).trans hflow.bounds.2)
  obtain ⟨last, hlast⟩ := hprefix
  obtain ⟨first, rest, hpacks, rfl, rfl⟩ := List.map_eq_append_iff.mp hlast.symm
  have hfirst : returned peer signals = first.map ClientPacket.outcome := by
    rw [List.map_map] at hreturned
    have hparsed : first.map ((fun frame => newPacket frame.header frame.data) ∘ Encoding.client.frame) =
        (first.map ClientPacket.outcome).map some := by
      rw [List.map_map]
      refine List.map_congr_left fun pack hmem => ?_
      have hpack : pack ∈ accepted socket writeSignals := by
        rw [hpacks]
        exact List.mem_append_left _ hmem
      exact ClientPacket.newPacket_frame (valid_of_accepted hvalid hwrites hpack)
    exact List.map_injective_iff.mpr (fun _ _ => Option.some.inj) (hreturned.trans hparsed)
  have hfew : returned peer signals <+: (accepted socket writeSignals).map ClientPacket.outcome := by
    rw [hfirst, hpacks, List.map_append]
    exact List.prefix_append _ _
  refine ⟨hfew, fun hall => ⟨?_, fun hidle halive => ?_⟩⟩
  · have hlen := (hcome _ (hall ▸ hflow.bounds.1)).length_le
    rw [frames, List.length_dropLast, List.length_map, List.length_map] at hlen
    refine List.prefix_of_prefix_length_le (List.dropLast_prefix _) hfew ?_
    rw [List.length_dropLast, List.length_map, hfirst, List.length_map]
    exact hlen
  · have hout : wire (frames Encoding.client writeSignals socket) <+: read :=
      hflow.sent_eq hidle halive ▸ hall ▸ List.prefix_refl _
    have hlen := (hcome _ hout).length_le
    refine hfew.eq_of_length_le ?_
    rw [hfirst, List.length_map, List.length_map]
    rwa [frames, List.length_map, List.length_map] at hlen

/-- The publication of the example. -/
def samplePublish : Outgoing := .publish ⟨0, [97], 7, [98]⟩ 0 1 0

/-- A publication that goes out in two parts and is read in three calls, and the first byte of a ping. -/
theorem end_to_end_publish :
    ∃ output writeSignals sockets signals,
      Runs.run (Output.step Encoding.client) .init
        [.send 3 (.outgoing samplePublish) (.taken 5), .writable 3 (.taken 9), .send 3 .pingreq (.taken 1)] =
          some (output, writeSignals) ∧
      Runs.run Sockets.step (.init []) [.connect 5 [samplePublish.frame, ⟨0xC0, []⟩],
        .cycle 5 [.ready 0] [], .cycle 5 [.ready 3, .ready 1] [], .cycle 5 [.ready 9] [], .cycle 5 [.ready 0] []] =
          some (sockets, signals) ∧
      3 ∈ output.writePending ∧ [.packet samplePublish.packet] <+: returned 5 signals := by
  have hwrites : (Runs.run (Output.step Encoding.client) .init
      [.send 3 (.outgoing samplePublish) (.taken 5), .writable 3 (.taken 9), .send 3 .pingreq (.taken 1)]).map
        (fun result => (decide (3 ∈ result.1.writePending), (accepted 3 result.2).map ClientPacket.outcome,
          result.1.sent 3)) =
      some (true, [.packet samplePublish.packet, .packet (.headerOnly 0xC0)],
        samplePublish.frame.bytes ++ [0xC0]) := by decide +kernel
  have hreads : (Runs.run Sockets.step (.init []) [.connect 5 [samplePublish.frame, ⟨0xC0, []⟩],
      .cycle 5 [.ready 0] [], .cycle 5 [.ready 3, .ready 1] [], .cycle 5 [.ready 9] [], .cycle 5 [.ready 0] []]).map
        (fun result => (promised 5 result.2, result.1.net.inbox 5)) =
      some ([samplePublish.frame, ⟨0xC0, []⟩], [0]) := by decide +kernel
  have hvalid : samplePublish.Valid := ⟨by decide, by decide, by decide, by decide⟩
  obtain ⟨⟨output, writeSignals⟩, hwrite, hout⟩ := Option.map_eq_some_iff.mp hwrites
  obtain ⟨⟨sockets, signals⟩, hread, hin⟩ := Option.map_eq_some_iff.mp hreads
  rw [Prod.mk.injEq, Prod.mk.injEq] at hout
  rw [Prod.mk.injEq] at hin
  dsimp only at hout hin
  refine ⟨output, writeSignals, sockets, signals, hwrite, hread, of_decide_eq_true hout.1, ?_⟩
  have hfits : ∀ frame ∈ [samplePublish.frame, ⟨0xC0, []⟩], frame.Fits :=
    List.forall_mem_cons.mpr ⟨Outgoing.fits_frame hvalid,
      List.forall_mem_singleton.mpr (@ClientPacket.fits_frame .pingreq trivial)⟩
  have hends := end_to_end _ (by simp [WriteEvent.Valid, ClientPacket.Valid, hvalid]) output writeSignals hwrite 3 []
    _ (by simpa [SocketEvent.Fits] using hfits) sockets signals hread 5
    (samplePublish.frame.bytes ++ [0xC0]) (by rw [hin.1, hin.2]; decide +kernel)
    (hout.2.2 ▸ List.prefix_refl _)
  have hall := (hends.2 hout.2.2.symm).1
  rw [hout.2.1] at hall
  exact hall

end LinuxGateway.Paho
