import LinuxGateway.PahoSocket

/-! The packets on the connections of the MQTT client library. However the network cuts the bytes of a
connection, and however the calls on the sockets of the clients follow each other, the library returns
the packets of each connection in order, each of them once. -/

namespace LinuxGateway.Paho

open SocketBuffer

/-- Some `recv` reported a closed connection or an error. -/
def Faulty (answers : List Answer) : Prop := .closed ∈ answers ∨ .failed ∈ answers

namespace Net

/-- `select` has reported that the socket can be read: the next `recv` does not have to wait. -/
def selected (net : Net) (socket : ℕ) : Bool :=
  match net.answers with
  | [] => false
  | .ready _ :: _ => net.inbox socket ≠ []
  | .again :: _ => false
  | .closed :: _ => true
  | .failed :: _ => true

theorem recv_cases (net : Net) (socket : ℕ) {n : ℕ} (hn : 0 < n) :
    (∃ c got rest answers, net.inbox socket = c :: got ++ rest ∧ got.length < n ∧ answers ⊆ net.answers ∧
      net.recv socket n =
        (.bytes (c :: got), { net with answers, inbox := Function.update net.inbox socket rest })) ∨
    (∃ answers, answers ⊆ net.answers ∧ ¬ net.selected socket ∧
      net.recv socket n = (.again, { net with answers })) ∨
    (∃ answers, Faulty net.answers ∧ (net.recv socket n = (.closed, { net with answers }) ∨
      net.recv socket n = (.failed, { net with answers }))) := by
  obtain ⟨buffer, inbox, answers, memory⟩ := net
  rw [recv, if_neg hn.ne', selected]
  dsimp only
  cases answers with
  | nil => exact .inr (.inl ⟨[], List.Subset.refl _, Bool.false_ne_true, rfl⟩)
  | cons answer answers =>
      have hsub : answers ⊆ answer :: answers := List.subset_cons_self _ _
      cases answer with
      | again => exact .inr (.inl ⟨answers, hsub, Bool.false_ne_true, rfl⟩)
      | closed => exact .inr (.inr ⟨answers, .inl List.mem_cons_self, .inl rfl⟩)
      | failed => exact .inr (.inr ⟨answers, .inr List.mem_cons_self, .inr rfl⟩)
      | ready more =>
          dsimp only
          cases htake : (inbox socket).take (min n (more + 1)) with
          | nil =>
              have hempty : inbox socket = [] := by
                rcases List.take_eq_nil_iff.mp htake with hzero | hnil
                · omega
                · exact hnil
              exact .inr (.inl ⟨answers, hsub, fun hne => of_decide_eq_true hne hempty, rfl⟩)
          | cons c got =>
              have hlen := congrArg List.length htake
              rw [List.length_take, List.length_cons] at hlen
              have hsplit := List.take_append_drop (got.length + 1) (inbox socket)
              have hgot : (inbox socket).take (got.length + 1) = c :: got := by
                rw [← htake, List.take_eq_take_iff]
                omega
              rw [hgot] at hsplit
              exact .inl ⟨c, got, _, answers, hsplit.symm, by omega, hsub, rfl⟩

end Net

/-! ### One call -/

section Call

variable {start net : Net} {socket : ℕ} {frame : Frame} {tail : List UInt8} {c k : ℕ}

/-- A call that began in `start` has got `k` bytes of `frame`, of which `c` have been read. -/
structure Reading (start net : Net) (socket : ℕ) (frame : Frame) (tail : List UInt8) (c k : ℕ) : Prop where
  call : start.buffer.InCall net.buffer socket (frame.fixedHeader.take c)
    (frame.data.take (c - frame.fixedHeader.length)) k
  inbox : net.inbox socket = frame.bytes.drop c ++ tail
  others : ∀ t, t ≠ socket → net.inbox t = start.inbox t
  answers : net.answers ⊆ start.answers

/-- The call has ended in the middle of `frame`. -/
structure Paused (start net : Net) (socket : ℕ) (frame : Frame) (tail : List UInt8) (c : ℕ) : Prop where
  reading : Reading start net socket frame tail c 0
  settled : net.buffer.Settled
  lt : c < frame.bytes.length

/-- The call has ended with an error of the network. -/
structure Broken (start net : Net) (socket : ℕ) : Prop where
  call : ∃ header data k, start.buffer.InCall net.buffer socket header data k
  others : ∀ t, t ≠ socket → net.inbox t = start.inbox t
  faulty : Faulty start.answers

/-- What a function called by `MQTTPacket_Factory` leaves; `Q` is about its result. -/
def Ended (start : Net) (socket : ℕ) (frame : Frame) (tail : List UInt8) {α : Type} (Q : α → Net → Prop) :
    Rc α × Net → Prop
  | (.complete a, net) => Q a net
  | (.interrupted, net) => ∃ c, Paused start net socket frame tail c
  | (.error, net) => Broken start net socket

theorem Faulty.mono {answers answers' : List Answer} (h : Faulty answers) (hsub : answers ⊆ answers') :
    Faulty answers' :=
  h.imp (fun hclosed => hsub hclosed) fun hfailed => hsub hfailed

theorem update_others {t : ℕ} (h : ∀ t, t ≠ socket → net.inbox t = start.inbox t) (rest : List UInt8)
    (ht : t ≠ socket) : Function.update net.inbox socket rest t = start.inbox t := by
  rw [Function.update_of_ne ht]
  exact h t ht

theorem getch_replay (h : Reading start net socket frame tail c k) {byte : UInt8}
    (hbyte : frame.fixedHeader[k]? = some byte) (hk : k < c) :
    ∃ next, net.getch socket = (.complete byte, next) ∧ Reading start next socket frame tail c (k + 1) := by
  have hreplay : (frame.fixedHeader.take c)[k]? = some byte := by rw [List.getElem?_take_of_lt hk, hbyte]
  obtain ⟨buffer, hget, hcall⟩ := getQueuedChar_replay h.call hreplay
  refine ⟨{ net with buffer }, ?_, hcall, h.inbox, h.others, h.answers⟩
  rw [Net.getch, hget]

theorem getch_fresh (h : Reading start net socket frame tail c c) (hsocket : socket ≠ 0) (hfits : frame.Fits)
    {byte : UInt8} (hbyte : frame.fixedHeader[c]? = some byte) (hselected : c = 0 → net.selected socket) :
    Ended start socket frame tail
      (fun got next => got = byte ∧ Reading start next socket frame tail (c + 1) (c + 1))
      (net.getch socket) := by
  have hlt : c < frame.fixedHeader.length := (List.getElem?_eq_some_iff.mp hbyte).1
  have hlen : (frame.fixedHeader.take c).length = c := by rw [List.length_take]; omega
  have hle : (frame.fixedHeader.take c).length ≤ 4 := by
    have := Frame.length_fixedHeader_le hfits
    omega
  have hcall := h.call
  rw [Nat.sub_eq_zero_of_le hlt.le, List.take_zero] at hcall
  have hend : start.buffer.InCall net.buffer socket (frame.fixedHeader.take c) []
      (frame.fixedHeader.take c).length := by rw [hlen]; exact hcall
  have hdrop : frame.bytes.drop c = byte :: frame.bytes.drop (c + 1) := by
    rw [← List.getElem_cons_drop (show c < frame.bytes.length by
      rw [Frame.bytes, List.length_append]; omega)]
    congr 1
    have hget : frame.bytes[c]? = some byte := by rw [Frame.bytes, List.getElem?_append_left hlt, hbyte]
    exact (List.getElem?_eq_some_iff.mp hget).2
  rw [Net.getch, getQueuedChar_end hend hle]
  dsimp only
  rcases Net.recv_cases net socket Nat.one_pos with ⟨d, got, rest, answers, hinbox, hgot, hsub, hrecv⟩ |
    ⟨answers, hsub, hwait, hrecv⟩ | ⟨answers, hfaulty, hrecv⟩
  · obtain rfl : got = [] := List.length_eq_zero_iff.mp (by omega)
    rw [h.inbox, hdrop, List.cons_append, List.cons_append, List.cons.injEq] at hinbox
    obtain ⟨rfl, rfl⟩ := hinbox
    rw [hrecv]
    refine ⟨rfl, ?_, ?_, fun t ht => update_others h.others _ ht, List.Subset.trans hsub h.answers⟩
    · have hnext := queueChar_inCall hend hle hsocket byte
      have htake : frame.fixedHeader.take (c + 1) = frame.fixedHeader.take c ++ [byte] := by
        rw [List.take_add_one, hbyte, Option.toList_some]
      rw [← htake] at hnext
      rw [Nat.sub_eq_zero_of_le hlt, List.take_zero]
      rwa [List.length_take, Nat.min_eq_left hlt] at hnext
    · exact Function.update_self _ _ _
  · rw [hrecv]
    have hpos : c ≠ 0 := fun hzero => hwait (hselected hzero)
    have hne : frame.fixedHeader.take c ≠ [] := by
      rw [Ne, ← List.length_eq_zero_iff, hlen]
      exact hpos
    obtain ⟨hkept, hsettled⟩ := interrupted_inCall hend hne net.memory []
    refine ⟨c, ⟨?_, h.inbox, h.others, List.Subset.trans hsub h.answers⟩, hsettled, ?_⟩
    · rw [Nat.sub_eq_zero_of_le hlt.le, List.take_zero]
      exact hkept
    · rw [Frame.bytes, List.length_append]
      omega
  · have hbroken : Broken start { net with answers } socket :=
      ⟨⟨_, _, _, hend⟩, h.others, hfaulty.mono h.answers⟩
    rcases hrecv with hrecv | hrecv <;> rw [hrecv] <;> exact hbroken

theorem getch_ended (h : Reading start net socket frame tail c k) (hsocket : socket ≠ 0) (hfits : frame.Fits)
    {byte : UInt8} (hbyte : frame.fixedHeader[k]? = some byte) (hk : k ≤ c)
    (hselected : c = 0 → net.selected socket) :
    Ended start socket frame tail
      (fun got next => got = byte ∧ Reading start next socket frame tail (max c (k + 1)) (k + 1))
      (net.getch socket) := by
  rcases hk.lt_or_eq with hlt | rfl
  · obtain ⟨next, hget, hnext⟩ := getch_replay h hbyte hlt
    rw [hget, Nat.max_eq_left hlt]
    exact ⟨rfl, hnext⟩
  · rw [Nat.max_eq_right (Nat.le_succ k)]
    exact getch_fresh h hsocket hfits hbyte hselected

/-- The digits of the remaining length that are still to be taken are `digits`. -/
theorem decodeLoop_ended (hsocket : socket ≠ 0) (hfits : frame.Fits) {digits : List UInt8} {n : ℕ}
    (hdigits : Numeral digits n) : ∀ {net : Net} {c k : ℕ} (left multiplier value : ℕ),
      Reading start net socket frame tail c k → frame.fixedHeader.drop k = digits → k ≤ c → 0 < c →
      digits.length ≤ left →
      Ended start socket frame tail (fun length next => length = value + n * multiplier ∧
          Reading start next socket frame tail (max c frame.fixedHeader.length) frame.fixedHeader.length)
        (Net.decodeLoop socket left multiplier value net) := by
  induction hdigits with
  | @last d hlast =>
      intro net c k left multiplier value h hdrop hk hc hleft
      obtain ⟨left, rfl⟩ := Nat.exists_eq_succ_of_ne_zero (show left ≠ 0 from Nat.pos_iff_ne_zero.mp hleft)
      have hbyte : frame.fixedHeader[k]? = some d := by rw [← List.head?_drop, hdrop, List.head?_cons]
      have hlength : frame.fixedHeader.length = k + 1 := by
        have hlen := congrArg List.length hdrop
        rw [List.length_drop, List.length_singleton] at hlen
        omega
      have hget := getch_ended h hsocket hfits hbyte hk fun hzero => absurd hzero hc.ne'
      rw [Net.decodeLoop]
      generalize net.getch socket = result at hget
      obtain ⟨got | _ | _, next⟩ := result
      · obtain ⟨rfl, hnext⟩ := hget
        dsimp only
        rw [if_neg (not_not.mpr hlast), hlength]
        exact ⟨rfl, hnext⟩
      · exact hget
      · exact hget
  | @more d digits n hmore _ ih =>
      intro net c k left multiplier value h hdrop hk hc hleft
      obtain ⟨left, rfl⟩ := Nat.exists_eq_succ_of_ne_zero
        (show left ≠ 0 from Nat.pos_iff_ne_zero.mp (Nat.zero_lt_of_lt hleft))
      have hbyte : frame.fixedHeader[k]? = some d := by rw [← List.head?_drop, hdrop, List.head?_cons]
      have hdrop' : frame.fixedHeader.drop (k + 1) = digits := by
        rw [← List.tail_drop, hdrop, List.tail_cons]
      have hlong : k + 1 ≤ frame.fixedHeader.length := (List.getElem?_eq_some_iff.mp hbyte).1
      have hget := getch_ended h hsocket hfits hbyte hk fun hzero => absurd hzero hc.ne'
      rw [Net.decodeLoop]
      generalize net.getch socket = result at hget
      obtain ⟨got | _ | _, next⟩ := result
      · obtain ⟨rfl, hnext⟩ := hget
        dsimp only
        rw [if_pos hmore]
        have hrest := ih left (multiplier * 128) (value + (got &&& 127).toNat * multiplier) hnext hdrop'
          (le_max_right c (k + 1)) (Nat.lt_of_lt_of_le hc (le_max_left c (k + 1))) (Nat.le_of_succ_le_succ hleft)
        have hvalue : value + (got &&& 127).toNat * multiplier + n * (multiplier * 128) =
            value + ((got &&& 127).toNat + 128 * n) * multiplier := by
          rw [Nat.add_mul, Nat.mul_comm multiplier 128, ← Nat.mul_assoc, Nat.mul_comm n 128, Nat.add_assoc]
        rw [hvalue, Nat.max_assoc, Nat.max_eq_right hlong] at hrest
        exact hrest
      · exact hget
      · exact hget

/-- The call has ended with the whole of `frame`, and what follows it is still to be read. -/
structure Done (start net : Net) (socket : ℕ) (tail : List UInt8) : Prop where
  call : start.buffer.InCall net.buffer socket [] [] 0
  settled : net.buffer.Settled
  inbox : net.inbox socket = tail
  others : ∀ t, t ≠ socket → net.inbox t = start.inbox t

/-- The end of `Socket_getdata`, with the first `m` bytes of the data read. -/
theorem received_ended (h : Reading start net socket frame tail c frame.fixedHeader.length)
    (hc : frame.fixedHeader.length ≤ c) {m : ℕ} (hm : m ≤ frame.data.length) {rest : Net}
    (hbuffer : rest.buffer = net.buffer) (hinbox : rest.inbox socket = frame.data.drop m ++ tail)
    (hothers : ∀ t, t ≠ socket → rest.inbox t = start.inbox t) (hanswers : rest.answers ⊆ start.answers) :
    Ended start socket frame tail (fun got next => got = frame.data ∧ Done start next socket tail)
      (rest.received socket frame.data.length (frame.data.take m)) := by
  have hcall := h.call
  rw [List.take_of_length_le hc, ← hbuffer] at hcall
  rw [Net.received, List.length_take, Nat.min_eq_left hm]
  by_cases hall : m = frame.data.length
  · rw [if_pos hall]
    obtain ⟨hcomplete, hsettled⟩ := complete_inCall hcall
    refine ⟨by rw [hall, List.take_length], hcomplete, hsettled, ?_, hothers⟩
    rw [hinbox, hall, List.drop_length, List.nil_append]
  · rw [if_neg hall]
    have hne : frame.fixedHeader ≠ [] := List.cons_ne_nil _ _
    obtain ⟨hkept, hsettled⟩ := interrupted_inCall hcall hne rest.memory (frame.data.take m)
    refine ⟨frame.fixedHeader.length + m, ⟨?_, ?_, hothers, hanswers⟩, hsettled, ?_⟩
    · rw [List.take_of_length_le (Nat.le_add_right _ m), Nat.add_sub_cancel_left]
      exact hkept
    · rw [Frame.bytes, List.drop_length_add_append]
      exact hinbox
    · rw [Frame.bytes, List.length_append]
      omega

theorem getdata_ended (h : Reading start net socket frame tail c frame.fixedHeader.length)
    (hc : frame.fixedHeader.length ≤ c) (hlt : frame.data ≠ [] → c < frame.bytes.length) :
    ∃ result, net.getdata socket frame.data.length = some result ∧
      Ended start socket frame tail (fun got next => got = frame.data ∧ Done start next socket tail) result := by
  obtain ⟨m, rfl⟩ := Nat.exists_eq_add_of_le hc
  have hinbox := h.inbox
  rw [Frame.bytes, List.drop_length_add_append] at hinbox
  rw [Frame.bytes, List.length_append, Nat.add_lt_add_iff_left] at hlt
  rw [Net.getdata]
  by_cases hempty : frame.data.length = 0
  · rw [if_pos hempty]
    have hnil : frame.data = [] := List.length_eq_zero_iff.mp hempty
    obtain ⟨hcomplete, hsettled⟩ := complete_inCall h.call
    rw [hnil, List.drop_nil, List.nil_append] at hinbox
    exact ⟨_, rfl, hnil.symm, hcomplete, hsettled, hinbox, h.others⟩
  · rw [if_neg hempty]
    have hm : m < frame.data.length := hlt fun hnil => hempty (by rw [hnil, List.length_nil])
    have hcall := h.call
    rw [Nat.add_sub_cancel_left] at hcall
    obtain ⟨buffer, hdata, hqueued⟩ := getQueuedData_inCall hcall frame.data.length
    rw [hdata]
    dsimp only
    rw [List.length_take, Nat.min_eq_left hm.le, if_neg (by omega)]
    have hreading : Reading start { net with buffer } socket frame tail (frame.fixedHeader.length + m)
        frame.fixedHeader.length := by
      refine ⟨?_, h.inbox, h.others, h.answers⟩
      rw [Nat.add_sub_cancel_left]
      exact hqueued
    rcases Net.recv_cases { net with buffer } socket (Nat.sub_pos_of_lt hm) with
      ⟨d, got, rest, answers, hgot, hshort, hsub, hrecv⟩ | ⟨answers, hsub, _, hrecv⟩ | ⟨answers, hfaulty, hrecv⟩
    · have hlong : (d :: got).length ≤ (frame.data.drop m).length := by
        rw [List.length_drop]
        exact hshort
      dsimp only at hgot
      rw [hinbox] at hgot
      have hread := congrArg (List.take (d :: got).length) hgot
      rw [List.take_append_of_le_length hlong, List.take_left] at hread
      have hrest := congrArg (List.drop (d :: got).length) hgot
      rw [List.drop_append_of_le_length hlong, List.drop_left, List.drop_drop] at hrest
      have htaken : frame.data.take m ++ d :: got = frame.data.take (m + (d :: got).length) := by
        rw [List.take_add, hread]
      rw [hrecv]
      dsimp only
      rw [htaken]
      rw [List.length_drop] at hlong
      refine ⟨_, rfl, received_ended hreading hc (by omega) rfl ?_ (fun t ht => update_others h.others _ ht)
        (List.Subset.trans hsub h.answers)⟩
      rw [hrest]
      exact Function.update_self _ _ _
    · rw [hrecv]
      exact ⟨_, rfl, received_ended hreading hc hm.le rfl hinbox h.others (List.Subset.trans hsub h.answers)⟩
    · have hbroken : Broken start { net with buffer, answers } socket :=
        ⟨⟨_, _, _, hqueued⟩, h.others, hfaulty.mono h.answers⟩
      rcases hrecv with hrecv | hrecv <;> rw [hrecv] <;> exact ⟨_, rfl, hbroken⟩

/-- A call on a socket of whose next packet `c` bytes have been read. -/
theorem readFrame_ended (hsettled : start.buffer.Settled) (hsocket : socket ≠ 0) (hfits : frame.Fits)
    (hplace : Place start.buffer socket (frame.fixedHeader.take c)
      (frame.data.take (c - frame.fixedHeader.length)) 0)
    (hinbox : start.inbox socket = frame.bytes.drop c ++ tail) (hlt : c < frame.bytes.length)
    (hselected : start.selected socket) :
    ∃ result, start.readFrame socket = some result ∧
      Ended start socket frame tail (fun got next => got = frame ∧ Done start next socket tail) result := by
  have hstart : Reading start start socket frame tail c 0 :=
    ⟨⟨hsettled.distinct, fun _ _ => rfl, hplace⟩, hinbox, fun _ _ => rfl, List.Subset.refl _⟩
  have hget := getch_ended hstart hsocket hfits (show frame.fixedHeader[0]? = some frame.header from rfl)
    (Nat.zero_le c) fun _ => hselected
  rw [Net.readFrame]
  generalize start.getch socket = result at hget
  obtain ⟨header | _ | _, net⟩ := result
  · obtain ⟨rfl, hread⟩ := hget
    have hdigits := decodeLoop_ended hsocket hfits (numeral_MQTTPacketEncode frame.data.length)
      Net.MAX_NO_OF_REMAINING_LENGTH_BYTES 1 0 hread rfl (le_max_right c 1) (Nat.lt_of_lt_of_le Nat.one_pos (le_max_right c 1))
      (length_MQTTPacketEncode_le 3 _ hfits)
    dsimp only
    rw [Net.MQTTPacketDecode]
    generalize Net.decodeLoop socket _ 1 0 net = result at hdigits
    obtain ⟨length | _ | _, net⟩ := result
    · obtain ⟨hlength, hread⟩ := hdigits
      rw [Nat.zero_add, Nat.mul_one] at hlength
      subst hlength
      have hshort : frame.data ≠ [] → max (max c 1) frame.fixedHeader.length < frame.bytes.length := by
        intro hne
        have hpos : 0 < frame.data.length := List.length_pos_of_ne_nil hne
        have hone : 1 ≤ frame.fixedHeader.length := Nat.succ_le_succ (Nat.zero_le _)
        rw [Frame.bytes, List.length_append] at hlt ⊢
        omega
      obtain ⟨result, hdata, hended⟩ := getdata_ended hread (le_max_right _ _) hshort
      dsimp only
      rw [hdata]
      obtain ⟨data | _ | _, net⟩ := result
      · obtain ⟨rfl, hdone⟩ := hended
        exact ⟨_, rfl, rfl, hdone⟩
      · exact ⟨_, rfl, hended⟩
      · exact ⟨_, rfl, hended⟩
    · exact ⟨_, rfl, hdigits⟩
    · exact ⟨_, rfl, hdigits⟩
  · exact ⟨_, rfl, hget⟩
  · exact ⟨_, rfl, hget⟩

/-- A call on a socket from which nothing is to be read: it was selected for an error. -/
theorem readFrame_empty (hsettled : start.buffer.Settled) (hplace : Place start.buffer socket [] [] 0)
    (hinbox : start.inbox socket = []) (hselected : start.selected socket) :
    ∃ next, start.readFrame socket = some (.error, next) ∧ Broken start next socket := by
  have hcall : start.buffer.InCall start.buffer socket [] [] ([] : List UInt8).length :=
    ⟨hsettled.distinct, fun _ _ => rfl, hplace⟩
  rw [Net.readFrame, Net.getch, getQueuedChar_end hcall (Nat.zero_le 4)]
  dsimp only
  rcases Net.recv_cases start socket Nat.one_pos with ⟨d, got, rest, answers, hgot, _⟩ | ⟨answers, _, hwait, _⟩ |
    ⟨answers, hfaulty, hrecv⟩
  · rw [hinbox] at hgot
    exact absurd hgot (List.cons_ne_nil _ _).symm
  · exact absurd hselected hwait
  · have hbroken : Broken start { start with answers } socket := ⟨⟨_, _, _, hcall⟩, fun _ _ => rfl, hfaulty⟩
    rcases hrecv with hrecv | hrecv <;> rw [hrecv] <;> exact ⟨_, rfl, hbroken⟩

end Call

/-! ### All calls -/

/-- The sockets of the clients, `s.clientsds`, and what is read from them. -/
structure Sockets where
  net : Net
  clientsds : List ℕ

inductive SocketEvent where
  /-- A new connection, on which the other side is going to send `frames`. -/
  | connect (socket : ℕ) (frames : List Frame)
  /-- `MQTTClient_cycle` has got the socket from `Socket_getReadySocket`. -/
  | cycle (socket : ℕ) (answers : List Answer) (memory : List UInt8)

/-- The other side keeps to the lengths that the protocol can state. -/
def SocketEvent.Fits : SocketEvent → Prop
  | connect _ frames => ∀ frame ∈ frames, frame.Fits
  | cycle _ _ _ => True

inductive SocketSignal where
  | connected (socket : ℕ) (frames : List Frame)
  /-- `MQTTPacket_Factory` has read a whole packet. -/
  | packet (socket : ℕ) (outcome : Outcome)
  /-- The connection is closed after an error. -/
  | lost (socket : ℕ)

/-- The bytes of a connection. -/
def wire (frames : List Frame) : List UInt8 := frames.flatMap Frame.bytes

namespace Sockets

/-- `SocketBuffer_initialize`; the first queue has memory of its own. -/
def init (memory : List UInt8) : Sockets :=
  ⟨⟨⟨SocketQueue.newDefQ memory, []⟩, fun _ => [], [], []⟩, []⟩

/-- `Socket_close`. -/
def close (sockets : Sockets) (socket : ℕ) : Sockets :=
  { net := { sockets.net with
      buffer := sockets.net.buffer.cleanup socket, inbox := Function.update sockets.net.inbox socket [] }
    clientsds := sockets.clientsds.erase socket }

/-- The rest of `MQTTPacket_Factory` and the error handling of its callers. -/
def finish (sockets : Sockets) (socket : ℕ) (outcome : Outcome) : Sockets × List SocketSignal :=
  if outcome = .bad then (sockets.close socket, [.packet socket outcome, .lost socket])
  else (sockets, [.packet socket outcome])

/-- A descriptor that is in use is not given out again, and 0 is the standard input. -/
def step (sockets : Sockets) : SocketEvent → Option (Sockets × List SocketSignal)
  | .connect socket frames =>
    if socket ∉ sockets.clientsds ∧ socket ≠ 0 then
      some (⟨{ sockets.net with inbox := Function.update sockets.net.inbox socket (wire frames) },
        sockets.clientsds ++ [socket]⟩, [.connected socket frames])
    else none
  | .cycle socket answers memory =>
    let net := { sockets.net with answers, memory }
    if socket ∈ sockets.clientsds ∧ net.selected socket then
      match net.readFrame socket with
      | none => none
      | some (.interrupted, net) => some (⟨net, sockets.clientsds⟩, [])
      | some (.error, net) => some (close ⟨net, sockets.clientsds⟩ socket, [.lost socket])
      | some (.complete frame, net) =>
        (newPacket frame.header frame.data).map (finish ⟨net, sockets.clientsds⟩ socket)
    else none

end Sockets

/-- The connections as the clients see them: the packets of a connection come out in order, each of them
once, until the connection is lost. `owed` is what is still to come. -/
inductive Served : List SocketSignal → (ℕ → List Frame) → Prop
  | nil : Served [] fun _ => []
  | connected {signals : List SocketSignal} {owed : ℕ → List Frame} {socket : ℕ} (h : Served signals owed)
      (hnone : owed socket = []) (frames : List Frame) :
      Served (signals ++ [.connected socket frames]) (Function.update owed socket frames)
  | packet {signals : List SocketSignal} {owed : ℕ → List Frame} {socket : ℕ} {frame : Frame}
      {rest : List Frame} {outcome : Outcome} (h : Served signals owed) (hnext : owed socket = frame :: rest)
      (hpacket : newPacket frame.header frame.data = some outcome) :
      Served (signals ++ [.packet socket outcome]) (Function.update owed socket rest)
  | lost {signals : List SocketSignal} {owed : ℕ → List Frame} (h : Served signals owed) (socket : ℕ) :
      Served (signals ++ [.lost socket]) (Function.update owed socket [])

/-- Between two calls: of the packets that are still to be returned for a socket, some bytes of the first
have been read. -/
def Waiting (net : Net) (socket : ℕ) : List Frame → Prop
  | [] => Place net.buffer socket [] [] 0 ∧ net.inbox socket = []
  | frame :: rest => ∃ c < frame.bytes.length, Place net.buffer socket (frame.fixedHeader.take c)
      (frame.data.take (c - frame.fixedHeader.length)) 0 ∧ net.inbox socket = frame.bytes.drop c ++ wire rest

theorem waiting_of_idle {net : Net} {socket : ℕ} {frames : List Frame}
    (hplace : Place net.buffer socket [] [] 0) (hinbox : net.inbox socket = wire frames) :
    Waiting net socket frames := by
  cases frames with
  | nil => exact ⟨hplace, hinbox⟩
  | cons frame rest =>
      have hpos : 0 < frame.bytes.length := by
        rw [Frame.bytes, Frame.fixedHeader, List.cons_append]
        exact Nat.succ_pos _
      refine ⟨0, hpos, ?_, hinbox⟩
      rw [List.take_zero, Nat.zero_sub, List.take_zero]
      exact hplace

/-- A call on `socket` is over, and nothing of the others has changed. -/
structure Aside (net next : Net) (socket : ℕ) : Prop where
  settled : next.buffer.Settled
  find : ∀ t, t ≠ socket → next.buffer.find t = net.buffer.find t
  inbox : ∀ t, t ≠ socket → next.inbox t = net.inbox t

theorem Aside.place {net next : Net} {socket t : ℕ} {header data : List UInt8} (h : Aside net next socket)
    (ht : t ≠ socket) (hplace : Place net.buffer t header data 0) : Place next.buffer t header data 0 := by
  have hfind := h.find t ht
  generalize hk : 0 = k at hplace
  cases hplace with
  | idle hnone => exact hk ▸ .idle (hfind.trans hnone) h.settled.free
  | claimed hnone =>
      rw [List.length_eq_zero_iff.mp hk.symm]
      exact .idle (hfind.trans hnone) h.settled.free
  | kept hsome _ hheader hdata hindex => exact .kept (hfind.trans hsome) h.settled.free hheader hdata hindex

theorem Aside.waiting {net next : Net} {socket t : ℕ} (h : Aside net next socket) (ht : t ≠ socket) :
    ∀ {frames : List Frame}, Waiting net t frames → Waiting next t frames
  | [], ⟨hplace, hinbox⟩ => ⟨h.place ht hplace, (h.inbox t ht).trans hinbox⟩
  | _ :: _, ⟨c, hc, hplace, hinbox⟩ => ⟨c, hc, h.place ht hplace, (h.inbox t ht).trans hinbox⟩

namespace Sockets

/-- The sockets between two calls. -/
structure Ready (sockets : Sockets) (owed : ℕ → List Frame) : Prop where
  settled : sockets.net.buffer.Settled
  nodup : sockets.clientsds.Nodup
  opened : ∀ t ∈ sockets.clientsds, t ≠ 0
  closed : ∀ t, t ∉ sockets.clientsds → owed t = []
  waiting : ∀ t, Waiting sockets.net t (owed t)
  fits : ∀ t, ∀ frame ∈ owed t, frame.Fits

variable {sockets : Sockets} {owed : ℕ → List Frame} {socket : ℕ}

theorem Ready.update (h : Ready sockets owed) {next : Net} (haside : Aside sockets.net next socket)
    (hsocket : socket ∈ sockets.clientsds) {frames : List Frame} (hframes : frames ⊆ owed socket)
    (hwaiting : Waiting next socket frames) :
    Ready ⟨next, sockets.clientsds⟩ (Function.update owed socket frames) := by
  refine ⟨haside.settled, h.nodup, h.opened, fun t ht => ?_, fun t => ?_, fun t => ?_⟩
  · have hne : t ≠ socket := fun heq => ht (heq ▸ hsocket)
    rw [Function.update_of_ne hne]
    exact h.closed t ht
  · by_cases ht : t = socket
    · rw [ht, Function.update_self]
      exact hwaiting
    · rw [Function.update_of_ne ht]
      exact haside.waiting ht (h.waiting t)
  · by_cases ht : t = socket
    · rw [ht, Function.update_self]
      exact fun frame hframe => h.fits socket frame (hframes hframe)
    · rw [Function.update_of_ne ht]
      exact h.fits t

/-- Closing a connection, in the middle of a packet or not. -/
theorem Ready.close (h : Ready sockets owed) {next : Net} {header data : List UInt8} {k : ℕ}
    (hcall : sockets.net.buffer.InCall next.buffer socket header data k)
    (hothers : ∀ t, t ≠ socket → next.inbox t = sockets.net.inbox t) :
    Ready (close ⟨next, sockets.clientsds⟩ socket) (Function.update owed socket []) := by
  obtain ⟨hclean, hsettled⟩ := cleanup_inCall hcall
  have haside : Aside sockets.net (Sockets.close ⟨next, sockets.clientsds⟩ socket).net socket :=
    ⟨hsettled, hclean.others, fun t ht => (Function.update_of_ne ht _ _).trans (hothers t ht)⟩
  refine ⟨hsettled, h.nodup.erase socket, fun t ht => h.opened t (List.mem_of_mem_erase ht), fun t ht => ?_,
    fun t => ?_, fun t => ?_⟩
  · by_cases heq : t = socket
    · rw [heq, Function.update_self]
    · rw [Function.update_of_ne heq]
      exact h.closed t fun hmem => ht ((List.mem_erase_of_ne heq).mpr hmem)
  · by_cases heq : t = socket
    · rw [heq, Function.update_self]
      exact ⟨hclean.place, Function.update_self _ _ _⟩
    · rw [Function.update_of_ne heq]
      exact haside.waiting heq (h.waiting t)
  · by_cases heq : t = socket
    · rw [heq, Function.update_self]
      exact fun _ hmem => absurd hmem List.not_mem_nil
    · rw [Function.update_of_ne heq]
      exact h.fits t

theorem Ready.connect (h : Ready sockets owed) (hnew : socket ∉ sockets.clientsds) (hsocket : socket ≠ 0)
    {frames : List Frame} (hfits : ∀ frame ∈ frames, frame.Fits) :
    Ready ⟨{ sockets.net with inbox := Function.update sockets.net.inbox socket (wire frames) },
      sockets.clientsds ++ [socket]⟩ (Function.update owed socket frames) := by
  have hempty := h.waiting socket
  rw [h.closed socket hnew] at hempty
  have haside : Aside sockets.net
      { sockets.net with inbox := Function.update sockets.net.inbox socket (wire frames) } socket :=
    ⟨h.settled, fun _ _ => rfl, fun t ht => Function.update_of_ne ht _ _⟩
  refine ⟨h.settled, ?_, fun t ht => ?_, fun t ht => ?_, fun t => ?_, fun t => ?_⟩
  · rw [List.nodup_append]
    refine ⟨h.nodup, List.nodup_singleton _, fun t ht u hu heq => ?_⟩
    rw [List.mem_singleton.mp hu] at heq
    exact hnew (heq ▸ ht)
  · rcases List.mem_append.mp ht with hmem | hmem
    · exact h.opened t hmem
    · rw [List.mem_singleton.mp hmem]
      exact hsocket
  · have hne : t ≠ socket := fun heq => ht (List.mem_append.mpr (.inr (List.mem_singleton.mpr heq)))
    rw [Function.update_of_ne hne]
    exact h.closed t fun hmem => ht (List.mem_append.mpr (.inl hmem))
  · by_cases ht : t = socket
    · rw [ht, Function.update_self]
      exact waiting_of_idle hempty.1 (Function.update_self _ _ _)
    · rw [Function.update_of_ne ht]
      exact haside.waiting ht (h.waiting t)
  · by_cases ht : t = socket
    · rw [ht, Function.update_self]
      exact hfits
    · rw [Function.update_of_ne ht]
      exact h.fits t

theorem Ready.done (h : Ready sockets owed) {answers : List Answer} {memory : List UInt8} {next : Net}
    {frame : Frame} {rest : List Frame} (hsocket : socket ∈ sockets.clientsds)
    (howed : owed socket = frame :: rest)
    (hdone : Done { sockets.net with answers, memory } next socket (wire rest)) :
    Ready ⟨next, sockets.clientsds⟩ (Function.update owed socket rest) := by
  refine h.update ⟨hdone.settled, hdone.call.others, hdone.others⟩ hsocket ?_
    (waiting_of_idle hdone.call.place hdone.inbox)
  rw [howed]
  exact List.subset_cons_self _ _

/-- A connection is given up only after an error of the network or a bad packet. -/
def Excused (events : List SocketEvent) (signals : List SocketSignal) : Prop :=
  ∀ socket, .lost socket ∈ signals →
    (∃ answers memory, .cycle socket answers memory ∈ events ∧ Faulty answers) ∨ .packet socket .bad ∈ signals

structure Sound (events : List SocketEvent) (signals : List SocketSignal) (sockets : Sockets)
    (owed : ℕ → List Frame) : Prop where
  served : Served signals owed
  ready : Ready sockets owed
  excused : Excused events signals

theorem Excused.append {events : List SocketEvent} {signals new : List SocketSignal} (h : Excused events signals)
    (event : SocketEvent) (hnew : ∀ socket, .lost socket ∈ new →
      (∃ answers memory, event = .cycle socket answers memory ∧ Faulty answers) ∨ .packet socket .bad ∈ new) :
    Excused (events ++ [event]) (signals ++ new) := by
  intro socket hlost
  rcases List.mem_append.mp hlost with hold | hlast
  · rcases h socket hold with ⟨answers, memory, hmem, hfaulty⟩ | hbad
    · exact .inl ⟨answers, memory, List.mem_append.mpr (.inl hmem), hfaulty⟩
    · exact .inr (List.mem_append.mpr (.inl hbad))
  · rcases hnew socket hlast with ⟨answers, memory, rfl, hfaulty⟩ | hbad
    · exact .inl ⟨answers, memory, List.mem_append.mpr (.inr (List.mem_singleton.mpr rfl)), hfaulty⟩
    · exact .inr (List.mem_append.mpr (.inr hbad))

variable {events : List SocketEvent} {signals : List SocketSignal}

theorem Sound.broken (h : Sound events signals sockets owed) {answers : List Answer} {memory : List UInt8}
    {next : Net} (hbroken : Broken { sockets.net with answers, memory } next socket) :
    Sound (events ++ [.cycle socket answers memory]) (signals ++ [.lost socket])
      (close ⟨next, sockets.clientsds⟩ socket) (Function.update owed socket []) := by
  obtain ⟨header, data, k, hcall⟩ := hbroken.call
  refine ⟨h.served.lost socket, h.ready.close hcall hbroken.others, h.excused.append _ fun t ht => .inl ?_⟩
  obtain rfl : t = socket := by simpa using ht
  exact ⟨answers, memory, rfl, hbroken.faulty⟩

theorem Sound.finish (h : Sound events signals sockets owed) {answers : List Answer} {memory : List UInt8}
    {next : Net} {frame : Frame} {rest : List Frame} {outcome : Outcome} (hsocket : socket ∈ sockets.clientsds)
    (howed : owed socket = frame :: rest)
    (hdone : Done { sockets.net with answers, memory } next socket (wire rest))
    (hpacket : newPacket frame.header frame.data = some outcome) :
    ∃ owed', Sound (events ++ [.cycle socket answers memory])
      (signals ++ (finish ⟨next, sockets.clientsds⟩ socket outcome).2)
      (finish ⟨next, sockets.clientsds⟩ socket outcome).1 owed' := by
  have hserved := h.served.packet howed hpacket
  have hready := h.ready.done hsocket howed hdone
  rw [Sockets.finish]
  by_cases hbad : outcome = .bad
  · subst hbad
    rw [if_pos rfl]
    have hclosed := hready.close ⟨hdone.settled.distinct, fun _ _ => rfl, hdone.call.place⟩ fun _ _ => rfl
    have hlost := hserved.lost socket
    rw [List.append_assoc] at hlost
    refine ⟨_, hlost, hclosed, h.excused.append _ fun t ht => .inr ?_⟩
    obtain rfl : t = socket := by simpa using ht
    exact List.mem_cons_self
  · rw [if_neg hbad]
    refine ⟨_, hserved, hready, h.excused.append _ fun t ht => absurd ht ?_⟩
    simp

/-- What a call on an open socket can do. -/
theorem Ready.cycle_cases (h : Ready sockets owed) (hsocket : socket ∈ sockets.clientsds) {answers : List Answer}
    {memory : List UInt8} (hselected : Net.selected { sockets.net with answers, memory } socket) :
    (∃ net, sockets.step (.cycle socket answers memory) =
        some (Sockets.close ⟨net, sockets.clientsds⟩ socket, [.lost socket]) ∧
      Broken { sockets.net with answers, memory } net socket) ∨
    (∃ net, sockets.step (.cycle socket answers memory) = some (⟨net, sockets.clientsds⟩, []) ∧
      Ready ⟨net, sockets.clientsds⟩ owed) ∨
    (∃ net frame rest, owed socket = frame :: rest ∧
      sockets.step (.cycle socket answers memory) =
        (newPacket frame.header frame.data).map (Sockets.finish ⟨net, sockets.clientsds⟩ socket) ∧
      Done { sockets.net with answers, memory } net socket (wire rest)) := by
  have hsettled : SocketBuffer.Settled (Net.mk sockets.net.buffer sockets.net.inbox answers memory).buffer :=
    h.settled
  have hwaiting := h.waiting socket
  rw [Sockets.step]
  dsimp only
  rw [if_pos ⟨hsocket, hselected⟩]
  cases howed : owed socket with
  | nil =>
      rw [howed] at hwaiting
      obtain ⟨net, hread, hbroken⟩ := readFrame_empty hsettled hwaiting.1 hwaiting.2 hselected
      rw [hread]
      exact .inl ⟨net, rfl, hbroken⟩
  | cons frame rest =>
      rw [howed] at hwaiting
      obtain ⟨c, hc, hplace, hinbox⟩ := hwaiting
      have hframe : frame.Fits := h.fits socket frame (howed ▸ List.mem_cons_self)
      obtain ⟨⟨rc, net⟩, hread, hended⟩ := readFrame_ended hsettled (h.opened socket hsocket) hframe hplace
        hinbox hc hselected
      rw [hread]
      cases rc with
      | complete got =>
          obtain ⟨rfl, hdone⟩ := hended
          exact .inr (.inr ⟨net, got, rest, rfl, rfl, hdone⟩)
      | interrupted =>
          obtain ⟨c, hpaused⟩ := hended
          have hwait : Waiting net socket (owed socket) := by
            rw [howed]
            exact ⟨c, hpaused.lt, hpaused.reading.call.place, hpaused.reading.inbox⟩
          have hready := h.update ⟨hpaused.settled, hpaused.reading.call.others, hpaused.reading.others⟩ hsocket
            (List.Subset.refl _) hwait
          rw [Function.update_eq_self] at hready
          exact .inr (.inl ⟨net, rfl, hready⟩)
      | error => exact .inl ⟨net, rfl, hended⟩

theorem Sound.step (h : Sound events signals sockets owed) {event : SocketEvent}
    (hfits : event.Fits) {next : Sockets × List SocketSignal} (hstep : sockets.step event = some next) :
    ∃ owed', Sound (events ++ [event]) (signals ++ next.2) next.1 owed' := by
  cases event with
  | connect socket frames =>
      rw [Sockets.step] at hstep
      split at hstep
      · next hnew =>
          obtain rfl := Option.some.inj hstep
          refine ⟨_, h.served.connected (h.ready.closed socket hnew.1) frames,
            h.ready.connect hnew.1 hnew.2 hfits, h.excused.append _ fun t ht => absurd ht ?_⟩
          simp
      · exact absurd hstep (Option.some_ne_none _).symm
  | cycle socket answers memory =>
      by_cases hready : socket ∈ sockets.clientsds ∧ Net.selected { sockets.net with answers, memory } socket
      · rcases h.ready.cycle_cases hready.1 hready.2 with ⟨net, hcycle, hbroken⟩ | ⟨net, hcycle, hpaused⟩ |
          ⟨net, frame, rest, howed, hcycle, hdone⟩
        · obtain rfl := Option.some.inj (hcycle.symm.trans hstep)
          exact ⟨_, h.broken hbroken⟩
        · obtain rfl := Option.some.inj (hcycle.symm.trans hstep)
          exact ⟨owed, by rw [List.append_nil]; exact h.served, hpaused,
            h.excused.append _ fun t ht => absurd ht List.not_mem_nil⟩
        · obtain ⟨outcome, hpacket, rfl⟩ := Option.map_eq_some_iff.mp (hcycle.symm.trans hstep)
          exact h.finish hready.1 howed hdone hpacket
      · rw [Sockets.step] at hstep
        dsimp only at hstep
        rw [if_neg hready] at hstep
        exact absurd hstep (Option.some_ne_none _).symm

theorem sound_init (memory : List UInt8) : Sound [] [] (init memory) fun _ => [] where
  served := .nil
  ready := {
    settled := ⟨List.nodup_nil, rfl⟩
    nodup := List.nodup_nil
    opened := fun _ ht => absurd ht List.not_mem_nil
    closed := fun _ _ => rfl
    waiting := fun _ => ⟨.idle rfl rfl, rfl⟩
    fits := fun _ _ hframe => absurd hframe List.not_mem_nil }
  excused := fun _ hlost => absurd hlost List.not_mem_nil

theorem sound_run {memory : List UInt8} {result : Sockets × List SocketSignal}
    (hfits : ∀ event ∈ events, event.Fits) (hrun : Runs.run step (init memory) events = some result) :
    ∃ owed, Sound events result.2 result.1 owed := by
  have hinvariant := Runs.run_invariant (G := fun _ _ => True)
    (P := fun events signals sockets =>
      (∀ event ∈ events, event.Fits) → ∃ owed, Sound events signals sockets owed)
    (fun _ => ⟨_, sound_init memory⟩)
    (fun events signals sockets event next ih _ hstep hall => by
      obtain ⟨owed, hsound⟩ := ih fun event hmem => hall event (List.mem_append.mpr (.inl hmem))
      exact hsound.step (hall event (List.mem_append.mpr (.inr List.mem_cons_self))) hstep)
    (Runs.along_of_forall (fun _ _ => trivial) _ _) hrun
  exact hinvariant hfits

end Sockets

end LinuxGateway.Paho
