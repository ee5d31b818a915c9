import LinuxGateway.LibHandshake
import LinuxGateway.PahoClient

/-! The messages with the quality 2, from the client to the server and back. For each number and either direction
the client is one end of the handshake: every function of the session makes moves of it, the other end and what is
on the line being anything. -/

namespace LinuxGateway.Paho

open Bytes

/-! ### Letters -/

/-- What a message carries from one end to the other, the topic as a C string. -/
structure Letter where
  topic : List UInt8
  payload : List UInt8
  retain : ℕ
  deriving DecidableEq

def Messages.letter (m : Messages) : Letter := ⟨textOf m.publish.topic, m.publish.payload, m.retain % 2⟩

def QEntry.letter (entry : QEntry) : Letter := ⟨textOf entry.topicName, entry.payload, entry.retained % 2⟩

def Publish.letter (pack : Publish) (retained : ℕ) : Letter := ⟨textOf pack.topic, pack.payload, retained % 2⟩

namespace Outgoing

/-- A packet in its role for the exchange with the number `k`, to the receiver. -/
def down (k : ℕ) : Outgoing → Option (Handshake.Down Letter)
  | publish pack _ qos retained =>
    if qos % 4 = 2 ∧ pack.msgId = k then some (.item (pack.letter retained)) else none
  | pubrel msgid _ => if msgid = k then some .release else none
  | puback _ => none
  | pubrec _ => none
  | pubcomp _ => none

/-- The same to the sender. -/
def up (k : ℕ) : Outgoing → Option Handshake.Up
  | pubrec msgid => if msgid = k then some .recorded else none
  | pubcomp msgid => if msgid = k then some .completed else none
  | publish _ _ _ _ => none
  | puback _ => none
  | pubrel _ _ => none

end Outgoing

namespace ClientSignal

def sent? : ClientSignal → Option Outgoing
  | sent pack => some pack
  | _ => none

/-- A signal in its role for the exchange from the client with the number `k`. -/
def out (k : ℕ) : ClientSignal → Option (Handshake.Signal Letter)
  | published m => if m.qos = 2 ∧ m.msgid = k then some (.taken m.letter) else none
  | completed m => if m.qos = 2 ∧ m.msgid = k then some (.finished m.letter) else none
  | _ => none

/-- The same to the client. -/
def into (k : ℕ) : ClientSignal → Option (Handshake.Signal Letter)
  | queued entry => if entry.qos = 2 ∧ entry.msgid = k then some (.passed entry.letter) else none
  | _ => none

end ClientSignal

def sentOf (signals : List ClientSignal) : List Outgoing := signals.filterMap ClientSignal.sent?

def downs (k : ℕ) (packs : List Outgoing) : List (Handshake.Down Letter) := packs.filterMap (Outgoing.down k)

def ups (k : ℕ) (packs : List Outgoing) : List Handshake.Up := packs.filterMap (Outgoing.up k)

def outs (k : ℕ) (signals : List ClientSignal) : List (Handshake.Signal Letter) :=
  signals.filterMap (ClientSignal.out k)

def intos (k : ℕ) (signals : List ClientSignal) : List (Handshake.Signal Letter) :=
  signals.filterMap (ClientSignal.into k)

section Projections

variable (k : ℕ)

@[simp] theorem sentOf_append (signals signals' : List ClientSignal) :
    sentOf (signals ++ signals') = sentOf signals ++ sentOf signals' :=
  List.filterMap_append

@[simp] theorem downs_append (packs packs' : List Outgoing) : downs k (packs ++ packs') = downs k packs ++ downs k packs' :=
  List.filterMap_append

@[simp] theorem ups_append (packs packs' : List Outgoing) : ups k (packs ++ packs') = ups k packs ++ ups k packs' :=
  List.filterMap_append

@[simp] theorem outs_append (signals signals' : List ClientSignal) :
    outs k (signals ++ signals') = outs k signals ++ outs k signals' :=
  List.filterMap_append

@[simp] theorem intos_append (signals signals' : List ClientSignal) :
    intos k (signals ++ signals') = intos k signals ++ intos k signals' :=
  List.filterMap_append

@[simp] theorem downs_nil : downs k [] = [] := rfl

@[simp] theorem ups_nil : ups k [] = [] := rfl

@[simp] theorem ups_pubrec : ups k [.pubrec k] = [.recorded] := by simp [ups, Outgoing.up]

@[simp] theorem ups_pubcomp : ups k [.pubcomp k] = [.completed] := by simp [ups, Outgoing.up]

@[simp] theorem downs_pubrel (dup : ℕ) : downs k [.pubrel k dup] = [.release] := by simp [downs, Outgoing.down]

section Other

variable {k} {k' : ℕ} (hk : k ≠ k')
include hk

theorem ups_pubrec_of_ne : ups k [.pubrec k'] = [] := by simp [ups, Outgoing.up, hk.symm]

theorem ups_pubcomp_of_ne : ups k [.pubcomp k'] = [] := by simp [ups, Outgoing.up, hk.symm]

theorem downs_pubrel_of_ne (dup : ℕ) : downs k [.pubrel k' dup] = [] := by simp [downs, Outgoing.down, hk.symm]

end Other

theorem downs_publish_of_ne {pack : Publish} (hk : k ≠ pack.msgId) (dup qos retained : ℕ) :
    downs k [.publish pack dup qos retained] = [] := by
  simp [downs, Outgoing.down, hk.symm]

/-- The other qualities take no part. -/
theorem downs_publish_of_qos {qos : ℕ} (pack : Publish) (dup retained : ℕ) (hqos : qos % 4 ≠ 2) :
    downs k [.publish pack dup qos retained] = [] := by
  simp [downs, Outgoing.down, hqos]

theorem downs_publish {qos : ℕ} (pack : Publish) (dup retained : ℕ) (hqos : qos % 4 = 2) :
    downs pack.msgId [.publish pack dup qos retained] = [.item (pack.letter retained)] := by
  simp [downs, Outgoing.down, hqos]

theorem intos_queued (entry : QEntry) (hqos : entry.qos = 2) :
    intos entry.msgid [.queued entry] = [.passed entry.letter] := by
  simp [intos, ClientSignal.into, hqos]

end Projections

/-- Signals that no exchange takes notice of. -/
structure Neutral (signals : List ClientSignal) : Prop where
  outs_eq : ∀ k, outs k signals = []
  intos_eq : ∀ k, intos k signals = []
  downs_eq : ∀ k, downs k (sentOf signals) = []
  ups_eq : ∀ k, ups k (sentOf signals) = []

namespace Clients

/-- The client as the sender with the number `k`. -/
def sender (client : Clients) (k : ℕ) : Option (Letter × Bool) :=
  (Keyed.find Messages.msgid k client.outboundMsgs).bind fun m =>
    if m.qos = 2 then some (m.letter, decide (m.nextMessageType = some .PUBCOMP)) else none

/-- The client as the receiver, which passes a message on when it is released. -/
def receiver (client : Clients) (k : ℕ) : Option (Letter × Bool) :=
  (Keyed.find Messages.msgid k client.inboundMsgs).map fun m => (m.letter, false)

/-! ### What a client does, for every exchange -/

/-- The client takes packets off the line, does what the signals tell and becomes `next`: in the exchange of
every number it makes moves of the handshake, as the sender and as the receiver. -/
structure Plays (client : Clients) (taken : List Outgoing) (signals : List ClientSignal) (next : Clients) :
    Prop where
  sending : ∀ k r d u,
    Handshake.Trace ⟨client.sender k, r, d, ups k taken ++ u⟩ (outs k signals)
      ⟨next.sender k, r, d ++ downs k (sentOf signals), u⟩
  receiving : ∀ k s d u,
    Handshake.Trace ⟨s, client.receiver k, downs k taken ++ d, u⟩ (intos k signals)
      ⟨s, next.receiver k, d, u ++ ups k (sentOf signals)⟩

namespace Plays

variable {client next last : Clients} {taken : List Outgoing} {signals signals' : List ClientSignal}

theorem trans (h : Plays client taken signals next) (h' : Plays next [] signals' last) :
    Plays client taken (signals ++ signals') last := by
  constructor
  · intro k r d u
    rw [outs_append, sentOf_append, downs_append, ← List.append_assoc]
    exact (h.sending k r d u).trans (h'.sending k r (d ++ downs k (sentOf signals)) u)
  · intro k s d u
    rw [intos_append, sentOf_append, ups_append, ← List.append_assoc]
    exact (h.receiving k s d u).trans (h'.receiving k s d (u ++ ups k (sentOf signals)))

/-- Packets are taken off and nothing comes of them. -/
theorem still (hsender : ∀ k, next.sender k = client.sender k)
    (hreceiver : ∀ k, next.receiver k = client.receiver k) (h : Neutral signals) :
    Plays client taken signals next := by
  constructor
  · intro k r d u
    rw [hsender, h.outs_eq, h.downs_eq, List.append_nil]
    exact .single (.lose (List.Sublist.refl d) (List.sublist_append_right _ u))
  · intro k s d u
    rw [hreceiver, h.intos_eq, h.ups_eq, List.append_nil]
    exact .single (.lose (List.sublist_append_right _ d) (List.Sublist.refl u))

/-- A move as the sender in one exchange. -/
theorem asSender (k₀ : ℕ) (hreceiver : ∀ k, next.receiver k = client.receiver k)
    (hother : ∀ k, k ≠ k₀ → next.sender k = client.sender k)
    (hquiet : ∀ k, k ≠ k₀ → outs k signals = [] ∧ downs k (sentOf signals) = [])
    (hinto : ∀ k, intos k signals = [] ∧ ups k (sentOf signals) = [])
    (hmove : ∀ r d u, Handshake.Trace ⟨client.sender k₀, r, d, ups k₀ taken ++ u⟩ (outs k₀ signals)
      ⟨next.sender k₀, r, d ++ downs k₀ (sentOf signals), u⟩) : Plays client taken signals next := by
  constructor
  · intro k r d u
    by_cases hk : k = k₀
    · subst hk
      exact hmove r d u
    · rw [hother k hk, (hquiet k hk).1, (hquiet k hk).2, List.append_nil]
      exact .single (.lose (List.Sublist.refl d) (List.sublist_append_right _ u))
  · intro k s d u
    rw [hreceiver, (hinto k).1, (hinto k).2, List.append_nil]
    exact .single (.lose (List.sublist_append_right _ d) (List.Sublist.refl u))

/-- A move as the receiver in one exchange. -/
theorem asReceiver (k₀ : ℕ) (hsender : ∀ k, next.sender k = client.sender k)
    (hother : ∀ k, k ≠ k₀ → next.receiver k = client.receiver k)
    (hquiet : ∀ k, k ≠ k₀ → intos k signals = [] ∧ ups k (sentOf signals) = [])
    (hout : ∀ k, outs k signals = [] ∧ downs k (sentOf signals) = [])
    (hmove : ∀ s d u, Handshake.Trace ⟨s, client.receiver k₀, downs k₀ taken ++ d, u⟩ (intos k₀ signals)
      ⟨s, next.receiver k₀, d, u ++ ups k₀ (sentOf signals)⟩) : Plays client taken signals next := by
  constructor
  · intro k r d u
    rw [hsender, (hout k).1, (hout k).2, List.append_nil]
    exact .single (.lose (List.Sublist.refl d) (List.sublist_append_right _ u))
  · intro k s d u
    by_cases hk : k = k₀
    · subst hk
      exact hmove s d u
    · rw [hother k hk, (hquiet k hk).1, (hquiet k hk).2, List.append_nil]
      exact .single (.lose (List.sublist_append_right _ d) (List.Sublist.refl u))

/-- A packet that the socket did not take is one that the line loses. -/
theorem send {pack : Outgoing} (h : Plays client taken (.sent pack :: signals) next) (rc : Rc Unit) :
    Plays client taken (Paho.send rc pack ++ signals) next := by
  cases rc with
  | complete => exact h
  | interrupted => exact h
  | error =>
      have hsent : (sentOf signals).Sublist (sentOf (.sent pack :: signals)) :=
        List.sublist_cons_self pack (sentOf signals)
      constructor
      · intro k r d u
        exact (h.sending k r d u).lose ((hsent.filterMap _).append_left d) (List.Sublist.refl u)
      · intro k s d u
        exact (h.receiving k s d u).lose (List.Sublist.refl d) ((hsent.filterMap _).append_left u)

end Plays

/-! ### The handlers -/

section Handlers

variable {client : Clients}

theorem sender_of_find {k : ℕ} {m : Messages} (h : Keyed.find Messages.msgid k client.outboundMsgs = some m)
    (hqos : m.qos = 2) :
    client.sender k = some (m.letter, decide (m.nextMessageType = some .PUBCOMP)) := by
  rw [sender, h, Option.bind_some, if_pos hqos]

theorem sender_of_none {k : ℕ} (h : Keyed.find Messages.msgid k client.outboundMsgs = none) :
    client.sender k = none := by
  rw [sender, h]
  rfl

theorem receiver_of_find {k : ℕ} {m : Messages} (h : Keyed.find Messages.msgid k client.inboundMsgs = some m) :
    client.receiver k = some (m.letter, false) := by
  rw [receiver, h]
  rfl

theorem receiver_of_none {k : ℕ} (h : Keyed.find Messages.msgid k client.inboundMsgs = none) :
    client.receiver k = none := by
  rw [receiver, h]
  rfl

theorem sender_congr {next : Clients} {k : ℕ} (h : Keyed.find Messages.msgid k next.outboundMsgs =
    Keyed.find Messages.msgid k client.outboundMsgs) : next.sender k = client.sender k := by
  rw [sender, h]
  rfl

theorem receiver_congr {next : Clients} {k : ℕ} (h : Keyed.find Messages.msgid k next.inboundMsgs =
    Keyed.find Messages.msgid k client.inboundMsgs) : next.receiver k = client.receiver k := by
  rw [receiver, h]
  rfl

theorem neutral_nil : Neutral [] := ⟨fun _ => rfl, fun _ => rfl, fun _ => rfl, fun _ => rfl⟩

theorem plays_ignored (taken : List Outgoing) : Plays client taken [] client :=
  .still (fun _ => rfl) (fun _ => rfl) neutral_nil

theorem plays_error (taken : List Outgoing) : Plays client taken [.error] client :=
  .still (fun _ => rfl) (fun _ => rfl) ⟨fun _ => rfl, fun _ => rfl, fun _ => rfl, fun _ => rfl⟩

/-- Only the message with the number changes, and only its next packet. -/
theorem plays_handlePubrecs (msgId : ℕ) (clock : ℤ) (rc : Rc Unit) :
    Plays client [.pubrec msgId] (client.handlePubrecs msgId clock rc).2
      (client.handlePubrecs msgId clock rc).1 := by
  unfold handlePubrecs
  split
  · exact plays_ignored _
  · next m hfind =>
      split
      · exact plays_ignored _
      · next hqos =>
          split
          · exact plays_ignored _
          · next htype =>
              rw [not_not] at hqos htype
              obtain rfl := Keyed.key_of_find hfind
              dsimp only
              rw [← List.append_nil (send rc _)]
              refine Plays.send ?_ rc
              refine Plays.asSender m.msgid (fun _ => rfl) ?_ ?_ ?_ ?_
              · exact fun k hk => sender_congr (Keyed.find_replace_of_ne hk)
              · intro k hk
                exact ⟨rfl, downs_pubrel_of_ne hk 0⟩
              · exact fun k => ⟨rfl, rfl⟩
              · intro r d u
                have hafter : Keyed.find Messages.msgid m.msgid
                    (Keyed.replace Messages.msgid (released m clock) client.outboundMsgs) = some (released m clock) :=
                  Keyed.find_replace_self (a := released m clock) hfind
                rw [sender_of_find hfind hqos, htype, sender_of_find (m := released m clock) hafter hqos]
                change Handshake.Trace ⟨some (m.letter, false), r, d, ups m.msgid [.pubrec m.msgid] ++ u⟩ []
                  ⟨some (m.letter, true), r, d ++ downs m.msgid [.pubrel m.msgid 0], u⟩
                rw [ups_pubrec, downs_pubrel]
                exact .single .release

theorem plays_handlePubcomps (hnumbered : Numbered client) (msgId : ℕ) :
    Plays client [.pubcomp msgId] (client.handlePubcomps msgId).2 (client.handlePubcomps msgId).1 := by
  unfold handlePubcomps
  split
  · exact plays_ignored _
  · next m hfind =>
      split
      · exact plays_ignored _
      · next hqos =>
          split
          · exact plays_ignored _
          · next htype =>
              rw [not_not] at hqos htype
              obtain rfl := Keyed.key_of_find hfind
              refine Plays.asSender m.msgid (fun _ => rfl) ?_ ?_ (fun _ => ⟨rfl, rfl⟩) ?_
              · exact fun k hk => sender_congr (Keyed.find_remove_of_ne hk)
              · intro k hk
                exact ⟨by simp [outs, ClientSignal.out, hk.symm], rfl⟩
              · intro r d u
                have hout : outs m.msgid [.completed m] = [.finished m.letter] := by
                  simp [outs, ClientSignal.out, hqos]
                have hafter := Keyed.find_remove_self (k := m.msgid) hnumbered.outbound.distinct
                rw [sender_of_find hfind hqos, htype, sender_of_none hafter, hout, ups_pubcomp]
                change Handshake.Trace ⟨some (m.letter, true), r, d, .completed :: u⟩ [.finished m.letter]
                  ⟨none, r, d ++ [], u⟩
                rw [List.append_nil]
                exact .single .finish

/-- An acknowledgement of the quality 1 does not touch a message with the quality 2. -/
theorem plays_handlePubacks (hnumbered : Numbered client) (msgId : ℕ) :
    Plays client [.puback msgId] (client.handlePubacks msgId).2 (client.handlePubacks msgId).1 := by
  unfold handlePubacks
  split
  · exact plays_ignored _
  · next m hfind =>
      split
      · exact plays_ignored _
      · next hqos =>
          rw [not_not] at hqos
          obtain rfl := Keyed.key_of_find hfind
          refine Plays.still (fun k => ?_) (fun _ => rfl) ?_
          · by_cases hk : k = m.msgid
            · subst hk
              rw [sender, sender, Keyed.find_remove_self hnumbered.outbound.distinct, hfind, Option.bind_some, hqos]
              rfl
            · exact sender_congr (Keyed.find_remove_of_ne hk)
          · exact ⟨fun k => by simp [outs, ClientSignal.out, hqos], fun _ => rfl, fun _ => rfl, fun _ => rfl⟩

theorem find_storeInbound_self (m : Messages) :
    Keyed.find Messages.msgid m.msgid (client.storeInbound m).inboundMsgs = some m := by
  unfold storeInbound
  dsimp only
  split
  · next stored hfind => exact Keyed.find_replace_self hfind
  · next hnone => exact Keyed.find_append_self rfl hnone

theorem find_storeInbound_of_ne {m : Messages} {k : ℕ} (hk : k ≠ m.msgid) :
    Keyed.find Messages.msgid k (client.storeInbound m).inboundMsgs =
      Keyed.find Messages.msgid k client.inboundMsgs := by
  unfold storeInbound
  dsimp only
  split
  · exact Keyed.find_replace_of_ne hk
  · exact Keyed.find_append_of_ne hk

/-- A message of the quality 2 is stored, in the place of an earlier one with its number. -/
theorem plays_storeInbound (m : Messages) (pack : Publish) (dup : ℕ) {qos retained : ℕ} (hqos : qos % 4 = 2)
    (hid : pack.msgId = m.msgid) (hletter : m.letter = pack.letter retained) (rc : Rc Unit) :
    Plays client [.publish pack dup qos retained] (send rc (.pubrec m.msgid)) (client.storeInbound m) := by
  rw [← List.append_nil (send rc _)]
  refine Plays.send ?_ rc
  refine Plays.asReceiver m.msgid (fun _ => rfl) ?_ ?_ (fun _ => ⟨rfl, rfl⟩) ?_
  · exact fun k hk => receiver_congr (find_storeInbound_of_ne hk)
  · intro k hk
    exact ⟨rfl, ups_pubrec_of_ne hk⟩
  · intro s d u
    rw [receiver_of_find (find_storeInbound_self m), hletter, ← hid, downs_publish pack dup retained hqos]
    change Handshake.Trace ⟨s, client.receiver pack.msgId, .item (pack.letter retained) :: d, u⟩ []
      ⟨s, some (pack.letter retained, false), d, u ++ ups pack.msgId [.pubrec pack.msgId]⟩
    rw [ups_pubrec]
    cases hfind : Keyed.find Messages.msgid pack.msgId client.inboundMsgs with
    | none =>
        rw [receiver_of_none hfind]
        exact .single .record
    | some stored =>
        rw [receiver_of_find hfind]
        exact .single .replace

theorem textOf_textOf (bytes : List UInt8) : textOf (textOf bytes) = textOf bytes := by
  refine textOf_of_noNul fun b hb => ?_
  simpa using List.mem_takeWhile_imp hb

/-- The packet that arrives for a publication. -/
theorem plays_handlePublishes (pack : Publish) (dup qos retained : ℕ) (busy : Bool) (rc : Rc Unit) :
    Plays client [.publish pack dup qos retained]
      (client.handlePublishes ⟨Header .PUBLISH dup qos retained, textOf pack.topic,
        if 0 < qos then pack.msgId else 0, pack.payload⟩ busy rc).2
      (client.handlePublishes ⟨Header .PUBLISH dup qos retained, textOf pack.topic,
        if 0 < qos then pack.msgId else 0, pack.payload⟩ busy rc).1 := by
  unfold handlePublishes
  dsimp only
  rw [headerQos_header]
  split
  · next hqos =>
      refine .still (fun _ => rfl) (fun _ => rfl) ⟨fun _ => rfl, fun k => ?_, fun _ => rfl, fun _ => rfl⟩
      simp [processPublication, intos, ClientSignal.into, hqos]
  · split
    · exact plays_error _
    · split
      · next hqos =>
          refine Plays.send ?_ rc
          refine .still (fun _ => rfl) (fun _ => rfl) ⟨fun _ => rfl, fun k => ?_, fun _ => rfl, fun _ => rfl⟩
          simp [processPublication, intos, ClientSignal.into, hqos]
      · split
        · next hqos =>
            have hpos : 0 < qos := by omega
            rw [if_pos hpos]
            refine plays_storeInbound (inboundMessage ⟨Header .PUBLISH dup qos retained, textOf pack.topic,
              pack.msgId, pack.payload⟩) pack dup hqos rfl ?_ rc
            simp [inboundMessage, storePublication, Messages.letter, Publish.letter, textOf_textOf]
        · exact plays_ignored _

theorem plays_handlePubrels (hnumbered : Numbered client) (msgId dup : ℕ) (busy : Bool) (rc : Rc Unit) :
    Plays client [.pubrel msgId dup] (client.handlePubrels msgId (dup % 2) busy rc).2
      (client.handlePubrels msgId (dup % 2) busy rc).1 := by
  unfold handlePubrels
  split
  · next hfind =>
      split
      · exact plays_ignored _
      · split
        · exact plays_error _
        · -- There is nothing stored under the number, and only the answer goes out.
          rw [← List.append_nil (send rc _)]
          refine Plays.send ?_ rc
          refine Plays.asReceiver msgId (fun _ => rfl) (fun _ _ => rfl) ?_ (fun _ => ⟨rfl, rfl⟩) ?_
          · intro k hk
            exact ⟨rfl, ups_pubcomp_of_ne hk⟩
          · intro s d u
            rw [receiver_of_none hfind, downs_pubrel]
            change Handshake.Trace ⟨s, none, .release :: d, u⟩ [] ⟨s, none, d, u ++ ups msgId [.pubcomp msgId]⟩
            rw [ups_pubcomp]
            exact .single .answer
  · next m hfind =>
      split
      · exact plays_ignored _
      · next hqos =>
          split
          · exact plays_ignored _
          · split
            · exact plays_error _
            · rw [not_not] at hqos
              obtain rfl := Keyed.key_of_find hfind
              dsimp only
              refine Plays.send ?_ rc
              refine Plays.asReceiver m.msgid (fun _ => rfl) ?_ ?_ (fun _ => ⟨rfl, rfl⟩) ?_
              · exact fun k hk => receiver_congr (Keyed.find_remove_of_ne hk)
              · intro k hk
                refine ⟨?_, ?_⟩
                · simp [processPublication, intos, ClientSignal.into, hk.symm]
                · exact ups_pubcomp_of_ne hk
              · intro s d u
                have hafter := Keyed.find_remove_self (k := m.msgid) hnumbered.inbound.distinct
                have hinto := intos_queued ⟨m.publish.topic, m.publish.topiclen, m.publish.payload, m.qos, m.retain,
                  if m.qos = 2 then 0 else 0, m.msgid⟩ hqos
                rw [receiver_of_find hfind, receiver_of_none hafter, downs_pubrel]
                change Handshake.Trace ⟨s, some (m.letter, false), .release :: d, u⟩ (intos m.msgid [.queued _])
                  ⟨s, none, d, u ++ ups m.msgid [.pubcomp m.msgid]⟩
                rw [hinto, ups_pubcomp]
                exact (Handshake.Trace.single .pass).tail .forget

theorem plays_cycle (hnumbered : Numbered client) (pack : Outgoing) (busy : Bool) (clock : ℤ) (rc : Rc Unit) :
    Plays client [pack] (client.MQTTClientCycle pack.packet busy clock rc).2
      (client.MQTTClientCycle pack.packet busy clock rc).1 := by
  have hcallback : ∀ (next : Clients) (msgid : ℕ), Plays next [] [.deliveryComplete msgid] next :=
    fun _ _ => .still (fun _ => rfl) (fun _ => rfl) ⟨fun _ => rfl, fun _ => rfl, fun _ => rfl, fun _ => rfl⟩
  cases pack with
  | publish pack dup qos retained => exact plays_handlePublishes pack dup qos retained busy rc
  | puback msgid =>
      simp only [Outgoing.packet, MQTTClientCycle, headerType_header, MsgType.ofCode_code]
      exact (plays_handlePubacks hnumbered msgid).trans (hcallback _ msgid)
  | pubrec msgid =>
      simp only [Outgoing.packet, MQTTClientCycle, headerType_header, MsgType.ofCode_code]
      exact plays_handlePubrecs msgid clock rc
  | pubrel msgid dup =>
      simp only [Outgoing.packet, MQTTClientCycle, headerType_header, MsgType.ofCode_code, headerDup_header]
      exact plays_handlePubrels hnumbered msgid dup busy rc
  | pubcomp msgid =>
      simp only [Outgoing.packet, MQTTClientCycle, headerType_header, MsgType.ofCode_code]
      exact (plays_handlePubcomps hnumbered msgid).trans (hcallback _ msgid)

end Handlers

/-! ### Repetitions and calls -/

section Calls

variable {client : Clients}

theorem Plays.all {signals : List ClientSignal} (h : ∀ signal ∈ signals, Plays client [] [signal] client) :
    Plays client [] signals client := by
  induction signals with
  | nil => exact plays_ignored []
  | cons signal signals ih =>
      exact (h signal List.mem_cons_self).trans (ih fun signal' hmem => h signal' (List.mem_cons_of_mem signal hmem))

theorem plays_resend {m : Messages} (hfind : Keyed.find Messages.msgid m.msgid client.outboundMsgs = some m)
    (hqos : m.qos = 2) (hnext : m.nextMessageType = some .PUBREC) {pack : Publish} (dup : ℕ) {retained : ℕ}
    (hid : pack.msgId = m.msgid) (hletter : pack.letter retained = m.letter) :
    Plays client [] [.sent (.publish pack dup 2 retained)] client := by
  refine Plays.asSender m.msgid (fun _ => rfl) (fun _ _ => rfl) ?_ (fun _ => ⟨rfl, rfl⟩) ?_
  · intro k hk
    rw [← hid] at hk
    exact ⟨rfl, downs_publish_of_ne k hk dup 2 retained⟩
  · intro r d u
    rw [sender_of_find hfind hqos, hnext, ← hletter, ← hid]
    change Handshake.Trace ⟨some (pack.letter retained, false), r, d, u⟩ []
      ⟨some (pack.letter retained, false), r, d ++ downs pack.msgId [.publish pack dup 2 retained], u⟩
    rw [downs_publish pack dup retained (by decide : 2 % 4 = 2)]
    exact .single .resend

/-- What is sent again for a message is what its exchange repeats. -/
theorem plays_retryPacket (hnumbered : Numbered client) {m : Messages} (hm : m ∈ client.outboundMsgs)
    {pack : Outgoing} (hpack : retryPacket m = some pack) : Plays client [] [.sent pack] client := by
  have hfind := Keyed.find_of_mem hnumbered.outbound.distinct hm
  obtain ⟨_, hqos | ⟨hqos, hnext | hnext⟩⟩ := hnumbered.outbound.proper m hm
  · rw [retryPacket, if_pos (Or.inl hqos)] at hpack
    cases hpack
    refine .still (fun _ => rfl) (fun _ => rfl) ⟨fun _ => rfl, fun _ => rfl, fun k => ?_, fun _ => rfl⟩
    simp [sentOf, ClientSignal.sent?, downs, Outgoing.down, hqos]
  · rw [retryPacket, if_pos (Or.inr ⟨hqos, hnext⟩)] at hpack
    cases hpack
    rw [hqos]
    exact plays_resend hfind hqos hnext 1 rfl rfl
  · have hfirst : ¬(m.qos = 1 ∨ m.qos = 2 ∧ m.nextMessageType = some .PUBREC) := by
      rw [hqos, hnext]
      decide
    have hsecond : m.qos ≠ 0 ∧ m.nextMessageType = some .PUBCOMP := ⟨by omega, hnext⟩
    rw [retryPacket, if_neg hfirst, if_pos hsecond] at hpack
    cases hpack
    refine Plays.asSender m.msgid (fun _ => rfl) (fun _ _ => rfl) ?_ (fun _ => ⟨rfl, rfl⟩) ?_
    · intro k hk
      exact ⟨rfl, downs_pubrel_of_ne hk 0⟩
    · intro r d u
      rw [sender_of_find hfind hqos, hnext]
      change Handshake.Trace ⟨some (m.letter, true), r, d, u⟩ []
        ⟨some (m.letter, true), r, d ++ downs m.msgid [.pubrel m.msgid 0], u⟩
      rw [downs_pubrel]
      exact .single .rerelease

theorem mem_retriesLoop {due : Messages → Bool} {clock : ℤ} {rcs : ℕ → Rc Unit} {ms : List Messages}
    {signal : ClientSignal} (h : signal ∈ (retriesLoop due clock rcs ms).2.1) :
    signal = .error ∨ ∃ m ∈ ms, ∃ pack, retryPacket m = some pack ∧ signal = .sent pack := by
  induction ms with
  | nil => exact absurd h List.not_mem_nil
  | cons m ms ih =>
      have hrest : signal ∈ (retriesLoop due clock rcs ms).2.1 →
          signal = .error ∨ ∃ m' ∈ m :: ms, ∃ pack, retryPacket m' = some pack ∧ signal = .sent pack := by
        intro hmem
        obtain herror | ⟨m', hm', hpack⟩ := ih hmem
        · exact Or.inl herror
        · exact Or.inr ⟨m', List.mem_cons_of_mem m hm', hpack⟩
      rw [retriesLoop] at h
      split at h
      · exact hrest h
      · next pack hpack =>
          have hsent : retryPacket m = some pack := by
            split at hpack
            · exact hpack
            · cases hpack
          have hhead : ∃ m' ∈ m :: ms, ∃ pack', retryPacket m' = some pack' ∧
              ClientSignal.sent pack = .sent pack' :=
            ⟨m, List.mem_cons_self, pack, hsent, rfl⟩
          dsimp only at h
          split at h
          · rcases List.mem_cons.mp h with rfl | hmem
            · exact Or.inr hhead
            · exact hrest hmem
          · split at h
            · rcases List.mem_cons.mp h with rfl | hmem
              · exact Or.inr hhead
              · exact Or.inl (List.mem_singleton.mp hmem)
            · rw [List.mem_singleton.mp h]
              exact Or.inr hhead
          · exact Or.inl (List.mem_singleton.mp h)

theorem sender_touch {next : Clients}
    (h : next.outboundMsgs.map untouched = client.outboundMsgs.map untouched) (k : ℕ) :
    next.sender k = client.sender k := by
  have hmap : ∀ any : Clients, any.sender k = (Keyed.find Messages.msgid k (any.outboundMsgs.map untouched)).bind
      fun m => if m.qos = 2 then some (m.letter, decide (m.nextMessageType = some .PUBCOMP)) else none := by
    intro any
    rw [sender, Keyed.find, Keyed.find, List.find?_map, Option.bind_map]
    rfl
  rw [hmap next, hmap client, h]

theorem sender_disconnect (hclean : client.cleansession = false) (k : ℕ) :
    client.MQTTClientDisconnect.sender k = client.sender k := by
  unfold MQTTClientDisconnect closeSession
  rw [hclean]
  split <;> rfl

theorem receiver_disconnect (hclean : client.cleansession = false) (k : ℕ) :
    client.MQTTClientDisconnect.receiver k = client.receiver k := by
  unfold MQTTClientDisconnect closeSession
  rw [hclean]
  split <;> rfl

theorem plays_disconnect (hclean : client.cleansession = false) :
    Plays client [] [] client.MQTTClientDisconnect :=
  .still (sender_disconnect hclean) (receiver_disconnect hclean) neutral_nil

theorem plays_retries (hnumbered : Numbered client) (hclean : client.cleansession = false) (now : ℤ)
    (regardless : Bool) (clock : ℤ) (rcs : ℕ → Rc Unit) :
    Plays client [] (client.retries now regardless clock rcs).2 (client.retries now regardless clock rcs).1 := by
  unfold retries
  split
  · exact plays_ignored []
  · dsimp only
    have hsame := retriesLoop_untouched (client.retryDue now regardless) clock rcs client.outboundMsgs
    have hsent : Plays client [] (retriesLoop (client.retryDue now regardless) clock rcs client.outboundMsgs).2.1
        client := by
      refine Plays.all fun signal hmem => ?_
      obtain rfl | ⟨m, hm, pack, hpack, rfl⟩ := mem_retriesLoop hmem
      · exact plays_error []
      · exact plays_retryPacket hnumbered hm hpack
    generalize retriesLoop (client.retryDue now regardless) clock rcs client.outboundMsgs = result at hsame hsent
    have htouched : Plays client [] [] { client with outboundMsgs := result.1 } :=
      .still (sender_touch hsame) (fun _ => rfl) neutral_nil
    rw [← List.append_nil result.2.1]
    split
    · exact hsent.trans (htouched.trans (plays_disconnect hclean))
    · exact hsent.trans htouched

theorem plays_retry (hnumbered : Numbered client) (hclean : client.cleansession = false) (now : ℤ)
    (doRetry regardless busy : Bool) (clock : ℤ) (rcs : ℕ → Rc Unit) :
    Plays client [] (client.MQTTProtocolRetry now doRetry regardless busy clock rcs).2
      (client.MQTTProtocolRetry now doRetry regardless busy clock rcs).1 := by
  unfold MQTTProtocolRetry
  split
  · exact plays_ignored []
  · split
    · exact plays_disconnect hclean
    · split
      · exact plays_ignored []
      · split
        · exact plays_retries hnumbered hclean now regardless clock rcs
        · exact plays_ignored []

theorem plays_connect (hnumbered : Numbered client) {options : ConnectOptions} (accepted : Bool) (clock : ℤ)
    (rcs : ℕ → Rc Unit) (hoptions : options.maxInflight + 1 < MAX_MSG_ID)
    (hclean : options.cleansession = false) :
    Plays client [] (client.MQTTClientConnect options accepted clock rcs).2
      (client.MQTTClientConnect options accepted clock rcs).1 := by
  have hconfigured : Numbered (client.configure options) :=
    hnumbered.touch rfl rfl hnumbered.msgID_le hoptions
  unfold MQTTClientConnect
  split
  · have hsession : (client.configure options).connectSession.cleansession = false := by
      simp [connectSession, configure, hclean]
    have hstart : Plays client [] [] (client.configure options).connectSession := by
      refine .still (sender_touch ?_) (fun k => ?_) neutral_nil
      · simp [connectSession, configure, hclean, untouched, Function.comp_def]
      · simp [connectSession, configure, hclean, receiver]
    exact hstart.trans (plays_retry hconfigured.connectSession hsession 0 true true false clock rcs)
  · refine .still (fun k => ?_) (fun k => ?_) neutral_nil
    · simp [closeSession, configure, hclean, sender]
    · simp [closeSession, configure, hclean, receiver]

/-- A new message is in its exchange before its packet is on the line. -/
theorem plays_published {m : Messages} (hfree : Keyed.find Messages.msgid m.msgid client.outboundMsgs = none)
    (hkind : m.qos = 1 ∨ m.qos = 2 ∧ m.nextMessageType = some .PUBREC) :
    Plays client [] [.published m] { client with outboundMsgs := client.outboundMsgs ++ [m] } := by
  have hafter := Keyed.find_append_self (a := m) rfl hfree
  refine Plays.asSender m.msgid (fun _ => rfl) ?_ ?_ (fun _ => ⟨rfl, rfl⟩) ?_
  · exact fun k hk => sender_congr (Keyed.find_append_of_ne hk)
  · intro k hk
    exact ⟨by simp [outs, ClientSignal.out, hk.symm], rfl⟩
  · intro r d u
    rw [sender_of_none hfree]
    rcases hkind with hqos | ⟨hqos, hnext⟩
    · have hnone : Clients.sender { client with outboundMsgs := client.outboundMsgs ++ [m] } m.msgid = none := by
        rw [sender, hafter, Option.bind_some, hqos]
        rfl
      have hout : outs m.msgid [.published m] = [] := by simp [outs, ClientSignal.out, hqos]
      rw [hnone, hout]
      change Handshake.Trace ⟨none, r, d, u⟩ [] ⟨none, r, d ++ [], u⟩
      rw [List.append_nil]
      exact .refl _
    · have hout : outs m.msgid [.published m] = [.taken m.letter] := by simp [outs, ClientSignal.out, hqos]
      rw [sender_of_find hafter hqos, hnext, hout]
      change Handshake.Trace ⟨none, r, d, u⟩ [.taken m.letter] ⟨some (m.letter, false), r, d ++ [], u⟩
      exact (Handshake.Trace.single (.take m.letter)).lose
        ((List.nil_sublist _).append_left d) (List.Sublist.refl u)

theorem plays_startPublish {topic payload : List UInt8} {msgid qos : ℕ} (retained : ℕ) (clock : ℤ) (rc : Rc Unit)
    (hqos : qos ≤ 2) (hfree : 0 < qos → Keyed.find Messages.msgid msgid client.outboundMsgs = none) :
    Plays client [] (client.startPublish topic payload msgid qos retained clock rc).2
      (client.startPublish topic payload msgid qos retained clock rc).1 := by
  have hneutral : ∀ any : Clients, qos ≠ 2 →
      Plays any [] [.sent (.publish ⟨0, topic, msgid, payload⟩ 0 qos retained)] any := by
    intro any hne
    refine .still (fun _ => rfl) (fun _ => rfl) ⟨fun _ => rfl, fun _ => rfl, fun k => ?_, fun _ => rfl⟩
    have hmod : qos % 4 ≠ 2 := by omega
    simp [sentOf, ClientSignal.sent?, downs, Outgoing.down, hmod]
  unfold startPublish
  dsimp only
  rw [← List.append_nil (send rc _)]
  split
  · next hpos =>
      have hcases : qos = 1 ∨ qos = 2 := by omega
      rcases hcases with rfl | rfl
      · exact (plays_published (hfree hpos) (Or.inl rfl)).trans ((hneutral _ (by decide)).send rc)
      · have hafter : Keyed.find Messages.msgid msgid
            (client.outboundMsgs ++ [createMessage topic payload msgid 2 retained clock]) =
              some (createMessage topic payload msgid 2 retained clock) :=
          Keyed.find_append_self rfl (hfree hpos)
        refine (plays_published (hfree hpos) (Or.inr ⟨rfl, rfl⟩)).trans ?_
        refine Plays.send ?_ rc
        refine plays_resend (m := createMessage topic payload msgid 2 retained clock) ?_ rfl rfl 0 rfl ?_
        · exact hafter
        · simp [createMessage, storePublication, Messages.letter, Publish.letter, textOf_textOf]
  · next hzero => exact (hneutral client (by omega)).send rc

theorem plays_endPublish (hclean : client.cleansession = false) (qos : ℕ) (rc : Rc Unit) :
    Plays client [] (client.endPublish qos rc).2 (client.endPublish qos rc).1 := by
  cases rc with
  | complete => exact .still (fun _ => rfl) (fun _ => rfl) ⟨fun _ => rfl, fun _ => rfl, fun _ => rfl, fun _ => rfl⟩
  | interrupted =>
      exact .still (fun _ => rfl) (fun _ => rfl) ⟨fun _ => rfl, fun _ => rfl, fun _ => rfl, fun _ => rfl⟩
  | error =>
      exact .still (sender_disconnect hclean) (receiver_disconnect hclean)
        ⟨fun _ => rfl, fun _ => rfl, fun _ => rfl, fun _ => rfl⟩

theorem plays_publishNumbered (hclean : client.cleansession = false) {topic payload : List UInt8} {msgid qos : ℕ}
    (retained : ℕ) (clock : ℤ) (rc : Rc Unit) (hqos : qos ≤ 2)
    (hfree : 0 < qos → Keyed.find Messages.msgid msgid client.outboundMsgs = none) :
    Plays client [] (client.publishNumbered topic payload msgid qos retained clock rc).2
      (client.publishNumbered topic payload msgid qos retained clock rc).1 := by
  have hstarted : (client.startPublish topic payload msgid qos retained clock rc).1.cleansession = false := by
    unfold startPublish
    dsimp only
    split <;> exact hclean
  exact (plays_startPublish retained clock rc hqos hfree).trans (plays_endPublish hstarted qos rc)

end Calls

/-- No connection asks for a clean session. -/
def KeepsSession : ClientEvent → Prop
  | .connect options _ _ _ => options.cleansession = false
  | _ => True

def isPacket : ClientEvent → Bool
  | .packet _ _ _ _ => true
  | _ => false

theorem plays_step {client : Clients} {event : ClientEvent} {next : Clients × List ClientSignal}
    (hnumbered : Numbered client) (hclean : client.cleansession = false) (hfair : Fair event)
    (hkeeps : KeepsSession event) (hpacket : isPacket event = false) (hstep : client.step event = some next) :
    Plays client [] next.2 next.1 := by
  cases event with
  | connect options accepted clock rcs =>
      simp only [Clients.step] at hstep
      split at hstep
      · cases hstep
      · cases hstep
        exact plays_connect hnumbered accepted clock rcs hfair hkeeps
  | publish topicName payload qos retained busy clock rc =>
      obtain ⟨code, _, heq⟩ | ⟨msgid, msgID, _, _, hfree, _, heq⟩ :=
        hnumbered.publish_cases topicName payload retained busy clock rc hfair
      · cases heq.symm.trans hstep
        exact .still (fun _ => rfl) (fun _ => rfl) ⟨fun _ => rfl, fun _ => rfl, fun _ => rfl, fun _ => rfl⟩
      · cases heq.symm.trans hstep
        have hnumber : Plays client [] [] { client with msgID } :=
          .still (fun _ => rfl) (fun _ => rfl) neutral_nil
        have hpublish := @plays_publishNumbered { client with msgID } hclean topicName payload msgid qos retained
          clock rc hfair hfree
        exact hnumber.trans hpublish
  | subscribe topics qoss =>
      obtain heq | ⟨msgid, _, heq⟩ := hnumbered.subscribe_cases topics qoss
      · cases heq.symm.trans hstep
        exact plays_ignored []
      · cases heq.symm.trans hstep
        exact .still (fun _ => rfl) (fun _ => rfl) ⟨fun _ => rfl, fun _ => rfl, fun _ => rfl, fun _ => rfl⟩
  | packet pack busy clock rc => cases hpacket
  | retry now doRetry busy clock rcs =>
      cases hstep
      exact plays_retry hnumbered hclean now doRetry false busy clock rcs
  | messageArrived taken =>
      cases hstep
      unfold messageArrived
      split
      · exact plays_ignored []
      · split
        · exact .still (fun _ => rfl) (fun _ => rfl) ⟨fun _ => rfl, fun _ => rfl, fun _ => rfl, fun _ => rfl⟩
        · exact plays_ignored []
  | disconnect =>
      cases hstep
      exact plays_disconnect hclean

end Clients

end LinuxGateway.Paho
