import LinuxGateway.PahoQueue

/-! A client, the line and a server. The server is not part of the library: it keeps to the protocol and is
free in the rest, that is when it passes a message on, when and how often it repeats, and what it sends with the
other qualities. The line loses packets at any time and across connections, but keeps their order. -/

namespace LinuxGateway.Paho

open Bytes

/-! ### The system -/

/-- The packets on their way, and what the server has stored and has taken to send, by number, each with whether
it is passed on or released. -/
structure Line where
  client : Clients
  toServer : List Outgoing
  toClient : List Outgoing
  stored : ℕ → Option (Letter × Bool)
  sending : ℕ → Option (Letter × Bool)

inductive LineEvent where
  /-- Anything that happens to the client but a packet. -/
  | client (event : ClientEvent)
  | clientReceives (busy : Bool) (clock : ℤ) (rc : Rc Unit)
  /-- The server handles a packet; a release of nothing it answers or not. -/
  | serverReceives (answers : Bool)
  | serverPasses (k : ℕ)
  | serverPublishes (pack : Publish) (retained : ℕ)
  /-- A packet of another quality, or the repetition of one that is not acknowledged. -/
  | serverSends (pack : Outgoing)
  | losesToServer (i : ℕ)
  | losesToClient (i : ℕ)

inductive LineSignal where
  | client (signal : ClientSignal)
  | serverTook (k : ℕ) (letter : Letter)
  | serverPassed (k : ℕ) (letter : Letter)
  | serverFinished (k : ℕ) (letter : Letter)

namespace Line

def start : Line := ⟨.init, [], [], fun _ => none, fun _ => none⟩

/-- What the server does with a packet. -/
def serve (line : Line) (answers : Bool) : Outgoing → Line × List LineSignal
  | .publish pack _ qos retained =>
    if qos % 4 = 2 then
      ({ line with
        stored := Function.update line.stored pack.msgId
          (some ((line.stored pack.msgId).getD (pack.letter retained, false)))
        toClient := line.toClient ++ [.pubrec pack.msgId] }, [])
    else (line, [])
  | .pubrel k _ =>
    match line.stored k with
    | some (letter, given) =>
      ({ line with
        stored := Function.update line.stored k none
        toClient := line.toClient ++ [.pubcomp k] }, if given then [] else [.serverPassed k letter])
    | none => ({ line with toClient := line.toClient ++ if answers then [.pubcomp k] else [] }, [])
  | .pubrec k =>
    match line.sending k with
    | some (letter, false) =>
      ({ line with
        sending := Function.update line.sending k (some (letter, true))
        toClient := line.toClient ++ [.pubrel k 0] }, [])
    | some (_, true) => (line, [])
    | none => (line, [])
  | .pubcomp k =>
    match line.sending k with
    | some (letter, true) => ({ line with sending := Function.update line.sending k none }, [.serverFinished k letter])
    | some (_, false) => (line, [])
    | none => (line, [])
  | .puback _ => (line, [])

/-- What the server may send without a cause. -/
def maySend (line : Line) : Outgoing → Bool
  | .publish pack _ qos retained =>
    decide (qos % 4 = 2 → line.sending pack.msgId = some (pack.letter retained, false))
  | .pubrel k _ => (line.sending k).any fun taken => taken.2
  | .puback _ => true
  | .pubrec _ => false
  | .pubcomp _ => false

/-- The client has done something and handed packets to its socket. -/
def advance (line : Line) (result : Clients × List ClientSignal) : Line × List LineSignal :=
  ({ line with client := result.1, toServer := line.toServer ++ sentOf result.2 }, result.2.map .client)

def step (line : Line) : LineEvent → Option (Line × List LineSignal)
  | .client event => if Clients.isPacket event then none else (line.client.step event).map line.advance
  | .clientReceives busy clock rc =>
    match line.toClient with
    | [] => none
    | pack :: rest =>
      -- What `newPacket` makes of the bytes of the packet.
      if line.client.connected then
        some ({ line with toClient := rest }.advance (line.client.MQTTClientCycle pack.packet busy clock rc))
      else none
  | .serverReceives answers =>
    match line.toServer with
    | [] => none
    | pack :: rest => some ({ line with toServer := rest }.serve answers pack)
  | .serverPasses k =>
    match line.stored k with
    | some (letter, false) =>
      some ({ line with stored := Function.update line.stored k (some (letter, true)) }, [.serverPassed k letter])
    | some (_, true) => none
    | none => none
  | .serverPublishes pack retained =>
    if line.sending pack.msgId = none then
      some ({ line with
        sending := Function.update line.sending pack.msgId (some (pack.letter retained, false))
        toClient := line.toClient ++ [.publish pack 0 2 retained] },
        [.serverTook pack.msgId (pack.letter retained)])
    else none
  | .serverSends pack =>
    if line.maySend pack then some ({ line with toClient := line.toClient ++ [pack] }, []) else none
  | .losesToServer i => some ({ line with toServer := line.toServer.eraseIdx i }, [])
  | .losesToClient i => some ({ line with toClient := line.toClient.eraseIdx i }, [])

end Line

/-! ### Exchanges -/

namespace LineSignal

/-- A signal in its role for the exchange from the client with the number `k`. -/
def out (k : ℕ) : LineSignal → Option (Handshake.Signal Letter)
  | client signal => signal.out k
  | serverPassed k' letter => if k' = k then some (.passed letter) else none
  | serverTook _ _ => none
  | serverFinished _ _ => none

/-- The same to the client. -/
def into (k : ℕ) : LineSignal → Option (Handshake.Signal Letter)
  | client signal => signal.into k
  | serverTook k' letter => if k' = k then some (.taken letter) else none
  | serverFinished k' letter => if k' = k then some (.finished letter) else none
  | serverPassed _ _ => none

end LineSignal

def lineOuts (k : ℕ) (signals : List LineSignal) : List (Handshake.Signal Letter) :=
  signals.filterMap (LineSignal.out k)

def lineIntos (k : ℕ) (signals : List LineSignal) : List (Handshake.Signal Letter) :=
  signals.filterMap (LineSignal.into k)

def LineSignal.client? : LineSignal → Option ClientSignal
  | client signal => some signal
  | serverTook _ _ => none
  | serverPassed _ _ => none
  | serverFinished _ _ => none

def clientsOf (signals : List LineSignal) : List ClientSignal := signals.filterMap LineSignal.client?

/-- The letters with the quality 2 among entries of the queue. -/
def lettersOf (k : ℕ) (entries : List QEntry) : List Letter :=
  entries.filterMap fun entry => if entry.qos = 2 ∧ entry.msgid = k then some entry.letter else none

theorem clientsOf_append (signals signals' : List LineSignal) :
    clientsOf (signals ++ signals') = clientsOf signals ++ clientsOf signals' :=
  List.filterMap_append

theorem lineOuts_append (k : ℕ) (signals signals' : List LineSignal) :
    lineOuts k (signals ++ signals') = lineOuts k signals ++ lineOuts k signals' :=
  List.filterMap_append

theorem lineIntos_append (k : ℕ) (signals signals' : List LineSignal) :
    lineIntos k (signals ++ signals') = lineIntos k signals ++ lineIntos k signals' :=
  List.filterMap_append

theorem clientsOf_client (signals : List ClientSignal) : clientsOf (signals.map .client) = signals := by
  rw [clientsOf, List.filterMap_map]
  exact List.filterMap_some

theorem lineOuts_client (k : ℕ) (signals : List ClientSignal) : lineOuts k (signals.map .client) = outs k signals := by
  rw [lineOuts, List.filterMap_map]
  rfl

theorem lineIntos_client (k : ℕ) (signals : List ClientSignal) :
    lineIntos k (signals.map .client) = intos k signals := by
  rw [lineIntos, List.filterMap_map]
  rfl

theorem lineOuts_passed (k : ℕ) (letter : Letter) : lineOuts k [.serverPassed k letter] = [.passed letter] := by
  simp [lineOuts, LineSignal.out]

theorem lineOuts_passed_of_ne {k k' : ℕ} (hk : k ≠ k') (letter : Letter) :
    lineOuts k [.serverPassed k' letter] = [] := by
  simp [lineOuts, LineSignal.out, hk.symm]

/-- What a client passes on to the application goes through its queue. -/
theorem passes_lineIntos (k : ℕ) (signals : List LineSignal) :
    Handshake.passes (lineIntos k signals) = lettersOf k (queuedOf (clientsOf signals)) := by
  rw [Handshake.passes, lineIntos, lettersOf, queuedOf, clientsOf, List.filterMap_filterMap,
    List.filterMap_filterMap, List.filterMap_filterMap]
  refine List.filterMap_congr fun signal _ => ?_
  cases signal with
  | client signal =>
      cases signal with
      | queued entry =>
          by_cases hentry : entry.qos = 2 ∧ entry.msgid = k
          · simp [hentry, LineSignal.into, ClientSignal.into, LineSignal.client?, ClientSignal.queued?,
              Handshake.Signal.passed?]
          · simp [hentry, LineSignal.into, ClientSignal.into, LineSignal.client?, ClientSignal.queued?]
      | _ => rfl
  | serverTook k' letter =>
      by_cases hk : k' = k <;> simp [hk, LineSignal.into, LineSignal.client?, Handshake.Signal.passed?]
  | serverPassed k' letter => rfl
  | serverFinished k' letter =>
      by_cases hk : k' = k <;> simp [hk, LineSignal.into, LineSignal.client?, Handshake.Signal.passed?]

namespace Line

/-- The exchange from the client with the number `k`. -/
def outgoing (line : Line) (k : ℕ) : Handshake.Exchange Letter :=
  ⟨line.client.sender k, line.stored k, downs k line.toServer, ups k line.toClient⟩

/-- The exchange to the client with the number `k`. -/
def incoming (line : Line) (k : ℕ) : Handshake.Exchange Letter :=
  ⟨line.sending k, line.client.receiver k, downs k line.toClient, ups k line.toServer⟩

/-- Every exchange makes moves of the handshake. -/
structure Moves (line : Line) (signals : List LineSignal) (next : Line) : Prop where
  outgoing : ∀ k, Handshake.Trace (line.outgoing k) (lineOuts k signals) (next.outgoing k)
  incoming : ∀ k, Handshake.Trace (line.incoming k) (lineIntos k signals) (next.incoming k)

variable {line : Line}

theorem moves_advance {result : Clients × List ClientSignal} {taken rest : List Outgoing}
    (h : line.client.Plays taken result.2 result.1) (htaken : line.toClient = taken ++ rest) :
    line.Moves ({ line with toClient := rest }.advance result).2 ({ line with toClient := rest }.advance result).1 := by
  constructor
  · intro k
    have hmoves := h.sending k (line.stored k) (downs k line.toServer) (ups k rest)
    rw [← ups_append, ← htaken, ← downs_append] at hmoves
    rw [advance, lineOuts_client]
    exact hmoves
  · intro k
    have hmoves := h.receiving k (line.sending k) (downs k rest) (ups k line.toServer)
    rw [← downs_append, ← htaken, ← ups_append] at hmoves
    rw [advance, lineIntos_client]
    exact hmoves

theorem moves_lose {toServer toClient : List Outgoing} (hserver : toServer.Sublist line.toServer)
    (hclient : toClient.Sublist line.toClient) : line.Moves [] { line with toServer, toClient } :=
  ⟨fun _ => .single (.lose (hserver.filterMap _) (hclient.filterMap _)),
    fun _ => .single (.lose (hclient.filterMap _) (hserver.filterMap _))⟩

/-- The server moves as the receiver of one exchange. -/
theorem moves_stored (k₀ : ℕ) {taken rest answer : List Outgoing} {stored : ℕ → Option (Letter × Bool)}
    {signals : List LineSignal} (htaken : line.toServer = taken ++ rest)
    (hother : ∀ k, k ≠ k₀ → stored k = line.stored k)
    (hquiet : ∀ k, k ≠ k₀ → lineOuts k signals = [] ∧ ups k answer = [])
    (hinto : ∀ k, lineIntos k signals = [] ∧ downs k answer = [])
    (hmove : ∀ s d u, Handshake.Trace ⟨s, line.stored k₀, downs k₀ taken ++ d, u⟩ (lineOuts k₀ signals)
      ⟨s, stored k₀, d, u ++ ups k₀ answer⟩) :
    line.Moves signals { line with toServer := rest, stored, toClient := line.toClient ++ answer } := by
  constructor
  · intro k
    rw [outgoing, outgoing, htaken, downs_append, ups_append]
    by_cases hk : k = k₀
    · subst hk
      exact hmove _ _ _
    · dsimp only
      rw [hother k hk, (hquiet k hk).1, (hquiet k hk).2, List.append_nil]
      exact .single (.lose (List.sublist_append_right _ _) (List.Sublist.refl _))
  · intro k
    rw [incoming, incoming, htaken, downs_append, ups_append, (hinto k).1, (hinto k).2, List.append_nil]
    exact .single (.lose (List.Sublist.refl _) (List.sublist_append_right _ _))

/-- The server moves as the sender of one exchange. -/
theorem moves_sending (k₀ : ℕ) {taken rest answer : List Outgoing} {sending : ℕ → Option (Letter × Bool)}
    {signals : List LineSignal} (htaken : line.toServer = taken ++ rest)
    (hother : ∀ k, k ≠ k₀ → sending k = line.sending k)
    (hquiet : ∀ k, k ≠ k₀ → lineIntos k signals = [] ∧ downs k answer = [])
    (hout : ∀ k, lineOuts k signals = [] ∧ ups k answer = [])
    (hmove : ∀ r d u, Handshake.Trace ⟨line.sending k₀, r, d, ups k₀ taken ++ u⟩ (lineIntos k₀ signals)
      ⟨sending k₀, r, d ++ downs k₀ answer, u⟩) :
    line.Moves signals { line with toServer := rest, sending, toClient := line.toClient ++ answer } := by
  constructor
  · intro k
    rw [outgoing, outgoing, htaken, downs_append, ups_append, (hout k).1, (hout k).2, List.append_nil]
    exact .single (.lose (List.sublist_append_right _ _) (List.Sublist.refl _))
  · intro k
    rw [incoming, incoming, htaken, downs_append, ups_append]
    by_cases hk : k = k₀
    · subst hk
      exact hmove _ _ _
    · dsimp only
      rw [hother k hk, (hquiet k hk).1, (hquiet k hk).2, List.append_nil]
      exact .single (.lose (List.Sublist.refl _) (List.sublist_append_right _ _))

theorem moves_drop {pack : Outgoing} {rest : List Outgoing} (hpack : line.toServer = pack :: rest) :
    line.Moves [] { line with toServer := rest } := by
  refine moves_lose ?_ (List.Sublist.refl _)
  rw [hpack]
  exact List.sublist_cons_self pack rest

theorem moves_serve {pack : Outgoing} {rest : List Outgoing} (hpack : line.toServer = pack :: rest)
    (answers : Bool) :
    line.Moves ({ line with toServer := rest }.serve answers pack).2
      ({ line with toServer := rest }.serve answers pack).1 := by
  have htaken : line.toServer = [pack] ++ rest := hpack
  cases pack with
  | publish pack dup qos retained =>
      unfold serve
      dsimp only
      split
      next hqos =>
        refine moves_stored pack.msgId htaken (fun k hk => Function.update_of_ne hk _ _) (fun k hk => ⟨rfl, ?_⟩)
          (fun k => ⟨rfl, rfl⟩) (fun s d u => ?_)
        · exact ups_pubrec_of_ne hk
        · rw [downs_publish pack dup retained hqos, Function.update_self, ups_pubrec]
          cases line.stored pack.msgId with
          | none => exact .single .record
          | some held => exact .single .again
      next => exact moves_drop hpack
  | pubrel k dup =>
      unfold serve
      dsimp only
      split
      next letter given hstored =>
        refine moves_stored k htaken (fun k' hk => Function.update_of_ne hk _ _) (fun k' hk => ⟨?_, ?_⟩)
          (fun k' => ⟨?_, rfl⟩) (fun s d u => ?_)
        · cases given with
          | true => rfl
          | false => exact lineOuts_passed_of_ne hk letter
        · exact ups_pubcomp_of_ne hk
        · cases given <;> rfl
        · rw [downs_pubrel, Function.update_self, ups_pubcomp, hstored]
          cases given with
          | true => exact .single .forget
          | false =>
              rw [if_neg Bool.false_ne_true, lineOuts_passed]
              exact (Handshake.Trace.single .pass).tail .forget
      next hstored =>
        refine moves_stored k htaken (fun _ _ => rfl) (fun k' hk => ⟨rfl, ?_⟩) (fun k' => ⟨rfl, ?_⟩)
          (fun s d u => ?_)
        · cases answers with
          | true => exact ups_pubcomp_of_ne hk
          | false => rfl
        · cases answers <;> rfl
        · rw [downs_pubrel, hstored]
          cases answers with
          | true =>
              rw [if_pos rfl, ups_pubcomp]
              exact .single .answer
          | false =>
              rw [if_neg Bool.false_ne_true, ups_nil, List.append_nil u]
              exact .single (.lose (List.sublist_append_right _ d) (List.Sublist.refl u))
  | pubrec k =>
      unfold serve
      dsimp only
      split
      next letter hsending =>
        refine moves_sending k htaken (fun k' hk => Function.update_of_ne hk _ _) (fun k' hk => ⟨rfl, ?_⟩)
          (fun k' => ⟨rfl, rfl⟩) (fun r d u => ?_)
        · exact downs_pubrel_of_ne hk 0
        · rw [ups_pubrec, Function.update_self, downs_pubrel, hsending]
          exact .single .release
      next => exact moves_drop hpack
      next => exact moves_drop hpack
  | pubcomp k =>
      unfold serve
      dsimp only
      split
      next letter hsending =>
        rw [← List.append_nil line.toClient]
        refine moves_sending k htaken (fun k' hk => Function.update_of_ne hk _ _) (fun k' hk => ⟨?_, rfl⟩)
          (fun k' => ⟨rfl, rfl⟩) (fun r d u => ?_)
        · simp [lineIntos, LineSignal.into, hk.symm]
        · have hfinished : lineIntos k [.serverFinished k letter] = [.finished letter] := by
            simp [lineIntos, LineSignal.into]
          rw [ups_pubcomp, Function.update_self, hsending, hfinished, downs_nil, List.append_nil]
          exact .single .finish
      next => exact moves_drop hpack
      next => exact moves_drop hpack
  | puback k => exact moves_drop hpack

theorem moves_send {pack : Outgoing} (hsend : line.maySend pack = true) :
    line.Moves [] { line with toClient := line.toClient ++ [pack] } := by
  cases pack with
  | publish pack dup qos retained =>
      simp only [maySend, decide_eq_true_eq] at hsend
      by_cases hqos : qos % 4 = 2
      · refine @moves_sending line pack.msgId [] line.toServer _ line.sending [] rfl (fun _ _ => rfl)
          (fun k hk => ⟨rfl, ?_⟩) (fun k => ⟨rfl, rfl⟩) (fun r d u => ?_)
        · exact downs_publish_of_ne k hk dup qos retained
        · rw [downs_publish pack dup retained hqos, hsend hqos]
          exact .single .resend
      · refine @moves_sending line pack.msgId [] line.toServer _ line.sending [] rfl (fun _ _ => rfl)
          (fun k hk => ⟨rfl, ?_⟩) (fun k => ⟨rfl, rfl⟩) (fun r d u => ?_)
        · exact downs_publish_of_qos k pack dup retained hqos
        · rw [downs_publish_of_qos pack.msgId pack dup retained hqos, List.append_nil]
          exact .refl _
  | pubrel k dup =>
      obtain ⟨⟨letter, known⟩, hsending, rfl⟩ := (Option.any_eq_true _ _).mp hsend
      refine @moves_sending line k [] line.toServer _ line.sending [] rfl (fun _ _ => rfl)
        (fun k' hk => ⟨rfl, ?_⟩) (fun k' => ⟨rfl, rfl⟩) (fun r d u => ?_)
      · exact downs_pubrel_of_ne hk dup
      · rw [downs_pubrel, hsending]
        exact .single .rerelease
  | puback k =>
      refine @moves_sending line k [] line.toServer _ line.sending [] rfl (fun _ _ => rfl)
        (fun k' hk => ⟨rfl, rfl⟩) (fun k' => ⟨rfl, rfl⟩) (fun r d u => ?_)
      rw [show downs k [.puback k] = [] from rfl, List.append_nil]
      exact .refl _
  | pubrec k => cases hsend
  | pubcomp k => cases hsend

theorem moves_passes {k : ℕ} {letter : Letter} (hstored : line.stored k = some (letter, false)) :
    line.Moves [.serverPassed k letter]
      { line with stored := Function.update line.stored k (some (letter, true)) } := by
  rw [← List.append_nil line.toClient]
  refine @moves_stored line k [] line.toServer [] _ _ rfl (fun k' hk => Function.update_of_ne hk _ _)
    (fun k' hk => ⟨?_, rfl⟩) (fun k' => ⟨rfl, rfl⟩) (fun s d u => ?_)
  · exact lineOuts_passed_of_ne hk letter
  · rw [Function.update_self, hstored, lineOuts_passed, ups_nil, List.append_nil]
    exact .single .pass

theorem moves_publishes (pack : Publish) (retained : ℕ) (hfree : line.sending pack.msgId = none) :
    line.Moves [.serverTook pack.msgId (pack.letter retained)]
      { line with
        sending := Function.update line.sending pack.msgId (some (pack.letter retained, false))
        toClient := line.toClient ++ [.publish pack 0 2 retained] } := by
  refine @moves_sending line pack.msgId [] line.toServer _ _ _ rfl (fun k hk => Function.update_of_ne hk _ _)
    (fun k hk => ⟨?_, ?_⟩) (fun k => ⟨rfl, rfl⟩) (fun r d u => ?_)
  · simp [lineIntos, LineSignal.into, hk.symm]
  · exact downs_publish_of_ne k hk 0 2 retained
  · have htook : lineIntos pack.msgId [.serverTook pack.msgId (pack.letter retained)] =
        [.taken (pack.letter retained)] := by
      simp [lineIntos, LineSignal.into]
    rw [Function.update_self, hfree, htook, downs_publish pack 0 retained rfl]
    exact .single (.take _)

/-! ### Runs -/

/-- What is asked of the events: that the client is used as the documentation tells, and that no connection
asks for a clean session. -/
def Keeps : LineEvent → Prop
  | .client event => Clients.Fair event ∧ Clients.KeepsSession event
  | _ => True

/-- What a step can be. -/
inductive Turn (line : Line) : LineEvent → Line × List LineSignal → Prop
  | client {event : ClientEvent} {result : Clients × List ClientSignal} (hpacket : Clients.isPacket event = false)
      (hresult : line.client.step event = some result) : Turn line (.client event) (line.advance result)
  | receives {pack : Outgoing} {rest : List Outgoing} (busy : Bool) (clock : ℤ) (rc : Rc Unit)
      (hclient : line.toClient = pack :: rest) :
      Turn line (.clientReceives busy clock rc)
        ({ line with toClient := rest }.advance (line.client.MQTTClientCycle pack.packet busy clock rc))
  | serves {pack : Outgoing} {rest : List Outgoing} (answers : Bool) (hserver : line.toServer = pack :: rest) :
      Turn line (.serverReceives answers) ({ line with toServer := rest }.serve answers pack)
  | passes {k : ℕ} {letter : Letter} (hstored : line.stored k = some (letter, false)) :
      Turn line (.serverPasses k)
        ({ line with stored := Function.update line.stored k (some (letter, true)) }, [.serverPassed k letter])
  | publishes (pack : Publish) (retained : ℕ) (hfree : line.sending pack.msgId = none) :
      Turn line (.serverPublishes pack retained)
        ({ line with
          sending := Function.update line.sending pack.msgId (some (pack.letter retained, false))
          toClient := line.toClient ++ [.publish pack 0 2 retained] },
          [.serverTook pack.msgId (pack.letter retained)])
  | sends {pack : Outgoing} (hsend : line.maySend pack = true) :
      Turn line (.serverSends pack) ({ line with toClient := line.toClient ++ [pack] }, [])
  | losesToServer (i : ℕ) :
      Turn line (.losesToServer i) ({ line with toServer := line.toServer.eraseIdx i }, [])
  | losesToClient (i : ℕ) :
      Turn line (.losesToClient i) ({ line with toClient := line.toClient.eraseIdx i }, [])

theorem turn_of_step {event : LineEvent} {next : Line × List LineSignal} (hstep : line.step event = some next) :
    line.Turn event next := by
  cases event with
  | client event =>
      simp only [step] at hstep
      split at hstep
      next => cases hstep
      next hpacket =>
        obtain ⟨result, hresult, rfl⟩ := Option.map_eq_some_iff.mp hstep
        exact .client (eq_false_of_ne_true hpacket) hresult
  | clientReceives busy clock rc =>
      simp only [step] at hstep
      split at hstep
      next => cases hstep
      next pack rest hclient =>
        split at hstep
        next =>
          cases hstep
          exact .receives busy clock rc hclient
        next => cases hstep
  | serverReceives answers =>
      simp only [step] at hstep
      split at hstep
      next => cases hstep
      next pack rest hserver =>
        cases hstep
        exact .serves answers hserver
  | serverPasses k =>
      simp only [step] at hstep
      split at hstep
      next letter hstored =>
        cases hstep
        exact .passes hstored
      next => cases hstep
      next => cases hstep
  | serverPublishes pack retained =>
      simp only [step] at hstep
      split at hstep
      next hfree =>
        cases hstep
        exact .publishes pack retained hfree
      next => cases hstep
  | serverSends pack =>
      simp only [step] at hstep
      split at hstep
      next hsend =>
        cases hstep
        exact .sends hsend
      next => cases hstep
  | losesToServer i =>
      cases hstep
      exact .losesToServer i
  | losesToClient i =>
      cases hstep
      exact .losesToClient i

theorem moves_step {event : LineEvent} {next : Line × List LineSignal} (hnumbered : Clients.Numbered line.client)
    (hclean : line.client.cleansession = false) (hkeeps : Keeps event) (hstep : line.step event = some next) :
    line.Moves next.2 next.1 := by
  cases turn_of_step hstep with
  | client hpacket hresult =>
      exact moves_advance (Clients.plays_step hnumbered hclean hkeeps.1 hkeeps.2 hpacket hresult) rfl
  | receives busy clock rc hclient =>
      exact moves_advance (Clients.plays_cycle hnumbered _ busy clock rc) hclient
  | serves answers hserver => exact moves_serve hserver answers
  | passes hstored => exact moves_passes hstored
  | publishes pack retained hfree => exact moves_publishes pack retained hfree
  | sends hsend => exact moves_send hsend
  | losesToServer i => exact moves_lose (List.eraseIdx_sublist _ i) (List.Sublist.refl _)
  | losesToClient i => exact moves_lose (List.Sublist.refl _) (List.eraseIdx_sublist _ i)

theorem serve_client (answers : Bool) (pack : Outgoing) :
    (line.serve answers pack).1.client = line.client ∧ clientsOf (line.serve answers pack).2 = [] := by
  cases pack with
  | publish pack dup qos retained =>
      unfold serve
      dsimp only
      split <;> exact ⟨rfl, rfl⟩
  | pubrel k dup =>
      unfold serve
      dsimp only
      split
      next letter given _ => cases given <;> exact ⟨rfl, rfl⟩
      next => exact ⟨rfl, rfl⟩
  | pubrec k =>
      unfold serve
      dsimp only
      split <;> exact ⟨rfl, rfl⟩
  | pubcomp k =>
      unfold serve
      dsimp only
      split <;> exact ⟨rfl, rfl⟩
  | puback k => exact ⟨rfl, rfl⟩

/-- The client takes no part in a step, or the step is one of its own. -/
theorem step_client {event : LineEvent} {next : Line × List LineSignal} (hkeeps : Keeps event)
    (hstep : line.step event = some next) :
    (next.1.client = line.client ∧ clientsOf next.2 = []) ∨
    ∃ clientEvent, Clients.Fair clientEvent ∧ Clients.KeepsSession clientEvent ∧
      line.client.step clientEvent = some (next.1.client, clientsOf next.2) := by
  cases turn_of_step hstep with
  | @client event result hpacket hresult =>
      refine Or.inr ⟨event, hkeeps.1, hkeeps.2, ?_⟩
      rw [hresult, advance, clientsOf_client]
  | @receives pack rest busy clock rc hclient =>
      refine Or.inr ⟨.packet pack.packet busy clock rc, trivial, trivial, ?_⟩
      rw [advance, clientsOf_client]
      rfl
  | serves answers hserver => exact Or.inl (serve_client answers _)
  | passes hstored => exact Or.inl ⟨rfl, rfl⟩
  | publishes pack retained hfree => exact Or.inl ⟨rfl, rfl⟩
  | sends hsend => exact Or.inl ⟨rfl, rfl⟩
  | losesToServer i => exact Or.inl ⟨rfl, rfl⟩
  | losesToClient i => exact Or.inl ⟨rfl, rfl⟩

/-- What holds along every run. -/
structure Sound (signals : List LineSignal) (line : Line) : Prop where
  numbered : Clients.Numbered line.client
  queues : Clients.Queues .init (clientsOf signals) line.client
  outgoing : ∀ k, Handshake.Trace .empty (lineOuts k signals) (line.outgoing k)
  incoming : ∀ k, Handshake.Trace .empty (lineIntos k signals) (line.incoming k)

theorem sound_start : Sound [] start where
  numbered := Clients.Numbered.init
  queues := Clients.queues_still rfl
  outgoing := fun _ => .refl _
  incoming := fun _ => .refl _

theorem Sound.step {signals : List LineSignal} {event : LineEvent} {next : Line × List LineSignal}
    (h : Sound signals line) (hkeeps : Keeps event) (hstep : line.step event = some next) :
    Sound (signals ++ next.2) next.1 := by
  have hmoves := moves_step h.numbered h.queues.kept hkeeps hstep
  have hclient : Clients.Numbered next.1.client ∧ Clients.Queues line.client (clientsOf next.2) next.1.client := by
    obtain ⟨hsame, hnone⟩ | ⟨clientEvent, hfair, hsession, hclient⟩ := step_client hkeeps hstep
    · rw [hsame, hnone]
      exact ⟨h.numbered, Clients.queues_still h.queues.kept⟩
    · exact ⟨h.numbered.step hfair hclient,
        Clients.queues_step h.numbered h.queues.kept hfair hsession hclient⟩
  refine ⟨hclient.1, ?_, fun k => ?_, fun k => ?_⟩
  · rw [clientsOf_append]
    exact h.queues.trans hclient.2
  · rw [lineOuts_append]
    exact (h.outgoing k).trans (hmoves.outgoing k)
  · rw [lineIntos_append]
    exact (h.incoming k).trans (hmoves.incoming k)

theorem sound_run {events : List LineEvent} {result : Line × List LineSignal} (hevents : ∀ event ∈ events, Keeps event)
    (hrun : Runs.run step start events = some result) : Sound result.2 result.1 :=
  Runs.run_invariant (P := fun _ signals line => Sound signals line) sound_start
    (fun _ _ _ _ _ h hkeeps hstep => h.step hkeeps hstep) (Runs.along_of_forall_mem hevents start) hrun

/-- A publication that is lost with its connection and sent again with the next, and a message from the server
whose release is lost and repeated. -/
def sampleLine : List LineEvent :=
  [.client (.connect ⟨false, 0, true, 0⟩ true 1 fun _ => .complete ()),
    .client (.publish [116] [1] 2 0 false 2 (.complete ())), .losesToServer 0, .client .disconnect,
    .client (.connect ⟨false, 0, true, 0⟩ true 3 fun _ => .complete ()),
    .serverReceives true, .clientReceives false 4 (.complete ()), .serverReceives true,
    .clientReceives false 5 (.complete ()),
    .serverPublishes ⟨0, [117], 7, [2]⟩ 0, .clientReceives false 6 (.complete ()), .serverReceives true,
    .losesToClient 0, .serverSends (.pubrel 7 1), .clientReceives false 7 (.complete ()), .serverReceives true,
    .client (.messageArrived true)]

theorem keeps_sampleLine : ∀ event ∈ sampleLine, Keeps event := by
  simp [sampleLine, Keeps, Clients.Fair, Clients.KeepsSession, Clients.ConnectOptions.maxInflight,
    Clients.MAX_MSG_ID]

/-- For every number and either direction a run is one of the handshake: what client, server and line do with
the messages with the quality 2, over any number of connections, are moves of it. -/
theorem line_refines_handshake (events : List LineEvent) (line : Line) (signals : List LineSignal)
    (hevents : ∀ event ∈ events, Keeps event) (hrun : Runs.run step start events = some (line, signals)) (k : ℕ) :
    Handshake.Trace .empty (lineOuts k signals) (line.outgoing k) ∧
      Handshake.Trace .empty (lineIntos k signals) (line.incoming k) := by
  have hsound := sound_run hevents hrun
  exact ⟨hsound.outgoing k, hsound.incoming k⟩

theorem line_refines_handshake_sample :
    ∃ line signals, Runs.run step start sampleLine = some (line, signals) ∧
      Handshake.takes (lineIntos 7 signals) = [⟨[117], [2], 0⟩] ∧
      Handshake.finishes (lineIntos 7 signals) = [⟨[117], [2], 0⟩] ∧
      Handshake.Trace .empty (lineIntos 7 signals) (line.incoming 7) := by
  have hrun : (Runs.run step start sampleLine).map (fun result =>
      (Handshake.takes (lineIntos 7 result.2), Handshake.finishes (lineIntos 7 result.2))) =
      some ([⟨[117], [2], 0⟩], [⟨[117], [2], 0⟩]) := by
    decide +kernel
  obtain ⟨⟨line, signals⟩, hrun, hseen⟩ := Option.map_eq_some_iff.mp hrun
  obtain ⟨htaken, hfinished⟩ := Prod.mk.inj hseen
  exact ⟨line, signals, hrun, htaken, hfinished,
    (line_refines_handshake sampleLine line signals keeps_sampleLine hrun 7).2⟩

/-- Exactly once, for every number. A message that the client has published is passed on by the server before
the client takes it as delivered, and in the order of publication; it is delivered or still held by the client.
A message from the server is put in the queue before the server takes it as delivered, and `messageArrived` takes
over what was put there, each once and in the order in which the server sent it. -/
theorem exactly_once (events : List LineEvent) (line : Line) (signals : List LineSignal)
    (hevents : ∀ event ∈ events, Keeps event) (hrun : Runs.run step start events = some (line, signals)) (k : ℕ) :
    (Handshake.finishes (lineOuts k signals) <+: Handshake.passes (lineOuts k signals) ∧
      Handshake.passes (lineOuts k signals) <+: Handshake.takes (lineOuts k signals) ∧
      Handshake.takes (lineOuts k signals) =
        Handshake.finishes (lineOuts k signals) ++ ((line.client.sender k).map Prod.fst).toList) ∧
    Handshake.finishes (lineIntos k signals) <+: lettersOf k (queuedOf (clientsOf signals)) ∧
      lettersOf k (queuedOf (clientsOf signals)) <+: Handshake.takes (lineIntos k signals) ∧
      lettersOf k (queuedOf (clientsOf signals)) =
        lettersOf k (arrivedOf (clientsOf signals)) ++ lettersOf k line.client.messageQueue := by
  have hsound := sound_run hevents hrun
  have hout := Handshake.sound_empty.trace (hsound.outgoing k)
  have hinto := Handshake.sound_empty.trace (hsound.incoming k)
  rw [List.nil_append] at hout hinto
  have hqueue := hsound.queues.queue_eq
  rw [show Clients.init.messageQueue = [] from rfl, List.nil_append] at hqueue
  rw [← passes_lineIntos]
  refine ⟨⟨hout.finishes_prefix, hout.passes_prefix, hout.takes_eq⟩, hinto.finishes_prefix, hinto.passes_prefix, ?_⟩
  rw [passes_lineIntos, hqueue, lettersOf, List.filterMap_append]
  rfl

theorem exactly_once_sample :
    ∃ line signals, Runs.run step start sampleLine = some (line, signals) ∧
      Handshake.finishes (lineOuts 1 signals) = [⟨[116], [1], 0⟩] ∧
      lettersOf 7 (arrivedOf (clientsOf signals)) = [⟨[117], [2], 0⟩] ∧
      Handshake.finishes (lineOuts 1 signals) <+: Handshake.passes (lineOuts 1 signals) := by
  have hrun : (Runs.run step start sampleLine).map (fun result =>
      (Handshake.finishes (lineOuts 1 result.2), lettersOf 7 (arrivedOf (clientsOf result.2)))) =
      some ([⟨[116], [1], 0⟩], [⟨[117], [2], 0⟩]) := by
    decide +kernel
  obtain ⟨⟨line, signals⟩, hrun, hseen⟩ := Option.map_eq_some_iff.mp hrun
  obtain ⟨hfinished, harrived⟩ := Prod.mk.inj hseen
  exact ⟨line, signals, hrun, hfinished, harrived,
    (exactly_once sampleLine line signals keeps_sampleLine hrun 1).1.1⟩

end Line

end LinuxGateway.Paho
