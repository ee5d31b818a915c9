import LinuxGateway.LibRuns
import LinuxGateway.LibBytes
import Mathlib.Data.List.Nodup
import Mathlib.Data.List.Infix
import Mathlib.Algebra.Order.Ring.Int

/-! The web server of the gateway (`src/nodejs_server/app.js`): it forwards every MQTT message to the
web clients that are connected. Node.js runs one callback at a time, so one step is one callback. A
callback that throws ends the process, since nothing catches the exception. -/

namespace LinuxGateway.WebServer

open Bytes

/-! ### Arrays -/

section Arrays

variable {α : Type*} [DecidableEq α]

/-- `array.indexOf(x)`. -/
def indexOf (array : List α) (x : α) : ℤ := if x ∈ array then array.idxOf x else -1

/-- `array.splice(start, 1)`. A negative start counts from the end, but not beyond the first entry. -/
def spliceOne (array : List α) (start : ℤ) : List α :=
  array.eraseIdx (if start < 0 then array.length + start else start).toNat

/-- Removal by index is removal by value where the value is there. Where it is not, the last entry
goes. -/
theorem spliceOne_indexOf (array : List α) (x : α) :
    spliceOne array (indexOf array x) = if x ∈ array then array.erase x else array.dropLast := by
  by_cases hx : x ∈ array
  · have hnonneg : ¬ ((array.idxOf x : ℤ) < 0) := by omega
    rw [spliceOne, indexOf, if_pos hx, if_pos hx, if_neg hnonneg, Int.toNat_natCast]
    exact (List.erase_eq_eraseIdx_of_idxOf rfl).symm
  · have hlast : ((array.length : ℤ) + -1).toNat = array.length - 1 := by omega
    rw [spliceOne, indexOf, if_neg hx, if_neg hx, if_pos (by decide), hlast]
    cases array with
    | nil => rfl
    | cons => exact List.eraseIdx_eq_dropLast (by simp)

end Arrays

/-! ### The server -/

/-- What `JSON.parse` makes of a text. Arrays, strings, numbers and truth values are `other`. -/
inductive Parsed where
  | syntaxError
  | null
  | object
  | other
  deriving DecidableEq

/-- A callback and its argument. The sockets are told apart by identity, as `indexOf` does. -/
inductive Event (Socket : Type*) where
  | connection (socket : Socket)
  | disconnect (socket : Socket)
  | message (message : List UInt8)
  deriving DecidableEq

/-- `socket.emit(event, message)`. -/
structure Emit (Socket : Type*) where
  socket : Socket
  event : String
  message : List UInt8
  deriving DecidableEq

variable {Socket : Type*} [DecidableEq Socket] (parse : List UInt8 → Parsed)

/-- `data = JSON.parse(message); data.type` does not throw. -/
def Readable (message : List UInt8) : Prop := parse message ≠ .syntaxError ∧ parse message ≠ .null

instance (message : List UInt8) : Decidable (Readable parse message) :=
  inferInstanceAs (Decidable (_ ∧ _))

/-- The callback of `message`. The second `JSON.parse`, inside `forEach`, reads the same text. -/
def onMessage (allWebClients : List Socket) (message : List UInt8) :
    Option (List Socket × List (Emit Socket)) :=
  if Readable parse message then
    some (allWebClients, allWebClients.map fun socket => ⟨socket, "USB", message⟩)
  else none

/-- The callback of `disconnect`. -/
def onDisconnect (allWebClients : List Socket) (socket : Socket) : List Socket :=
  spliceOne allWebClients (indexOf allWebClients socket)

/-- One callback; the state is `allWebClients`. -/
def step : Runs.Step (List Socket) (Event Socket) (Emit Socket) := fun allWebClients event =>
  match event with
  | .connection socket => some (allWebClients ++ [socket], [])
  | .disconnect socket => some (onDisconnect allWebClients socket, [])
  | .message message => onMessage parse allWebClients message

/-! ### Who is connected -/

/-- The socket that an event is about. -/
def Event.socket? : Event Socket → Option Socket
  | .connection socket => some socket
  | .disconnect socket => some socket
  | .message _ => none

/-- The socket that an event connects. -/
def Event.joins? : Event Socket → Option Socket
  | .connection socket => some socket
  | .disconnect _ => none
  | .message _ => none

/-- The events of one socket, in their order. -/
def eventsOf (socket : Socket) (events : List (Event Socket)) : List (Event Socket) :=
  events.filter fun event => event.socket? = some socket

/-- What socket.io promises: a socket fires `connection` once and then `disconnect` at most once. -/
def Sessions (events : List (Event Socket)) : Prop :=
  ∀ socket, eventsOf socket events <+: [.connection socket, .disconnect socket]

/-- The sockets that have connected and not disconnected, in the order in which they connected. -/
def connected (events : List (Event Socket)) : List Socket :=
  (events.filterMap Event.joins?).filter fun socket => .disconnect socket ∉ events

theorem eventsOf_append (socket : Socket) (events events' : List (Event Socket)) :
    eventsOf socket (events ++ events') = eventsOf socket events ++ eventsOf socket events' :=
  List.filter_append ..

theorem Sessions.init {events : List (Event Socket)} {event : Event Socket}
    (h : Sessions (events ++ [event])) : Sessions events := by
  intro socket
  have hall := h socket
  rw [eventsOf_append] at hall
  exact (List.prefix_append _ _).trans hall

theorem mem_eventsOf {socket : Socket} {events : List (Event Socket)} {event : Event Socket} :
    event ∈ eventsOf socket events ↔ event ∈ events ∧ event.socket? = some socket := by
  simp [eventsOf]

theorem eventsOf_snoc {socket : Socket} {event : Event Socket} (h : event.socket? = some socket)
    (events : List (Event Socket)) :
    eventsOf socket (events ++ [event]) = eventsOf socket events ++ [event] := by
  rw [eventsOf_append]
  simp [eventsOf, h]

/-- A socket that connects has not been there before. -/
theorem Sessions.eventsOf_connection {events : List (Event Socket)} {socket : Socket}
    (h : Sessions (events ++ [.connection socket])) : eventsOf socket events = [] := by
  obtain ⟨rest, hrest⟩ := h socket
  rw [eventsOf_snoc rfl] at hrest
  rcases hevents : eventsOf socket events with _ | ⟨first, _ | ⟨second, tail⟩⟩
  · rfl
  · simp [hevents] at hrest
  · simp [hevents] at hrest

/-- A socket that disconnects has connected before, and nothing else. -/
theorem Sessions.eventsOf_disconnect {events : List (Event Socket)} {socket : Socket}
    (h : Sessions (events ++ [.disconnect socket])) :
    eventsOf socket events = [.connection socket] := by
  obtain ⟨rest, hrest⟩ := h socket
  rw [eventsOf_snoc rfl] at hrest
  rcases hevents : eventsOf socket events with _ | ⟨first, _ | ⟨second, tail⟩⟩
  · simp [hevents] at hrest
  · rw [hevents] at hrest
    rw [(List.cons.inj hrest).1]
  · simp [hevents] at hrest

theorem mem_connected {socket : Socket} {events : List (Event Socket)} :
    socket ∈ connected events ↔ .connection socket ∈ events ∧ .disconnect socket ∉ events := by
  rw [connected, List.mem_filter, List.mem_filterMap, decide_eq_true_iff]
  apply and_congr_left
  intro _
  constructor
  · rintro ⟨event, hmem, hjoins⟩
    cases event with
    | connection other => exact Option.some.inj hjoins ▸ hmem
    | disconnect => cases hjoins
    | message => cases hjoins
  · intro hmem
    exact ⟨_, hmem, rfl⟩

theorem connected_connection {events : List (Event Socket)} {socket : Socket}
    (h : eventsOf socket events = []) :
    connected (events ++ [.connection socket]) = connected events ++ [socket] := by
  have hnot : Event.disconnect socket ∉ events := by
    intro hmem
    have := mem_eventsOf.mpr ⟨hmem, rfl⟩
    rw [h] at this
    exact List.not_mem_nil this
  simp [connected, Event.joins?, hnot]

theorem connected_message (events : List (Event Socket)) (message : List UInt8) :
    connected (events ++ [.message message]) = connected events := by
  simp [connected, Event.joins?]

theorem connected_disconnect (events : List (Event Socket)) (socket : Socket) :
    connected (events ++ [.disconnect socket]) = (connected events).filter (· != socket) := by
  simp only [connected, List.filterMap_append, List.filterMap_cons, List.filterMap_nil, Event.joins?,
    List.append_nil, List.filter_filter]
  apply List.filter_congr
  intro other _
  by_cases hother : other = socket <;> simp [hother]

/-! ### The registry -/

/-- After any callbacks the array holds the connected sockets, each once. -/
theorem allWebClients_eq {events : List (Event Socket)} {result : List Socket × List (Emit Socket)}
    (hsessions : Sessions events) (hrun : Runs.run (step parse) [] events = some result) :
    result.1 = connected events ∧ result.1.Nodup := by
  refine Runs.run_invariant (G := fun _ _ => True)
    (P := fun events _ clients => Sessions events → clients = connected events ∧ clients.Nodup)
    (fun _ => ⟨rfl, List.nodup_nil⟩) ?_ (Runs.along_of_forall (fun _ _ => trivial) _ _) hrun hsessions
  intro events out clients event next ih _ hstep hsessions
  obtain ⟨rfl, hnodup⟩ := ih hsessions.init
  cases event with
  | connection socket =>
      obtain rfl := Option.some.inj hstep
      have hnew := hsessions.eventsOf_connection
      refine ⟨(connected_connection hnew).symm, List.nodup_append.mpr ⟨hnodup, by simp, ?_⟩⟩
      intro other hother last hlast
      rw [List.mem_singleton] at hlast
      subst hlast
      rintro rfl
      have hmem := mem_eventsOf.mpr ⟨(mem_connected.mp hother).1, rfl⟩
      rw [hnew] at hmem
      exact List.not_mem_nil hmem
  | disconnect socket =>
      obtain rfl := Option.some.inj hstep
      have hevents := hsessions.eventsOf_disconnect
      have hin : socket ∈ connected events := by
        refine mem_connected.mpr ⟨?_, fun hmem => ?_⟩
        · exact (mem_eventsOf.mp (hevents ▸ List.mem_singleton_self _)).1
        · have hdisconnect := mem_eventsOf.mpr ⟨hmem, rfl⟩
          rw [hevents] at hdisconnect
          simp at hdisconnect
      simp only [onDisconnect, spliceOne_indexOf, if_pos hin]
      rw [connected_disconnect]
      exact ⟨hnodup.erase_eq_filter socket, hnodup.erase socket⟩
  | message message =>
      simp only [step, onMessage] at hstep
      split at hstep
      · obtain rfl := Option.some.inj hstep
        exact ⟨(connected_message events message).symm, hnodup⟩
      · cases hstep

/-- The process lives as long as every message could be read. -/
theorem isSome_run_iff (clients : List Socket) (events : List (Event Socket)) :
    (Runs.run (step parse) clients events).isSome ↔
      ∀ message, .message message ∈ events → Readable parse message := by
  have hexact : ∀ (clients : List Socket) (event : Event Socket),
      (∀ message, event = .message message → Readable parse message) ↔
        (step parse clients event).isSome := by
    intro clients event
    cases event with
    | connection => simp [step]
    | disconnect => simp [step]
    | message message => simp [step, onMessage]
  have hdefined : ∀ (clients : List Socket) (event : Event Socket),
      (∀ message, event = .message message → Readable parse message) →
        ∃ next, step parse clients event = some next :=
    fun clients event h => Option.isSome_iff_exists.mp ((hexact clients event).mp h)
  rw [← Runs.along_iff_isSome hexact, Runs.along_iff_forall_mem hdefined]
  constructor
  · intro h message hmem
    exact h _ hmem message rfl
  · rintro h event hmem message rfl
    exact h message hmem

/-- Whatever the order of the callbacks, the array is the list of the connected sockets, each of them
once, and a message that is a JSON object goes once to each of them. The process ends only at a
message that `JSON.parse` does not accept or reads as `null`. -/
theorem allWebClients_exact {events : List (Event Socket)} (hsessions : Sessions events) :
    ((Runs.run (step parse) [] events).isSome ↔
      ∀ message, .message message ∈ events → Readable parse message) ∧
    ∀ result, Runs.run (step parse) [] events = some result →
      result.1 = connected events ∧ result.1.Nodup ∧
      ∀ message, parse message = .object →
        step parse result.1 (.message message) =
          some (result.1, (connected events).map fun socket => ⟨socket, "USB", message⟩) := by
  refine ⟨isSome_run_iff parse [] events, fun result hrun => ?_⟩
  obtain ⟨hclients, hnodup⟩ := allWebClients_eq parse hsessions hrun
  refine ⟨hclients, hnodup, fun message hobject => ?_⟩
  have hreadable : Readable parse message := by
    rw [Readable, hobject]
    decide
  rw [step, onMessage, if_pos hreadable, hclients]

/-! ### Exceptions in the message callback -/

/-- What a callback did: what it emitted before it returned, or before an exception left it. -/
structure Outcome (Socket : Type*) where
  emits : List (Emit Socket)
  threw : Bool
  deriving DecidableEq

/-- `allWebClients.forEach(...)`. The function parses the message once more before it emits. -/
def forEachEmit (message : List UInt8) : List Socket → Outcome Socket
  | [] => ⟨[], false⟩
  | socket :: sockets =>
      if Readable parse message then
        let rest := forEachEmit message sockets
        ⟨⟨socket, "USB", message⟩ :: rest.emits, rest.threw⟩
      else ⟨[], true⟩

/-- The callback of `message`, one statement after the other. -/
def messageCallback (allWebClients : List Socket) (message : List UInt8) : Outcome Socket :=
  if Readable parse message then forEachEmit parse message allWebClients else ⟨[], true⟩

omit [DecidableEq Socket] in
/-- The same text is parsed with the same result, so no exception comes part-way. -/
theorem forEachEmit_of_readable {message : List UInt8} (h : Readable parse message)
    (sockets : List Socket) :
    forEachEmit parse message sockets =
      ⟨sockets.map fun socket => ⟨socket, "USB", message⟩, false⟩ := by
  induction sockets with
  | nil => rfl
  | cons socket sockets ih => rw [forEachEmit, if_pos h, ih, List.map_cons]

omit [DecidableEq Socket] in
theorem messageCallback_eq (clients : List Socket) (message : List UInt8) :
    messageCallback parse clients message =
      if Readable parse message then ⟨clients.map fun socket => ⟨socket, "USB", message⟩, false⟩
      else ⟨[], true⟩ := by
  unfold messageCallback
  split
  · rename_i h
    exact forEachEmit_of_readable parse h clients
  · rfl

omit [DecidableEq Socket] in
/-- The step for a message is this callback; the process ends where it throws. -/
theorem onMessage_eq_messageCallback (clients : List Socket) (message : List UInt8) :
    onMessage parse clients message =
      if (messageCallback parse clients message).threw then none
      else some (clients, (messageCallback parse clients message).emits) := by
  rw [messageCallback_eq, onMessage]
  split <;> rfl

/-- After these callbacks, the message is handled: no exception, one `emit` for each connected socket,
and the same array as before. -/
structure Handled (events : List (Event Socket)) (clients : List Socket) (message : List UInt8) :
    Prop where
  completes : (messageCallback parse clients message).threw = false
  emitted : (messageCallback parse clients message).emits =
    (connected events).map fun socket => ⟨socket, "USB", message⟩
  kept : ∃ emits, step parse clients (.message message) = some (clients, emits)

/-- In every state that the server can reach, a message is handled if and only if `JSON.parse`
accepts it and does not read it as `null`. -/
theorem handled_iff_readable {events : List (Event Socket)}
    {result : List Socket × List (Emit Socket)} (hsessions : Sessions events)
    (hrun : Runs.run (step parse) [] events = some result) (message : List UInt8) :
    Handled parse events result.1 message ↔ Readable parse message := by
  obtain ⟨hclients, _⟩ := allWebClients_eq parse hsessions hrun
  constructor
  · intro h
    by_contra hunreadable
    have hcompletes := h.completes
    rw [messageCallback_eq, if_neg hunreadable] at hcompletes
    cases hcompletes
  · intro h
    have hreturns : messageCallback parse result.1 message =
        ⟨result.1.map fun socket => ⟨socket, "USB", message⟩, false⟩ := by
      rw [messageCallback_eq, if_pos h]
    refine ⟨by rw [hreturns], by rw [hreturns, ← hclients], ?_⟩
    refine ⟨(messageCallback parse result.1 message).emits, ?_⟩
    rw [step, onMessage_eq_messageCallback, hreturns]
    rfl

section Example

/-- A message that the gateway's clients send. -/
def sampleMessage : List UInt8 := ascii "\x7b\"type\":1\x7d"

/-- `JSON.parse` of that message is an object. -/
def sampleParse (message : List UInt8) : Parsed :=
  if message = sampleMessage then .object else .syntaxError

def sampleEvents : List (Event ℕ) :=
  [.connection 1, .connection 2, .message sampleMessage, .connection 3, .disconnect 2]

theorem sessions_sampleEvents : Sessions sampleEvents := by
  intro socket
  by_cases h1 : socket = 1
  · subst h1
    decide
  by_cases h2 : socket = 2
  · subst h2
    decide
  by_cases h3 : socket = 3
  · subst h3
    decide
  have hnone : eventsOf socket sampleEvents = [] := by
    simp [eventsOf, sampleEvents, Event.socket?, Ne.symm h1, Ne.symm h2, Ne.symm h3]
  rw [hnone]
  exact List.nil_prefix

/-- The second client leaves before the others, and the next message goes to those. -/
theorem allWebClients_exact_sample :
    ∃ result, Runs.run (step sampleParse) [] sampleEvents = some result ∧ result.1 = [1, 3] ∧
      step sampleParse result.1 (.message sampleMessage) =
        some (result.1, [⟨1, "USB", sampleMessage⟩, ⟨3, "USB", sampleMessage⟩]) := by
  obtain ⟨hlives, hexact⟩ := allWebClients_exact sampleParse sessions_sampleEvents
  have hreadable : ∀ message, Event.message message ∈ sampleEvents → Readable sampleParse message := by
    intro message hmem
    obtain rfl : message = sampleMessage := by simpa [sampleEvents] using hmem
    decide
  obtain ⟨result, hrun⟩ := Option.isSome_iff_exists.mp (hlives.mpr hreadable)
  obtain ⟨hclients, _, hemits⟩ := hexact result hrun
  exact ⟨result, hrun, hclients.trans (by decide), hemits sampleMessage (by decide)⟩

theorem handled_sampleMessage :
    ∃ result, Runs.run (step sampleParse) [] sampleEvents = some result ∧
      Handled sampleParse sampleEvents result.1 sampleMessage := by
  obtain ⟨result, hrun⟩ := Option.isSome_iff_exists.mp
    (show (Runs.run (step sampleParse) [] sampleEvents).isSome by decide)
  have hreadable : Readable sampleParse sampleMessage := by decide
  exact ⟨result, hrun,
    (handled_iff_readable sampleParse sessions_sampleEvents hrun sampleMessage).mpr hreadable⟩

/-- A payload that is not JSON ends the process. -/
theorem not_handled_text :
    ¬∀ (parse : List UInt8 → Parsed) (events : List (Event ℕ)) (result : List ℕ × List (Emit ℕ)),
      Sessions events → Runs.run (step parse) [] events = some result →
        ∀ message, Handled parse events result.1 message := by
  intro h
  obtain ⟨result, hrun⟩ := Option.isSome_iff_exists.mp
    (show (Runs.run (step sampleParse) [] sampleEvents).isSome by decide)
  have hhandled := h sampleParse sampleEvents result sessions_sampleEvents hrun (ascii "hello")
  have hcompletes := hhandled.completes
  rw [messageCallback_eq, if_neg (by decide)] at hcompletes
  cases hcompletes

end Example

end LinuxGateway.WebServer
