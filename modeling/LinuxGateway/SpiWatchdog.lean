import LinuxGateway.SpiAssembler
import LinuxGateway.JsonC

/-! The presence watchdog of the SPI service (`clientSPI.c`). The main thread counts the requests it
sends in `flagDetecCount`; the receiving thread counts the responses in `flagDetect`, and after more
than three requests it checks whether there were any. The threads share both counters and
`flag_no_receive`, and are interleaved statement by statement. The frame assembler belongs to the
receiving thread alone, so an iteration puts its byte there in one step. -/

namespace LinuxGateway

open Bytes

/-- The statements of `threadfunction1`. -/
inductive SpiReceiverPc where
  | whileReceive
  | ifCount
  | ifDetect
  | resetDetect
  | resetCount
  | read
  | assemble
  | parse (text : List UInt8)
  | countDetect
  deriving DecidableEq

/-- The statements of `sendRequestToNode`, with the request that it was called for. -/
inductive SpiSenderPc where
  | clearReceive
  | countRequest (request : List UInt8)
  | write (request : List UInt8)
  | setReceive
  deriving DecidableEq

structure SpiWatchdog where
  flagDetect : ℕ
  flagDetecCount : ℕ
  flagNoReceive : Bool
  /-- `msgReceive[0]`, the only byte of `msgReceive` that is looked at. -/
  received : UInt8
  assembler : SpiAssembler
  receiver : SpiReceiverPc
  sender : SpiSenderPc
  deriving DecidableEq

inductive SpiWatchdogEvent where
  /-- The next statement of the receiving thread; `byte` is what `read` finds. -/
  | receiver (byte : Option UInt8)
  /-- The next statement of the main thread; a call starts with `request`. -/
  | sender (request : List UInt8)
  deriving DecidableEq

inductive SpiWatchdogOutput where
  /-- `printf("...Device don't detected...")`. -/
  | notDetected
  /-- `send(sockfd, &data, sizeof(data), 0)`, with the temperature in the record. -/
  | send (temp : ℤ)
  | write (request : List UInt8)
  deriving DecidableEq

namespace SpiWatchdog

def responeKey : ℤ := 99

def responeData : ℤ := 97

def init : SpiWatchdog where
  flagDetect := 0
  flagDetecCount := 0
  flagNoReceive := false
  received := 0
  assembler := SpiAssembler.init
  receiver := .whileReceive
  sender := .clearReceive

/-- `++` on an `int`; beyond the largest one it is undefined. -/
def increment (n : ℕ) : Option ℕ := if n < 2147483647 then some (n + 1) else none

variable (json : JsonC)

/-- `checkResponse` for a string that `json_tokener_parse` was called on. -/
def checkResponse (text : List UInt8) : ℤ :=
  json.getInt (json.objectGetEx (json.parse text) (ascii "keynode"))

/-- `json_object_get_int(temp)`. -/
def temperature (text : List UInt8) : ℤ :=
  json.getInt (json.objectGetEx (json.parse text) (ascii "Temp"))

/-- The next statement of the receiving thread. An iteration hands over one string at most. -/
def receiverStep (s : SpiWatchdog) (byte : Option UInt8) :
    Option (SpiWatchdog × List SpiWatchdogOutput) :=
  match s.receiver with
  | .whileReceive =>
      some ({ s with receiver := if s.flagNoReceive then .ifCount else .whileReceive }, [])
  | .ifCount => some ({ s with receiver := if 3 < s.flagDetecCount then .ifDetect else .read }, [])
  | .ifDetect =>
      if s.flagDetect = 0 then some ({ s with receiver := .resetCount }, [.notDetected])
      else some ({ s with receiver := .resetDetect }, [])
  | .resetDetect => some ({ s with flagDetect := 0, receiver := .resetCount }, [])
  | .resetCount => some ({ s with flagDetecCount := 0, receiver := .read }, [])
  | .read => some ({ s with received := byte.getD s.received, receiver := .assemble }, [])
  | .assemble =>
      (SpiAssembler.receive s.assembler s.received).map fun next =>
        ({ s with
            assembler := next.1
            receiver := match next.2 with
              | [] => .whileReceive
              | text :: _ => .parse text }, [])
  | .parse text =>
      if checkResponse json text = responeKey then some ({ s with receiver := .countDetect }, [])
      else if checkResponse json text = responeData then
        some ({ s with receiver := .countDetect }, [.send (temperature json text)])
      else some ({ s with receiver := .whileReceive }, [])
  | .countDetect =>
      (increment s.flagDetect).map fun n => ({ s with flagDetect := n, receiver := .whileReceive }, [])

/-- The next statement of `sendRequestToNode`. The receiving thread does not take the mutex. -/
def senderStep (s : SpiWatchdog) (request : List UInt8) :
    Option (SpiWatchdog × List SpiWatchdogOutput) :=
  match s.sender with
  | .clearReceive => some ({ s with flagNoReceive := false, sender := .countRequest request }, [])
  | .countRequest request =>
      (increment s.flagDetecCount).map fun n =>
        ({ s with flagDetecCount := n, sender := .write request }, [])
  | .write request => some ({ s with sender := .setReceive }, [.write request])
  | .setReceive => some ({ s with flagNoReceive := true, sender := .clearReceive }, [])

def step : Runs.Step SpiWatchdog SpiWatchdogEvent SpiWatchdogOutput := fun s event =>
  match event with
  | .receiver byte => s.receiverStep json byte
  | .sender request => s.senderStep request

/-! ### What happened since the last check -/

/-- The responses completed since the last check decided, and the requests sent since it began. -/
structure Window where
  responses : ℕ
  requests : ℕ
  deriving DecidableEq

/-- A response of the node: its key, or its data. -/
def IsResponse (text : List UInt8) : Prop :=
  checkResponse json text = responeKey ∨ checkResponse json text = responeData

instance (text : List UInt8) : Decidable (IsResponse json text) :=
  inferInstanceAs (Decidable (_ ∨ _))

/-- The step finds `flagDetecCount > 3`: a check begins. -/
def BeginsCheck (s : SpiWatchdog) (event : SpiWatchdogEvent) : Prop :=
  s.receiver = .ifCount ∧ 3 < s.flagDetecCount ∧ ∃ byte, event = .receiver byte

/-- The step is the one in which a check reports or does not. -/
def Decides (s : SpiWatchdog) (event : SpiWatchdogEvent) : Prop :=
  s.receiver = .ifDetect ∧ ∃ byte, event = .receiver byte

/-- A frame counts when its last byte is there, a request when `sendRequestToNode` counts it. -/
def observeStep (s : SpiWatchdog) (event : SpiWatchdogEvent)
    (next : SpiWatchdog × List SpiWatchdogOutput) (window : Window) : Window :=
  match event with
  | .receiver _ =>
      match s.receiver, next.1.receiver with
      | .ifCount, .ifDetect => { window with requests := 0 }
      | .ifDetect, _ => { window with responses := 0 }
      | .assemble, .parse text =>
          if IsResponse json text then { window with responses := window.responses + 1 } else window
      | _, _ => window
  | .sender _ =>
      match s.sender with
      | .countRequest _ => { window with requests := window.requests + 1 }
      | _ => window

/-- The watchdog with the record of what happened since the last check. -/
def observed : Runs.Step (SpiWatchdog × Window) SpiWatchdogEvent SpiWatchdogOutput :=
  Runs.observe (step json) (observeStep json)

/-- A report is issued in the step where a check decides, exactly when no response was completed, and
a check begins only after four requests. -/
def Watches (s : SpiWatchdog × Window) (event : SpiWatchdogEvent) : Prop :=
  ∀ next, step json s.1 event = some next →
    (.notDetected ∈ next.2 ↔ Decides s.1 event ∧ s.2.responses = 0) ∧
    (BeginsCheck s.1 event → 4 ≤ s.2.requests)

/-! ### The counters against the record -/

variable {json}

/-- The responses that are complete and that the receiving thread has still to count. -/
def owed (json : JsonC) : SpiReceiverPc → ℕ
  | .parse text => if IsResponse json text then 1 else 0
  | .countDetect => 1
  | _ => 0

/-- The receiving thread is between the test of `flagDetecCount` and its reset. -/
def checking : SpiReceiverPc → Bool
  | .ifDetect => true
  | .resetDetect => true
  | .resetCount => true
  | _ => false

/-- `flagDetect` counts the responses of the window, but for those on their way; `flagDetecCount` may
have lost requests that were counted during a check, and never counts too many. -/
structure Tracks (json : JsonC) (s : SpiWatchdog) (window : Window) : Prop where
  responses : s.receiver ≠ .resetDetect → s.flagDetect + owed json s.receiver = window.responses
  cleared : s.receiver = .resetDetect → window.responses = 0
  requests : checking s.receiver = false → s.flagDetecCount ≤ window.requests

theorem increment_eq_some {n m : ℕ} (h : increment n = some m) : m = n + 1 := by
  unfold increment at h
  split at h
  · exact (Option.some.inj h).symm
  · cases h

theorem tracks_senderStep {s : SpiWatchdog} {window : Window} (h : Tracks json s window)
    {request : List UInt8} {next : SpiWatchdog × List SpiWatchdogOutput}
    (hstep : s.senderStep request = some next) :
    Tracks json next.1 (observeStep json s (.sender request) next window) := by
  unfold senderStep at hstep
  cases hpc : s.sender with
  | countRequest b =>
      rw [hpc] at hstep
      obtain ⟨n, hn, rfl⟩ := Option.map_eq_some_iff.mp hstep
      rw [increment_eq_some hn]
      simp only [observeStep, hpc]
      exact ⟨h.responses, h.cleared, fun hchecking => Nat.succ_le_succ (h.requests hchecking)⟩
  | _ =>
      rw [hpc] at hstep
      obtain rfl := Option.some.inj hstep
      simp only [observeStep, hpc]
      exact ⟨h.responses, h.cleared, h.requests⟩

/-- Outside the check, with nothing on its way, both counters match the window. -/
theorem Tracks.idle {s : SpiWatchdog} {window : Window} (h : Tracks json s window)
    (howed : owed json s.receiver = 0) (hchecking : checking s.receiver = false) :
    s.flagDetect = window.responses ∧ s.flagDetecCount ≤ window.requests := by
  have hne : s.receiver ≠ .resetDetect := by
    rintro hpc
    rw [hpc] at hchecking
    cases hchecking
  have hresponses := h.responses hne
  rw [howed] at hresponses
  exact ⟨hresponses, h.requests hchecking⟩

theorem tracks_idle {s : SpiWatchdog} {window : Window} (howed : owed json s.receiver = 0)
    (hne : s.receiver ≠ .resetDetect) (hdetect : s.flagDetect = window.responses)
    (hcount : s.flagDetecCount ≤ window.requests) : Tracks json s window :=
  ⟨fun _ => by rw [howed]; exact hdetect, fun hpc => absurd hpc hne, fun _ => hcount⟩

/-- During the check `flagDetecCount` may be anything. -/
theorem tracks_checking {s : SpiWatchdog} {window : Window} (howed : owed json s.receiver = 0)
    (hchecking : checking s.receiver = true) (hne : s.receiver ≠ .resetDetect)
    (hdetect : s.flagDetect = window.responses) : Tracks json s window :=
  ⟨fun _ => by rw [howed]; exact hdetect, fun hpc => absurd hpc hne,
    fun hout => absurd (hchecking.symm.trans hout) (by decide)⟩

/-- A string with one of the two keys is counted, and any other is forgotten. -/
theorem receiverStep_parse {s : SpiWatchdog} {text : List UInt8} (hpc : s.receiver = .parse text)
    {byte : Option UInt8} {next : SpiWatchdog × List SpiWatchdogOutput}
    (hstep : s.receiverStep json byte = some next) :
    next.1 = { s with receiver := if IsResponse json text then .countDetect else .whileReceive } ∧
      .notDetected ∉ next.2 := by
  simp only [receiverStep, hpc] at hstep
  by_cases hkey : checkResponse json text = responeKey
  · rw [if_pos hkey] at hstep
    obtain rfl := Option.some.inj hstep
    have hresponse : IsResponse json text := Or.inl hkey
    exact ⟨by rw [if_pos hresponse], by simp⟩
  · by_cases hdata : checkResponse json text = responeData
    · rw [if_neg hkey, if_pos hdata] at hstep
      obtain rfl := Option.some.inj hstep
      have hresponse : IsResponse json text := Or.inr hdata
      exact ⟨by rw [if_pos hresponse], by simp⟩
    · rw [if_neg hkey, if_neg hdata] at hstep
      obtain rfl := Option.some.inj hstep
      have hresponse : ¬IsResponse json text := fun h => h.elim hkey hdata
      exact ⟨by rw [if_neg hresponse], by simp⟩

section Receiver

variable {s : SpiWatchdog} {window : Window} (h : Tracks json s window) {byte : Option UInt8}
  {next : SpiWatchdog × List SpiWatchdogOutput} (hstep : s.receiverStep json byte = some next)

include hstep

/-- The window of the responses ends here. `flagDetect` is zero already, or the next statement sets
it back. -/
theorem tracks_ifDetect (hpc : s.receiver = .ifDetect) :
    Tracks json next.1 (observeStep json s (.receiver byte) next window) := by
  simp only [receiverStep, hpc] at hstep
  simp only [observeStep, hpc]
  by_cases hdetect : s.flagDetect = 0
  · rw [if_pos hdetect] at hstep
    obtain rfl := Option.some.inj hstep
    exact tracks_checking rfl rfl (by simp) hdetect
  · rw [if_neg hdetect] at hstep
    obtain rfl := Option.some.inj hstep
    exact ⟨fun hne => absurd rfl hne, fun _ => rfl, fun hout => absurd hout (by simp [checking])⟩

include h

theorem tracks_ifCount (hpc : s.receiver = .ifCount) :
    Tracks json next.1 (observeStep json s (.receiver byte) next window) := by
  simp only [receiverStep, hpc] at hstep
  obtain rfl := Option.some.inj hstep
  obtain ⟨hdetect, hcount⟩ := h.idle (by rw [hpc]; rfl) (by rw [hpc]; rfl)
  by_cases hcheck : 3 < s.flagDetecCount
  · simp only [observeStep, hpc, hcheck, if_true]
    exact tracks_checking rfl rfl (by simp) hdetect
  · simp only [observeStep, hpc, hcheck, if_false]
    exact tracks_idle rfl (by simp) hdetect hcount

theorem tracks_assemble (hpc : s.receiver = .assemble) :
    Tracks json next.1 (observeStep json s (.receiver byte) next window) := by
  simp only [receiverStep, hpc] at hstep
  obtain ⟨⟨assembler, texts⟩, _, rfl⟩ := Option.map_eq_some_iff.mp hstep
  obtain ⟨hdetect, hcount⟩ := h.idle (by rw [hpc]; rfl) (by rw [hpc]; rfl)
  cases texts with
  | nil =>
      simp only [observeStep, hpc]
      exact tracks_idle rfl (by simp) hdetect hcount
  | cons text _ =>
      by_cases hresponse : IsResponse json text
      · simp only [observeStep, hpc, if_pos hresponse]
        refine ⟨fun _ => ?_, fun hreset => absurd hreset (by simp), fun _ => hcount⟩
        simp only [owed, if_pos hresponse, hdetect]
      · simp only [observeStep, hpc, if_neg hresponse]
        exact tracks_idle (by simp only [owed, if_neg hresponse]) (by simp) hdetect hcount

theorem tracks_parse {text : List UInt8} (hpc : s.receiver = .parse text) :
    Tracks json next.1 (observeStep json s (.receiver byte) next window) := by
  obtain ⟨hnext, _⟩ := receiverStep_parse hpc hstep
  have hdetect := h.responses (by rw [hpc]; simp)
  have hcount := h.requests (by rw [hpc]; rfl)
  simp only [observeStep, hpc]
  rw [hpc, owed] at hdetect
  rw [hnext]
  by_cases hresponse : IsResponse json text
  · rw [if_pos hresponse] at hdetect ⊢
    exact ⟨fun _ => hdetect, fun hreset => absurd hreset (by simp), fun _ => hcount⟩
  · rw [if_neg hresponse] at hdetect ⊢
    exact tracks_idle rfl (by simp) hdetect hcount

theorem tracks_receiverStep :
    Tracks json next.1 (observeStep json s (.receiver byte) next window) := by
  cases hpc : s.receiver with
  | ifCount => exact tracks_ifCount h hstep hpc
  | ifDetect => exact tracks_ifDetect hstep hpc
  | assemble => exact tracks_assemble h hstep hpc
  | parse text => exact tracks_parse h hstep hpc
  | whileReceive =>
      simp only [receiverStep, hpc] at hstep
      obtain rfl := Option.some.inj hstep
      obtain ⟨hdetect, hcount⟩ := h.idle (by rw [hpc]; rfl) (by rw [hpc]; rfl)
      simp only [observeStep, hpc]
      cases s.flagNoReceive
      · exact tracks_idle rfl (by simp) hdetect hcount
      · exact tracks_idle rfl (by simp) hdetect hcount
  | resetDetect =>
      simp only [receiverStep, hpc] at hstep
      obtain rfl := Option.some.inj hstep
      simp only [observeStep, hpc]
      exact tracks_checking rfl rfl (by simp) (h.cleared hpc).symm
  | resetCount =>
      simp only [receiverStep, hpc] at hstep
      obtain rfl := Option.some.inj hstep
      have hdetect := h.responses (by rw [hpc]; simp)
      rw [hpc] at hdetect
      simp only [observeStep, hpc]
      exact tracks_idle rfl (by simp) hdetect (Nat.zero_le _)
  | read =>
      simp only [receiverStep, hpc] at hstep
      obtain rfl := Option.some.inj hstep
      obtain ⟨hdetect, hcount⟩ := h.idle (by rw [hpc]; rfl) (by rw [hpc]; rfl)
      simp only [observeStep, hpc]
      exact tracks_idle rfl (by simp) hdetect hcount
  | countDetect =>
      simp only [receiverStep, hpc] at hstep
      obtain ⟨n, hn, rfl⟩ := Option.map_eq_some_iff.mp hstep
      have hdetect := h.responses (by rw [hpc]; simp)
      rw [hpc] at hdetect
      simp only [observeStep, hpc]
      exact tracks_idle rfl (by simp) ((increment_eq_some hn).trans hdetect)
        (h.requests (by rw [hpc]; rfl))

end Receiver

theorem tracks_step {s : SpiWatchdog} {window : Window} (h : Tracks json s window)
    {event : SpiWatchdogEvent} {next : SpiWatchdog × List SpiWatchdogOutput}
    (hstep : step json s event = some next) :
    Tracks json next.1 (observeStep json s event next window) := by
  cases event with
  | receiver byte => exact tracks_receiverStep h hstep
  | sender request => exact tracks_senderStep h hstep

theorem tracks_init : Tracks json init ⟨0, 0⟩ := tracks_idle rfl (by decide) rfl (Nat.zero_le _)

/-! ### The watchdog -/

/-- Only the test of `flagDetect` can report. -/
theorem notDetected_mem_iff {s : SpiWatchdog} {event : SpiWatchdogEvent}
    {next : SpiWatchdog × List SpiWatchdogOutput} (hstep : step json s event = some next) :
    .notDetected ∈ next.2 ↔ Decides s event ∧ s.flagDetect = 0 := by
  cases event with
  | sender request =>
      simp only [Decides, reduceCtorEq, exists_false, and_false, false_and, iff_false]
      simp only [step, senderStep] at hstep
      split at hstep
      · obtain rfl := Option.some.inj hstep
        simp
      · obtain ⟨n, _, rfl⟩ := Option.map_eq_some_iff.mp hstep
        simp
      · obtain rfl := Option.some.inj hstep
        simp
      · obtain rfl := Option.some.inj hstep
        simp
  | receiver byte =>
      simp only [Decides, SpiWatchdogEvent.receiver.injEq, exists_eq', and_true]
      simp only [step] at hstep
      cases hpc : s.receiver with
      | ifDetect =>
          simp only [receiverStep, hpc] at hstep
          by_cases hdetect : s.flagDetect = 0
          · rw [if_pos hdetect] at hstep
            obtain rfl := Option.some.inj hstep
            simp [hdetect]
          · rw [if_neg hdetect] at hstep
            obtain rfl := Option.some.inj hstep
            simp [hdetect]
      | parse text => simp [(receiverStep_parse hpc hstep).2]
      | assemble | countDetect =>
          simp only [receiverStep, hpc] at hstep
          obtain ⟨_, _, rfl⟩ := Option.map_eq_some_iff.mp hstep
          simp
      | _ =>
          simp only [receiverStep, hpc] at hstep
          obtain rfl := Option.some.inj hstep
          simp

theorem Tracks.watches {s : SpiWatchdog} {window : Window} (h : Tracks json s window)
    (event : SpiWatchdogEvent) : Watches json (s, window) event := by
  intro next hstep
  rw [notDetected_mem_iff hstep]
  constructor
  · apply and_congr_right
    rintro ⟨hpc, _⟩
    have hdetect := h.responses (by rw [hpc]; simp)
    rw [hpc] at hdetect
    show s.flagDetect = 0 ↔ window.responses = 0
    rw [← hdetect]
    rfl
  · rintro ⟨hpc, hcount, _⟩
    exact Nat.le_trans hcount (h.requests (by rw [hpc]; rfl))

/-- In every interleaving of the two threads, the missing device is reported at a check exactly when
no response has been completed since the check before, and at least four requests lie between two
checks. -/
theorem watches_along (json : JsonC) (events : List SpiWatchdogEvent) :
    Runs.Along (observed json) (Watches json) (init, ⟨0, 0⟩) events := by
  apply Runs.along_of_invariant (J := fun s => Tracks json s.1 s.2)
  · intro s event h
    exact h.watches event
  · intro s event next h hnext
    obtain ⟨step, hstep, rfl⟩ := Runs.observe_eq_some.mp hnext
    exact tracks_step h hstep
  · exact tracks_init

-- Four requests to a node that stays silent, and the first iteration after them.
example :
    (Runs.run (step (JsonC.table (ascii "keynode") [])) init
      (List.replicate 16 (.sender [98, 42]) ++ List.replicate 3 (.receiver none))).map
        (fun result => result.2.getLast?) = some (some .notDetected) := by
  decide

end SpiWatchdog

end LinuxGateway
