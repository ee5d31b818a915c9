import LinuxGateway.TcpServerRecords

/-! The strings that the gateway's `switch` takes out of a record. The record is whatever the clients
sent, chunk over chunk, and nothing puts a NUL into it: a string ends inside its `msg` field exactly
when the bytes there happen to hold one. -/

namespace LinuxGateway

open Bytes

namespace Data

/-- Every field that the `switch` reads in a record of this kind holds a NUL. A LoRa record is
published through the member `uart` and printed through its own. -/
def Terminated (data : Data) : Prop :=
  match data.node with
  | some .kUart => 0 ∈ data.msgField .uart
  | some .kLora => 0 ∈ data.msgField .uart ∧ 0 ∈ data.msgField .lora
  | some .kNRF => 0 ∈ data.msgField .nrf
  | some .kSPI => True
  | some .kWifi => True
  | none => True

theorem exists_msg_iff (data : Data) (member : Member) :
    (∃ text, data.msg member = some text ∧ text.length < 255) ↔ 0 ∈ data.msgField member := by
  rw [msgField, msgSize_eq]
  exact exists_cString_lt_iff _ _

end Data

namespace Server

/-- The string ends inside the field of 255 bytes that it starts in. -/
def EndsInField (taken : Option (List UInt8)) : Prop := ∃ text, taken = some text ∧ text.length < 255

theorem endsInField_iff_terminated (data : Data) :
    (∀ taken ∈ takenStrings (dispatchActions data), EndsInField taken) ↔ data.Terminated := by
  rw [takenStrings_dispatchActions, Data.Terminated]
  generalize data.node = node
  cases node with
  | none => simp
  | some kind => cases kind <;> simp [EndsInField, data.exists_msg_iff]

/-- The record that the step brings to the `switch`: what `recv` stores over the record before. -/
def switchedRecord (server : Server) (answers : Answers) : Option Data :=
  match server.control with
  | .poll => none
  | .service i =>
      match server.pass i answers with
      | some (.received _ chunk) => some (storeChunk server.data chunk)
      | _ => none

theorem takenStrings_append (left right : List Action) :
    takenStrings (left ++ right) = takenStrings left ++ takenStrings right :=
  List.filterMap_append

theorem takenStrings_accepts (ready : Bool) (connfd : ℤ) :
    takenStrings (if ready then [.accept connfd] else []) = [] := by
  cases ready <;> rfl

/-- Only the `switch` takes strings. -/
theorem takenStrings_step {server : Server} {answers : Answers} {next : Server × List Action}
    (h : server.runSocketTcp answers = some next) :
    takenStrings next.2 =
      ((server.switchedRecord answers).map fun data => takenStrings (dispatchActions data)).getD [] := by
  rcases actions_runSocketTcp h with ⟨hcontrol, hnil⟩ | ⟨i, way, hcontrol, hpass, hactions⟩
  · rw [hnil]
    simp only [switchedRecord, hcontrol]
    rfl
  · rw [hactions, takenStrings_append, takenStrings_accepts]
    simp only [switchedRecord, hcontrol, hpass]
    cases way <;> rfl

/-- Every string that the step publishes or prints ends inside its field. -/
def StringsContained (server : Server) (answers : Answers) : Prop :=
  ∀ next, server.runSocketTcp answers = some next → ∀ taken ∈ takenStrings next.2, EndsInField taken

/-- The record that the step brings to the `switch`, if any, holds a NUL in every field read there. -/
def SwitchesTerminated (server : Server) (answers : Answers) : Prop :=
  ∀ record, server.switchedRecord answers = some record → record.Terminated

/-- A step that reaches the `switch` is defined. -/
theorem step_of_switchedRecord {server : Server} {answers : Answers} {record : Data}
    (h : server.switchedRecord answers = some record) : ∃ next, server.runSocketTcp answers = some next := by
  rw [← Option.isSome_iff_exists]
  cases hcontrol : server.control with
  | poll => simp only [runSocketTcp, hcontrol, Option.isSome_some]
  | service i =>
      simp only [switchedRecord, hcontrol] at h
      split at h
      · rename_i hpass
        simp only [runSocketTcp, hcontrol, serviceSlot, hpass, Option.isSome_some]
      · exact absurd h (by simp)

theorem stringsContained_iff (server : Server) (answers : Answers) :
    server.StringsContained answers ↔ server.SwitchesTerminated answers := by
  constructor
  · intro h record hrecord
    obtain ⟨next, hnext⟩ := step_of_switchedRecord hrecord
    have htaken := takenStrings_step hnext
    rw [hrecord, Option.map_some, Option.getD_some] at htaken
    rw [← endsInField_iff_terminated, ← htaken]
    exact h next hnext
  · intro h next hnext
    rw [takenStrings_step hnext]
    cases hrecord : server.switchedRecord answers with
    | none => simp
    | some record => exact (endsInField_iff_terminated record).mpr (h record hrecord)

/-- In every run, every string that the `switch` publishes or prints ends inside its field if and only
if every record that reaches the `switch` holds a NUL in the fields it reads there. -/
theorem along_stringsContained_iff (stack : List.Vector PollFd pollFdsSize) (sockfd : ℤ)
    (events : List Answers) :
    Runs.Along runSocketTcp StringsContained (init stack sockfd) events ↔
      Runs.Along runSocketTcp SwitchesTerminated (init stack sockfd) events :=
  Runs.along_congr (J := fun _ => True) (fun server answers _ => stringsContained_iff server answers)
    (fun _ _ _ _ _ => trivial) trivial events

/-- A record of a UART client whose field `msg` is full: node 0, then 300 bytes `A`. -/
def fullRecord : Chunk :=
  ⟨List.replicate 4 0 ++ List.replicate 300 65,
    by rw [List.length_append, List.length_replicate, List.length_replicate, sizeofData_eq]⟩

/-- `poll` reports entry 1, and `recv` stores the chunk if it is called. -/
def receives (chunk : Chunk) : Answers where
  poll := some fun i => if i = 1 then POLLIN else 0
  accept := -1
  recv := .stored chunk

/-- A client connects and sends the full record at once. -/
def fullDelivery : List Answers :=
  [connects, connects, receives fullRecord, receives fullRecord]

/-- The string of the full record runs out of its field, and out of the record. -/
theorem not_along_stringsContained :
    ¬∀ (stack : List.Vector PollFd pollFdsSize) (sockfd : ℤ) (events : List Answers),
      Runs.Along runSocketTcp StringsContained (init stack sockfd) events := by
  intro h
  have hrun : (Runs.run runSocketTcp (init cleanStack 3) (fullDelivery.take 3)).isSome := by decide
  obtain ⟨before, hbefore⟩ := Option.isSome_iff_exists.mp hrun
  have htaken : ((Runs.run runSocketTcp (init cleanStack 3) (fullDelivery.take 3)).bind
      fun before => before.1.runSocketTcp (receives fullRecord)).map
        (fun next => takenStrings next.2) = some [none] := by decide +kernel
  rw [hbefore, Option.bind_some, Option.map_eq_some_iff] at htaken
  obtain ⟨next, hnext, hnone⟩ := htaken
  have hstep := Runs.Along.last (h cleanStack 3 fullDelivery) hbefore
  obtain ⟨text, htext, _⟩ := hstep next hnext none (hnone ▸ List.mem_singleton_self none)
  exact absurd htext (by simp)

end Server

end LinuxGateway
