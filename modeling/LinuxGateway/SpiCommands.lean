import LinuxGateway.SpiNode

/-! Which commands the SPI node recognises. The handler appends to `receiveGw` and `loop` empties it at
the start of every frame, so a command that straddles this statement is not seen as it was sent. -/

namespace LinuxGateway.SpiNode

open Bytes

/-- The bytes that a run delivers to the handler. -/
def received (events : List SpiEvent) : List UInt8 :=
  events.filterMap fun
    | .isr c => some c
    | .main => none

/-- The command bytes after the last `*`. -/
def sinceStar (bytes : List UInt8) : List UInt8 :=
  ((bytes.filter isCommandByte).reverse.takeWhile (· ≠ star)).reverse

/-- The statement `receiveGw=""` runs only while no part of a command has arrived. -/
def LosesNothing (node : SpiNode) (event : SpiEvent) : Prop :=
  event = .main → node.pc = .resetReceiveGw → node.receiveGw = []

instance (node : SpiNode) (event : SpiEvent) : Decidable (LosesNothing node event) :=
  inferInstanceAs (Decidable (_ → _ → _))

theorem received_append_isr (events : List SpiEvent) (c : UInt8) :
    received (events ++ [.isr c]) = received events ++ [c] := by
  simp [received]

theorem received_append_main (events : List SpiEvent) :
    received (events ++ [.main]) = received events := by
  simp [received]

theorem sinceStar_append (bytes : List UInt8) (c : UInt8) :
    sinceStar (bytes ++ [c]) =
      if c = star then [] else if isCommandByte c then sinceStar bytes ++ [c] else sinceStar bytes := by
  unfold sinceStar
  rw [List.filter_append]
  by_cases hstar : c = star
  · subst hstar
    have hcommand : isCommandByte star = true := by decide
    simp [hcommand]
  · by_cases hcommand : isCommandByte c = true
    · simp [hstar, hcommand]
    · simp [hstar, hcommand]

theorem receiveGw_spiStcVect (node : SpiNode) (c : UInt8) :
    (node.spiStcVect c).receiveGw =
      if c = star then [] else if isCommandByte c then node.receiveGw ++ [c] else node.receiveGw := by
  unfold spiStcVect
  by_cases hstar : c = star
  · simp [hstar]
  · by_cases hcommand : isCommandByte c = true
    · simp [hstar, hcommand]
    · simp [hstar, hcommand]

theorem process_spiStcVect_star (node : SpiNode) :
    (node.spiStcVect star).process = true ↔ node.receiveGw ++ [star] = key := by
  have hcommand : isCommandByte star = true := by decide
  simp [spiStcVect, hcommand, eq_comm]

/-- No other statement of `loop` writes `receiveGw`. -/
theorem receiveGw_loop {node : SpiNode} {next : SpiNode × List UInt8} (h : node.loop = some next) :
    next.1.receiveGw = if node.pc = .resetReceiveGw then [] else node.receiveGw := by
  unfold loop at h
  cases hpc : node.pc
  case ifLastByte =>
    rw [hpc] at h
    obtain ⟨count, _, rfl⟩ := Option.map_eq_some_iff.mp h
    rfl
  all_goals
    rw [hpc] at h
    obtain rfl := Option.some.inj h
    rfl

/-- While no statement loses a part of a command, `receiveGw` is what arrived since the last `*`. -/
theorem receiveGw_eq_sinceStar {keyData temp : BitVec 16} {events : List SpiEvent}
    {result : SpiNode × List UInt8} (hkeeps : Runs.Along step LosesNothing (init keyData temp) events)
    (hrun : Runs.run step (init keyData temp) events = some result) :
    result.1.receiveGw = sinceStar (received events) := by
  apply Runs.run_invariant
    (P := fun events _ node => node.receiveGw = sinceStar (received events)) rfl _ hkeeps hrun
  intro events _ node event next hP hloses hstep
  cases event with
  | isr c =>
      obtain rfl := Option.some.inj hstep
      rw [received_append_isr, sinceStar_append, receiveGw_spiStcVect, hP]
  | main =>
      rw [received_append_main, receiveGw_loop hstep]
      split
      · rename_i hpc
        rw [← hP, hloses rfl hpc]
      · exact hP

/-- After these events a `*` would be taken for what it is: `process` becomes true exactly when the
command bytes since the previous `*` are `b*`. -/
def Recognises (keyData temp : BitVec 16) (events : List SpiEvent) : Prop :=
  ∃ result, Runs.run step (init keyData temp) (events ++ [.isr star]) = some result ∧
    (result.1.process = true ↔ sinceStar (received events) ++ [star] = key)

theorem recognises_iff {keyData temp : BitVec 16} {events : List SpiEvent}
    {before : SpiNode × List UInt8}
    (hbefore : Runs.run step (init keyData temp) events = some before) :
    Recognises keyData temp events ↔
      (before.1.receiveGw ++ [star] = key ↔ sinceStar (received events) ++ [star] = key) := by
  have hstar : Runs.run step (init keyData temp) (events ++ [.isr star]) =
      some (before.1.spiStcVect star, before.2 ++ []) :=
    Runs.run_snoc_eq_some.mpr ⟨before, _, hbefore, rfl, rfl⟩
  rw [Recognises, hstar]
  simp [process_spiStcVect_star]

/-- Where the statement loses a part of a command, the next bytes can be such that the `*` after them
is mistaken. -/
theorem exists_not_recognises {keyData temp : BitVec 16} {events : List SpiEvent}
    {before : SpiNode × List UInt8} (hkeeps : Runs.Along step LosesNothing (init keyData temp) events)
    (hbefore : Runs.run step (init keyData temp) events = some before)
    (hloses : ¬LosesNothing before.1 .main) :
    ∃ bytes, ¬Recognises keyData temp (events ++ [.main] ++ bytes) := by
  simp only [LosesNothing, true_implies, Classical.not_imp] at hloses
  obtain ⟨hpc, hlost⟩ := hloses
  have hsince : sinceStar (received events) = before.1.receiveGw :=
    (receiveGw_eq_sinceStar hkeeps hbefore).symm
  obtain ⟨after, hafter⟩ := exists_run keyData temp (events ++ [.main])
  have hempty : after.1.receiveGw = [] := by
    obtain ⟨first, last, hfirst, hlast, rfl⟩ := Runs.run_snoc_eq_some.mp hafter
    obtain rfl := Option.some.inj (hbefore.symm.trans hfirst)
    rw [receiveGw_loop hlast, if_pos hpc]
  by_cases hb : before.1.receiveGw = [98]
  · -- the request was complete but for its `*`, and now is ignored
    refine ⟨[], fun hrecognises => ?_⟩
    rw [List.append_nil, recognises_iff hafter, hempty, received_append_main, hsince, hb] at hrecognises
    exact absurd hrecognises (by decide)
  · -- another command was on its way, and the bytes after the reset alone read as a request
    refine ⟨[.isr 98], fun hrecognises => ?_⟩
    have hnext : Runs.run step (init keyData temp) (events ++ [.main] ++ [.isr 98]) =
        some (after.1.spiStcVect 98, after.2 ++ []) :=
      Runs.run_snoc_eq_some.mpr ⟨after, _, hafter, rfl, rfl⟩
    rw [recognises_iff hnext, receiveGw_spiStcVect, received_append_isr, received_append_main,
      sinceStar_append, hempty, hsince] at hrecognises
    have hkey : before.1.receiveGw ++ [98] ++ [star] = key := hrecognises.mp (by decide)
    rw [List.append_assoc] at hkey
    exact hlost (List.append_left_eq_self.mp hkey)

/-- In every run in which `loop` resets `receiveGw` only between commands, every `*` is taken for
what it is; and the condition is needed at every step. -/
theorem recognises_of_losesNothing (keyData temp : BitVec 16) (events : List SpiEvent)
    (hkeeps : Runs.Along step LosesNothing (init keyData temp) events) :
    Recognises keyData temp events ∧
      ∀ before, Runs.run step (init keyData temp) events = some before →
        ¬LosesNothing before.1 .main →
          ∃ bytes, ¬Recognises keyData temp (events ++ [.main] ++ bytes) := by
  obtain ⟨before, hbefore⟩ := exists_run keyData temp events
  refine ⟨?_, fun before hbefore hloses => exists_not_recognises hkeeps hbefore hloses⟩
  rw [recognises_iff hbefore, receiveGw_eq_sinceStar hkeeps hbefore]

/-- A frame is sent between two key requests. -/
theorem recognises_second_request :
    Recognises 97 37 [.isr 98, .isr star, .main, .main, .main, .main, .isr 98] :=
  (recognises_of_losesNothing 97 37 _ (by decide)).1

/-- The `b` of the second key request arrives just before a frame starts. -/
theorem not_recognises :
    ¬∀ (keyData temp : BitVec 16) (events : List SpiEvent), Recognises keyData temp events := by
  intro h
  obtain ⟨result, hrun, hprocess⟩ := h 97 37 [.isr 98, .isr star, .main, .main, .isr 98, .main]
  have hfalse : (Runs.run step (init 97 37)
      ([.isr 98, .isr star, .main, .main, .isr 98, .main] ++ [.isr star])).map (·.1.process) =
        some false := by decide
  rw [hrun, Option.map_some, Option.some.injEq] at hfalse
  rw [hfalse] at hprocess
  exact absurd hprocess (by decide)

end LinuxGateway.SpiNode
