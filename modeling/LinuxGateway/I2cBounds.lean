import LinuxGateway.I2cLink

/-! The array `key` of the I2C node under any bytes. Its index starts at zero and restarts at one behind
a terminator, and nothing stops it at the end of the array: six bytes fit at the start and five after
that, terminators included. -/

namespace LinuxGateway.I2cNode

open Bytes

/-- The indices into `key` in one pass of the loop: the byte is stored, appended to `receiveGw`, tested
for `.`, and tested for `*` after the first test may have set `i` back. -/
def keyIndices (node : I2cNode) (c : UInt8) : List ℕ :=
  [node.i, node.i, node.i, if c = 46 then 0 else node.i]

/-- Every access to `key` in a call of `receiveEvent` is inside the array. -/
def InBounds : I2cNode → List UInt8 → Prop
  | _, [] => True
  | node, c :: cs =>
      (∀ index ∈ node.keyIndices c, index < 6) ∧ ∀ next, node.receiveByte c = some next → next.InBounds cs

def EventInBounds (node : I2cNode) : I2cEvent → Prop
  | .receive bytes => node.InBounds bytes
  | .request => True

def IsTerminator (c : UInt8) : Prop := c = 46 ∨ c = 42

instance (c : UInt8) : Decidable (IsTerminator c) := inferInstanceAs (Decidable (_ ∨ _))

/-- With `used` places of the array in use: no byte comes after too many bytes without a terminator,
neither at the start of the stream nor behind a terminator. -/
structure Short (used : ℕ) (stream : List UInt8) : Prop where
  first : ∀ word c rest, stream = word ++ c :: rest → (∀ b ∈ word, ¬IsTerminator b) →
    used + word.length < 6
  later : ∀ before terminator word c rest, stream = before ++ terminator :: (word ++ c :: rest) →
    IsTerminator terminator → (∀ b ∈ word, ¬IsTerminator b) → 1 + word.length < 6

theorem short_nil (used : ℕ) : Short used [] where
  first word c rest h := absurd h (by simp)
  later before terminator word c rest h := absurd h (by simp)

theorem Short.lt {used : ℕ} {c : UInt8} {cs : List UInt8} (h : Short used (c :: cs)) : used < 6 :=
  h.first [] c cs rfl (by simp)

theorem Short.tail {used : ℕ} {c : UInt8} {cs : List UInt8} (h : Short used (c :: cs)) :
    Short (if IsTerminator c then 1 else used + 1) cs := by
  refine ⟨fun word d rest heq hword => ?_, fun before terminator word d rest heq => ?_⟩
  · split
    · rename_i hc
      exact h.later [] c word d rest (congrArg (c :: ·) heq) hc hword
    · rename_i hc
      have hlt := h.first (c :: word) d rest (congrArg (c :: ·) heq) (by simpa [hc] using hword)
      rw [List.length_cons] at hlt
      omega
  · exact h.later (c :: before) terminator word d rest (congrArg (c :: ·) heq)

theorem short_cons {used : ℕ} {c : UInt8} {cs : List UInt8} (hlt : used < 6)
    (h : Short (if IsTerminator c then 1 else used + 1) cs) : Short used (c :: cs) := by
  refine ⟨fun word d rest heq hword => ?_, fun before terminator word d rest heq hterm hword => ?_⟩
  · cases word with
    | nil => exact hlt
    | cons b word =>
        obtain ⟨rfl, hcs⟩ := List.cons.inj heq
        rw [if_neg (hword c List.mem_cons_self)] at h
        have hle := h.first word d rest hcs fun b hb => hword b (List.mem_cons_of_mem c hb)
        rw [List.length_cons]
        omega
  · cases before with
    | nil =>
        obtain ⟨rfl, hcs⟩ := List.cons.inj heq
        rw [if_pos hterm] at h
        exact h.first word d rest hcs hword
    | cons b before =>
        obtain ⟨rfl, hcs⟩ := List.cons.inj heq
        exact h.later before terminator word d rest hcs hterm hword

/-! ### Where the index goes -/

theorem isSome_receiveByte (node : I2cNode) (c : UInt8) : (node.receiveByte c).isSome ↔ node.i < 6 := by
  rw [receiveByte, Option.isSome_map]
  by_cases hlt : node.i < 6
  · obtain ⟨key, hkey, _⟩ := node.key.exists_write node.i [c] hlt
    simp [hkey, hlt]
  · rw [Buffer.write_eq_none _ (by rw [List.length_singleton]; omega)]
    simp [hlt]

theorem i_receiveByte {node next : I2cNode} {c : UInt8} (h : node.receiveByte c = some next) :
    next.i = if IsTerminator c then 1 else node.i + 1 := by
  have hlt : node.i < 6 := (isSome_receiveByte node c).mp (by rw [h]; rfl)
  obtain ⟨key, hkey, hget⟩ := node.key.exists_write_byte hlt c
  have hwiped : wiped.bytes[0]? = some 48 := rfl
  rw [receiveByte, hkey] at h
  obtain rfl := Option.some.inj h
  by_cases hdot : c = 46
  · simp [terminate, hget, hdot, IsTerminator, hwiped]
  · by_cases hstar : c = 42
    · simp [terminate, hget, hstar, IsTerminator]
    · simp [terminate, hget, hdot, hstar, IsTerminator]

theorem isSome_receiveEvent_iff (node : I2cNode) (bytes : List UInt8) :
    (node.receiveEvent bytes).isSome ↔ Short node.i bytes := by
  induction bytes generalizing node with
  | nil => exact ⟨fun _ => short_nil node.i, fun _ => rfl⟩
  | cons c bytes ih =>
      rw [receiveEvent]
      cases hnext : node.receiveByte c with
      | none =>
          have hge : ¬node.i < 6 := by
            rw [← isSome_receiveByte node c, hnext]
            simp
          exact ⟨fun h => absurd h (by simp), fun h => absurd h.lt hge⟩
      | some next =>
          have hlt : node.i < 6 := (isSome_receiveByte node c).mp (by rw [hnext]; rfl)
          rw [Option.bind_some, ih, i_receiveByte hnext]
          exact ⟨short_cons hlt, Short.tail⟩

theorem inBounds_iff (node : I2cNode) (bytes : List UInt8) :
    node.InBounds bytes ↔ (node.receiveEvent bytes).isSome := by
  induction bytes generalizing node with
  | nil => exact ⟨fun _ => rfl, fun _ => trivial⟩
  | cons c bytes ih =>
      have hindices : (∀ index ∈ node.keyIndices c, index < 6) ↔ node.i < 6 := by
        rw [keyIndices]
        constructor
        · intro h
          exact h node.i List.mem_cons_self
        · intro hlt index hindex
          simp only [List.mem_cons, List.not_mem_nil, or_false] at hindex
          split at hindex <;> omega
      rw [InBounds, hindices, receiveEvent, ← isSome_receiveByte node c]
      cases hnext : node.receiveByte c with
      | none => simp
      | some next => simp [ih]

theorem eventInBounds_iff (node : I2cNode) (event : I2cEvent) :
    node.EventInBounds event ↔ (step node event).isSome := by
  cases event with
  | receive bytes => rw [EventInBounds, inBounds_iff, step, Option.isSome_map]
  | request => exact ⟨fun _ => rfl, fun _ => trivial⟩

theorem isSome_run_iff (node : I2cNode) (events : List I2cEvent) :
    (Runs.run step node events).isSome ↔ (node.receiveEvent (received events)).isSome := by
  induction events generalizing node with
  | nil => exact Iff.rfl
  | cons event events ih =>
      rw [← List.singleton_append, received_append, List.singleton_append, Runs.run]
      cases event with
      | receive bytes =>
          have hbytes : received [.receive bytes] = bytes := by simp [received]
          rw [hbytes, receiveEvent_append, step]
          cases node.receiveEvent bytes with
          | none => exact Iff.rfl
          | some next => simpa using ih next
      | request =>
          have hi : node.requestEvent.1.i = node.i := by
            rw [requestEvent]
            split <;> rfl
          have hnone : received [.request] = [] := rfl
          rw [hnone, List.nil_append, isSome_receiveEvent_iff, ← hi, ← isSome_receiveEvent_iff, ← ih]
          simp [step]

/-- Every access to `key` is inside the array exactly when the received bytes, however they were cut,
have at most six bytes up to the first terminator and at most five up to each next one. -/
theorem keyInBounds_iff (events : List I2cEvent) :
    Runs.Along step EventInBounds setup events ↔ Short 0 (received events) := by
  rw [Runs.along_iff_isSome eventInBounds_iff, isSome_run_iff, isSome_receiveEvent_iff]
  exact Iff.rfl

/-- Seven bytes without a terminator. -/
theorem not_keyInBounds : ¬∀ events, Runs.Along step EventInBounds setup events := by
  intro h
  have hrun := (Runs.along_iff_isSome eventInBounds_iff setup _).mp (h [.receive (ascii "1997199")])
  exact absurd hrun (by decide)

end LinuxGateway.I2cNode
