import Mathlib.Data.List.Induction

/-! A lossy channel with a queue of bounded length at its end. The sender learns whether a value has
arrived, but it may be told no for one that has; a value that arrives while the queue is full is lost;
the receiver may throw away what it has not read. The values bear numbers that come again after a while,
by which the receiver knows the repetitions of the last value it took, and it takes a later value for such
a repetition if its number and its look are the same. Values are never invented, repeated or reordered, and
what the sender was told has arrived is read unless the receiver threw it away or took it for a
repetition. -/

namespace LinuxGateway.Channels

variable {α : Type}

/-- How long the queue gets, how many numbers there are, and which values look the same. -/
structure Rules (α : Type) where
  capacity : ℕ
  numbers : ℕ
  same : α → α → Prop

inductive Signal (α : Type) where
  /-- A value is sent; the sender is told whether it has arrived, and the receiver takes it or not. -/
  | put (a : α) (ok taken : Bool)
  | get (a : α)
  | reset
  deriving DecidableEq

namespace Signal

def sent : Signal α → List α
  | put a _ _ => [a]
  | get _ => []
  | reset => []

/-- What the receiver takes. -/
def kept : Signal α → List α
  | put a _ true => [a]
  | put _ _ false => []
  | get _ => []
  | reset => []

/-- What the receiver takes and the sender is told has arrived. -/
def confirmed : Signal α → List α
  | put a true true => [a]
  | put _ false _ => []
  | put _ true false => []
  | get _ => []
  | reset => []

def received : Signal α → List α
  | put _ _ _ => []
  | get a => [a]
  | reset => []

end Signal

def puts (signals : List (Signal α)) : List α := signals.flatMap Signal.sent

def taken (signals : List (Signal α)) : List α := signals.flatMap Signal.kept

def acknowledged (signals : List (Signal α)) : List α := signals.flatMap Signal.confirmed

def gets (signals : List (Signal α)) : List α := signals.flatMap Signal.received

variable (rules : Rules α)

/-- After these signals the value bears the number of the last value taken, and looks like it. -/
def Copy (signals : List (Signal α)) (a : α) : Prop :=
  ∃ before b ok after, signals = before ++ .put b ok true :: after ∧ taken after = [] ∧
    rules.numbers ∣ (puts after).length + 1 ∧ rules.same b a

/-- One signal after others. -/
inductive Step (signals : List (Signal α)) : List α → Signal α → List α → Prop
  | kept {queue : List α} {a : α} {ok : Bool} (h : queue.length < rules.capacity) :
      Step signals queue (.put a ok true) (queue ++ [a])
  | lost {queue : List α} {a : α} : Step signals queue (.put a false false) queue
  | copied {queue : List α} {a : α} (h : Copy rules signals a) :
      Step signals queue (.put a true false) queue
  | get {queue : List α} {a : α} : Step signals (a :: queue) (.get a) queue
  | reset {queue : List α} : Step signals queue .reset []

inductive Trace : List (Signal α) → List α → Prop
  | nil : Trace [] []
  | snoc {signals : List (Signal α)} {queue queue' : List α} {signal : Signal α}
      (h : Trace signals queue) (hstep : Step rules signals queue signal queue') :
      Trace (signals ++ [signal]) queue'

variable {rules} {signals : List (Signal α)} {queue : List α}

@[simp] theorem puts_snoc (signal : Signal α) :
    puts (signals ++ [signal]) = puts signals ++ signal.sent := by
  simp [puts]

@[simp] theorem taken_snoc (signal : Signal α) :
    taken (signals ++ [signal]) = taken signals ++ signal.kept := by
  simp [taken]

@[simp] theorem acknowledged_snoc (signal : Signal α) :
    acknowledged (signals ++ [signal]) = acknowledged signals ++ signal.confirmed := by
  simp [acknowledged]

@[simp] theorem gets_snoc (signal : Signal α) :
    gets (signals ++ [signal]) = gets signals ++ signal.received := by
  simp [gets]

theorem Trace.length_le (h : Trace rules signals queue) : queue.length ≤ rules.capacity := by
  induction h with
  | nil => exact Nat.zero_le _
  | snoc _ hstep ih =>
      cases hstep with
      | kept hlt =>
          rw [List.length_append]
          exact hlt
      | lost => exact ih
      | copied => exact ih
      | get => exact Nat.le_of_succ_le ih
      | reset => exact Nat.zero_le _

/-- What has been read, followed by what is still there, was sent in this order. -/
theorem Trace.gets_sublist (h : Trace rules signals queue) :
    (gets signals ++ queue).Sublist (puts signals) := by
  induction h with
  | nil => exact List.Sublist.refl _
  | snoc _ hstep ih =>
      rw [gets_snoc, puts_snoc]
      cases hstep with
      | kept =>
          simp only [Signal.received, Signal.sent, List.append_nil, ← List.append_assoc]
          exact ih.append (List.Sublist.refl _)
      | lost =>
          rw [Signal.received, List.append_nil]
          exact ih.trans (List.sublist_append_left _ _)
      | copied =>
          rw [Signal.received, List.append_nil]
          exact ih.trans (List.sublist_append_left _ _)
      | get =>
          rw [List.append_assoc, Signal.sent, List.append_nil]
          exact ih
      | reset =>
          simp only [Signal.received, Signal.sent, List.append_nil]
          exact (List.sublist_append_left _ _).trans ih

theorem Trace.of_snoc {signal : Signal α} (h : Trace rules (signals ++ [signal]) queue) :
    ∃ before, Trace rules signals before ∧ Step rules signals before signal queue := by
  generalize hall : signals ++ [signal] = all at h
  cases h with
  | nil => exact absurd hall (List.append_ne_nil_of_right_ne_nil _ (List.cons_ne_nil _ _))
  | snoc htrace hstep =>
      obtain ⟨rfl, hsignal⟩ := List.append_inj' hall rfl
      obtain rfl := List.singleton_inj.mp hsignal
      exact ⟨_, htrace, hstep⟩

/-- After a reset, what is taken and acknowledged is read or still there, in order. -/
theorem Trace.acknowledged_sublist {before : List (Signal α)}
    (h : Trace rules (before ++ .reset :: signals) queue) (hreset : .reset ∉ signals) :
    (acknowledged signals).Sublist (gets signals ++ queue) := by
  induction signals using List.reverseRecOn generalizing queue with
  | nil => exact List.nil_sublist _
  | append_singleton signals signal ih =>
      rw [← List.cons_append, ← List.append_assoc] at h
      obtain ⟨_, htrace, hstep⟩ := h.of_snoc
      rw [List.mem_append, not_or] at hreset
      have ih := ih htrace hreset.1
      rw [gets_snoc, acknowledged_snoc]
      cases hstep with
      | @kept _ _ ok =>
          simp only [Signal.received, List.append_nil, ← List.append_assoc]
          apply ih.append
          cases ok with
          | false => exact List.nil_sublist _
          | true => exact List.Sublist.refl _
      | lost =>
          rw [Signal.received, Signal.confirmed, List.append_nil, List.append_nil]
          exact ih
      | copied =>
          rw [Signal.received, Signal.confirmed, List.append_nil, List.append_nil]
          exact ih
      | get =>
          rw [List.append_assoc, Signal.confirmed, List.append_nil]
          exact ih
      | reset => exact absurd (List.mem_singleton_self _) hreset.2

end LinuxGateway.Channels
