import LinuxGateway.LibDecimal
import LinuxGateway.LibRuns

/-! The I2C node (`I2Cuser.ino`). It collects received bytes twice, in the string `receiveGw` and in the
array `key`, whose index restarts at one after a terminator, and answers a read according to the last
command it recognised. `Wire.println` sends a text and a line end. -/

namespace LinuxGateway

open Bytes Decimal

structure I2cNode where
  key : Buffer 6
  i : ℕ
  flag : ℕ
  receiveGw : List UInt8
  stringDetect : List UInt8
  stringData : List UInt8
  deriving DecidableEq

inductive I2cEvent where
  /-- `receiveEvent` with these bytes available. -/
  | receive (bytes : List UInt8)
  | request
  deriving DecidableEq

namespace I2cNode

def keyNode : List UInt8 := ascii "1997."

def dataNode : List UInt8 := ascii "da*"

/-- The JSON text that `setup` and `requestEvent` append to a string, with the number they use. -/
def appendKeynode (text : List UInt8) (number : ℤ) : List UInt8 :=
  text ++ ascii "\x7b" ++ ascii "\"" ++ ascii "keynode" ++ ascii "\"" ++ ascii ":" ++ itoa number ++
    ascii "\x7d"

/-- `'/0'` is a constant of two characters, and `memset` stores its low byte, the digit zero. -/
def wiped : Buffer 6 := Buffer.fill 6 48

/-- The globals after `setup`. -/
def setup : I2cNode where
  key := Buffer.zero 6
  i := 0
  flag := 0
  receiveGw := []
  stringDetect := appendKeynode [] 97
  stringData := []

/-- One of the two tests for a terminator: it compares what was received with a command. -/
def terminate (terminator : UInt8) (command : List UInt8) (flag : ℕ) (node : I2cNode) : I2cNode :=
  if node.key.bytes[node.i]? = some terminator then
    { node with
      flag := if command = node.receiveGw then flag else node.flag
      i := 0
      key := wiped
      receiveGw := [] }
  else node

/-- One pass of the loop in `receiveEvent`. The second test reads `key[i]` again, after the first may
have wiped the array and set `i` back. -/
def receiveByte (node : I2cNode) (c : UInt8) : Option I2cNode :=
  (node.key.write node.i [c]).map fun key =>
    let node := { node with key := key, receiveGw := node.receiveGw ++ [c] }
    let node := terminate 46 keyNode 0 node
    let node := terminate 42 dataNode 1 node
    { node with i := node.i + 1 }

def receiveEvent : I2cNode → List UInt8 → Option I2cNode
  | node, [] => some node
  | node, c :: cs => (node.receiveByte c).bind fun next => next.receiveEvent cs

/-- The bytes of `Wire.println`. -/
def println (text : List UInt8) : List UInt8 := text ++ [13, 10]

def requestEvent (node : I2cNode) : I2cNode × List UInt8 :=
  if node.flag = 0 then (node, println node.stringDetect)
  else ({ node with stringData := [] }, println (appendKeynode node.stringData 99))

def step : Runs.Step I2cNode I2cEvent (List UInt8) := fun node event =>
  match event with
  | .receive bytes => (node.receiveEvent bytes).map fun next => (next, [])
  | .request => some (node.requestEvent.1, [node.requestEvent.2])

/-! ### What the node has collected -/

/-- The node is inside a command of which it has received this much. The index into `key` is where
the command puts it, or one further. -/
structure Awaits (node : I2cNode) (part : List UInt8) (flag : ℕ) : Prop where
  receiveGw : node.receiveGw = part
  index : node.i ≤ part.length + 1
  flag : node.flag = flag
  stringDetect : node.stringDetect = appendKeynode [] 97
  stringData : node.stringData = []

theorem awaits_setup : setup.Awaits [] 0 := ⟨rfl, Nat.zero_le _, rfl, rfl, rfl⟩

theorem receiveEvent_append (node : I2cNode) (cs cs' : List UInt8) :
    node.receiveEvent (cs ++ cs') = (node.receiveEvent cs).bind fun next => next.receiveEvent cs' := by
  induction cs generalizing node with
  | nil => rfl
  | cons c cs ih =>
      rw [List.cons_append, receiveEvent, receiveEvent, Option.bind_assoc]
      congr 1
      funext next
      exact ih next

/-- A byte that is no terminator. -/
theorem Awaits.receiveByte_plain {node : I2cNode} {part : List UInt8} {flag : ℕ}
    (h : node.Awaits part flag) (hlen : part.length ≤ 4) {c : UInt8} (hdot : c ≠ 46) (hstar : c ≠ 42) :
    ∃ next, node.receiveByte c = some next ∧ next.Awaits (part ++ [c]) flag := by
  have hindex := h.index
  obtain ⟨key, hkey, hget⟩ := node.key.exists_write_byte (show node.i < 6 by omega) c
  refine ⟨{ node with key := key, receiveGw := node.receiveGw ++ [c], i := node.i + 1 }, ?_, ?_⟩
  · simp [receiveByte, terminate, hkey, hget, hdot, hstar]
  · refine ⟨?_, ?_, h.flag, h.stringDetect, h.stringData⟩
    · rw [← h.receiveGw]
    · rw [List.length_append, List.length_singleton]
      exact Nat.succ_le_succ hindex

/-- After the wiping, the test for `*` reads a digit zero. -/
theorem Awaits.receiveByte_dot {node : I2cNode} {part : List UInt8} {flag : ℕ}
    (h : node.Awaits part flag) (hlen : part.length ≤ 4) :
    ∃ next, node.receiveByte 46 = some next ∧
      next.Awaits [] (if keyNode = part ++ [46] then 0 else flag) := by
  have hindex := h.index
  obtain ⟨key, hkey, hget⟩ := node.key.exists_write_byte (show node.i < 6 by omega) 46
  have hwiped : wiped.bytes[0]? = some 48 := rfl
  refine ⟨{ node with
    key := wiped, receiveGw := [], i := 1,
    flag := if keyNode = node.receiveGw ++ [46] then 0 else node.flag }, ?_, rfl, Nat.le_refl 1, ?_,
    h.stringDetect, h.stringData⟩
  · simp [receiveByte, terminate, hkey, hget, hwiped]
  · rw [h.receiveGw, h.flag]

theorem Awaits.receiveByte_star {node : I2cNode} {part : List UInt8} {flag : ℕ}
    (h : node.Awaits part flag) (hlen : part.length ≤ 4) :
    ∃ next, node.receiveByte 42 = some next ∧
      next.Awaits [] (if dataNode = part ++ [42] then 1 else flag) := by
  have hindex := h.index
  obtain ⟨key, hkey, hget⟩ := node.key.exists_write_byte (show node.i < 6 by omega) 42
  refine ⟨{ node with
    key := wiped, receiveGw := [], i := 1,
    flag := if dataNode = node.receiveGw ++ [42] then 1 else node.flag }, ?_, rfl, Nat.le_refl 1, ?_,
    h.stringDetect, h.stringData⟩
  · simp [receiveByte, terminate, hkey, hget]
  · rw [h.receiveGw, h.flag]

theorem Awaits.receiveEvent_plain {node : I2cNode} {part : List UInt8} {flag : ℕ}
    (h : node.Awaits part flag) {cs : List UInt8} (hcs : ∀ c ∈ cs, c ≠ 46 ∧ c ≠ 42)
    (hlen : part.length + cs.length ≤ 4) :
    ∃ next, node.receiveEvent cs = some next ∧ next.Awaits (part ++ cs) flag := by
  induction cs generalizing node part with
  | nil =>
      rw [List.append_nil]
      exact ⟨node, rfl, h⟩
  | cons c cs ih =>
      rw [List.length_cons] at hlen
      obtain ⟨hdot, hstar⟩ := hcs c List.mem_cons_self
      obtain ⟨first, hfirst, hawaits⟩ := h.receiveByte_plain (by omega) hdot hstar
      obtain ⟨next, hnext, hall⟩ := ih hawaits (fun b hb => hcs b (List.mem_cons_of_mem c hb))
        (by rw [List.length_append, List.length_singleton]; omega)
      refine ⟨next, ?_, by rwa [List.append_assoc] at hall⟩
      rw [receiveEvent, hfirst]
      exact hnext

end I2cNode

end LinuxGateway
