import LinuxGateway.LibDecimal
import LinuxGateway.LibRuns

/-! The SPI node (`SPIuser.ino`): the interrupt handler that collects a command, and `loop`, which
builds a frame and places it in the data register byte by byte. A statement of `loop` and a run of
the handler are one step each, and the two may interleave in any way. -/

namespace LinuxGateway

open Bytes Decimal

/-- The right-hand sides of `stringData +=`. -/
inductive Operand where
  | literal (text : List UInt8)
  | keyData
  | temp
  deriving DecidableEq

/-- The statements of `loop`, each named after what it does. -/
inductive SpiPc where
  | whileProcess
  | printDataYes
  | resetReceiveGw
  | append (operand : Operand) (rest : List Operand)
  | setFlag1
  | whileFlag1
  | placeByte
  | delay
  | nextK
  | ifLastByte
  | printEndl
  | resetK
  | clearFlag1
  | printEndCompare
  | resetStringData
  | fflush
  deriving DecidableEq

structure SpiNode where
  pc : SpiPc
  process : Bool
  receiveGw : List UInt8
  flag1 : ℕ
  k : ℕ
  stringData : List UInt8
  keyData : BitVec 16
  temp : BitVec 16
  deriving DecidableEq

inductive SpiEvent where
  /-- `ISR (SPI_STC_vect)` with this byte in `SPDR`. -/
  | isr (c : UInt8)
  /-- The next statement of `loop`. -/
  | main
  deriving DecidableEq

namespace SpiNode

def key : List UInt8 := ascii "b*"

def star : UInt8 := 42

/-- The bytes that the handler keeps. -/
def isCommandByte (c : UInt8) : Bool := c = 97 || c = 98 || c = star

def init (keyData temp : BitVec 16) : SpiNode where
  pc := .whileProcess
  process := false
  receiveGw := []
  flag1 := 0
  k := 0
  stringData := []
  keyData := keyData
  temp := temp

/-- `ISR (SPI_STC_vect)`. -/
def spiStcVect (node : SpiNode) (c : UInt8) : SpiNode :=
  let node := if isCommandByte c then { node with receiveGw := node.receiveGw ++ [c] } else node
  if c = star then { node with process := decide (key = node.receiveGw), receiveGw := [] } else node

/-- Past the end of the `String` its index operator gives zeros, so without a brace the loop of
`countChar` has no end. -/
def countChar : List UInt8 → Option ℕ
  | [] => none
  | c :: cs => if c = 125 then some 1 else (countChar cs).map (· + 1)

def render (node : SpiNode) : Operand → List UInt8
  | .literal text => text
  | .keyData => itoa node.keyData.toInt
  | .temp => itoa node.temp.toInt

/-- The operands of `stringData +=` after the first, which is an opening brace. -/
def operands : List Operand :=
  [.literal (ascii "\""), .literal (ascii "keynode"), .literal (ascii "\""), .literal (ascii ":"),
    .keyData, .literal (ascii ","), .literal (ascii "\""), .literal (ascii "Temp"),
    .literal (ascii "\""), .literal (ascii ":"), .temp, .literal (ascii "\x7d")]

/-- One statement of `loop`; the output is what it stores in `SPDR`. -/
def loop (node : SpiNode) : Option (SpiNode × List UInt8) :=
  match node.pc with
  | .whileProcess => some ({ node with pc := if node.process then .printDataYes else .whileProcess }, [])
  | .printDataYes => some ({ node with pc := .resetReceiveGw }, [])
  | .resetReceiveGw =>
      some ({ node with pc := .append (.literal (ascii "\x7b")) operands, receiveGw := [] }, [])
  | .append operand rest =>
      let pc := match rest with
        | [] => .setFlag1
        | next :: rest => .append next rest
      some ({ node with pc := pc, stringData := node.stringData ++ node.render operand }, [])
  | .setFlag1 => some ({ node with pc := .whileFlag1, flag1 := 1 }, [])
  | .whileFlag1 =>
      some ({ node with pc := if node.flag1 ≠ 0 then .placeByte else .printEndCompare }, [])
  | .placeByte => some ({ node with pc := .delay }, [node.stringData.getD node.k 0])
  | .delay => some ({ node with pc := .nextK }, [])
  | .nextK => some ({ node with pc := .ifLastByte, k := node.k + 1 }, [])
  | .ifLastByte =>
      (countChar node.stringData).map fun count =>
        ({ node with pc := if node.k = count then .printEndl else .whileFlag1 }, [])
  | .printEndl => some ({ node with pc := .resetK }, [])
  | .resetK => some ({ node with pc := .clearFlag1, k := 0 }, [])
  | .clearFlag1 => some ({ node with pc := .whileFlag1, flag1 := 0 }, [])
  | .printEndCompare => some ({ node with pc := .resetStringData }, [])
  | .resetStringData => some ({ node with pc := .fflush, stringData := [] }, [])
  | .fflush => some ({ node with pc := .whileProcess }, [])

def step : Runs.Step SpiNode SpiEvent UInt8 := fun node event =>
  match event with
  | .isr c => some (node.spiStcVect c, [])
  | .main => node.loop

/-! ### The frame -/

/-- What stands between the braces of a frame. -/
def frameBody (keyData temp : BitVec 16) : List UInt8 :=
  ascii "\"keynode\":" ++ itoa keyData.toInt ++ ascii ",\"Temp\":" ++ itoa temp.toInt

/-- The text of a frame, `{"keynode":K,"Temp":T}`. -/
def frameText (keyData temp : BitVec 16) : List UInt8 :=
  ascii "\x7b" ++ frameBody keyData temp ++ ascii "\x7d"

theorem frameText_eq (keyData temp : BitVec 16) :
    frameText keyData temp = 123 :: frameBody keyData temp ++ [125] := rfl

/-- What the node appends is the text of the frame. -/
theorem render_operands (node : SpiNode) :
    (Operand.literal (ascii "\x7b") :: operands).flatMap node.render =
      frameText node.keyData node.temp := by
  simp [operands, render, frameText, frameBody, ascii]

theorem mem_frameBody {keyData temp : BitVec 16} {b : UInt8} (hb : b ∈ frameBody keyData temp) :
    b ∈ ascii "\"keynode\":,\"Temp\":" ∨ b = minusSign ∨ IsDigit b := by
  rw [frameBody, List.mem_append, List.mem_append, List.mem_append] at hb
  have hsplit : ascii "\"keynode\":,\"Temp\":" = ascii "\"keynode\":" ++ ascii ",\"Temp\":" := by decide
  rw [hsplit, List.mem_append]
  rcases hb with ((hb | hb) | hb) | hb
  · exact Or.inl (Or.inl hb)
  · exact Or.inr (eq_minusSign_or_isDigit_of_mem_itoa hb)
  · exact Or.inl (Or.inr hb)
  · exact Or.inr (eq_minusSign_or_isDigit_of_mem_itoa hb)

/-- A 16-bit number has at most five digits and a sign. -/
theorem length_frameBody_le (keyData temp : BitVec 16) : (frameBody keyData temp).length ≤ 30 := by
  have hitoa : ∀ value : BitVec 16, (itoa value.toInt).length ≤ 6 := by
    intro value
    apply length_itoa_le (by decide)
    have hlow := BitVec.le_toInt value
    have hhigh := BitVec.toInt_lt (x := value)
    norm_num at hlow hhigh ⊢
    omega
  have hkey := hitoa keyData
  have htemp := hitoa temp
  have hfirst : (ascii "\"keynode\":").length = 10 := by decide
  have hsecond : (ascii ",\"Temp\":").length = 8 := by decide
  simp only [frameBody, List.length_append]
  omega

theorem countChar_append_brace {text : List UInt8} (h : (125 : UInt8) ∉ text) :
    countChar (text ++ [125]) = some (text.length + 1) := by
  induction text with
  | nil => rfl
  | cons c text ih =>
      rw [List.mem_cons, not_or] at h
      rw [List.cons_append, countChar, if_neg (fun hc => h.1 hc.symm), ih h.2]
      rfl

/-- The brace that ends a frame is its only one, so `countChar` is the length of the frame. -/
theorem countChar_frameText (keyData temp : BitVec 16) :
    countChar (frameText keyData temp) = some (frameText keyData temp).length := by
  have hbody : (125 : UInt8) ∉ frameBody keyData temp := by
    intro hb
    rcases mem_frameBody hb with hb | hb | hb
    · exact absurd hb (by decide)
    · exact absurd hb (by decide)
    · exact absurd hb.2 (by decide)
  have hmem : (125 : UInt8) ∉ 123 :: frameBody keyData temp := by
    rw [List.mem_cons, not_or]
    exact ⟨by decide, hbody⟩
  rw [frameText_eq, countChar_append_brace hmem]
  simp

/-! ### What a step does to the frame in progress -/

def text (node : SpiNode) : List UInt8 := frameText node.keyData node.temp

/-- The node has placed `sent` bytes of the current frame. -/
def Sending (node : SpiNode) (sent : ℕ) : Prop :=
  match node.pc with
  | .whileProcess | .printDataYes | .resetReceiveGw | .fflush =>
      node.stringData = [] ∧ node.k = 0 ∧ sent = 0
  | .append operand rest =>
      node.stringData ++ (operand :: rest).flatMap node.render = node.text ∧ node.k = 0 ∧ sent = 0
  | .setFlag1 | .clearFlag1 | .printEndCompare | .resetStringData =>
      node.stringData = node.text ∧ node.k = 0 ∧ sent = 0
  | .whileFlag1 =>
      node.stringData = node.text ∧ node.k = sent ∧
        if node.flag1 ≠ 0 then sent < node.text.length else sent = 0
  | .placeByte =>
      node.stringData = node.text ∧ node.k = sent ∧ sent < node.text.length ∧ node.flag1 ≠ 0
  | .delay | .nextK =>
      node.stringData = node.text ∧ node.k + 1 = sent ∧ sent ≤ node.text.length ∧ node.flag1 ≠ 0
  | .ifLastByte =>
      node.stringData = node.text ∧ node.k = sent ∧ sent ≤ node.text.length ∧ node.flag1 ≠ 0
  | .printEndl | .resetK => node.stringData = node.text ∧ sent = node.text.length

/-- The frame in progress after a step that stored `out` in `SPDR`. -/
inductive Advances (text : List UInt8) : ℕ → List UInt8 → ℕ → Prop where
  | silent (sent : ℕ) : Advances text sent [] sent
  | byte (sent : ℕ) (c : UInt8) (h : text[sent]? = some c) : Advances text sent [c] (sent + 1)
  | ended : Advances text text.length [] 0

/-- The handler does not touch the frame. -/
theorem sending_spiStcVect {node : SpiNode} {sent : ℕ} (h : node.Sending sent) (c : UInt8) :
    (node.spiStcVect c).Sending sent ∧ (node.spiStcVect c).text = node.text := by
  unfold spiStcVect
  dsimp only
  split <;> split <;> exact ⟨h, rfl⟩

theorem length_text_pos (node : SpiNode) : 0 < node.text.length := by
  rw [text, frameText_eq]
  simp

/-- The comparison with `countChar` is the comparison with the length of the frame. -/
theorem loop_ifLastByte (node : SpiNode) (hpc : node.pc = .ifLastByte)
    (htext : node.stringData = node.text) :
    node.loop = some ({ node with
      pc := if node.k = node.text.length then .printEndl else .whileFlag1 }, []) := by
  unfold loop
  rw [hpc, htext, text]
  dsimp only
  rw [countChar_frameText]
  rfl

theorem loop_sending {node : SpiNode} {sent : ℕ} (h : node.Sending sent) :
    ∃ next sent', node.loop = some next ∧ next.1.text = node.text ∧
      Advances node.text sent next.2 sent' ∧ next.1.Sending sent' := by
  obtain ⟨pc, process, receiveGw, flag1, k, stringData, keyData, temp⟩ := node
  cases pc with
  | whileProcess =>
      refine ⟨_, sent, rfl, rfl, .silent sent, ?_⟩
      cases process <;> exact h
  | printDataYes => exact ⟨_, sent, rfl, rfl, .silent sent, h⟩
  | resetReceiveGw =>
      obtain ⟨rfl, hk, hsent⟩ := h
      exact ⟨_, sent, rfl, rfl, .silent sent, render_operands _, hk, hsent⟩
  | append operand rest =>
      obtain ⟨htext, hk, hsent⟩ := h
      rw [List.flatMap_cons, ← List.append_assoc] at htext
      refine ⟨_, sent, rfl, rfl, .silent sent, ?_⟩
      cases rest with
      | nil =>
          rw [List.flatMap_nil, List.append_nil] at htext
          exact ⟨htext, hk, hsent⟩
      | cons next rest => exact ⟨htext, hk, hsent⟩
  | setFlag1 =>
      obtain ⟨htext, hk, rfl⟩ := h
      exact ⟨_, 0, rfl, rfl, .silent 0, htext, hk, length_text_pos _⟩
  | whileFlag1 =>
      obtain ⟨htext, hk, hflag⟩ := h
      refine ⟨_, sent, rfl, rfl, .silent sent, ?_⟩
      by_cases hset : flag1 = 0
      · subst hset
        exact ⟨htext, hk.trans hflag, hflag⟩
      · rw [if_pos hset] at hflag
        simp only [ne_eq, hset, not_false_eq_true, if_true]
        exact ⟨htext, hk, hflag, hset⟩
  | placeByte =>
      obtain ⟨htext, rfl, hlt, hflag⟩ := h
      change stringData = frameText keyData temp at htext
      subst htext
      refine ⟨_, k + 1, rfl, rfl, .byte k _ ?_, rfl, rfl, hlt, hflag⟩
      show (frameText keyData temp)[k]? = some ((frameText keyData temp).getD k 0)
      have hlt' : k < (frameText keyData temp).length := hlt
      rw [List.getD_eq_getElem?_getD, List.getElem?_eq_getElem hlt']
      rfl
  | delay => exact ⟨_, sent, rfl, rfl, .silent sent, h⟩
  | nextK =>
      obtain ⟨htext, hk, hle, hflag⟩ := h
      exact ⟨_, sent, rfl, rfl, .silent sent, htext, hk, hle, hflag⟩
  | ifLastByte =>
      obtain ⟨htext, rfl, hle, hflag⟩ := h
      refine ⟨_, k, loop_ifLastByte _ rfl htext, rfl, .silent k, ?_⟩
      split
      · rename_i hlast
        exact ⟨htext, hlast⟩
      · rename_i hlast
        refine ⟨htext, rfl, ?_⟩
        rw [if_pos hflag]
        exact lt_of_le_of_ne hle hlast
  | printEndl => exact ⟨_, sent, rfl, rfl, .silent sent, h⟩
  | resetK =>
      obtain ⟨htext, rfl⟩ := h
      exact ⟨_, 0, rfl, rfl, .ended, htext, rfl, rfl⟩
  | clearFlag1 =>
      obtain ⟨htext, hk, rfl⟩ := h
      exact ⟨_, 0, rfl, rfl, .silent 0, htext, hk, rfl⟩
  | printEndCompare => exact ⟨_, sent, rfl, rfl, .silent sent, h⟩
  | resetStringData =>
      obtain ⟨_, hk, hsent⟩ := h
      exact ⟨_, sent, rfl, rfl, .silent sent, rfl, hk, hsent⟩
  | fflush => exact ⟨_, sent, rfl, rfl, .silent sent, h⟩

/-- Every step of the node is defined, and advances the frame in progress. -/
theorem step_sending {node : SpiNode} {sent : ℕ} (h : node.Sending sent) (event : SpiEvent) :
    ∃ next sent', step node event = some next ∧ next.1.text = node.text ∧
      Advances node.text sent next.2 sent' ∧ next.1.Sending sent' := by
  cases event with
  | isr c =>
      obtain ⟨hsending, htext⟩ := sending_spiStcVect h c
      exact ⟨_, sent, rfl, htext, .silent sent, hsending⟩
  | main => exact loop_sending h

theorem sending_init (keyData temp : BitVec 16) : (init keyData temp).Sending 0 := ⟨rfl, rfl, rfl⟩

/-- No run of the node gets stuck. -/
theorem exists_run (keyData temp : BitVec 16) (events : List SpiEvent) :
    ∃ result, Runs.run step (init keyData temp) events = some result := by
  obtain ⟨result, hresult, _⟩ := Runs.exists_run (J := fun node : SpiNode => ∃ sent, node.Sending sent)
    (fun node event h => by
      obtain ⟨sent, hsending⟩ := h
      obtain ⟨next, sent', hnext, _, _, hnextSending⟩ := step_sending hsending event
      exact ⟨next, hnext, sent', hnextSending⟩)
    ⟨0, sending_init keyData temp⟩ events
  exact ⟨result, hresult⟩

end SpiNode

end LinuxGateway
