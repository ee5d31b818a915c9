import LinuxGateway.LibBytes
import LinuxGateway.LibRuns

/-! The receive loop of the SPI service (`threadfunction1` of `clientSPI.c`) as far as it puts frames
together: each iteration takes the one byte `msgReceive[0]` and may hand a string to
`json_tokener_parse`. What becomes of the string does not touch these variables. -/

namespace LinuxGateway

open Bytes

structure SpiAssembler where
  flag1 : ℕ
  ka : ℕ
  msgReceive1 : Buffer 50
  deriving DecidableEq

namespace SpiAssembler

def init : SpiAssembler where
  flag1 := 0
  ka := 0
  msgReceive1 := Buffer.zero 50

/-- The two tests for an opening brace and for the reset byte. -/
def mark (assembler : SpiAssembler) (c : UInt8) : SpiAssembler :=
  let assembler := if c = 123 then { assembler with flag1 := 1 } else assembler
  if c = 46 then { assembler with flag1 := 0, msgReceive1 := Buffer.zero 50 } else assembler

/-- A closing brace ends a frame that an opening brace began. The library is handed the string in
`msgReceive1`, which is then cleared. -/
def finish (assembler : SpiAssembler) (c : UInt8) : Option (SpiAssembler × List (List UInt8)) :=
  if c = 125 ∧ assembler.msgReceive1.bytes.head? = some 123 then
    (assembler.msgReceive1.write assembler.ka [c]).bind fun buffer =>
      (cString buffer.bytes).map fun text =>
        ({ flag1 := 0, ka := 0, msgReceive1 := Buffer.zero 50 }, [text])
  else some (assembler, [])

/-- Inside a frame every byte but `.`, `a` and `b` is kept. -/
def keep (assembler : SpiAssembler) (c : UInt8) : Option SpiAssembler :=
  if assembler.flag1 = 1 ∧ c ≠ 46 ∧ c ≠ 97 ∧ c ≠ 98 then
    (assembler.msgReceive1.write assembler.ka [c]).map fun buffer =>
      { assembler with msgReceive1 := buffer, ka := assembler.ka + 1 }
  else some assembler

/-- One iteration; the output is what `json_tokener_parse` is called on. -/
def receive : Runs.Step SpiAssembler UInt8 (List UInt8) := fun assembler c =>
  ((assembler.mark c).finish c).bind fun finished =>
    (finished.1.keep c).map fun assembler => (assembler, finished.2)

/-- A byte that stands for itself inside a frame. -/
def Plain (b : UInt8) : Prop := b ∉ ([123, 125, 46, 97, 98, 0] : List UInt8)

/-- The assembler has collected this much of a frame. -/
structure Collects (assembler : SpiAssembler) (part : List UInt8) : Prop where
  flag1 : assembler.flag1 = 1
  ka : assembler.ka = part.length
  filled : assembler.msgReceive1.Filled part

/-- The bytes of a frame's inside that the assembler keeps. -/
def kept (bytes : List UInt8) : List UInt8 := bytes.filter fun c => c ≠ 97 ∧ c ≠ 98

theorem kept_cons_of_drop {c : UInt8} (hc : c = 97 ∨ c = 98) (bytes : List UInt8) :
    kept (c :: bytes) = kept bytes := by
  rcases hc with rfl | rfl <;> rfl

theorem kept_cons_of_keep {c : UInt8} (hc : ¬(c = 97 ∨ c = 98)) (bytes : List UInt8) :
    kept (c :: bytes) = c :: kept bytes := by
  rw [not_or] at hc
  exact List.filter_cons_of_pos (by simpa using hc)

theorem kept_eq_self {body : List UInt8} (hbody : ∀ b ∈ body, Plain b) : kept body = body := by
  rw [kept, List.filter_eq_self]
  intro b hb
  have hplain := hbody b hb
  simp only [Plain, List.mem_cons, List.not_mem_nil, or_false, not_or] at hplain
  simp [hplain]

theorem noNul_of_plain {body : List UInt8} (hbody : ∀ b ∈ body, Plain b) : NoNul body := by
  intro b hb hzero
  exact hbody b hb (by rw [hzero]; decide)

/-! ### One byte inside a frame -/

theorem receive_open :
    ∃ next, receive init 123 = some (next, []) ∧ next.Collects [123] := by
  obtain ⟨buffer, hbuffer, hfilled⟩ := (Buffer.filled_zero 50).exists_write_byte (by decide) 123
  refine ⟨{ flag1 := 1, ka := 1, msgReceive1 := buffer }, ?_, rfl, rfl, hfilled⟩
  have hzero : (Buffer.zero 50).write 0 [123] = some buffer := hbuffer
  simp [receive, mark, finish, keep, init, hzero]

/-- Inside a frame all that a byte can do but end the frame is to be kept. -/
theorem Collects.receive_eq_keep {assembler : SpiAssembler} {part : List UInt8}
    (h : assembler.Collects part) {c : UInt8} (hdot : c ≠ 46) (hclose : c ≠ 125) :
    receive assembler c = (assembler.keep c).map fun next => (next, []) := by
  have hmark : assembler.mark c = assembler := by
    rw [mark, if_neg hdot]
    split
    · rw [← h.flag1]
    · rfl
  rw [receive, hmark, finish, if_neg (fun hend => hclose hend.1)]
  rfl

theorem receive_drop {assembler : SpiAssembler} {part : List UInt8} (h : assembler.Collects part)
    {c : UInt8} (hc : c = 97 ∨ c = 98) : receive assembler c = some (assembler, []) := by
  have hdot : c ≠ 46 := by rcases hc with rfl | rfl <;> decide
  have hclose : c ≠ 125 := by rcases hc with rfl | rfl <;> decide
  have hkeep : ¬(assembler.flag1 = 1 ∧ c ≠ 46 ∧ c ≠ 97 ∧ c ≠ 98) :=
    fun hall => hc.elim hall.2.2.1 hall.2.2.2
  rw [h.receive_eq_keep hdot hclose, keep, if_neg hkeep]
  rfl

theorem receive_keep {assembler : SpiAssembler} {part : List UInt8} (h : assembler.Collects part)
    {c : UInt8} (hdot : c ≠ 46) (hclose : c ≠ 125) (hc : ¬(c = 97 ∨ c = 98)) :
    if part.length < 50 then
      ∃ next, receive assembler c = some (next, []) ∧ next.Collects (part ++ [c])
    else receive assembler c = none := by
  rw [not_or] at hc
  have hkept : assembler.keep c = (assembler.msgReceive1.write part.length [c]).map fun buffer =>
      { assembler with msgReceive1 := buffer, ka := assembler.ka + 1 } := by
    rw [keep, if_pos ⟨h.flag1, hdot, hc.1, hc.2⟩, h.ka]
  rw [h.receive_eq_keep hdot hclose, hkept]
  split
  · rename_i hlt
    obtain ⟨buffer, hbuffer, hfilled⟩ := h.filled.exists_write_byte hlt c
    refine ⟨{ assembler with msgReceive1 := buffer, ka := assembler.ka + 1 }, ?_, h.flag1, ?_, hfilled⟩
    · rw [hbuffer]
      rfl
    · show assembler.ka + 1 = _
      rw [h.ka, List.length_append, List.length_singleton]
  · rename_i hge
    rw [Buffer.write_eq_none _ (by rw [List.length_singleton]; omega)]
    rfl

/-- A frame with this inside fits into `msgReceive1`, with a zero inside it or behind it. -/
def Fits (inside : List UInt8) : Prop := inside.length ≤ 47 ∨ (inside.length = 48 ∧ 0 ∈ inside)

instance (inside : List UInt8) : Decidable (Fits inside) := inferInstanceAs (Decidable (_ ∨ _))

theorem fits_iff {inside : List UInt8} (hlt : inside.length < 49) :
    Fits inside ↔ (123 :: inside ++ [125]).length < 50 ∨ 0 ∈ 123 :: inside ++ [125] := by
  simp only [Fits, List.length_append, List.length_cons, List.length_nil, List.mem_append,
    List.mem_cons, List.not_mem_nil, or_false]
  constructor
  · rintro (hle | ⟨_, hmem⟩)
    · exact Or.inl (by omega)
    · exact Or.inr (Or.inl (Or.inr hmem))
  · rintro (hshort | (hzero | hmem) | hzero)
    · exact Or.inl (by omega)
    · exact absurd hzero (by decide)
    · by_cases hle : inside.length ≤ 47
      · exact Or.inl hle
      · exact Or.inr ⟨by omega, hmem⟩
    · exact absurd hzero (by decide)

theorem Collects.receive_eq_finish {assembler : SpiAssembler} {part : List UInt8}
    (h : assembler.Collects (123 :: part)) :
    receive assembler 125 =
      (assembler.msgReceive1.write (123 :: part).length [125]).bind fun buffer =>
        (cString buffer.bytes).map fun text => (init, [text]) := by
  have hhead : assembler.msgReceive1.bytes.head? = some 123 := by
    rw [h.filled]
    rfl
  have hmark : assembler.mark 125 = assembler := rfl
  rw [receive, hmark, finish, if_pos ⟨rfl, hhead⟩, h.ka]
  cases assembler.msgReceive1.write (123 :: part).length [125] with
  | none => rfl
  | some buffer =>
      cases htext : cString buffer.bytes with
      | none => simp [htext]
      | some text => simp [htext, keep, init]

/-- The closing brace: the string in the buffer is handed over, if the buffer holds one. -/
theorem receive_close {assembler : SpiAssembler} {part : List UInt8}
    (h : assembler.Collects (123 :: part)) :
    receive assembler 125 =
      if Fits part then some (init, [textOf (123 :: part ++ [125])]) else none := by
  rw [h.receive_eq_finish]
  by_cases hlt : (123 :: part).length < 50
  · obtain ⟨buffer, hbuffer, hfilled⟩ := h.filled.exists_write_byte hlt 125
    rw [hbuffer, Option.bind_some, hfilled.cString_eq_ite]
    have hshort : part.length < 49 := Nat.lt_of_succ_lt_succ hlt
    simp only [← fits_iff hshort]
    split <;> rfl
  · have hfit : ¬Fits part := by
      rintro (hle | ⟨hlen, _⟩) <;> rw [List.length_cons] at hlt <;> omega
    rw [if_neg hfit, Buffer.write_eq_none _ (by rw [List.length_singleton]; omega)]
    rfl

/-! ### Frames -/

/-- Bytes that do not end the frame, from anywhere inside it. -/
theorem run_inside {assembler : SpiAssembler} {part : List UInt8} (h : assembler.Collects part)
    {bytes : List UInt8} (hclose : 125 ∉ bytes) (hdot : 46 ∉ bytes) :
    if part.length + (kept bytes).length ≤ 50 then
      ∃ next, Runs.run receive assembler bytes = some (next, []) ∧ next.Collects (part ++ kept bytes)
    else Runs.run receive assembler bytes = none := by
  induction bytes generalizing assembler part with
  | nil =>
      have hle := h.filled.length_le
      rw [if_pos (by simpa [kept] using hle)]
      exact ⟨assembler, rfl, by simpa [kept] using h⟩
  | cons c bytes ih =>
      rw [List.mem_cons, not_or] at hclose hdot
      have hclose' : c ≠ 125 := fun heq => hclose.1 heq.symm
      have hdot' : c ≠ 46 := fun heq => hdot.1 heq.symm
      by_cases hc : c = 97 ∨ c = 98
      · rw [kept_cons_of_drop hc, Runs.run, receive_drop h hc]
        simpa using ih h hclose.2 hdot.2
      · have hstep := receive_keep h hdot' hclose' hc
        rw [kept_cons_of_keep hc, List.length_cons]
        by_cases hlt : part.length < 50
        · rw [if_pos hlt] at hstep
          obtain ⟨next, hnext, hcollects⟩ := hstep
          have hrest := ih hcollects hclose.2 hdot.2
          rw [Runs.run, hnext]
          simpa [Nat.add_assoc, Nat.add_comm 1] using hrest
        · rw [if_neg hlt] at hstep
          rw [if_neg (by omega), Runs.run, hstep]
          rfl

/-- The inside of a frame, from its opening brace on. -/
theorem run_opened {bytes : List UInt8} (hclose : 125 ∉ bytes) (hdot : 46 ∉ bytes) :
    if (kept bytes).length ≤ 49 then
      ∃ next, Runs.run receive init (123 :: bytes) = some (next, []) ∧
        next.Collects (123 :: kept bytes)
    else Runs.run receive init (123 :: bytes) = none := by
  obtain ⟨opened, hopened, hcollects⟩ := receive_open
  have hrun := run_inside hcollects hclose hdot
  rw [Runs.run, hopened]
  have hle : 1 + (kept bytes).length ≤ 50 ↔ (kept bytes).length ≤ 49 := by omega
  simpa [hle] using hrun

/-- A whole frame leaves the assembler as it found it, if the frame fits. -/
theorem run_frame {bytes : List UInt8} (hclose : 125 ∉ bytes) (hdot : 46 ∉ bytes) :
    Runs.run receive init (123 :: bytes ++ [125]) =
      if Fits (kept bytes) then some (init, [textOf (123 :: kept bytes ++ [125])]) else none := by
  have hopened := run_opened hclose hdot
  by_cases hle : (kept bytes).length ≤ 49
  · rw [if_pos hle] at hopened
    obtain ⟨next, hnext, hcollects⟩ := hopened
    have hclosed := receive_close hcollects
    by_cases hfit : Fits (kept bytes)
    · rw [if_pos hfit] at hclosed ⊢
      exact Runs.run_snoc_eq_some.mpr ⟨_, _, hnext, hclosed, rfl⟩
    · rw [if_neg hfit] at hclosed ⊢
      rw [Runs.run_snoc, hnext, Option.bind_some, hclosed]
      rfl
  · rw [if_neg hle] at hopened
    have hfit : ¬Fits (kept bytes) := by
      rintro (hshort | ⟨hlen, _⟩) <;> omega
    rw [if_neg hfit, Runs.run_snoc, hopened]
    rfl

/-- A frame of bytes that stand for themselves is handed over as it was sent. -/
theorem receive_frame {body : List UInt8} (hbody : ∀ b ∈ body, Plain b) (hlen : body.length ≤ 47) :
    Runs.run receive init (123 :: body ++ [125]) = some (init, [123 :: body ++ [125]]) := by
  have hclose : 125 ∉ body := fun hmem => hbody 125 hmem (by decide)
  have hdot : 46 ∉ body := fun hmem => hbody 46 hmem (by decide)
  have hno : NoNul (123 :: body ++ [125]) := by
    intro b hb
    rcases List.mem_append.mp hb with hb | hb
    · rcases List.mem_cons.mp hb with rfl | hb
      · decide
      · exact noNul_of_plain hbody b hb
    · rw [List.mem_singleton.mp hb]
      decide
  have hfit : Fits body := Or.inl hlen
  rw [run_frame hclose hdot, kept_eq_self hbody, if_pos hfit, textOf_of_noNul hno]

/-- The start of a frame is not handed over. -/
theorem receive_frame_start {body : List UInt8} (hbody : ∀ b ∈ body, Plain b)
    (hlen : body.length ≤ 47) {n : ℕ} (hn : n ≤ body.length + 1) :
    ∃ assembler, Runs.run receive init ((123 :: body ++ [125]).take n) = some (assembler, []) := by
  cases n with
  | zero => exact ⟨init, rfl⟩
  | succ n =>
      have hpart : ∀ b ∈ body.take n, Plain b := fun b hb => hbody b (List.mem_of_mem_take hb)
      have hclose : 125 ∉ body.take n := fun hmem => hpart 125 hmem (by decide)
      have hdot : 46 ∉ body.take n := fun hmem => hpart 46 hmem (by decide)
      have hopened := run_opened hclose hdot
      rw [kept_eq_self hpart, if_pos (by rw [List.length_take]; omega)] at hopened
      obtain ⟨next, hnext, _⟩ := hopened
      rw [List.cons_append, List.take_succ_cons, List.take_append_of_le_length (by omega)]
      exact ⟨next, hnext⟩

end SpiAssembler

end LinuxGateway
