import LinuxGateway.SpiAssembler
import LinuxGateway.SpiNode
import Mathlib.Data.Bool.AllAny

/-! The SPI link: the bytes that the node places in its data register, sampled once each and in order,
go through the frame assembler of the gateway. -/

namespace LinuxGateway

open Bytes Decimal

namespace SpiNode

/-- The bytes of `n` frames. -/
def frames (text : List UInt8) (n : ℕ) : List UInt8 := (List.replicate n text).flatten

theorem frames_succ (text : List UInt8) (n : ℕ) : frames text (n + 1) = frames text n ++ text := by
  rw [frames, List.replicate_succ', List.flatten_append, List.flatten_singleton]
  rfl

/-- A stream of whole frames and the start of one stays such a stream. -/
theorem Advances.append {text : List UInt8} {sent sent' : ℕ} {out : List UInt8}
    (h : Advances text sent out sent') (n : ℕ) :
    ∃ n', frames text n ++ text.take sent ++ out = frames text n' ++ text.take sent' := by
  cases h with
  | silent => exact ⟨n, List.append_nil _⟩
  | byte _ c hc =>
      refine ⟨n, ?_⟩
      rw [List.append_assoc, List.take_add_one, hc]
      rfl
  | ended =>
      refine ⟨n + 1, ?_⟩
      rw [List.take_length, List.append_nil, List.take_zero, List.append_nil, frames_succ]

theorem Sending.le {node : SpiNode} {sent : ℕ} (h : node.Sending sent) : sent ≤ node.text.length := by
  have hpos := node.length_text_pos
  unfold Sending at h
  split at h
  all_goals
    first
    | omega
    | (obtain ⟨_, _, hflag⟩ := h
       split at hflag <;> omega)

/-- What any run of the node, with any interrupts in it, has placed in the data register. -/
theorem run_placed {keyData temp : BitVec 16} {events : List SpiEvent}
    {result : SpiNode × List UInt8} (hrun : Runs.run step (init keyData temp) events = some result) :
    ∃ n sent, sent < (frameText keyData temp).length ∧
      result.2 = frames (frameText keyData temp) n ++ (frameText keyData temp).take sent := by
  have hinvariant : ∃ n sent, result.1.text = frameText keyData temp ∧ result.1.Sending sent ∧
      result.2 = frames (frameText keyData temp) n ++ (frameText keyData temp).take sent := by
    apply Runs.run_invariant (G := fun _ _ => True)
      (P := fun _ placed node => ∃ n sent, node.text = frameText keyData temp ∧ node.Sending sent ∧
        placed = frames (frameText keyData temp) n ++ (frameText keyData temp).take sent)
      ⟨0, 0, rfl, sending_init keyData temp, rfl⟩ _ (Runs.along_of_forall (fun _ _ => trivial) _ _) hrun
    rintro _ placed node event next ⟨n, sent, htext, hsending, rfl⟩ _ hstep
    obtain ⟨next', sent', hnext', htext', hadvances, hsending'⟩ := step_sending hsending event
    obtain rfl := Option.some.inj (hstep.symm.trans hnext')
    rw [htext] at hadvances
    obtain ⟨n', hplaced⟩ := hadvances.append n
    exact ⟨n', sent', htext'.trans htext, hsending', hplaced⟩
  obtain ⟨n, sent, htext, hsending, hplaced⟩ := hinvariant
  have hle := hsending.le
  rw [htext] at hle
  rcases hle.lt_or_eq with hlt | rfl
  · exact ⟨n, sent, hlt, hplaced⟩
  · -- all bytes of a frame are out, and the node has not come to the end of the loop yet
    have hpos := result.1.length_text_pos
    rw [htext] at hpos
    refine ⟨n + 1, 0, hpos, ?_⟩
    rw [hplaced, List.take_length, List.take_zero, List.append_nil, frames_succ]

/-! ### Every number of frames is sent by some run -/

theorem reaches_appends (node : SpiNode) (operand : Operand) (rest : List Operand)
    (hpc : node.pc = .append operand rest) :
    Runs.Reaches step node [] { node with
      pc := .setFlag1, stringData := node.stringData ++ (operand :: rest).flatMap node.render } := by
  induction rest generalizing node operand with
  | nil =>
      apply Runs.Reaches.single (e := SpiEvent.main)
      simp [step, loop, hpc]
  | cons next rest ih =>
      have hfirst : Runs.Reaches step node [] { node with
          pc := .append next rest, stringData := node.stringData ++ node.render operand } := by
        apply Runs.Reaches.single (e := SpiEvent.main)
        simp [step, loop, hpc]
      have hrest := hfirst.trans (ih _ next rfl)
      rw [List.flatMap_cons, ← List.append_assoc]
      exact hrest

theorem reaches_nextByte {node : SpiNode} (hpc : node.pc = .whileFlag1) (hflag : node.flag1 ≠ 0)
    (htext : node.stringData = node.text) (hk : node.k < node.text.length) :
    Runs.Reaches step node [node.text[node.k]] { node with
      pc := if node.k + 1 = node.text.length then .printEndl else .whileFlag1,
      k := node.k + 1 } := by
  have hbyte : node.stringData.getD node.k 0 = node.text[node.k] := by
    rw [htext, List.getD_eq_getElem?_getD, List.getElem?_eq_getElem hk]
    rfl
  have htest : Runs.Reaches step node [] { node with pc := .placeByte } := by
    apply Runs.Reaches.single (e := SpiEvent.main)
    simp [step, loop, hpc, hflag]
  have hplace : Runs.Reaches step { node with pc := .placeByte } [node.text[node.k]]
      { node with pc := .delay } := by
    apply Runs.Reaches.single (e := SpiEvent.main)
    rw [← hbyte]
    rfl
  have hdelay : Runs.Reaches step { node with pc := .delay } [] { node with pc := .nextK } :=
    Runs.Reaches.single (e := SpiEvent.main) rfl
  have hnext : Runs.Reaches step { node with pc := .nextK } []
      { node with pc := .ifLastByte, k := node.k + 1 } :=
    Runs.Reaches.single (e := SpiEvent.main) rfl
  have hlast : Runs.Reaches step { node with pc := .ifLastByte, k := node.k + 1 } [] { node with
      pc := if node.k + 1 = node.text.length then .printEndl else .whileFlag1, k := node.k + 1 } :=
    Runs.Reaches.single (e := SpiEvent.main)
      (loop_ifLastByte { node with pc := .ifLastByte, k := node.k + 1 } rfl htext)
  exact htest.trans (hplace.trans (hdelay.trans (hnext.trans hlast)))

theorem reaches_endOfFrame (node : SpiNode) (hpc : node.pc = .whileFlag1) (hflag : node.flag1 ≠ 0)
    (htext : node.stringData = node.text) (hk : node.k < node.text.length) :
    Runs.Reaches step node (node.text.drop node.k)
      { node with pc := .printEndl, k := node.text.length } := by
  obtain ⟨left, hleft⟩ : ∃ left, node.text.length = node.k + 1 + left :=
    Nat.exists_eq_add_of_lt hk |>.imp fun left h => by omega
  induction left generalizing node with
  | zero =>
      have hbyte := reaches_nextByte hpc hflag htext hk
      rw [if_pos hleft.symm] at hbyte
      rw [List.drop_eq_getElem_cons hk, List.drop_eq_nil_of_le hleft.le, hleft]
      exact hbyte
  | succ left ih =>
      have hbyte := reaches_nextByte hpc hflag htext hk
      rw [if_neg (by omega)] at hbyte
      have hrest := hbyte.trans (ih { node with pc := .whileFlag1, k := node.k + 1 } rfl hflag htext
        (by show node.k + 1 < node.text.length; omega)
        (by show node.text.length = node.k + 1 + 1 + left; omega))
      rw [List.drop_eq_getElem_cons hk]
      exact hrest

/-- The node between two frames, after a key request. -/
structure Ready (node : SpiNode) : Prop where
  pc : node.pc = .whileProcess
  process : node.process = true
  k : node.k = 0
  stringData : node.stringData = []

theorem Ready.reaches_frame {node : SpiNode} (h : node.Ready) :
    ∃ next : SpiNode, Runs.Reaches step node node.text next ∧ next.Ready ∧ next.text = node.text := by
  obtain ⟨pc, process, receiveGw, flag1, k, stringData, keyData, temp⟩ := node
  obtain ⟨rfl, rfl, rfl, rfl⟩ := h
  let sending : SpiNode := ⟨.whileFlag1, true, [], 1, 0, frameText keyData temp, keyData, temp⟩
  have hstart : Runs.Reaches step ⟨.whileProcess, true, receiveGw, flag1, 0, [], keyData, temp⟩ []
      ⟨.append (.literal (ascii "\x7b")) operands, true, [], flag1, 0, [], keyData, temp⟩ :=
    ⟨[.main, .main, .main], rfl⟩
  have hbuild := reaches_appends
    ⟨.append (.literal (ascii "\x7b")) operands, true, [], flag1, 0, [], keyData, temp⟩ _ _ rfl
  rw [render_operands] at hbuild
  have hflag : Runs.Reaches step
      ⟨.setFlag1, true, [], flag1, 0, frameText keyData temp, keyData, temp⟩ [] sending :=
    Runs.Reaches.single (e := SpiEvent.main) rfl
  have hbytes := reaches_endOfFrame sending rfl Nat.one_ne_zero rfl sending.length_text_pos
  have hend : Runs.Reaches step { sending with pc := .printEndl, k := sending.text.length } []
      ⟨.whileProcess, true, [], 0, 0, [], keyData, temp⟩ :=
    ⟨[.main, .main, .main, .main, .main, .main, .main], rfl⟩
  refine ⟨⟨.whileProcess, true, [], 0, 0, [], keyData, temp⟩, ?_, ⟨rfl, rfl, rfl, rfl⟩, rfl⟩
  have hall := hstart.trans (hbuild.trans (hflag.trans (hbytes.trans hend)))
  rw [List.append_nil] at hall
  exact hall

theorem Ready.reaches_frames {node : SpiNode} (h : node.Ready) (n : ℕ) :
    ∃ next : SpiNode, Runs.Reaches step node (frames node.text n) next ∧ next.Ready ∧
      next.text = node.text := by
  induction n with
  | zero => exact ⟨node, Runs.Reaches.refl node, h, rfl⟩
  | succ n ih =>
      obtain ⟨middle, hmiddle, hready, htext⟩ := ih
      obtain ⟨next, hnext, hnextReady, hnextText⟩ := hready.reaches_frame
      rw [htext] at hnext hnextText
      rw [frames_succ]
      exact ⟨next, hmiddle.trans hnext, hnextReady, hnextText⟩

theorem exists_run_frames (keyData temp : BitVec 16) (n : ℕ) :
    ∃ events node, Runs.run step (init keyData temp) events =
      some (node, frames (frameText keyData temp) n) := by
  have hrequest : Runs.Reaches step (init keyData temp) []
      ⟨.whileProcess, true, [], 0, 0, [], keyData, temp⟩ := ⟨[.isr 98, .isr star], rfl⟩
  have hready : (SpiNode.mk .whileProcess true [] 0 0 [] keyData temp).Ready := ⟨rfl, rfl, rfl, rfl⟩
  obtain ⟨next, hnext, _, _⟩ := hready.reaches_frames n
  obtain ⟨events, hevents⟩ := hrequest.trans hnext
  exact ⟨events, next, hevents⟩

/-! ### The gateway's side -/

theorem plain_of_mem_frameBody {keyData temp : BitVec 16} {b : UInt8}
    (hb : b ∈ frameBody keyData temp) : SpiAssembler.Plain b := by
  rcases mem_frameBody hb with hb | rfl | hb
  · have hall : ∀ b ∈ ascii "\"keynode\":,\"Temp\":",
        b ∉ ([123, 125, 46, 97, 98, 0] : List UInt8) := List.all_iff_forall_prop.mp (by decide)
    exact hall b hb
  · show minusSign ∉ ([123, 125, 46, 97, 98, 0] : List UInt8)
    decide
  · intro hmem
    have hspecial : ∀ b ∈ ([123, 125, 46, 97, 98, 0] : List UInt8), ¬(48 ≤ b.toNat ∧ b.toNat ≤ 57) :=
      List.all_iff_forall_prop.mp (by decide)
    exact hspecial b hmem hb

theorem receive_frames (keyData temp : BitVec 16) (n : ℕ) :
    Runs.run SpiAssembler.receive SpiAssembler.init (frames (frameText keyData temp) n) =
      some (SpiAssembler.init, List.replicate n (frameText keyData temp)) := by
  induction n with
  | zero => rfl
  | succ n ih =>
      have hlen := length_frameBody_le keyData temp
      have hframe := SpiAssembler.receive_frame
        (fun b (hb : b ∈ frameBody keyData temp) => plain_of_mem_frameBody hb) (by omega)
      rw [frames_succ, List.replicate_succ']
      exact Runs.run_append_eq_some.mpr ⟨_, _, ih, hframe, rfl⟩

/-- The link, for any run of the node and any interrupts in it: the gateway hands over the frames that
the node has sent whole, and is back in its initial state after each. Any number of frames can be
sent. -/
theorem handed_eq_sent (keyData temp : BitVec 16) :
    (∀ events, ∃ node placed n sent assembler,
      Runs.run step (init keyData temp) events = some (node, placed) ∧
      sent < (frameText keyData temp).length ∧
      placed = frames (frameText keyData temp) n ++ (frameText keyData temp).take sent ∧
      Runs.run SpiAssembler.receive SpiAssembler.init placed =
        some (assembler, List.replicate n (frameText keyData temp))) ∧
    ∀ n, ∃ events node,
      Runs.run step (init keyData temp) events = some (node, frames (frameText keyData temp) n) ∧
      Runs.run SpiAssembler.receive SpiAssembler.init (frames (frameText keyData temp) n) =
        some (SpiAssembler.init, List.replicate n (frameText keyData temp)) := by
  refine ⟨fun events => ?_, fun n => ?_⟩
  · obtain ⟨⟨node, placed⟩, hrun⟩ := exists_run keyData temp events
    obtain ⟨n, sent, hsent, rfl⟩ : ∃ n sent, sent < (frameText keyData temp).length ∧
        placed = frames (frameText keyData temp) n ++ (frameText keyData temp).take sent :=
      run_placed hrun
    have hlen := length_frameBody_le keyData temp
    have hlength : (frameText keyData temp).length = (frameBody keyData temp).length + 2 := by
      rw [frameText_eq]
      simp
    obtain ⟨assembler, hstart⟩ := SpiAssembler.receive_frame_start
      (fun b (hb : b ∈ frameBody keyData temp) => plain_of_mem_frameBody hb)
      (show (frameBody keyData temp).length ≤ 47 by omega)
      (show sent ≤ (frameBody keyData temp).length + 1 by omega)
    refine ⟨node, _, n, sent, assembler, hrun, hsent, rfl, ?_⟩
    exact Runs.run_append_eq_some.mpr
      ⟨_, _, receive_frames keyData temp n, hstart, by rw [List.append_nil]⟩
  · obtain ⟨events, node, hrun⟩ := exists_run_frames keyData temp n
    exact ⟨events, node, hrun, receive_frames keyData temp n⟩

example : frameText 97 (-12) = ascii "\x7b\"keynode\":97,\"Temp\":-12\x7d" := by decide

end SpiNode

end LinuxGateway
