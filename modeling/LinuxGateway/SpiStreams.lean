import LinuxGateway.SpiAssembler

/-! The frame assembler of the SPI service on whole byte streams. Noise does not move it and a frame
brings it back to its initial state; but a reset byte inside a frame clears the buffer and leaves `ka`
behind, and from then on no frame is found any more while `ka` goes on growing. -/

namespace LinuxGateway

open Bytes

/-- A piece of a clean stream. -/
inductive SpiSegment where
  | noise (bytes : List UInt8) (h : 123 ∉ bytes)
  | frame (body : List UInt8) (hbody : ∀ b ∈ body, SpiAssembler.Plain b) (hlen : body.length ≤ 47)

namespace SpiSegment

def bytes : SpiSegment → List UInt8
  | .noise bytes _ => bytes
  | .frame body _ _ => 123 :: body ++ [125]

def frame? : SpiSegment → Option (List UInt8)
  | .noise _ _ => none
  | .frame body _ _ => some (123 :: body ++ [125])

end SpiSegment

namespace SpiAssembler

/-! ### Clean streams -/

theorem head?_zero : (Buffer.zero 50).bytes.head? ≠ some 123 := by decide

theorem receive_noise {c : UInt8} (hc : c ≠ 123) : receive init c = some (init, []) := by
  have hmark : init.mark c = init := by
    rw [mark, if_neg hc]
    split <;> rfl
  have hfinish : init.finish c = some (init, []) := by
    rw [finish, if_neg]
    rintro ⟨_, hhead⟩
    exact head?_zero hhead
  rw [receive, hmark, hfinish]
  rfl

theorem run_noise {bytes : List UInt8} (h : 123 ∉ bytes) :
    Runs.run receive init bytes = some (init, []) := by
  induction bytes with
  | nil => rfl
  | cons c bytes ih =>
      rw [List.mem_cons, not_or] at h
      rw [Runs.run, receive_noise fun heq => h.1 heq.symm, Option.bind_some, ih h.2]
      rfl

/-- From noise and frames, the frames are handed over, in order and each as it stands. -/
theorem handed_eq_frames (segments : List SpiSegment) :
    Runs.run receive init (segments.flatMap SpiSegment.bytes) =
      some (init, segments.filterMap SpiSegment.frame?) := by
  induction segments with
  | nil => rfl
  | cons segment segments ih =>
      rw [List.flatMap_cons, Runs.run_append]
      cases segment with
      | noise bytes h =>
          rw [SpiSegment.bytes, run_noise h, Option.bind_some, ih]
          rfl
      | frame body hbody hlen =>
          rw [SpiSegment.bytes, receive_frame hbody hlen, Option.bind_some, ih]
          rfl

/-! ### After a reset inside a frame -/

/-- The assembler has lost the start of its buffer: the byte there is no brace, and `ka` is past it. -/
structure Strayed (assembler : SpiAssembler) (recording : Bool) (n : ℕ) : Prop where
  flag1 : assembler.flag1 = if recording then 1 else 0
  ka : assembler.ka = n
  pos : 0 < n
  le : n ≤ 50
  head : assembler.msgReceive1.bytes.head? ≠ some 123

/-- What a strayed assembler keeps: from a brace on every byte, up to the next reset, but `a` and `b`. -/
def recorded : Bool → List UInt8 → List UInt8
  | _, [] => []
  | recording, c :: bytes =>
      if c = 46 then recorded false bytes
      else if recording = true ∨ c = 123 then
        if c = 97 ∨ c = 98 then recorded true bytes else c :: recorded true bytes
      else recorded false bytes

theorem Collects.receive_dot {assembler : SpiAssembler} {part : List UInt8}
    (h : assembler.Collects (123 :: part)) :
    ∃ next, receive assembler 46 = some (next, []) ∧ next.Strayed false (part.length + 1) := by
  refine ⟨{ assembler with flag1 := 0, msgReceive1 := Buffer.zero 50 }, ?_, ?_⟩
  · simp [receive, mark, finish, keep]
  · exact ⟨rfl, h.ka, Nat.succ_pos _, h.filled.length_le, head?_zero⟩

theorem Strayed.receive_dot {assembler : SpiAssembler} {recording : Bool} {n : ℕ}
    (h : assembler.Strayed recording n) :
    ∃ next, receive assembler 46 = some (next, []) ∧ next.Strayed false n := by
  refine ⟨{ assembler with flag1 := 0, msgReceive1 := Buffer.zero 50 }, ?_, ?_⟩
  · simp [receive, mark, finish, keep]
  · exact ⟨rfl, h.ka, h.pos, h.le, head?_zero⟩

/-- A byte other than the reset: no frame is ended, whatever the byte is. -/
theorem Strayed.receive_eq_keep {assembler : SpiAssembler} {recording : Bool} {n : ℕ}
    (h : assembler.Strayed recording n) {c : UInt8} (hdot : c ≠ 46) :
    ∃ marked : SpiAssembler, receive assembler c = (marked.keep c).map (fun next => (next, [])) ∧
      marked.Strayed (recording || c == 123) n := by
  refine ⟨assembler.mark c, ?_, ?_⟩
  · have hhead : (assembler.mark c).msgReceive1.bytes.head? ≠ some 123 := by
      rw [mark, if_neg hdot]
      split <;> exact h.head
    rw [receive, finish, if_neg fun hend => hhead hend.2]
    rfl
  · rw [mark, if_neg hdot]
    split
    · rename_i hopen
      exact ⟨by simp [hopen], h.ka, h.pos, h.le, h.head⟩
    · rename_i hopen
      refine ⟨?_, h.ka, h.pos, h.le, h.head⟩
      rw [h.flag1]
      simp [hopen]

theorem Strayed.keep {assembler : SpiAssembler} {n : ℕ} (h : assembler.Strayed true n) {c : UInt8}
    (hdot : c ≠ 46) (hc : ¬(c = 97 ∨ c = 98)) :
    if n < 50 then ∃ next, assembler.keep c = some next ∧ next.Strayed true (n + 1)
    else assembler.keep c = none := by
  rw [not_or] at hc
  have hkeep : assembler.keep c = (assembler.msgReceive1.write n [c]).map fun buffer =>
      { assembler with msgReceive1 := buffer, ka := n + 1 } := by
    rw [SpiAssembler.keep, if_pos ⟨h.flag1, hdot, hc.1, hc.2⟩, h.ka]
  rw [hkeep]
  split
  · rename_i hlt
    obtain ⟨buffer, hbuffer, hbytes⟩ := assembler.msgReceive1.exists_write n [c] hlt
    refine ⟨{ assembler with msgReceive1 := buffer, ka := n + 1 }, ?_, ?_⟩
    · rw [hbuffer]
      rfl
    · refine ⟨h.flag1, rfl, Nat.succ_pos n, hlt, ?_⟩
      show buffer.bytes.head? ≠ some 123
      rw [hbytes, head?_overlay h.pos (assembler.msgReceive1.bytes_ne_nil (by decide))]
      exact h.head
  · rename_i hge
    rw [Buffer.write_eq_none _ (by rw [List.length_singleton]; omega)]
    rfl

/-- A strayed assembler hands nothing over, and runs as long as what it keeps fits. -/
theorem Strayed.run {assembler : SpiAssembler} {recording : Bool} {n : ℕ}
    (h : assembler.Strayed recording n) (bytes : List UInt8) :
    if n + (recorded recording bytes).length ≤ 50 then
      ∃ next, (∃ recording' n', next.Strayed recording' n') ∧
        Runs.run receive assembler bytes = some (next, [])
    else Runs.run receive assembler bytes = none := by
  induction bytes generalizing assembler recording n with
  | nil =>
      have hle : n + (recorded recording []).length ≤ 50 := h.le
      rw [if_pos hle]
      exact ⟨assembler, ⟨_, _, h⟩, rfl⟩
  | cons c bytes ih =>
      by_cases hdot : c = 46
      · subst hdot
        obtain ⟨next, hnext, hstrayed⟩ := h.receive_dot
        rw [Runs.run, hnext]
        simpa [recorded] using ih hstrayed
      · obtain ⟨marked, hreceive, hmarked⟩ := h.receive_eq_keep hdot
        rw [Runs.run, hreceive]
        by_cases hon : recording = true ∨ c = 123
        · have hrecording : (recording || c == 123) = true := by simpa using hon
          rw [hrecording] at hmarked
          by_cases hc : c = 97 ∨ c = 98
          · have hkeep : marked.keep c = some marked := by
              rw [SpiAssembler.keep, if_neg]
              rintro ⟨_, _, ha, hb⟩
              exact hc.elim ha hb
            rw [hkeep]
            simpa [recorded, hdot, hon, hc] using ih hmarked
          · have hkeep := hmarked.keep hdot hc
            simp only [recorded, hdot, hon, hc, if_true, if_false, List.length_cons]
            by_cases hlt : n < 50
            · rw [if_pos hlt] at hkeep
              obtain ⟨next, hnext, hstrayed⟩ := hkeep
              rw [hnext]
              simpa [Nat.add_assoc, Nat.add_comm 1] using ih hstrayed
            · rw [if_neg hlt] at hkeep
              rw [if_neg (by omega), hkeep]
              rfl
        · have hrecording : (recording || c == 123) = false := by simpa using hon
          rw [hrecording] at hmarked
          have hkeep : marked.keep c = some marked := by
            rw [SpiAssembler.keep, if_neg]
            rintro ⟨hflag, _⟩
            rw [hmarked.flag1] at hflag
            exact absurd hflag (by decide)
          rw [hkeep]
          simpa [recorded, hdot, hon] using ih hmarked

/-! ### Any stream -/

/-- Every stream taken apart from its front: noise, a frame, and at the end a frame that is not
finished, or one that a reset cuts and whatever follows. -/
theorem stream_induction {motive : List UInt8 → Prop} (nil : motive [])
    (noise : ∀ c rest, c ≠ 123 → motive rest → motive (c :: rest))
    (frame : ∀ inside rest, 125 ∉ inside → 46 ∉ inside → motive rest →
      motive (123 :: inside ++ 125 :: rest))
    (unfinished : ∀ inside, 125 ∉ inside → 46 ∉ inside → motive (123 :: inside))
    (cut : ∀ inside rest, 125 ∉ inside → 46 ∉ inside → motive (123 :: inside ++ 46 :: rest))
    (stream : List UInt8) : motive stream := by
  induction hn : stream.length using Nat.strong_induction_on generalizing stream with
  | h n ih =>
      subst hn
      cases stream with
      | nil => exact nil
      | cons c rest =>
          by_cases hc : c = 123
          swap
          · exact noise c rest hc (ih rest.length (Nat.lt_succ_self _) rest rfl)
          subst hc
          have hsplit := rest.takeWhile_append_dropWhile (p := fun b => b ≠ 125 ∧ b ≠ 46)
          have hinside : ∀ b ∈ rest.takeWhile (fun b => b ≠ 125 ∧ b ≠ 46), b ≠ 125 ∧ b ≠ 46 := by
            intro b hb
            simpa using List.mem_takeWhile_imp hb
          generalize rest.takeWhile (fun b => b ≠ 125 ∧ b ≠ 46) = inside at hsplit hinside
          have hclose : 125 ∉ inside := fun hmem => (hinside 125 hmem).1 rfl
          have hdot : 46 ∉ inside := fun hmem => (hinside 46 hmem).2 rfl
          cases hrest : rest.dropWhile (fun b => b ≠ 125 ∧ b ≠ 46) with
          | nil =>
              rw [hrest, List.append_nil] at hsplit
              rw [← hsplit]
              exact unfinished inside hclose hdot
          | cons d after =>
              have hend := List.head?_dropWhile_not (fun b => b ≠ 125 ∧ b ≠ 46) rest
              rw [hrest] at hsplit hend
              rw [← hsplit]
              by_cases hd : d = 125
              · subst hd
                refine frame inside after hclose hdot (ih after.length ?_ after rfl)
                rw [← hsplit]
                simp only [List.length_cons, List.length_append]
                omega
              · have hd' : d = 46 := by simpa [hd] using hend
                subst hd'
                exact cut inside after hclose hdot

/-- A stream of noise and frames that fit, and an end of some kind. -/
inductive Framed (Ending : List UInt8 → Prop) : List UInt8 → Prop where
  | ending {rest : List UInt8} : Ending rest → Framed Ending rest
  | noise {c : UInt8} {rest : List UInt8} : c ≠ 123 → Framed Ending rest → Framed Ending (c :: rest)
  | frame {inside rest : List UInt8} : 125 ∉ inside → 46 ∉ inside → Fits (kept inside) →
      Framed Ending rest → Framed Ending (123 :: inside ++ 125 :: rest)

theorem run_noise_cons {c : UInt8} (hc : c ≠ 123) (rest : List UInt8) :
    Runs.run receive init (c :: rest) = Runs.run receive init rest := by
  rw [Runs.run, receive_noise hc]
  simp

theorem run_frame_append {inside : List UInt8} (hclose : 125 ∉ inside) (hdot : 46 ∉ inside)
    (rest : List UInt8) :
    Runs.run receive init (123 :: inside ++ 125 :: rest) =
      if Fits (kept inside) then
        (Runs.run receive init rest).map fun result =>
          (result.1, textOf (123 :: kept inside ++ [125]) :: result.2)
      else none := by
  have hsplit : 123 :: inside ++ 125 :: rest = (123 :: inside ++ [125]) ++ rest := by simp
  rw [hsplit, Runs.run_append, run_frame hclose hdot]
  split <;> rfl

theorem run_cut {inside : List UInt8} (hclose : 125 ∉ inside) (hdot : 46 ∉ inside)
    (rest : List UInt8) :
    if (kept inside).length + 1 + (recorded false rest).length ≤ 50 then
      ∃ next, (∃ recording n, next.Strayed recording n) ∧
        Runs.run receive init (123 :: inside ++ 46 :: rest) = some (next, [])
    else Runs.run receive init (123 :: inside ++ 46 :: rest) = none := by
  have hopened := run_opened hclose hdot
  rw [Runs.run_append]
  by_cases hle : (kept inside).length ≤ 49
  · rw [if_pos hle] at hopened
    obtain ⟨collected, hcollected, hcollects⟩ := hopened
    obtain ⟨strayed, hdropped, hstrayed⟩ := hcollects.receive_dot
    have hrun := hstrayed.run rest
    rw [hcollected, Option.bind_some, Runs.run, hdropped]
    simpa using hrun
  · rw [if_neg hle] at hopened
    rw [if_neg (by omega), hopened]
    rfl

/-- Received up to a reset, the stream leaves the assembler as at start-up, so that whatever follows
is handed over as from there. -/
def Resynchronises (stream : List UInt8) : Prop :=
  ∃ out, Runs.run receive init (stream ++ [46]) = some (init, out) ∧
    ∀ later, Runs.run receive init (stream ++ [46] ++ later) =
      (Runs.run receive init later).map fun result => (result.1, out ++ result.2)

theorem resynchronises_of_run {stream : List UInt8} {out : List (List UInt8)}
    (h : Runs.run receive init (stream ++ [46]) = some (init, out)) : Resynchronises stream := by
  refine ⟨out, h, fun later => ?_⟩
  rw [Runs.run_append, h]
  rfl

theorem exists_run_of_framed {stream : List UInt8} (h : Framed (· = []) stream) :
    ∃ out, Runs.run receive init stream = some (init, out) := by
  induction h with
  | ending hnil =>
      rw [hnil]
      exact ⟨[], rfl⟩
  | noise hc _ ih =>
      rw [run_noise_cons hc]
      exact ih
  | frame hclose hdot hfit _ ih =>
      obtain ⟨out, hout⟩ := ih
      rw [run_frame_append hclose hdot, if_pos hfit, hout]
      exact ⟨_, rfl⟩

theorem not_strayed_init {recording : Bool} {n : ℕ} : ¬init.Strayed recording n := by
  intro h
  have hka := h.ka
  have hpos := h.pos
  rw [show init.ka = 0 from rfl] at hka
  omega

theorem framed_of_run {stream : List UInt8} {out : List (List UInt8)}
    (h : Runs.run receive init (stream ++ [46]) = some (init, out)) : Framed (· = []) stream := by
  induction stream using stream_induction generalizing out with
  | nil => exact Framed.ending rfl
  | noise c rest hc ih =>
      rw [List.cons_append, run_noise_cons hc] at h
      exact Framed.noise hc (ih h)
  | frame inside rest hclose hdot ih =>
      have hsplit : 123 :: inside ++ 125 :: rest ++ [46] = 123 :: inside ++ 125 :: (rest ++ [46]) := by
        simp
      rw [hsplit, run_frame_append hclose hdot] at h
      split at h
      · rename_i hfit
        obtain ⟨⟨assembler, handed⟩, hresult, heq⟩ := Option.map_eq_some_iff.mp h
        obtain rfl : assembler = init := congrArg Prod.fst heq
        exact Framed.frame hclose hdot hfit (ih hresult)
      · exact absurd h (by simp)
  | unfinished inside hclose hdot =>
      have hcut := run_cut hclose hdot []
      split at hcut
      · obtain ⟨next, ⟨recording, n, hstrayed⟩, hnext⟩ := hcut
        obtain rfl : next = init := congrArg Prod.fst (Option.some.inj (hnext.symm.trans h))
        exact absurd hstrayed not_strayed_init
      · exact absurd (hcut.symm.trans h) (by simp)
  | cut inside rest hclose hdot =>
      have hcut := run_cut hclose hdot (rest ++ [46])
      have hsplit : 123 :: inside ++ 46 :: rest ++ [46] = 123 :: inside ++ 46 :: (rest ++ [46]) := by
        simp
      rw [hsplit] at h
      split at hcut
      · obtain ⟨next, ⟨recording, n, hstrayed⟩, hnext⟩ := hcut
        obtain rfl : next = init := congrArg Prod.fst (Option.some.inj (hnext.symm.trans h))
        exact absurd hstrayed not_strayed_init
      · exact absurd (hcut.symm.trans h) (by simp)

/-- A reset byte brings the assembler back exactly when it comes outside of a frame and every frame
before it was completed and fitted. -/
theorem resynchronises_iff (stream : List UInt8) :
    Resynchronises stream ↔ Framed (· = []) stream := by
  constructor
  · rintro ⟨out, hout, _⟩
    exact framed_of_run hout
  · intro h
    obtain ⟨out, hout⟩ := exists_run_of_framed h
    have hreset : receive init 46 = some (init, []) := receive_noise (by decide)
    exact resynchronises_of_run (Runs.run_snoc_eq_some.mpr ⟨_, _, hout, hreset, rfl⟩)

/-- After the one byte `{`, the reset leaves `ka` at one. -/
theorem not_resynchronises : ¬∀ stream, Resynchronises stream := by
  intro h
  obtain ⟨out, hout, _⟩ := h [123]
  have hka : (Runs.run receive init ([123] ++ [46])).map (fun result => result.1.ka) = some 1 := by
    decide
  rw [hout] at hka
  exact absurd hka (by simp [init])

/-! ### The bounds of the buffer -/

/-- At a closing brace: `msgReceive1[ka]` is written inside the array, and the array that is handed to the
parser has a NUL in it. -/
def EndsInBounds (assembler : SpiAssembler) (c : UInt8) : Prop :=
  c = 125 ∧ assembler.msgReceive1.bytes.head? = some 123 →
    assembler.ka < 50 ∧
      ∀ buffer, assembler.msgReceive1.write assembler.ka [c] = some buffer → 0 ∈ buffer.bytes

/-- At a byte that is kept: `msgReceive1[ka]` is written inside the array. -/
def KeepsInBounds (assembler : SpiAssembler) (c : UInt8) : Prop :=
  assembler.flag1 = 1 ∧ c ≠ 46 ∧ c ≠ 97 ∧ c ≠ 98 → assembler.ka < 50

/-- The same for the two writes of an iteration. -/
def InBounds (assembler : SpiAssembler) (c : UInt8) : Prop :=
  (assembler.mark c).EndsInBounds c ∧
    ∀ finished, (assembler.mark c).finish c = some finished → finished.1.KeepsInBounds c

theorem isSome_write (buffer : Buffer 50) (n : ℕ) (c : UInt8) :
    (buffer.write n [c]).isSome ↔ n < 50 := by
  by_cases hn : n < 50
  · obtain ⟨result, hresult, _⟩ := buffer.exists_write n [c] hn
    simp [hresult, hn]
  · rw [Buffer.write_eq_none _ (by rw [List.length_singleton]; omega)]
    simp [hn]

theorem isSome_finish (assembler : SpiAssembler) (c : UInt8) :
    (assembler.finish c).isSome ↔ assembler.EndsInBounds c := by
  unfold finish EndsInBounds
  split
  swap
  · rename_i hend
    simp [hend]
  rename_i hend
  have hwrite := isSome_write assembler.msgReceive1 assembler.ka c
  cases hbuffer : assembler.msgReceive1.write assembler.ka [c] with
  | none =>
      rw [hbuffer] at hwrite
      have hnot : ¬assembler.ka < 50 := fun hlt => absurd (hwrite.mpr hlt) (by simp)
      simp [hend, hnot]
  | some buffer =>
      rw [hbuffer] at hwrite
      have hlt : assembler.ka < 50 := hwrite.mp rfl
      by_cases hzero : 0 ∈ buffer.bytes
      · simp [hlt, hzero, cString_eq_ite]
      · simp [hlt, hzero, cString_eq_ite, hend]

theorem isSome_keep (assembler : SpiAssembler) (c : UInt8) :
    (assembler.keep c).isSome ↔ assembler.KeepsInBounds c := by
  unfold keep KeepsInBounds
  split
  · rename_i hkeep
    rw [Option.isSome_map, isSome_write]
    exact ⟨fun hlt _ => hlt, fun h => h hkeep⟩
  · rename_i hkeep
    exact ⟨fun _ hall => absurd hall hkeep, fun _ => rfl⟩

theorem inBounds_iff (assembler : SpiAssembler) (c : UInt8) :
    InBounds assembler c ↔ (receive assembler c).isSome := by
  rw [InBounds, receive, ← isSome_finish]
  cases hfinish : (assembler.mark c).finish c with
  | none => simp
  | some finished => simp [isSome_keep]

/-- The end of a stream that the buffer holds: nothing, a frame that is not finished, or one that a
reset cuts, with all that is kept after it. -/
inductive Contained : List UInt8 → Prop where
  | nil : Contained []
  | unfinished {inside : List UInt8} : 125 ∉ inside → 46 ∉ inside → (kept inside).length ≤ 49 →
      Contained (123 :: inside)
  | cut {inside rest : List UInt8} : 125 ∉ inside → 46 ∉ inside →
      (kept inside).length + 1 + (recorded false rest).length ≤ 50 →
      Contained (123 :: inside ++ 46 :: rest)

theorem isSome_run_of_contained {stream : List UInt8} (h : Contained stream) :
    (Runs.run receive init stream).isSome := by
  cases h with
  | nil => rfl
  | unfinished hclose hdot hle =>
      have hopened := run_opened hclose hdot
      rw [if_pos hle] at hopened
      obtain ⟨next, hnext, _⟩ := hopened
      rw [hnext]
      rfl
  | @cut inside rest hclose hdot hle =>
      have hcut := run_cut hclose hdot rest
      rw [if_pos hle] at hcut
      obtain ⟨next, _, hnext⟩ := hcut
      rw [hnext]
      rfl

theorem isSome_run_of_framed {stream : List UInt8} (h : Framed Contained stream) :
    (Runs.run receive init stream).isSome := by
  induction h with
  | ending hend => exact isSome_run_of_contained hend
  | noise hc _ ih =>
      rw [run_noise_cons hc]
      exact ih
  | frame hclose hdot hfit _ ih =>
      rw [run_frame_append hclose hdot, if_pos hfit, Option.isSome_map]
      exact ih

theorem framed_of_isSome_run {stream : List UInt8} (h : (Runs.run receive init stream).isSome) :
    Framed Contained stream := by
  induction stream using stream_induction with
  | nil => exact Framed.ending Contained.nil
  | noise c rest hc ih =>
      rw [run_noise_cons hc] at h
      exact Framed.noise hc (ih h)
  | frame inside rest hclose hdot ih =>
      rw [run_frame_append hclose hdot] at h
      split at h
      · rename_i hfit
        rw [Option.isSome_map] at h
        exact Framed.frame hclose hdot hfit (ih h)
      · exact absurd h (by simp)
  | unfinished inside hclose hdot =>
      have hopened := run_opened hclose hdot
      split at hopened
      · rename_i hle
        exact Framed.ending (Contained.unfinished hclose hdot hle)
      · rw [hopened] at h
        exact absurd h (by simp)
  | cut inside rest hclose hdot =>
      have hcut := run_cut hclose hdot rest
      split at hcut
      · rename_i hle
        exact Framed.ending (Contained.cut hclose hdot hle)
      · rw [hcut] at h
        exact absurd h (by simp)

/-- Every write stays inside the buffer and every string handed over has its NUL exactly for the
streams of noise and fitting frames with a contained end. -/
theorem inBounds_iff_framed (stream : List UInt8) :
    Runs.Along receive InBounds init stream ↔ Framed Contained stream := by
  rw [Runs.along_iff_isSome inBounds_iff]
  exact ⟨framed_of_isSome_run, isSome_run_of_framed⟩

/-- Opening braces alone run over the end of the buffer. -/
theorem not_inBounds : ¬∀ stream, Runs.Along receive InBounds init stream := by
  intro h
  have hrun := (Runs.along_iff_isSome inBounds_iff init _).mp (h (123 :: List.replicate 50 123))
  have hopened := run_opened (show 125 ∉ List.replicate 50 (123 : UInt8) by decide)
    (show 46 ∉ List.replicate 50 (123 : UInt8) by decide)
  rw [if_neg (by decide)] at hopened
  rw [hopened] at hrun
  exact absurd hrun (by decide)

end SpiAssembler

end LinuxGateway
