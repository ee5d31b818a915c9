import Mathlib.Data.Finset.Basic
import Mathlib.Data.Int.Order.Basic

/-! The address scan of the I2C service (`scan_address` in `clientI2C.c`). The loop selects every
address and probes it, but a probe goes to the address that is in force, and a selection that fails
leaves the one before in force: the answer of a device is then taken for that of the next address. -/

namespace LinuxGateway

/-- The two calls that a scan probes with. -/
inductive Probe where
  | readByte
  | writeQuick
  deriving DecidableEq

/-- `(i >= 0x30 && i <= 0x37) || (i >= 0x50 && i <= 0x5F)`. -/
def probeKind (i : ℕ) : Probe :=
  if 0x30 ≤ i ∧ i ≤ 0x37 ∨ 0x50 ≤ i ∧ i ≤ 0x5F then .readByte else .writeQuick

/-- What the kernel and the devices answer during one scan: whether `ioctl(file, I2C_SLAVE, i)`
succeeds, and whether the probe of pass `i` is acknowledged if it goes to an address. -/
structure I2cBus where
  selectable : ℕ → Bool
  respond : ℕ → ℕ → Bool

/-- A bus on which the devices at some addresses acknowledge and other addresses cannot be selected. -/
def I2cBus.ofSets (acknowledging busy : Finset ℕ) : I2cBus where
  selectable i := i ∉ busy
  respond _ a := a ∈ acknowledging

inductive I2cAction where
  | select (i : ℕ) (succeeded : Bool)
  | probe (kind : Probe) (address : ℕ) (acknowledged : Bool)
  /-- `printf("Device don't Detected after scan\n")`. -/
  | notDetected
  deriving DecidableEq

/-- The globals that the scan works on, and the address that is in force for the open file. -/
structure I2cScanner where
  var : ℕ
  address : ℤ
  selected : ℕ
  deriving DecidableEq

namespace I2cScanner

/-- One pass of the loop: select `i`, probe, and take the answer for one from `i`. The second
component counts the answers in `flag`. -/
def scanPass (bus : I2cBus) (i : ℕ) (s : I2cScanner × ℕ) : (I2cScanner × ℕ) × List I2cAction :=
  let selected := if bus.selectable i then i else s.1.selected
  let res := bus.respond i selected
  ((if res then ({ s.1 with selected := selected, address := i }, s.2 + 1)
    else ({ s.1 with selected := selected }, s.2)),
    [.select i (bus.selectable i), .probe (probeKind i) selected res])

/-- The loop over the addresses that are left. -/
def scanLoop (bus : I2cBus) : List ℕ → I2cScanner × ℕ → (I2cScanner × ℕ) × List I2cAction
  | [], s => (s, [])
  | i :: is, s =>
      if s.1.var > 5 then (({ s.1 with var := 0 }, s.2), [.notDetected])
      else
        let first := scanPass bus i s
        let rest := scanLoop bus is first.1
        (rest.1, first.2 ++ rest.2)

/-- The result is the value that `scan_address` returns. -/
def scanAddress (bus : I2cBus) (s : I2cScanner) : (I2cScanner × ℤ) × List I2cAction :=
  let done := scanLoop bus (List.range 128) (s, 0)
  ((done.1.1, if done.1.2 ≠ 0 then done.1.1.address else 200), done.2)

/-! ### What a full scan does -/

/-- The address in force after the first `n` selections. -/
def inForce (bus : I2cBus) (selected : ℕ) : ℕ → ℕ
  | 0 => selected
  | n + 1 => if bus.selectable n then n else inForce bus selected n

/-- The probe of pass `i` is acknowledged. -/
def answered (bus : I2cBus) (selected : ℕ) (i : ℕ) : Bool :=
  bus.respond i (inForce bus selected (i + 1))

/-- The last of the first `n` passes whose probe is acknowledged. -/
def lastAnswered (bus : I2cBus) (selected : ℕ) : ℕ → Option ℕ
  | 0 => none
  | n + 1 => if answered bus selected n then some n else lastAnswered bus selected n

theorem lastAnswered_eq_some {bus : I2cBus} {selected n i : ℕ}
    (h : lastAnswered bus selected n = some i) :
    i < n ∧ answered bus selected i ∧ ∀ j, i < j → j < n → ¬answered bus selected j := by
  induction n with
  | zero => exact absurd h (by simp [lastAnswered])
  | succ n ih =>
      rw [lastAnswered] at h
      split at h
      · rename_i hanswered
        obtain rfl := Option.some.inj h
        exact ⟨Nat.lt_succ_self n, hanswered, fun j hlow hhigh => by omega⟩
      · rename_i hsilent
        obtain ⟨hlt, hanswered, hlast⟩ := ih h
        refine ⟨Nat.lt_succ_of_lt hlt, hanswered, fun j hlow hhigh => ?_⟩
        rcases Nat.lt_succ_iff_lt_or_eq.mp hhigh with hj | rfl
        · exact hlast j hlow hj
        · exact hsilent

theorem lastAnswered_eq_none_iff {bus : I2cBus} {selected n : ℕ} :
    lastAnswered bus selected n = none ↔ ∀ i < n, ¬answered bus selected i := by
  induction n with
  | zero => exact ⟨fun _ i hi => absurd hi (Nat.not_lt_zero i), fun _ => rfl⟩
  | succ n ih =>
      rw [Nat.forall_lt_succ_right, ← ih, lastAnswered]
      by_cases hanswered : answered bus selected n
      · simp [hanswered]
      · simp [hanswered]

/-- What pass `i` does to the bus. -/
def passActions (bus : I2cBus) (selected i : ℕ) : List I2cAction :=
  [.select i (bus.selectable i), .probe (probeKind i) (inForce bus selected (i + 1)) (answered bus selected i)]

theorem scanPass_var (bus : I2cBus) (i : ℕ) (s : I2cScanner × ℕ) :
    (scanPass bus i s).1.1.var = s.1.var := by
  cases hres : bus.respond i (if bus.selectable i then i else s.1.selected) <;> simp [scanPass, hres]

theorem scanLoop_append (bus : I2cBus) (is js : List ℕ) {s : I2cScanner × ℕ} (hvar : s.1.var ≤ 5) :
    scanLoop bus (is ++ js) s =
      ((scanLoop bus js (scanLoop bus is s).1).1,
        (scanLoop bus is s).2 ++ (scanLoop bus js (scanLoop bus is s).1).2) := by
  induction is generalizing s with
  | nil => rfl
  | cons i is ih =>
      have hpass : (scanPass bus i s).1.1.var ≤ 5 := by
        rw [scanPass_var]
        exact hvar
      simp only [List.cons_append, scanLoop, if_neg (Nat.not_lt.mpr hvar), ih hpass, List.append_assoc]

/-- The loop from a state in which it does not report: after `n` passes. -/
theorem scanLoop_range (bus : I2cBus) (n : ℕ) {s : I2cScanner} (hvar : s.var ≤ 5) :
    ∃ flag, scanLoop bus (List.range n) (s, 0) =
        (({ s with
            selected := inForce bus s.selected n
            address := ((lastAnswered bus s.selected n).map Int.ofNat).getD s.address }, flag),
          (List.range n).flatMap (passActions bus s.selected)) ∧
      (flag = 0 ↔ lastAnswered bus s.selected n = none) := by
  induction n with
  | zero => exact ⟨0, rfl, by simp [lastAnswered]⟩
  | succ n ih =>
      obtain ⟨flag, hloop, hflag⟩ := ih
      rw [List.range_succ, scanLoop_append bus _ _ hvar, hloop]
      have hone : ∀ t : I2cScanner × ℕ, t.1.var ≤ 5 → scanLoop bus [n] t = scanPass bus n t := by
        intro t ht
        simp only [scanLoop, if_neg (Nat.not_lt.mpr ht), List.append_nil]
      rw [hone _ hvar, scanPass, List.flatMap_append, List.flatMap_singleton]
      by_cases hanswered : answered bus s.selected n
      · refine ⟨flag + 1, ?_, by simp [lastAnswered, hanswered]⟩
        have hrespond := hanswered
        rw [answered, inForce] at hrespond
        simp only [hrespond, lastAnswered, if_true, inForce, passActions, answered,
          Option.map_some, Option.getD_some]
        rfl
      · refine ⟨flag, ?_, by simp [lastAnswered, hanswered, hflag]⟩
        have hrespond := hanswered
        rw [answered, inForce] at hrespond
        simp only [hrespond, lastAnswered, inForce, passActions, answered]
        rfl

/-- A full scan returns the last address whose probe was acknowledged. -/
theorem scanAddress_full (bus : I2cBus) {s : I2cScanner} (hvar : s.var ≤ 5) :
    scanAddress bus s =
      (({ s with
          selected := inForce bus s.selected 128
          address := ((lastAnswered bus s.selected 128).map Int.ofNat).getD s.address },
        ((lastAnswered bus s.selected 128).map Int.ofNat).getD 200),
        (List.range 128).flatMap (passActions bus s.selected)) := by
  obtain ⟨flag, hloop, hflag⟩ := scanLoop_range bus 128 hvar
  rw [scanAddress, hloop]
  cases hlast : lastAnswered bus s.selected 128 with
  | none => simp [hflag.mpr hlast]
  | some i =>
      have hne : flag ≠ 0 := fun h => absurd (hlast.symm.trans (hflag.mp h)) (by simp)
      simp [hne]

/-- Once `var` is above five, the first pass reports and ends the scan. -/
theorem scanAddress_report (bus : I2cBus) {s : I2cScanner} (hvar : 5 < s.var) :
    scanAddress bus s = (({ s with var := 0 }, 200), [.notDetected]) := by
  rw [scanAddress, List.range_eq_range', List.range'_succ, scanLoop, if_pos hvar]
  rfl

/-! ### Soundness -/

/-- A returned address was selected and acknowledged its probe in this scan, and the scan returns 200
if no address that can be selected acknowledges. -/
structure Sound (acknowledging busy : Finset ℕ) (scan : (I2cScanner × ℤ) × List I2cAction) : Prop where
  found : scan.1.2 < 128 → ∃ a : ℕ, scan.1.2 = a ∧ .select a true ∈ scan.2 ∧
    ∃ kind, .probe kind a true ∈ scan.2
  absent : (∀ a < 128, a ∉ busy → a ∉ acknowledging) → scan.1.2 = 200

/-- A device that a scan can find at an address. -/
def Present (acknowledging busy : Finset ℕ) (a : ℕ) : Prop := a < 128 ∧ a ∉ busy ∧ a ∈ acknowledging

/-- The address behind the last device that can be found can be selected, and where there is no device
the address in force before the scan is silent, or no longer in force at the first probe. -/
structure Unmistaken (acknowledging busy : Finset ℕ) (selected : ℕ) : Prop where
  behind : ∀ m, Present acknowledging busy m → (∀ a, Present acknowledging busy a → a ≤ m) →
    m + 1 < 128 → m + 1 ∉ busy
  before : (∀ a, ¬Present acknowledging busy a) → 0 ∈ busy → selected ∉ acknowledging

section Sets

variable (acknowledging busy : Finset ℕ) (selected : ℕ)

theorem answered_ofSets (i : ℕ) :
    answered (.ofSets acknowledging busy) selected i ↔
      inForce (.ofSets acknowledging busy) selected (i + 1) ∈ acknowledging := by
  rw [answered]
  exact decide_eq_true_iff

theorem inForce_of_notMem {n : ℕ} (h : n ∉ busy) :
    inForce (.ofSets acknowledging busy) selected (n + 1) = n := by
  rw [inForce]
  exact if_pos (decide_eq_true h)

theorem inForce_of_mem {n : ℕ} (h : n ∈ busy) :
    inForce (.ofSets acknowledging busy) selected (n + 1) =
      inForce (.ofSets acknowledging busy) selected n := by
  rw [inForce]
  exact if_neg fun hfree => absurd h (of_decide_eq_true hfree)

/-- In force is the last address that could be selected, or the one from before the scan. -/
theorem inForce_cases (n : ℕ) :
    (inForce (.ofSets acknowledging busy) selected n = selected ∧ ∀ j < n, j ∈ busy) ∨
      ∃ last < n, inForce (.ofSets acknowledging busy) selected n = last ∧ last ∉ busy ∧
        ∀ j, last < j → j < n → j ∈ busy := by
  induction n with
  | zero => exact Or.inl ⟨rfl, fun j hj => absurd hj (Nat.not_lt_zero j)⟩
  | succ n ih =>
      by_cases hbusy : n ∈ busy
      · rw [inForce_of_mem acknowledging busy selected hbusy]
        rcases ih with ⟨hforce, hall⟩ | ⟨last, hlt, hforce, hfree, hall⟩
        · left
          refine ⟨hforce, fun j hj => ?_⟩
          rcases Nat.lt_succ_iff_lt_or_eq.mp hj with hj | rfl
          · exact hall j hj
          · exact hbusy
        · right
          refine ⟨last, Nat.lt_succ_of_lt hlt, hforce, hfree, fun j hlow hhigh => ?_⟩
          rcases Nat.lt_succ_iff_lt_or_eq.mp hhigh with hj | rfl
          · exact hall j hlow hj
          · exact hbusy
      · right
        refine ⟨n, Nat.lt_succ_self n, inForce_of_notMem acknowledging busy selected hbusy, hbusy, ?_⟩
        intro j hlow hhigh
        omega

variable {acknowledging busy selected}

/-- A device that can be found answers its own probe. -/
theorem Present.answered {a : ℕ} (h : Present acknowledging busy a) :
    answered (.ofSets acknowledging busy) selected a := by
  rw [answered_ofSets, inForce_of_notMem acknowledging busy selected h.2.1]
  exact h.2.2

/-- Where no answer is mistaken, the last one comes from the address that was probed. -/
theorem Unmistaken.present_of_last (h : Unmistaken acknowledging busy selected) {i : ℕ}
    (hlast : lastAnswered (.ofSets acknowledging busy) selected 128 = some i) :
    Present acknowledging busy i := by
  obtain ⟨hlt, hanswered, hsilent⟩ := lastAnswered_eq_some hlast
  rw [answered_ofSets] at hanswered
  -- a device behind the last answer would have answered itself
  have hbehind : ∀ a, Present acknowledging busy a → a ≤ i := by
    intro a ha
    by_contra hgt
    exact hsilent a (Nat.lt_of_not_le hgt) ha.1 ha.answered
  rcases inForce_cases acknowledging busy selected (i + 1) with ⟨hforce, hall⟩ |
    ⟨last, hlastLt, hforce, hfree, hall⟩
  · rw [hforce] at hanswered
    have hnone : ∀ a, ¬Present acknowledging busy a := by
      intro a ha
      exact ha.2.1 (hall a (Nat.lt_succ_of_le (hbehind a ha)))
    exact absurd hanswered (h.before hnone (hall 0 (Nat.succ_pos i)))
  · rw [hforce] at hanswered
    have hpresent : Present acknowledging busy last := ⟨by omega, hfree, hanswered⟩
    rcases Nat.lt_or_ge last i with hbefore | hsame
    · have hmax : ∀ a, Present acknowledging busy a → a ≤ last := by
        intro a ha
        by_contra hgt
        exact ha.2.1 (hall a (Nat.lt_of_not_le hgt) (Nat.lt_succ_of_le (hbehind a ha)))
      exact absurd (hall (last + 1) (Nat.lt_succ_self last) (by omega))
        (h.behind last hpresent hmax (by omega))
    · rwa [show last = i by omega] at hpresent

theorem mem_actions_of_present (start : ℕ) {i : ℕ} (h : Present acknowledging busy i) :
    I2cAction.select i true ∈
        (List.range 128).flatMap (passActions (.ofSets acknowledging busy) start) ∧
      I2cAction.probe (probeKind i) i true ∈
        (List.range 128).flatMap (passActions (.ofSets acknowledging busy) start) := by
  have hanswered : answered (.ofSets acknowledging busy) start i = true := h.answered
  have hselects : (I2cBus.ofSets acknowledging busy).selectable i = true := decide_eq_true h.2.1
  have hpass : passActions (.ofSets acknowledging busy) start i =
      [.select i true, .probe (probeKind i) i true] := by
    rw [passActions, inForce_of_notMem acknowledging busy start h.2.1, hanswered, hselects]
  have hmem : i ∈ List.range 128 := List.mem_range.mpr h.1
  constructor
  · exact List.mem_flatMap.mpr ⟨i, hmem, by rw [hpass]; exact List.mem_cons_self⟩
  · exact List.mem_flatMap.mpr ⟨i, hmem, by rw [hpass]; simp⟩

/-- Only an address that can be selected is selected. -/
theorem notMem_of_select {i : ℕ} (h : I2cAction.select i true ∈
    (List.range 128).flatMap (passActions (.ofSets acknowledging busy) selected)) : i ∉ busy := by
  obtain ⟨j, _, hj⟩ := List.mem_flatMap.mp h
  simp only [passActions, List.mem_cons, I2cAction.select.injEq, reduceCtorEq, List.not_mem_nil,
    or_false] at hj
  obtain ⟨rfl, hselects⟩ := hj
  exact of_decide_eq_true hselects.symm

end Sets

/-- What a full scan returns is below 128 exactly when some probe was acknowledged. -/
theorem full_result (bus : I2cBus) {s : I2cScanner} (hvar : s.var ≤ 5) :
    (lastAnswered bus s.selected 128 = none ∧ (scanAddress bus s).1.2 = 200) ∨
      ∃ i < 128, lastAnswered bus s.selected 128 = some i ∧ (scanAddress bus s).1.2 = i := by
  rw [scanAddress_full bus hvar]
  cases hlast : lastAnswered bus s.selected 128 with
  | none => exact Or.inl ⟨rfl, rfl⟩
  | some i => exact Or.inr ⟨i, (lastAnswered_eq_some hlast).1, rfl, rfl⟩

section FullScan

variable {acknowledging busy : Finset ℕ} {s : I2cScanner} (hvar : s.var ≤ 5)

include hvar

/-- Behind an acknowledged probe a sound scan has a device to return. -/
theorem Sound.exists_present (h : Sound acknowledging busy (scanAddress (.ofSets acknowledging busy) s))
    {j : ℕ} (hj : j < 128) (hanswered : answered (.ofSets acknowledging busy) s.selected j) :
    ∃ i, j ≤ i ∧ Present acknowledging busy i := by
  have hactions := congrArg Prod.snd (scanAddress_full (.ofSets acknowledging busy) hvar)
  rcases full_result (.ofSets acknowledging busy) hvar with ⟨hnone, _⟩ | ⟨i, hi, hlast, hresult⟩
  · exact absurd hanswered (lastAnswered_eq_none_iff.mp hnone j hj)
  · obtain ⟨_, hanswers, hsilent⟩ := lastAnswered_eq_some hlast
    obtain ⟨a, ha, hselect, _⟩ := h.found (by rw [hresult]; exact_mod_cast hi)
    obtain rfl : i = a := by exact_mod_cast hresult.symm.trans ha
    have hfree : i ∉ busy := notMem_of_select (hactions ▸ hselect)
    rw [answered_ofSets, inForce_of_notMem acknowledging busy s.selected hfree] at hanswers
    refine ⟨i, ?_, hi, hfree, hanswers⟩
    by_contra hlt
    exact hsilent j (Nat.lt_of_not_le hlt) hj hanswered

theorem Sound.unmistaken (h : Sound acknowledging busy (scanAddress (.ofSets acknowledging busy) s)) :
    Unmistaken acknowledging busy s.selected := by
  constructor
  · intro m hm hmax hlt hbusy
    have hanswered : answered (.ofSets acknowledging busy) s.selected (m + 1) := by
      rw [answered_ofSets, inForce_of_mem acknowledging busy s.selected hbusy,
        inForce_of_notMem acknowledging busy s.selected hm.2.1]
      exact hm.2.2
    obtain ⟨i, hle, hi⟩ := h.exists_present hvar hlt hanswered
    exact absurd (hmax i hi) (by omega)
  · intro hnone hbusy hacknowledges
    have hanswered : answered (.ofSets acknowledging busy) s.selected 0 := by
      rw [answered_ofSets, inForce_of_mem acknowledging busy s.selected hbusy]
      exact hacknowledges
    obtain ⟨i, _, hi⟩ := h.exists_present hvar (by decide) hanswered
    exact hnone i hi

theorem Unmistaken.sound (h : Unmistaken acknowledging busy s.selected) :
    Sound acknowledging busy (scanAddress (.ofSets acknowledging busy) s) := by
  have hactions := congrArg Prod.snd (scanAddress_full (.ofSets acknowledging busy) hvar)
  rcases full_result (.ofSets acknowledging busy) hvar with ⟨_, hresult⟩ | ⟨i, _, hlast, hresult⟩
  · exact ⟨fun hlt => absurd (hresult ▸ hlt) (by decide), fun _ => hresult⟩
  · have hpresent := h.present_of_last hlast
    obtain ⟨hselect, hprobe⟩ := mem_actions_of_present s.selected hpresent
    refine ⟨fun _ => ⟨i, hresult, ?_, probeKind i, ?_⟩, fun hnone => ?_⟩
    · rw [hactions]
      exact hselect
    · rw [hactions]
      exact hprobe
    · exact absurd hpresent.2.2 (hnone i hpresent.1 hpresent.2.1)

end FullScan

/-- On every bus, what `scan_address` returns is right if and only if it reports at once or no answer
of the bus is mistaken for that of another address. -/
theorem scanAddress_sound_iff (acknowledging busy : Finset ℕ) (s : I2cScanner) :
    Sound acknowledging busy (scanAddress (.ofSets acknowledging busy) s) ↔
      5 < s.var ∨ Unmistaken acknowledging busy s.selected := by
  by_cases hvar : 5 < s.var
  · rw [scanAddress_report _ hvar]
    exact iff_of_true ⟨fun hlt => absurd hlt (show ¬(200 : ℤ) < 128 by decide), fun _ => rfl⟩
      (Or.inl hvar)
  · rw [or_iff_right hvar]
    exact ⟨Sound.unmistaken (Nat.le_of_not_lt hvar), Unmistaken.sound (Nat.le_of_not_lt hvar)⟩

/-- One device at address 16, and address 17 taken by a driver. -/
theorem scanAddress_mistaken :
    ¬∀ (acknowledging busy : Finset ℕ) (s : I2cScanner),
      Sound acknowledging busy (scanAddress (.ofSets acknowledging busy) s) := by
  intro h
  have hresult : (scanAddress (.ofSets {16} {17}) ⟨1, -1, 0⟩).1.2 = 17 := by decide +kernel
  have hselect : I2cAction.select 17 true ∉ (scanAddress (.ofSets {16} {17}) ⟨1, -1, 0⟩).2 := by
    decide +kernel
  obtain ⟨a, ha, hmem, _⟩ := (h {16} {17} ⟨1, -1, 0⟩).found (by rw [hresult]; decide)
  obtain rfl : 17 = a := by exact_mod_cast hresult.symm.trans ha
  exact hselect hmem

end I2cScanner

end LinuxGateway
