import LinuxGateway.LibBytes

/-! The check of strings in the MQTT client library (`utf-8.c`): topics and client names go to the network
only when they are made of the byte sequences of the table `valid_ranges`. -/

namespace LinuxGateway.Paho

open Bytes

/-- The table `valid_ranges`, each row with the limits of its bytes. -/
def validRanges : List (List (UInt8 × UInt8)) :=
  [[(0x00, 0x7F)],
    [(0xC2, 0xDF), (0x80, 0xBF)],
    [(0xE0, 0xE0), (0xA0, 0xBF), (0x80, 0xBF)],
    [(0xE1, 0xEC), (0x80, 0xBF), (0x80, 0xBF)],
    [(0xED, 0xED), (0x80, 0x9F), (0x80, 0xBF)],
    [(0xEE, 0xEF), (0x80, 0xBF), (0x80, 0xBF)],
    [(0xF0, 0xF0), (0x90, 0xBF), (0x80, 0xBF), (0x80, 0xBF)],
    [(0xF1, 0xF3), (0x80, 0xBF), (0x80, 0xBF), (0x80, 0xBF)],
    [(0xF4, 0xF4), (0x80, 0x8F), (0x80, 0xBF), (0x80, 0xBF)]]

/-- How many bytes a character has by its first one. -/
def charlen (first : UInt8) : ℕ :=
  if first &&& 128 = 0 then 1
  else if first &&& 0xF0 = 0xF0 then 4
  else if first &&& 0xE0 = 0xE0 then 3
  else 2

/-- The inner loop of `UTF8_char_validate`, over as many bytes as the row has. -/
def inRow (row : List (UInt8 × UInt8)) (data : List UInt8) : Bool :=
  (row.zip data).all fun (limits, c) => decide (limits.1 ≤ c ∧ c ≤ limits.2)

/-- `UTF8_char_validate`: the data behind the first character, `none` for a null pointer. It is not called
without data. -/
def UTF8CharValidate : List UInt8 → Option (List UInt8)
  | [] => none
  | first :: rest =>
    let data := first :: rest
    if data.length < charlen first then none
    else if validRanges.any fun row => decide (row.length = charlen first) && inRow row data then
      some (data.drop (charlen first))
    else none

theorem charlen_pos (first : UInt8) : 0 < charlen first := by
  unfold charlen
  repeat' split
  all_goals decide

theorem length_lt_of_UTF8CharValidate {data rest : List UInt8} (h : UTF8CharValidate data = some rest) :
    rest.length < data.length := by
  cases data with
  | nil => exact nomatch h
  | cons first tail =>
      have hpos := charlen_pos first
      simp only [UTF8CharValidate] at h
      split at h
      · exact nomatch h
      · split at h
        · rw [← Option.some.inj h, List.length_drop, List.length_cons]
          omega
        · exact nomatch h

/-- `UTF8_validate`. -/
def UTF8Validate (data : List UInt8) : Bool :=
  if data = [] then true
  else
    match _h : UTF8CharValidate data with
    | none => false
    | some rest => UTF8Validate rest
termination_by data.length
decreasing_by exact length_lt_of_UTF8CharValidate _h

/-- `UTF8_validateString`, of a C string. -/
def UTF8ValidateString (string : List UInt8) : Bool := UTF8Validate (textOf string)

/-! ### Characters -/

/-- A character is a value below `0x110000` that is no surrogate. -/
theorem exists_char {v : ℕ} (h : v < 0xd800 ∨ 0xdfff < v ∧ v < 0x110000) : ∃ c : Char, c.val.toNat = v :=
  ⟨Char.ofNatAux v h, rfl⟩

theorem byte_eq {n : ℕ} {b : UInt8} (h : n = b.toNat) : UInt8.ofNat n = b := by
  rw [h, UInt8.ofNat_toNat]

theorem exists_char_one {b : UInt8} (h : b.toNat ≤ 0x7f) : ∃ c, String.utf8EncodeChar c = [b] := by
  obtain ⟨c, hc⟩ := exists_char (v := b.toNat) (by omega)
  refine ⟨c, ?_⟩
  rw [String.utf8EncodeChar]
  rw [hc, if_pos h, byte_eq rfl]

theorem exists_char_two {b₀ b₁ : UInt8} (h₀ : 0xc2 ≤ b₀.toNat ∧ b₀.toNat ≤ 0xdf)
    (h₁ : 0x80 ≤ b₁.toNat ∧ b₁.toNat ≤ 0xbf) : ∃ c, String.utf8EncodeChar c = [b₀, b₁] := by
  obtain ⟨c, hc⟩ := exists_char (v := (b₀.toNat - 0xc0) * 64 + (b₁.toNat - 0x80)) (by omega)
  refine ⟨c, ?_⟩
  rw [String.utf8EncodeChar]
  rw [hc, if_neg (by omega), if_pos (by omega), byte_eq (b := b₀) (by omega), byte_eq (b := b₁) (by omega)]

/-- The value is none that two bytes suffice for, and no surrogate. -/
theorem exists_char_three {b₀ b₁ b₂ : UInt8} (h₀ : 0xe0 ≤ b₀.toNat ∧ b₀.toNat ≤ 0xef)
    (h₁ : 0x80 ≤ b₁.toNat ∧ b₁.toNat ≤ 0xbf) (h₂ : 0x80 ≤ b₂.toNat ∧ b₂.toNat ≤ 0xbf)
    (hlong : b₀.toNat = 0xe0 → 0xa0 ≤ b₁.toNat) (hscalar : b₀.toNat = 0xed → b₁.toNat ≤ 0x9f) :
    ∃ c, String.utf8EncodeChar c = [b₀, b₁, b₂] := by
  obtain ⟨c, hc⟩ := exists_char
    (v := (b₀.toNat - 0xe0) * 4096 + (b₁.toNat - 0x80) * 64 + (b₂.toNat - 0x80)) (by omega)
  refine ⟨c, ?_⟩
  rw [String.utf8EncodeChar]
  rw [hc, if_neg (by omega), if_neg (by omega), if_pos (by omega), byte_eq (b := b₀) (by omega),
    byte_eq (b := b₁) (by omega), byte_eq (b := b₂) (by omega)]

/-- The value is none that three bytes suffice for, and below the limit. -/
theorem exists_char_four {b₀ b₁ b₂ b₃ : UInt8} (h₀ : 0xf0 ≤ b₀.toNat ∧ b₀.toNat ≤ 0xf4)
    (h₁ : 0x80 ≤ b₁.toNat ∧ b₁.toNat ≤ 0xbf) (h₂ : 0x80 ≤ b₂.toNat ∧ b₂.toNat ≤ 0xbf)
    (h₃ : 0x80 ≤ b₃.toNat ∧ b₃.toNat ≤ 0xbf) (hlong : b₀.toNat = 0xf0 → 0x90 ≤ b₁.toNat)
    (hlimit : b₀.toNat = 0xf4 → b₁.toNat ≤ 0x8f) : ∃ c, String.utf8EncodeChar c = [b₀, b₁, b₂, b₃] := by
  obtain ⟨c, hc⟩ := exists_char (v := (b₀.toNat - 0xf0) * 262144 + (b₁.toNat - 0x80) * 4096 +
    (b₂.toNat - 0x80) * 64 + (b₃.toNat - 0x80)) (by omega)
  refine ⟨c, ?_⟩
  rw [String.utf8EncodeChar]
  rw [hc, if_neg (by omega), if_neg (by omega), if_neg (by omega), byte_eq (b := b₀) (by omega),
    byte_eq (b := b₁) (by omega), byte_eq (b := b₂) (by omega), byte_eq (b := b₃) (by omega)]

/-! ### The rows of the table -/

theorem inRow_cons (limits : UInt8 × UInt8) (row : List (UInt8 × UInt8)) (c : UInt8) (data : List UInt8) :
    inRow (limits :: row) (c :: data) = true ↔
      (limits.1.toNat ≤ c.toNat ∧ c.toNat ≤ limits.2.toNat) ∧ inRow row data = true := by
  rw [inRow, List.zip_cons_cons, List.all_cons, Bool.and_eq_true, decide_eq_true_iff, UInt8.le_iff_toNat_le,
    UInt8.le_iff_toNat_le]
  rfl

theorem inRow_nil (data : List UInt8) : inRow [] data = true := rfl

/-- Some row of this length admits the data. -/
def Admitted (n : ℕ) (data : List UInt8) : Prop := ∃ row ∈ validRanges, row.length = n ∧ inRow row data = true

theorem admitted_one {b₀ : UInt8} {rest : List UInt8} : Admitted 1 (b₀ :: rest) ↔ b₀.toNat ≤ 0x7f := by
  simp [Admitted, validRanges, inRow_cons, inRow_nil]

theorem admitted_two {b₀ b₁ : UInt8} {rest : List UInt8} :
    Admitted 2 (b₀ :: b₁ :: rest) ↔
      (0xc2 ≤ b₀.toNat ∧ b₀.toNat ≤ 0xdf) ∧ 0x80 ≤ b₁.toNat ∧ b₁.toNat ≤ 0xbf := by
  simp [Admitted, validRanges, inRow_cons, inRow_nil]

theorem admitted_three {b₀ b₁ b₂ : UInt8} {rest : List UInt8} :
    Admitted 3 (b₀ :: b₁ :: b₂ :: rest) ↔
      (0xe0 ≤ b₀.toNat ∧ b₀.toNat ≤ 0xef) ∧ (0x80 ≤ b₁.toNat ∧ b₁.toNat ≤ 0xbf) ∧
        (0x80 ≤ b₂.toNat ∧ b₂.toNat ≤ 0xbf) ∧ (b₀.toNat = 0xe0 → 0xa0 ≤ b₁.toNat) ∧
        (b₀.toNat = 0xed → b₁.toNat ≤ 0x9f) := by
  simp [Admitted, validRanges, inRow_cons, inRow_nil]
  omega

theorem admitted_four {b₀ b₁ b₂ b₃ : UInt8} {rest : List UInt8} :
    Admitted 4 (b₀ :: b₁ :: b₂ :: b₃ :: rest) ↔
      (0xf0 ≤ b₀.toNat ∧ b₀.toNat ≤ 0xf4) ∧ (0x80 ≤ b₁.toNat ∧ b₁.toNat ≤ 0xbf) ∧
        (0x80 ≤ b₂.toNat ∧ b₂.toNat ≤ 0xbf) ∧ (0x80 ≤ b₃.toNat ∧ b₃.toNat ≤ 0xbf) ∧
        (b₀.toNat = 0xf0 → 0x90 ≤ b₁.toNat) ∧ (b₀.toNat = 0xf4 → b₁.toNat ≤ 0x8f) := by
  simp [Admitted, validRanges, inRow_cons, inRow_nil]
  omega

theorem charlen_eq (first : UInt8) :
    charlen first = if first.toNat ≤ 0x7f then 1 else if 0xf0 ≤ first.toNat then 4
      else if 0xe0 ≤ first.toNat then 3 else 2 := by
  have hall : ∀ n : Fin 256, charlen (UInt8.ofNat n) =
      if (UInt8.ofNat n).toNat ≤ 0x7f then 1 else if 0xf0 ≤ (UInt8.ofNat n).toNat then 4
        else if 0xe0 ≤ (UInt8.ofNat n).toNat then 3 else 2 := by decide +kernel
  have hfirst := hall ⟨first.toNat, first.toNat_lt⟩
  rwa [UInt8.ofNat_toNat] at hfirst

theorem UTF8CharValidate_eq_some {first : UInt8} {rest next : List UInt8} :
    UTF8CharValidate (first :: rest) = some next ↔
      charlen first ≤ (first :: rest).length ∧ Admitted (charlen first) (first :: rest) ∧
        next = (first :: rest).drop (charlen first) := by
  have hany : (validRanges.any fun row => decide (row.length = charlen first) && inRow row (first :: rest)) =
      true ↔ Admitted (charlen first) (first :: rest) := by
    simp [Admitted]
  unfold UTF8CharValidate
  dsimp only
  split
  · next hlt => exact ⟨fun h => (nomatch h), fun h => absurd h.1 (Nat.not_le.mpr hlt)⟩
  · next hle =>
      split
      · next hrow =>
          exact ⟨fun h => ⟨Nat.not_lt.mp hle, hany.mp hrow, (Option.some.inj h).symm⟩,
            fun h => congrArg some h.2.2.symm⟩
      · next hnot => exact ⟨fun h => (nomatch h), fun h => absurd (hany.mpr h.2.1) hnot⟩

/-- What is taken off is the encoding of a character. -/
theorem exists_char_of_UTF8CharValidate {data rest : List UInt8} (h : UTF8CharValidate data = some rest) :
    ∃ c, data = String.utf8EncodeChar c ++ rest := by
  cases data with
  | nil => exact nomatch h
  | cons b₀ data =>
      obtain ⟨hlen, hadmitted, rfl⟩ := UTF8CharValidate_eq_some.mp h
      suffices hchar : ∃ c, String.utf8EncodeChar c = (b₀ :: data).take (charlen b₀) by
        obtain ⟨c, hc⟩ := hchar
        exact ⟨c, by rw [hc, List.take_append_drop]⟩
      have hcases : charlen b₀ = 1 ∨ charlen b₀ = 2 ∨ charlen b₀ = 3 ∨ charlen b₀ = 4 := by
        rw [charlen_eq]
        repeat' split
        all_goals decide
      rcases hcases with hcase | hcase | hcase | hcase <;> rw [hcase] at hlen hadmitted ⊢
      · exact exists_char_one (admitted_one.mp hadmitted)
      · rcases data with _ | ⟨b₁, data⟩
        · simp at hlen
        · obtain ⟨h₀, h₁⟩ := admitted_two.mp hadmitted
          exact exists_char_two h₀ h₁
      · rcases data with _ | ⟨b₁, _ | ⟨b₂, data⟩⟩
        · simp at hlen
        · simp at hlen
        · obtain ⟨h₀, h₁, h₂, hlong, hscalar⟩ := admitted_three.mp hadmitted
          exact exists_char_three h₀ h₁ h₂ hlong hscalar
      · rcases data with _ | ⟨b₁, _ | ⟨b₂, _ | ⟨b₃, data⟩⟩⟩
        · simp at hlen
        · simp at hlen
        · simp at hlen
        · obtain ⟨h₀, h₁, h₂, h₃, hlong, hlimit⟩ := admitted_four.mp hadmitted
          exact exists_char_four h₀ h₁ h₂ h₃ hlong hlimit

theorem toNat_byte {n : ℕ} (h : n < 256) : (UInt8.ofNat n).toNat = n := by
  rw [UInt8.toNat_ofNat', Nat.mod_eq_of_lt h]

/-- The encoding of a character is taken off. -/
theorem UTF8CharValidate_utf8EncodeChar (c : Char) (rest : List UInt8) :
    UTF8CharValidate (String.utf8EncodeChar c ++ rest) = some rest := by
  have hvalid : c.val.toNat < 0xd800 ∨ 0xdfff < c.val.toNat ∧ c.val.toNat < 0x110000 := c.valid
  rw [String.utf8EncodeChar]
  generalize c.val.toNat = v at hvalid
  split
  · next hone =>
      have h₀ := toNat_byte (n := v) (by omega)
      have hlen : charlen (UInt8.ofNat v) = 1 := by rw [charlen_eq, h₀, if_pos hone]
      rw [List.cons_append, UTF8CharValidate_eq_some, hlen, List.nil_append, admitted_one, h₀]
      exact ⟨Nat.succ_le_succ (Nat.zero_le _), hone, rfl⟩
  · next hone =>
      split
      · next htwo =>
          have h₀ := toNat_byte (n := v / 64 % 32 + 0xc0) (by omega)
          have h₁ := toNat_byte (n := v % 64 + 0x80) (by omega)
          have hlen : charlen (UInt8.ofNat (v / 64 % 32 + 0xc0)) = 2 := by
            rw [charlen_eq, h₀, if_neg (by omega), if_neg (by omega), if_neg (by omega)]
          rw [List.cons_append, UTF8CharValidate_eq_some, hlen, List.cons_append, List.nil_append, admitted_two, h₀,
            h₁]
          exact ⟨by simp, by omega, rfl⟩
      · next htwo =>
          split
          · next hthree =>
              have h₀ := toNat_byte (n := v / 4096 % 16 + 0xe0) (by omega)
              have h₁ := toNat_byte (n := v / 64 % 64 + 0x80) (by omega)
              have h₂ := toNat_byte (n := v % 64 + 0x80) (by omega)
              have hlen : charlen (UInt8.ofNat (v / 4096 % 16 + 0xe0)) = 3 := by
                rw [charlen_eq, h₀, if_neg (by omega), if_neg (by omega), if_pos (by omega)]
              rw [List.cons_append, UTF8CharValidate_eq_some, hlen, List.cons_append, List.cons_append,
                List.nil_append, admitted_three, h₀, h₁, h₂]
              exact ⟨by simp, by omega, rfl⟩
          · next hthree =>
              have h₀ := toNat_byte (n := v / 262144 % 8 + 0xf0) (by omega)
              have h₁ := toNat_byte (n := v / 4096 % 64 + 0x80) (by omega)
              have h₂ := toNat_byte (n := v / 64 % 64 + 0x80) (by omega)
              have h₃ := toNat_byte (n := v % 64 + 0x80) (by omega)
              have hlen : charlen (UInt8.ofNat (v / 262144 % 8 + 0xf0)) = 4 := by
                rw [charlen_eq, h₀, if_neg (by omega), if_pos (by omega)]
              rw [List.cons_append, UTF8CharValidate_eq_some, hlen, List.cons_append, List.cons_append,
                List.cons_append, List.nil_append, admitted_four, h₀, h₁, h₂, h₃]
              exact ⟨by simp, by omega, rfl⟩

theorem UTF8Validate_nil : UTF8Validate [] = true := by
  rw [UTF8Validate, if_pos rfl]

theorem UTF8Validate_of_some {data rest : List UInt8} (h : UTF8CharValidate data = some rest) :
    UTF8Validate data = UTF8Validate rest := by
  have hne : data ≠ [] := by
    rintro rfl
    exact nomatch h
  rw [UTF8Validate, if_neg hne]
  split
  · next hnone => rw [h] at hnone; exact nomatch hnone
  · next rest' hsome =>
      rw [h] at hsome
      rw [Option.some.inj hsome]

theorem UTF8Validate_of_none {data : List UInt8} (hne : data ≠ []) (h : UTF8CharValidate data = none) :
    UTF8Validate data = false := by
  rw [UTF8Validate, if_neg hne]
  split
  · rfl
  · next rest hsome => rw [h] at hsome; exact nomatch hsome

/-- The check accepts exactly the strings of Unicode characters in their shortest encoding. -/
theorem validate_iff_characters (data : List UInt8) :
    UTF8Validate data = true ↔ ∃ chars : List Char, data = chars.flatMap String.utf8EncodeChar := by
  constructor
  · intro h
    -- Each round of the loop takes one character off.
    induction hn : data.length using Nat.strong_induction_on generalizing data with
    | _ n ih =>
        by_cases hnil : data = []
        · exact ⟨[], hnil⟩
        · cases hchar : UTF8CharValidate data with
          | none => rw [UTF8Validate_of_none hnil hchar] at h; exact nomatch h
          | some rest =>
              rw [UTF8Validate_of_some hchar] at h
              obtain ⟨c, hc⟩ := exists_char_of_UTF8CharValidate hchar
              obtain ⟨chars, hchars⟩ := ih rest.length (hn ▸ length_lt_of_UTF8CharValidate hchar) rest h rfl
              exact ⟨c :: chars, by rw [List.flatMap_cons, ← hchars, hc]⟩
  · rintro ⟨chars, rfl⟩
    induction chars with
    | nil => exact UTF8Validate_nil
    | cons c chars ih =>
        rw [List.flatMap_cons, UTF8Validate_of_some (UTF8CharValidate_utf8EncodeChar c _)]
        exact ih

end LinuxGateway.Paho
