import LinuxGateway.LibBytes
import Mathlib.Data.Nat.Digits.Defs

/-! Decimal numerals of C integers, as `itoa` and `printf` write them, and of numbers with two decimals:
which characters they consist of and how long they get. -/

namespace LinuxGateway.Decimal

open Bytes

def minusSign : UInt8 := 45

def IsDigit (b : UInt8) : Prop := 48 ≤ b.toNat ∧ b.toNat ≤ 57

/-- The decimal digits of a number, the most significant one first. -/
def digits (n : ℕ) : List UInt8 := (Nat.toDigits 10 n).map Char.toUInt8

/-- `itoa(value, buffer, 10)`. -/
def itoa : ℤ → List UInt8
  | .ofNat n => digits n
  | .negSucc n => minusSign :: digits (n + 1)

theorem isDigit_of_mem_digits {n : ℕ} {b : UInt8} (hb : b ∈ digits n) : IsDigit b := by
  obtain ⟨c, hc, rfl⟩ := List.mem_map.mp hb
  have hdigit : c.isDigit = true := Nat.isDigit_of_mem_toDigits (by decide) (by decide) hc
  rw [Char.isDigit, Bool.and_eq_true, decide_eq_true_eq, decide_eq_true_eq] at hdigit
  have hlow : 48 ≤ c.val.toNat := hdigit.1
  have hhigh : c.val.toNat ≤ 57 := hdigit.2
  have hval : c.toUInt8.toNat = c.val.toNat := by
    show c.val.toNat % 256 = c.val.toNat
    omega
  exact ⟨hval ▸ hlow, hval ▸ hhigh⟩

theorem length_digits_le {n e : ℕ} (he : 0 < e) (hn : n < 10 ^ e) : (digits n).length ≤ e := by
  rw [digits, List.length_map]
  exact Nat.toDigits_length 10 n e he hn

/-- A numeral has no other characters, so it ends no string and starts no field of a message. -/
theorem eq_minusSign_or_isDigit_of_mem_itoa {value : ℤ} {b : UInt8} (hb : b ∈ itoa value) :
    b = minusSign ∨ IsDigit b := by
  cases value with
  | ofNat n => exact Or.inr (isDigit_of_mem_digits hb)
  | negSucc n =>
      rcases List.mem_cons.mp hb with rfl | hb
      · exact Or.inl rfl
      · exact Or.inr (isDigit_of_mem_digits hb)

/-- A number below `10 ^ e` takes `e` characters, and one more for its sign. -/
theorem length_itoa_le {value : ℤ} {e : ℕ} (he : 0 < e) (hvalue : value.natAbs < 10 ^ e) :
    (itoa value).length ≤ e + 1 := by
  cases value with
  | ofNat n => exact (length_digits_le he hvalue).trans (Nat.le_succ e)
  | negSucc n =>
      rw [itoa, List.length_cons]
      exact Nat.succ_le_succ (length_digits_le he hvalue)

theorem length_itoa_le_of_nonneg {value : ℤ} {e : ℕ} (hnonneg : 0 ≤ value) (he : 0 < e)
    (hvalue : value.natAbs < 10 ^ e) : (itoa value).length ≤ e := by
  cases value with
  | ofNat n => exact length_digits_le he hvalue
  | negSucc n => exact absurd hnonneg (by simp)

/-! ### Two decimals -/

def point : UInt8 := 46

def digit (n : ℕ) : UInt8 := UInt8.ofNat (48 + n % 10)

/-- `dtostrf(value, 4, 2, buffer)`, for a value given in hundredths. -/
def fixed2 (hundredths : ℤ) : List UInt8 :=
  (if hundredths < 0 then [minusSign] else []) ++ digits (hundredths.natAbs / 100) ++
    [point, digit (hundredths.natAbs / 10), digit hundredths.natAbs]

example : fixed2 (-5) = ascii "-0.05" ∧ fixed2 99999999 = ascii "999999.99" := by decide

theorem isDigit_digit (n : ℕ) : IsDigit (digit n) := by
  have htoNat : (digit n).toNat = 48 + n % 10 := by
    rw [digit, UInt8.toNat_ofNat']
    omega
  rw [IsDigit, htoNat]
  omega

/-- Two decimals take three characters behind the integer part. -/
theorem length_fixed2_le {hundredths : ℤ} {e : ℕ} (he : 0 < e)
    (hvalue : hundredths.natAbs / 100 < 10 ^ e) :
    (fixed2 hundredths).length ≤ (if hundredths < 0 then 1 else 0) + e + 3 := by
  have hdigits := length_digits_le he hvalue
  simp only [fixed2, List.length_append, List.length_cons, List.length_nil]
  split <;> simp only [List.length_cons, List.length_nil] <;> omega

theorem noNul_itoa (value : ℤ) : NoNul (itoa value) := by
  rintro b hb rfl
  rcases eq_minusSign_or_isDigit_of_mem_itoa hb with hminus | hdigit
  · exact absurd hminus (by decide)
  · exact absurd hdigit.1 (by decide)

theorem noNul_fixed2 (hundredths : ℤ) : NoNul (fixed2 hundredths) := by
  rintro b hb rfl
  have hdigit : ¬IsDigit 0 := fun h => absurd h.1 (by decide)
  rw [fixed2, List.mem_append, List.mem_append] at hb
  rcases hb with (hsign | hint) | hfrac
  · split at hsign
    · exact absurd hsign (by decide)
    · exact absurd hsign List.not_mem_nil
  · exact hdigit (isDigit_of_mem_digits hint)
  · simp only [List.mem_cons, List.not_mem_nil, or_false] at hfrac
    rcases hfrac with hpoint | htenths | hlast
    · exact absurd hpoint (by decide)
    · exact hdigit (htenths ▸ isDigit_digit _)
    · exact hdigit (hlast ▸ isDigit_digit _)

end LinuxGateway.Decimal
