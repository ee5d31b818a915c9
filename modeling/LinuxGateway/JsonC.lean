import LinuxGateway.LibBytes
import Mathlib.Algebra.Order.Ring.Int

/-! The calls of the json-c library that the services make. The library is not part of the
repository: its parser and its object representation are parameters, and the structure states what
its manual says of the calls. A null pointer is `none`. -/

namespace LinuxGateway

open Bytes

/-- `int32_t` holds what fits; json-c clips the rest. -/
def clipInt32 (value : ℤ) : ℤ := max (-2147483648) (min value 2147483647)

structure JsonC where
  /-- `struct json_object`. -/
  Value : Type
  /-- `json_tokener_parse`; null on text that does not start with a JSON value. -/
  parse : List UInt8 → Option Value
  /-- The value under a key, for an object that has the key. -/
  field : Value → List UInt8 → Option Value
  /-- The number that a value of type `json_type_int` holds. -/
  integer : Value → Option ℤ
  /-- `json_object_get_int` of a value; values of other types are converted. -/
  intValue : Value → ℤ
  intValue_integer : ∀ value number, integer value = some number → intValue value = clipInt32 number

namespace JsonC

variable (json : JsonC)

/-- `json_object_object_get_ex`: the output is null when there is no object or no such key. -/
def objectGetEx (object : Option json.Value) (key : List UInt8) : Option json.Value :=
  object.bind fun value => json.field value key

/-- `json_object_get_int`: zero for a null pointer. -/
def getInt : Option json.Value → ℤ
  | none => 0
  | some value => json.intValue value

/-- The text is a JSON object whose field `key` is the integer `number`. -/
def HasInteger (text key : List UInt8) (number : ℤ) : Prop :=
  ∃ value, json.objectGetEx (json.parse text) key = some value ∧ json.integer value = some number

/-- The field is not an integer, and json-c converts it to `number` all the same. -/
def Converts (text key : List UInt8) (number : ℤ) : Prop :=
  ∃ value, json.objectGetEx (json.parse text) key = some value ∧ json.integer value = none ∧
    json.intValue value = number

/-- The comparison that the services make finds the integer field, or a field that is converted. -/
theorem getInt_eq_iff {text key : List UInt8} {number : ℤ} (hne : number ≠ 0)
    (hlow : -2147483648 < number) (hhigh : number < 2147483647) :
    json.getInt (json.objectGetEx (json.parse text) key) = number ↔
      json.HasInteger text key number ∨ json.Converts text key number := by
  unfold HasInteger Converts
  cases hfield : json.objectGetEx (json.parse text) key with
  | none => simp [getInt, hne.symm]
  | some value =>
      cases hint : json.integer value with
      | none => simp [getInt, hint]
      | some held =>
          have hvalue : json.intValue value = clipInt32 held := json.intValue_integer value held hint
          simp only [getInt, hvalue, clipInt32, Option.some.injEq, exists_eq_left', hint,
            reduceCtorEq, false_and, or_false]
          omega

theorem not_converts_of_hasInteger {text key : List UInt8} {number : ℤ}
    (h : json.HasInteger text key number) : ¬json.Converts text key number := by
  intro hconverts
  obtain ⟨value, hvalue, hint⟩ := h
  obtain ⟨value', hvalue', hnone, _⟩ := hconverts
  obtain rfl := Option.some.inj (hvalue.symm.trans hvalue')
  exact absurd (hint.symm.trans hnone) (by simp)

/-- The comparison stands for the integer field exactly when no other field is converted. -/
theorem getInt_eq_iff_hasInteger_iff (text key : List UInt8) {number : ℤ} (hne : number ≠ 0)
    (hlow : -2147483648 < number) (hhigh : number < 2147483647) :
    (json.getInt (json.objectGetEx (json.parse text) key) = number ↔ json.HasInteger text key number) ↔
      ¬json.Converts text key number := by
  rw [json.getInt_eq_iff hne hlow hhigh]
  constructor
  · intro h hconverts
    exact json.not_converts_of_hasInteger (h.mp (Or.inr hconverts)) hconverts
  · intro h
    exact or_iff_left h

/-- The values of a parser that knows objects with one integer field. -/
inductive TableValue where
  | object (field : ℤ)
  | number (value : ℤ)

/-- A parser that knows some texts: it reads the first value of a string, as json-c does, if it is one
of these objects, each given with the number in its field `key`. -/
def table (key : List UInt8) (entries : List (List UInt8 × ℤ)) : JsonC where
  Value := TableValue
  parse text := (entries.find? fun entry => entry.1.isPrefixOf text).map fun entry => .object entry.2
  field
    | .object number, key' => if key' = key then some (.number number) else none
    | .number _, _ => none
  integer
    | .object _ => none
    | .number value => some value
  intValue
    | .object _ => 0
    | .number value => clipInt32 value
  intValue_integer value number h := by
    cases value with
    | object => exact absurd h (by simp)
    | number value => rw [Option.some.inj h]

end JsonC

end LinuxGateway
