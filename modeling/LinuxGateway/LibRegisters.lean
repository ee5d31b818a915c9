import Mathlib.Data.Nat.Notation
import Mathlib.Logic.Function.Basic

/-! Registers of a device and the fields in them. A field is some of the bits of one register; writing
it leaves every other bit of the device as it was. -/

namespace LinuxGateway.Registers

variable {A : Type*} [DecidableEq A] {w : ℕ}

structure Field (A : Type*) (w : ℕ) where
  addr : A
  mask : BitVec w
  deriving DecidableEq

namespace Field

def get (field : Field A w) (regs : A → BitVec w) : BitVec w := regs field.addr &&& field.mask

def set (field : Field A w) (value : BitVec w) (regs : A → BitVec w) : A → BitVec w :=
  Function.update regs field.addr ((regs field.addr &&& ~~~field.mask) ||| (value &&& field.mask))

/-- The two fields have no bit in common. -/
def Apart (field other : Field A w) : Prop :=
  field.addr ≠ other.addr ∨ field.mask &&& other.mask = 0

instance (field other : Field A w) : Decidable (field.Apart other) :=
  inferInstanceAs (Decidable (_ ∨ _))

@[simp] theorem get_set (field : Field A w) (value : BitVec w) (regs : A → BitVec w) :
    field.get (field.set value regs) = value &&& field.mask := by
  rw [get, set, Function.update_self]
  ext i hi
  simp
  grind

theorem get_set_of_apart {field other : Field A w} (h : field.Apart other) (value : BitVec w)
    (regs : A → BitVec w) : field.get (other.set value regs) = field.get regs := by
  rw [get, set, get]
  rcases h with hne | hdisjoint
  · rw [Function.update_of_ne hne]
  · by_cases heq : field.addr = other.addr
    · rw [heq, Function.update_self]
      ext i hi
      have hbit : (field.mask &&& other.mask)[i] = false := by simp [hdisjoint]
      simp at hbit ⊢
      grind
    · rw [Function.update_of_ne heq]

/-- Writing what a field holds changes nothing. -/
theorem set_eq_self {field : Field A w} {value : BitVec w} {regs : A → BitVec w}
    (h : field.get regs = value) : field.set value regs = regs := by
  rw [set, ← h, get]
  have hbits : (regs field.addr &&& ~~~field.mask) ||| (regs field.addr &&& field.mask &&& field.mask) =
      regs field.addr := by
    ext i hi
    simp
    grind
  rw [hbits, Function.update_eq_self]

/-- Reading a register, clearing the bits of a field and setting some of them writes the field. -/
theorem update_eq_set (field : Field A w) {keep value : BitVec w} (hkeep : keep = ~~~field.mask)
    (hvalue : value &&& field.mask = value) (regs : A → BitVec w) :
    Function.update regs field.addr ((regs field.addr &&& keep) ||| value) = field.set value regs := by
  rw [set, hkeep, hvalue]

end Field

/-- All bits of a register. -/
def whole (addr : A) : Field A w := ⟨addr, BitVec.allOnes w⟩

omit [DecidableEq A] in
@[simp] theorem whole_get (addr : A) (regs : A → BitVec w) : (whole addr).get regs = regs addr :=
  BitVec.and_allOnes

omit [DecidableEq A] in
theorem reg_eq_of_whole {addr : A} {value : BitVec w} {regs : A → BitVec w}
    (h : (whole addr).get regs = value) : regs addr = value := (whole_get addr regs).symm.trans h

theorem update_eq_whole_set (regs : A → BitVec w) (addr : A) (value : BitVec w) :
    Function.update regs addr value = (whole addr).set value regs := by
  rw [Field.set]
  simp [whole]

/-- A list of field writes, in order. -/
def writeAll (writes : List (Field A w × BitVec w)) (regs : A → BitVec w) : A → BitVec w :=
  writes.foldl (fun regs write => write.1.set write.2 regs) regs

/-- A field that no write touches is as before. -/
theorem get_writeAll_of_apart {field : Field A w} {writes : List (Field A w × BitVec w)}
    (h : ∀ write ∈ writes, field.Apart write.1) (regs : A → BitVec w) :
    field.get (writeAll writes regs) = field.get regs := by
  induction writes generalizing regs with
  | nil => rfl
  | cons write writes ih =>
      rw [writeAll, List.foldl_cons]
      exact (ih (fun later hlater => h later (List.mem_cons_of_mem write hlater)) _).trans
        (Field.get_set_of_apart (h write List.mem_cons_self) _ regs)

end LinuxGateway.Registers
