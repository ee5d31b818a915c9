import Mathlib.Order.Basic
import Mathlib.Algebra.Order.Ring.Nat

/-! Sizes, alignments and field offsets of C objects under natural alignment. -/

namespace LinuxGateway.Layout

/-- The size of a type and the alignment its objects need. -/
structure CType where
  size : ℕ
  align : ℕ
  deriving DecidableEq

def char : CType := ⟨1, 1⟩

def int32 : CType := ⟨4, 4⟩

def double : CType := ⟨8, 8⟩

def array (elem : CType) (count : ℕ) : CType := ⟨elem.size * count, elem.align⟩

/-- The first multiple of the alignment that is not below the offset. -/
def alignUp (offset align : ℕ) : ℕ := (offset + (align - 1)) / align * align

/-- Where the fields of a struct start, the first one at or after `next`, and where the last ends. -/
def fieldOffsets : ℕ → List CType → List ℕ × ℕ
  | next, [] => ([], next)
  | next, field :: fields =>
      let start := alignUp next field.align
      let rest := fieldOffsets (start + field.size) fields
      (start :: rest.1, rest.2)

def maxAlign (fields : List CType) : ℕ := fields.foldr (fun field acc => max field.align acc) 1

def structOf (fields : List CType) : CType :=
  ⟨alignUp (fieldOffsets 0 fields).2 (maxAlign fields), maxAlign fields⟩

/-- The offset of the field with this number. -/
def offsetOf (fields : List CType) (index : ℕ) : ℕ := (fieldOffsets 0 fields).1.getD index 0

def unionOf (members : List CType) : CType :=
  ⟨alignUp (members.foldr (fun member acc => max member.size acc) 0) (maxAlign members),
    maxAlign members⟩

end LinuxGateway.Layout
