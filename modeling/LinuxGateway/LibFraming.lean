import Mathlib.Data.List.Forall2
import Mathlib.Data.List.Flatten
import Mathlib.Algebra.Order.BigOperators.Group.List
import Mathlib.Algebra.Order.Ring.Nat
import Mathlib.Algebra.Group.Action.Defs

/-! Streams of records. From any point on, a stream is the rest of one record and the records behind
it. A stream of records of one size determines its records, and a stream that is cut into as many
chunks as it has records, none of them longer than a record, is cut between the records. -/

namespace LinuxGateway.Framing

variable {α : Type*} {n : ℕ}

/-- A stream from any point on. -/
theorem exists_of_suffix_flatMap {β : Type*} {f : β → List α} {xs : List β} {rest : List α}
    (h : rest <:+ xs.flatMap f) (hne : rest ≠ []) :
    ∃ x ∈ xs, ∃ part ys, part ≠ [] ∧ part <:+ f x ∧ ys ⊆ xs ∧ rest = part ++ ys.flatMap f := by
  induction xs with
  | nil => exact absurd (List.suffix_nil.mp h) hne
  | cons x xs ih =>
      have hlater : rest <:+ xs.flatMap f → ∃ x' ∈ x :: xs, ∃ part ys, part ≠ [] ∧ part <:+ f x' ∧
          ys ⊆ x :: xs ∧ rest = part ++ ys.flatMap f := by
        intro hrest
        obtain ⟨x', hx', part, ys, hpart, hsuffix, hys, heq⟩ := ih hrest
        exact ⟨x', List.mem_cons_of_mem x hx', part, ys, hpart, hsuffix,
          fun y hy => List.mem_cons_of_mem x (hys hy), heq⟩
      obtain ⟨before, hbefore⟩ := h
      rw [List.flatMap_cons] at hbefore
      rcases List.append_eq_append_iff.mp hbefore with ⟨part, hx, hrest⟩ | ⟨tail, _, hrest⟩
      · by_cases hpart : part = []
        · rw [hpart, List.nil_append] at hrest
          exact hlater (hrest ▸ List.suffix_refl _)
        · exact ⟨x, List.mem_cons_self, part, xs, hpart, ⟨before, hx.symm⟩,
            List.subset_cons_self x xs, hrest⟩
      · exact hlater ⟨tail, hrest.symm⟩

theorem length_flatten_of_length_eq {blocks : List (List α)}
    (h : ∀ block ∈ blocks, block.length = n) : blocks.flatten.length = n * blocks.length := by
  rw [List.length_flatten, List.sum_eq_card_nsmul _ n (by simpa using h), List.length_map,
    smul_eq_mul, mul_comm]

/-- Records of one positive size are determined by their concatenation. -/
theorem flatten_injective {xs ys : List (List α)} (hpos : 0 < n)
    (hxs : ∀ x ∈ xs, x.length = n) (hys : ∀ y ∈ ys, y.length = n)
    (h : xs.flatten = ys.flatten) : xs = ys := by
  have hlen : xs.length = ys.length := by
    have htotal := congrArg List.length h
    rw [length_flatten_of_length_eq hxs, length_flatten_of_length_eq hys] at htotal
    exact Nat.eq_of_mul_eq_mul_left hpos htotal
  have hx : xs.map List.length = List.replicate xs.length n := by
    rw [List.eq_replicate_iff]
    exact ⟨List.length_map _, by simpa using hxs⟩
  have hy : ys.map List.length = List.replicate ys.length n := by
    rw [List.eq_replicate_iff]
    exact ⟨List.length_map _, by simpa using hys⟩
  exact List.eq_iff_flatten_eq.mpr ⟨h, by rw [hx, hy, hlen]⟩

/-- Chunks no longer than a record that make up as many records as there are chunks are whole
records. -/
theorem whole_of_count {chunks : List (List α)} (hle : ∀ chunk ∈ chunks, chunk.length ≤ n)
    (htotal : chunks.flatten.length = n * chunks.length) :
    ∀ chunk ∈ chunks, chunk.length = n := by
  induction chunks with
  | nil => simp
  | cons chunk chunks ih =>
      have hhead : chunk.length ≤ n := hle chunk List.mem_cons_self
      have htail : ∀ c ∈ chunks, c.length ≤ n := fun c hc => hle c (List.mem_cons_of_mem chunk hc)
      have hbound : chunks.flatten.length ≤ n * chunks.length := by
        rw [List.length_flatten]
        calc (chunks.map List.length).sum ≤ (chunks.map List.length).length • n :=
              List.sum_le_card_nsmul _ _ (by simpa using htail)
          _ = n * chunks.length := by rw [List.length_map, smul_eq_mul, mul_comm]
      rw [List.flatten_cons, List.length_append, List.length_cons, Nat.mul_succ] at htotal
      intro c hc
      rcases List.mem_cons.mp hc with rfl | hc
      · omega
      · exact ih htail (by omega) c hc

end LinuxGateway.Framing
