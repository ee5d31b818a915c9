import Mathlib.Data.Finset.Basic
import Mathlib.Data.List.Basic

/-! A registry kept as a list: the list holds the members of a finite set, each of them once. -/

namespace LinuxGateway.Registry

variable {α : Type*}

/-- The list holds exactly the members of the set, without repetition. -/
def Lists (entries : List α) (members : Finset α) : Prop :=
  entries.Nodup ∧ ∀ a, a ∈ entries ↔ a ∈ members

theorem lists_nil : Lists ([] : List α) ∅ := ⟨List.nodup_nil, by simp⟩

variable [DecidableEq α]

/-- A new member goes to the end of the list. -/
theorem Lists.append {entries : List α} {members : Finset α} {a : α} (h : Lists entries members)
    (ha : a ∉ members) : Lists (entries ++ [a]) (insert a members) := by
  obtain ⟨hnodup, hmem⟩ := h
  refine ⟨?_, fun b => ?_⟩
  · rw [List.nodup_append]
    refine ⟨hnodup, List.nodup_singleton a, fun b hb c hc => ?_⟩
    rw [List.mem_singleton] at hc
    subst hc
    exact fun heq => ha ((hmem c).mp (heq ▸ hb))
  · rw [List.mem_append, List.mem_singleton, Finset.mem_insert, hmem, or_comm]

/-- Cutting off the last entry of the list is right for the member that leaves exactly when the last
entry is that member. -/
theorem Lists.init_iff {entries : List α} {members : Finset α} {last a : α}
    (h : Lists (entries ++ [last]) members) : Lists entries (members.erase a) ↔ last = a := by
  obtain ⟨hnodup, hmem⟩ := h
  rw [List.nodup_append] at hnodup
  obtain ⟨hentries, _, hdisjoint⟩ := hnodup
  have hlast : last ∉ entries := fun hin => hdisjoint last hin last List.mem_cons_self rfl
  constructor
  · rintro ⟨_, hmem'⟩
    by_contra hne
    have hin : last ∈ members := (hmem last).mp (by simp)
    exact hlast ((hmem' last).mpr (Finset.mem_erase.mpr ⟨hne, hin⟩))
  · rintro rfl
    refine ⟨hentries, fun b => ?_⟩
    rw [Finset.mem_erase, ← hmem, List.mem_append, List.mem_singleton]
    constructor
    · intro hb
      exact ⟨fun heq => hlast (heq ▸ hb), Or.inl hb⟩
    · rintro ⟨hne, hb | hb⟩
      · exact hb
      · exact absurd hb hne

/-- Removing a member from an empty registry leaves it empty. -/
theorem Lists.erase_nil {members : Finset α} (a : α) (h : Lists [] members) :
    Lists [] (members.erase a) := by
  refine ⟨List.nodup_nil, fun b => ?_⟩
  rw [Finset.mem_erase, ← h.2 b]
  simp

end LinuxGateway.Registry
