import Mathlib.Data.List.Nodup

/-! Lists whose elements have keys: the first element with a key is looked up, replaced and removed.
While no two elements have the same key, the operations on one key do not touch the others. -/

namespace LinuxGateway.Keyed

variable {α κ : Type*} [DecidableEq κ] (key : α → κ)

def find (k : κ) (xs : List α) : Option α := xs.find? fun x => decide (key x = k)

/-- Puts `a` in the place of the first element with its key. -/
def replace (a : α) : List α → List α
  | [] => []
  | x :: xs => if key x = key a then a :: xs else x :: replace a xs

/-- Takes out the first element with a key. -/
def remove (k : κ) : List α → List α
  | [] => []
  | x :: xs => if key x = k then xs else x :: remove k xs

/-- No two elements have the same key. -/
def Distinct (xs : List α) : Prop := (xs.map key).Nodup

variable {key} {k : κ} {a x : α} {xs : List α}

@[simp] theorem find_nil : find key k [] = none := rfl

theorem find_cons : find key k (x :: xs) = if key x = k then some x else find key k xs := by
  rw [find, List.find?_cons]
  by_cases h : key x = k
  · rw [if_pos h, decide_eq_true h]
  · rw [if_neg h, decide_eq_false h]
    rfl

theorem mem_of_find (h : find key k xs = some a) : a ∈ xs := List.mem_of_find?_eq_some h

theorem key_of_find (h : find key k xs = some a) : key a = k := by
  rw [find] at h
  simpa using List.find?_some h

theorem find_eq_none_iff : find key k xs = none ↔ ∀ a ∈ xs, key a ≠ k := by
  rw [find, List.find?_eq_none]
  refine forall₂_congr fun a _ => ?_
  rw [decide_eq_true_iff]

/-- An element appended with a new key is found under it. -/
theorem find_append_self (hkey : key a = k) (h : find key k xs = none) :
    find key k (xs ++ [a]) = some a := by
  rw [find] at h ⊢
  rw [List.find?_append, h, Option.none_or]
  exact find_cons.trans (if_pos hkey)

theorem find_append_of_ne (h : k ≠ key a) : find key k (xs ++ [a]) = find key k xs := by
  have hnone : find key k [a] = none := find_cons.trans (if_neg h.symm)
  rw [find] at hnone ⊢
  rw [List.find?_append, hnone, Option.or_none]
  rfl

/-- With distinct keys, each element is the one that is found under its key. -/
theorem find_of_mem (hdistinct : Distinct key xs) (hmem : a ∈ xs) : find key (key a) xs = some a := by
  induction xs with
  | nil => exact absurd hmem List.not_mem_nil
  | cons x xs ih =>
      rw [Distinct, List.map_cons, List.nodup_cons] at hdistinct
      rw [find_cons]
      rcases List.mem_cons.mp hmem with rfl | hmem
      · rw [if_pos rfl]
      · have hne : key x ≠ key a := fun heq => hdistinct.1 (heq ▸ List.mem_map_of_mem hmem)
        rw [if_neg hne]
        exact ih hdistinct.2 hmem

/-- What was found under the key is replaced. -/
theorem find_replace_self (h : find key (key a) xs = some x) : find key (key a) (replace key a xs) = some a := by
  induction xs with
  | nil => exact absurd h (by simp)
  | cons y ys ih =>
      rw [find_cons] at h
      rw [replace]
      by_cases hy : key y = key a
      · rw [if_pos hy, find_cons, if_pos rfl]
      · rw [if_neg hy] at h ⊢
        rw [find_cons, if_neg hy]
        exact ih h

theorem find_replace_of_ne (hne : k ≠ key a) : find key k (replace key a xs) = find key k xs := by
  induction xs with
  | nil => rfl
  | cons y ys ih =>
      rw [replace]
      by_cases hy : key y = key a
      · rw [if_pos hy, find_cons, find_cons, if_neg hne.symm, if_neg (hy ▸ hne.symm)]
      · rw [if_neg hy, find_cons, find_cons, ih]

theorem map_key_replace : (replace key a xs).map key = xs.map key := by
  induction xs with
  | nil => rfl
  | cons y ys ih =>
      rw [replace]
      by_cases hy : key y = key a
      · rw [if_pos hy, List.map_cons, List.map_cons, hy]
      · rw [if_neg hy, List.map_cons, List.map_cons, ih]

theorem length_replace : (replace key a xs).length = xs.length := by
  rw [← List.length_map key, map_key_replace, List.length_map]

theorem mem_replace (h : x ∈ replace key a xs) : x = a ∨ x ∈ xs := by
  induction xs with
  | nil => exact Or.inr h
  | cons y ys ih =>
      rw [replace] at h
      split at h
      · rcases List.mem_cons.mp h with rfl | h
        · exact Or.inl rfl
        · exact Or.inr (List.mem_cons_of_mem y h)
      · rcases List.mem_cons.mp h with rfl | h
        · exact Or.inr List.mem_cons_self
        · exact (ih h).imp_right (List.mem_cons_of_mem y)

theorem Distinct.replace (h : Distinct key xs) (a : α) : Distinct key (replace key a xs) := by
  rw [Distinct, map_key_replace]
  exact h

/-- A key that was not found can be appended. -/
theorem Distinct.append (h : Distinct key xs) (hnone : find key (key a) xs = none) :
    Distinct key (xs ++ [a]) := by
  rw [Distinct, List.map_append, List.map_singleton, List.nodup_append]
  refine ⟨h, List.nodup_singleton _, fun k hk l hl => ?_⟩
  obtain ⟨b, hb, rfl⟩ := List.mem_map.mp hk
  rw [List.mem_singleton.mp hl]
  exact find_eq_none_iff.mp hnone b hb

theorem remove_sublist : (remove key k xs).Sublist xs := by
  induction xs with
  | nil => exact List.Sublist.refl _
  | cons y ys ih =>
      rw [remove]
      split
      · exact List.sublist_cons_self y ys
      · exact ih.cons_cons y

theorem Distinct.remove (h : Distinct key xs) (k : κ) : Distinct key (remove key k xs) :=
  h.sublist (remove_sublist.map key)

/-- With distinct keys, nothing is left under the removed one. -/
theorem find_remove_self (h : Distinct key xs) : find key k (remove key k xs) = none := by
  induction xs with
  | nil => rfl
  | cons y ys ih =>
      rw [Distinct, List.map_cons, List.nodup_cons] at h
      rw [Keyed.remove]
      by_cases hy : key y = k
      · rw [if_pos hy, find_eq_none_iff]
        intro b hb heq
        exact h.1 (hy.trans heq.symm ▸ List.mem_map_of_mem hb)
      · rw [if_neg hy, find_cons, if_neg hy]
        exact ih h.2

theorem find_remove_of_ne {l : κ} (hne : l ≠ k) : find key l (remove key k xs) = find key l xs := by
  induction xs with
  | nil => rfl
  | cons y ys ih =>
      rw [remove]
      by_cases hy : key y = k
      · rw [if_pos hy, find_cons, if_neg (hy ▸ hne.symm)]
      · rw [if_neg hy, find_cons, find_cons, ih]

end LinuxGateway.Keyed
