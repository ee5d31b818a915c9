import Mathlib.Data.List.Basic
import Mathlib.Data.List.TakeDrop
import Mathlib.Data.List.TakeWhile

/-! Byte buffers of a fixed size and the C strings in them. A write outside its buffer and a string
that no NUL ends inside its object are undefined in C; both are `none` here, so that a result that
is `some` never depends on what lies around an object. -/

namespace LinuxGateway.Bytes

/-- The characters of a string literal, without the NUL that C puts after them. -/
def ascii (text : String) : List UInt8 := text.toList.map Char.toUInt8

/-- A text that C can hold as a string. -/
def NoNul (text : List UInt8) : Prop := ∀ b ∈ text, b ≠ 0

instance (text : List UInt8) : Decidable (NoNul text) :=
  List.decidableBAll (fun b => b ≠ 0) text

theorem noNul_append {left right : List UInt8} (hleft : NoNul left) (hright : NoNul right) :
    NoNul (left ++ right) := by
  intro b hb
  rcases List.mem_append.mp hb with hb | hb
  · exact hleft b hb
  · exact hright b hb

/-- What `strlen` and `%s` see at the first of these bytes: everything before the first NUL. Without
a NUL they run past the object. -/
def cString : List UInt8 → Option (List UInt8)
  | [] => none
  | b :: bs => if b = 0 then some [] else (cString bs).map (b :: ·)

@[simp] theorem cString_nil : cString [] = none := rfl

@[simp] theorem cString_zero (bs : List UInt8) : cString (0 :: bs) = some [] := rfl

theorem cString_append {text : List UInt8} (htext : NoNul text) (rest : List UInt8) :
    cString (text ++ rest) = (cString rest).map (text ++ ·) := by
  induction text with
  | nil => simp
  | cons b text ih =>
      have hb : b ≠ 0 := htext b List.mem_cons_self
      have hrest : NoNul text := fun c hc => htext c (List.mem_cons_of_mem b hc)
      simp [cString, hb, ih hrest, Function.comp_def]

theorem cString_terminated {text : List UInt8} (htext : NoNul text) (rest : List UInt8) :
    cString (text ++ 0 :: rest) = some text := by
  simp [cString_append htext]

/-- A string is what stands before the first NUL. -/
theorem exists_of_cString {bs text : List UInt8} (h : cString bs = some text) :
    NoNul text ∧ ∃ rest, bs = text ++ 0 :: rest := by
  induction bs generalizing text with
  | nil => simp at h
  | cons b bs ih =>
      by_cases hb : b = 0
      · subst hb
        obtain rfl : [] = text := by simpa using h
        exact ⟨fun c hc => absurd hc List.not_mem_nil, bs, rfl⟩
      · simp only [cString, hb, if_false, Option.map_eq_some_iff] at h
        obtain ⟨tail, htail, rfl⟩ := h
        obtain ⟨hno, rest, rfl⟩ := ih htail
        refine ⟨fun c hc => ?_, rest, rfl⟩
        rcases List.mem_cons.mp hc with rfl | hc
        · exact hb
        · exact hno c hc

theorem noNul_of_cString_eq_none {bs : List UInt8} (h : cString bs = none) : NoNul bs := by
  induction bs with
  | nil => exact fun b hb => absurd hb List.not_mem_nil
  | cons b bs ih =>
      by_cases hb : b = 0
      · simp [cString, hb] at h
      · simp only [cString, hb, if_false, Option.map_eq_none_iff] at h
        intro c hc
        rcases List.mem_cons.mp hc with rfl | hc
        · exact hb
        · exact ih h c hc

/-- Bytes behind the end of a string do not belong to it. -/
theorem cString_append_of_some {bs text : List UInt8} (h : cString bs = some text)
    (rest : List UInt8) : cString (bs ++ rest) = some text := by
  obtain ⟨htext, tail, rfl⟩ := exists_of_cString h
  rw [List.append_assoc, List.cons_append]
  exact cString_terminated htext _

/-- The start of a text is a string of the whole text exactly when what follows is the rest of it. -/
theorem cString_take_append_iff {text : List UInt8} (htext : NoNul text) (n : ℕ) (rest : List UInt8) :
    cString (text.take n ++ rest) = some text ↔ cString rest = some (text.drop n) := by
  have htake : NoNul (text.take n) := fun b hb => htext b (List.mem_of_mem_take hb)
  rw [cString_append htake, Option.map_eq_some_iff]
  constructor
  · rintro ⟨tail, htail, heq⟩
    rw [htail, (List.append_right_inj _).mp (heq.trans (List.take_append_drop n text).symm)]
  · intro htail
    exact ⟨text.drop n, htail, List.take_append_drop n text⟩

/-- The text that received bytes stand for: what comes before the first NUL, or all of them. -/
def textOf (bytes : List UInt8) : List UInt8 := bytes.takeWhile (· ≠ 0)

theorem textOf_of_noNul {text : List UInt8} (h : NoNul text) : textOf text = text := by
  rw [textOf, List.takeWhile_eq_self_iff]
  intro b hb
  exact decide_eq_true (h b hb)

theorem textOf_append {text : List UInt8} (h : NoNul text) (rest : List UInt8) :
    textOf (text ++ rest) = text ++ textOf rest :=
  List.takeWhile_append_of_pos fun b hb => decide_eq_true (h b hb)

theorem cString_eq_ite (bytes : List UInt8) :
    cString bytes = if 0 ∈ bytes then some (textOf bytes) else none := by
  induction bytes with
  | nil => rfl
  | cons b bytes ih =>
      by_cases hb : b = 0
      · simp [hb, textOf]
      · rw [cString, if_neg hb, ih]
        by_cases hmem : 0 ∈ bytes
        · simp [textOf, hb, hmem]
        · simp [hmem, Ne.symm hb]

/-- What follows some bytes adds nothing to their text exactly when a NUL stands right behind it. -/
theorem cString_append_eq_textOf_iff (bytes rest : List UInt8) :
    cString (bytes ++ rest) = some (textOf bytes) ↔ (bytes ++ rest)[(textOf bytes).length]? = some 0 := by
  induction bytes with
  | nil =>
      cases rest with
      | nil => simp [textOf]
      | cons b rest => by_cases hb : b = 0 <;> simp [cString, textOf, hb]
  | cons b bytes ih =>
      by_cases hb : b = 0
      · simp [textOf, hb]
      · have htext : textOf (b :: bytes) = b :: textOf bytes := by simp [textOf, hb]
        rw [htext, List.cons_append, List.length_cons, List.getElem?_cons_succ, ← ih, cString, if_neg hb,
          Option.map_eq_some_iff]
        simp

theorem cString_append_zeros (bytes : List UInt8) {n : ℕ} (hn : 0 < n) :
    cString (bytes ++ List.replicate n 0) = some (textOf bytes) := by
  induction bytes with
  | nil => rw [List.nil_append, show n = n - 1 + 1 by omega]; rfl
  | cons b bytes ih =>
      by_cases hb : b = 0
      · simp [hb, textOf]
      · rw [List.cons_append, cString, if_neg hb, ih]
        simp [textOf, hb]

/-- A string ends inside the first `n` bytes exactly when one of them is NUL. -/
theorem exists_cString_lt_iff (bytes : List UInt8) (n : ℕ) :
    (∃ text, cString bytes = some text ∧ text.length < n) ↔ 0 ∈ bytes.take n := by
  induction bytes generalizing n with
  | nil => simp
  | cons b bytes ih =>
      cases n with
      | zero => simp
      | succ n =>
          by_cases hb : b = 0
          · subst hb
            simp
          · rw [List.take_succ_cons, List.mem_cons, or_iff_right (Ne.symm hb), ← ih n]
            simp only [cString, hb, if_false, Option.map_eq_some_iff]
            constructor
            · rintro ⟨_, ⟨text, htext, rfl⟩, hlen⟩
              exact ⟨text, htext, Nat.lt_of_succ_lt_succ hlen⟩
            · rintro ⟨text, htext, hlen⟩
              exact ⟨b :: text, ⟨text, htext, rfl⟩, Nat.succ_lt_succ hlen⟩

/-- Bytes written over an object from an offset on; the rest keeps its contents. -/
def overlay (bytes : List UInt8) (offset : ℕ) (new : List UInt8) : List UInt8 :=
  bytes.take offset ++ new ++ bytes.drop (offset + new.length)

theorem length_overlay {bytes new : List UInt8} {offset : ℕ}
    (h : offset + new.length ≤ bytes.length) : (overlay bytes offset new).length = bytes.length := by
  simp only [overlay, List.length_append, List.length_take, List.length_drop]
  omega

theorem overlay_zero (bytes new : List UInt8) :
    overlay bytes 0 new = new ++ bytes.drop new.length := by
  simp [overlay]

/-- From the offset on, an object that was written to starts with what was written. -/
theorem drop_overlay_self {bytes new : List UInt8} {offset : ℕ} (h : offset ≤ bytes.length) :
    (overlay bytes offset new).drop offset = new ++ bytes.drop (offset + new.length) := by
  have hlen : (bytes.take offset).length = offset := by simp [h]
  rw [overlay, List.append_assoc, List.drop_append, hlen]
  simp

/-- From an earlier offset on, what is between the two offsets comes first. -/
theorem drop_overlay_of_le {bytes new : List UInt8} {offset n : ℕ} (hn : n ≤ offset)
    (h : offset ≤ bytes.length) :
    (overlay bytes offset new).drop n =
      (bytes.drop n).take (offset - n) ++ (new ++ bytes.drop (offset + new.length)) := by
  have hlen : (bytes.take offset).length = offset := by simp [h]
  rw [overlay, List.append_assoc, List.drop_append_of_le_length (by omega), List.drop_take]

/-- Behind what was written nothing changes. -/
theorem drop_overlay_of_ge {bytes new : List UInt8} {offset n : ℕ} (hn : offset + new.length ≤ n)
    (h : offset ≤ bytes.length) : (overlay bytes offset new).drop n = bytes.drop n := by
  have hlen : (bytes.take offset ++ new).length = offset + new.length := by simp [h]
  rw [overlay, List.drop_append, List.drop_eq_nil_of_le (by omega), List.nil_append, List.drop_drop,
    hlen, show offset + new.length + (n - (offset + new.length)) = n by omega]

/-- Below the offset nothing changes. -/
theorem take_overlay {bytes new : List UInt8} {offset n : ℕ} (hn : n ≤ offset)
    (h : offset ≤ bytes.length) : (overlay bytes offset new).take n = bytes.take n := by
  rw [overlay, List.append_assoc, List.take_append_of_le_length (by simp; omega), List.take_take,
    Nat.min_eq_left hn]

/-- A byte outside the range that was written keeps its value. -/
theorem getElem?_overlay_of_outside {bytes new : List UInt8} {offset i : ℕ}
    (h : offset + new.length ≤ bytes.length) (hi : i < offset ∨ offset + new.length ≤ i) :
    (overlay bytes offset new)[i]? = bytes[i]? := by
  rcases hi with hi | hi
  · rw [← List.getElem?_take_of_lt hi, take_overlay le_rfl (by omega), List.getElem?_take_of_lt hi]
  · rw [← List.head?_drop, drop_overlay_of_ge hi (by omega), List.head?_drop]

theorem head?_overlay {bytes new : List UInt8} {offset : ℕ} (h : 0 < offset) (hbytes : bytes ≠ []) :
    (overlay bytes offset new).head? = bytes.head? := by
  obtain ⟨n, rfl⟩ : ∃ n, offset = n + 1 := ⟨offset - 1, by omega⟩
  cases bytes with
  | nil => exact absurd rfl hbytes
  | cons b bytes => rfl

/-- The number whose bytes these are, least significant first. -/
def ofLittleEndian : List UInt8 → ℕ
  | [] => 0
  | b :: bs => b.toNat + 256 * ofLittleEndian bs

/-- A number as `width` bytes, least significant first. -/
def littleEndian : ℕ → ℕ → List UInt8
  | 0, _ => []
  | width + 1, value => UInt8.ofNat value :: littleEndian width (value / 256)

@[simp] theorem length_littleEndian (width value : ℕ) : (littleEndian width value).length = width := by
  induction width generalizing value with
  | zero => rfl
  | succ width ih => simp [littleEndian, ih]

/-- An object of `n` bytes. -/
structure Buffer (n : ℕ) where
  bytes : List UInt8
  length_eq : bytes.length = n
  deriving DecidableEq

namespace Buffer

variable {n : ℕ}

theorem ext_bytes {a b : Buffer n} (h : a.bytes = b.bytes) : a = b := by
  cases a
  cases b
  cases h
  rfl

theorem bytes_ne_nil (buffer : Buffer n) (h : 0 < n) : buffer.bytes ≠ [] := by
  intro hnil
  have hlen := buffer.length_eq
  rw [hnil, List.length_nil] at hlen
  omega

/-- An object with static storage before anything is stored in it. -/
def zero (n : ℕ) : Buffer n := ⟨List.replicate n 0, List.length_replicate⟩

/-- `memset` over the whole object. -/
def fill (n : ℕ) (b : UInt8) : Buffer n := ⟨List.replicate n b, List.length_replicate⟩

/-- Store bytes at an offset. -/
def write (buffer : Buffer n) (offset : ℕ) (new : List UInt8) : Option (Buffer n) :=
  if h : offset + new.length ≤ n then
    some ⟨overlay buffer.bytes offset new,
      (length_overlay (buffer.length_eq.symm ▸ h)).trans buffer.length_eq⟩
  else none

/-- The string that starts at an offset. -/
def stringAt (buffer : Buffer n) (offset : ℕ) : Option (List UInt8) :=
  cString (buffer.bytes.drop offset)

theorem length_lt_of_cString {buffer : Buffer n} {text : List UInt8}
    (h : cString buffer.bytes = some text) : text.length < n := by
  obtain ⟨_, rest, hbytes⟩ := exists_of_cString h
  have hlen := buffer.length_eq
  rw [hbytes, List.length_append, List.length_cons] at hlen
  omega

theorem exists_write (buffer : Buffer n) (offset : ℕ) (new : List UInt8)
    (h : offset + new.length ≤ n) :
    ∃ result, buffer.write offset new = some result ∧
      result.bytes = overlay buffer.bytes offset new :=
  ⟨_, by rw [write, dif_pos h], rfl⟩

theorem write_eq_none (buffer : Buffer n) {offset : ℕ} {new : List UInt8}
    (h : n < offset + new.length) : buffer.write offset new = none := by
  rw [write, dif_neg (Nat.not_le_of_lt h)]

theorem exists_write_byte (buffer : Buffer n) {i : ℕ} (hi : i < n) (c : UInt8) :
    ∃ result, buffer.write i [c] = some result ∧ result.bytes[i]? = some c := by
  obtain ⟨result, hresult, hbytes⟩ := buffer.exists_write i [c] hi
  refine ⟨result, hresult, ?_⟩
  have hlen := buffer.length_eq
  have htake : (buffer.bytes.take i).length = i := List.length_take_of_le (by omega)
  rw [hbytes, overlay, List.append_assoc, List.getElem?_append_right (Nat.le_of_eq htake), htake, Nat.sub_self]
  rfl

/-- A byte stored right behind what was copied to the start of an object. -/
theorem exists_write_behind {buffer : Buffer n} {old copied : List UInt8}
    (h : buffer.bytes = overlay old 0 copied) (hlt : copied.length < n) (c : UInt8) :
    ∃ result, buffer.write copied.length [c] = some result ∧
      result.bytes = overlay old 0 (copied ++ [c]) := by
  obtain ⟨result, hresult, hbytes⟩ := buffer.exists_write copied.length [c] hlt
  refine ⟨result, hresult, ?_⟩
  rw [hbytes, h, overlay_zero, overlay_zero, overlay, List.take_left, List.drop_append, List.length_append,
    List.drop_eq_nil_of_le (Nat.le_add_right _ _), List.nil_append, List.drop_drop, List.length_singleton,
    Nat.add_sub_cancel_left]

/-- The buffer holds a text at its start and zeros behind it. -/
def Filled (buffer : Buffer n) (text : List UInt8) : Prop :=
  buffer.bytes = text ++ List.replicate (n - text.length) 0

theorem filled_zero (n : ℕ) : (zero n).Filled [] := rfl

theorem Filled.length_le {buffer : Buffer n} {text : List UInt8} (h : buffer.Filled text) :
    text.length ≤ n := by
  have hlen := buffer.length_eq
  rw [h, List.length_append] at hlen
  omega

/-- A text copied into a cleared object fills it. -/
theorem filled_iff_overlay {buffer : Buffer n} {text : List UInt8} :
    buffer.Filled text ↔ buffer.bytes = overlay (zero n).bytes 0 text := by
  rw [Filled, overlay_zero, zero, List.drop_replicate]

/-- A byte stored right behind the text makes it longer. -/
theorem Filled.exists_write_byte {buffer : Buffer n} {text : List UInt8} (h : buffer.Filled text)
    (hlt : text.length < n) (c : UInt8) :
    ∃ result, buffer.write text.length [c] = some result ∧ result.Filled (text ++ [c]) := by
  obtain ⟨result, hresult, hbytes⟩ := exists_write_behind (filled_iff_overlay.mp h) hlt c
  exact ⟨result, hresult, filled_iff_overlay.mpr hbytes⟩

/-- The string in the buffer ends at the first zero of the text, or else behind it if there is room. -/
theorem Filled.cString_eq_ite {buffer : Buffer n} {text : List UInt8} (h : buffer.Filled text) :
    cString buffer.bytes = if text.length < n ∨ 0 ∈ text then some (textOf text) else none := by
  rw [h]
  by_cases hlt : text.length < n
  · rw [if_pos (Or.inl hlt), cString_append_zeros text (Nat.sub_pos_of_lt hlt)]
  · rw [show n - text.length = 0 by omega, List.replicate_zero, List.append_nil, Bytes.cString_eq_ite]
    simp [hlt]

end Buffer

end LinuxGateway.Bytes
