import LinuxGateway.LibBytes

/-! The parser of the Wi-Fi credentials in the `loop` of `hostpost.ino`. A client sends the name of a
network, a point, the password and a line end; the two nested loops copy them into global arrays. Both
loops count to `sizeof(temp)`, which is the size of a `String` object and not the length of the text,
and the point ends the name without a NUL behind it. -/

namespace LinuxGateway

open Bytes

structure Credentials where
  ssid : List UInt8
  password : List UInt8
  ssid_length : ssid.length ≤ 49
  password_length : password.length ≤ 49
  ssid_plain : ∀ b ∈ ssid, b ≠ 46 ∧ b ≠ 10 ∧ b ≠ 0
  password_plain : ∀ b ∈ password, b ≠ 10 ∧ b ≠ 0

/-- The text that arrives: the name, a point, the password and a line end. -/
def Credentials.text (sent : Credentials) : List UInt8 := sent.ssid ++ 46 :: (sent.password ++ [10])

structure Hostpost where
  ssid : Buffer 50
  pass : Buffer 50

namespace Hostpost

/-- `temp[i]`: a `String` answers with a NUL outside its text. -/
def charAt (temp : List UInt8) (i : ℕ) : UInt8 := temp.getD i 0

/-- The inner loop from `k` on, with so many passes left. -/
def passLoop (temp : List UInt8) (j : ℕ) : ℕ → ℕ → Buffer 50 → Option (Buffer 50)
  | 0, _, pass => some pass
  | n + 1, k, pass =>
      if charAt temp (k + j + 1) = 10 then pass.write k [0]
      else (pass.write k [charAt temp (k + j + 1)]).bind fun pass => passLoop temp j n (k + 1) pass

/-- The outer loop from `j` on. At the point it runs the inner loop and ends. -/
def ssidLoop (sizeofTemp : ℕ) (temp : List UInt8) : ℕ → ℕ → Hostpost → Option Hostpost
  | 0, _, globals => some globals
  | n + 1, j, globals =>
      if charAt temp j = 46 then
        (passLoop temp j sizeofTemp 0 globals.pass).map fun pass => { globals with pass := pass }
      else
        (globals.ssid.write j [if charAt temp j = 10 then 0 else charAt temp j]).bind fun ssid =>
          ssidLoop sizeofTemp temp n (j + 1) { globals with ssid := ssid }

def parse (sizeofTemp : ℕ) (temp : List UInt8) (globals : Hostpost) : Option Hostpost :=
  ssidLoop sizeofTemp temp sizeofTemp 0 globals

/-! ### What the loops copy -/

theorem charAt_append (front : List UInt8) (c : UInt8) (rest : List UInt8) :
    charAt (front ++ c :: rest) front.length = c := by
  simp [charAt]

theorem charAt_password (ssid copied : List UInt8) (c : UInt8) (rest : List UInt8) :
    charAt (ssid ++ 46 :: (copied ++ c :: rest)) (copied.length + ssid.length + 1) = c := by
  have hchar := charAt_append (ssid ++ 46 :: copied) c rest
  rw [List.append_assoc, List.cons_append, List.length_append, List.length_cons] at hchar
  rwa [show copied.length + ssid.length + 1 = ssid.length + (copied.length + 1) by omega]

/-- The invariant of the inner loop: so far it copied the start of the password. -/
theorem passLoop_spec (ssid old : List UInt8) {copied left : List UInt8} (hplain : ∀ b ∈ left, b ≠ 10)
    (hlen : copied.length + left.length ≤ 49) (n : ℕ) {pass : Buffer 50}
    (hpass : pass.bytes = overlay old 0 copied) :
    ∃ result, passLoop (ssid ++ 46 :: (copied ++ (left ++ [10]))) ssid.length n copied.length pass =
        some result ∧
      result.bytes = overlay old 0 (copied ++ (left ++ [0]).take n) := by
  induction n generalizing copied left pass with
  | zero =>
      refine ⟨pass, rfl, ?_⟩
      rw [List.take_zero, List.append_nil]
      exact hpass
  | succ n ih =>
      have hroom : copied.length < 50 := by omega
      cases left with
      | nil =>
          obtain ⟨result, hresult, hbytes⟩ := Buffer.exists_write_behind hpass hroom 0
          refine ⟨result, ?_, ?_⟩
          · rw [passLoop, List.nil_append, if_pos (charAt_password ssid copied 10 [])]
            exact hresult
          · rw [List.nil_append, List.take_succ_cons, List.take_nil]
            exact hbytes
      | cons c left =>
          have hc : c ≠ 10 := hplain c List.mem_cons_self
          have hleft : ∀ b ∈ left, b ≠ 10 := fun b hb => hplain b (List.mem_cons_of_mem c hb)
          have hfits : (copied ++ [c]).length + left.length ≤ 49 := by
            rw [List.length_append, List.length_singleton]
            rw [List.length_cons] at hlen
            omega
          obtain ⟨written, hwritten, hbytes⟩ := Buffer.exists_write_behind hpass hroom c
          obtain ⟨result, hresult, hresultBytes⟩ := ih hleft hfits hbytes
          rw [List.append_assoc, List.singleton_append] at hresult hresultBytes
          refine ⟨result, ?_, hresultBytes⟩
          rw [passLoop, List.cons_append, charAt_password, if_neg hc, hwritten, Option.bind_some]
          rw [List.length_append, List.length_singleton] at hresult
          exact hresult

/-- The invariant of the outer loop. It comes to the password only if it gets through the name. -/
theorem ssidLoop_spec (sizeofTemp : ℕ) (old : List UInt8) {copied left password : List UInt8}
    (hplain : ∀ b ∈ left, b ≠ 46 ∧ b ≠ 10) (hlen : copied.length + left.length ≤ 49)
    (hpassword : ∀ b ∈ password, b ≠ 10) (hpasswordLen : password.length ≤ 49) (n : ℕ)
    {globals : Hostpost} (hssid : globals.ssid.bytes = overlay old 0 copied) :
    ∃ result, ssidLoop sizeofTemp (copied ++ (left ++ 46 :: (password ++ [10]))) n copied.length globals =
        some result ∧
      result.ssid.bytes = overlay old 0 (copied ++ left.take n) ∧
      result.pass.bytes = if left.length < n
        then overlay globals.pass.bytes 0 ((password ++ [0]).take sizeofTemp) else globals.pass.bytes := by
  induction n generalizing copied left globals with
  | zero =>
      refine ⟨globals, rfl, ?_, ?_⟩
      · rw [List.take_zero, List.append_nil]
        exact hssid
      · rw [if_neg (Nat.not_lt_zero _)]
  | succ n ih =>
      cases left with
      | nil =>
          have hnothing : globals.pass.bytes = overlay globals.pass.bytes 0 [] := by
            rw [overlay_zero]
            rfl
          obtain ⟨pass, hpass, hbytes⟩ := passLoop_spec copied globals.pass.bytes hpassword
            (by rw [List.length_nil]; omega) sizeofTemp hnothing
          refine ⟨{ globals with pass := pass }, ?_, ?_, ?_⟩
          · rw [ssidLoop, List.nil_append, if_pos (charAt_append copied 46 _)]
            exact Option.map_eq_some_iff.mpr ⟨pass, hpass, rfl⟩
          · rw [List.take_nil, List.append_nil]
            exact hssid
          · rw [List.length_nil, if_pos (Nat.succ_pos n)]
            exact hbytes
      | cons c left =>
          obtain ⟨hpoint, hline⟩ := hplain c List.mem_cons_self
          have hleft : ∀ b ∈ left, b ≠ 46 ∧ b ≠ 10 := fun b hb => hplain b (List.mem_cons_of_mem c hb)
          have hfits : (copied ++ [c]).length + left.length ≤ 49 := by
            rw [List.length_append, List.length_singleton]
            rw [List.length_cons] at hlen
            omega
          obtain ⟨written, hwritten, hbytes⟩ :=
            Buffer.exists_write_behind hssid (show copied.length < 50 by omega) c
          have hglobals : ({ globals with ssid := written } : Hostpost).ssid.bytes =
              overlay old 0 (copied ++ [c]) := hbytes
          obtain ⟨result, hresult, hresultSsid, hresultPass⟩ := ih hleft hfits hglobals
          rw [List.append_assoc, List.singleton_append] at hresult hresultSsid
          refine ⟨result, ?_, hresultSsid, ?_⟩
          · rw [ssidLoop, List.cons_append, charAt_append, if_neg hpoint, if_neg hline, hwritten,
              Option.bind_some]
            rw [List.length_append, List.length_singleton] at hresult
            exact hresult
          · rw [hresultPass]
            simp only [List.length_cons, Nat.add_lt_add_iff_right]

theorem parse_spec (sizeofTemp : ℕ) (sent : Credentials) (globals : Hostpost) :
    ∃ result, globals.parse sizeofTemp sent.text = some result ∧
      result.ssid.bytes = overlay globals.ssid.bytes 0 (sent.ssid.take sizeofTemp) ∧
      result.pass.bytes = if sent.ssid.length < sizeofTemp
        then overlay globals.pass.bytes 0 ((sent.password ++ [0]).take sizeofTemp)
        else globals.pass.bytes := by
  have hnothing : globals.ssid.bytes = overlay globals.ssid.bytes 0 [] := by
    rw [overlay_zero]
    rfl
  have hfits : ([] : List UInt8).length + sent.ssid.length ≤ 49 := by
    rw [List.length_nil, Nat.zero_add]
    exact sent.ssid_length
  exact ssidLoop_spec sizeofTemp globals.ssid.bytes
    (fun b hb => ⟨(sent.ssid_plain b hb).1, (sent.ssid_plain b hb).2.1⟩) hfits
    (fun b hb => (sent.password_plain b hb).1) sent.password_length sizeofTemp hnothing

/-! ### When the credentials are recovered -/

def Recovered (sizeofTemp : ℕ) (sent : Credentials) (globals : Hostpost) : Prop :=
  ∃ result, globals.parse sizeofTemp sent.text = some result ∧
    cString result.ssid.bytes = some sent.ssid ∧ cString result.pass.bytes = some sent.password

/-- What of a text lies behind the bound of the loops was in the array before, and ended there. -/
def HeldBehind (sizeofTemp : ℕ) (text : List UInt8) (array : Buffer 50) : Prop :=
  cString (array.bytes.drop (min text.length sizeofTemp)) = some (text.drop sizeofTemp)

theorem cString_overlay_take_iff (sizeofTemp : ℕ) {text : List UInt8} (htext : NoNul text)
    (array : Buffer 50) :
    cString (overlay array.bytes 0 (text.take sizeofTemp)) = some text ↔
      HeldBehind sizeofTemp text array := by
  rw [overlay_zero, cString_take_append_iff htext, List.length_take, Nat.min_comm]
  rfl

/-- A password that is shorter than the bound gets its NUL; of a longer one the array must hold the rest. -/
theorem cString_pass_iff (sizeofTemp : ℕ) {password : List UInt8} (hno : NoNul password)
    (array : Buffer 50) :
    cString (overlay array.bytes 0 ((password ++ [0]).take sizeofTemp)) = some password ↔
      password.length < sizeofTemp ∨ HeldBehind sizeofTemp password array := by
  by_cases hshort : password.length < sizeofTemp
  · have htake : (password ++ [0]).take sizeofTemp = password ++ [0] := by
      apply List.take_of_length_le
      rw [List.length_append, List.length_singleton]
      exact hshort
    rw [htake, overlay_zero, List.append_assoc, List.singleton_append]
    exact iff_of_true (cString_terminated hno _) (Or.inl hshort)
  · rw [List.take_append_of_le_length (Nat.le_of_not_lt hshort), cString_overlay_take_iff sizeofTemp hno,
      or_iff_right hshort]

/-- The credentials are recovered if and only if the array of the name already ends where the copy of
the name does, or goes on as the name does behind the bound of the loops, and the same holds of the
password where the loops do not write its NUL. -/
theorem recovered_iff (sizeofTemp : ℕ) (sent : Credentials) (globals : Hostpost) :
    globals.Recovered sizeofTemp sent ↔
      HeldBehind sizeofTemp sent.ssid globals.ssid ∧
        if sent.ssid.length < sizeofTemp
        then sent.password.length < sizeofTemp ∨ HeldBehind sizeofTemp sent.password globals.pass
        else cString globals.pass.bytes = some sent.password := by
  have hssid : NoNul sent.ssid := fun b hb => (sent.ssid_plain b hb).2.2
  have hpassword : NoNul sent.password := fun b hb => (sent.password_plain b hb).2
  obtain ⟨result, hresult, hresultSsid, hresultPass⟩ := parse_spec sizeofTemp sent globals
  rw [Recovered, hresult]
  simp only [Option.some.injEq, exists_eq_left']
  rw [hresultSsid, hresultPass, cString_overlay_take_iff sizeofTemp hssid]
  apply and_congr_right
  intro _
  split
  · exact cString_pass_iff sizeofTemp hpassword globals.pass
  · exact Iff.rfl

def shortCredentials : Credentials where
  ssid := [97]
  password := []
  ssid_length := by decide
  password_length := by decide
  ssid_plain b hb := by
    rw [List.mem_singleton.mp hb]
    decide
  password_plain b hb := absurd hb List.not_mem_nil

def afterLonger : Hostpost where
  ssid := ⟨[98, 98] ++ List.replicate 48 0, by decide⟩
  pass := Buffer.zero 50

/-- Whatever the size of a `String` is, a name that is shorter than the one before is not recovered. -/
theorem not_recovered :
    ¬∃ sizeofTemp, ∀ (sent : Credentials) (globals : Hostpost), globals.Recovered sizeofTemp sent := by
  rintro ⟨sizeofTemp, h⟩
  obtain ⟨result, hresult, hssid, _⟩ := h shortCredentials afterLonger
  obtain ⟨result', hresult', hbytes, _⟩ := parse_spec sizeofTemp shortCredentials afterLonger
  obtain rfl := Option.some.inj (hresult.symm.trans hresult')
  rw [hbytes] at hssid
  cases sizeofTemp with
  | zero => exact absurd hssid (by decide)
  | succ n =>
      have htake : shortCredentials.ssid.take (n + 1) = [97] := by
        rw [shortCredentials, List.take_succ_cons, List.take_nil]
      rw [htake] at hssid
      exact absurd hssid (by decide)

end Hostpost

end LinuxGateway
