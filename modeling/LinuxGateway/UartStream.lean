import LinuxGateway.Uplinks
import LinuxGateway.LibDecimal
import LinuxGateway.LibFraming
import Mathlib.Data.Bool.AllAny

/-! The serial line from the bluetooth node (`bluetooth_master.ino`) to the serial service. The node
prints a line for each measurement; the service takes whatever one `read` returns for one message, so
what it publishes depends on where the driver cuts the stream. -/

namespace LinuxGateway

open Bytes Decimal

/-- The values that a line carries; an `int` of the node has 16 bits. -/
structure BluetoothMessage where
  valueTemp : BitVec 16
  valueHum : BitVec 16
  valueGas : BitVec 16
  valuePres : BitVec 16
  deriving DecidableEq

namespace BluetoothMessage

def idNode : ℤ := 97

/-- What stands between the braces of `stringData`. -/
def body (m : BluetoothMessage) : List UInt8 :=
  ascii "\"id\":" ++ itoa idNode ++ ascii ",\"t\":\"" ++ itoa m.valueTemp.toInt ++
    ascii "\",\"h\":\"" ++ itoa m.valueHum.toInt ++ ascii "\",\"g\":" ++ itoa m.valueGas.toInt ++
    ascii ",\"p\":" ++ itoa m.valuePres.toInt

/-- `stringData`. -/
def text (m : BluetoothMessage) : List UInt8 := ascii "\x7b" ++ m.body ++ ascii "\x7d"

/-- `Serial.println(stringData)`. -/
def line (m : BluetoothMessage) : List UInt8 := m.text ++ [13, 10]

theorem text_eq (m : BluetoothMessage) : m.text = 123 :: (m.body ++ [125]) := rfl

theorem line_eq (m : BluetoothMessage) : m.line = 123 :: (m.body ++ [125, 13, 10]) := by
  rw [line, text_eq, List.cons_append, List.append_assoc]
  rfl

/-- A byte that is no brace, no white space, no NUL and does not begin a comment. -/
def Inner (b : UInt8) : Prop := b ∉ ([0, 9, 10, 11, 12, 13, 32, 47, 123, 125] : List UInt8)

instance (b : UInt8) : Decidable (Inner b) := inferInstanceAs (Decidable (¬_))

theorem inner_of_mem_itoa {value : ℤ} {b : UInt8} (hb : b ∈ itoa value) : Inner b := by
  rcases eq_minusSign_or_isDigit_of_mem_itoa hb with rfl | ⟨hlow, hhigh⟩
  · decide
  · intro hmem
    have hout : ∀ c ∈ ([0, 9, 10, 11, 12, 13, 32, 47, 123, 125] : List UInt8),
        c.toNat < 48 ∨ 57 < c.toNat := List.all_iff_forall_prop.mp (by decide)
    rcases hout b hmem with h | h <;> omega

theorem inner_of_mem_body {m : BluetoothMessage} : ∀ b ∈ m.body, Inner b := by
  have hitoa : ∀ value : ℤ, ∀ b ∈ itoa value, Inner b := fun value b hb => inner_of_mem_itoa hb
  simp only [body, List.forall_mem_append]
  and_intros
  all_goals
    first
    | exact hitoa _
    | exact List.all_iff_forall_prop.mp (by decide)

theorem noNul_line (m : BluetoothMessage) : NoNul m.line := by
  rintro b hb rfl
  rw [line_eq, List.mem_cons, List.mem_append] at hb
  rcases hb with hb | hb | hb
  · exact absurd hb (by decide)
  · exact absurd (inner_of_mem_body 0 hb) (by decide)
  · exact absurd hb (by decide)

/-- A line has one opening brace, its first byte. -/
theorem brace_notMem_tail {m : BluetoothMessage} {start : List UInt8} (h : start <+: m.line) :
    123 ∉ start.tail := by
  intro hmem
  obtain ⟨left, hleft⟩ := h
  cases start with
  | nil => exact absurd hmem List.not_mem_nil
  | cons b start =>
      rw [line_eq, List.cons_append] at hleft
      have hline : 123 ∈ m.body ++ [125, 13, 10] := by
        rw [← (List.cons.inj hleft).2]
        exact List.mem_append_left left hmem
      rcases List.mem_append.mp hline with hbody | hend
      · exact absurd (inner_of_mem_body 123 hbody) (by decide)
      · exact absurd hend (by decide)

/-- Its closing brace ends the text. -/
theorem closing_notMem_start {m : BluetoothMessage} {part : List UInt8} (h : part <+: m.text)
    (hne : part ≠ m.text) : 125 ∉ part := by
  have hpart : part <+: 123 :: m.body := by
    rw [text_eq, ← List.cons_append] at h hne
    rcases List.prefix_concat_iff.mp h with heq | hstarts
    · exact absurd heq hne
    · exact hstarts
  intro hmem
  rcases List.mem_cons.mp (hpart.subset hmem) with hopen | hbody
  · exact absurd hopen (by decide)
  · exact absurd (inner_of_mem_body 125 hbody) (by decide)

end BluetoothMessage

/-! ### What a read can hold -/

/-- The bytes that the node prints. -/
def printed (messages : List BluetoothMessage) : List UInt8 := messages.flatMap BluetoothMessage.line

/-- A line end, or what is left of it. -/
def IsLineEnd (space : List UInt8) : Prop := ∀ b ∈ space, b = 13 ∨ b = 10

theorem isLineEnd_nil : IsLineEnd [] := fun _ hb => absurd hb List.not_mem_nil

theorem isLineEnd_suffix {space : List UInt8} (h : space <:+ [13, 10]) : IsLineEnd space := by
  intro b hb
  simpa using h.subset hb

/-- From any point on, the stream goes on inside a message, or else with a line end, or what is left
of it, and whole lines. -/
theorem rest_of_printed {messages : List BluetoothMessage} {rest : List UInt8}
    (h : rest <:+ printed messages) (hne : rest ≠ []) :
    (∃ b tail, (b = 125 ∨ BluetoothMessage.Inner b) ∧ rest = b :: tail) ∨
      ∃ space later, IsLineEnd space ∧ later ⊆ messages ∧ rest = space ++ printed later := by
  obtain ⟨m, hm, part, later, hpart, hsuffix, hlater, rfl⟩ := Framing.exists_of_suffix_flatMap h hne
  rw [BluetoothMessage.line_eq, List.suffix_cons_iff] at hsuffix
  rcases hsuffix with rfl | ⟨before, hbefore⟩
  · right
    refine ⟨[], m :: later, isLineEnd_nil, ?_, ?_⟩
    · exact List.cons_subset.mpr ⟨hm, hlater⟩
    · rw [printed, List.flatMap_cons, BluetoothMessage.line_eq]
      rfl
  · rw [show m.body ++ [125, 13, 10] = m.body ++ [125] ++ [13, 10] by simp] at hbefore
    rcases List.append_eq_append_iff.mp hbefore with ⟨left, hbody, rfl⟩ | ⟨_, _, hend⟩
    · cases left with
      | nil => exact Or.inr ⟨[13, 10], later, isLineEnd_suffix (List.suffix_refl _), hlater, rfl⟩
      | cons b left =>
          left
          refine ⟨b, _, ?_, rfl⟩
          have hb : b ∈ m.body ++ [125] := by simp [hbody]
          rcases List.mem_append.mp hb with hb | hb
          · exact Or.inr (BluetoothMessage.inner_of_mem_body b hb)
          · exact Or.inl (List.mem_singleton.mp hb)
    · exact Or.inr ⟨part, later, isLineEnd_suffix ⟨_, hend.symm⟩, hlater, rfl⟩

/-- The start of some whole lines: nothing, the start of a message, or a message and what follows it. -/
theorem start_of_printed {later : List BluetoothMessage} {start post : List UInt8}
    (h : start ++ post = printed later) (hne : start ≠ []) :
    ∃ m ∈ later, (start <+: m.text ∧ start ≠ m.text) ∨
      ∃ rest, start = m.text ++ rest ∧ (rest <+: [13, 10] ∨ 123 ∈ rest) := by
  cases later with
  | nil => exact absurd (List.append_eq_nil_iff.mp h).1 hne
  | cons m later =>
      refine ⟨m, List.mem_cons_self, ?_⟩
      rw [printed, List.flatMap_cons, BluetoothMessage.line, List.append_assoc] at h
      rcases List.append_eq_append_iff.mp h with ⟨left, htext, _⟩ | ⟨rest, rfl, hrest⟩
      · cases left with
        | nil =>
            right
            exact ⟨[], by simpa using htext.symm, Or.inl List.nil_prefix⟩
        | cons b left =>
            left
            refine ⟨⟨_, htext.symm⟩, fun heq => ?_⟩
            rw [heq] at htext
            exact absurd (List.self_eq_append_right.mp htext) (List.cons_ne_nil b left)
      · right
        refine ⟨rest, rfl, ?_⟩
        rcases List.append_eq_append_iff.mp hrest with ⟨more, rfl, hmore⟩ | ⟨left, hend, _⟩
        · cases more with
          | nil => exact Or.inl (by simp)
          | cons b more =>
              right
              cases later with
              | nil => simp at hmore
              | cons m' later =>
                  rw [List.flatMap_cons, BluetoothMessage.line_eq, List.cons_append,
                    List.cons_append] at hmore
                  rw [(List.cons.inj hmore).1]
                  simp
        · exact Or.inl ⟨left, hend.symm⟩

/-! ### What is published -/

/-- What json-c does with the node's messages: white space in front is skipped, the first complete
value counts and what follows it is ignored; an incomplete value is an error; a text that starts with
anything but white space, a comment or an opening brace is no object. -/
structure ReadsMessages (json : JsonC) : Prop where
  id : ∀ m : BluetoothMessage, json.HasInteger m.text (ascii "id") BluetoothMessage.idNode
  first : ∀ space (m : BluetoothMessage) rest, IsLineEnd space →
    json.parse (space ++ (m.text ++ rest)) = json.parse m.text
  incomplete : ∀ space part (m : BluetoothMessage), IsLineEnd space → part <+: m.text →
    part ≠ m.text → json.parse (space ++ part) = none
  notObject : ∀ b rest, b ∉ ([9, 10, 11, 12, 13, 32, 47, 123] : List UInt8) →
    json.objectGetEx (json.parse (b :: rest)) (ascii "id") = none

/-- The service finds the id of the bluetooth node in the text. -/
def Announces (json : JsonC) (text : List UInt8) : Prop :=
  json.getInt (json.objectGetEx (json.parse text) (ascii "id")) = idBlue

/-- Exactly one message that the node sent, with at most its own line end. -/
def OneMessage (messages : List BluetoothMessage) (payload : List UInt8) : Prop :=
  ∃ m ∈ messages, ∃ lineEnd, lineEnd <+: [13, 10] ∧ payload = m.text ++ lineEnd

/-- The read does not go from one message into the next, nor from a line end through a whole message. -/
def Separate (received : List UInt8) : Prop :=
  (received.head? = some 123 → 123 ∉ received.tail) ∧
    (received.head? = some 13 ∨ received.head? = some 10 → 125 ∉ received)

instance (received : List UInt8) : Decidable (Separate received) :=
  inferInstanceAs (Decidable (_ ∧ _))

theorem OneMessage.separate {messages : List BluetoothMessage} {payload : List UInt8}
    (h : OneMessage messages payload) : Separate payload := by
  obtain ⟨m, _, lineEnd, hend, rfl⟩ := h
  have hline : m.text ++ lineEnd <+: m.line := (List.prefix_append_right_inj m.text).mpr hend
  refine ⟨fun _ => BluetoothMessage.brace_notMem_tail hline, fun hhead => ?_⟩
  rw [BluetoothMessage.text_eq] at hhead
  exact absurd hhead (by simp)

/-- From a line end that something follows, a read starts with a byte of the line end. -/
theorem IsLineEnd.head? {space : List UInt8} (h : IsLineEnd space) (hne : space ≠ [])
    (rest : List UInt8) : (space ++ rest).head? = some 13 ∨ (space ++ rest).head? = some 10 := by
  cases space with
  | nil => exact absurd rfl hne
  | cons b space =>
      rcases h b List.mem_cons_self with rfl | rfl
      · exact Or.inl rfl
      · exact Or.inr rfl

theorem separate_inside {b : UInt8} (hb : b ∉ ([9, 10, 11, 12, 13, 32, 47, 123] : List UInt8))
    (tail : List UInt8) : Separate (b :: tail) := by
  simp only [List.mem_cons, List.not_mem_nil, or_false, not_or] at hb
  simp [Separate, hb]

theorem separate_start {space part : List UInt8} {m : BluetoothMessage} (hspace : IsLineEnd space)
    (hpart : part <+: m.text) (hne : part ≠ m.text) : Separate (space ++ part) := by
  constructor
  · intro hhead
    by_cases hnil : space = []
    · rw [hnil, List.nil_append]
      exact BluetoothMessage.brace_notMem_tail (hpart.trans (List.prefix_append _ _))
    · have hline := hspace.head? hnil part
      rw [hhead] at hline
      exact absurd hline (by decide)
  · intro _ hmem
    rcases List.mem_append.mp hmem with hmem | hmem
    · exact absurd (hspace 125 hmem) (by decide)
    · exact BluetoothMessage.closing_notMem_start hpart hne hmem

/-- A read begins inside a message, or ends before the first message in it does, or holds that
message. -/
theorem read_cases {messages : List BluetoothMessage} {received post : List UInt8}
    (h : received ++ post <:+ printed messages) (hne : received ≠ []) :
    (∃ b tail, (b = 125 ∨ BluetoothMessage.Inner b) ∧ received = b :: tail) ∨
      (∃ space part m, IsLineEnd space ∧ part <+: BluetoothMessage.text m ∧
        part ≠ BluetoothMessage.text m ∧ received = space ++ part) ∨
      ∃ m ∈ messages, ∃ space rest, IsLineEnd space ∧ (rest <+: [13, 10] ∨ 123 ∈ rest) ∧
        received = space ++ (m.text ++ rest) := by
  have hline : IsLineEnd received → ∃ space part m, IsLineEnd space ∧
      part <+: BluetoothMessage.text m ∧ part ≠ BluetoothMessage.text m ∧ received = space ++ part :=
    fun hreceived => ⟨received, [], ⟨0, 0, 0, 0⟩, hreceived, List.nil_prefix,
      (List.cons_ne_nil _ _).symm, (List.append_nil _).symm⟩
  have happend : received ++ post ≠ [] := by simp [hne]
  rcases rest_of_printed h happend with ⟨b, tail, hb, hcons⟩ | ⟨space, later, hspace, hlater, heq⟩
  · left
    cases received with
    | nil => exact absurd rfl hne
    | cons c received => exact ⟨c, received, (List.cons.inj hcons).1 ▸ hb, rfl⟩
  · right
    rcases List.append_eq_append_iff.mp heq with ⟨left, hleft, _⟩ | ⟨start, rfl, hstart⟩
    · left
      apply hline
      intro b hb
      exact hspace b (by rw [hleft]; exact List.mem_append_left left hb)
    · by_cases hnil : start = []
      · left
        apply hline
        rw [hnil, List.append_nil]
        exact hspace
      · obtain ⟨m, hm, ⟨hpart, hproper⟩ | ⟨rest, rfl, hrest⟩⟩ := start_of_printed hstart.symm hnil
        · exact Or.inl ⟨space, start, m, hspace, hpart, hproper, rfl⟩
        · exact Or.inr ⟨m, hlater hm, space, rest, hspace, hrest, rfl⟩

/-- Of the reads that hold a message, the separate ones hold nothing else. -/
theorem oneMessage_of_separate {messages : List BluetoothMessage} {m : BluetoothMessage}
    (hm : m ∈ messages) {space rest : List UInt8} (hspace : IsLineEnd space)
    (hrest : rest <+: [13, 10] ∨ 123 ∈ rest) (h : Separate (space ++ (m.text ++ rest))) :
    OneMessage messages (space ++ (m.text ++ rest)) := by
  have hnil : space = [] := by
    by_contra hne
    have hclosing := h.2 (hspace.head? hne _)
    exact hclosing (by simp [BluetoothMessage.text_eq])
  subst hnil
  have hopen : 123 ∉ rest := by
    intro hmem
    have htail := h.1 rfl
    rw [BluetoothMessage.text_eq] at htail
    exact htail (by simp [hmem])
  exact ⟨m, hm, rest, hrest.resolve_right hopen, rfl⟩

section Published

variable {json : JsonC} (hjson : ReadsMessages json)

include hjson

theorem announces_message {space rest : List UInt8} (hspace : IsLineEnd space)
    (m : BluetoothMessage) : Announces json (space ++ (m.text ++ rest)) := by
  rw [Announces, hjson.first space m rest hspace]
  exact (json.getInt_eq_iff (by decide) (by decide) (by decide)).mpr (Or.inl (hjson.id m))

/-- A read from the stream is published in error exactly when it is not separate. -/
theorem announced_oneMessage_iff {messages : List BluetoothMessage} {received post : List UInt8}
    (h : received ++ post <:+ printed messages) (hne : received ≠ []) :
    (Announces json received → OneMessage messages received) ↔ Separate received := by
  have hsilent : json.objectGetEx (json.parse received) (ascii "id") = none → ¬Announces json received := by
    intro hnone hannounces
    rw [Announces, hnone] at hannounces
    exact absurd (show (0 : ℤ) = idBlue from hannounces) (by decide)
  rcases read_cases h hne with ⟨b, tail, hb, rfl⟩ | ⟨space, part, m, hspace, hpart, hproper, rfl⟩ |
    ⟨m, hm, space, rest, hspace, hrest, rfl⟩
  · have hstart : b ∉ ([9, 10, 11, 12, 13, 32, 47, 123] : List UInt8) := by
      rcases hb with rfl | hb
      · decide
      · exact fun hmem => hb (List.mem_cons_of_mem 0 (List.mem_append_left [125] hmem))
    exact iff_of_true (fun hannounces => absurd hannounces (hsilent (hjson.notObject b tail hstart)))
      (separate_inside hstart tail)
  · have hnone : json.objectGetEx (json.parse (space ++ part)) (ascii "id") = none := by
      rw [hjson.incomplete space part m hspace hpart hproper]
      rfl
    exact iff_of_true (fun hannounces => absurd hannounces (hsilent hnone))
      (separate_start hspace hpart hproper)
  · constructor
    · intro hone
      exact (hone (announces_message hjson hspace m)).separate
    · intro hseparate _
      exact oneMessage_of_separate hm hspace hrest hseparate

end Published

/-! ### The service on a whole stream -/

/-- The bytes that a `read` took from the line. -/
def SerialRead.received : SerialRead → List UInt8
  | .failed => []
  | .bytes received _ => received

/-- Every published payload is one message of the node. -/
def SerialRead.Sound (messages : List BluetoothMessage) (outputs : List Message) : Prop :=
  ∀ message ∈ outputs, message.topic = .dataBl → OneMessage messages message.payload

/-- The read leaves room for the NUL, and a long one is separate. -/
def SerialRead.Clean (read : SerialRead) : Prop :=
  read.received.length < 50 ∧ (41 < read.received.length → Separate read.received)

instance (read : SerialRead) : Decidable read.Clean := inferInstanceAs (Decidable (_ ∧ _))

theorem noNul_printed (messages : List BluetoothMessage) : NoNul (printed messages) := by
  intro b hb
  obtain ⟨m, _, hb⟩ := List.mem_flatMap.mp hb
  exact m.noNul_line b hb

/-- One read from the stream. -/
theorem clean_iff {json : JsonC} (hjson : ReadsMessages json) {messages : List BluetoothMessage}
    {read : SerialRead} {post : List UInt8} (h : read.received ++ post <:+ printed messages)
    (globals : UartGlobals json) :
    read.Clean ↔ ∃ next, globals.receiveSerial read = some next ∧
      SerialRead.Sound messages next.2 := by
  cases read with
  | failed => exact iff_of_true ⟨by decide, by decide⟩ ⟨_, rfl, fun _ hmem => absurd hmem List.not_mem_nil⟩
  | bytes received hlen =>
      have hno : NoNul received := fun b hb =>
        noNul_printed messages b (h.subset (List.mem_append_left post hb))
      have hpublished := globals.receiveSerial_published hlen
      rw [textOf_of_noNul hno] at hpublished
      by_cases hshort : received.length < 50
      · rw [if_pos (Or.inl hshort)] at hpublished
        obtain ⟨next, hnext⟩ := hpublished
        rw [hnext]
        simp only [SerialRead.Clean, SerialRead.received, hshort, true_and, Option.some.injEq,
          exists_eq_left']
        by_cases hlong : 41 < received.length
        · have hne : received ≠ [] := by
            rintro rfl
            exact absurd hlong (by decide)
          have hexact : (Announces json received → OneMessage messages received) ↔
              Separate received := announced_oneMessage_iff hjson h hne
          by_cases hannounces : Announces json received
          · rw [if_pos ⟨hlong, hannounces⟩]
            simpa [SerialRead.Sound, hlong, hannounces] using hexact.symm
          · rw [if_neg fun hboth => hannounces hboth.2]
            simpa [SerialRead.Sound, hlong, hannounces] using hexact
        · rw [if_neg fun hboth => hlong hboth.1]
          simp [SerialRead.Sound, hlong]
      · have hzero : ¬(received.length < 50 ∨ 0 ∈ received) :=
          fun hor => hor.elim hshort fun hmem => hno 0 hmem rfl
        rw [if_neg hzero] at hpublished
        rw [hpublished]
        simp [SerialRead.Clean, SerialRead.received, hshort]

/-- However the driver cuts the stream, only whole messages are published, and every read is handled
without running past `msg`, exactly when every read is clean. -/
theorem published_sound_iff_clean {json : JsonC} (hjson : ReadsMessages json)
    {messages : List BluetoothMessage} {reads : List SerialRead}
    (hcut : reads.flatMap SerialRead.received = printed messages) :
    Runs.Each UartGlobals.receiveSerial (fun _ _ next => SerialRead.Sound messages next.2)
        (UartGlobals.init json) reads ↔
      ∀ read ∈ reads, read.Clean := by
  apply Runs.each_iff_forall_mem
  intro read hread globals
  obtain ⟨before, after, rfl⟩ := List.append_of_mem hread
  have hsuffix : read.received ++ after.flatMap SerialRead.received <:+ printed messages := by
    rw [← hcut, List.flatMap_append, List.flatMap_cons]
    exact List.suffix_append _ _
  exact clean_iff hjson hsuffix globals

/-! ### A parser for the node's messages -/

/-- A parser that knows the node's messages: behind line ends it takes a text that starts like a
message, if the closing brace is there. -/
def messageReader : JsonC :=
  { JsonC.table (ascii "id") [] with
    parse := fun text =>
      let rest := text.dropWhile fun b => b = 13 ∨ b = 10
      if ascii "\x7b\"id\":97," <+: rest ∧ 125 ∈ rest then some (.object 97) else none }

theorem IsLineEnd.dropWhile {space : List UInt8} (h : IsLineEnd space) {rest : List UInt8}
    (hrest : rest = [] ∨ rest.head? = some 123) :
    (space ++ rest).dropWhile (fun b => b = 13 ∨ b = 10) = rest := by
  induction space with
  | nil =>
      rcases hrest with rfl | hhead
      · rfl
      · cases rest with
        | nil => rfl
        | cons b rest =>
            obtain rfl := Option.some.inj hhead
            rfl
  | cons b space ih =>
      have hb := h b List.mem_cons_self
      rw [List.cons_append, List.dropWhile_cons_of_pos (by simpa using hb)]
      exact ih fun c hc => h c (List.mem_cons_of_mem b hc)

theorem startsWith_text (m : BluetoothMessage) (rest : List UInt8) :
    ascii "\x7b\"id\":97," <+: m.text ++ rest := by
  have hid : itoa BluetoothMessage.idNode = ascii "97" := by decide
  rw [BluetoothMessage.text, BluetoothMessage.body, hid]
  simp only [List.append_assoc]
  exact ⟨_, rfl⟩

theorem messageReader_message {space : List UInt8} (hspace : IsLineEnd space) (m : BluetoothMessage)
    (rest : List UInt8) :
    messageReader.parse (space ++ (m.text ++ rest)) = some (JsonC.TableValue.object 97) := by
  have hdrop : (space ++ (m.text ++ rest)).dropWhile (fun b => b = 13 ∨ b = 10) = m.text ++ rest :=
    hspace.dropWhile (Or.inr rfl)
  have hclosing : 125 ∈ m.text ++ rest := by simp [BluetoothMessage.text_eq]
  simp only [messageReader, hdrop]
  rw [if_pos ⟨startsWith_text m rest, hclosing⟩]
  rfl

theorem messageReader_text (m : BluetoothMessage) :
    messageReader.parse m.text = some (JsonC.TableValue.object 97) := by
  have hparse := messageReader_message isLineEnd_nil m []
  rw [List.append_nil, List.nil_append] at hparse
  exact hparse

theorem readsMessages_messageReader : ReadsMessages messageReader where
  id m := ⟨.number 97, by rw [messageReader_text]; rfl, rfl⟩
  first space m rest hspace := by rw [messageReader_message hspace m rest, messageReader_text]
  incomplete space part m hspace hpart hne := by
    have hhead : part = [] ∨ part.head? = some 123 := by
      obtain ⟨left, hleft⟩ := hpart
      cases part with
      | nil => exact Or.inl rfl
      | cons b part =>
          rw [BluetoothMessage.text_eq, List.cons_append] at hleft
          exact Or.inr (congrArg some (List.cons.inj hleft).1)
    have hclosing := BluetoothMessage.closing_notMem_start hpart hne
    simp only [messageReader, hspace.dropWhile hhead]
    rw [if_neg fun h => hclosing h.2]
  notObject b rest hb := by
    simp only [List.mem_cons, List.not_mem_nil, or_false, not_or] at hb
    have hstarts : ¬ascii "\x7b\"id\":97," <+: b :: rest := by
      rintro ⟨tail, htail⟩
      exact hb.2.2.2.2.2.2.2 (List.cons.inj htail).1.symm
    have hdrop : (b :: rest).dropWhile (fun b => b = 13 ∨ b = 10) = b :: rest :=
      List.dropWhile_cons_of_neg (by simp [hb])
    simp only [messageReader, hdrop]
    rw [if_neg fun h => hstarts h.1]
    rfl

/-! ### Two streams -/

/-- Three lines of 43 bytes. -/
def threeMessages : List BluetoothMessage := [⟨25, 60, -1, -1⟩, ⟨26, 61, -2, -1⟩, ⟨27, 62, -1, -3⟩]

/-- Their bytes: the start of the first line, its end with the start of the second in one long read,
a failed read, the end of the second line, and the third as a whole. -/
def cutInside : List SerialRead :=
  [.bytes ((printed threeMessages).take 10) (by decide),
    .bytes (((printed threeMessages).drop 10).take 45) (by decide),
    .failed,
    .bytes (((printed threeMessages).drop 55).take 31) (by decide),
    .bytes ((printed threeMessages).drop 86) (by decide)]

/-- Of the four pieces only the last one, a whole line, is published. -/
theorem published_sound_one_line :
    Runs.Each UartGlobals.receiveSerial
        (fun _ _ next => SerialRead.Sound threeMessages next.2) (UartGlobals.init messageReader)
        cutInside ∧
      (Runs.run UartGlobals.receiveSerial (UartGlobals.init messageReader) cutInside).map Prod.snd =
        some [⟨.dataBl, BluetoothMessage.line ⟨27, 62, -1, -3⟩, QOS, 0⟩] :=
  ⟨(published_sound_iff_clean readsMessages_messageReader (by decide)).mpr (by decide),
    by decide +kernel⟩

/-- Two lines of 39 bytes. -/
def twoMessages : List BluetoothMessage := [⟨0, 0, 0, 0⟩, ⟨0, 0, 0, 0⟩]

/-- Their bytes, cut three bytes into the second line. -/
def cutLate : List SerialRead :=
  [.bytes ((printed twoMessages).take 42) (by decide),
    .bytes ((printed twoMessages).drop 42) (by decide)]

/-- A message with the start of the next one behind it is published. -/
theorem published_not_sound :
    ¬∀ (json : JsonC) (messages : List BluetoothMessage) (reads : List SerialRead),
      ReadsMessages json → reads.flatMap SerialRead.received = printed messages →
        Runs.Each UartGlobals.receiveSerial (fun _ _ next => SerialRead.Sound messages next.2)
          (UartGlobals.init json) reads := by
  intro h
  obtain ⟨next, hnext, hsound, _⟩ := h messageReader twoMessages cutLate readsMessages_messageReader
    (by decide)
  have hsuffix : (printed twoMessages).take 42 ++ (printed twoMessages).drop 42 <:+
      printed twoMessages :=
    ⟨[], by rw [List.nil_append, List.take_append_drop]⟩
  have hclean := (clean_iff readsMessages_messageReader hsuffix _).mpr ⟨next, hnext, hsound⟩
  exact absurd hclean (by decide)

end LinuxGateway
