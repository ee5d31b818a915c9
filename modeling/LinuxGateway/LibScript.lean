import LinuxGateway.LibRuns

/-! Code that drives a device, as the tree of its operations: the next operation may depend on every
answer so far. A script can be run on its own, or step by step among other threads and the events of
the device itself, which may start threads when its state changes. For the second, one thread owns the
device: it may rely on what the other threads and the device can do to it between two of its operations. -/

namespace LinuxGateway.Scripts

inductive Script (Op R α : Type) where
  | done (result : α)
  | perform (op : Op) (next : R → Script Op R α)

namespace Script

variable {Op R S α β : Type}

def bind : Script Op R α → (α → Script Op R β) → Script Op R β
  | done result, f => f result
  | perform op next, f => perform op fun answer => (next answer).bind f

instance : Monad (Script Op R) where
  pure := done
  bind := bind

/-- One operation and its answer. -/
def call (op : Op) : Script Op R R := perform op done

/-- The script on its own: its result and the device after it. -/
def run (exec : Op → S → R × S) : Script Op R α → S → α × S
  | done result, s => (result, s)
  | perform op next, s => (next (exec op s).1).run exec (exec op s).2

variable {exec : Op → S → R × S}

@[simp] theorem run_pure (result : α) (s : S) :
    run exec (pure result : Script Op R α) s = (result, s) := rfl

@[simp] theorem run_call (op : Op) (s : S) : run exec (call op) s = exec op s := rfl

@[simp] theorem run_bind (script : Script Op R α) (f : α → Script Op R β) (s : S) :
    run exec (script >>= f) s = run exec (f (run exec script s).1) (run exec script s).2 := by
  show run exec (script.bind f) s = _
  induction script generalizing s with
  | done result => rfl
  | perform op next ih => exact ih (exec op s).1 (exec op s).2

end Script

section Threads

variable {Op R S ε α β : Type} (exec : Op → S → R × S)

/-- Threads around one device. -/
structure System (Op R S : Type) where
  owner : Script Op R Unit
  helpers : List (Script Op R Unit)
  device : S

inductive Event (ε : Type) where
  /-- The next operation of the owner. -/
  | owner
  /-- The next operation of one of the other threads. -/
  | helper (i : ℕ)
  /-- Something the device does by itself. -/
  | device (event : ε)

/-- The device may start threads when something happens to it, and when an operation takes it from one
state to another. -/
def step (happen : S → ε → Option (S × List (Script Op R Unit)))
    (raised : S → S → List (Script Op R Unit)) :
    Runs.Step (System Op R S) (Event ε) Unit := fun system event =>
  match event with
  | .owner =>
      match system.owner with
      | .done _ => none
      | .perform op next =>
          let device := (exec op system.device).2
          some ({ system with owner := next (exec op system.device).1,
                              helpers := system.helpers ++ raised system.device device, device }, [])
  | .helper i =>
      match system.helpers[i]? with
      | some (.perform op next) =>
          let device := (exec op system.device).2
          let helpers := system.helpers.set i (next (exec op system.device).1)
          some ({ system with helpers := helpers ++ raised system.device device, device }, [])
      | _ => none
  | .device event =>
      (happen system.device event).map fun result =>
        ({ system with device := result.1, helpers := system.helpers ++ result.2 }, [])

variable (inv : S → Prop) (effect : S → S → Prop) (conduct : Op → S → Prop)

/-- Every operation of the thread is fit for the state it meets, keeps the invariant and does nothing
outside `effect`, whatever the other threads do in between. -/
def Keeps : Script Op R α → (α → Prop) → Prop
  | .done result, post => post result
  | .perform op next, post => ∀ s, inv s →
      conduct op s ∧ inv (exec op s).2 ∧ effect s (exec op s).2 ∧ Keeps (next (exec op s).1) post

/-- No step of another thread makes the assertion false. -/
def Stable (assertion : S → Prop) : Prop :=
  ∀ s s', inv s → inv s' → effect s s' → assertion s → assertion s'

/-- Every operation of the owner is fit for the state it meets and keeps the invariant. In front of each of
them it knows an assertion that is stable. -/
def Owns : Script Op R α → (S → Prop) → (α → S → Prop) → Prop
  | .done result, pre, post => ∀ s, inv s → pre s → post result s
  | .perform op next, pre, post => ∀ s, inv s → pre s →
      conduct op s ∧ inv (exec op s).2 ∧ ∃ mid : S → Prop, Stable inv effect mid ∧ mid (exec op s).2 ∧
        Owns (next (exec op s).1) mid post

variable {exec inv effect conduct}

theorem Keeps.mono {script : Script Op R α} {post post' : α → Prop}
    (h : Keeps exec inv effect conduct script post) (hpost : ∀ a, post a → post' a) :
    Keeps exec inv effect conduct script post' := by
  induction script with
  | done result => exact hpost result h
  | perform op next ih =>
      intro s hs
      obtain ⟨hconduct, hinv, heffect, hnext⟩ := h s hs
      exact ⟨hconduct, hinv, heffect, ih _ hnext⟩

theorem Keeps.bind {script : Script Op R α} {f : α → Script Op R β} (mid : α → Prop) {post : β → Prop}
    (hscript : Keeps exec inv effect conduct script mid) (hf : ∀ a, mid a → Keeps exec inv effect conduct (f a) post) :
    Keeps exec inv effect conduct (script >>= f) post := by
  show Keeps exec inv effect conduct (script.bind f) post
  induction script with
  | done result => exact hf result hscript
  | perform op next ih =>
      intro s hs
      obtain ⟨hconduct, hinv, heffect, hnext⟩ := hscript s hs
      exact ⟨hconduct, hinv, heffect, ih _ hnext⟩

theorem Owns.done {result : α} {pre : S → Prop} {post : α → S → Prop}
    (h : ∀ s, inv s → pre s → post result s) :
    Owns exec inv effect conduct (pure result : Script Op R α) pre post := h

/-- One operation of the owner: what it knows of the answer and the device must be stable. -/
theorem Owns.call {op : Op} {pre : S → Prop} {mid : R → S → Prop}
    (hstable : ∀ answer, Stable inv effect (mid answer))
    (h : ∀ s, inv s → pre s → conduct op s ∧ inv (exec op s).2 ∧ mid (exec op s).1 (exec op s).2) :
    Owns exec inv effect conduct (Script.call op) pre mid := by
  intro s hs hpre
  obtain ⟨hconduct, hinv, hmid⟩ := h s hs hpre
  exact ⟨hconduct, hinv, mid (exec op s).1, hstable _, hmid, fun _ _ h => h⟩

theorem Keeps.call {op : Op} {post : R → Prop}
    (h : ∀ s, inv s →
      conduct op s ∧ inv (exec op s).2 ∧ effect s (exec op s).2 ∧ post (exec op s).1) :
    Keeps exec inv effect conduct (Script.call op) post := h

theorem Owns.mono {script : Script Op R α} {pre pre' : S → Prop} {post post' : α → S → Prop}
    (h : Owns exec inv effect conduct script pre post) (hpre : ∀ s, inv s → pre' s → pre s)
    (hpost : ∀ a s, inv s → post a s → post' a s) : Owns exec inv effect conduct script pre' post' := by
  induction script generalizing pre pre' with
  | done result => exact fun s hs hs' => hpost result s hs (h s hs (hpre s hs hs'))
  | perform op next ih =>
      intro s hs hs'
      obtain ⟨hconduct, hinv, mid, hstable, hmid, hnext⟩ := h s hs (hpre s hs hs')
      exact ⟨hconduct, hinv, mid, hstable, hmid, ih _ hnext (fun _ _ h => h)⟩

theorem Owns.bind {script : Script Op R α} {f : α → Script Op R β} {pre : S → Prop}
    (mid : α → S → Prop) {post : β → S → Prop} (hscript : Owns exec inv effect conduct script pre mid)
    (hf : ∀ a, Owns exec inv effect conduct (f a) (mid a) post) :
    Owns exec inv effect conduct (script >>= f) pre post := by
  show Owns exec inv effect conduct (script.bind f) pre post
  induction script generalizing pre with
  | done result => exact (hf result).mono hscript (fun _ _ _ h => h)
  | perform op next ih =>
      intro s hs hs'
      obtain ⟨hconduct, hinv, between, hstable, hbetween, hnext⟩ := hscript s hs hs'
      exact ⟨hconduct, hinv, between, hstable, hbetween, ih _ hnext⟩

/-- Where the owner and the other threads stand when the invariant is to hold for ever. -/
structure Invariant (exec : Op → S → R × S) (inv : S → Prop) (effect : S → S → Prop)
    (conduct : Op → S → Prop) (system : System Op R S) : Prop where
  device : inv system.device
  owner : ∃ pre : S → Prop, Stable inv effect pre ∧ pre system.device ∧
    Owns exec inv effect conduct system.owner pre fun _ _ => True
  helpers : ∀ helper ∈ system.helpers, Keeps exec inv effect conduct helper fun _ => True

/-- The next operation of the owner is fit for the state of the device. -/
theorem Invariant.owner_conduct {system : System Op R S} (h : Invariant exec inv effect conduct system)
    {op : Op} {next : R → Script Op R Unit} (howner : system.owner = .perform op next) :
    conduct op system.device := by
  obtain ⟨hdevice, ⟨pre, _, hpre, howns⟩, _⟩ := h
  rw [howner] at howns
  exact (howns system.device hdevice hpre).1

theorem Invariant.helper_conduct {system : System Op R S} (h : Invariant exec inv effect conduct system)
    {op : Op} {next : R → Script Op R Unit} (hmem : .perform op next ∈ system.helpers) :
    conduct op system.device :=
  (h.helpers _ hmem system.device h.device).1

variable {happen : S → ε → Option (S × List (Script Op R Unit))} {raised : S → S → List (Script Op R Unit)}

theorem Invariant.step
    (hhappen : ∀ s event result, inv s → happen s event = some result →
      inv result.1 ∧ effect s result.1 ∧
        ∀ helper ∈ result.2, Keeps exec inv effect conduct helper fun _ => True)
    (hraised : ∀ s s', ∀ helper ∈ raised s s', Keeps exec inv effect conduct helper fun _ => True)
    {system : System Op R S} (h : Invariant exec inv effect conduct system) {event : Event ε}
    {next : System Op R S × List Unit} (hstep : step exec happen raised system event = some next) :
    Invariant exec inv effect conduct next.1 := by
  obtain ⟨hdevice, ⟨pre, hstable, hpre, howner⟩, hhelpers⟩ := h
  cases event with
  | owner =>
      unfold Scripts.step at hstep
      cases hscript : system.owner with
      | done result => simp [hscript] at hstep
      | perform op cont =>
          rw [hscript] at howner
          simp only [hscript, Option.some.injEq] at hstep
          subst hstep
          obtain ⟨_, hinv, mid, hmid⟩ := howner system.device hdevice hpre
          refine ⟨hinv, ⟨mid, hmid⟩, fun other hother => ?_⟩
          rcases List.mem_append.mp hother with hold | hnew
          · exact hhelpers other hold
          · exact hraised _ _ other hnew
  | helper i =>
      unfold Scripts.step at hstep
      cases hhelper : system.helpers[i]? with
      | none => simp [hhelper] at hstep
      | some helper =>
          cases helper with
          | done result => simp [hhelper] at hstep
          | perform op cont =>
              simp only [hhelper, Option.some.injEq] at hstep
              subst hstep
              obtain ⟨_, hinv, heffect, hcont⟩ :=
                hhelpers _ (List.mem_of_getElem? hhelper) system.device hdevice
              refine ⟨hinv, ⟨pre, hstable, hstable _ _ hdevice hinv heffect hpre, howner⟩, ?_⟩
              intro other hother
              rcases List.mem_append.mp hother with hset | hnew
              · rcases List.mem_or_eq_of_mem_set hset with hold | rfl
                · exact hhelpers other hold
                · exact hcont
              · exact hraised _ _ other hnew
  | device event =>
      obtain ⟨result, hresult, rfl⟩ := Option.map_eq_some_iff.mp hstep
      obtain ⟨hinv, heffect, hnew⟩ := hhappen system.device event result hdevice hresult
      refine ⟨hinv, ⟨pre, hstable, hstable _ _ hdevice hinv heffect hpre, howner⟩, ?_⟩
      intro other hother
      rcases List.mem_append.mp hother with hold | hother
      · exact hhelpers other hold
      · exact hnew other hother

/-- The invariant holds in every state that an interleaving can reach. -/
theorem invariant_of_run
    (hhappen : ∀ s event result, inv s → happen s event = some result →
      inv result.1 ∧ effect s result.1 ∧
        ∀ helper ∈ result.2, Keeps exec inv effect conduct helper fun _ => True)
    (hraised : ∀ s s', ∀ helper ∈ raised s s', Keeps exec inv effect conduct helper fun _ => True)
    {system : System Op R S} (h : Invariant exec inv effect conduct system) {events : List (Event ε)}
    {next : System Op R S × List Unit}
    (hrun : Runs.run (step exec happen raised) system events = some next) :
    Invariant exec inv effect conduct next.1 :=
  Runs.run_invariant (P := fun _ _ system => Invariant exec inv effect conduct system)
    (G := fun _ _ => True) h (fun _ _ _ _ _ hsystem _ hstep => hsystem.step hhappen hraised hstep)
    (Runs.along_of_forall (fun _ _ => trivial) system events) hrun

end Threads

end LinuxGateway.Scripts
