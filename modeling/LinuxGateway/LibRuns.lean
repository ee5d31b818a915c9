import Mathlib.Data.List.Induction

/-! Runs of partial machines with output. A machine takes one event at a time; a step that the
machine does not define ends the run. The rules below carry an invariant along a run: an invariant
that may also speak about the events so far and the output so far, under a condition that every
step of the run meets, and the exact version in which the condition is also necessary. -/

namespace LinuxGateway.Runs

variable {σ ε ω : Type*}

/-- What one event does: the next state and the output, or `none` where the step is undefined. -/
abbrev Step (σ ε ω : Type*) := σ → ε → Option (σ × List ω)

variable (step : Step σ ε ω)

/-- The state after a list of events, with the output of the whole run. -/
def run : σ → List ε → Option (σ × List ω)
  | s, [] => some (s, [])
  | s, e :: es =>
      (step s e).bind fun first =>
        (run first.1 es).map fun rest => (rest.1, first.2 ++ rest.2)

/-- Every step of the run meets `G` in the state before it. -/
def Along (G : σ → ε → Prop) : σ → List ε → Prop
  | _, [] => True
  | s, e :: es => G s e ∧ ∀ next, step s e = some next → Along G next.1 es

/-- Every step of the run is defined, and `P` holds in every state the run goes through. -/
def Always (P : σ → Prop) : σ → List ε → Prop
  | s, [] => P s
  | s, e :: es => P s ∧ ∃ next, step s e = some next ∧ Always P next.1 es

/-- Every step of the run is defined, and does what `Q` says of it. -/
def Each (Q : σ → ε → σ × List ω → Prop) : σ → List ε → Prop
  | _, [] => True
  | s, e :: es => ∃ next, step s e = some next ∧ Q s e next ∧ Each Q next.1 es

/-- Some events take the machine from one state to the other, with this output. -/
def Reaches (s : σ) (out : List ω) (s' : σ) : Prop := ∃ es, run step s es = some (s', out)

/-- The machine with a record beside it that its steps do not read. -/
def observe {γ : Type*} (record : σ → ε → σ × List ω → γ → γ) : Step (σ × γ) ε ω := fun s e =>
  (step s.1 e).map fun next => ((next.1, record s.1 e next s.2), next.2)

variable {step}

theorem observe_eq_some {γ : Type*} {record : σ → ε → σ × List ω → γ → γ} {s : σ × γ} {e : ε}
    {result : (σ × γ) × List ω} :
    observe step record s e = some result ↔
      ∃ next, step s.1 e = some next ∧ result = ((next.1, record s.1 e next s.2), next.2) := by
  rw [observe, Option.map_eq_some_iff]
  exact exists_congr fun next => and_congr_right fun _ => eq_comm

@[simp] theorem run_nil (s : σ) : run step s [] = some (s, []) := rfl

theorem run_cons_eq_some {s : σ} {e : ε} {es : List ε} {result : σ × List ω} :
    run step s (e :: es) = some result ↔
      ∃ first rest, step s e = some first ∧ run step first.1 es = some rest ∧
        result = (rest.1, first.2 ++ rest.2) := by
  simp only [run, Option.bind_eq_some_iff, Option.map_eq_some_iff]
  constructor
  · rintro ⟨first, hfirst, rest, hrest, rfl⟩
    exact ⟨first, rest, hfirst, hrest, rfl⟩
  · rintro ⟨first, rest, hfirst, hrest, rfl⟩
    exact ⟨first, hfirst, rest, hrest, rfl⟩

theorem run_append_eq_some {s : σ} {es es' : List ε} {result : σ × List ω} :
    run step s (es ++ es') = some result ↔
      ∃ first rest, run step s es = some first ∧ run step first.1 es' = some rest ∧
        result = (rest.1, first.2 ++ rest.2) := by
  induction es generalizing s result with
  | nil =>
      constructor
      · intro h
        exact ⟨(s, []), result, rfl, h, rfl⟩
      · rintro ⟨_, rest, hfirst, hrest, rfl⟩
        obtain rfl := Option.some.inj hfirst
        exact hrest
  | cons e es ih =>
      rw [List.cons_append, run_cons_eq_some]
      constructor
      · rintro ⟨first, _, hfirst, hrun, rfl⟩
        obtain ⟨middle, rest, hmiddle, hrest, rfl⟩ := ih.mp hrun
        exact ⟨_, rest, run_cons_eq_some.mpr ⟨first, middle, hfirst, hmiddle, rfl⟩, hrest,
          by simp only [List.append_assoc]⟩
      · rintro ⟨_, rest, hrun, hrest, rfl⟩
        obtain ⟨first, middle, hfirst, hmiddle, rfl⟩ := run_cons_eq_some.mp hrun
        exact ⟨first, _, hfirst, ih.mpr ⟨middle, rest, hmiddle, hrest, rfl⟩,
          by simp only [List.append_assoc]⟩

theorem run_append (s : σ) (es es' : List ε) :
    run step s (es ++ es') =
      (run step s es).bind fun first =>
        (run step first.1 es').map fun rest => (rest.1, first.2 ++ rest.2) := by
  ext result
  rw [run_append_eq_some]
  simp only [Option.bind_eq_some_iff, Option.map_eq_some_iff]
  constructor
  · rintro ⟨first, rest, hfirst, hrest, rfl⟩
    exact ⟨first, hfirst, rest, hrest, rfl⟩
  · rintro ⟨first, hfirst, rest, hrest, rfl⟩
    exact ⟨first, rest, hfirst, hrest, rfl⟩

theorem run_snoc (s : σ) (es : List ε) (e : ε) :
    run step s (es ++ [e]) =
      (run step s es).bind fun first =>
        (step first.1 e).map fun last => (last.1, first.2 ++ last.2) := by
  rw [run_append]
  congr 1
  funext first
  cases hlast : step first.1 e with
  | none => simp [run, hlast]
  | some last => simp [run, hlast]

theorem run_snoc_eq_some {s : σ} {es : List ε} {e : ε} {result : σ × List ω} :
    run step s (es ++ [e]) = some result ↔
      ∃ first last, run step s es = some first ∧ step first.1 e = some last ∧
        result = (last.1, first.2 ++ last.2) := by
  rw [run_append_eq_some]
  constructor
  · rintro ⟨first, _, hfirst, hrun, rfl⟩
    obtain ⟨last, _, hlast, hnil, rfl⟩ := run_cons_eq_some.mp hrun
    obtain rfl := Option.some.inj hnil
    exact ⟨first, last, hfirst, hlast, by simp⟩
  · rintro ⟨first, last, hfirst, hlast, rfl⟩
    exact ⟨first, last, hfirst, run_cons_eq_some.mpr ⟨last, (last.1, []), hlast, rfl, by simp⟩, rfl⟩

theorem Reaches.refl (s : σ) : Reaches step s [] s := ⟨[], rfl⟩

theorem Reaches.single {s s' : σ} {e : ε} {out : List ω} (h : step s e = some (s', out)) :
    Reaches step s out s' :=
  ⟨[e], run_cons_eq_some.mpr ⟨(s', out), (s', []), h, rfl, by simp⟩⟩

theorem Reaches.trans {s s' s'' : σ} {out out' : List ω} (h : Reaches step s out s')
    (h' : Reaches step s' out' s'') : Reaches step s (out ++ out') s'' := by
  obtain ⟨es, hes⟩ := h
  obtain ⟨es', hes'⟩ := h'
  exact ⟨es ++ es', run_append_eq_some.mpr ⟨_, _, hes, hes', rfl⟩⟩

theorem Along.append {G : σ → ε → Prop} {s : σ} {es es' : List ε} (h : Along step G s (es ++ es')) :
    Along step G s es := by
  induction es generalizing s with
  | nil => trivial
  | cons e es ih => exact ⟨h.1, fun next hnext => ih (h.2 next hnext)⟩

/-- The last step of a run meets the condition in the state the run reached before it. -/
theorem Along.last {G : σ → ε → Prop} {s : σ} {es : List ε} {e : ε} {first : σ × List ω}
    (h : Along step G s (es ++ [e])) (hrun : run step s es = some first) : G first.1 e := by
  induction es generalizing s first with
  | nil =>
      obtain rfl := Option.some.inj hrun
      exact h.1
  | cons a es ih =>
      obtain ⟨next, rest, hnext, hrest, rfl⟩ := run_cons_eq_some.mp hrun
      show G rest.1 e
      exact ih (h.2 next hnext) hrest

theorem along_of_forall {G : σ → ε → Prop} (h : ∀ s e, G s e) (s : σ) (es : List ε) :
    Along step G s es := by
  induction es generalizing s with
  | nil => trivial
  | cons e es ih => exact ⟨h s e, fun next _ => ih next.1⟩

theorem along_of_forall_mem {G : ε → Prop} {es : List ε} (h : ∀ e ∈ es, G e) (s : σ) :
    Along step (fun _ e => G e) s es := by
  induction es generalizing s with
  | nil => trivial
  | cons e es ih =>
      exact ⟨h e List.mem_cons_self, fun next _ => ih (fun e' he' => h e' (List.mem_cons_of_mem e he')) next.1⟩

/-- Two conditions that agree wherever the invariant holds agree along a run. -/
theorem along_congr {J : σ → Prop} {G H : σ → ε → Prop} (hiff : ∀ s e, J s → (G s e ↔ H s e))
    (hkeep : ∀ s e next, J s → step s e = some next → J next.1) {s : σ} (hs : J s) (es : List ε) :
    Along step G s es ↔ Along step H s es := by
  induction es generalizing s with
  | nil => exact Iff.rfl
  | cons e es ih =>
      rw [Along, Along, hiff s e hs]
      exact and_congr_right fun _ => forall₂_congr fun next hnext => ih (hkeep s e next hs hnext)

/-- What an invariant implies of every step, every step of a run does. -/
theorem along_of_invariant {J : σ → Prop} {G : σ → ε → Prop} (hG : ∀ s e, J s → G s e)
    (hkeep : ∀ s e next, J s → step s e = some next → J next.1) {s : σ} (hs : J s) (es : List ε) :
    Along step G s es :=
  (along_congr (fun s e hJ => iff_true_intro (hG s e hJ)) hkeep hs es).mpr
    (along_of_forall (fun _ _ => trivial) s es)

/-- A condition on the events alone, under which every step is defined. -/
theorem along_iff_forall_mem {G : ε → Prop} (hdefined : ∀ s e, G e → ∃ next, step s e = some next)
    (s : σ) (es : List ε) : Along step (fun _ e => G e) s es ↔ ∀ e ∈ es, G e := by
  induction es generalizing s with
  | nil => exact ⟨fun _ e he => absurd he List.not_mem_nil, fun _ => trivial⟩
  | cons e es ih =>
      rw [List.forall_mem_cons, Along]
      apply and_congr_right
      intro he
      obtain ⟨next, hnext⟩ := hdefined s e he
      rw [hnext, ← ih next.1]
      exact ⟨fun h => h next rfl, fun h next' hnext' => Option.some.inj hnext' ▸ h⟩

theorem Always.last {P : σ → Prop} {s : σ} {es : List ε} {result : σ × List ω}
    (h : Always step P s es) (hrun : run step s es = some result) : P result.1 := by
  induction es generalizing s result with
  | nil =>
      obtain rfl := Option.some.inj hrun
      exact h
  | cons e es ih =>
      obtain ⟨first, rest, hfirst, hrest, rfl⟩ := run_cons_eq_some.mp hrun
      obtain ⟨_, next, hnext, halways⟩ := h
      obtain rfl := Option.some.inj (hfirst.symm.trans hnext)
      show P rest.1
      exact ih halways hrest

/-- What every defined step meets, a run meets that stays defined. -/
theorem Always.along {P : σ → Prop} {G : σ → ε → Prop} (hG : ∀ s e, (step s e).isSome → G s e)
    {s : σ} {es : List ε}
    (h : Always step P s es) : Along step G s es := by
  induction es generalizing s with
  | nil => trivial
  | cons e es ih =>
      obtain ⟨_, next, hnext, hrest⟩ := h
      refine ⟨hG s e (by rw [hnext]; rfl), fun next' hnext' => ?_⟩
      obtain rfl := Option.some.inj (hnext.symm.trans hnext')
      exact ih hrest

instance decidableAlong {G : σ → ε → Prop} [∀ s e, Decidable (G s e)] (s : σ) (es : List ε) :
    Decidable (Along step G s es) :=
  match es with
  | [] => isTrue trivial
  | e :: es =>
      match hnext : step s e with
      | none => decidable_of_iff (G s e) (by simp [Along, hnext])
      | some next =>
          have : Decidable (Along step G next.1 es) := decidableAlong next.1 es
          decidable_of_iff (G s e ∧ Along step G next.1 es) (by simp [Along, hnext])

/-- Where `G` is exactly what a single step from the invariant `J` needs, it is exactly what a run
needs at each step. -/
theorem each_iff_along {J : σ → Prop} {G : σ → ε → Prop} {Q : σ → ε → σ × List ω → Prop}
    (hexact : ∀ s e, J s → (G s e ↔ ∃ next, step s e = some next ∧ Q s e next))
    (hkeep : ∀ s e next, J s → step s e = some next → J next.1)
    {s : σ} (hs : J s) (es : List ε) : Each step Q s es ↔ Along step G s es := by
  induction es generalizing s with
  | nil => exact Iff.rfl
  | cons e es ih =>
      constructor
      · rintro ⟨next, hnext, hQ, hrest⟩
        refine ⟨(hexact s e hs).mpr ⟨next, hnext, hQ⟩, fun next' hnext' => ?_⟩
        obtain rfl := Option.some.inj (hnext.symm.trans hnext')
        exact (ih (hkeep s e next hs hnext)).mp hrest
      · rintro ⟨hG, hrest⟩
        obtain ⟨next, hnext, hQ⟩ := (hexact s e hs).mp hG
        exact ⟨next, hnext, hQ, (ih (hkeep s e next hs hnext)).mpr (hrest next hnext)⟩

/-- The same for events whose steps do not depend on the state. -/
theorem each_iff_forall_mem {G : ε → Prop} {Q : σ → ε → σ × List ω → Prop} {es : List ε}
    (hexact : ∀ e ∈ es, ∀ s, G e ↔ ∃ next, step s e = some next ∧ Q s e next) (s : σ) :
    Each step Q s es ↔ ∀ e ∈ es, G e := by
  induction es generalizing s with
  | nil => exact ⟨fun _ e he => absurd he List.not_mem_nil, fun _ => trivial⟩
  | cons e es ih =>
      have hrest := ih fun e' he' => hexact e' (List.mem_cons_of_mem e he')
      rw [List.forall_mem_cons, hexact e List.mem_cons_self s]
      constructor
      · rintro ⟨next, hnext, hQ, heach⟩
        exact ⟨⟨next, hnext, hQ⟩, (hrest next.1).mp heach⟩
      · rintro ⟨⟨next, hnext, hQ⟩, hG⟩
        exact ⟨next, hnext, hQ, (hrest next.1).mpr hG⟩

/-- Where `G` is exactly what makes a step defined, a run is defined exactly when it meets `G`
everywhere. -/
theorem along_iff_isSome {G : σ → ε → Prop} (hexact : ∀ s e, G s e ↔ (step s e).isSome) (s : σ)
    (es : List ε) : Along step G s es ↔ (run step s es).isSome := by
  induction es generalizing s with
  | nil => exact ⟨fun _ => rfl, fun _ => trivial⟩
  | cons e es ih =>
      rw [Along, hexact, run]
      cases hstep : step s e with
      | none => simp
      | some next => simp [ih]

/-- Where every step from the invariant is defined and keeps it, so is every run. -/
theorem exists_run {J : σ → Prop} (hstep : ∀ s e, J s → ∃ next, step s e = some next ∧ J next.1)
    {s : σ} (hs : J s) (es : List ε) : ∃ result, run step s es = some result ∧ J result.1 := by
  induction es generalizing s with
  | nil => exact ⟨(s, []), rfl, hs⟩
  | cons e es ih =>
      obtain ⟨next, hnext, hJ⟩ := hstep s e hs
      obtain ⟨result, hresult, hlast⟩ := ih hJ
      exact ⟨(result.1, next.2 ++ result.2),
        run_cons_eq_some.mpr ⟨next, result, hnext, hresult, rfl⟩, hlast⟩

/-- Where every step from the invariant gives one output, related to its event, a run gives one for
each event. -/
theorem exists_run_forall₂ {J : σ → Prop} {R : ω → ε → Prop} {es : List ε}
    (hstep : ∀ s, ∀ e ∈ es, J s → ∃ s' out, step s e = some (s', [out]) ∧ J s' ∧ R out e)
    {s : σ} (hs : J s) :
    ∃ result, run step s es = some result ∧ J result.1 ∧ List.Forall₂ R result.2 es := by
  induction es generalizing s with
  | nil => exact ⟨(s, []), rfl, hs, List.Forall₂.nil⟩
  | cons e es ih =>
      obtain ⟨s', out, hnext, hJ, hR⟩ := hstep s e List.mem_cons_self hs
      obtain ⟨result, hresult, hlast, hrest⟩ :=
        ih (fun s e he => hstep s e (List.mem_cons_of_mem _ he)) hJ
      exact ⟨(result.1, out :: result.2),
        run_cons_eq_some.mpr ⟨(s', [out]), result, hnext, hresult, rfl⟩, hlast,
        List.Forall₂.cons hR hrest⟩

/-- The invariant rule. The invariant may relate the state to the events and the output so far, and
a step may use the condition that the run meets at it. -/
theorem run_invariant {G : σ → ε → Prop} {P : List ε → List ω → σ → Prop} {init : σ}
    (hinit : P [] [] init)
    (hstep : ∀ es out s e next, P es out s → G s e → step s e = some next →
      P (es ++ [e]) (out ++ next.2) next.1)
    {es : List ε} {result : σ × List ω} (halong : Along step G init es)
    (hrun : run step init es = some result) : P es result.2 result.1 := by
  induction es using List.reverseRecOn generalizing result with
  | nil =>
      obtain rfl := Option.some.inj hrun
      exact hinit
  | append_singleton es e ih =>
      obtain ⟨first, last, hfirst, hlast, rfl⟩ := run_snoc_eq_some.mp hrun
      exact hstep es first.2 first.1 e last (ih halong.append hfirst) (halong.last hfirst) hlast

/-- The exact rule. `J` is the inductive invariant behind the property `P`. Where a step from `J`
is defined and keeps `P` exactly when it meets `G`, a whole run is defined and keeps `P` exactly
when all its steps meet `G`. `Env` is what the environment promises of every step. -/
theorem always_iff_along {Env G : σ → ε → Prop} {J P : σ → Prop} (hJP : ∀ s, J s → P s)
    (hexact : ∀ s e, J s → Env s e → (G s e ↔ ∃ next, step s e = some next ∧ P next.1))
    (hkeep : ∀ s e next, J s → Env s e → step s e = some next → P next.1 → J next.1)
    {s : σ} {es : List ε} (hs : J s) (henv : Along step Env s es) :
    Always step P s es ↔ Along step G s es := by
  induction es generalizing s with
  | nil => exact ⟨fun _ => trivial, fun _ => hJP s hs⟩
  | cons e es ih =>
      constructor
      · rintro ⟨_, next, hnext, hrest⟩
        have hP : P next.1 := by
          cases es with
          | nil => exact hrest
          | cons => exact hrest.1
        refine ⟨(hexact s e hs henv.1).mpr ⟨next, hnext, hP⟩, fun next' hnext' => ?_⟩
        obtain rfl := Option.some.inj (hnext.symm.trans hnext')
        exact (ih (hkeep s e next hs henv.1 hnext hP) (henv.2 next hnext)).mp hrest
      · rintro ⟨hG, hrest⟩
        obtain ⟨next, hnext, hP⟩ := (hexact s e hs henv.1).mp hG
        exact ⟨hJP s hs, next, hnext,
          (ih (hkeep s e next hs henv.1 hnext hP) (henv.2 next hnext)).mpr (hrest next hnext)⟩

section Agreement

variable {τ δ : Type*} {step' : Step τ δ ω}

/-- The same output, and states in relation. -/
def Same (R : σ → τ → Prop) (next : σ × List ω) (next' : τ × List ω) : Prop :=
  R next.1 next'.1 ∧ next.2 = next'.2

/-- Machines that agree step by step, on being undefined too, agree on every run. -/
theorem run_agree {R : σ → τ → Prop} (f : ε → δ)
    (hstep : ∀ s t e, R s t → Option.Rel (Same R) (step s e) (step' t (f e))) {s : σ} {t : τ}
    (h : R s t) (es : List ε) : Option.Rel (Same R) (run step s es) (run step' t (es.map f)) := by
  induction es generalizing s t with
  | nil => exact .some ⟨h, rfl⟩
  | cons e es ih =>
      have hfirst := hstep s t e h
      rw [List.map_cons, run, run]
      generalize step s e = first at hfirst
      generalize step' t (f e) = first' at hfirst
      cases hfirst with
      | none => exact .none
      | some hsame =>
          have hrest := ih hsame.1
          rw [Option.bind_some, Option.bind_some]
          generalize run step _ es = rest at hrest
          generalize run step' _ (es.map f) = rest' at hrest
          cases hrest with
          | none => exact .none
          | some hsame' => exact .some ⟨hsame'.1, congrArg₂ (· ++ ·) hsame.2 hsame'.2⟩

end Agreement

end LinuxGateway.Runs
