import Mathlib.Data.List.Induction

/-! Exactly once over a line that loses. A sender passes items to a receiver, one after the other; the
line keeps the order of what is on it and may lose any of it, and both ends may repeat what they sent. The
receiver records an item and tells so, the sender then releases it, and the receiver forgets it and tells
that the exchange is complete. Somewhere between the record and the release the receiver passes the item
on; whichever moment it takes, every item is passed on once, before the sender takes the exchange as
complete. -/

namespace LinuxGateway.Handshake

variable {α : Type}

/-! ### The two ends and the line -/

/-- What goes to the receiver. -/
inductive Down (α : Type) where
  | item (a : α)
  | release

/-- What goes to the sender. -/
inductive Up where
  | recorded
  | completed
  deriving DecidableEq

structure Exchange (α : Type) where
  /-- The item on its way, and whether the sender knows that it is recorded. -/
  sender : Option (α × Bool)
  /-- The recorded item, and whether it has been passed on. -/
  receiver : Option (α × Bool)
  down : List (Down α)
  up : List Up

namespace Exchange

def empty : Exchange α := ⟨none, none, [], []⟩

/-- What the sender has taken and not finished. -/
def pending (e : Exchange α) : List α := (e.sender.map Prod.fst).toList

/-- What the receiver has passed on and the sender has not finished. -/
def early (e : Exchange α) : List α :=
  match e.sender, e.receiver with
  | some (a, true), none => [a]
  | some _, some (a, true) => [a]
  | some (_, false), none => []
  | some _, some (_, false) => []
  | none, _ => []

end Exchange

inductive Signal (α : Type) where
  | taken (a : α)
  | passed (a : α)
  | finished (a : α)

/-- What is not expected at an end is lost there. -/
inductive Step : Exchange α → List (Signal α) → Exchange α → Prop
  | take {r : Option (α × Bool)} {d : List (Down α)} {u : List Up} (a : α) :
      Step ⟨none, r, d, u⟩ [.taken a] ⟨some (a, false), r, d ++ [.item a], u⟩
  | resend {r : Option (α × Bool)} {d : List (Down α)} {u : List Up} {a : α} :
      Step ⟨some (a, false), r, d, u⟩ [] ⟨some (a, false), r, d ++ [.item a], u⟩
  | rerelease {r : Option (α × Bool)} {d : List (Down α)} {u : List Up} {a : α} :
      Step ⟨some (a, true), r, d, u⟩ [] ⟨some (a, true), r, d ++ [.release], u⟩
  | release {r : Option (α × Bool)} {d : List (Down α)} {u : List Up} {a : α} :
      Step ⟨some (a, false), r, d, .recorded :: u⟩ [] ⟨some (a, true), r, d ++ [.release], u⟩
  | finish {r : Option (α × Bool)} {d : List (Down α)} {u : List Up} {a : α} :
      Step ⟨some (a, true), r, d, .completed :: u⟩ [.finished a] ⟨none, r, d, u⟩
  | record {s : Option (α × Bool)} {d : List (Down α)} {u : List Up} {a : α} :
      Step ⟨s, none, .item a :: d, u⟩ [] ⟨s, some (a, false), d, u ++ [.recorded]⟩
  | replace {s : Option (α × Bool)} {d : List (Down α)} {u : List Up} {a b : α} :
      Step ⟨s, some (b, false), .item a :: d, u⟩ [] ⟨s, some (a, false), d, u ++ [.recorded]⟩
  | again {s : Option (α × Bool)} {d : List (Down α)} {u : List Up} {a b : α} {given : Bool} :
      Step ⟨s, some (b, given), .item a :: d, u⟩ [] ⟨s, some (b, given), d, u ++ [.recorded]⟩
  | pass {s : Option (α × Bool)} {d : List (Down α)} {u : List Up} {a : α} :
      Step ⟨s, some (a, false), d, u⟩ [.passed a] ⟨s, some (a, true), d, u⟩
  | forget {s : Option (α × Bool)} {d : List (Down α)} {u : List Up} {a : α} :
      Step ⟨s, some (a, true), .release :: d, u⟩ [] ⟨s, none, d, u ++ [.completed]⟩
  | answer {s : Option (α × Bool)} {d : List (Down α)} {u : List Up} :
      Step ⟨s, none, .release :: d, u⟩ [] ⟨s, none, d, u ++ [.completed]⟩
  | lose {s r : Option (α × Bool)} {d d' : List (Down α)} {u u' : List Up} (hdown : d'.Sublist d)
      (hup : u'.Sublist u) : Step ⟨s, r, d, u⟩ [] ⟨s, r, d', u'⟩

inductive Trace : Exchange α → List (Signal α) → Exchange α → Prop
  | refl (e : Exchange α) : Trace e [] e
  | tail {e e' e'' : Exchange α} {out out' : List (Signal α)} (h : Trace e out e')
      (hstep : Step e' out' e'') : Trace e (out ++ out') e''

theorem Trace.single {e e' : Exchange α} {out : List (Signal α)} (h : Step e out e') : Trace e out e' :=
  (Trace.refl e).tail h

theorem Trace.trans {e e' e'' : Exchange α} {out out' : List (Signal α)} (h : Trace e out e')
    (h' : Trace e' out' e'') : Trace e (out ++ out') e'' := by
  induction h' with
  | refl => rwa [List.append_nil]
  | tail _ hstep ih =>
      rw [← List.append_assoc]
      exact ih.tail hstep

theorem Trace.lose {e : Exchange α} {out : List (Signal α)} {s r : Option (α × Bool)} {d d' : List (Down α)}
    {u u' : List Up} (h : Trace e out ⟨s, r, d, u⟩) (hdown : d'.Sublist d) (hup : u'.Sublist u) :
    Trace e out ⟨s, r, d', u'⟩ := by
  have hlost := h.tail (.lose hdown hup)
  rwa [List.append_nil] at hlost

/-! ### What the signals tell -/

namespace Signal

def taken? : Signal α → Option α
  | taken a => some a
  | passed _ => none
  | finished _ => none

def passed? : Signal α → Option α
  | taken _ => none
  | passed a => some a
  | finished _ => none

def finished? : Signal α → Option α
  | taken _ => none
  | passed _ => none
  | finished a => some a

end Signal

def takes (out : List (Signal α)) : List α := out.filterMap Signal.taken?

def passes (out : List (Signal α)) : List α := out.filterMap Signal.passed?

def finishes (out : List (Signal α)) : List α := out.filterMap Signal.finished?

@[simp] theorem takes_append (out out' : List (Signal α)) : takes (out ++ out') = takes out ++ takes out' :=
  List.filterMap_append

@[simp] theorem passes_append (out out' : List (Signal α)) :
    passes (out ++ out') = passes out ++ passes out' :=
  List.filterMap_append

@[simp] theorem finishes_append (out out' : List (Signal α)) :
    finishes (out ++ out') = finishes out ++ finishes out' :=
  List.filterMap_append

/-! ### The line -/

def Only (x : α) (xs : List α) : Prop := ∀ y ∈ xs, y = x

/-- Some of the one, then some of the other. -/
def Two (x y : α) (xs : List α) : Prop :=
  ∃ first second, xs = first ++ second ∧ Only x first ∧ Only y second

section Line

variable {x y z : α} {xs ys : List α}

theorem Only.nil : Only x [] := fun _ h => absurd h List.not_mem_nil

theorem Only.sublist (h : Only x xs) (hsub : ys.Sublist xs) : Only x ys := fun y hy => h y (hsub.subset hy)

theorem Only.snoc (h : Only x xs) : Only x (xs ++ [x]) := by
  intro y hy
  rcases List.mem_append.mp hy with hy | hy
  · exact h y hy
  · exact List.mem_singleton.mp hy

theorem Only.head (h : Only x (z :: xs)) : z = x := h z List.mem_cons_self

theorem Only.tail (h : Only x (z :: xs)) : Only x xs := h.sublist (List.sublist_cons_self z xs)

theorem Only.two_left (h : Only x xs) : Two x y xs := ⟨xs, [], (List.append_nil xs).symm, h, Only.nil⟩

theorem Two.snoc (h : Two x y xs) : Two x y (xs ++ [y]) := by
  obtain ⟨first, second, rfl, hfirst, hsecond⟩ := h
  exact ⟨first, second ++ [y], List.append_assoc _ _ _, hfirst, hsecond.snoc⟩

theorem Two.sublist (h : Two x y xs) (hsub : ys.Sublist xs) : Two x y ys := by
  obtain ⟨first, second, rfl, hfirst, hsecond⟩ := h
  obtain ⟨first', second', rfl, hfirst', hsecond'⟩ := List.sublist_append_iff.mp hsub
  exact ⟨first', second', rfl, hfirst.sublist hfirst', hsecond.sublist hsecond'⟩

/-- At the head there is the one, or the other and then the one is used up. -/
theorem Two.uncons (h : Two x y (z :: xs)) : z = x ∧ Two x y xs ∨ z = y ∧ Only y xs := by
  obtain ⟨first, second, heq, hfirst, hsecond⟩ := h
  cases first with
  | nil =>
      rw [List.nil_append] at heq
      subst heq
      exact Or.inr ⟨hsecond.head, hsecond.tail⟩
  | cons w first =>
      obtain ⟨rfl, rfl⟩ := List.cons.inj heq
      exact Or.inl ⟨hfirst.head, first, second, rfl, hfirst.tail, hsecond⟩

end Line

/-! ### The stages of an exchange -/

inductive Stage : Exchange α → Prop
  | idle {d : List (Down α)} {u : List Up} (hdown : Only .release d) (hup : Only .completed u) :
      Stage ⟨none, none, d, u⟩
  | fresh {a : α} {d : List (Down α)} {u : List Up} (hdown : Two .release (.item a) d)
      (hup : Only .completed u) : Stage ⟨some (a, false), none, d, u⟩
  | held {a : α} {given : Bool} {d : List (Down α)} {u : List Up} (hdown : Only (.item a) d)
      (hup : Two .completed .recorded u) : Stage ⟨some (a, false), some (a, given), d, u⟩
  | released {a : α} {given : Bool} {d : List (Down α)} {u : List Up} (hdown : Two (.item a) .release d)
      (hup : Only .recorded u) : Stage ⟨some (a, true), some (a, given), d, u⟩
  | forgotten {a : α} {d : List (Down α)} {u : List Up} (hdown : Only .release d)
      (hup : Two .recorded .completed u) : Stage ⟨some (a, true), none, d, u⟩

/-- The stage, and what the signals so far make of it. -/
structure Sound (out : List (Signal α)) (e : Exchange α) : Prop where
  stage : Stage e
  takes_eq : takes out = finishes out ++ e.pending
  passes_eq : passes out = finishes out ++ e.early

theorem sound_empty : Sound [] (Exchange.empty : Exchange α) :=
  ⟨.idle Only.nil Only.nil, rfl, rfl⟩

/-- A step that settles with its signals what it changes in what is open. -/
theorem Sound.update {out out' : List (Signal α)} {e e' : Exchange α} (h : Sound out e) (hstage : Stage e')
    (hpending : e.pending ++ takes out' = finishes out' ++ e'.pending)
    (hearly : e.early ++ passes out' = finishes out' ++ e'.early) : Sound (out ++ out') e' := by
  refine ⟨hstage, ?_, ?_⟩
  · rw [takes_append, finishes_append, h.takes_eq, List.append_assoc, hpending, List.append_assoc]
  · rw [passes_append, finishes_append, h.passes_eq, List.append_assoc, hearly, List.append_assoc]

theorem Sound.silent {out : List (Signal α)} {e e' : Exchange α} (h : Sound out e) (hstage : Stage e')
    (hpending : e.pending = e'.pending) (hearly : e.early = e'.early) : Sound (out ++ []) e' :=
  h.update hstage ((List.append_nil _).trans hpending) ((List.append_nil _).trans hearly)

theorem Sound.step {out out' : List (Signal α)} {e e' : Exchange α} (h : Sound out e)
    (hstep : Step e out' e') : Sound (out ++ out') e' := by
  have hstage := h.stage
  cases hstep with
  | take a =>
      cases hstage with
      | idle hdown hup => exact h.update (.fresh hdown.two_left.snoc hup) rfl rfl
  | resend =>
      cases hstage with
      | fresh hdown hup => exact h.silent (.fresh hdown.snoc hup) rfl rfl
      | held hdown hup => exact h.silent (.held hdown.snoc hup) rfl rfl
  | rerelease =>
      cases hstage with
      | released hdown hup => exact h.silent (.released hdown.snoc hup) rfl rfl
      | forgotten hdown hup => exact h.silent (.forgotten hdown.snoc hup) rfl rfl
  | release =>
      cases hstage with
      | fresh hdown hup => exact absurd hup.head (by decide)
      | @held _ given _ _ hdown hup =>
          -- The answers to the last item are used up when the first record of this one arrives.
          have hrest : Only Up.recorded _ := (hup.uncons.resolve_left fun hcase => absurd hcase.1 (by decide)).2
          refine h.silent (.released hdown.two_left.snoc hrest) rfl ?_
          cases given <;> rfl
  | finish =>
      cases hstage with
      | released hdown hup => exact absurd hup.head (by decide)
      | forgotten hdown hup =>
          have hrest : Only Up.completed _ := (hup.uncons.resolve_left fun hcase => absurd hcase.1 (by decide)).2
          exact h.update (.idle hdown hrest) rfl rfl
  | record =>
      cases hstage with
      | idle hdown hup => exact nomatch hdown.head
      | fresh hdown hup =>
          obtain ⟨heq, _⟩ | ⟨heq, hrest⟩ := hdown.uncons
          · exact nomatch heq
          · cases heq
            exact h.silent (.held hrest hup.two_left.snoc) rfl rfl
      | forgotten hdown hup => exact nomatch hdown.head
  | replace =>
      cases hstage with
      | held hdown hup =>
          cases hdown.head
          exact h.silent (.held hdown.tail hup.snoc) rfl rfl
      | released hdown hup =>
          obtain ⟨heq, hrest⟩ | ⟨heq, _⟩ := hdown.uncons
          · cases heq
            exact h.silent (.released hrest hup.snoc) rfl rfl
          · exact nomatch heq
  | again =>
      cases hstage with
      | held hdown hup => exact h.silent (.held hdown.tail hup.snoc) rfl rfl
      | released hdown hup =>
          obtain ⟨_, hrest⟩ | ⟨heq, _⟩ := hdown.uncons
          · exact h.silent (.released hrest hup.snoc) rfl rfl
          · exact nomatch heq
  | pass =>
      cases hstage with
      | held hdown hup => exact h.update (.held hdown hup) rfl rfl
      | released hdown hup => exact h.update (.released hdown hup) rfl rfl
  | forget =>
      cases hstage with
      | held hdown hup => exact nomatch hdown.head
      | released hdown hup =>
          obtain ⟨heq, _⟩ | ⟨_, hrest⟩ := hdown.uncons
          · exact nomatch heq
          · exact h.silent (.forgotten hrest hup.two_left.snoc) rfl rfl
  | answer =>
      cases hstage with
      | idle hdown hup => exact h.silent (.idle hdown.tail hup.snoc) rfl rfl
      | fresh hdown hup =>
          obtain ⟨_, hrest⟩ | ⟨heq, _⟩ := hdown.uncons
          · exact h.silent (.fresh hrest hup.snoc) rfl rfl
          · exact nomatch heq
      | forgotten hdown hup => exact h.silent (.forgotten hdown.tail hup.snoc) rfl rfl
  | lose hdown hup =>
      refine h.silent ?_ rfl rfl
      cases hstage with
      | idle hd hu => exact .idle (hd.sublist hdown) (hu.sublist hup)
      | fresh hd hu => exact .fresh (hd.sublist hdown) (hu.sublist hup)
      | held hd hu => exact .held (hd.sublist hdown) (hu.sublist hup)
      | released hd hu => exact .released (hd.sublist hdown) (hu.sublist hup)
      | forgotten hd hu => exact .forgotten (hd.sublist hdown) (hu.sublist hup)

theorem Sound.trace {out out' : List (Signal α)} {e e' : Exchange α} (h : Sound out e)
    (htrace : Trace e out' e') : Sound (out ++ out') e' := by
  induction htrace with
  | refl => rwa [List.append_nil]
  | tail _ hstep ih =>
      rw [← List.append_assoc]
      exact ih.step hstep

/-! ### Exactly once -/

theorem Exchange.early_prefix_pending {e : Exchange α} (h : Stage e) : e.early <+: e.pending := by
  cases h with
  | idle => exact List.prefix_refl _
  | fresh => exact List.nil_prefix
  | @held _ given =>
      cases given with
      | true => exact List.prefix_refl _
      | false => exact List.nil_prefix
  | @released _ given =>
      cases given with
      | true => exact List.prefix_refl _
      | false => exact List.nil_prefix
  | forgotten => exact List.prefix_refl _

/-- What is finished has been passed on, in this order and once. -/
theorem Sound.finishes_prefix {out : List (Signal α)} {e : Exchange α} (h : Sound out e) :
    finishes out <+: passes out := by
  rw [h.passes_eq]
  exact List.prefix_append _ _

/-- What is passed on has been taken, in this order and once. -/
theorem Sound.passes_prefix {out : List (Signal α)} {e : Exchange α} (h : Sound out e) :
    passes out <+: takes out := by
  rw [h.passes_eq, h.takes_eq, List.prefix_append_right_inj]
  exact Exchange.early_prefix_pending h.stage

end LinuxGateway.Handshake
