import DocMarkup.Trace

/-!
# Outcomes and notices

What a computation gives when its parts give something: the outcome of each step is handed to the
next one. What it leaves behind is what its parts leave behind.

Main definitions:

- {lit}`Recorded.Leaves`: every notice of a computation satisfies a property.
- {lit}`Recorded.IsComposed`: a relation that holds of what is composed of related steps.

Main results:

- Theorems {lit}`Recorded.outcome_bind`, {lit}`Recorded.outcome_map` and
  {lit}`Recorded.outcome_each`: the outcome of a composed computation.
- Theorem {lit}`Recorded.each_succeeds`: a list of computations that succeed.
- Theorems {lit}`Recorded.Leaves.bind` and {lit}`Recorded.Leaves.map`: the notices of a composed
  computation.
- Theorems {lit}`Recorded.IsComposed.map` and {lit}`Recorded.IsComposed.each`: related computations
  on the members of a list.
- Theorem {lit}`outcome_bind_eq_ok`: what an outcome that goes on consists of.
- Theorems {lit}`mapM_eq_ok`, {lit}`exists_of_mapM_eq_ok` and {lit}`exists_of_mapM_eq_error`: what a
  run of outcomes consists of.
-/

namespace DocMarkup

/-- An outcome that goes on gives a value when both of its steps do. -/
theorem outcome_bind_eq_ok {ε α β : Type} {x : Except ε α} {f : α → Except ε β} {b : β}
    (h : (x >>= f) = .ok b) : ∃ a, x = .ok a ∧ f a = .ok b := by
  cases x with
  | error e => cases h
  | ok a => exact ⟨a, rfl, h⟩

/-- An outcome that is read as a value is that value. -/
theorem eq_ok_of_toOption {ε α : Type} {x : Except ε α} {a : α} (h : x.toOption = some a) :
    x = .ok a := by
  cases x with
  | error e => cases h
  | ok b => exact congrArg Except.ok (Option.some.inj h)

/-- The failure of an outcome. -/
def failure? {ε α : Type} : Except ε α → Option ε
  | .ok _ => none
  | .error e => some e

/-- An outcome that is read as a failure is that failure. -/
theorem eq_error_of_failure? {ε α : Type} {x : Except ε α} {e : ε} (h : failure? x = some e) :
    x = .error e := by
  cases x with
  | error other => exact congrArg Except.error (Option.some.inj h)
  | ok a => cases h

section Runs

variable {ε α β : Type} {f : α → Except ε β}

/-- A run of outcomes succeeds when each of them does, with their values. -/
theorem mapM_eq_ok {g : α → β} {l : List α} (h : ∀ a ∈ l, f a = .ok (g a)) :
    l.mapM f = .ok (l.map g) := by
  induction l with
  | nil => rfl
  | cons a l ih =>
    rcases List.forall_mem_cons.1 h with ⟨ha, hl⟩
    rw [List.mapM_cons, ha, ih hl]
    rfl

/-- Each outcome of a run that succeeds is a success. -/
theorem exists_of_mapM_eq_ok {l : List α} {values : List β} (h : l.mapM f = .ok values) :
    ∀ a ∈ l, ∃ b, f a = .ok b := by
  induction l generalizing values with
  | nil => simp
  | cons a l ih =>
    rw [List.mapM_cons] at h
    rcases outcome_bind_eq_ok h with ⟨b, hb, h⟩
    rcases outcome_bind_eq_ok h with ⟨others, hothers, _⟩
    exact List.forall_mem_cons.2 ⟨⟨b, hb⟩, ih hothers⟩

/-- A run that fails does so with one of its failures. -/
theorem exists_of_mapM_eq_error {l : List α} {e : ε} (h : l.mapM f = .error e) :
    ∃ a ∈ l, f a = .error e := by
  induction l with
  | nil => cases h
  | cons a l ih =>
    rw [List.mapM_cons] at h
    cases ha : f a with
    | error e' =>
      rw [ha] at h
      cases h
      exact ⟨a, List.mem_cons_self, ha⟩
    | ok b =>
      cases hothers : l.mapM f with
      | error e' =>
        rw [ha, hothers] at h
        cases h
        rcases ih hothers with ⟨a', ha', hfail⟩
        exact ⟨a', List.mem_cons_of_mem a ha', hfail⟩
      | ok others =>
        rw [ha, hothers] at h
        cases h

end Runs

namespace Recorded

variable {ε α β : Type} {x : Recorded ε α} {a : α}

/-- An outcome that is recorded goes on as it does otherwise. -/
theorem outcome_ofExcept_bind (y : Except ε α) (f : α → Recorded ε β) :
    (ofExcept y >>= f).outcome = y >>= fun a => (f a).outcome := by
  cases y with
  | error e => rfl
  | ok a => rfl

/-- A computation goes on with the value of the first one. -/
theorem outcome_bind (hx : x.outcome = .ok a) (f : α → Recorded ε β) :
    (x >>= f).outcome = (f a).outcome := by
  show (Recorded.bind x f).outcome = _
  simp only [Recorded.bind, hx]

/-- A function is applied to the value of a computation. -/
theorem outcome_map (hx : x.outcome = .ok a) (f : α → β) : (f <$> x).outcome = .ok (f a) :=
  outcome_bind hx fun a => .pure (f a)

/-- A computation on each member of a list gives the values in their order. -/
theorem outcome_each {f : α → Recorded ε β} {g : α → β} {l : List α}
    (h : ∀ a ∈ l, (f a).outcome = .ok (g a)) : (each f l).outcome = .ok (l.map g) := by
  induction l with
  | nil => rfl
  | cons a l ih =>
    rcases List.forall_mem_cons.1 h with ⟨ha, hrest⟩
    show (f a >>= fun b => each f l >>= fun bs => Recorded.pure (b :: bs)).outcome = _
    rw [outcome_bind ha, outcome_bind (ih hrest)]
    rfl

/-- A computation on each image of a member is one on each member. -/
theorem each_map {γ : Type} (f : β → Recorded ε γ) (g : α → β) (l : List α) :
    each f (l.map g) = each (fun a => f (g a)) l := by
  induction l with
  | nil => rfl
  | cons a l ih => rw [List.map_cons, each, ih, each]

/-- A computation on each member of a list succeeds when all of them do. -/
theorem each_succeeds {f : α → Recorded ε β} {l : List α}
    (h : ∀ a ∈ l, ∃ b, (f a).outcome = .ok b) : ∃ bs, (each f l).outcome = .ok bs := by
  induction l with
  | nil => exact ⟨[], rfl⟩
  | cons a l ih =>
    rcases List.forall_mem_cons.1 h with ⟨⟨b, hb⟩, hrest⟩
    rcases ih hrest with ⟨bs, hbs⟩
    refine ⟨b :: bs, ?_⟩
    show (f a >>= fun b => each f l >>= fun bs => Recorded.pure (b :: bs)).outcome = _
    rw [outcome_bind hb, outcome_bind hbs]
    rfl

/-- What holds of the traces of two steps, and of traces put together, holds of one step after the
other. -/
theorem trace_bind {q : Trace → Prop} (happend : ∀ s t, q s → q t → q (s ++ t)) (hx : q x.trace)
    {f : α → Recorded ε β} (hf : ∀ a, q (f a).trace) : q (x >>= f).trace := by
  show q (Recorded.bind x f).trace
  unfold Recorded.bind
  cases x.outcome with
  | error e => exact hx
  | ok a => exact happend _ _ hx (hf a)

/-! ## Notices -/

variable {p : Notice → Prop}

/-- Every notice that a computation leaves behind satisfies a property. -/
def Leaves (p : Notice → Prop) (x : Recorded ε α) : Prop := ∀ n ∈ x.trace.notices, p n

/-- A value leaves nothing behind. -/
theorem leaves_pure (a : α) : (pure a : Recorded ε α).Leaves p := by
  intro n hn
  cases hn

/-- A question leaves no notice behind. -/
theorem leaves_ask (q : Question) : (ask q : Recorded ε Unit).Leaves p := by
  intro n hn
  cases hn

/-- The value of an option leaves nothing behind. -/
theorem leaves_ofOption (e : ε) (a? : Option α) : (ofOption e a?).Leaves p := by
  intro n hn
  cases a? <;> cases hn

/-- A computation leaves behind what its two steps do. -/
theorem Leaves.bind (hx : x.Leaves p) {f : α → Recorded ε β} (hf : ∀ a, (f a).Leaves p) :
    (x >>= f).Leaves p := by
  refine trace_bind (q := fun trace => ∀ n ∈ trace.notices, p n) (fun s t hs ht n hn => ?_) hx hf
  exact (List.mem_append.1 hn).elim (hs n) (ht n)

/-- A function of a value leaves nothing more behind. -/
theorem Leaves.map (hx : x.Leaves p) (f : α → β) : (f <$> x).Leaves p :=
  hx.bind fun a => leaves_pure (f a)

/-! ## Relations -/

/-- A relation that holds of equal values, of equal failures, and of two computations that go on
with related steps after related ones. -/
structure IsComposed (R : ∀ α : Type, Recorded ε α → Recorded ε α → Prop) : Prop where
  pure : ∀ {α : Type} (a : α), R α (.pure a) (.pure a)
  fail : ∀ {α : Type} (e : ε), R α (.fail e) (.fail e)
  bind : ∀ {α β : Type} {x y : Recorded ε α} {f g : α → Recorded ε β}, R α x y →
    (∀ a, R β (f a) (g a)) → R β (x >>= f) (y >>= g)

namespace IsComposed

variable {R : ∀ α : Type, Recorded ε α → Recorded ε α → Prop} {y : Recorded ε α}

/-- A function of the values keeps computations related. -/
theorem map (hR : IsComposed R) (hxy : R α x y) (f : α → β) : R β (f <$> x) (f <$> y) :=
  hR.bind hxy fun a => hR.pure (f a)

/-- The value of an option is related to itself. -/
theorem ofOption (hR : IsComposed R) (e : ε) (a? : Option α) :
    R α (.ofOption e a?) (.ofOption e a?) := by
  cases a? with
  | none => exact hR.fail e
  | some a => exact hR.pure a

/-- Computations on each member of a list are related when they are on every member. -/
theorem each (hR : IsComposed R) {f g : α → Recorded ε β} {l : List α}
    (h : ∀ a ∈ l, R β (f a) (g a)) : R (List β) (Recorded.each f l) (Recorded.each g l) := by
  induction l with
  | nil => exact hR.pure []
  | cons a l ih =>
    rcases List.forall_mem_cons.1 h with ⟨ha, hrest⟩
    have htail : ∀ b, R (List β) (Recorded.each f l >>= fun bs => .pure (b :: bs))
        (Recorded.each g l >>= fun bs => .pure (b :: bs)) :=
      fun b => hR.bind (ih hrest) fun bs => hR.pure (b :: bs)
    exact hR.bind ha htail

end IsComposed

/-- What a computation leaves behind comes from its steps. -/
theorem leaves_isComposed (p : Notice → Prop) :
    IsComposed fun _ (x _ : Recorded ε _) => x.Leaves p where
  pure a := leaves_pure a
  fail _ _ hn := by cases hn
  bind hx hf := hx.bind hf

end Recorded
end DocMarkup
