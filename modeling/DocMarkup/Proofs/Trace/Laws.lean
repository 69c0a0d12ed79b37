import DocMarkup.Proofs.Trace

/-!
# Laws of recorded computations

Traces are lists, so how steps are grouped does not matter and a value is no step at all: recorded
computations obey the laws of a monad. A list of computations that succeed leaves behind what they
leave behind, one after another.

Main results:

- Instance {lit}`Recorded.instLawfulMonad`: the laws of a monad.
- Theorem {lit}`Recorded.outcome_bind_eq_ok`: what a computation that goes on consists of.
- Theorem {lit}`Recorded.each_eq`: the trace and the values of computations that succeed.
-/

namespace DocMarkup

namespace Trace

/-- Nothing after a trace. -/
theorem append_nil (t : Trace) : t ++ nil = t := by
  show Trace.mk (t.questions ++ []) (t.notices ++ []) = t
  rw [List.append_nil, List.append_nil]

/-- How traces are grouped does not matter. -/
theorem append_assoc (s t u : Trace) : s ++ t ++ u = s ++ (t ++ u) := by
  show Trace.mk _ _ = Trace.mk _ _
  rw [mk.injEq]
  exact ⟨List.append_assoc .., List.append_assoc ..⟩

end Trace

namespace Recorded

variable {ε α β : Type}

/-! ## Laws -/

/-- A value is handed on as it is. -/
protected theorem pure_bind (a : α) (f : α → Recorded ε β) : (pure a).bind f = f a := rfl

/-- A computation that hands its value on is the computation. -/
protected theorem bind_pure (x : Recorded ε α) : x.bind pure = x := by
  rcases x with ⟨trace, outcome⟩
  cases outcome with
  | error e => rfl
  | ok a =>
    show Recorded.mk (trace ++ .nil) _ = _
    rw [Trace.append_nil]
    rfl

/-- How computations are grouped does not matter. -/
protected theorem bind_assoc {γ : Type} (x : Recorded ε α) (f : α → Recorded ε β) (g : β → Recorded ε γ) :
    (x.bind f).bind g = x.bind fun a => (f a).bind g := by
  rcases x with ⟨trace, outcome⟩
  cases outcome with
  | error e => rfl
  | ok a =>
    simp only [Recorded.bind]
    cases (f a).outcome with
    | error e => rfl
    | ok b => simp only [Trace.append_assoc]

instance instLawfulMonad : LawfulMonad (Recorded ε) :=
  LawfulMonad.mk' _ Recorded.bind_pure Recorded.pure_bind Recorded.bind_assoc

/-- The value of an outcome is handed on as it is. -/
theorem ofExcept_ok_bind (a : α) (f : α → Recorded ε β) : (ofExcept (.ok a) >>= f) = f a := rfl

/-- A failure ends the work. -/
theorem outcome_bind_error {x : Recorded ε α} {e : ε} (hx : x.outcome = .error e)
    (f : α → Recorded ε β) : (x >>= f).outcome = .error e := by
  show (Recorded.bind x f).outcome = _
  simp only [Recorded.bind, hx]

/-- Outcomes of computations are composed of the outcomes of their steps. -/
theorem outcome_isComposed : IsComposed fun _ (x y : Recorded ε _) => x.outcome = y.outcome where
  pure _ := rfl
  fail _ := rfl
  bind {_ _ x y f g} hxy hfg := by
    cases houtcome : x.outcome with
    | error e =>
      rw [outcome_bind_error houtcome, outcome_bind_error (hxy.symm.trans houtcome)]
    | ok a =>
      rw [outcome_bind houtcome, outcome_bind (hxy.symm.trans houtcome)]
      exact hfg a

/-- A computation that goes on gives a value when both of its steps do. -/
theorem outcome_bind_eq_ok {x : Recorded ε α} {f : α → Recorded ε β} {b : β}
    (h : (x >>= f).outcome = .ok b) : ∃ a, x.outcome = .ok a ∧ (f a).outcome = .ok b := by
  cases hx : x.outcome with
  | error e =>
    exact absurd ((outcome_bind_error hx f).symm.trans h) (by simp)
  | ok a => exact ⟨a, rfl, (outcome_bind hx f).symm.trans h⟩

/-- A function of a value is applied when the computation gives one. -/
theorem outcome_map_eq_ok {x : Recorded ε α} {f : α → β} {b : β}
    (h : (f <$> x).outcome = .ok b) : ∃ a, x.outcome = .ok a ∧ f a = b := by
  rcases outcome_bind_eq_ok h with ⟨a, ha, hb⟩
  exact ⟨a, ha, Except.ok.inj hb⟩

/-- A function of the value leaves the trace as it is. -/
theorem map_ok (trace : Trace) (a : α) (f : α → β) :
    f <$> (⟨trace, .ok a⟩ : Recorded ε α) = ⟨trace, .ok (f a)⟩ := by
  show Recorded.mk (trace ++ .nil) _ = _
  rw [Trace.append_nil]
  rfl

/-- The value without a trace is the value of the monad. -/
theorem pure_eq (a : α) : (pure a : Recorded ε α) = Pure.pure a := rfl

/-! ## Lists of computations -/

/-- On a list with a first member, that member comes first. -/
theorem each_cons (f : α → Recorded ε β) (a : α) (l : List α) :
    each f (a :: l) = f a >>= fun b => each f l >>= fun bs => Pure.pure (b :: bs) := rfl

/-- Computations on the members of a list go on when each of them does. -/
theorem each_eq_ok {f : α → Recorded ε β} {l : List α} {bs : List β}
    (h : (each f l).outcome = .ok bs) : ∀ a ∈ l, ∃ b, (f a).outcome = .ok b := by
  induction l generalizing bs with
  | nil => simp
  | cons a l ih =>
    rw [each_cons] at h
    rcases outcome_bind_eq_ok h with ⟨b, hb, hrest⟩
    rcases outcome_bind_eq_ok hrest with ⟨others, hothers, _⟩
    exact List.forall_mem_cons.2 ⟨⟨b, hb⟩, ih hothers⟩

/-- Computations that succeed leave behind what each of them does, and give their values. -/
theorem each_eq {f : α → Recorded ε β} {g : α → β} {l : List α}
    (h : ∀ a ∈ l, (f a).outcome = .ok (g a)) :
    each f l = ⟨⟨l.flatMap fun a => (f a).trace.questions, l.flatMap fun a => (f a).trace.notices⟩,
      .ok (l.map g)⟩ := by
  induction l with
  | nil => rfl
  | cons a l ih =>
    rcases List.forall_mem_cons.1 h with ⟨ha, hrest⟩
    show (f a).bind _ = _
    simp only [Recorded.bind, ha, ih hrest, Recorded.pure, Trace.append_nil]
    rfl

/-- Computations on those members of a list that a test accepts are computations on all of them,
with a gap for each other one. -/
theorem each_filter {f : α → Recorded ε β} {g : α → Recorded ε (Option β)}
    {test : α → Bool} (hpos : ∀ a, test a = true → g a = some <$> f a)
    (hneg : ∀ a, test a = false → g a = Pure.pure none) (l : List α) :
    (fun bs => bs.filterMap id) <$> each g l = each f (l.filter test) := by
  induction l with
  | nil => rfl
  | cons a l ih =>
    cases ha : test a with
    | true =>
      rw [List.filter_cons_of_pos ha, each_cons, each_cons, ← ih, hpos a ha]
      simp only [map_eq_pure_bind, bind_assoc, pure_bind, List.filterMap_cons, id_eq]
    | false =>
      rw [List.filter_cons_of_neg (by simp [ha]), each_cons, ← ih, hneg a ha]
      simp only [map_eq_pure_bind, bind_assoc, pure_bind, List.filterMap_cons, id_eq]

end Recorded
end DocMarkup
