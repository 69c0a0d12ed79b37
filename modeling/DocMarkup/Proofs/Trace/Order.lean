import DocMarkup.Proofs.Trace.Laws

/-!
# Computations in order

A computation whose steps do not depend on each other's values does what its steps do, one after
another, until one of them fails. With the values left out, however the steps are gathered into
lists and fields, it is a list of steps.

Main definitions:

- {lit}`Recorded.discard`: a computation without its value.
- {lit}`Recorded.inOrder`: steps one after another.

Main results:

- Theorems {lit}`Recorded.discard_bind` and {lit}`Recorded.discard_each`: a computation of
  independent parts is its parts in order.
- Theorem {lit}`Recorded.inOrder_eq`: steps in order go as far as the first one that fails.
-/

namespace DocMarkup
namespace Recorded

variable {ε α β : Type}

/-! ## Values left out -/

/-- A computation without its value. -/
def discard (x : Recorded ε α) : Recorded ε Unit := (fun _ => ()) <$> x

/-- Leaving the value out leaves the trace. -/
@[simp] theorem trace_discard (x : Recorded ε α) : x.discard.trace = x.trace := by
  rcases x with ⟨trace, outcome⟩
  cases outcome with
  | error e => rfl
  | ok a => exact congrArg Recorded.trace (map_ok trace a fun _ => ())

/-- What is left of an outcome is whether and why it fails. -/
@[simp] theorem outcome_discard (x : Recorded ε α) :
    x.discard.outcome = x.outcome.map fun _ => () := by
  rcases x with ⟨trace, outcome⟩
  cases outcome <;> rfl

/-- A computation gives a value when it does so without the value. -/
theorem succeeds_of_discard {x : Recorded ε α} (h : x.discard.outcome = .ok ()) :
    ∃ a, x.outcome = .ok a := by
  rw [outcome_discard] at h
  cases houtcome : x.outcome with
  | error e => simp [houtcome, Except.map] at h
  | ok a => exact ⟨a, rfl⟩

/-- A computation fails as it does without its value. -/
theorem fails_of_discard {x : Recorded ε α} {e : ε} (h : x.discard.outcome = .error e) :
    x.outcome = .error e := by
  rw [outcome_discard] at h
  cases houtcome : x.outcome with
  | error e' => simpa [houtcome, Except.map] using h
  | ok a => simp [houtcome, Except.map] at h

/-- A function of the value is left out with it. -/
@[simp] theorem discard_map (f : α → β) (x : Recorded ε α) : (f <$> x).discard = x.discard := by
  simp only [discard, Functor.map_map]

/-- A computation that goes on in the same way whatever its value is does two things in order. -/
theorem discard_bind {x : Recorded ε α} {f : α → Recorded ε β} {x' y : Recorded ε Unit}
    (hx : x.discard = x') (hf : ∀ a, (f a).discard = y) :
    (x >>= f).discard = x' >>= fun _ => y := by
  have hsteps : (fun a => (f a).discard) = fun _ => y := funext hf
  simp only [discard, map_bind] at hx hsteps ⊢
  rw [hsteps, ← hx, bind_map_left]

/-! ## Steps in order -/

/-- Steps one after another. -/
def inOrder : List (Recorded ε Unit) → Recorded ε Unit
  | [] => Pure.pure ()
  | x :: rest => x >>= fun _ => inOrder rest

/-- Two lists of steps one after another. -/
theorem inOrder_append (l l' : List (Recorded ε Unit)) :
    inOrder (l ++ l') = inOrder l >>= fun _ => inOrder l' := by
  induction l with
  | nil => rfl
  | cons x l ih => simp only [List.cons_append, inOrder, ih, bind_assoc]

/-- One step. -/
theorem inOrder_singleton (x : Recorded ε Unit) : inOrder [x] = x :=
  bind_pure x

/-- A computation on each member of a list is a step for each member. -/
theorem discard_each (f : α → Recorded ε β) (l : List α) :
    (each f l).discard = inOrder (l.map fun a => (f a).discard) := by
  induction l with
  | nil => rfl
  | cons a l ih =>
    rw [each_cons, List.map_cons, inOrder, ← ih]
    refine discard_bind rfl fun b => ?_
    simp only [bind_pure_comp, discard_map]

/-- Steps in order leave behind what each of them does up to the first one that fails, and fail as it
does. -/
theorem inOrder_eq {run : α → Recorded ε Unit} {succeeds : α → Bool} {failure : α → ε} {l : List α}
    (hok : ∀ a ∈ l, succeeds a = true → (run a).outcome = .ok ())
    (hfail : ∀ a ∈ l, succeeds a = false → run a = fail (failure a)) :
    inOrder (l.map run) =
      ⟨⟨(l.takeWhile succeeds).flatMap fun a => (run a).trace.questions,
        (l.takeWhile succeeds).flatMap fun a => (run a).trace.notices⟩,
        (l.find? fun a => !succeeds a).elim (.ok ()) fun a => .error (failure a)⟩ := by
  induction l with
  | nil => rfl
  | cons a l ih =>
    rcases List.forall_mem_cons.1 hok with ⟨haok, hok⟩
    rcases List.forall_mem_cons.1 hfail with ⟨hafail, hfail⟩
    cases hsucceeds : succeeds a with
    | false =>
      rw [List.map_cons, inOrder, hafail hsucceeds]
      simp [hsucceeds]
      rfl
    | true =>
      rw [List.map_cons, inOrder, ih hok hfail]
      show (run a).bind _ = _
      simp only [Recorded.bind, haok hsucceeds, List.takeWhile_cons, hsucceeds, if_true,
        List.find?_cons, Bool.not_true]
      rfl

end Recorded
end DocMarkup
