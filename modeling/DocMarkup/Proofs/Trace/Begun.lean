import DocMarkup.Proofs.Trace.Order

/-!
# How far a list of computations goes

Of a list of computations those are begun that stand in front of the first failing one, and that one
too. What the list leaves behind is what they leave behind, and it fails as the failing one does.

Main definitions:

- {lit}`Recorded.upTo`: the members of a list up to the first one that a test accepts, and with it.
- {lit}`Recorded.begun`: the members of a list whose computations are begun.
- {lit}`Recorded.traceOf`: what these leave behind.

Main results:

- Theorem {lit}`Recorded.inOrder_upTo`: how far steps in order go.
- Theorems {lit}`Recorded.trace_each` and {lit}`Recorded.outcome_each_eq_mapM`: how far a computation
  on each member of a list goes, and what it gives.
-/

namespace DocMarkup
namespace Recorded

variable {ε α β : Type}

/-! ## Members in front -/

/-- The members of a list up to the first one that a test accepts, and with it. -/
def upTo (test : α → Bool) (l : List α) : List α := l.take (l.findIdx test + 1)

/-- A list ends at an accepted member. -/
theorem upTo_cons_of_pos {test : α → Bool} {a : α} (ha : test a = true) (l : List α) :
    upTo test (a :: l) = [a] := by
  simp [upTo, List.findIdx_cons, ha]

/-- A list goes on behind any other member. -/
theorem upTo_cons_of_neg {test : α → Bool} {a : α} (ha : test a = false) (l : List α) :
    upTo test (a :: l) = a :: upTo test l := by
  simp [upTo, List.findIdx_cons, ha]

/-! ## Steps in order -/

/-- Whether a computation fails. -/
def fails (x : Recorded ε α) : Bool := (failure? x.outcome).isSome

/-- The members of a list whose computations are begun. -/
def begun (f : α → Recorded ε β) (l : List α) : List α := upTo (fun a => (f a).fails) l

/-- What the computations that are begun leave behind, one after another. -/
def traceOf (f : α → Recorded ε β) (l : List α) : Trace :=
  ⟨(begun f l).flatMap fun a => (f a).trace.questions,
    (begun f l).flatMap fun a => (f a).trace.notices⟩

/-- Behind a computation that fails nothing is left. -/
theorem traceOf_cons_error {f : α → Recorded ε β} {a : α} {e : ε} (ha : (f a).outcome = .error e)
    (l : List α) : traceOf f (a :: l) = (f a).trace := by
  have hbegun : begun f (a :: l) = [a] := upTo_cons_of_pos (by simp [fails, ha, failure?]) l
  simp [traceOf, hbegun]

/-- A computation that gives a value is followed by the others. -/
theorem traceOf_cons_ok {f : α → Recorded ε β} {a : α} {b : β} (ha : (f a).outcome = .ok b)
    (l : List α) : traceOf f (a :: l) = (f a).trace ++ traceOf f l := by
  have hbegun : begun f (a :: l) = a :: begun f l :=
    upTo_cons_of_neg (by simp [fails, ha, failure?]) l
  simp only [traceOf, hbegun, List.flatMap_cons]
  rfl

/-- Steps in order go as far as the first one that fails, and fail as it does. -/
theorem inOrder_upTo (run : α → Recorded ε Unit) (l : List α) :
    (inOrder (l.map run)).trace = traceOf run l ∧
      failure? (inOrder (l.map run)).outcome = l.findSome? fun a => failure? (run a).outcome := by
  induction l with
  | nil => exact ⟨rfl, rfl⟩
  | cons a l ih =>
    have hstep : inOrder ((a :: l).map run) = (run a).bind fun _ => inOrder (l.map run) := rfl
    rw [hstep, List.findSome?_cons]
    cases houtcome : (run a).outcome with
    | error e =>
      rw [traceOf_cons_error houtcome]
      simp only [bind, houtcome]
      exact ⟨trivial, rfl⟩
    | ok u =>
      rw [traceOf_cons_ok houtcome, ← ih.1, ← ih.2]
      simp only [bind, houtcome]
      exact ⟨trivial, rfl⟩

/-! ## Functions of the value -/

/-- A computation fails as it does without its value. -/
theorem failure?_discard (x : Recorded ε α) : failure? x.discard.outcome = failure? x.outcome := by
  rw [outcome_discard]
  cases x.outcome <;> rfl

/-- A computation fails or not as it does without its value. -/
theorem fails_discard (x : Recorded ε α) : x.discard.fails = x.fails :=
  congrArg Option.isSome (failure?_discard x)

/-- A function of the value is one of the outcome. -/
theorem outcome_map_eq (g : α → β) (x : Recorded ε α) : (g <$> x).outcome = g <$> x.outcome := by
  cases houtcome : x.outcome with
  | error e => exact outcome_bind_error houtcome _
  | ok a => exact outcome_map houtcome g

/-- What is left behind does not depend on what becomes of the values. -/
theorem traceOf_map {γ : Type} (f : α → Recorded ε β) (g : α → β → γ) (l : List α) :
    traceOf (fun a => g a <$> f a) l = traceOf f l := by
  have htrace : ∀ a, (g a <$> f a).trace = (f a).trace := by
    intro a
    rw [← trace_discard, discard_map, trace_discard]
  have hfails : ∀ a, (g a <$> f a).fails = (f a).fails := by
    intro a
    rw [← fails_discard, discard_map, fails_discard]
  simp only [traceOf, begun, htrace, hfails]

/-! ## Lists of computations -/

/-- A computation on each member of a list leaves behind what those do that are begun. -/
theorem trace_each (f : α → Recorded ε β) (l : List α) : (each f l).trace = traceOf f l := by
  have hsteps := (inOrder_upTo (fun a => (f a).discard) l).1
  rw [← discard_each, trace_discard] at hsteps
  simpa only [traceOf, begun, fails_discard, trace_discard] using hsteps

/-- A computation on each member of a list gives what the outcomes of the members give. -/
theorem outcome_each_eq_mapM (f : α → Recorded ε β) (l : List α) :
    (each f l).outcome = l.mapM fun a => (f a).outcome := by
  induction l with
  | nil => rfl
  | cons a l ih =>
    rw [each_cons, List.mapM_cons, ← ih]
    cases houtcome : (f a).outcome with
    | error e => exact outcome_bind_error houtcome _
    | ok b =>
      rw [outcome_bind houtcome]
      cases hrest : (each f l).outcome with
      | error e => exact outcome_bind_error hrest _
      | ok bs => exact outcome_bind hrest _

end Recorded
end DocMarkup
