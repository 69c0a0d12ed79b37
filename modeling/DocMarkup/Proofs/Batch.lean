import DocMarkup.Batch
import DocMarkup.Proofs.Assoc
import DocMarkup.Proofs.Trace

/-!
# Comments and notices of a batch

A batch gives the values of its tasks in the order of the keys, whatever the order of the work,
unless a task fails for something else than its markup: then the first of these keys decides the
failure. It leaves behind what the tasks do, and one notice for each key whose markup is malformed.

Main definitions:

- {lit}`Batch.IsMalformed`: a task that fails for its markup.
- {lit}`Batch.Settles`: a task that fails for its markup alone.
- {lit}`Batch.kept`: the values of the tasks that give one.
- {lit}`Batch.firstFailure?`: the failure of the first task that fails for something else.
- {lit}`Batch.skipped`: the notices about keys that are left out.

Main results:

- Theorem {lit}`Batch.outcome_runSchedule_eq`: what a batch gives.
- Theorem {lit}`Batch.outcome_runSchedule`: what it gives when every task settles.
- Theorems {lit}`Batch.notices_execute` and {lit}`Batch.mem_notices_runSchedule`: what a batch
  leaves behind.
- Theorem {lit}`Batch.build_eq_runSchedule`: workers that are there do not matter.
- Theorems {lit}`Batch.build_succeeds` and {lit}`Batch.build_fails`: a batch succeeds when its tasks
  do, and fails when one of them fails for something else than its markup.
-/

namespace DocMarkup
namespace Batch

variable {α : Type} {schedule tasks : List (Text × Recorded Failure α)}

/-! ## One task -/

/-- A task that fails for its markup. -/
def IsMalformed (task : Recorded Failure α) : Prop :=
  ∃ raw file, task.outcome = .error (.malformed raw file)

/-- A task that gives a value unless it fails for its markup. -/
def Settles (task : Recorded Failure α) : Prop := (∃ a, task.outcome = .ok a) ∨ IsMalformed task

/-- The failure of a task, unless it is about its markup. -/
def otherFailure? (task : Recorded Failure α) : Option Failure :=
  match task.outcome with
  | .ok _ => none
  | .error (.malformed _ _) => none
  | .error e => some e

/-- A task that settles has no other failure. -/
theorem otherFailure?_eq_none {task : Recorded Failure α} (htask : Settles task) :
    otherFailure? task = none := by
  unfold otherFailure?
  rcases htask with ⟨a, ha⟩ | ⟨raw, file, hmalformed⟩
  · rw [ha]
  · rw [hmalformed]

/-- A task gives its value, or nothing when it fails for its markup, or fails as it does. -/
theorem outcome_runTask (key : Text) (task : Recorded Failure α) :
    (runTask key task).outcome =
      (otherFailure? task).elim (.ok task.outcome.toOption) .error := by
  unfold runTask otherFailure?
  cases houtcome : task.outcome with
  | ok a => rfl
  | error e => cases e <;> rfl

/-- The notice that a key is left out, when its task fails for its markup. -/
def skipNotice? (key : Text) (task : Recorded Failure α) : Option Notice :=
  match task.outcome with
  | .error (.malformed _ _) => some (.commentSkipped key)
  | _ => none

/-- A task leaves behind what it did, and after it the notice that its key is left out. -/
theorem notices_runTask (key : Text) (task : Recorded Failure α) :
    (runTask key task).trace.notices = task.trace.notices ++ (skipNotice? key task).toList := by
  unfold runTask skipNotice?
  cases houtcome : task.outcome with
  | ok a => exact (List.append_nil _).symm
  | error e =>
    cases e with
    | malformed raw file => rfl
    | _ => exact (List.append_nil _).symm

/-- A task leaves behind what it did, and a notice when it failed for its markup. -/
theorem mem_notices_runTask {key : Text} {task : Recorded Failure α} {n : Notice} :
    n ∈ (runTask key task).trace.notices ↔
      n ∈ task.trace.notices ∨ n = .commentSkipped key ∧ IsMalformed task := by
  rw [notices_runTask, List.mem_append]
  refine or_congr Iff.rfl ?_
  unfold skipNotice? IsMalformed
  cases houtcome : task.outcome with
  | ok a => simp
  | error e => cases e <;> simp

/-! ## A schedule -/

/-- The results of a schedule are those of its tasks. -/
theorem execute_results (schedule : List (Text × Recorded Failure α)) :
    (execute schedule).2 = schedule.map fun t => (t.1, (runTask t.1 t.2).outcome) := by
  induction schedule with
  | nil => rfl
  | cons t schedule ih =>
    rw [List.map_cons, ← ih]
    rfl

/-- The notices of a schedule are those of its tasks, in the order of the schedule. -/
theorem notices_execute (schedule : List (Text × Recorded Failure α)) :
    (execute schedule).1.notices =
      schedule.flatMap fun t => (runTask t.1 t.2).trace.notices := by
  induction schedule with
  | nil => rfl
  | cons t schedule ih =>
    rw [List.flatMap_cons, ← ih]
    rfl

/-- A schedule leaves behind what its tasks do. -/
theorem mem_notices_execute {n : Notice} :
    n ∈ (execute schedule).1.notices ↔
      ∃ t ∈ schedule, n ∈ (runTask t.1 t.2).trace.notices := by
  rw [notices_execute, List.mem_flatMap]

/-! ## The batch -/

/-- The values of the tasks that give one, by key. -/
def kept (tasks : List (Text × Recorded Failure α)) : List (Text × α) :=
  tasks.filterMap fun t => t.2.outcome.toOption.map fun a => (t.1, a)

/-- A task that gives a value is kept. -/
theorem kept_cons_ok {t : Text × Recorded Failure α} {a : α} (h : t.2.outcome = .ok a) :
    kept (t :: tasks) = (t.1, a) :: kept tasks := by
  rw [kept, List.filterMap_cons, h]
  rfl

/-- A task that fails is not kept. -/
theorem kept_cons_error {t : Text × Recorded Failure α} {e : Failure}
    (h : t.2.outcome = .error e) : kept (t :: tasks) = kept tasks := by
  rw [kept, List.filterMap_cons, h]
  rfl

/-- The failure of the first task that fails for something else than its markup. -/
def firstFailure? (tasks : List (Text × Recorded Failure α)) : Option Failure :=
  tasks.findSome? fun t => otherFailure? t.2

/-- Results are collected in the order of the keys up to the first failure. -/
theorem collect_eq {results : List (Text × Except Failure (Option α))}
    (hresults : ∀ t ∈ tasks, Assoc.get? t.1 results = some (runTask t.1 t.2).outcome) :
    collect results (tasks.map Prod.fst) =
      (firstFailure? tasks).elim (.ok (kept tasks)) .error := by
  induction tasks with
  | nil => rfl
  | cons t tasks ih =>
    rcases List.forall_mem_cons.1 hresults with ⟨hfirst, hrest⟩
    have hcons : firstFailure? (t :: tasks) = (otherFailure? t.2).or (firstFailure? tasks) := by
      rw [firstFailure?, List.findSome?_cons, ← firstFailure?]
      cases otherFailure? t.2 <;> rfl
    rw [List.map_cons, collect, hfirst, outcome_runTask, ih hrest, hcons]
    cases hfailure : otherFailure? t.2 with
    | some e => rfl
    | none =>
      cases houtcome : t.2.outcome with
      | ok a =>
        rw [kept_cons_ok houtcome]
        cases firstFailure? tasks <;> rfl
      | error e =>
        rw [kept_cons_error houtcome]
        rfl

/-- A batch gives the values of its tasks in the order of the keys, or fails as the first of them
does that fails for something else than its markup, in whatever order they are worked off. -/
theorem outcome_runSchedule_eq (hkeys : (schedule.map Prod.fst).Nodup) (htasks : tasks ⊆ schedule) :
    (runSchedule (tasks.map Prod.fst) schedule).outcome =
      (firstFailure? tasks).elim (.ok (kept tasks)) .error := by
  refine collect_eq ?_
  intro t ht
  have hentry : (t.1, (runTask t.1 t.2).outcome) ∈ (execute schedule).2 := by
    rw [execute_results]
    exact List.mem_map_of_mem (f := fun t => (t.1, (runTask t.1 t.2).outcome)) (htasks ht)
  have hnodup : ((execute schedule).2.map Prod.fst).Nodup := by
    rw [execute_results, List.map_map]
    exact hkeys
  exact Assoc.get?_of_mem hnodup hentry

/-- When every task settles, a batch gives the values of its tasks in the order of the keys, in
whatever order they are worked off. -/
theorem outcome_runSchedule (hkeys : (schedule.map Prod.fst).Nodup)
    (hsettles : ∀ t ∈ schedule, Settles t.2) (htasks : tasks ⊆ schedule) :
    (runSchedule (tasks.map Prod.fst) schedule).outcome = .ok (kept tasks) := by
  have hnone : firstFailure? tasks = none :=
    List.findSome?_eq_none_iff.2 fun t ht => otherFailure?_eq_none (hsettles t (htasks ht))
  rw [outcome_runSchedule_eq hkeys htasks, hnone]
  rfl

/-- The notices about keys that are left out. -/
def skipped (tasks : List (Text × Recorded Failure α)) : List Notice :=
  tasks.filterMap fun t => skipNotice? t.1 t.2

/-- A batch leaves behind what its tasks do, and a notice for each one that fails for its markup. -/
theorem mem_notices_runSchedule {keys : List Text} {n : Notice} :
    n ∈ (runSchedule keys schedule).trace.notices ↔
      ∃ t ∈ schedule,
        n ∈ t.2.trace.notices ∨ n = .commentSkipped t.1 ∧ IsMalformed t.2 := by
  show n ∈ (execute schedule).1.notices ↔ _
  simp only [mem_notices_execute, mem_notices_runTask]

/-- A batch with workers, or without a word about them, is its tasks worked off. -/
theorem build_eq_runSchedule {workers : Option Int} (hworkers : ∀ n ∈ workers, 0 < n) :
    build tasks workers = runSchedule (tasks.map Prod.fst) tasks := by
  cases workers with
  | none => rfl
  | some n => exact if_neg (Int.not_le.2 (hworkers n rfl))

/-- What a batch gives. -/
theorem outcome_build (hkeys : (tasks.map Prod.fst).Nodup) {workers : Option Int}
    (hworkers : ∀ n ∈ workers, 0 < n) :
    (build tasks workers).outcome = (firstFailure? tasks).elim (.ok (kept tasks)) .error := by
  rw [build_eq_runSchedule hworkers]
  exact outcome_runSchedule_eq hkeys (List.Subset.refl _)

/-- When every task gives a value, all keys are kept. -/
theorem keys_kept (htasks : ∀ t ∈ tasks, ∃ a, t.2.outcome = .ok a) :
    (kept tasks).map Prod.fst = tasks.map Prod.fst := by
  induction tasks with
  | nil => rfl
  | cons t tasks ih =>
    rcases List.forall_mem_cons.1 htasks with ⟨⟨a, ha⟩, hrest⟩
    rw [kept_cons_ok ha, List.map_cons, List.map_cons, ih hrest]

/-- When every task gives a value, a batch has a value for every key. -/
theorem build_succeeds (hkeys : (tasks.map Prod.fst).Nodup) {workers : Option Int}
    (hworkers : ∀ n ∈ workers, 0 < n) (htasks : ∀ t ∈ tasks, ∃ a, t.2.outcome = .ok a) :
    ∃ values, (build tasks workers).outcome = .ok values ∧
      values.map Prod.fst = tasks.map Prod.fst := by
  have hnone : firstFailure? tasks = none :=
    List.findSome?_eq_none_iff.2 fun t ht => otherFailure?_eq_none (Or.inl (htasks t ht))
  exact ⟨kept tasks, by rw [outcome_build hkeys hworkers, hnone]; rfl, keys_kept htasks⟩

/-- A task that fails for something else than its markup fails its batch. -/
theorem build_fails (hkeys : (tasks.map Prod.fst).Nodup) {workers : Option Int}
    (hworkers : ∀ n ∈ workers, 0 < n) {t : Text × Recorded Failure α} (ht : t ∈ tasks) {e : Failure}
    (he : t.2.outcome = .error e) (hkind : ∀ raw file, e ≠ .malformed raw file) :
    ∃ failure, (build tasks workers).outcome = .error failure := by
  have hother : otherFailure? t.2 = some e := by
    unfold otherFailure?
    rw [he]
    cases e with
    | malformed raw file => exact absurd rfl (hkind raw file)
    | _ => rfl
  cases hfirst : firstFailure? tasks with
  | none =>
    have hnone := List.findSome?_eq_none_iff.1 hfirst t ht
    rw [hother] at hnone
    cases hnone
  | some failure =>
    rw [outcome_build hkeys hworkers, hfirst]
    exact ⟨failure, rfl⟩

end Batch
end DocMarkup
