import DocMarkup.Comment.Build

/-!
# Batches

Many symbols are built as separate tasks that workers take up in some order. A malformed comment is
reported and left out; any other failure fails the batch, but only after every task has run. The
result is collected in the order of the keys, whatever the order of the work.

Main definitions:

- {lit}`Batch.runTask`: one task, with a malformed comment turned into a notice.
- {lit}`Batch.execute`: the tasks run in the order of a schedule.
- {lit}`Batch.collect`: the results in the order of the keys.
- {lit}`Batch.build`: the comments of a list of tasks.
-/

namespace DocMarkup
namespace Batch

variable {α : Type}

/-- A task with a malformed comment turned into a notice. -/
def runTask (key : Text) (task : Recorded Failure α) : Recorded Failure (Option α) :=
  match task.outcome with
  | .ok a => ⟨task.trace, .ok (some a)⟩
  | .error (.malformed _ _) => ⟨task.trace ++ ⟨[], [.commentSkipped key]⟩, .ok none⟩
  | .error e => ⟨task.trace, .error e⟩

/-- The tasks run one after another: the notices in the order of the work, and what each key
gave. -/
def execute : List (Text × Recorded Failure α) → Trace × List (Text × Except Failure (Option α))
  | [] => (.nil, [])
  | (key, task) :: rest =>
    let done := runTask key task
    let others := execute rest
    (done.trace ++ others.1, (key, done.outcome) :: others.2)

/-- The comments in the order of the keys; the first key whose task failed decides the failure. -/
def collect (results : List (Text × Except Failure (Option α))) :
    List Text → Except Failure (List (Text × α))
  | [] => .ok []
  | key :: keys =>
    match Assoc.get? key results with
    | none | some (.ok none) => collect results keys
    | some (.error e) => .error e
    | some (.ok (some a)) => (collect results keys).map ((key, a) :: ·)

/-- The batch of a list of tasks whose keys are `keys`, worked off in the order of a schedule. -/
def runSchedule (keys : List Text) (schedule : List (Text × Recorded Failure α)) :
    Recorded Failure (List (Text × α)) :=
  ⟨(execute schedule).1, collect (execute schedule).2 keys⟩

/-- The batch of a list of tasks with distinct keys. The number of workers, when it is given, must
be positive; it does not matter otherwise. -/
def build (tasks : List (Text × Recorded Failure α)) (workers : Option Int) :
    Recorded Failure (List (Text × α)) :=
  match workers with
  | some n => if n ≤ 0 then .fail .noWorkers else runSchedule (tasks.map Prod.fst) tasks
  | none => runSchedule (tasks.map Prod.fst) tasks

end Batch
end DocMarkup
