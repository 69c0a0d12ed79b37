import Mathlib.Data.List.Perm.Basic
import Mathlib.Logic.Relation
import DocMarkup.Proofs.Batch

/-!
# Pools of workers

The tasks of a batch are worked off by several workers at once. A free worker takes up any task that
waits; the workers report their notices one at a time and finish in any order; meanwhile the
collector awaits the results in the order of the keys and gives up at the first failure that it
meets. Whatever the workers do, the batch gives what its tasks give on their own.

Main definitions:

- {lit}`Batch.Pool`: the state of the workers and of the collector.
- {lit}`Batch.Pool.Step`: one step of a worker or of the collector.
- {lit}`Batch.Pool.IsDone`: every task is finished and every result is collected.
- {lit}`Batch.Pool.total`: what the collector has in the end.
- {lit}`Batch.Pool.Invariant`: what is left to do, together with what is done, is the whole batch.

Main results:

- Theorem {lit}`Batch.Pool.Step.invariant`: every step keeps the invariant.
- Theorem {lit}`Batch.Pool.Step.weight_lt`: every step leaves less to do.
- Theorem {lit}`Batch.Pool.Invariant.exists_step`: a pool that is not done can go on.
- Theorem {lit}`Batch.Pool.run_gives`: what every complete run of a pool gives.
-/

namespace DocMarkup
namespace Batch

open Relation (ReflTransGen)

variable {α : Type}

/-! ## Workers and the collector -/

/-- A task that a worker is at: the notices that it has still to report, and what it gives in the
end. -/
structure Job (α : Type) where
  key : Text
  notices : List Notice
  outcome : Except Failure (Option α)

namespace Job

/-- The job that a task is when it is taken up. -/
def ofTask (t : Text × Recorded Failure α) : Job α :=
  ⟨t.1, (runTask t.1 t.2).trace.notices, (runTask t.1 t.2).outcome⟩

/-- What a job gives, under its key. -/
def result (j : Job α) : Text × Except Failure (Option α) := (j.key, j.outcome)

end Job

/-- The tasks that wait, the jobs that workers are at, the results that are there and the notices
that were reported; for the collector, the keys that it awaits and what it has so far. -/
structure Pool (α : Type) where
  waiting : List (Text × Recorded Failure α)
  running : List (Job α)
  finished : List (Text × Except Failure (Option α))
  log : List Notice
  awaited : List Text
  collected : Except Failure (List (Text × α))

namespace Pool

variable {workers : Nat} {tasks : List (Text × Recorded Failure α)} {p q : Pool α}

/-- A pool to which the tasks of a batch have been handed. -/
def start (tasks : List (Text × Recorded Failure α)) : Pool α :=
  ⟨tasks, [], [], [], tasks.map Prod.fst, .ok []⟩

/-- The result of an awaited key collected, with more keys to await. A failure ends the collection.
-/
def gather (p : Pool α) (key : Text) (rest : List Text) : Except Failure (Option α) → Pool α
  | .ok none => { p with awaited := rest }
  | .ok (some a) =>
    { p with awaited := rest, collected := p.collected.map fun found => found ++ [(key, a)] }
  | .error e => { p with awaited := [], collected := .error e }

/-- One step of a pool with so many workers. -/
inductive Step (workers : Nat) : Pool α → Pool α → Prop
  /-- A free worker takes up any task that waits. -/
  | take {p : Pool α} {before after : List (Text × Recorded Failure α)}
      {t : Text × Recorded Failure α} (hwaiting : p.waiting = before ++ t :: after)
      (hfree : p.running.length < workers) :
      Step workers p { p with waiting := before ++ after, running := .ofTask t :: p.running }
  /-- A worker reports the next notice of its job. -/
  | report {p : Pool α} {before after : List (Job α)} {key : Text} {n : Notice}
      {notices : List Notice} {outcome : Except Failure (Option α)}
      (hrunning : p.running = before ++ ⟨key, n :: notices, outcome⟩ :: after) :
      Step workers p
        { p with running := before ++ ⟨key, notices, outcome⟩ :: after, log := p.log ++ [n] }
  /-- A worker finishes a job of which nothing is left to report. -/
  | finish {p : Pool α} {before after : List (Job α)} {key : Text}
      {outcome : Except Failure (Option α)}
      (hrunning : p.running = before ++ ⟨key, [], outcome⟩ :: after) :
      Step workers p
        { p with running := before ++ after, finished := p.finished ++ [(key, outcome)] }
  /-- The collector takes the result of the next key when it is there. -/
  | gather {p : Pool α} {key : Text} {rest : List Text} {outcome : Except Failure (Option α)}
      (hawaited : p.awaited = key :: rest) (hfinished : Assoc.get? key p.finished = some outcome) :
      Step workers p (p.gather key rest outcome)

/-- Every task is finished and every result is collected. -/
structure IsDone (p : Pool α) : Prop where
  waiting : p.waiting = []
  running : p.running = []
  awaited : p.awaited = []

/-! ## The invariant -/

/-- The jobs that are not finished, those of the waiting tasks first. -/
def jobs (p : Pool α) : List (Job α) := p.waiting.map .ofTask ++ p.running

/-- The results of a batch, in the order of its tasks. -/
def resultsOf (tasks : List (Text × Recorded Failure α)) :
    List (Text × Except Failure (Option α)) :=
  (tasks.map Job.ofTask).map Job.result

/-- What the collector has in the end, when the results of a batch are there. -/
def total (results : List (Text × Except Failure (Option α))) (p : Pool α) :
    Except Failure (List (Text × α)) :=
  p.collected.bind fun found => (collect results p.awaited).map fun others => found ++ others

/-- What is left to do, together with what is done, is the whole batch: its results, its notices,
and what is collected of it. Only a collector that has not failed awaits anything. -/
structure Invariant (tasks : List (Text × Recorded Failure α)) (p : Pool α) : Prop where
  results : (p.jobs.map Job.result ++ p.finished).Perm (resultsOf tasks)
  notices : (p.log ++ p.jobs.flatMap Job.notices).Perm ((tasks.map Job.ofTask).flatMap Job.notices)
  awaited : p.awaited ⊆ tasks.map Prod.fst
  unfailed : p.awaited = [] ∨ ∃ found, p.collected = .ok found
  total : p.total (resultsOf tasks) = collect (resultsOf tasks) (tasks.map Prod.fst)

/-- A pool starts with the whole batch left to do. -/
theorem start_invariant (tasks : List (Text × Recorded Failure α)) :
    Invariant tasks (start tasks) where
  results := by simp [jobs, start, resultsOf]
  notices := by simp [jobs, start]
  awaited := List.Subset.refl _
  unfailed := Or.inr ⟨[], rfl⟩
  total := by
    show (collect _ (tasks.map Prod.fst)).map (fun others => [] ++ others) = _
    cases collect (resultsOf tasks) (tasks.map Prod.fst) <;> rfl

/-- The results of a batch are under the keys of its tasks. -/
theorem keys_resultsOf (tasks : List (Text × Recorded Failure α)) :
    (resultsOf tasks).map Prod.fst = tasks.map Prod.fst := by
  simp [resultsOf, Job.ofTask, Job.result, Function.comp_def]

/-- A task has its result when no key occurs twice. -/
theorem get?_resultsOf (hkeys : (tasks.map Prod.fst).Nodup) :
    ∀ t ∈ tasks, Assoc.get? t.1 (resultsOf tasks) = some (runTask t.1 t.2).outcome := by
  intro t ht
  refine Assoc.get?_of_mem (keys_resultsOf tasks ▸ hkeys) ?_
  exact List.mem_map_of_mem (f := Job.result) (List.mem_map_of_mem (f := Job.ofTask) ht)

/-- A result that is there is the one that the batch has for its key. -/
theorem Invariant.get?_of_finished (hp : Invariant tasks p) (hkeys : (tasks.map Prod.fst).Nodup)
    {key : Text} {outcome : Except Failure (Option α)}
    (h : Assoc.get? key p.finished = some outcome) :
    Assoc.get? key (resultsOf tasks) = some outcome := by
  have hmem : (key, outcome) ∈ resultsOf tasks :=
    hp.results.subset (List.mem_append_right _ (Assoc.mem_of_get? h))
  exact Assoc.get?_of_mem (keys_resultsOf tasks ▸ hkeys) hmem

/-! ## Steps -/

/-- The jobs of a pool, one that a worker is at in front. -/
theorem jobs_perm {before after : List (Job α)} {j : Job α}
    (hrunning : p.running = before ++ j :: after) :
    p.jobs.Perm (j :: (p.waiting.map .ofTask ++ (before ++ after))) := by
  rw [jobs, hrunning, ← List.append_assoc, ← List.append_assoc]
  exact List.perm_middle

/-- Taking up a task changes the order of the jobs alone. -/
theorem jobs_take_perm {before after : List (Text × Recorded Failure α)}
    {t : Text × Recorded Failure α} (hwaiting : p.waiting = before ++ t :: after) :
    (jobs { p with waiting := before ++ after, running := .ofTask t :: p.running }).Perm
      p.jobs := by
  simp only [jobs, hwaiting, List.map_append, List.map_cons, List.append_assoc]
  exact List.perm_middle.append_left _

/-- Reporting a notice keeps the invariant: the notice goes from the job to the log. -/
theorem Invariant.report {before after : List (Job α)} {key : Text} {n : Notice}
    {notices : List Notice} {outcome : Except Failure (Option α)} (hp : Invariant tasks p)
    (hrunning : p.running = before ++ ⟨key, n :: notices, outcome⟩ :: after) :
    Invariant tasks
      { p with running := before ++ ⟨key, notices, outcome⟩ :: after, log := p.log ++ [n] } := by
  let others := p.waiting.map Job.ofTask ++ (before ++ after)
  have hbefore : p.jobs.Perm (⟨key, n :: notices, outcome⟩ :: others) := jobs_perm hrunning
  have hafter : (jobs { p with running := before ++ ⟨key, notices, outcome⟩ :: after,
                               log := p.log ++ [n] }).Perm (⟨key, notices, outcome⟩ :: others) :=
    jobs_perm rfl
  refine { results := ?_, notices := ?_, awaited := hp.awaited, unfailed := hp.unfailed,
           total := hp.total }
  · exact ((hafter.map Job.result).append_right _).trans
      (((hbefore.map Job.result).append_right _).symm.trans hp.results)
  · have hmoved : p.log ++ [n] ++ (⟨key, notices, outcome⟩ :: others).flatMap Job.notices =
        p.log ++ (⟨key, n :: notices, outcome⟩ :: others).flatMap Job.notices := by simp
    have hfront := (hafter.flatMap_right Job.notices).append_left (p.log ++ [n])
    rw [hmoved] at hfront
    exact hfront.trans (((hbefore.flatMap_right Job.notices).append_left _).symm.trans hp.notices)

/-- Finishing a job keeps the invariant: its result goes from the job to the results. -/
theorem Invariant.finish {before after : List (Job α)} {key : Text}
    {outcome : Except Failure (Option α)} (hp : Invariant tasks p)
    (hrunning : p.running = before ++ ⟨key, [], outcome⟩ :: after) :
    Invariant tasks
      { p with running := before ++ after, finished := p.finished ++ [(key, outcome)] } := by
  have hjobs : p.jobs.Perm
      (⟨key, [], outcome⟩ :: (p.waiting.map Job.ofTask ++ (before ++ after))) :=
    jobs_perm hrunning
  refine { results := ?_, notices := ?_, awaited := hp.awaited, unfailed := hp.unfailed,
           total := hp.total }
  · refine List.Perm.trans ?_ (((hjobs.map Job.result).append_right _).symm.trans hp.results)
    show (_ ++ (p.finished ++ [(key, outcome)])).Perm ((key, outcome) :: _ ++ p.finished)
    rw [← List.append_assoc]
    exact List.perm_append_singleton _ _
  · exact ((hjobs.flatMap_right Job.notices).append_left _).symm.trans hp.notices

/-- Collecting a result leaves the jobs alone. -/
theorem jobs_gather (p : Pool α) (key : Text) (rest : List Text)
    (outcome : Except Failure (Option α)) : (p.gather key rest outcome).jobs = p.jobs := by
  rcases outcome with e | _ | a <;> rfl

/-- Collecting a result leaves none of the others to await, or all of them. -/
theorem awaited_gather (p : Pool α) (key : Text) (rest : List Text)
    (outcome : Except Failure (Option α)) :
    (p.gather key rest outcome).awaited = [] ∨ (p.gather key rest outcome).awaited = rest := by
  rcases outcome with e | _ | a
  · exact Or.inl rfl
  · exact Or.inr rfl
  · exact Or.inr rfl

/-- A collector that fails on collecting a result awaits nothing more. -/
theorem unfailed_gather {found : List (Text × α)} (hfound : p.collected = .ok found) (key : Text)
    (rest : List Text) (outcome : Except Failure (Option α)) :
    (p.gather key rest outcome).awaited = [] ∨
      ∃ found, (p.gather key rest outcome).collected = .ok found := by
  rcases outcome with e | _ | a
  · exact Or.inl rfl
  · exact Or.inr ⟨found, hfound⟩
  · refine Or.inr ⟨found ++ [(key, a)], ?_⟩
    show p.collected.map _ = _
    rw [hfound]
    rfl

/-- Collecting the result that a batch has for a key changes nothing in the end. -/
theorem total_gather {results : List (Text × Except Failure (Option α))} {key : Text}
    {rest : List Text} {outcome : Except Failure (Option α)} {found : List (Text × α)}
    (hawaited : p.awaited = key :: rest) (hfound : p.collected = .ok found)
    (hget : Assoc.get? key results = some outcome) :
    (p.gather key rest outcome).total results = p.total results := by
  unfold total
  rw [hawaited, collect, hget]
  rcases outcome with e | _ | a
  · rw [hfound]
    rfl
  · rfl
  · show (p.collected.map _).bind _ = _
    rw [hfound]
    show (collect results rest).map _ = ((collect results rest).map _).map _
    cases collect results rest with
    | error e => rfl
    | ok others => simp [Except.map]

/-- Collecting a result keeps the invariant: it is the one that the batch has for its key. -/
theorem Invariant.gather {key : Text} {rest : List Text} {outcome : Except Failure (Option α)}
    (hp : Invariant tasks p) (hkeys : (tasks.map Prod.fst).Nodup)
    (hawaited : p.awaited = key :: rest) (hfinished : Assoc.get? key p.finished = some outcome) :
    Invariant tasks (p.gather key rest outcome) := by
  have hfinished' : (p.gather key rest outcome).finished = p.finished := by
    rcases outcome with e | _ | a <;> rfl
  have hlog : (p.gather key rest outcome).log = p.log := by
    rcases outcome with e | _ | a <;> rfl
  rcases hp.unfailed with hnone | ⟨found, hfound⟩
  · simp [hawaited] at hnone
  · refine { results := ?_, notices := ?_, awaited := ?_, unfailed := ?_, total := ?_ }
    · rw [jobs_gather, hfinished']
      exact hp.results
    · rw [jobs_gather, hlog]
      exact hp.notices
    · have hrest : rest ⊆ tasks.map Prod.fst := fun other hother =>
        hp.awaited (hawaited ▸ List.mem_cons_of_mem _ hother)
      rcases awaited_gather p key rest outcome with hnil | hsame
      · rw [hnil]
        exact List.nil_subset _
      · rwa [hsame]
    · exact unfailed_gather hfound key rest outcome
    · rw [total_gather hawaited hfound (hp.get?_of_finished hkeys hfinished)]
      exact hp.total

/-- Every step keeps the invariant. -/
theorem Step.invariant (hkeys : (tasks.map Prod.fst).Nodup) (h : Step workers p q)
    (hp : Invariant tasks p) : Invariant tasks q := by
  cases h with
  | take hwaiting hfree =>
    have hjobs := jobs_take_perm hwaiting
    exact
      { results := ((hjobs.map _).append_right _).trans hp.results
        notices := ((hjobs.flatMap_right _).append_left _).trans hp.notices
        awaited := hp.awaited
        unfailed := hp.unfailed
        total := hp.total }
  | report hrunning => exact hp.report hrunning
  | finish hrunning => exact hp.finish hrunning
  | gather hawaited hfinished => exact hp.gather hkeys hawaited hfinished

/-- Every run keeps the invariant. -/
theorem Invariant.of_run (hkeys : (tasks.map Prod.fst).Nodup)
    (h : ReflTransGen (Step workers) p q) (hp : Invariant tasks p) : Invariant tasks q := by
  induction h with
  | refl => exact hp
  | tail _ hstep ih => exact hstep.invariant hkeys ih

/-! ## Progress -/

/-- How much is left to do: the tasks to take up, the jobs to finish, the notices to report and the
results to collect. -/
def weight (p : Pool α) : Nat :=
  p.waiting.length + p.jobs.length + (p.jobs.flatMap Job.notices).length + p.awaited.length

/-- Every step leaves less to do, so no run goes on for ever. -/
theorem Step.weight_lt (h : Step workers p q) : q.weight < p.weight := by
  cases h with
  | take hwaiting hfree =>
    have hjobs := jobs_take_perm hwaiting
    simp only [weight, hjobs.length_eq, (hjobs.flatMap_right Job.notices).length_eq, hwaiting,
      List.length_append, List.length_cons]
    omega
  | report hrunning =>
    simp only [weight, jobs, hrunning, List.flatMap_append, List.flatMap_cons, List.length_append,
      List.length_cons]
    omega
  | finish hrunning =>
    simp only [weight, jobs, hrunning, List.flatMap_append, List.flatMap_cons, List.length_append,
      List.length_cons, List.length_nil]
    omega
  | @gather key rest outcome hawaited hfinished =>
    have hwaiting : (p.gather key rest outcome).waiting = p.waiting := by
      rcases outcome with e | _ | a <;> rfl
    simp only [weight, jobs_gather, hwaiting, hawaited, List.length_cons]
    rcases awaited_gather p key rest outcome with hnil | hsame
    · rw [hnil, List.length_nil]
      omega
    · rw [hsame]
      omega

/-- A pool with a worker that is not done can go on. -/
theorem Invariant.exists_step (hworkers : 0 < workers) (hp : Invariant tasks p)
    (hdone : ¬ p.IsDone) : ∃ q, Step workers p q := by
  cases hrunning : p.running with
  | cons j running =>
    rcases j with ⟨key, notices, outcome⟩
    cases notices with
    | nil =>
      have hfront : p.running = [] ++ ⟨key, [], outcome⟩ :: running := hrunning
      exact ⟨_, .finish hfront⟩
    | cons n notices =>
      have hfront : p.running = [] ++ ⟨key, n :: notices, outcome⟩ :: running := hrunning
      exact ⟨_, .report hfront⟩
  | nil =>
    cases hwaiting : p.waiting with
    | cons t waiting =>
      have hfront : p.waiting = [] ++ t :: waiting := hwaiting
      have hfree : p.running.length < workers := by simpa [hrunning] using hworkers
      exact ⟨_, .take hfront hfree⟩
    | nil =>
      cases hawaited : p.awaited with
      | nil => exact absurd ⟨hwaiting, hrunning, hawaited⟩ hdone
      | cons key rest =>
        -- every task is finished, so the result of the next key is there
        have hfinished : p.finished.Perm (resultsOf tasks) := by
          simpa [jobs, hwaiting, hrunning] using hp.results
        have hkey : key ∈ p.finished.map Prod.fst := by
          rw [(hfinished.map Prod.fst).mem_iff, keys_resultsOf]
          exact hp.awaited (hawaited ▸ List.mem_cons_self ..)
        cases hget : Assoc.get? key p.finished with
        | none => exact absurd hkey (Assoc.get?_eq_none_iff.1 hget)
        | some outcome => exact ⟨_, .gather hawaited hget⟩

/-- Every run of a pool with a worker can be completed. -/
theorem Invariant.exists_done (hworkers : 0 < workers) (hkeys : (tasks.map Prod.fst).Nodup)
    (hp : Invariant tasks p) : ∃ q, ReflTransGen (Step workers) p q ∧ q.IsDone := by
  induction hweight : p.weight using Nat.strongRecOn generalizing p with
  | ind weight ih =>
    by_cases hdone : p.IsDone
    · exact ⟨p, .refl, hdone⟩
    · rcases hp.exists_step hworkers hdone with ⟨q, hstep⟩
      have hlt : q.weight < weight := hweight ▸ hstep.weight_lt
      rcases ih q.weight hlt (hstep.invariant hkeys hp) rfl with ⟨final, hrun, hfinal⟩
      exact ⟨final, .head hstep hrun, hfinal⟩

/-! ## Complete runs -/

/-- Up to their order, the tasks leave behind what each of them does on its own, and one notice for
each key whose markup is malformed. -/
theorem notices_perm (tasks : List (Text × Recorded Failure α)) :
    (tasks.flatMap fun t => (runTask t.1 t.2).trace.notices).Perm
      (tasks.flatMap (fun t => t.2.trace.notices) ++ skipped tasks) := by
  simp only [notices_runTask, skipped, List.filterMap_eq_flatMap_toList]
  exact (List.flatMap_append_perm _ _ _).symm

/-- When all is done, the values of the tasks have been collected in the order of the keys, or the
failure of the first one that fails for something else than its markup; and the notices of the tasks
have been reported, in some order. -/
theorem Invariant.gives (hp : Invariant tasks p) (hkeys : (tasks.map Prod.fst).Nodup)
    (hdone : p.IsDone) :
    p.collected = (firstFailure? tasks).elim (.ok (kept tasks)) .error ∧
      p.log.Perm (tasks.flatMap (fun t => t.2.trace.notices) ++ skipped tasks) := by
  constructor
  · have htotal := hp.total
    rw [Pool.total, hdone.awaited, collect_eq (get?_resultsOf hkeys)] at htotal
    rw [← htotal]
    cases p.collected with
    | error e => rfl
    | ok found => exact congrArg Except.ok (List.append_nil found).symm
  · have hnotices := hp.notices
    rw [jobs, hdone.waiting, hdone.running, List.flatMap_map] at hnotices
    have hlog : p.log.Perm (tasks.flatMap fun t => (runTask t.1 t.2).trace.notices) := by
      simpa [Job.ofTask] using hnotices
    exact hlog.trans (notices_perm tasks)

end Pool

/-- The batch that is worked off in the order of the keys is one of the complete runs: it gives what
they all give. -/
theorem build_gives {tasks : List (Text × Recorded Failure α)}
    (hkeys : (tasks.map Prod.fst).Nodup) {workers : Option Int} (hworkers : ∀ n ∈ workers, 0 < n) :
    (build tasks workers).outcome = (firstFailure? tasks).elim (.ok (kept tasks)) .error ∧
      (build tasks workers).trace.notices.Perm
        (tasks.flatMap (fun t => t.2.trace.notices) ++ skipped tasks) := by
  rw [build_eq_runSchedule hworkers]
  refine ⟨outcome_runSchedule_eq hkeys (List.Subset.refl _), ?_⟩
  show (execute tasks).1.notices.Perm _
  rw [notices_execute]
  exact Pool.notices_perm tasks

/-- Whatever the tasks are, the building of a provider's comment or anything else that gives one,
and whatever the workers of a pool do, the run comes to an end, and then the batch has given what
its tasks give on their own: their values in the order of the keys, or the failure of the first task
that fails for something else than its markup. Their notices have been reported, and one for each
key whose markup is malformed. A batch that is worked off in the order of the keys gives the same.
-/
theorem Pool.run_gives (tasks : List (Text × Recorded Failure Comment)) {workers : Nat}
    (hworkers : 0 < workers) (hkeys : (tasks.map Prod.fst).Nodup) {p : Pool Comment}
    (hrun : ReflTransGen (Pool.Step workers) (.start tasks) p) :
    ((∃ q, ReflTransGen (Pool.Step workers) p q ∧ q.IsDone) ∧
      ∀ q, Pool.Step workers p q → q.weight < p.weight) ∧
    (p.IsDone →
      p.collected = (firstFailure? tasks).elim (.ok (kept tasks)) .error ∧
      p.log.Perm (tasks.flatMap (fun t => t.2.trace.notices) ++ skipped tasks) ∧
      p.collected = (build tasks (some workers)).outcome ∧
      p.log.Perm (build tasks (some workers)).trace.notices) := by
  have hp : Pool.Invariant tasks p := (Pool.start_invariant tasks).of_run hkeys hrun
  refine ⟨⟨hp.exists_done hworkers hkeys, fun q hstep => hstep.weight_lt⟩, fun hdone => ?_⟩
  have hpositive : ∀ n ∈ some (workers : Int), 0 < n := by
    rintro n ⟨⟩
    exact Int.natCast_pos.2 hworkers
  rcases hp.gives hkeys hdone with ⟨hcollected, hlog⟩
  rcases build_gives hkeys hpositive with ⟨houtcome, hnotices⟩
  exact ⟨hcollected, hlog, hcollected.trans houtcome.symm, hlog.trans hnotices.symm⟩

/-- Two workers take up the second task first, and its markup is malformed; the batch is the comment
of the first one, and one notice. -/
theorem Pool.run_gives_first :
    let comment : Comment := ⟨some "x".toList, none, none, [], [], [], [], []⟩
    let tasks : List (Text × Recorded Failure Comment) :=
      [("a".toList, .pure comment), ("b".toList, .fail (.malformed "<".toList none))]
    ∃ p, ReflTransGen (Pool.Step 2) (.start tasks) p ∧ p.IsDone ∧
      p.collected = .ok [("a".toList, comment)] ∧
      p.log.Perm [.commentSkipped "b".toList] ∧
      (build tasks (some 2)).outcome = .ok [("a".toList, comment)] := by
  intro comment tasks
  let first : Text × Recorded Failure Comment := ("a".toList, .pure comment)
  let second : Text × Recorded Failure Comment :=
    ("b".toList, .fail (.malformed "<".toList none))
  let reported : Job Comment := ⟨"b".toList, [], .ok none⟩
  have hrun : ∃ p, ReflTransGen (Pool.Step 2) (.start tasks) p ∧ p.IsDone := by
    refine ⟨_,
      .head (.take (show tasks = [first] ++ second :: [] from rfl) (by decide)) <|
      .head (.report (show [Job.ofTask second] = [] ++ Job.ofTask second :: [] from rfl)) <|
      .head (.take (show [first] = [] ++ first :: [] from rfl) (by decide)) <|
      .head (.finish (show [Job.ofTask first, reported] = [_] ++ reported :: [] from rfl)) <|
      .head (.finish (show [.ofTask first] = [] ++ Job.ofTask first :: [] from rfl)) <|
      .head (.gather rfl rfl) <|
      .head (.gather rfl rfl) .refl, ⟨rfl, rfl, rfl⟩⟩
  rcases hrun with ⟨p, hrun, hdone⟩
  rcases (run_gives tasks (by decide) (by decide) hrun).2 hdone with ⟨hp, hlog, hbuild, -⟩
  exact ⟨p, hrun, hdone, hp, hlog, hbuild ▸ hp⟩

end Batch
end DocMarkup
