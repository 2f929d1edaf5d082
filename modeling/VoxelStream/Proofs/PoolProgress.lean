import VoxelStream.Proofs.PoolAccounts
import Mathlib.Algebra.GroupWithZero.Nat

/-!
# Progress of a codec pool

A panic takes nothing from the jobs after it.  A task has come exactly as far as it would have if
every job had returned (`CodecPool.progress_unfailing`).  Every action brings the pool one action
nearer to its end (`CodecPool.remaining_of_advance?`), and until then some task can act
(`CodecPool.exists_advance?`), so every job runs and every caller who waits has a reply.
-/

namespace VoxelStream

variable {α : Type}

/-! ## Actions to come -/

/-- Actions until a task is done. -/
def Progress.remaining : Progress → Nat
  | called => 5
  | queued => 4
  | running => 3
  | ended => 2
  | counted => 1
  | done => 0

theorem Progress.remaining_eq_zero_iff {progress : Progress} :
    progress.remaining = 0 ↔ progress = .done := by
  cases progress <;> simp [remaining]

namespace CodecPool

variable {pool next : CodecPool α} {number : Nat}

/-- Actions until all tasks are done. -/
def remaining (pool : CodecPool α) : Nat := (pool.tasks.map (·.progress.remaining)).sum

/-- No action is left exactly if every task is done. -/
theorem remaining_eq_zero_iff :
    pool.remaining = 0 ↔ ∀ task ∈ pool.tasks, task.progress = .done := by
  simp [remaining, List.sum_eq_zero_iff_forall_eq_nat, Progress.remaining_eq_zero_iff]

/-- Every action brings the pool one action nearer to its end. -/
theorem remaining_of_advance? (acted : pool.advance? number = some next) :
    next.remaining + 1 = pool.remaining := by
  obtain ⟨task, found, allowed, rfl⟩ := advance?_eq_some_iff.mp acted
  obtain ⟨before, after, whole, set⟩ := exists_set_eq found task.advance
  have nearer : task.advance.progress.remaining + 1 = task.progress.remaining := by
    obtain ⟨job, channel, progress⟩ := task
    cases progress with
    | done => simp [allows] at allowed
    | called | queued | running | ended | counted => rfl
  simp only [remaining, set]
  simp [whole]
  omega

theorem advance?_eq_none_iff :
    pool.advance? number = none ↔
      ∀ task, pool.tasks[number]? = some task → pool.allows task = false := by
  unfold advance?
  cases found : pool.tasks[number]? with
  | none => simp
  | some task => cases allowed : pool.allows task <;> simp [allowed]

/-- A pool in which no task can act is at its end. -/
theorem done_of_stuck (workers : 0 < pool.workers)
    (stuck : ∀ number, pool.advance? number = none) :
    ∀ task ∈ pool.tasks, task.progress = .done := by
  have held : ∀ task ∈ pool.tasks, pool.allows task = false := by
    intro task member
    obtain ⟨number, found⟩ := List.mem_iff_getElem?.mp member
    exact advance?_eq_none_iff.mp (stuck number) task found
  -- A worker that is busy with a task could go on with it.
  have free : pool.busy = 0 := by
    refine List.countP_eq_zero.mpr fun task member => ?_
    have taskHeld := held task member
    cases progress : task.progress <;> simp [allows, progress, Progress.onWorker] at taskHeld ⊢
  intro task member
  have taskHeld := held task member
  cases progress : task.progress with
  | done => rfl
  | queued => simp [allows, progress, free, Nat.ne_of_gt workers] at taskHeld
  | called | running | ended | counted => simp [allows, progress] at taskHeld

/-- As long as an action is left, some task can act. -/
theorem exists_advance? (workers : 0 < pool.workers) (unfinished : pool.remaining ≠ 0) :
    ∃ number next, pool.advance? number = some next := by
  refine Classical.byContradiction fun none => ?_
  refine unfinished (remaining_eq_zero_iff.mpr (done_of_stuck workers fun number => ?_))
  exact Option.eq_none_iff_forall_ne_some.mpr fun next acted => none ⟨number, next, acted⟩

/-! ## Runs to the end -/

/-- No step takes a worker away. -/
@[simp]
theorem workers_step (pool : CodecPool α) (step : Step α) :
    (pool.step step).workers = pool.workers := by
  cases step with
  | call | leave => rfl
  | advance number =>
    rcases pool.advance_cases number with idle | acted
    · rw [CodecPool.step, idle]
    · obtain ⟨task, -, -, same⟩ := advance?_eq_some_iff.mp acted
      rw [CodecPool.step, same]

@[simp]
theorem workers_run (pool : CodecPool α) (steps : List (Step α)) :
    (pool.run steps).workers = pool.workers := by
  induction steps generalizing pool with
  | nil => rfl
  | cons step rest ih => simpa [run] using ih (pool.step step)

theorem workers_start_pos (config : PoolConfig) : 0 < (start config : CodecPool α).workers :=
  Nat.le_max_right config.threads 1

/-- Some actions, one for each that remains, bring the pool to its end. -/
theorem exists_finish (workers : 0 < pool.workers) :
    ∃ numbers : List Nat, numbers.length = pool.remaining ∧
      (pool.run (numbers.map .advance)).remaining = 0 := by
  generalize left : pool.remaining = actions
  induction actions generalizing pool with
  | zero => exact ⟨[], rfl, left⟩
  | succ actions ih =>
    obtain ⟨number, next, acted⟩ := exists_advance? workers (by omega)
    have nearer := remaining_of_advance? acted
    have step : pool.step (.advance number) = next := by simp [CodecPool.step, advance, acted]
    have sameWorkers : 0 < next.workers := by rwa [← step, workers_step]
    obtain ⟨numbers, length, finished⟩ := ih sameWorkers (by omega)
    refine ⟨number :: numbers, by simp [length], ?_⟩
    rw [List.map_cons, run, List.foldl_cons, step]
    exact finished

/-! ## Panics do not hinder -/

/-- The same step where every job returns. -/
def Step.unfailing : Step α → Step Unit
  | .call _ => .call (.returns ())
  | .advance number => .advance number
  | .leave number => .leave number

/-- Whether a task may act depends on its progress and on the free workers alone. -/
theorem allows_congr {other : CodecPool β} {task : Task α} {mate : Task β}
    (workers : pool.workers = other.workers) (busy : pool.busy = other.busy)
    (same : task.progress = mate.progress) : pool.allows task = other.allows mate := by
  simp only [allows, workers, busy, same]

/-- How far the tasks come does not depend on what the jobs come to. -/
theorem progress_step {other : CodecPool Unit} (workers : pool.workers = other.workers)
    (same : pool.tasks.map Task.progress = other.tasks.map Task.progress) (step : Step α) :
    (pool.step step).tasks.map Task.progress =
      (other.step step.unfailing).tasks.map Task.progress := by
  cases step with
  | call job => simp [CodecPool.step, Step.unfailing, call, same]
  | leave number => exact same
  | advance number =>
    have busy : pool.busy = other.busy := by
      have counts := congrArg (List.countP Progress.onWorker) same
      rwa [List.countP_map, List.countP_map] at counts
    have place := congrArg (·[number]?) same
    simp only [List.getElem?_map] at place
    simp only [CodecPool.step, Step.unfailing, advance, advance?]
    cases found : pool.tasks[number]? with
    | none =>
      cases met : other.tasks[number]? with
      | none => exact same
      | some mate => simp [found, met] at place
    | some task =>
      cases met : other.tasks[number]? with
      | none => simp [found, met] at place
      | some mate =>
        simp only [found, met, Option.map_some, Option.some.injEq] at place
        simp only [allows_congr workers busy place]
        cases other.allows mate with
        | false => exact same
        | true => simp [List.map_set, same, Task.advance, place]

theorem progress_run {other : CodecPool Unit} (workers : pool.workers = other.workers)
    (same : pool.tasks.map Task.progress = other.tasks.map Task.progress)
    (steps : List (Step α)) :
    (pool.run steps).tasks.map Task.progress =
      (other.run (steps.map Step.unfailing)).tasks.map Task.progress := by
  induction steps generalizing pool other with
  | nil => exact same
  | cons step rest ih => exact ih (by simp [workers]) (progress_step workers same step)

/-- Tasks come as far as they would if no job panicked. -/
theorem progress_unfailing (config : PoolConfig) (steps : List (Step α)) :
    ((start config).run steps).tasks.map Task.progress =
      ((start config).run (steps.map Step.unfailing)).tasks.map Task.progress := by
  have workers : (start config : CodecPool α).workers = (start config : CodecPool Unit).workers :=
    rfl
  exact progress_run workers rfl steps

/-! ## The whole of it -/

/-- The counters balance, and every caller gets what its own job comes to. -/
structure Accounts (steps : List (Step α)) (pool : CodecPool α) : Prop where
  submitted : pool.counters.submitted = (called steps).length
  balance : pool.counters.submitted =
    pool.counters.completed + pool.counters.failed + pool.outstanding
  settled : pool.outstanding = 0 →
    pool.counters.submitted = pool.counters.completed + pool.counters.failed ∧
      pool.counters.failed = (called steps).countP Job.panicked
  replied : ∀ number reply, pool.reply? number = some reply →
    (called steps)[number]?.map Job.reply = some reply
  disconnected : ∀ number, (pool.reply? number).isSome = true →
    (pool.reply? number = some (.error .disconnected) ↔ (called steps)[number]? = some .panics)
  awaited : ∀ number, pool.tasks[number]?.map Task.progress = some .done →
    .leave number ∉ steps → pool.reply? number = (called steps)[number]?.map Job.reply
  busy_le : pool.busy ≤ pool.workers

/-- No job keeps another one from its end. -/
structure Unhindered (config : PoolConfig) (steps : List (Step α)) (pool : CodecPool α) :
    Prop where
  /-- The tasks are as far as they would be if every job returned. -/
  abreast : pool.tasks.map Task.progress =
    ((start config).run (steps.map Step.unfailing)).tasks.map Task.progress
  nearer : ∀ number next, pool.advance? number = some next → next.remaining + 1 = pool.remaining
  /-- When no task can act any more, all jobs are settled and all who waited have a reply. -/
  ends : (∀ number, pool.advance? number = none) →
    pool.outstanding = 0 ∧ ∀ number, .leave number ∉ steps →
      pool.reply? number = (called steps)[number]?.map Job.reply
  /-- Some actions bring all tasks to their end and all who waited their reply. -/
  finishes : ∃ numbers : List Nat,
    (∀ task ∈ (pool.run (numbers.map .advance)).tasks, task.progress = .done) ∧
      ∀ number, .leave number ∉ steps →
        (pool.run (numbers.map .advance)).reply? number = (called steps)[number]?.map Job.reply

variable {steps : List (Step α)}

theorem Sound.accounts (sound : Sound steps pool) : Accounts steps pool where
  submitted := by simp [sound.counters, tally, ← sound.jobs]
  balance := sound.balance
  settled settled := ⟨by rw [sound.balance, settled, Nat.add_zero], sound.failed_eq settled⟩
  replied number reply := sound.reply?_eq
  disconnected number arrived := by
    obtain ⟨reply, arrived⟩ := Option.isSome_iff_exists.mp arrived
    obtain ⟨job, place, same⟩ := Option.map_eq_some_iff.mp (sound.reply?_eq arrived)
    rw [arrived, place, Option.some.injEq, Option.some.injEq, ← same, Job.reply_eq_disconnected_iff]
  awaited number := sound.reply?_of_done
  busy_le := sound.busy_le

/-- At the end of all tasks everyone who waited has a reply. -/
theorem Sound.reply?_of_all_done (sound : Sound steps pool)
    (done : ∀ task ∈ pool.tasks, task.progress = .done) (stayed : .leave number ∉ steps) :
    pool.reply? number = (called steps)[number]?.map Job.reply := by
  cases found : pool.tasks[number]? with
  | none =>
    have beyond := sound.length_channels ▸ List.getElem?_eq_none_iff.mp found
    simp [reply?, ← sound.jobs, found, List.getElem?_eq_none_iff.mpr beyond]
  | some task =>
    have taskDone := done task (List.mem_of_getElem? found)
    exact sound.reply?_of_done (by rw [found, Option.map_some, taskDone]) stayed

theorem Sound.unhindered {config : PoolConfig} (sound : Sound steps ((start config).run steps)) :
    Unhindered config steps ((start config).run steps) := by
  have workers : 0 < ((start config).run steps).workers := by
    rw [workers_run]
    exact workers_start_pos config
  refine ⟨progress_unfailing config steps, fun number next => remaining_of_advance?, ?ends,
    ?finishes⟩
  case ends =>
    intro stuck
    have done := done_of_stuck workers stuck
    refine ⟨?_, fun number stayed => sound.reply?_of_all_done done stayed⟩
    refine List.countP_eq_zero.mpr fun task member => ?_
    simp [done task member, Progress.isSettled]
  case finishes =>
    obtain ⟨numbers, -, finished⟩ := exists_finish workers
    have done := remaining_eq_zero_iff.mp finished
    refine ⟨numbers, done, fun number stayed => ?_⟩
    have stillStayed : .leave number ∉ steps ++ numbers.map .advance := by simpa using stayed
    rw [sound.run.reply?_of_all_done done stillStayed, called_append, called_advances,
      List.append_nil]

/-- Whatever the order of the steps, the counters balance, every reply is that of its own job, and
no job keeps another from its end. -/
theorem run_accounts (config : PoolConfig) (steps : List (Step α)) :
    Accounts steps ((start config).run steps) ∧
      Unhindered config steps ((start config).run steps) :=
  ⟨(sound_run config steps).accounts, (sound_run config steps).unhindered⟩

/-- One worker, and the first job panics while the second one waits. -/
theorem run_accounts_one_worker :
    let steps : List (Step Nat) := [.call .panics, .call (.returns 7), .advance 0, .advance 1,
      .advance 0, .advance 1, .advance 0, .advance 1, .advance 0, .advance 0, .advance 1,
      .advance 1, .advance 1, .advance 1]
    let pool := (start ⟨1, true⟩).run steps
    (pool.counters.submitted = pool.counters.completed + pool.counters.failed ∧
        pool.counters.failed = 1) ∧ pool.reply? 0 = some (.error .disconnected) ∧
      pool.reply? 1 = some (.ok 7) := by
  intro steps pool
  have whole : pool = ⟨1, [⟨.panics, 0, .done⟩, ⟨.returns 7, 1, .done⟩],
      [.dropped, .delivered 7], ⟨2, 1, 1⟩⟩ := by decide
  have stuck : ∀ number, pool.advance? number = none := by
    rw [whole]
    rintro (_ | _ | number) <;> rfl
  obtain ⟨accounts, unhindered⟩ := run_accounts ⟨1, true⟩ steps
  obtain ⟨outstanding, replies⟩ := unhindered.ends stuck
  obtain ⟨balance, failed⟩ := accounts.settled outstanding
  exact ⟨⟨balance, failed⟩, replies 0 (by simp [steps]), replies 1 (by simp [steps])⟩

end CodecPool

end VoxelStream
