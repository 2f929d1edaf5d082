import VoxelStream.Proofs.PoolAccounts

/-!
# Batches of a codec pool

The simplest order runs the jobs of a batch one after the other (`CodecPool.runAll`).  In this order
a task is through after five actions (`CodecPool.run_through`).  If a batch starts when all older
jobs are through, it replies to every job, and its counters are those of the jobs submitted and
counted one by one (`CodecPool.runAll_eq`).
-/

namespace VoxelStream

namespace CodecPool

variable {α : Type} {pool : CodecPool α} {steps : List (Step α)}

/-! ## One task -/

theorem modify_between (others more : List β) (entry : β) (change : β → β) :
    (others ++ entry :: more).modify others.length change = others ++ change entry :: more := by
  induction others with
  | nil => rfl
  | cons first rest ih => simpa using ih

/-- A task acts as soon as no other one keeps a worker. -/
theorem advance_between {workers : Nat} {older later : List (Task α)}
    (free : (older ++ later).countP (·.progress.onWorker) < workers) (job : Job α)
    (progress : Progress) (unfinished : progress ≠ .done) (others more : List (Channel α))
    (channel : Channel α) (counters : PoolCounters) :
    let task : Task α := ⟨job, others.length, progress⟩
    advance ⟨workers, older ++ task :: later, others ++ channel :: more, counters⟩ older.length =
      ⟨workers, older ++ task.advance :: later, others ++ task.answer channel :: more,
        task.count counters⟩ := by
  intro task
  have allowed : allows ⟨workers, older ++ task :: later, others ++ channel :: more, counters⟩
      task = true := by
    cases progress with
    | done => exact absurd rfl unfinished
    | queued =>
      have waits : Progress.queued.onWorker = false := rfl
      simpa [task, allows, busy, waits] using free
    | called | running | ended | counted => rfl
  simp [advance, advance?, allowed, task, modify_between]

/-- What the channel of a job holds in the end. -/
def finalChannel (job : Job α) : Channel α := Task.sent ⟨job, 0, .done⟩

theorem reply?_finalChannel (job : Job α) : (finalChannel job).reply? = some job.reply := by
  cases job <;> rfl

/-- From its call to its end a task needs five actions. -/
theorem run_through {workers : Nat} {older later : List (Task α)}
    (free : (older ++ later).countP (·.progress.onWorker) < workers) (job : Job α)
    (others more : List (Channel α)) (counters : PoolCounters) :
    run ⟨workers, older ++ ⟨job, others.length, .called⟩ :: later, others ++ .waiting :: more,
        counters⟩ (Step.through older.length) =
      ⟨workers, older ++ ⟨job, others.length, .done⟩ :: later, others ++ finalChannel job :: more,
        job.count counters⟩ := by
  simp only [Step.through, List.replicate, run, List.foldl_cons, List.foldl_nil, CodecPool.step,
    advance_between free, Task.advance, Progress.next, ne_eq, reduceCtorEq, not_false_eq_true]
  cases job <;> rfl

/-! ## The tasks of a batch -/

/-- Tasks of some jobs, all as far, with channels from a number on. -/
def tasksFrom (progress : Progress) (number : Nat) : List (Job α) → List (Task α)
  | [] => []
  | job :: rest => ⟨job, number, progress⟩ :: tasksFrom progress (number + 1) rest

/-- Tasks that were only called keep no worker. -/
theorem busy_tasksFrom_called (jobs : List (Job α)) (number : Nat) :
    (tasksFrom .called number jobs).countP (·.progress.onWorker) = 0 := by
  induction jobs generalizing number with
  | nil => rfl
  | cons job rest ih => simpa [tasksFrom, Progress.onWorker] using ih (number + 1)

theorem progress_of_mem_tasksFrom {progress : Progress} {number : Nat} {jobs : List (Job α)}
    {task : Task α} (member : task ∈ tasksFrom progress number jobs) :
    task.progress = progress := by
  induction jobs generalizing number with
  | nil => cases member
  | cons job rest ih =>
    rcases List.mem_cons.mp member with rfl | further
    · rfl
    · exact ih further

/-- The calls of a batch append its tasks and their channels, in the order of the jobs. -/
theorem run_calls (pool : CodecPool α) (jobs : List (Job α)) :
    pool.run (jobs.map .call) =
      { pool with
        tasks := pool.tasks ++ tasksFrom .called pool.channels.length jobs
        channels := pool.channels ++ jobs.map fun _ => .waiting
        counters := jobs.foldl (fun counters _ => counters.submit) pool.counters } := by
  induction jobs generalizing pool with
  | nil => simp [run, tasksFrom]
  | cons job rest ih =>
    rw [List.map_cons, run, List.foldl_cons, ← run, ih]
    simp [CodecPool.step, call, tasksFrom]

/-- Called jobs run one after the other if the older tasks keep no worker. -/
theorem run_batch {workers : Nat} (free : 0 < workers) (jobs : List (Job α))
    (older : List (Task α)) (others : List (Channel α)) (counters : PoolCounters)
    (idle : older.countP (·.progress.onWorker) = 0) (aligned : others.length = older.length) :
    run ⟨workers, older ++ tasksFrom .called others.length jobs,
        others ++ jobs.map fun _ => .waiting, counters⟩
        ((List.range' older.length jobs.length).flatMap Step.through) =
      ⟨workers, older ++ tasksFrom .done others.length jobs, others ++ jobs.map finalChannel,
        jobs.foldl (fun counters job => job.count counters) counters⟩ := by
  induction jobs generalizing older others counters with
  | nil => rfl
  | cons job rest ih =>
    have keepsNone : (older ++ tasksFrom .called (others.length + 1) rest).countP
        (·.progress.onWorker) < workers := by
      rwa [List.countP_append, idle, busy_tasksFrom_called]
    have further := ih (older ++ [⟨job, others.length, .done⟩]) (others ++ [finalChannel job])
      (job.count counters) (by rw [List.countP_append, idle]; rfl) (by simp [aligned])
    simp only [List.length_append, List.length_singleton, List.append_assoc, List.singleton_append]
      at further
    rw [List.length_cons, List.range'_succ, List.flatMap_cons, run, List.foldl_append, ← run, ← run,
      tasksFrom, List.map_cons, run_through keepsNone, further]
    rfl

/-! ## The whole batch -/

/-- Submitting and counting touch different counters. -/
theorem foldl_submit_count (job : Job α) (jobs : List (Job α)) (counters : PoolCounters) :
    jobs.foldl (fun counters _ => counters.submit) (job.count counters) =
      job.count (jobs.foldl (fun counters _ => counters.submit) counters) := by
  refine List.foldl_hom job.count fun _ _ => ?_
  cases job <;> rfl

/-- For the counters, jobs may as well be submitted one after the other. -/
theorem foldl_run (jobs : List (Job α)) (counters : PoolCounters) :
    jobs.foldl (fun counters job => job.count counters)
        (jobs.foldl (fun counters _ => counters.submit) counters) =
      jobs.foldl PoolCounters.run counters := by
  induction jobs generalizing counters with
  | nil => rfl
  | cons job rest ih =>
    rw [List.foldl_cons, List.foldl_cons, List.foldl_cons, ← foldl_submit_count, ih]
    rfl

/-- A pool without unfinished jobs runs a batch as a whole. -/
theorem runAll_eq (sound : Sound steps pool) (workers : 0 < pool.workers)
    (done : ∀ task ∈ pool.tasks, task.progress = .done) (jobs : List (Job α)) :
    (pool.runAll jobs).1.counters = jobs.foldl PoolCounters.run pool.counters ∧
      (pool.runAll jobs).2 = jobs.map (some ·.reply) ∧
      ∀ task ∈ (pool.runAll jobs).1.tasks, task.progress = .done := by
  have aligned := sound.length_channels
  have idle : pool.tasks.countP (·.progress.onWorker) = 0 :=
    List.countP_eq_zero.mpr fun task member => by simp [done task member, Progress.onWorker]
  have settled := run_batch workers jobs pool.tasks pool.channels
    (jobs.foldl (fun counters _ => counters.submit) pool.counters) idle aligned
  rw [runAll, run, List.foldl_append, ← run, ← run, run_calls]
  simp only [settled]
  refine ⟨foldl_run jobs pool.counters, ?replies, ?done⟩
  case replies =>
    refine List.ext_getElem (by simp) fun place _ within => ?_
    have placed : place < jobs.length := by simpa using within
    simp [reply?, ← aligned, placed, reply?_finalChannel]
  case done =>
    intro task member
    rcases List.mem_append.mp member with older | new
    · exact done task older
    · exact progress_of_mem_tasksFrom new

end CodecPool

end VoxelStream
