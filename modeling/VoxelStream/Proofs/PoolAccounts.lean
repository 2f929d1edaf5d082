import VoxelStream.CodecPool

/-!
# Accounts of a codec pool

Callers and workers raise the counters in different places, and every reply takes a channel of its
own.  All of this follows from how far the tasks have come.  The counters are the tally of the tasks
(`CodecPool.tally`), and a channel holds what its task has sent (`Task.sent`) unless its caller has
left.

`CodecPool.Sound` says this of a pool and the steps that led to it.  Every kind of step keeps it, in
whatever order the steps come (`CodecPool.sound_run`).
-/

namespace VoxelStream

variable {α : Type}

/-! ## Jobs and their replies -/

def Job.panicked : Job α → Bool
  | .returns _ => false
  | .panics => true

/-- Only the caller of a job that panics is told that the worker is gone. -/
theorem Job.reply_eq_disconnected_iff {job : Job α} :
    job.reply = .error .disconnected ↔ job = .panics := by
  cases job <;> simp [Job.reply]

namespace Task

/-- The job has returned, and this is counted. -/
def completed (task : Task α) : Bool := task.progress.isSettled && !task.job.panicked

/-- The job has panicked, and this is counted. -/
def failed (task : Task α) : Bool := task.progress.isSettled && task.job.panicked

/-- What the channel of a task holds as long as the caller is there. -/
def sent (task : Task α) : Channel α :=
  match task.job, task.progress with
  | .returns value, .done => .delivered value
  | .panics, .ended | .panics, .counted | .panics, .done => .dropped
  | _, _ => .waiting

/-- A channel holds what the task has sent, or nothing at all if the caller has left. -/
def Reports (task : Task α) (left : Prop) (channel : Channel α) : Prop :=
  channel = task.sent ∨ channel = .abandoned ∧ left

variable {task : Task α} {left gone : Prop} {channel : Channel α}

/-- What a channel holds keeps up with the task. -/
theorem answer_sent (task : Task α) : task.answer task.sent = task.advance.sent := by
  obtain ⟨job, number, progress⟩ := task
  cases job <;> cases progress <;> rfl

@[simp]
theorem answer_abandoned (task : Task α) : task.answer .abandoned = .abandoned := by
  obtain ⟨job, number, progress⟩ := task
  cases job <;> cases progress <;> rfl

/-- An action of the task keeps its channel up to date. -/
theorem Reports.answer (reports : task.Reports left channel) :
    task.advance.Reports left (task.answer channel) := by
  rcases reports with rfl | ⟨rfl, hasLeft⟩
  · exact .inl task.answer_sent
  · exact .inr ⟨task.answer_abandoned, hasLeft⟩

/-- A caller that leaves may miss the reply, but a reply that has come stays. -/
theorem Reports.abandon (reports : task.Reports left channel) (leaves : gone) :
    task.Reports gone channel.abandon := by
  rcases reports with rfl | ⟨rfl, -⟩
  · cases sent : task.sent with
    | waiting => exact .inr ⟨rfl, leaves⟩
    | delivered | dropped | abandoned => exact .inl sent.symm
  · exact .inr ⟨rfl, leaves⟩

theorem Reports.imp (reports : task.Reports left channel) (imp : left → gone) :
    task.Reports gone channel :=
  Or.imp_right (And.imp_right imp) reports

/-- A reply is the one of the job. -/
theorem Reports.eq_reply {reply : Except WorkerError α} (reports : task.Reports left channel)
    (arrived : channel.reply? = some reply) : reply = task.job.reply := by
  rcases reports with rfl | ⟨rfl, -⟩
  · obtain ⟨job, number, progress⟩ := task
    cases job <;> cases progress <;> cases arrived <;> rfl
  · cases arrived

/-- The caller of a finished task has its reply unless it has left. -/
theorem Reports.reply?_of_done (reports : task.Reports left channel)
    (done : task.progress = .done) (stayed : ¬ left) :
    channel.reply? = some task.job.reply := by
  rcases reports with rfl | ⟨-, hasLeft⟩
  · obtain ⟨job, number, progress⟩ := task
    cases done
    cases job <;> rfl
  · exact absurd hasLeft stayed

end Task

namespace CodecPool

/-! ## The tally of some tasks -/

/-- The counters that go with some tasks. -/
def tally (tasks : List (Task α)) : PoolCounters :=
  ⟨tasks.length, tasks.countP Task.completed, tasks.countP Task.failed⟩

theorem tally_append_called (tasks : List (Task α)) (job : Job α) (channel : Nat) :
    tally (tasks ++ [⟨job, channel, .called⟩]) = (tally tasks).submit := by
  simp [tally, PoolCounters.submit, Task.completed, Task.failed, Progress.isSettled]

/-- A list with one place set, taken apart at this place. -/
theorem exists_set_eq {tasks : List (Task α)} {number : Nat} {task : Task α}
    (found : tasks[number]? = some task) (other : Task α) :
    ∃ before after, tasks = before ++ task :: after ∧
      tasks.set number other = before ++ other :: after := by
  obtain ⟨within, rfl⟩ := List.getElem?_eq_some_iff.mp found
  obtain ⟨before, after, whole, -, set⟩ : ∃ before after, tasks = before ++ tasks[number] :: after ∧
      before.length = number ∧ tasks.set number other = before ++ other :: after :=
    List.exists_of_set within
  exact ⟨before, after, whole, set⟩

/-- An action of a task counts what it changes in the tally. -/
theorem tally_set {tasks : List (Task α)} {number : Nat} {task : Task α}
    (found : tasks[number]? = some task) :
    tally (tasks.set number task.advance) = task.count (tally tasks) := by
  obtain ⟨before, after, rfl, set⟩ := exists_set_eq found task.advance
  rw [set]
  obtain ⟨job, channel, progress⟩ := task
  cases job <;> cases progress <;>
    simp [tally, Task.count, Task.advance, Task.completed, Task.failed, Job.panicked,
      Progress.next, Progress.isSettled, Job.count, PoolCounters.complete, PoolCounters.fail,
      Nat.add_assoc]

/-- Every task is completed, failed or not settled. -/
theorem length_eq_settled (tasks : List (Task α)) :
    tasks.length = tasks.countP Task.completed + tasks.countP Task.failed
      + tasks.countP (!·.progress.isSettled) := by
  induction tasks with
  | nil => rfl
  | cons task rest ih =>
    obtain ⟨job, channel, progress⟩ := task
    cases job <;> cases progress <;>
      simp +arith [ih, Task.completed, Task.failed, Job.panicked, Progress.isSettled]

/-! ## What a step does -/

variable {pool next : CodecPool α} {steps : List (Step α)} {number : Nat}

/-- All that an action does. -/
theorem advance?_eq_some_iff :
    pool.advance? number = some next ↔
      ∃ task, pool.tasks[number]? = some task ∧ pool.allows task = true ∧
        next = { pool with
          tasks := pool.tasks.set number task.advance
          channels := pool.channels.modify task.channel task.answer
          counters := task.count pool.counters } := by
  unfold advance?
  cases found : pool.tasks[number]? with
  | none => simp
  | some task =>
    cases allowed : pool.allows task with
    | false => simp [allowed]
    | true => simp [allowed, @eq_comm _ _ next]

/-- A task that cannot act stays as it is. -/
theorem advance_cases (pool : CodecPool α) (number : Nat) :
    pool.advance number = pool ∨ pool.advance? number = some (pool.advance number) := by
  unfold advance
  cases pool.advance? number with
  | none => exact .inl rfl
  | some next => exact .inr rfl

/-- The job a step calls. -/
def Step.called? : Step α → Option (Job α)
  | .call job => some job
  | .advance _ | .leave _ => none

/-- The jobs that some steps call, oldest first. -/
def called (steps : List (Step α)) : List (Job α) := steps.filterMap Step.called?

@[simp]
theorem called_append (steps more : List (Step α)) :
    called (steps ++ more) = called steps ++ called more :=
  List.filterMap_append

@[simp]
theorem called_call (job : Job α) : called [.call job] = [job] := rfl

@[simp]
theorem called_advance (number : Nat) : called [(.advance number : Step α)] = [] := rfl

@[simp]
theorem called_leave (number : Nat) : called [(.leave number : Step α)] = [] := rfl

theorem called_advances (numbers : List Nat) :
    called (numbers.map (.advance : Nat → Step α)) = [] := by
  simp [called, List.filterMap_map, Step.called?]

/-- What holds of a pool after some steps. -/
structure Sound (steps : List (Step α)) (pool : CodecPool α) : Prop where
  /-- The tasks are those of the calls. -/
  jobs : pool.tasks.map Task.job = called steps
  length_channels : pool.channels.length = pool.tasks.length
  /-- Every task has a channel of its own. -/
  own : ∀ number task, pool.tasks[number]? = some task → Task.channel task = number ∧
    ∃ channel, pool.channels[number]? = some channel ∧
      Task.Reports task (.leave number ∈ steps) channel
  counters : pool.counters = tally pool.tasks
  busy_le : pool.busy ≤ pool.workers

/-- A pool without jobs is sound. -/
theorem sound_start (config : PoolConfig) : Sound [] (start config : CodecPool α) where
  jobs := rfl
  length_channels := rfl
  own := by simp [start, empty]
  counters := rfl
  busy_le := Nat.zero_le _

theorem getElem?_append_singleton {list : List β} {last entry : β}
    (found : (list ++ [last])[number]? = some entry) :
    list[number]? = some entry ∨ number = list.length ∧ entry = last := by
  rcases Nat.lt_or_ge number list.length with within | beyond
  · rw [List.getElem?_append_left within] at found
    exact .inl found
  · rw [List.getElem?_append_right beyond, List.getElem?_singleton] at found
    split at found
    next first => exact .inr ⟨by omega, (Option.some.inj found).symm⟩
    next => cases found

/-- A call adds one task, with a channel of its own. -/
theorem Sound.call (sound : Sound steps pool) (job : Job α) :
    Sound (steps ++ [.call job]) (pool.call job) where
  jobs := by simp [CodecPool.call, sound.jobs]
  length_channels := by simp [CodecPool.call, sound.length_channels]
  own := by
    intro number task found
    rcases getElem?_append_singleton found with old | ⟨rfl, rfl⟩
    · obtain ⟨own, channel, holds, reports⟩ := sound.own number task old
      refine ⟨own, channel, ?_, reports.imp (List.mem_append_left _)⟩
      rw [CodecPool.call, List.getElem?_append_left (List.getElem?_eq_some_iff.mp holds).1, holds]
    · refine ⟨sound.length_channels, .waiting, ?_, .inl ?_⟩
      · simp [CodecPool.call, ← sound.length_channels]
      · cases job <;> rfl
  counters := by simp [CodecPool.call, sound.counters, tally_append_called]
  busy_le := by simpa [CodecPool.call, busy, Progress.onWorker] using sound.busy_le

/-- Only the action that takes a job off the queue makes a worker busy. -/
theorem busy_set {task : Task α} (found : pool.tasks[number]? = some task)
    (allowed : pool.allows task = true) (bounded : pool.busy ≤ pool.workers) :
    (pool.tasks.set number task.advance).countP (·.progress.onWorker) ≤ pool.workers := by
  obtain ⟨before, after, whole, set⟩ := exists_set_eq found task.advance
  rw [set]
  simp only [busy, whole, allows] at bounded allowed
  obtain ⟨job, channel, progress⟩ := task
  cases progress <;>
    simp [Task.advance, Progress.next, Progress.onWorker] at bounded allowed ⊢ <;> omega

/-- An action of one task leaves all others with their channels. -/
theorem Sound.advance? (sound : Sound steps pool) (acted : pool.advance? number = some next) :
    Sound steps next := by
  obtain ⟨task, found, allowed, rfl⟩ := advance?_eq_some_iff.mp acted
  obtain ⟨own, channel, holds, reports⟩ := sound.own number task found
  refine ⟨?jobs, ?length_channels, ?own, ?counters, ?busy_le⟩
  case jobs =>
    obtain ⟨before, after, whole, set⟩ := exists_set_eq found task.advance
    simp only [set]
    simpa [whole, Task.advance] using sound.jobs
  case length_channels => simp [sound.length_channels]
  case own =>
    intro other entry place
    rcases Decidable.em (number = other) with rfl | elsewhere
    · rw [List.getElem?_set_self (List.getElem?_eq_some_iff.mp found).1] at place
      obtain rfl := Option.some.inj place
      exact ⟨own, task.answer channel, by simp [own, holds], reports.answer⟩
    · -- Channels have the numbers of their tasks, so that of another task is another one.
      rw [List.getElem?_set_ne elsewhere] at place
      obtain ⟨others, unchanged, same, report⟩ := sound.own other entry place
      exact ⟨others, unchanged, by simp [own, elsewhere, same], report⟩
  case counters => rw [tally_set found, sound.counters]
  case busy_le => exact busy_set found allowed sound.busy_le

/-- Steps that call nothing may be added. -/
theorem Sound.weaken {more : List (Step α)} (sound : Sound steps pool) (quiet : called more = []) :
    Sound (steps ++ more) pool where
  jobs := by simp [sound.jobs, quiet]
  length_channels := sound.length_channels
  own := by
    intro number task found
    obtain ⟨own, channel, holds, reports⟩ := sound.own number task found
    exact ⟨own, channel, holds, reports.imp (List.mem_append_left _)⟩
  counters := sound.counters
  busy_le := sound.busy_le

/-- A caller that leaves closes its own channel and no other. -/
theorem Sound.leave (sound : Sound steps pool) (number : Nat) :
    Sound (steps ++ [.leave number]) (pool.leave number) where
  jobs := by simp [CodecPool.leave, sound.jobs]
  length_channels := by simp [CodecPool.leave, sound.length_channels]
  own := by
    intro other task found
    obtain ⟨own, channel, holds, reports⟩ := sound.own other task found
    rcases Decidable.em (number = other) with rfl | elsewhere
    · refine ⟨own, channel.abandon, ?_, reports.abandon (by simp)⟩
      simp [CodecPool.leave, holds]
    · refine ⟨own, channel, ?_, reports.imp (List.mem_append_left _)⟩
      simp [CodecPool.leave, elsewhere, holds]
  counters := sound.counters
  busy_le := sound.busy_le

/-- Every kind of step keeps a pool sound. -/
theorem Sound.step (sound : Sound steps pool) (step : Step α) :
    Sound (steps ++ [step]) (pool.step step) := by
  cases step with
  | call job => exact sound.call job
  | leave number => exact sound.leave number
  | advance number =>
    refine Sound.weaken ?_ (called_advance number)
    rcases pool.advance_cases number with idle | acted
    · rwa [CodecPool.step, idle]
    · exact sound.advance? acted

/-- Steps in a row do so too. -/
theorem Sound.run {more : List (Step α)} (sound : Sound steps pool) :
    Sound (steps ++ more) (pool.run more) := by
  induction more generalizing steps pool with
  | nil => simpa [CodecPool.run] using sound
  | cons step rest ih => simpa [CodecPool.run] using ih (sound.step step)

/-- A pool is sound after any steps. -/
theorem sound_run (config : PoolConfig) (steps : List (Step α)) :
    Sound steps ((start config).run steps) :=
  (sound_start config).run

/-! ## What the counters and the callers see -/

theorem Sound.tasks_eq (sound : Sound steps pool) {task : Task α}
    (found : pool.tasks[number]? = some task) : (called steps)[number]? = some task.job := by
  simp [← sound.jobs, found]

/-- Every job submitted is completed, failed or not settled yet. -/
theorem Sound.balance (sound : Sound steps pool) :
    pool.counters.submitted =
      pool.counters.completed + pool.counters.failed + pool.outstanding := by
  rw [sound.counters]
  exact length_eq_settled pool.tasks

/-- No counter exceeds the number of jobs called. -/
theorem Sound.counters_le (sound : Sound steps pool) :
    pool.counters.submitted ≤ (called steps).length ∧
      pool.counters.completed ≤ (called steps).length ∧
      pool.counters.failed ≤ (called steps).length := by
  have submitted : pool.counters.submitted = (called steps).length := by
    rw [sound.counters, ← sound.jobs, List.length_map, tally]
  have balance := sound.balance
  omega

/-- In a run of fewer jobs than there are words of 64 bits, each counter fits such a word. -/
theorem counters_lt_size (config : PoolConfig) {steps : List (Step α)}
    (few : (called steps).length < UInt64.size) :
    ((start config).run steps).counters.submitted < UInt64.size ∧
      ((start config).run steps).counters.completed < UInt64.size ∧
      ((start config).run steps).counters.failed < UInt64.size := by
  obtain ⟨submitted, completed, failed⟩ := (sound_run config steps).counters_le
  exact ⟨Nat.lt_of_le_of_lt submitted few, Nat.lt_of_le_of_lt completed few,
    Nat.lt_of_le_of_lt failed few⟩

/-- Once all jobs are settled, the failed ones are those that panicked. -/
theorem Sound.failed_eq (sound : Sound steps pool) (settled : pool.outstanding = 0) :
    pool.counters.failed = (called steps).countP Job.panicked := by
  rw [sound.counters, ← sound.jobs, List.countP_map]
  refine List.countP_congr fun task member => ?_
  have isSettled := List.countP_eq_zero.mp settled task member
  simp_all [Task.failed]

/-- A caller gets the reply of its own job. -/
theorem Sound.reply?_eq (sound : Sound steps pool) {reply : Except WorkerError α}
    (arrived : pool.reply? number = some reply) :
    (called steps)[number]?.map Job.reply = some reply := by
  obtain ⟨channel, holds, came⟩ := Option.bind_eq_some_iff.mp arrived
  have within : number < pool.tasks.length :=
    sound.length_channels ▸ (List.getElem?_eq_some_iff.mp holds).1
  have found := List.getElem?_eq_getElem within
  obtain ⟨-, own, same, reports⟩ := sound.own number _ found
  obtain rfl := Option.some.inj (holds.symm.trans same)
  rw [sound.tasks_eq found, reports.eq_reply came, Option.map_some]

/-- A caller who waits until its task is done has the reply of its job. -/
theorem Sound.reply?_of_done (sound : Sound steps pool)
    (done : pool.tasks[number]?.map Task.progress = some .done) (stayed : .leave number ∉ steps) :
    pool.reply? number = (called steps)[number]?.map Job.reply := by
  obtain ⟨task, found, taskDone⟩ := Option.map_eq_some_iff.mp done
  obtain ⟨-, channel, holds, reports⟩ := sound.own number task found
  rw [reply?, holds, sound.tasks_eq found]
  exact reports.reply?_of_done taskDone stayed

end CodecPool

end VoxelStream
