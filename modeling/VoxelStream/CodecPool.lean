import VoxelStream.FourBit
import VoxelStream.Notice

/-!
# The codec pool

Payload codecs run as *jobs* on a pool of workers.  A job either returns a value or panics.  The
caller of a job gets the value, or learns that the worker dropped the job.

A *task* is a job on its way, and it proceeds by single actions.  The caller counts the job as
submitted and hands it over, a free worker takes it, the job ends, the worker counts how it ended,
and last it sends the reply.  The actions of different tasks interleave in any order.  Each action
touches one counter or one channel, so what the order leaves open is only when a task acts.

Every task has a channel of its own back to its caller.  A job that panics drops the channel when it
ends, before the panic is counted.  A caller may leave before the reply is sent.
-/

namespace VoxelStream

/-! ## Counters -/

/-- What the pool counts.  The counters of a running pool are words of 64 bits.  None of them is
above the number of jobs called, so the words are these numbers until 2^64 jobs have come. -/
structure PoolCounters where
  submitted : Nat
  /-- Jobs that returned. -/
  completed : Nat
  /-- Jobs that panicked. -/
  failed : Nat
deriving DecidableEq

namespace PoolCounters

def zero : PoolCounters := ⟨0, 0, 0⟩

/-- One more job was submitted. -/
def submit (counters : PoolCounters) : PoolCounters :=
  { counters with submitted := counters.submitted + 1 }

/-- One more job returned. -/
def complete (counters : PoolCounters) : PoolCounters :=
  { counters with completed := counters.completed + 1 }

/-- One more job panicked. -/
def fail (counters : PoolCounters) : PoolCounters :=
  { counters with failed := counters.failed + 1 }

/-- Without a completed job the average time of a job is zero. -/
def averageIsZero (counters : PoolCounters) : Bool := counters.completed == 0

end PoolCounters

/-! ## Jobs -/

/-- A job, by what it comes to. -/
inductive Job (α : Type) where
  | returns (value : α)
  | panics
deriving DecidableEq

/-- What the caller of a job gets. -/
def Job.reply : Job α → Except WorkerError α
  | returns value => .ok value
  | panics => .error .disconnected

/-- What a job leaves in the log. -/
def Job.notices : Job α → List Notice
  | returns _ => []
  | panics => [.jobPanicked]

/-- The counters after the end of a job is counted. -/
def Job.count : Job α → PoolCounters → PoolCounters
  | returns _, counters => counters.complete
  | panics, counters => counters.fail

/-- The counters after one job was submitted and its end is counted. -/
def PoolCounters.run (counters : PoolCounters) (job : Job α) : PoolCounters :=
  job.count counters.submit

/-! ## Channels -/

/-- The way back from a job to its caller.  At most one reply comes through. -/
inductive Channel (α : Type) where
  /-- The caller waits. -/
  | waiting
  | delivered (value : α)
  /-- The job is gone without a reply. -/
  | dropped
  /-- The caller is gone. -/
  | abandoned
deriving DecidableEq

namespace Channel

/-- The job sends its value.  Nobody gets it if the caller is gone. -/
def send (value : α) : Channel α → Channel α
  | waiting => delivered value
  | channel => channel

/-- The job goes without a reply. -/
def drop : Channel α → Channel α
  | waiting => dropped
  | channel => channel

/-- The caller goes. -/
def abandon : Channel α → Channel α
  | waiting => abandoned
  | channel => channel

/-- What has come through to the caller. -/
def reply? : Channel α → Option (Except WorkerError α)
  | delivered value => some (.ok value)
  | dropped => some (.error .disconnected)
  | waiting | abandoned => none

end Channel

/-! ## Tasks -/

/-- How far a job has come. -/
inductive Progress where
  /-- The caller has counted it. -/
  | called
  /-- It was handed over and waits for a worker. -/
  | queued
  /-- A worker runs it. -/
  | running
  /-- It has returned or panicked. -/
  | ended
  /-- The worker has counted how it ended. -/
  | counted
  /-- The worker is free again. -/
  | done
deriving DecidableEq

namespace Progress

def next : Progress → Progress
  | called => queued
  | queued => running
  | running => ended
  | ended => counted
  | counted => done
  | done => done

/-- Whether a worker is busy with the job. -/
def onWorker : Progress → Bool
  | running | ended | counted => true
  | called | queued | done => false

/-- Whether the end of the job has been counted. -/
def isSettled : Progress → Bool
  | counted | done => true
  | called | queued | running | ended => false

end Progress

/-- A job on its way. -/
structure Task (α : Type) where
  job : Job α
  /-- The number of the channel to its caller. -/
  channel : Nat
  progress : Progress
deriving DecidableEq

namespace Task

variable {α : Type}

def advance (task : Task α) : Task α := { task with progress := task.progress.next }

/-- What the next action counts. -/
def count (task : Task α) (counters : PoolCounters) : PoolCounters :=
  match task.progress with
  | .ended => task.job.count counters
  | _ => counters

/-- What the next action does to the channel of the task. -/
def answer (task : Task α) (channel : Channel α) : Channel α :=
  match task.progress, task.job with
  | .running, .panics => channel.drop
  | .counted, .returns value => channel.send value
  | _, _ => channel

end Task

/-! ## The pool -/

/-- How a pool is set up. -/
structure PoolConfig where
  /-- Workers asked for. -/
  threads : Nat
  /-- Whether the workers have names. -/
  named : Bool := true

namespace PoolConfig

/-- Workers of the pool.  There is at least one. -/
def workers (config : PoolConfig) : Nat := max config.threads 1

/-- What the names of all workers start with, if they have names.  A number follows. -/
def workerName? (config : PoolConfig) : Option String :=
  if config.named then some "codec-worker-" else none

end PoolConfig

/-- The workers of a pool, its tasks and their channels, oldest first, and its counters. -/
structure CodecPool (α : Type) where
  workers : Nat
  tasks : List (Task α)
  channels : List (Channel α)
  counters : PoolCounters
deriving DecidableEq

namespace CodecPool

variable {α : Type}

/-- A pool of one worker without any job. -/
def empty : CodecPool α := ⟨1, [], [], .zero⟩

/-- A pool without any job. -/
def start (config : PoolConfig) : CodecPool α := { empty with workers := config.workers }

/-- Workers that are not free. -/
def busy (pool : CodecPool α) : Nat := pool.tasks.countP (·.progress.onWorker)

/-- Jobs whose end has not been counted. -/
def outstanding (pool : CodecPool α) : Nat := pool.tasks.countP (!·.progress.isSettled)

/-- A caller opens a channel and counts its job.  The number of the call is the number of calls
before it. -/
def call (pool : CodecPool α) (job : Job α) : CodecPool α :=
  { pool with
    tasks := pool.tasks ++ [⟨job, pool.channels.length, .called⟩]
    channels := pool.channels ++ [.waiting]
    counters := pool.counters.submit }

/-- Whether a task can act.  A queued one needs a free worker. -/
def allows (pool : CodecPool α) (task : Task α) : Bool :=
  match task.progress with
  | .queued => pool.busy < pool.workers
  | .done => false
  | .called | .running | .ended | .counted => true

/-- The next action of a task, if it can act. -/
def advance? (pool : CodecPool α) (number : Nat) : Option (CodecPool α) :=
  match pool.tasks[number]? with
  | none => none
  | some task =>
    if pool.allows task then
      some
        { pool with
          tasks := pool.tasks.set number task.advance
          channels := pool.channels.modify task.channel task.answer
          counters := task.count pool.counters }
    else none

/-- Lets a task act, if it can. -/
def advance (pool : CodecPool α) (number : Nat) : CodecPool α :=
  (pool.advance? number).getD pool

/-- The caller of a job leaves. -/
def leave (pool : CodecPool α) (number : Nat) : CodecPool α :=
  { pool with channels := pool.channels.modify number Channel.abandon }

/-- What the caller of a job has got. -/
def reply? (pool : CodecPool α) (number : Nat) : Option (Except WorkerError α) :=
  pool.channels[number]?.bind Channel.reply?

/-! ## Runs -/

/-- One step of a pool. -/
inductive Step (α : Type) where
  | call (job : Job α)
  /-- A task acts. -/
  | advance (number : Nat)
  /-- The caller of a job leaves. -/
  | leave (number : Nat)

def step (pool : CodecPool α) : Step α → CodecPool α
  | .call job => pool.call job
  | .advance number => pool.advance number
  | .leave number => pool.leave number

def run (pool : CodecPool α) (steps : List (Step α)) : CodecPool α := steps.foldl step pool

/-- The steps of one task from its call to its end. -/
def Step.through (number : Nat) : List (Step α) := List.replicate 5 (.advance number)

/-- Calls a batch of jobs and runs one after the other: the pool and the replies. -/
def runAll (pool : CodecPool α) (jobs : List (Job α)) :
    CodecPool α × List (Option (Except WorkerError α)) :=
  let numbers := List.range' pool.tasks.length jobs.length
  let settled := pool.run (jobs.map .call ++ numbers.flatMap Step.through)
  (settled, numbers.map settled.reply?)

end CodecPool

end VoxelStream
