import VoxelStream.CodecPool
import VoxelStream.Fetch
import VoxelStream.Push

/-!
# Scripted surroundings

A *stage* is a closed world around the library, for rehearsals.  Everything outside is written down
beforehand: the tokens, the answers of the stores by address, and which calls of the save queue are
refused.  The stage also keeps a record of what the library did: its requests, its token calls and
its notices.

`Stage.fetchPorts` and `Stage.pushPorts` connect fetching and pushing to a stage.
-/

namespace VoxelStream

/-! ## Tokens -/

/-- What a call for a token comes to. -/
abbrev TokenOutcome := Except AuthError String

/-- Where tokens come from. -/
inductive TokenScript where
  /-- One token for ever. -/
  | fixed (token : String)
  /-- Outcomes of the calls for the current token and of those for a fresh one. -/
  | scripted (token refresh : List TokenOutcome)

/-- The two calls for a token. -/
inductive TokenCall where
  | token
  | refresh
deriving DecidableEq

/-- The name of a call. -/
def TokenCall.name : TokenCall → String
  | token => "token"
  | refresh => "refresh"

/-- The first outcome of a script and the rest of it. -/
def nextOutcome : List TokenOutcome → TokenOutcome × List TokenOutcome
  | [] => (.error (.unavailable "script exhausted"), [])
  | outcome :: rest => (outcome, rest)

namespace TokenScript

/-- The outcome of a call and the script after it. -/
def answer : TokenScript → TokenCall → TokenOutcome × TokenScript
  | fixed token, _ => (.ok token, fixed token)
  | scripted tokens refreshes, .token =>
    ((nextOutcome tokens).1, scripted (nextOutcome tokens).2 refreshes)
  | scripted tokens refreshes, .refresh =>
    ((nextOutcome refreshes).1, scripted tokens (nextOutcome refreshes).2)

/-- The calls that are put on record: those of a script. -/
def recorded : TokenScript → TokenCall → List TokenCall
  | fixed _, _ => []
  | scripted .., call => [call]

end TokenScript

/-! ## Stores -/

/-- What a request to a store comes to. -/
abbrev StoreOutcome := Except FetchError StoreAnswer

/-- Outcomes of requests, each for one address.  For one address they come in order. -/
abbrev StoreScript := List (String × StoreOutcome)

/-- The first outcome for an address and the script without it. -/
def StoreScript.take? (url : String) : StoreScript → Option (StoreOutcome × StoreScript)
  | [] => none
  | entry :: rest =>
    if entry.1 = url then some (entry.2, rest)
    else (take? url rest).map fun (outcome, rest) => (outcome, entry :: rest)

/-- The outcome of a request and the script after it. -/
def StoreScript.answer (url : String) (script : StoreScript) : StoreOutcome × StoreScript :=
  match script.take? url with
  | some result => result
  | none => (.error (.http s!"no response scripted for {url}"), script)

/-! ## Save queues -/

/-- A save queue that refuses some of its calls, by their number from zero. -/
structure SelectiveQueue where
  /-- Which calls to refuse. -/
  refused : Nat → Bool
  /-- Calls so far. -/
  calls : Nat
  /-- The transactions that were not refused. -/
  accepted : SaveQueue

namespace SelectiveQueue

/-- The queue before its first call. -/
def refusing (refused : Nat → Bool) : SelectiveQueue := ⟨refused, 0, .empty⟩

/-- One call with a transaction. -/
def submit (queue : SelectiveQueue) (transaction : Transaction) :
    Except PushError Unit × SelectiveQueue :=
  if queue.refused queue.calls then
    (.error (.queue s!"call {queue.calls} with {transaction.items.length} items"),
      { queue with calls := queue.calls + 1 })
  else
    (.ok (),
      { queue with calls := queue.calls + 1, accepted := queue.accepted.submit transaction })

end SelectiveQueue

/-! ## Codecs -/

/-- The payload codecs. -/
structure Codecs where
  /-- Expands four-bit data. -/
  decode : Payload → Except WorkerError Payload
  /-- Writes a payload as text. -/
  encode : Payload → Except WorkerError String

namespace Codecs

/-- The codecs as they are. -/
def plain : Codecs := ⟨fun data => .ok (FourBit.decode data), fun data => .ok (Base64.encode data)⟩

/-- What guarded codecs find wrong with data, by its first byte. -/
def guard (data : Payload) : Option WorkerError :=
  match data with
  | 0xff :: _ => some (.invalidInput s!"refusing {data.length} bytes")
  | 0xfe :: _ => some .disconnected
  | _ => none

/-- Codecs that refuse data with the first byte `ff` and drop the job on `fe`. -/
def guarded : Codecs :=
  ⟨fun data =>
      match guard data with
      | some e => .error e
      | none => plain.decode data,
    fun data =>
      match guard data with
      | some e => .error e
      | none => plain.encode data⟩

end Codecs

/-! ## Stages -/

/-- A scripted world and the record of what happened in it. -/
structure Stage where
  /-- Where tokens come from. -/
  tokens : TokenScript
  stores : StoreScript
  queue : SelectiveQueue
  /-- What the codec pool counts. -/
  counters : PoolCounters := .zero
  requests : List StoreRequest := []
  /-- The recorded calls for tokens, oldest first. -/
  tokenCalls : List TokenCall := []
  /-- The notices, oldest first. -/
  notices : List Notice := []

namespace Stage

/-- A call for a token. -/
def callToken (call : TokenCall) : StateM Stage TokenOutcome := fun stage =>
  let (outcome, tokens) := stage.tokens.answer call
  (outcome,
    { stage with
      tokens := tokens
      tokenCalls := stage.tokenCalls ++ stage.tokens.recorded call })

def callStore (request : StoreRequest) : StateM Stage StoreOutcome := fun stage =>
  let (outcome, stores) := stage.stores.answer request.url
  (outcome, { stage with stores := stores, requests := stage.requests ++ [request] })

def callQueue (transaction : Transaction) : StateM Stage (Except PushError Unit) := fun stage =>
  let (outcome, queue) := stage.queue.submit transaction
  (outcome, { stage with queue := queue })

def callCodec (outcome : Except WorkerError α) : StateM Stage (Except WorkerError α) := fun stage =>
  (outcome, { stage with counters := stage.counters.run (Job.returns outcome) })

def note (notice : Notice) : StateM Stage Unit := fun stage =>
  ((), { stage with notices := stage.notices ++ [notice] })

def noteAll (notices : List Notice) (stage : Stage) : Stage :=
  { stage with notices := stage.notices ++ notices }

/-- Takes all transactions that wait in the save queue. -/
def drain : StateM Stage (List Transaction) := fun stage =>
  let (transactions, rest) := stage.queue.accepted.drain
  (transactions, { stage with queue := { stage.queue with accepted := rest } })

/-- Writes more outcomes of requests down. -/
def respond (outcomes : StoreScript) (stage : Stage) : Stage :=
  { stage with stores := stage.stores ++ outcomes }

/-- The stage with an empty record of requests and token calls. -/
def forget (stage : Stage) : Stage := { stage with requests := [], tokenCalls := [] }

/-- Tokens on a stage. -/
def tokenPorts : TokenPorts Stage where
  token := callToken .token
  refresh := callToken .refresh
  note := note

/-- Fetching on a stage. -/
def fetchPorts (codecs : Codecs) : FetchPorts Stage where
  toTokenPorts := tokenPorts
  request := callStore
  decode := fun data => callCodec (codecs.decode data)

/-- Pushing on a stage. -/
def pushPorts (codecs : Codecs) : PushPorts Stage where
  encode := fun data => callCodec (codecs.encode data)
  submit := callQueue
  note := note

end Stage

/-! ## Scripted operations -/

/-- An operation whose runs come to scripted outcomes. -/
structure OperationScript (α : Type) where
  /-- Where tokens come from, and the record. -/
  stage : Stage
  /-- The outcomes of the runs to come. -/
  outcomes : List (Except FetchError α)
  /-- The tokens of the runs so far, oldest first. -/
  attempts : List String := []

namespace OperationScript

variable {α : Type}

def onStage (action : StateM Stage β) : StateM (OperationScript α) β := fun script =>
  let (result, stage) := action script.stage
  (result, { script with stage := stage })

/-- One run of the operation. -/
def attempt (token : String) : StateM (OperationScript α) (Except FetchError α) := fun script =>
  match script.outcomes with
  | [] =>
    (.error (.http "no outcome scripted"), { script with attempts := script.attempts ++ [token] })
  | outcome :: rest =>
    (outcome, { script with outcomes := rest, attempts := script.attempts ++ [token] })

/-- Runs the operation in the token scope. -/
def runScoped : StateM (OperationScript α) (Except FetchError α) :=
  withToken
    { token := onStage Stage.tokenPorts.token
      refresh := onStage Stage.tokenPorts.refresh
      note := fun notice => onStage (Stage.note notice) }
    attempt

end OperationScript

end VoxelStream
