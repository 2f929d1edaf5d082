import VoxelStream.Config
import VoxelStream.Script
import VoxelStream.Setup.Cache

/-!
# Sessions

A session holds what a viewer needs to plan its textures and move its buckets: the configuration,
the current limits, the setup cache, and its surroundings.  The configuration never changes.  The
limits may be replaced.

Fetching, pushing, planning and draining the save queue share nothing but the configuration and the
codec pool, whose jobs always settle.
-/

namespace VoxelStream

/-- A session on a stage. -/
structure Session where
  config : Config
  limits : Limits
  cache : SetupCache
  stage : Stage

namespace Session

/-- Opens a session with a number of codec workers. -/
def start (config : Config) (limits : Limits) (threads : Nat) (stage : Stage) : Session :=
  { config := config
    limits := limits
    cache := .empty
    stage := stage.noteAll
      [.workersStarted threads,
       .sessionOpened config.dataset.organization config.dataset.name config.dataset.layers.length
        threads] }

/-- What fetches the buckets of the session. -/
def fetcher (session : Session) : Fetcher Stage :=
  { dataset := session.config.dataset
    ports := Stage.fetchPorts .plain
    timeoutMs := session.config.pipeline.requestTimeoutMs }

def onStage (session : Session) (action : StateM Stage α) : α × Session :=
  let (result, stage) := action session.stage
  (result, { session with stage := stage })

/-- Fetches a batch of a layer that is given as a whole. -/
def fetchLayer (session : Session) (layer : Layer) (batch : List BucketAddress) :
    Except FetchStop (List Piece) × Session :=
  session.onStage (session.fetcher.fetch layer batch)

def fetch (session : Session) (layerName : String) (batch : List BucketAddress) :
    Except FetchStop (List Piece) × Session :=
  match session.config.dataset.layer? layerName with
  | none => (.error (.failed (.unknownLayer layerName)), session)
  | some layer => session.fetchLayer layer batch

def push (session : Session) (edits : List Edit) : Except PushError Unit × Session :=
  session.onStage (pushBatch session.config.dataset.resolutions (Stage.pushPorts .plain) edits)

/-- What textures are planned for. -/
def setupInputs (session : Session) : SetupInputs :=
  { limits := session.limits
    layers := session.config.dataset.layers
    required := session.config.pipeline.requiredCapacity
    hasSegmentation := session.config.dataset.hasSegmentation }

/-- The texture setup under the current limits. -/
def textureSetup (session : Session) : Except PlannerError PlannedSetup × Session :=
  let (result, cache) := session.cache.getOrPlan session.setupInputs
  (result,
    { session with
      cache := cache
      stage := session.stage.noteAll (session.cache.notices session.setupInputs) })

def updateLimits (session : Session) (limits : Limits) : Session :=
  { session with limits := limits }

/-- Takes all transactions that wait in the save queue. -/
def drain (session : Session) : List Transaction × Session := session.onStage Stage.drain

/-- The volume of buckets that the lookup buffer can address. -/
def addressSpace (session : Session) : Vec3 := session.config.pipeline.memoryFactor.addressSpace

/-! ## Runs -/

/-- One step of a session. -/
inductive Step where
  | fetch (layerName : String) (batch : List BucketAddress)
  | fetchLayer (layer : Layer) (batch : List BucketAddress)
  | push (edits : List Edit)
  | textureSetup
  | updateLimits (limits : Limits)
  | drain

/-- What a step comes to. -/
inductive Outcome where
  | fetched (result : Except FetchStop (List Piece))
  | pushed (result : Except PushError Unit)
  | planned (result : Except PlannerError PlannedSetup)
  | limits (limits : Limits)
  | drained (transactions : List Transaction)

def step (session : Session) : Step → Outcome × Session
  | .fetch layerName batch =>
    let (result, session) := session.fetch layerName batch
    (.fetched result, session)
  | .fetchLayer layer batch =>
    let (result, session) := session.fetchLayer layer batch
    (.fetched result, session)
  | .push edits =>
    let (result, session) := session.push edits
    (.pushed result, session)
  | .textureSetup =>
    let (result, session) := session.textureSetup
    (.planned result, session)
  | .updateLimits limits => (.limits limits, session.updateLimits limits)
  | .drain =>
    let (transactions, session) := session.drain
    (.drained transactions, session)

/-- A run of steps: what they come to, in order, and the session after them. -/
def run (session : Session) : List Step → List Outcome × Session
  | [] => ([], session)
  | next :: rest =>
    let (outcome, session) := session.step next
    let (outcomes, session) := run session rest
    (outcome :: outcomes, session)

end Session

end VoxelStream
