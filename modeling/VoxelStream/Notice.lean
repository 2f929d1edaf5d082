import VoxelStream.Packing

/-!
# Notices

What the library tells its log.  A `Notice` is an occurrence, and `Notice.level` and `Notice.text`
are its severity and wording.  Functions that notice something return their notices or hand them
to their surroundings, oldest first.
-/

namespace VoxelStream

/-- Severities of log records. -/
inductive LogLevel where
  | trace | debug | info | warn | error
deriving DecidableEq

def LogLevel.name : LogLevel → String
  | trace => "TRACE"
  | debug => "DEBUG"
  | info => "INFO"
  | warn => "WARN"
  | error => "ERROR"

/-- Something worth a log record. -/
inductive Notice where
  /-- The limits of the graphics adapter were read. -/
  | adapterProbed (name : String) (backend : String) (limits : Limits)
  /-- The graphics adapter's textures are below the minimum. -/
  | lowTextureDimension (dimension : UInt32)
  /-- A layer's textures were planned. -/
  | layerPlanned (elementClass : ElementClass) (channels : Nat) (plan : PackingPlan)
  /-- The layers need more texture slots than the hardware has. -/
  | slotsExceeded (required : Nat) (available : UInt32)
  /-- The texture setup was planned anew. -/
  | setupRecomputed (layers : Nat) (shared : Nat)
  /-- A memory factor is none of the presets. -/
  | unknownMemoryFactor (multiplier : UInt32)
  /-- The token was refused, and a fresh one is asked for. -/
  | tokenRefused
  /-- Buckets that the tracing store lacks are looked up in the fallback layer. -/
  | fallbackAsked (missing : Nat) (batch : Nat) (layer : String)
  /-- A store's answer holds bytes beyond its last bucket. -/
  | surplusBytes (count : Nat)
  /-- A store's answer arrived in full. -/
  | answerReceived (bytes : Nat) (batch : Nat) (missing : Nat)
  /-- A header of missing buckets is no list of indices. -/
  | malformedMissingHeader (value : String)
  /-- Edits are handed to the save queue. -/
  | updatesSubmitted (count : Nat)
  /-- The codec workers are ready. -/
  | workersStarted (threads : Nat)
  /-- A job on a codec worker failed. -/
  | jobPanicked
  /-- A session is open. -/
  | sessionOpened (organization : String) (dataset : String) (layers : Nat) (threads : Nat)
deriving DecidableEq

namespace Notice

def level : Notice → LogLevel
  | layerPlanned .. | answerReceived .. => .trace
  | setupRecomputed .. | tokenRefused | fallbackAsked .. | updatesSubmitted .. => .debug
  | workersStarted .. => .debug
  | adapterProbed .. | sessionOpened .. => .info
  | lowTextureDimension .. | slotsExceeded .. | unknownMemoryFactor .. | surplusBytes .. => .warn
  | malformedMissingHeader .. => .warn
  | jobPanicked => .error

def text : Notice → String
  | adapterProbed name backend limits =>
    s!"[GPU Probe] {name} ({backend}): max texture {limits.maxTextureDimension} / "
      ++ s!"{limits.maxBoundTextures} bound textures"
  | lowTextureDimension dimension =>
    s!"[GPU Probe] Low max texture dimension: {dimension} (required: "
      ++ s!"{Limits.minimum.maxTextureDimension}+)"
  | layerPlanned elementClass channels plan =>
    s!"[TextureBudget] {elementClass.label}: {channels} channels, {plan.textureCount} x "
      ++ s!"{plan.textureDimension}² (packing {plan.packingDegree})"
  | slotsExceeded required available =>
    s!"[TextureBudget] {required} texture slots required but only {available} available"
  | setupRecomputed layers shared =>
    s!"[TextureBudget] Recomputed setup for {layers} layers (shared capacity {shared})"
  | unknownMemoryFactor multiplier =>
    s!"[TextureBudget] Unknown GPU factor {multiplier}, using High"
  | tokenRefused => "[Auth] Request was not authorized, refreshing token"
  | fallbackAsked missing batch layer =>
    s!"[BucketFetch] {missing} of {batch} buckets missing on the tracing store, asking fallback "
      ++ s!"layer {layer}"
  | surplusBytes count => s!"[BucketFetch] Ignoring {count} trailing bytes in bucket response"
  | answerReceived bytes batch missing =>
    s!"[BucketFetch] {bytes} bytes for {batch} buckets ({missing} missing)"
  | malformedMissingHeader value =>
    s!"[BucketFetch] Ignoring malformed missing-buckets header {value}"
  | updatesSubmitted count => s!"[BucketPush] Submitting {count} bucket updates"
  | workersStarted threads => s!"[CodecPool] Started {threads} workers"
  | jobPanicked => "[CodecPool] Worker job panicked"
  | sessionOpened organization dataset layers threads =>
    s!"[Session] {organization}/{dataset}: {layers} layers, {threads} codec workers"

end Notice

/-- What probing an adapter notices: its limits, and that its textures are below the minimum. -/
def Adapter.notices (adapter : Adapter) : List Notice :=
  let limits := Limits.ofDevice adapter.limits
  .adapterProbed adapter.name adapter.backend limits ::
    (if limits.maxTextureDimension < Limits.minimum.maxTextureDimension then
      [.lowTextureDimension limits.maxTextureDimension]
    else [])

end VoxelStream
