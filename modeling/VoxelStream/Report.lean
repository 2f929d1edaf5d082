import VoxelStream.Config
import VoxelStream.Setup.Cache

/-!
# The texture budget report

A report shows, for a configuration and some limits, how the textures of each layer are planned,
what all layers can hold at once, and which features fit.  It lists the layers in the order of the
configuration, each with the plan of its name.
-/

namespace VoxelStream

namespace Report

/-- Columns of the layer names. -/
def nameWidth : Nat := 20

/-- A text filled up with blanks to a number of characters. -/
def padRight (width : Nat) (s : String) : String :=
  String.ofList (s.toList ++ List.replicate (width - s.toList.length) ' ')

/-- The word for a truth value. -/
def yesNo (value : Bool) : String := if value then "yes" else "no"

/-- The line of a layer and its plan. -/
def layerLine (layer : Layer) (plan : PackingPlan) : String :=
  s!"  {padRight nameWidth layer.name} {layer.elementClass.label}: {plan.textureCount} x "
    ++ s!"{plan.textureDimension}^2 (packing {plan.packingDegree}), {plan.capacity} buckets"

/-- The lines of all layers that have a plan. -/
def layerLines (layers : List Layer) (setup : TextureSetup) : List String :=
  layers.filterMap fun layer =>
    (PlanTable.plan? layer.name setup.plans).map (layerLine layer)

/-- The lines above the layers. -/
def heading (limits : Limits) : List String :=
  ["=== Texture Budget ===",
   s!"Max texture dimension: {limits.maxTextureDimension}, bound textures: "
    ++ s!"{limits.maxBoundTextures}"]

/-- The lines below the layers. -/
def summary (limits : Limits) (setup : TextureSetup) (factor : MemoryFactor) : List String :=
  [s!"Shared bucket capacity: {setup.sharedCapacity}",
   s!"Texture slots: {setup.slots} of {limits.maxBoundTextures}",
   s!"Basic rendering: {yesNo setup.features.basicRendering}, id mapping: "
    ++ s!"{yesNo setup.features.idMapping}",
   s!"GPU factor {factor.multiplier} ({factor.label}): lookup buffer {factor.lookupBufferSize}, "
    ++ s!"address space {factor.addressSpace.text}"]

/-- What textures are planned for. -/
def setupInputs (config : Config) (limits : Limits) : SetupInputs :=
  { limits := limits
    layers := config.dataset.layers
    required := config.pipeline.requiredCapacity
    hasSegmentation := config.dataset.hasSegmentation }

/-- The lines below the heading. -/
def body (config : Config) (limits : Limits) : Except PlannerError (List String) :=
  match (setupInputs config limits).plan with
  | .error e => .error e
  | .ok setup =>
    .ok (layerLines config.dataset.layers setup
      ++ summary limits setup config.pipeline.memoryFactor)

/-- Each line with its line end. -/
def textOf (lines : List String) : String := String.join (lines.map (· ++ "\n"))

/-! ## Running -/

/-- Why a report ends early. -/
inductive Error where
  | config (error : ConfigError)
  | planner (error : PlannerError)
deriving DecidableEq

def Error.message : Error → String
  | .config error => error.message
  | .planner error => error.message

/-- What comes of a report: what is printed, why it ends there if it ends early, and the notices on
the way. -/
structure Outcome where
  output : String
  error? : Option Error
  /-- Notices, oldest first. -/
  notices : List Notice

/-- The limits of the host, or those of a host without graphics. -/
def hostLimits (adapter : Option Adapter) : Limits :=
  match Limits.probe adapter with
  | .ok limits => limits
  | .error _ => .headless

/-- The report on a configuration.  The heading is printed before the textures are planned. -/
def ofConfig (config : Config) (limits : Limits) : Outcome :=
  let notices := SetupCache.empty.notices (setupInputs config limits)
  match body config limits with
  | .ok lines => ⟨textOf (heading limits ++ lines), none, notices⟩
  | .error e => ⟨textOf (heading limits), some (.planner e), notices⟩

/-- The report on what was read of a configuration, for a host with this graphics adapter.  The
adapter is looked at only if there is a configuration. -/
def ofReading (adapter : Option Adapter) (read : Except ConfigError Config × List Notice) :
    Outcome :=
  match read.1 with
  | .error e => ⟨"", some (.config e), read.2⟩
  | .ok config =>
    let outcome := ofConfig config (hostLimits adapter)
    { outcome with
      notices := read.2 ++ adapter.toList.flatMap Adapter.notices ++ outcome.notices }

/-- The exit status of the command line. -/
def Outcome.exitStatus (outcome : Outcome) : UInt32 := if outcome.error?.isSome then 1 else 0

end Report

end VoxelStream
