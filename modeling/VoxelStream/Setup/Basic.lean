import VoxelStream.Notice

/-!
# Texture setups

A *texture setup* plans the textures of all layers of a dataset together.  Its table holds one
packing plan per layer name, in the order of the names.  A later layer of the same name replaces
the plan of an earlier one.

Every layer takes one further texture slot, the lookup texture.  Id mapping takes
`mappingTextures` more.  The setup says which features fit into the slots of the hardware, and how
many buckets all layers can hold at once.

Planning fails only below the minimum limits.
-/

namespace VoxelStream

/-- Lookup textures of one layer. -/
def lookupTexturesPerLayer : Nat := 1

/-- Textures that id mapping takes: a lookup, a data and a color texture. -/
def mappingTextures : Nat := 3

/-- What textures are planned for. -/
structure SetupInputs where
  limits : Limits
  layers : List Layer
  /-- Buckets that every layer needs room for. -/
  required : UInt32
  /-- Whether there are segment ids to map. -/
  hasSegmentation : Bool
deriving DecidableEq

/-! ## Plan tables -/

/-- Plans by layer name, in the order of the names. -/
abbrev PlanTable := List (String × PackingPlan)

namespace PlanTable

/-- The table with a plan at its place, instead of an earlier plan of the same name. -/
def record (name : String) (plan : PackingPlan) : PlanTable → PlanTable
  | [] => [(name, plan)]
  | entry :: rest =>
    if name < entry.1 then (name, plan) :: entry :: rest
    else if entry.1 < name then entry :: record name plan rest
    else (name, plan) :: rest

def plan? (name : String) (table : PlanTable) : Option PackingPlan := table.lookup name

def ofLayers (limits : Limits) (required : UInt32) (layers : List Layer) : PlanTable :=
  layers.foldl (fun table layer => record layer.name (layer.packing limits required) table) []

/-- Texture slots that rendering all layers takes. -/
def slots : PlanTable → Nat
  | [] => 0
  | (_, plan) :: rest => lookupTexturesPerLayer + plan.textureCount.toNat + slots rest

/-- Buckets that every layer can hold at once.  Without layers there are none. -/
def sharedCapacity (table : PlanTable) : Nat :=
  (table.map fun entry => entry.2.capacity).min?.getD 0

end PlanTable

/-! ## Setups -/

/-- Which features fit into the texture slots of the hardware. -/
structure FeatureSupport where
  /-- All layers can be rendered. -/
  basicRendering : Bool
  /-- Segment ids can be mapped, or there are none. -/
  idMapping : Bool
deriving DecidableEq

/-- The textures of all layers, and what they allow. -/
structure TextureSetup where
  /-- One plan per layer name. -/
  plans : PlanTable
  /-- The features that fit. -/
  features : FeatureSupport
  /-- Buckets that every layer can hold at once. -/
  sharedCapacity : Nat
deriving DecidableEq

/-- Texture slots that rendering all layers takes. -/
def TextureSetup.slots (setup : TextureSetup) : Nat := setup.plans.slots

/-- The features that a table leaves room for.  Mapping matters only where there are ids. -/
def FeatureSupport.ofTable (limits : Limits) (hasSegmentation : Bool) (table : PlanTable) :
    FeatureSupport :=
  { basicRendering := table.slots ≤ limits.maxBoundTextures.toNat
    idMapping :=
      !hasSegmentation || table.slots + mappingTextures ≤ limits.maxBoundTextures.toNat }

namespace SetupInputs

def table (inputs : SetupInputs) : PlanTable :=
  PlanTable.ofLayers inputs.limits inputs.required inputs.layers

/-- The features that the plans leave room for. -/
def features (inputs : SetupInputs) : FeatureSupport :=
  FeatureSupport.ofTable inputs.limits inputs.hasSegmentation inputs.table

/-- The setup for some inputs.  Limits below the minimum are refused. -/
def plan (inputs : SetupInputs) : Except PlannerError TextureSetup :=
  match inputs.limits.validate with
  | .error e => .error e
  | .ok () =>
    .ok { plans := inputs.table
          features := inputs.features
          sharedCapacity := inputs.table.sharedCapacity }

/-- What planning notices: every layer in turn, and last that the slots are exceeded. -/
def notices (inputs : SetupInputs) : List Notice :=
  if inputs.limits.meetsMinimum then
    inputs.layers.map (fun layer =>
      let plan := layer.packing inputs.limits inputs.required
      .layerPlanned layer.elementClass
        (channelCount layer.byteCount plan.packingDegree layer.elementClass) plan)
      ++ (if inputs.features.basicRendering then []
          else [.slotsExceeded inputs.table.slots inputs.limits.maxBoundTextures])
  else []

end SetupInputs

end VoxelStream
