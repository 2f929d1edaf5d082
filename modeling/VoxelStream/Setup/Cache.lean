import VoxelStream.Setup.WordHash

/-!
# The setup cache

The renderer asks for its texture setup often and with the same inputs.  The cache keeps the last
setup, together with the key, the limits and the layers it was planned for.  The required capacity
and the segmentation flag are compared through the key alone.

Setups carry the serial number of the planning that made them, so that a caller can tell whether
it got the same setup again.  A failed planning changes nothing.
-/

namespace VoxelStream

/-- A setup and the number of the planning that made it, counted from one. -/
structure PlannedSetup where
  serial : Nat
  setup : TextureSetup
deriving DecidableEq

/-- What the cache keeps of a planning. -/
structure CachedSetup where
  key : UInt64
  limits : Limits
  layers : List Layer
  planned : PlannedSetup

/-- The last setup, if any, and how often textures were planned. -/
structure SetupCache where
  entry : Option CachedSetup
  /-- Plannings that succeeded.  The count of a running cache is a word of 64 bits, which it fills
  only after 2^64 calls. -/
  recomputations : Nat

namespace SetupCache

def empty : SetupCache := ⟨none, 0⟩

/-- Whether an entry was planned for these inputs, as far as the entry tells. -/
def matches? (cached : CachedSetup) (inputs : SetupInputs) : Bool :=
  cached.key == inputs.key && cached.limits == inputs.limits && cached.layers == inputs.layers

/-- The setup kept for these inputs. -/
def find? (cache : SetupCache) (inputs : SetupInputs) : Option PlannedSetup :=
  match cache.entry with
  | some cached => if matches? cached inputs then some cached.planned else none
  | none => none

/-- The cache after a planning. -/
def store (cache : SetupCache) (inputs : SetupInputs) (setup : TextureSetup) : SetupCache :=
  { entry := some
      { key := inputs.key
        limits := inputs.limits
        layers := inputs.layers
        planned := ⟨cache.recomputations + 1, setup⟩ }
    recomputations := cache.recomputations + 1 }

/-- The setup for the inputs, from the cache or planned anew. -/
def getOrPlan (cache : SetupCache) (inputs : SetupInputs) :
    Except PlannerError PlannedSetup × SetupCache :=
  match cache.find? inputs with
  | some planned => (.ok planned, cache)
  | none =>
    match inputs.plan with
    | .error e => (.error e, cache)
    | .ok setup => (.ok ⟨cache.recomputations + 1, setup⟩, cache.store inputs setup)

/-- Forgets the kept setup.  The count stays. -/
def invalidate (cache : SetupCache) : SetupCache := { cache with entry := none }

/-- What `getOrPlan` notices: nothing if the setup is kept, else what planning notices, and that
it succeeded. -/
def notices (cache : SetupCache) (inputs : SetupInputs) : List Notice :=
  match cache.find? inputs with
  | some _ => []
  | none =>
    match inputs.plan with
    | .error _ => inputs.notices
    | .ok setup => inputs.notices ++ [.setupRecomputed inputs.layers.length setup.sharedCapacity]

end SetupCache

end VoxelStream
