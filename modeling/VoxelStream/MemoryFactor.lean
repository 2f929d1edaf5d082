import VoxelStream.Notice

/-!
# Memory factors

The user picks how much graphics memory the renderer may claim.  The choice is one of four
presets, each with a multiplier.  It scales the square buffer in which bucket addresses are looked
up, and with it the volume of buckets that the buffer can address.  A multiplier that is no preset
counts as `high`, whose lookup buffer is also the one for unknown multipliers.
-/

namespace VoxelStream

/-- The presets, smallest first. -/
inductive MemoryFactor where
  | low
  | medium
  | high
  | veryHigh
deriving DecidableEq

/-- The edge of the lookup buffer for a multiplier. -/
def lookupBufferSize (multiplier : UInt32) : UInt32 :=
  if multiplier = 1 ∨ multiplier = 3 then 256
  else if multiplier = 12 then 1024
  else 512

/-- The volume of buckets that the lookup buffer for a multiplier can address.  Its size is close
to the number of entries in the buffer. -/
def addressSpace (multiplier : UInt32) : Vec3 :=
  if lookupBufferSize multiplier = 512 then ⟨61, 61, 70⟩
  else if lookupBufferSize multiplier = 1024 then ⟨96, 96, 112⟩
  else ⟨36, 36, 50⟩

namespace MemoryFactor

/-- The presets, largest first. -/
def all : List MemoryFactor := [veryHigh, high, medium, low]

/-- The preset taken where none is chosen. -/
def standard : MemoryFactor := high

def multiplier : MemoryFactor → UInt32
  | low => 1
  | medium => 3
  | high => 6
  | veryHigh => 12

def label : MemoryFactor → String
  | low => "Low"
  | medium => "Medium"
  | high => "High"
  | veryHigh => "Very High"

/-- The preset with a multiplier, if there is one. -/
def ofMultiplier? (multiplier : UInt32) : Option MemoryFactor :=
  all.find? (·.multiplier == multiplier)

/-- The preset for a multiplier.  Unknown multipliers count as `high`. -/
def ofMultiplier (multiplier : UInt32) : MemoryFactor := (ofMultiplier? multiplier).getD high

/-- A multiplier that is no preset is worth a notice. -/
def notices (multiplier : UInt32) : List Notice :=
  if (ofMultiplier? multiplier).isSome then [] else [.unknownMemoryFactor multiplier]

/-- A factor is known by its multiplier. -/
theorem ofMultiplier_multiplier (factor : MemoryFactor) :
    ofMultiplier factor.multiplier = factor := by cases factor <;> decide

/-- The edge of the lookup buffer of a preset. -/
def lookupBufferSize (factor : MemoryFactor) : UInt32 :=
  VoxelStream.lookupBufferSize factor.multiplier

/-- The volume of buckets that the lookup buffer of a preset can address. -/
def addressSpace (factor : MemoryFactor) : Vec3 := VoxelStream.addressSpace factor.multiplier

end MemoryFactor

end VoxelStream
