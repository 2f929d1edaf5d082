import VoxelStream.Layer
import VoxelStream.Limits

/-!
# Packing voxels into textures

A layer's buckets live in square textures of one edge length, the *dimension*.  A texel has four
channels of one byte, so values of one or two bytes share a texel.  The number of values per texel
is the *packing degree*.  Float textures hold one value per channel.

`PackingPlan.choose` starts at the largest dimension that the hardware allows and halves it for as
long as the smaller textures are no more in number.  Only even dimensions are halved, so every
dimension tried is the largest one over a power of two.

The counts are exact natural numbers.  Two clamps are part of the result: a texture count is at
most `2 ^ 32 - 1` and a capacity at most `2 ^ 64 - 1`.
-/

namespace VoxelStream

/-! ## Clamps -/

/-- The largest 64-bit number. -/
def largest64 : Nat := UInt64.size - 1

/-- A count, or the largest 64-bit number if that is smaller. -/
def clamp64 (count : Nat) : Nat := min count largest64

/-- A count as a 32-bit number, or the largest one if the count exceeds it. -/
def clamp32 (count : Nat) : UInt32 := UInt32.ofNat (min count (UInt32.size - 1))

theorem clamp64_le (count : Nat) : clamp64 count ≤ largest64 := Nat.min_le_right ..

theorem clamp64_mono {a b : Nat} (a_le_b : a ≤ b) : clamp64 a ≤ clamp64 b := by
  simp only [clamp64]; omega

@[simp] theorem toNat_clamp32 (count : Nat) :
    (clamp32 count).toNat = min count (UInt32.size - 1) := by
  simp only [clamp32, UInt32.toNat_ofNat', UInt32.size]; omega

/-- The quotient rounded up. -/
def ceilDiv (a b : Nat) : Nat := (a + b - 1) / b

/-! ## Texels -/

/-- Values per texel: four of one byte, two of two bytes, four floats, else one. -/
def packingDegree (byteCount : UInt32) (elementClass : ElementClass) : UInt32 :=
  if byteCount = 1 ∨ elementClass.isFloat then 4
  else if byteCount = 2 then 2
  else 1

/-- Channels that the values of one texel take: one per float, else one per byte. -/
def channelCount (byteCount packing : UInt32) (elementClass : ElementClass) : Nat :=
  if elementClass.isFloat then byteCount.toNat / 4 * packing.toNat
  else byteCount.toNat * packing.toNat

/-- Voxels that one texture holds. -/
def voxelsPerTexture (dimension packing : Nat) : Nat := packing * (dimension * dimension)

/-- Whole buckets that `count` textures hold. -/
def bucketCapacity (count dimension packing : UInt32) : Nat :=
  clamp64 (count.toNat * voxelsPerTexture dimension.toNat packing.toNat / bucketVoxels)

/-- Textures of one dimension that the required buckets need.  Textures of dimension zero hold
nothing, so no number of them is enough. -/
def texturesNeeded (dimension packing : Nat) (required : UInt32) : Nat :=
  if voxelsPerTexture dimension packing = 0 then largest64
  else clamp64 (ceilDiv (required.toNat * bucketVoxels) (voxelsPerTexture dimension packing))

/-! ## Plans -/

/-- How the buckets of one layer are laid out in textures. -/
structure PackingPlan where
  /-- Edge of each texture. -/
  textureDimension : UInt32
  textureCount : UInt32
  /-- Values per texel. -/
  packingDegree : UInt32
deriving DecidableEq

def PackingPlan.capacity (plan : PackingPlan) : Nat :=
  bucketCapacity plan.textureCount plan.textureDimension plan.packingDegree

/-- Halves a dimension for as long as it is even and the halves need no more textures. -/
def shrink (need : Nat → Nat) (dimension : Nat) : Nat :=
  if 1 < dimension ∧ dimension % 2 = 0 ∧ need (dimension / 2) ≤ need dimension then
    shrink need (dimension / 2)
  else dimension
termination_by dimension
decreasing_by omega

/-- Shrinking never enlarges. -/
theorem shrink_le (need : Nat → Nat) (dimension : Nat) : shrink need dimension ≤ dimension := by
  fun_induction shrink need dimension with
  | case1 d _ ih => omega
  | case2 d _ => exact Nat.le_refl d

/-- The plan for values of a class that take `byteCount` bytes, with room for the required
buckets. -/
def PackingPlan.choose (limits : Limits) (byteCount : UInt32) (elementClass : ElementClass)
    (required : UInt32) : PackingPlan :=
  let packing := VoxelStream.packingDegree byteCount elementClass
  let need := fun dimension => texturesNeeded dimension packing.toNat required
  let dimension := shrink need limits.maxTextureDimension.toNat
  { textureDimension := UInt32.ofNat dimension
    textureCount := clamp32 (need dimension)
    packingDegree := packing }

def Layer.packing (layer : Layer) (limits : Limits) (required : UInt32) : PackingPlan :=
  PackingPlan.choose limits layer.byteCount layer.elementClass required

end VoxelStream
