import VoxelStream.Packing
import Mathlib.Algebra.Order.Floor.Div
import Mathlib.Tactic.Ring

/-!
# How many textures a layer needs

More required buckets need more textures, and a larger dimension needs fewer
(`texturesNeeded_mono`).  So the halves of a dimension never need fewer textures, and `shrink`
takes them only if they need no more.  The need is invariant along the halving (`need_shrink`).
Whichever dimension a plan ends at, its count is what the largest dimension needs
(`textureCount_choose`).  All comparisons of counts go through that equation, because the dimension
itself can move in either direction when the limits grow.

At dimension 4096 the exact quotient is far below both clamps.  Above the minimum limits a count is
therefore exact (`toNat_textureCount_choose`), and a plan has room for what was required
(`le_capacity_choose`).
-/

namespace VoxelStream

/-! ## Quotients rounded up -/

section

variable {a b : Nat}

/-- The quotient rounded up is the least number of parts that hold everything. -/
theorem ceilDiv_le_iff {k : Nat} (pos : 0 < b) : ceilDiv a b ≤ k ↔ a ≤ b * k :=
  ceilDiv_le_iff_le_mul pos

theorem le_mul_ceilDiv (a : Nat) (pos : 0 < b) : a ≤ b * ceilDiv a b :=
  (ceilDiv_le_iff pos).mp (Nat.le_refl _)

theorem ceilDiv_mul_lt (a : Nat) (pos : 0 < b) : ceilDiv a b * b < a + b := by
  have whole := Nat.div_mul_le_self (a + b - 1) b
  rw [ceilDiv]
  omega

/-- More to hold or smaller parts never take fewer of them. -/
theorem ceilDiv_mono {more narrow : Nat} (pos : 0 < narrow) (fewer : a ≤ more)
    (wider : narrow ≤ b) : ceilDiv a b ≤ ceilDiv more narrow := by
  rw [ceilDiv_le_iff (by omega)]
  calc
    a ≤ more := fewer
    _ ≤ narrow * ceilDiv more narrow := le_mul_ceilDiv more pos
    _ ≤ b * ceilDiv more narrow := Nat.mul_le_mul_right _ wider

end

/-! ## Voxels of one texture -/

section

variable {packing dimension : Nat}

theorem packingDegree_pos (byteCount : UInt32) (elementClass : ElementClass) :
    0 < (packingDegree byteCount elementClass).toNat := by
  rw [packingDegree]
  split
  · decide
  · split
    · decide
    · decide

/-- At most four voxels share a texel. -/
theorem packingDegree_le (byteCount : UInt32) (elementClass : ElementClass) :
    (packingDegree byteCount elementClass).toNat ≤ 4 := by
  rw [packingDegree]
  split
  · decide
  · split
    · decide
    · decide

theorem voxelsPerTexture_pos (packed : 0 < packing) (nonzero : 0 < dimension) :
    0 < voxelsPerTexture dimension packing :=
  Nat.mul_pos packed (Nat.mul_pos nonzero nonzero)

/-- Larger textures hold more. -/
theorem voxelsPerTexture_mono (packing : Nat) {small large : Nat} (larger : small ≤ large) :
    voxelsPerTexture small packing ≤ voxelsPerTexture large packing :=
  Nat.mul_le_mul_left packing (Nat.mul_le_mul larger larger)

/-- Four textures of half a dimension hold what one of the dimension holds. -/
theorem voxelsPerTexture_half (even : dimension % 2 = 0) (packing : Nat) :
    voxelsPerTexture dimension packing = 4 * voxelsPerTexture (dimension / 2) packing := by
  obtain ⟨half, rfl⟩ := Nat.dvd_of_mod_eq_zero even
  rw [Nat.mul_div_cancel_left half (by decide), voxelsPerTexture, voxelsPerTexture]
  ring

end

/-! ## The need -/

section

variable {dimension packing : Nat} {required : UInt32}

/-- A larger dimension and fewer required buckets need no more textures. -/
theorem texturesNeeded_mono (packing : Nat) {small large : Nat} {fewer more : UInt32}
    (larger : small ≤ large) (ordered : fewer ≤ more) :
    texturesNeeded large packing fewer ≤ texturesNeeded small packing more := by
  have wider := voxelsPerTexture_mono packing larger
  rw [texturesNeeded, texturesNeeded]
  split
  · rw [if_pos (by omega)]
  · split
    · exact clamp64_le _
    · exact clamp64_mono (ceilDiv_mono (by omega)
        (Nat.mul_le_mul_right _ (UInt32.le_iff_toNat_le.mp ordered)) wider)

/-- A halving that is taken leaves the need as it is, since it can only raise it. -/
theorem need_shrink (need : Nat → Nat) (halves : ∀ dimension, need dimension ≤ need (dimension / 2))
    (dimension : Nat) : need (shrink need dimension) = need dimension := by
  fun_induction shrink need dimension with
  | case1 d taken ih => exact ih.trans (Nat.le_antisymm taken.2.2 (halves d))
  | case2 d _ => rfl

/-- No dimension that halving passes changes the need. -/
theorem texturesNeeded_shrink (dimension packing : Nat) (required : UInt32) :
    texturesNeeded (shrink (texturesNeeded · packing required) dimension) packing required =
      texturesNeeded dimension packing required :=
  need_shrink (texturesNeeded · packing required)
    (fun d => texturesNeeded_mono packing (Nat.div_le_self d 2) (UInt32.le_refl required)) dimension

theorem shrink_pos {need : Nat → Nat} (nonzero : 0 < dimension) :
    0 < shrink need dimension := by
  fun_induction shrink need dimension with
  | case1 d taken ih => exact ih (by omega)
  | case2 d _ => exact nonzero

/-- Textures that hold voxels are needed as often as rounding up says, within 64 bits. -/
theorem texturesNeeded_of_pos (packed : 0 < packing) (nonzero : 0 < dimension) :
    texturesNeeded dimension packing required =
      clamp64 (ceilDiv (required.toNat * bucketVoxels) (voxelsPerTexture dimension packing)) :=
  if_neg (Nat.ne_of_gt (voxelsPerTexture_pos packed nonzero))

/-- From the minimum dimension on, the need is far below the largest 32-bit number. -/
theorem texturesNeeded_lt (required : UInt32) (packed : 0 < packing) (large : 4096 ≤ dimension) :
    texturesNeeded dimension packing required < 16777216 := by
  have square : 16777216 ≤ dimension * dimension := Nat.mul_le_mul large large
  have room : dimension * dimension ≤ voxelsPerTexture dimension packing :=
    Nat.le_mul_of_pos_left _ packed
  have few : ceilDiv (required.toNat * bucketVoxels) (voxelsPerTexture dimension packing) ≤
      8388608 := by
    have words := required.toNat_lt
    rw [ceilDiv_le_iff (by omega), bucketVoxels_eq]
    omega
  rw [texturesNeeded_of_pos packed (by omega), clamp64]
  omega

end

/-! ## Plans -/

namespace PackingPlan

variable {limits : Limits}

/-- The dimension of a plan is the hardware limit, shrunk. -/
theorem toNat_textureDimension_choose (limits : Limits) (byteCount : UInt32)
    (elementClass : ElementClass) (required : UInt32) :
    (choose limits byteCount elementClass required).textureDimension.toNat =
      shrink (texturesNeeded · (VoxelStream.packingDegree byteCount elementClass).toNat required)
        limits.maxTextureDimension.toNat := by
  have bounded := shrink_le
    (texturesNeeded · (VoxelStream.packingDegree byteCount elementClass).toNat required)
    limits.maxTextureDimension.toNat
  exact UInt32.toNat_ofNat_of_lt' (Nat.lt_of_le_of_lt bounded limits.maxTextureDimension.toNat_lt)

theorem textureDimension_choose_pos (nonzero : 0 < limits.maxTextureDimension.toNat)
    (byteCount : UInt32) (elementClass : ElementClass) (required : UInt32) :
    0 < (choose limits byteCount elementClass required).textureDimension.toNat := by
  rw [toNat_textureDimension_choose]
  exact shrink_pos nonzero

/-- The count of a plan is what textures of the largest dimension need. -/
theorem textureCount_choose (limits : Limits) (byteCount : UInt32) (elementClass : ElementClass)
    (required : UInt32) :
    (choose limits byteCount elementClass required).textureCount =
      clamp32 (texturesNeeded limits.maxTextureDimension.toNat
        (VoxelStream.packingDegree byteCount elementClass).toNat required) :=
  congrArg clamp32 (texturesNeeded_shrink _ _ required)

/-- Larger limits and fewer required buckets need no more textures. -/
theorem textureCount_choose_mono {larger : Limits} {fewer required : UInt32} (byteCount : UInt32)
    (elementClass : ElementClass)
    (dimensions : limits.maxTextureDimension ≤ larger.maxTextureDimension)
    (ordered : fewer ≤ required) :
    (choose larger byteCount elementClass fewer).textureCount.toNat ≤
      (choose limits byteCount elementClass required).textureCount.toNat := by
  have need := texturesNeeded_mono (VoxelStream.packingDegree byteCount elementClass).toNat
    (UInt32.le_iff_toNat_le.mp dimensions) ordered
  rw [textureCount_choose, textureCount_choose, toNat_clamp32, toNat_clamp32]
  omega

/-- Above the minimum dimension the count is the exact quotient for the chosen dimension. -/
theorem toNat_textureCount_choose (large : 4096 ≤ limits.maxTextureDimension.toNat)
    (byteCount : UInt32) (elementClass : ElementClass) (required : UInt32) :
    (choose limits byteCount elementClass required).textureCount.toNat =
      ceilDiv (required.toNat * bucketVoxels)
        (voxelsPerTexture (choose limits byteCount elementClass required).textureDimension.toNat
          (VoxelStream.packingDegree byteCount elementClass).toNat) := by
  have packed := packingDegree_pos byteCount elementClass
  have nonzero : 0 < shrink
      (texturesNeeded · (VoxelStream.packingDegree byteCount elementClass).toNat required)
      limits.maxTextureDimension.toNat := shrink_pos (by omega)
  have few := texturesNeeded_lt required packed large
  rw [← texturesNeeded_shrink, texturesNeeded_of_pos packed nonzero, clamp64] at few
  rw [textureCount_choose, toNat_clamp32, toNat_textureDimension_choose, ← texturesNeeded_shrink,
    texturesNeeded_of_pos packed nonzero, clamp64]
  rw [largest64, UInt64.size] at few ⊢
  rw [UInt32.size]
  omega

/-- Above the minimum dimension a plan has room for the required buckets. -/
theorem le_capacity_choose (large : 4096 ≤ limits.maxTextureDimension.toNat)
    (byteCount : UInt32) (elementClass : ElementClass) (required : UInt32) :
    required.toNat ≤ (choose limits byteCount elementClass required).capacity := by
  have nonzero := textureDimension_choose_pos (Nat.lt_of_lt_of_le (by decide) large) byteCount
    elementClass required
  have room := le_mul_ceilDiv (required.toNat * bucketVoxels)
    (voxelsPerTexture_pos (packingDegree_pos byteCount elementClass) nonzero)
  rw [← toNat_textureCount_choose large, Nat.mul_comm (voxelsPerTexture _ _)] at room
  have whole := (Nat.le_div_iff_mul_le (by decide : 0 < bucketVoxels)).mpr room
  have words := required.toNat_lt
  rw [capacity, bucketCapacity, clamp64, largest64, UInt64.size]
  exact Nat.le_min.mpr ⟨whole, by omega⟩

/-- Without required buckets there is no texture, hence no room. -/
theorem capacity_choose_zero (large : 4096 ≤ limits.maxTextureDimension.toNat)
    (byteCount : UInt32) (elementClass : ElementClass) :
    (choose limits byteCount elementClass 0).capacity = 0 := by
  have nonzero : 0 < limits.maxTextureDimension.toNat := by omega
  have count : (choose limits byteCount elementClass 0).textureCount.toNat = 0 := by
    rw [toNat_textureCount_choose large, ← Nat.le_zero, ceilDiv_le_iff
      (voxelsPerTexture_pos (packingDegree_pos byteCount elementClass)
        (textureDimension_choose_pos nonzero ..))]
    rw [UInt32.toNat_zero, Nat.zero_mul]
    exact Nat.zero_le _
  rw [capacity, bucketCapacity, count, Nat.zero_mul, Nat.zero_div]
  rfl

end PackingPlan

end VoxelStream
